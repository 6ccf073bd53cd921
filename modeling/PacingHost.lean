import PacingHost.CommandLine.Rehearsal
import PacingHost.Engine.Script
import PacingHost.Main
import PacingHost.Proofs.QueueTake
import PacingHost.Proofs.Report
import PacingHost.Proofs.SinkRun
import PacingHost.Proofs.SinkRegular
import PacingHost.Proofs.SinkStream
import PacingHost.Proofs.SinkGate
import PacingHost.Proofs.PassAccounts
import PacingHost.Proofs.HostPause
import PacingHost.Proofs.SinkOverrun
import PacingHost.Proofs.ToneEvents
import PacingHost.Proofs.ToneChunks
import PacingHost.Proofs.Contention
import PacingHost.Proofs.Agreement
import PacingHost.Proofs.BackPressure
import PacingHost.Proofs.Watched
import PacingHost.Proofs.HostMirror
import PacingHost.Proofs.HostReturns
import PacingHost.Proofs.InputBatches
import PacingHost.Proofs.SinkDepth
import PacingHost.Proofs.SinkFormats
import PacingHost.Proofs.SettingsReturn
import PacingHost.Proofs.QueueConservation
import PacingHost.Proofs.SinkOffers
import PacingHost.Proofs.PlaybackStarts
import PacingHost.Proofs.ToneCounts
import PacingHost.Proofs.ToneSchedule
import PacingHost.Proofs.PipelineFill
import PacingHost.Proofs.HostBuild
import PacingHost.Proofs.CommitEffects
import PacingHost.Proofs.SingleStep
import PacingHost.Proofs.ToneReturns
import PacingHost.Proofs.SinkPrefilled
import PacingHost.Proofs.DispatchForm
import PacingHost.Proofs.PadLevels
import PacingHost.Proofs.SettingsOverlay
import PacingHost.Proofs.QueueReading
import PacingHost.Proofs.WideningExact
import PacingHost.Proofs.ToneSamples
import PacingHost.Proofs.ToneSilence
