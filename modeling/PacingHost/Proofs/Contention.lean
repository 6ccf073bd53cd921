import PacingHost.Proofs.HostRun

/-! # Calls while others use the queue

The other end of a sound queue is in the hands of players, and of observers that kept one. They do
not wait for the host: between any two accesses of the queue by its owner they can take from it.
`Traffic` says what they do before each of these accesses, and may be any change of the queue but of
its format. `Host.performAmid` makes a call of a host amid such traffic; `Host.performAmid_quiet`
says that a call without traffic is the call itself.
-/

namespace PacingHost

/-- What others do to a queue, each time before the next access of its owner. -/
abbrev Traffic := List (Queue → Queue)

/-- A queue and what others are about to do to it. -/
structure Contended where
  queue : Queue
  traffic : Traffic

namespace Contended

/-- The queue once others had their turn. -/
def interrupted (device : Contended) : Contended where
  queue := { device.traffic.headD id device.queue with format := device.queue.format }
  traffic := device.traffic.tail

/-- Others have their turn before each access that changes the queue. Asking for the depth leaves
no trace of theirs, so `Gate.drainAmid` lets them go first. -/
instance : Device Contended where
  depth device := Device.depth device.queue
  push bytes device :=
    { device.interrupted with queue := Device.push bytes device.interrupted.queue }
  clear device := { device.interrupted with queue := Device.clear device.interrupted.queue }
  setPaused paused device :=
    { device.interrupted with queue := Device.setPaused paused device.interrupted.queue }

end Contended

/-- A call that others interrupt, and what they are still about to do after it. -/
abbrev Amid := StateT Traffic (Report Fault)

/-- Offer some bytes to a queue, while others use it. -/
def Gate.drainAmid (gate : Gate) (bytes : List UInt8) (queue : Queue) :
    Amid (Drained × Gate × Queue) := fun traffic => do
  let (outcome, gate, device) ← ExceptT.lift
    (gate.drain bytes (Contended.interrupted ⟨queue, traffic⟩))
  pure ((outcome, gate, device.queue), device.traffic)

namespace Sink

/-- Widen one burst and offer it to the queue, while others use the queue. -/
def renderAmid (sink : Sink) (burst : Burst) : Amid (Drained × Sink) := do
  let frames := burst.fitting sink.staging.capacity
  let staging := sink.staging.write burst
  if frames < burst.frames then Logged.tell (.burstTruncated frames burst.frames)
  let bytes ← Report.ofExcept (staging.front (frames * sink.format.frameSize))
  let (outcome, gate, queue) ← sink.gate.drainAmid bytes sink.queue
  pure (outcome, { queue, staging, gate })

/-- Stop playback and drop what waits, while others use the queue. -/
def resetAmid (sink : Sink) : Amid Sink := fun traffic => do
  let (gate, device) ← ExceptT.lift (sink.gate.reset (Contended.mk sink.queue traffic))
  pure ({ sink with queue := device.queue, gate }, device.traffic)

end Sink

namespace Outputs

/-- Make one call on the outputs, while others use the queue. -/
def performAmid (width height : Nat) (outputs : Outputs) : Service → Amid (List Drained × Outputs)
  | .render burst => do
    let (outcome, sink) ← outputs.sink.renderAmid burst
    pure ([outcome], { outputs with sink })
  | service => outputs.perform width height service

def performAllAmid (width height : Nat) (outputs : Outputs) :
    List Service → Amid (List Drained × Outputs)
  | [] => pure ([], outputs)
  | service :: services => do
    let (outcomes, next) ← outputs.performAmid width height service
    let (more, final) ← next.performAllAmid width height services
    pure (outcomes ++ more, final)

end Outputs

namespace Host

variable {σ : Type}

def commitSyncAmid (host : Host σ) (next : Config) : Amid (Host σ) :=
  if host.config.noSync = next.noSync then pure host else do
    Logged.tell (.syncToggled next.noSync)
    let screen ← host.screen.setSwap (.ofUnsynced next.noSync)
    let sink ← host.sink.resetAmid
    pure { host with screen, sink }

def commitPauseAmid (host : Host σ) (next : Config) : Amid (Host σ) :=
  if host.config.paused = next.paused then pure host else do
    Logged.tell (.pauseToggled next.paused)
    let sink ← host.sink.resetAmid
    pure { host with sink }

variable [Engine σ]

/-- Take over a configuration, while others use the queue. -/
def commitAmid (host : Host σ) (next : Config) : Amid (Host σ) := do
  let synced ← host.commitSyncAmid next
  let gated ← synced.commitPauseAmid next
  let framed ← gated.commitFullscreen next
  pure { framed.commitLayers next with config := next }

/-- Handle the inputs of one pass, while others use the queue. -/
def handleInputAmid (host : Host σ) (inputs : List Input) : Amid (Bool × Host σ) := do
  let dispatched ← Dispatched.dispatchAll host.bindings { config := host.config } inputs
  let goesOn ← grant dispatched.wishes
  let committed ← (host.holding inputs).commitAmid dispatched.config
  pure (goesOn, committed)

def endStepAmid (host : Host σ) : Amid (Host σ) :=
  if host.config.step then host.commitAmid host.config.afterStep else pure host

/-- Drive the engine to a target and serve what it answers, while others use the queue. -/
def servingAmid (host : Host σ) (target : Nat) : Amid (PassStats × Host σ) := do
  let drive := Engine.driveFor (some host.pad) target Engine.patience host.engine
  let (outcomes, outputs) ← host.outputs.performAllAmid (Engine.width σ) (Engine.height σ)
    (drive.answers.flatMap Answer.services)
  checkFault drive.fault
  pure (.ofServed target drive.answers outcomes,
    host.moved ((drive.answers.map Prod.snd).getLastD host.engine) outputs)

/-- Advance the engine by some milliseconds of wall time, while others use the queue. -/
def passAmid (host : Host σ) (delta : Float) : Amid (PassStats × Host σ) :=
  if host.config.paused then pure ({}, host) else do
    let span ← checkDelta delta
    let target := host.target span
    let (stats, served) ← host.servingAmid target
    let ended ← served.endStepAmid
    Logged.tell (.passDone span target stats.pictures stats.bursts)
    pure (stats, ended)

/-- One call, while others use the queue. -/
def callAmid (host : Host σ) : HostCall → Amid (HostAnswer × Host σ)
  | .pass delta => do
    let (stats, next) ← host.passAmid delta
    pure (.passed stats, next)
  | .commit config => do
    let next ← host.commitAmid config
    pure (.done, next)
  | .input inputs => do
    let (goesOn, next) ← host.handleInputAmid inputs
    pure (.handled goesOn, next)
  | call => host.perform call

/-- One call amid traffic; what others would do after it is no matter of the call. -/
def performAmid (host : Host σ) (call : HostCall × Traffic) : Report Fault (HostAnswer × Host σ) :=
  (host.callAmid call.1).run' call.2

end Host

/-! ## Without traffic -/

/-- Without traffic the call is a plain one. -/
def Amid.Quiet {α : Type} (call : Amid α) (plain : Report Fault α) : Prop :=
  call.run [] = do
    let value ← plain
    pure (value, [])

namespace Amid.Quiet

variable {α β : Type}

theorem pure (value : α) : Quiet (pure value) (pure value) := by
  rw [Quiet, StateT.run_pure, pure_bind]

theorem report (plain : Report Fault α) : Quiet plain plain := StateT.run_monadLift plain []

theorem logged (plain : Logged α) : Quiet plain (ExceptT.lift plain) := report _

theorem bind {call : Amid α} {plain : Report Fault α} {next : α → Amid β}
    {plainNext : α → Report Fault β} (first : Quiet call plain)
    (second : ∀ value, Quiet (next value) (plainNext value)) :
    Quiet (call >>= next) (plain >>= plainNext) := by
  unfold Quiet at first second ⊢
  rw [StateT.run_bind, first, bind_assoc, bind_assoc]
  simp only [pure_bind, second]

theorem logged_bind {call : Amid α} {plain : Logged α} {next : α → Amid β}
    {plainNext : α → Logged β} (first : Quiet call (ExceptT.lift plain))
    (second : ∀ value, Quiet (next value) (ExceptT.lift (plainNext value))) :
    Quiet (call >>= next) (ExceptT.lift (plain >>= plainNext)) := by
  rw [Report.lift_bind]
  exact .bind first second

end Amid.Quiet

theorem Gate.drainAmid_quiet (gate : Gate) (bytes : List UInt8) (queue : Queue) :
    Amid.Quiet (gate.drainAmid bytes queue) (ExceptT.lift (gate.drain bytes queue)) := by
  have depth : Device.depth (Contended.mk queue []) = Device.depth queue := rfl
  have alone : Contended.interrupted ⟨queue, []⟩ = Contended.mk queue [] := rfl
  unfold Amid.Quiet drainAmid
  rw [StateT.run, alone, drain, drain, depth]
  dsimp only
  split
  · rfl
  · split <;> rfl

theorem Sink.renderAmid_quiet (sink : Sink) (burst : Burst) :
    Amid.Quiet (sink.renderAmid burst) (sink.render burst) := by
  simp only [renderAmid, render]
  split
  · apply Amid.Quiet.bind (.logged _)
    intro _
    apply Amid.Quiet.bind (.report _)
    intro bytes
    apply Amid.Quiet.bind (sink.gate.drainAmid_quiet bytes sink.queue)
    intro drained
    exact .pure _
  · apply Amid.Quiet.bind (.report _)
    intro bytes
    apply Amid.Quiet.bind (sink.gate.drainAmid_quiet bytes sink.queue)
    intro drained
    exact .pure _

theorem Sink.resetAmid_quiet (sink : Sink) :
    Amid.Quiet sink.resetAmid (ExceptT.lift sink.reset) := rfl

namespace Outputs

variable (width height : Nat)

theorem performAmid_quiet (outputs : Outputs) (service : Service) :
    Amid.Quiet (outputs.performAmid width height service)
      (outputs.perform width height service) := by
  cases service with
  | upload | present => exact .report _
  | render burst =>
    apply Amid.Quiet.bind (outputs.sink.renderAmid_quiet burst)
    intro rendered
    exact .pure _

theorem performAllAmid_quiet (outputs : Outputs) (services : List Service) :
    Amid.Quiet (outputs.performAllAmid width height services)
      (outputs.performAll width height services) := by
  induction services generalizing outputs with
  | nil => exact .pure _
  | cons service services ih =>
    apply Amid.Quiet.bind (outputs.performAmid_quiet width height service)
    intro made
    apply Amid.Quiet.bind (ih made.2)
    intro more
    exact .pure _

end Outputs

namespace Host

variable {σ : Type}

theorem commitSyncAmid_quiet (host : Host σ) (next : Config) :
    Amid.Quiet (host.commitSyncAmid next) (ExceptT.lift (host.commitSync next)) := by
  simp only [commitSyncAmid, commitSync]
  split
  · exact .pure host
  · apply Amid.Quiet.logged_bind (.logged (Logged.tell (.syncToggled next.noSync)))
    intro told
    apply Amid.Quiet.logged_bind (.logged (host.screen.setSwap (.ofUnsynced next.noSync)))
    intro screen
    apply Amid.Quiet.logged_bind host.sink.resetAmid_quiet
    intro sink
    exact .pure _

theorem commitPauseAmid_quiet (host : Host σ) (next : Config) :
    Amid.Quiet (host.commitPauseAmid next) (ExceptT.lift (host.commitPause next)) := by
  simp only [commitPauseAmid, commitPause]
  split
  · exact .pure host
  · apply Amid.Quiet.logged_bind (.logged (Logged.tell (.pauseToggled next.paused)))
    intro told
    apply Amid.Quiet.logged_bind host.sink.resetAmid_quiet
    intro sink
    exact .pure _

variable [Engine σ]

theorem commitAmid_quiet (host : Host σ) (next : Config) :
    Amid.Quiet (host.commitAmid next) (ExceptT.lift (host.commit next)) := by
  apply Amid.Quiet.logged_bind (host.commitSyncAmid_quiet next)
  intro synced
  apply Amid.Quiet.logged_bind (synced.commitPauseAmid_quiet next)
  intro gated
  apply Amid.Quiet.logged_bind (.logged (gated.commitFullscreen next))
  intro framed
  exact .pure _

theorem handleInputAmid_quiet (host : Host σ) (inputs : List Input) :
    Amid.Quiet (host.handleInputAmid inputs) (ExceptT.lift (host.handleInput inputs)) := by
  apply Amid.Quiet.logged_bind (.logged _)
  intro dispatched
  apply Amid.Quiet.logged_bind (.logged (grant dispatched.wishes))
  intro goesOn
  apply Amid.Quiet.logged_bind ((host.holding inputs).commitAmid_quiet dispatched.config)
  intro committed
  exact .pure _

theorem endStepAmid_quiet (host : Host σ) :
    Amid.Quiet host.endStepAmid (ExceptT.lift host.endStep) := by
  simp only [endStepAmid, endStep]
  split
  · exact host.commitAmid_quiet _
  · exact .pure _

theorem servingAmid_quiet (host : Host σ) (target : Nat) :
    Amid.Quiet (host.servingAmid target) (host.serving Engine.patience target) := by
  rw [serving_eq]
  apply Amid.Quiet.bind (Outputs.performAllAmid_quiet ..)
  intro served
  apply Amid.Quiet.bind (.report _)
  intro _
  exact .pure _

theorem passAmid_quiet (host : Host σ) (delta : Float) :
    Amid.Quiet (host.passAmid delta) (host.pass delta) := by
  simp only [passAmid, pass, passWithin]
  split
  · exact .pure _
  · apply Amid.Quiet.bind (.logged (checkDelta delta))
    intro span
    apply Amid.Quiet.bind (host.servingAmid_quiet (host.target span))
    intro made
    apply Amid.Quiet.bind made.2.endStepAmid_quiet
    intro ended
    apply Amid.Quiet.bind (.logged _)
    intro _
    exact .pure _

theorem callAmid_quiet (host : Host σ) (call : HostCall) :
    Amid.Quiet (host.callAmid call) (host.perform call) := by
  cases call with
  | pass delta =>
    apply Amid.Quiet.bind (host.passAmid_quiet delta)
    intro ran
    exact .pure _
  | commit config =>
    apply Amid.Quiet.bind (host.commitAmid_quiet config)
    intro committed
    exact .pure _
  | input inputs =>
    apply Amid.Quiet.bind (host.handleInputAmid_quiet inputs)
    intro handled
    exact .pure _
  | bindPress | bindHold | read | consume => exact .report _

/-- With nobody else about, a call is what it is. -/
theorem performAmid_quiet (host : Host σ) (call : HostCall) :
    host.performAmid (call, []) = host.perform call := by
  have quiet := host.callAmid_quiet call
  rw [performAmid, StateT.run'_eq, quiet, map_bind]
  simp only [map_pure, bind_pure]

end Host

end PacingHost
