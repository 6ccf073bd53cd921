import PacingHost.Error
import PacingHost.Number.Word

/-! # Negotiating a format

A request names a rate and a number of frames. A queue that plays nothing itself grants every
request whose buffer can be counted in 32 bits; `negotiate_eq_ok_iff` says which those are.
-/

namespace PacingHost

/-- Samples to ask a device for: enough for the frames of all channels. -/
def Request.deviceSamples (request : Request) : Except HostError UInt32 :=
  match Word.product? request.frames stereo.toUInt32 with
  | some samples => .ok samples
  | none => .error (.setup (.tooManyFrames request.frames))

/-- The stereo format whose buffer holds that many frames. -/
def Format.stereoOf (sampleRate samples : UInt32) : Except HostError Format :=
  match Word.product? samples (UInt32.ofNat stereoFrame) with
  | some size => .ok ⟨sampleRate, stereo, size⟩
  | none => .error (.setup (.tooManySamples samples))

/-- The format granted to a request. -/
def Request.negotiate (request : Request) : Except HostError Format :=
  if request.sampleRate = 0 ∨ request.frames = 0 then
    .error (.device (.emptyRequest request))
  else do
    let samples ← request.deviceSamples
    Format.stereoOf request.sampleRate samples

theorem Request.negotiate_eq_ok_iff (request : Request) (format : Format) :
    request.negotiate = .ok format ↔
      request.sampleRate ≠ 0 ∧ request.frames ≠ 0 ∧ format.sampleRate = request.sampleRate ∧
        format.channels = stereo ∧ format.bufferSize.toNat = 8 * request.frames.toNat := by
  obtain ⟨rate, channels, size⟩ := format
  have sizeBound := size.toNat_lt
  unfold Request.negotiate
  by_cases empty : request.sampleRate = 0 ∨ request.frames = 0
  · simp only [empty, ↓reduceIte, reduceCtorEq, false_iff]
    rintro ⟨rateNonzero, framesNonzero, _⟩
    exact empty.elim rateNonzero framesNonzero
  · obtain ⟨rateNonzero, framesNonzero⟩ := not_or.mp empty
    simp only [empty, ↓reduceIte, Request.deviceSamples]
    cases doubled : Word.product? request.frames stereo.toUInt32 with
    | none =>
      have large := (Word.product?_eq_none_iff _ _).mp doubled
      simp only [Word.limit, stereo, UInt8.toNat_toUInt32, UInt8.reduceToNat] at large
      simp only [bind, Except.bind, reduceCtorEq, false_iff]
      rintro ⟨_, _, _, _, sized⟩
      omega
    | some samples =>
      have half := (Word.product?_eq_some_iff _ _ _).mp doubled
      simp only [stereo, UInt8.toNat_toUInt32, UInt8.reduceToNat] at half
      simp only [bind, Except.bind, Format.stereoOf]
      cases product : Word.product? samples (UInt32.ofNat stereoFrame) with
      | none =>
        have large := (Word.product?_eq_none_iff _ _).mp product
        simp only [Word.limit, stereoFrame_eq, UInt32.reduceOfNat, UInt32.reduceToNat] at large
        simp only [reduceCtorEq, false_iff]
        rintro ⟨_, _, _, _, sized⟩
        omega
      | some whole =>
        have full := (Word.product?_eq_some_iff _ _ _).mp product
        simp only [stereoFrame_eq, UInt32.reduceOfNat, UInt32.reduceToNat] at full
        simp only [Except.ok.injEq, Format.mk.injEq]
        constructor
        · rintro ⟨rfl, rfl, rfl⟩
          exact ⟨rateNonzero, framesNonzero, rfl, rfl, by omega⟩
        · rintro ⟨_, _, rfl, rfl, sized⟩
          exact ⟨rfl, rfl, UInt32.toNat_inj.mp (by omega)⟩

end PacingHost
