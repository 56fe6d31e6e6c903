import Grouper.Audio.Writes
import Mathlib.Data.Rat.Floor
import Mathlib.Tactic.FieldSimp

/-! The sleep behind a failed transfer, and the time that its frames would have lasted. -/

namespace Grouper.Audio

open Prog (when)

variable {ρ : Type}

/-- The microseconds both entry points compute, in 32-bit arithmetic. -/
def backOff (bytes frameSize rate : Nat) : Nat := bytes * 1000000 % 2 ^ 32 / frameSize / rate

/-- What `ret` is at the exit of an `out_write`. -/
def outWriteError (R : ResamplerLib ρ) (w : World ρ) (o : Nat) (env : OutWriteEnv) : Int :=
  let ret := ((startOutIfStandby R o env.start).exec w).1
  if ret ≠ 0 then ret else env.pcmWrite

/-- What `ret` is at the exit of an `in_read`, if that is reached. -/
def inReadError (R : ResamplerLib ρ) (w : World ρ) (i : Nat) (buffer : CallerBuffer) (bytes : Nat)
    (env : InReadEnv) : Option Int :=
  let (ret, after) := (startInIfStandby R i env.start).exec w
  if ret < 0 then some ret else ((inReadRunning R i buffer bytes env).exec after).1.2

/-- A sleep lasts as long as some frames at a rate, and is computed without a fault. -/
structure Paced (frames : ℚ) (bytes rate : Nat) (newest : Option Call) : Prop where
  divides : rate ≠ 0
  fits : bytes * 1000000 < 2 ^ 32
  sleeps : newest = some (.usleep ⌊frames * 1000000 / rate⌋)

/-- What a last incomplete frame adds does not make up another microsecond. -/
def Negligible (bytes frameSize rate : Nat) : Prop :=
  bytes / frameSize * 1000000 % rate + bytes % frameSize * 1000000 / frameSize < rate

section Arithmetic

variable {bytes frameSize rate : Nat} {newest : Option Call}

/-- The bytes whose microseconds, before they are divided, fit into 32 bits. -/
theorem product_fits_iff : bytes * 1000000 < 2 ^ 32 ↔ bytes ≤ 4294 := by omega

/-- Two divisions that both round down round down once. -/
theorem floor_frames (bytes frameSize rate : Nat) :
    ⌊(bytes / frameSize : ℚ) * 1000000 / rate⌋ = (bytes * 1000000 / frameSize / rate : Nat) := by
  -- Both divisions become one, of natural numbers.
  have joined : (bytes / frameSize : ℚ) * 1000000 / rate =
      ((bytes * 1000000 : Nat) : ℚ) / ((frameSize * rate : Nat) : ℚ) := by
    push_cast
    ring
  rw [joined, Rat.floor_natCast_div_natCast, Nat.div_div_eq_div_mul]
  norm_cast

/-- The same for a whole number of frames. -/
theorem floor_wholeFrames (frames rate : Nat) :
    ⌊(frames : ℚ) * 1000000 / rate⌋ = (frames * 1000000 / rate : Nat) := by
  -- The product is a whole number, so the floor is the division.
  have joined : (frames : ℚ) * 1000000 / rate = ((frames * 1000000 : Nat) : ℚ) / rate := by
    push_cast
    ring
  rw [joined, Rat.floor_natCast_div_natCast]
  norm_cast

/-- A summand is lost in a division, precisely when it does not fill up the remainder. -/
theorem add_div_eq_iff {a b : Nat} (positive : 0 < rate) :
    (a + b) / rate = a / rate ↔ a % rate + b < rate := by
  -- Whole multiples come out of the division, and the rest is what decides.
  have parts : a + b = a % rate + b + rate * (a / rate) := by
    have whole := Nat.div_add_mod a rate
    omega
  rw [parts, Nat.add_mul_div_left _ _ positive, ← Nat.div_eq_zero_iff_lt positive]
  omega

/-- Frames that are divided exactly are paced, precisely when nothing wraps. -/
theorem paced_iff (slept : newest = some (.usleep (backOff bytes frameSize rate))) :
    Paced (bytes / frameSize) bytes rate newest ↔ bytes ≤ 4294 ∧ rate ≠ 0 := by
  rw [← product_fits_iff]
  constructor
  · exact fun paced => ⟨paced.fits, paced.divides⟩
  · intro ⟨fits, divides⟩
    refine ⟨divides, fits, ?_⟩
    -- Without wrapping, what is computed is the duration rounded down.
    rw [slept, floor_frames, backOff, Nat.mod_eq_of_lt fits]

/-- Whole frames are paced, precisely when also the last incomplete one does not show. -/
theorem paced_whole_iff (some_ : 0 < frameSize)
    (slept : newest = some (.usleep (backOff bytes frameSize rate))) :
    Paced ((bytes / frameSize : Nat) : ℚ) bytes rate newest ↔
      (bytes ≤ 4294 ∧ rate ≠ 0) ∧ Negligible bytes frameSize rate := by
  -- Without wrapping, the quotient is that of the whole frames and of what is left.
  have parts : bytes * 1000000 / frameSize =
      bytes / frameSize * 1000000 + bytes % frameSize * 1000000 / frameSize := by
    have whole := Nat.div_add_mod bytes frameSize
    have spread : bytes * 1000000 =
        bytes % frameSize * 1000000 + frameSize * (bytes / frameSize * 1000000) := by
      rw [← Nat.mul_assoc, ← Nat.add_mul, Nat.add_comm, whole]
    rw [spread, Nat.add_mul_div_left _ _ some_, Nat.add_comm]
  rw [← product_fits_iff]
  constructor
  · intro paced
    refine ⟨⟨paced.fits, paced.divides⟩, (add_div_eq_iff (Nat.pos_of_ne_zero paced.divides)).mp ?_⟩
    -- The sleep is both what the code computes and what the frames last.
    have same := slept.symm.trans paced.sleeps
    rw [floor_wholeFrames, backOff, Nat.mod_eq_of_lt paced.fits, parts] at same
    exact Int.ofNat.inj (Call.usleep.inj (Option.some.inj same))
  · intro ⟨⟨fits, divides⟩, negligible⟩
    refine ⟨divides, fits, ?_⟩
    rw [slept, floor_wholeFrames, backOff, Nat.mod_eq_of_lt fits, parts,
      (add_div_eq_iff (Nat.pos_of_ne_zero divides)).mpr negligible]

end Arithmetic

section Sleeps

variable (R : ResamplerLib ρ) (w : World ρ)

/-- The exit of a write that failed sleeps last. -/
theorem newest_outWriteExit (o bytes : Nat) {ret : Int} (failed : ret ≠ 0) :
    ((outWriteExit o bytes ret).exec w).2.calls.head? =
      some (.usleep (backOff bytes outFrameSize outGetSampleRate)) := by
  simp [outWriteExit, failed, outWriteBackOff, backOff]

/-- A write that fails, though not for an underrun, sleeps last. -/
theorem newest_outWrite (o : Nat) (buffer : Samples) (bytes : Nat) (env : OutWriteEnv)
    (failed : outWriteError R w o env ≠ 0) (other : outWriteError R w o env ≠ -epipe) :
    ((outWrite R o buffer bytes env).exec w).2.calls.head? =
      some (.usleep (backOff bytes outFrameSize outGetSampleRate)) := by
  unfold outWriteError at failed other
  dsimp only at failed other
  by_cases started : ((startOutIfStandby R o env.start).exec w).1 = 0
  · -- The stream runs, and it is `pcm_write` that failed.
    rw [if_neg (not_not.mpr started)] at failed other
    rw [exec_outWrite_started R w o buffer bytes env (Prod.ext started rfl)]
    unfold finishWrite
    rw [Prog.exec_bind, Prog.exec_bind, if_neg other, Prog.exec_bind, Prog.exec_when,
      if_neg failed]
    exact newest_outWriteExit _ o bytes failed
  · -- The start has failed, and the write goes to its exit at once.
    rw [exec_outWrite_failed R w o buffer bytes env started]
    exact newest_outWriteExit _ o bytes started

/-- Neither starting nor capturing changes the rate that was asked for. -/
theorem requestedRate_startInIfStandby (i : Nat) (env : StartEnv) :
    (((startInIfStandby R i env).exec w).2.ins i).requestedRate = (w.ins i).requestedRate := by
  -- The start configures the PCM, not the rate that the client asked for.
  have configured := ((w.ins i).configure_spec (inScoOn w.adev)).2.2.1
  rcases startInIfStandby_cases R w env i with
    ⟨-, same⟩ | ⟨-, -, -, n, begun⟩ | ⟨-, -, -, n, failed⟩
  · rw [same]
  · rw [begun]
    exact configured
  · rw [failed]
    exact configured

/-- A read that fails sleeps last. -/
theorem newest_inRead (i : Nat) (buffer : CallerBuffer) (bytes : Nat) (env : InReadEnv) {ret : Int}
    (reached : inReadError R w i buffer bytes env = some ret) (failed : ret < 0) :
    ((inRead R i buffer bytes env).exec w).2.calls.head? =
      some (.usleep (backOff bytes inFrameSize (w.ins i).requestedRate)) := by
  unfold inReadError at reached
  have rate := requestedRate_startInIfStandby R w i env.start
  unfold inRead
  simp only [Prog.exec_bind, Prog.exec_acquire, Prog.exec_release]
  generalize (startInIfStandby R i env.start).exec w = started at reached rate ⊢
  obtain ⟨start, after⟩ := started
  dsimp only at reached rate ⊢
  -- The sleep is computed on what the transfer has left, at the rate the stream was opened for.
  have exit : ∀ (v : World ρ), (v.ins i).requestedRate = (w.ins i).requestedRate →
      ((when (Option.any (· < 0) (some ret))
        (record (.usleep (inReadBackOff (v.ins i) bytes)))).exec v).2.calls.head? =
      some (.usleep (backOff bytes inFrameSize (w.ins i).requestedRate)) := by
    intro v same
    simp [failed, inReadBackOff, inGetSampleRate, backOff, same]
  split at reached
  · -- The stream could not be started, and nothing was captured.
    rename_i unable
    rw [if_pos unable]
    obtain rfl := Option.some.inj reached
    exact exit after rate
  · rename_i able
    rw [if_neg able, reached]
    -- Capturing keeps the rate as well.
    have kept := (inFrame_inReadRunning (i := i) R buffer bytes env after).kept
    exact exit _ (kept.requestedRate.trans rate)

end Sleeps

section Pacing

/--
A transfer that fails is paced, precisely when its bytes do not wrap and its rate is not zero.

The frames may be divided exactly or be whole ones. Whole ones are paced as well, unless bytes of
an incomplete frame show.
-/
theorem paced_of_failed (R : ResamplerLib ρ) (w : World ρ) (bytes : Nat) :
    (∀ (o : Nat) (buffer : Samples) (env : OutWriteEnv),
      outWriteError R w o env ≠ 0 → outWriteError R w o env ≠ -epipe →
        let newest := ((outWrite R o buffer bytes env).exec w).2.calls.head?
        (Paced (bytes / outFrameSize) bytes outGetSampleRate newest ↔ bytes ≤ 4294) ∧
        (Paced ((bytes / outFrameSize : Nat) : ℚ) bytes outGetSampleRate newest ↔
          bytes ≤ 4294 ∧ Negligible bytes outFrameSize outGetSampleRate)) ∧
    (∀ (i : Nat) (buffer : CallerBuffer) (env : InReadEnv) (ret : Int),
      inReadError R w i buffer bytes env = some ret → ret < 0 →
        let newest := ((inRead R i buffer bytes env).exec w).2.calls.head?
        let rate := (w.ins i).requestedRate
        (Paced (bytes / inFrameSize) bytes rate newest ↔ bytes ≤ 4294 ∧ rate ≠ 0) ∧
        (Paced ((bytes / inFrameSize : Nat) : ℚ) bytes rate newest ↔
          (bytes ≤ 4294 ∧ rate ≠ 0) ∧ Negligible bytes inFrameSize rate)) := by
  -- For either direction the newest call is the sleep, and its bound is the one to ask for.
  constructor
  · intro o buffer env failed other
    have slept := newest_outWrite R w o buffer bytes env failed other
    have rate : outGetSampleRate ≠ 0 := by decide
    have exact_ := paced_iff slept
    have whole := paced_whole_iff (by decide) slept
    rw [and_iff_left rate] at exact_ whole
    exact ⟨exact_, whole⟩
  · intro i buffer env ret reached failed
    have slept := newest_inRead R w i buffer bytes env reached failed
    exact ⟨paced_iff slept, paced_whole_iff (by decide) slept⟩

/-- A write of silence that finds the PCM not ready. -/
def OutWriteEnv.unready : OutWriteEnv where
  start := { pcmIsReady := false, createResampler := true, malloc := none }
  kernelFrames := 0
  pcmGetHtimestamp _ := none
  pcmWrite := 0
  fuel := 1

/-- A period that cannot be written is slept through. -/
theorem paced_of_failed_period : ∃ w : World (Nat × Nat),
    run (step .nearest) (.initial fun _ => none) [.openOutputStream 0 true ⟨44100, 3⟩] = some w ∧
      Paced ((2048 : Nat) / (outFrameSize : Nat)) 2048 outGetSampleRate
        ((outWrite .nearest 0 (fun _ => 0) 2048 .unready).exec w).2.calls.head? := by
  -- The PCM is not ready, so the write fails; and its bytes are few enough.
  obtain ⟨w, ran, failed⟩ : ∃ w : World (Nat × Nat),
      run (step .nearest) (.initial fun _ => none) [.openOutputStream 0 true ⟨44100, 3⟩] = some w ∧
        outWriteError .nearest w 0 .unready = -enomem := ⟨_, rfl, rfl⟩
  refine ⟨w, ran, ?_⟩
  have paced := (paced_of_failed .nearest w 2048).1 0 (fun _ => 0) .unready
    (by rw [failed]; decide) (by rw [failed]; decide)
  exact paced.1.mpr (by decide)

/-- Of 24353 microseconds that 1074 frames last, 5 are slept. -/
theorem not_paced_of_wrapped : ∃ w : World (Nat × Nat),
    run (step .nearest) (.initial fun _ => none) [.openOutputStream 0 true ⟨44100, 3⟩] = some w ∧
      outWriteError .nearest w 0 .unready = -enomem ∧
      ((outWrite .nearest 0 (fun _ => 0) 4296 .unready).exec w).2.calls.head? =
        some (.usleep 5) ∧
      ⌊((4296 : Nat) / (outFrameSize : Nat) : ℚ) * 1000000 / outGetSampleRate⌋ = 24353 ∧
      ¬ Paced ((4296 : Nat) / (outFrameSize : Nat)) 4296 outGetSampleRate
        ((outWrite .nearest 0 (fun _ => 0) 4296 .unready).exec w).2.calls.head? := by
  -- The product has wrapped, so the sleep is too short.
  refine ⟨_, rfl, rfl, rfl, ?_, fun paced => absurd paced.fits (by decide)⟩
  rw [floor_frames]
  decide

end Pacing

end Grouper.Audio
