import Grouper.Audio.Writes

/-! The fill of the kernel's buffer that `out_write` acts upon, and whether it is ever defined. -/

namespace Grouper.Audio

open Function (update)
open Prog (Leads when)

variable {ρ : Type}

/-- The stream a write throttles: started if it was in standby, and adapted to the buffer size. -/
def throttled (R : ResamplerLib ρ) (w : World ρ) (o : Nat) (env : OutWriteEnv) : StreamOut ρ :=
  let after := ((startOutIfStandby R o env.start).exec w).2
  (after.outs o).adaptBuffer after.adev.bufferType

/-- The current threshold moves towards the target, or stays where it is. -/
def StreamOut.Approaches (before after : StreamOut ρ) : Prop :=
  after.writeThreshold = before.writeThreshold ∧
    (before.curWriteThreshold ≤ after.curWriteThreshold ∧
        after.curWriteThreshold ≤ before.writeThreshold ∨
      before.writeThreshold ≤ after.curWriteThreshold ∧
        after.curWriteThreshold ≤ before.curWriteThreshold)

/-- A call asks for the time and the fill of a PCM. -/
def Call.asks : Call → Bool
  | pcmGetHtimestamp _ => true
  | _ => false

/-- How often the fill of a PCM was asked for. -/
def World.asked (w : World ρ) : Nat := w.made Call.asks

/-- What a write does has nothing to do with what `kernel_frames` contained before it. -/
structure FillDefined (R : ResamplerLib ρ) (w : World ρ) (o : Nat) (buffer : Samples)
    (bytes : Nat) (env : OutWriteEnv) : Prop where
  /-- Two runs that differ in that value alone end alike. -/
  same : ∀ k l, (outWrite R o buffer bytes { env with kernelFrames := k }).exec w =
    (outWrite R o buffer bytes { env with kernelFrames := l }).exec w
  /-- A timestamp that is asked for and fails only brings the threshold closer to its target. -/
  towards : ∀ k n,
    let after := ((outWrite R o buffer bytes { env with kernelFrames := k }).exec w).2
    w.asked + n < after.asked → env.pcmGetHtimestamp n = none →
      (throttled R w o env).Approaches (after.outs o)

/--
The write does not get to the uninitialised value.

It fails to start its stream, does not throttle on SCO, or stores a fill before it reads one.
Otherwise the current threshold must be on its way to the target, where no fill is compared.
-/
def FillKnown (w : World ρ) (o : Nat) (env : OutWriteEnv) : Prop :=
  let out := w.outs o
  let periods := if w.adev.bufferType = .long then outLongPeriodCount else outShortPeriodCount
  (out.standby = true ∧ env.start.pcmIsReady = false) ∨
    outScoOn w.adev = true ∨
    (env.pcmGetHtimestamp 0).isSome ∨
    (out.standby = false ∧ out.bufferType ≠ .unknown ∧
      out.curWriteThreshold ≠ if out.bufferType = w.adev.bufferType then out.writeThreshold
        else (out.config.periodSize * periods : Nat))

section Asked

variable (w : World ρ)

/-- A call asks for the kernel fill or does not. -/
theorem asked_record (call : Call) :
    ((record call).exec w).2.asked = w.asked + if call.asks then 1 else 0 := made_record w call

/-- Starting asks whether the PCM is ready, but not how full it is. -/
theorem asked_startOutIfStandby (R : ResamplerLib ρ) (o : Nat) (env : StartEnv) :
    ((startOutIfStandby R o env).exec w).2.asked = w.asked := by
  -- Starting manages the PCM, and none of the calls for that asks how full it is.
  have apart : ∀ call : Call, call.managesPcm = true → call.asks = false := by
    intro call manages
    cases call <;> first | rfl | cases manages
  exact unmade_startOutIfStandby w apart R o env

/-- The conversion does not ask for it. -/
theorem asked_convert (R : ResamplerLib ρ) (o : Nat) (buffer : Samples) (inFrames : Nat) :
    ((convert R o buffer inFrames).exec w).2.asked = w.asked := by
  -- The conversion makes no call but the one for a missing resampler or buffer.
  suffices unasked : Leads (Unmade Call.asks) (convert R o buffer inFrames) w from unasked
  refine .bind (Std.Refl.refl w) ?_
  refine .ite (fun _ => ?_) fun _ => .pure _
  split
  · exact .bind (unmade_modifyOut _ o _) (.pure _)
  · exact .bind (unmade_record _ _ rfl) (.pure _)

/-- Nor does the end of a write. -/
theorem asked_finishWrite (o bytes : Nat) (frames : OutFrames) (result : Int) :
    ((finishWrite o bytes frames result).exec w).2.asked = w.asked :=
  unmade_finishWrite w o bytes frames result (fun _ _ _ => rfl) fun _ => rfl

end Asked

section Level

/-- Two streams throttle alike: they agree on the thresholds and on the configuration. -/
structure StreamOut.Level (a b : StreamOut ρ) : Prop where
  current : b.curWriteThreshold = a.curWriteThreshold
  target : b.writeThreshold = a.writeThreshold
  pcmConfig : b.pcmConfig = a.pcmConfig

/-- Where the current threshold moves. -/
def nextThreshold (current target : Int) (periodSize : Nat) (kernelFrames : Int) : Int :=
  let step : Int := periodSize / 4
  -- From above and from below the threshold moves a quarter of a period, and stops on target.
  if current > target then
    if int32 (current - step) < target then target else int32 (current - step)
  else if current < target then
    if int32 (current + step) > target then target else int32 (current + step)
  -- On target it is moved only if the kernel has run dry by more than the short buffer.
  else if kernelFrames < target ∧
      int32 (target - kernelFrames) > int32 (periodSize * outShortPeriodCount : Nat) then
    int32 (int32 (((kernelFrames % 2 ^ 32).toNat / periodSize + 1) * periodSize : Nat) + step)
  else current

/-- The current threshold is all that moves, and it moves by the thresholds and the period. -/
theorem StreamOut.moveThreshold_eq (out : StreamOut ρ) (kernelFrames : Int) :
    out.moveThreshold kernelFrames = { out with
      curWriteThreshold := nextThreshold out.curWriteThreshold out.writeThreshold
        out.config.periodSize kernelFrames } := by
  unfold StreamOut.moveThreshold nextThreshold
  dsimp only
  -- Each branch of the one is the branch of the other.
  split
  · rfl
  · split
    · rfl
    · split <;> rfl

/-- Streams on a level stay so when the same fill moves their thresholds. -/
theorem StreamOut.Level.moveThreshold {a b : StreamOut ρ} (level : a.Level b) (k : Int) :
    (a.moveThreshold k).Level (b.moveThreshold k) := by
  -- The new threshold is computed from what the two streams agree on, and from the fill.
  have config : b.config = a.config := by rw [StreamOut.config, level.pcmConfig]; rfl
  rw [a.moveThreshold_eq, b.moveThreshold_eq, level.current, level.target, config]
  exact ⟨rfl, rfl, level.pcmConfig⟩

/-- A stream throttles before and after as it did before. -/
def LevelAt (o : Nat) (before after : World ρ) : Prop := (before.outs o).Level (after.outs o)

instance (o : Nat) : Std.Refl (LevelAt (ρ := ρ) o) where
  refl _ := ⟨rfl, rfl, rfl⟩

instance (o : Nat) : IsTrans (World ρ) (LevelAt o) where
  trans _ _ _ one two := ⟨two.current.trans one.current, two.target.trans one.target,
    two.pcmConfig.trans one.pcmConfig⟩

variable (R : ResamplerLib ρ) (w : World ρ)

/-- A change that keeps the level of its stream keeps it in the world. -/
theorem levelAt_modifyOut (o : Nat) (change : StreamOut ρ → StreamOut ρ)
    (level : (w.outs o).Level (change (w.outs o))) : Leads (LevelAt o) (modifyOut o change) w := by
  -- No other stream is looked at.
  unfold Leads LevelAt
  rw [outs_modifyOut]
  exact level

/-- A call keeps the level of every stream. -/
theorem levelAt_record (o : Nat) (call : Call) : Leads (LevelAt o) (record call) w :=
  Std.Refl.refl (r := LevelAt o) w

/-- The conversion works on the resampler and its buffer. -/
theorem levelAt_convert (o : Nat) (buffer : Samples) (inFrames : Nat) :
    Leads (LevelAt o) (convert R o buffer inFrames) w := by
  -- Only the frames of the conversion are stored in the stream.
  refine .bind (Std.Refl.refl w) ?_
  refine .ite (fun _ => ?_) fun _ => .pure _
  split
  · exact .bind (levelAt_modifyOut _ o _ ⟨rfl, rfl, rfl⟩) (.pure _)
  · exact .bind (levelAt_record _ o _) (.pure _)

/-- Finishing a write counts frames, and leaves the thresholds alone. -/
theorem levelAt_finishWrite (o bytes : Nat) (frames : OutFrames) (result : Int) :
    Leads (LevelAt o) (finishWrite o bytes frames result) w := by
  -- What is counted at the end is the frames written.
  refine .bind (Std.Refl.refl w) ?_
  refine .bind (levelAt_record _ o _) ?_
  refine .ite (fun _ => ?_) fun _ => ?_
  · exact .bind (.release _) (.pure _)
  · refine .bind (.when fun _ => levelAt_modifyOut _ o _ ⟨rfl, rfl, rfl⟩) ?_
    refine .bind (.release _) ?_
    exact .bind (.when fun _ => levelAt_record _ o _) (.pure _)

end Level

section Throttle

variable (o : Nat) (htimestamp : Nat → Option Nat)

/-- A round with a timestamp is the last one, or has found the kernel too full. -/
theorem throttle_round (fuel round : Nat) (kernelFrames total : Int) (w : World ρ) (avail : Nat)
    (stamped : htimestamp round = some avail) :
    ∃ (fill : Int) (later : World ρ),
      ((throttle o htimestamp (fuel + 1) round kernelFrames total).exec w = (fill, later) ∨
        (w.outs o).curWriteThreshold < fill ∧ ∃ slept,
          (throttle o htimestamp (fuel + 1) round kernelFrames total).exec w =
            (throttle o htimestamp fuel (round + 1) fill slept).exec later) ∧
      later.outs = w.outs ∧ later.asked = w.asked + 1 := by
  -- The round reads the threshold, asks for the fill, and then decides whether to sleep.
  rw [throttle, exec_getOut_bind, Prog.exec_bind, stamped]
  dsimp only
  rw [Prog.exec_bind, Prog.exec_ite]
  -- The kernel is full enough to wait for, and there is time left to wait.
  split
  · rename_i above
    rw [Prog.exec_ite]
    split
    · exact ⟨_, _, Or.inl rfl, rfl, by rw [asked_record, asked_record]; rfl⟩
    · rw [Prog.exec_bind, Prog.exec_ite]
      split
      · refine ⟨_, _, Or.inr ⟨above, _, rfl⟩, rfl, ?_⟩
        rw [asked_record, asked_record, asked_record]
        rfl
      · refine ⟨_, _, Or.inl rfl, rfl, ?_⟩
        rw [asked_record, asked_record, asked_record]
        rfl
  · exact ⟨_, _, Or.inl rfl, rfl, by rw [asked_record, asked_record]; rfl⟩

/-- A round whose timestamp fails ends the throttling with the fill it was given. -/
theorem throttle_unstamped (fuel round : Nat) (kernelFrames total : Int) (w : World ρ)
    (failed : htimestamp round = none) :
    (throttle o htimestamp (fuel + 1) round kernelFrames total).exec w =
      (kernelFrames, { w with calls := .pcmGetHtimestamp (w.outs o).pcm :: w.calls }) := by
  -- Without a timestamp nothing is stored, and the loop is left at once.
  unfold throttle
  rw [exec_getOut_bind, Prog.exec_bind, failed]
  rfl

/-- With a first timestamp, the initial value of the fill is overwritten before it is read. -/
theorem throttle_stamped (fuel round : Nat) (k l total : Int) (w : World ρ) (avail : Nat)
    (stamped : htimestamp round = some avail) :
    (throttle o htimestamp (fuel + 1) round k total).exec w =
      (throttle o htimestamp (fuel + 1) round l total).exec w := by
  -- Both loops store the same fill before they look at it.
  unfold throttle
  rw [exec_getOut_bind, Prog.exec_bind, exec_getOut_bind, Prog.exec_bind, stamped]

/-- A loop left by a failed timestamp leaves a fill above the threshold, or the initial one. -/
theorem throttle_failed (fuel : Nat) :
    ∀ (round : Nat) (kernelFrames total : Int) (w : World ρ) (n : Nat),
      let left := (throttle o htimestamp fuel round kernelFrames total).exec w
      w.asked + n < left.2.asked → htimestamp (round + n) = none →
        (htimestamp round = none ∧ left.1 = kernelFrames) ∨
          (w.outs o).curWriteThreshold < left.1 := by
  -- The loop goes on only with a fill above the threshold, so that is what a later failure finds.
  induction fuel with
  | zero =>
    intro round kernelFrames total w n left asked _
    have never : w.asked + n < w.asked := asked
    omega
  | succ fuel ih =>
    intro round kernelFrames total w n
    dsimp only
    cases first : htimestamp round with
    | none =>
      -- The first failure leaves the loop with the value it was entered with.
      rw [throttle_unstamped o htimestamp fuel round kernelFrames total w first]
      exact fun _ _ => Or.inl ⟨rfl, rfl⟩
    | some avail =>
      obtain ⟨fill, later, last | ⟨above, slept, goesOn⟩, outs, count⟩ :=
        throttle_round o htimestamp fuel round kernelFrames total w avail first
      · -- The only timestamp of the round did not fail.
        rw [last]
        intro asked failed
        dsimp only at asked
        obtain rfl : n = 0 := by omega
        rw [Nat.add_zero, first] at failed
        cases failed
      · -- A later failure comes after a round that found the kernel too full.
        rw [goesOn]
        intro asked failed
        refine Or.inr ?_
        cases n with
        | zero =>
          rw [Nat.add_zero, first] at failed
          cases failed
        | succ n =>
          have onward : htimestamp (round + 1 + n) = none := by
            rw [← failed]
            congr 1
            omega
          rcases ih (round + 1) fill slept later n (by omega) onward with ⟨_, same⟩ | higher
          · -- It was the first one after that round, so its fill is what is left.
            rw [same]
            exact above
          · rw [outs] at higher
            exact higher

end Throttle

section Write

variable (R : ResamplerLib ρ) (w : World ρ) (o : Nat) (buffer : Samples) (bytes : Nat)
  (env : OutWriteEnv)

/-- The conversion as it runs once the stream is adapted to the buffer size. -/
def converted (bufferType : OutBufferType) : OutFrames × World ρ :=
  (convert R o buffer (bytes / outFrameSize)).exec
    ((modifyOut o fun out => out.adaptBuffer bufferType).exec w).2

/-- The loop is entered with the thresholds of the adapted stream. -/
theorem level_converted (bufferType : OutBufferType) :
    ((w.outs o).adaptBuffer bufferType).Level
      ((converted R w o buffer bytes bufferType).2.outs o) := by
  -- The conversion comes behind the choice of the buffer type and keeps the level.
  have level := levelAt_convert R ((modifyOut o fun out => out.adaptBuffer bufferType).exec w).2 o
    buffer (bytes / outFrameSize)
  unfold Leads LevelAt at level
  rwa [outs_modifyOut] at level

/-- Off the SCO route, the threshold is moved by the fill the loop was left with. -/
theorem exec_prepareWrite_throttled (bufferType : OutBufferType) :
    let before := converted R w o buffer bytes bufferType
    let left := (throttle o env.pcmGetHtimestamp env.fuel 0 env.kernelFrames 0).exec before.2
    (prepareWrite R o buffer bytes env bufferType false).exec w =
      (before.1, ((modifyOut o fun out => out.moveThreshold left.1).exec left.2).2) := by
  unfold prepareWrite
  -- With SCO off, both of the conditional parts of the function run.
  rw [Prog.exec_bind, Prog.exec_bind, Prog.exec_bind, Prog.exec_pure, Prog.exec_when,
    Prog.exec_when, if_pos rfl, if_pos rfl, Prog.exec_bind]
  rfl

/-- What the throttling loop on a running stream leaves behind. -/
def fillLeft (bufferType : OutBufferType) : Int × World ρ :=
  (throttle o env.pcmGetHtimestamp env.fuel 0 env.kernelFrames 0).exec
    (converted R w o buffer bytes bufferType).2

/-- Past the loop the threshold is moved, and the rest of the write leaves it where it is. -/
theorem level_moved (kernelFrames : Int) (frames : OutFrames) :
    let moved := ((modifyOut o fun out => out.moveThreshold kernelFrames).exec w).2
    let final := ((finishWrite o bytes frames env.pcmWrite).exec moved).2
    ((w.outs o).moveThreshold kernelFrames).Level (final.outs o) ∧ final.asked = w.asked := by
  -- The end of a write comes behind the move of the threshold and keeps the level.
  have level := levelAt_finishWrite
    ((modifyOut o fun out => out.moveThreshold kernelFrames).exec w).2 o bytes frames env.pcmWrite
  unfold Leads LevelAt at level
  rw [outs_modifyOut] at level
  exact ⟨level, asked_finishWrite _ o bytes frames env.pcmWrite⟩

/-- A write that throttles moves the threshold by the fill, and nothing else moves it. -/
theorem exec_outWrite_throttled {after : World ρ}
    (started : (startOutIfStandby R o env.start).exec w = (0, after))
    (main : outScoOn after.adev = false) :
    let before := throttled R w o env
    let looped := fillLeft R after o buffer bytes env after.adev.bufferType
    let final := ((outWrite R o buffer bytes env).exec w).2
    (final.outs o).curWriteThreshold = nextThreshold before.curWriteThreshold
        before.writeThreshold before.config.periodSize looped.1 ∧
      (final.outs o).writeThreshold = before.writeThreshold ∧ final.asked = looped.2.asked := by
  dsimp only
  have before : throttled R w o env = (after.outs o).adaptBuffer after.adev.bufferType := by
    rw [throttled, started]
  rw [exec_outWrite_started R w o buffer bytes env started, main, exec_prepareWrite_throttled,
    before]
  -- The loop changes no stream, so it is left with the thresholds it was entered with.
  have outs : (fillLeft R after o buffer bytes env after.adev.bufferType).2.outs =
      (converted R after o buffer bytes after.adev.bufferType).2.outs := outs_throttle ..
  have entered := (level_converted R after o buffer bytes after.adev.bufferType).moveThreshold
    (fillLeft R after o buffer bytes env after.adev.bufferType).1
  obtain ⟨level, asked⟩ := level_moved
    (fillLeft R after o buffer bytes env after.adev.bufferType).2 o bytes env
    (fillLeft R after o buffer bytes env after.adev.bufferType).1
    (converted R after o buffer bytes after.adev.bufferType).1
  rw [outs] at level
  rw [StreamOut.moveThreshold_eq] at entered
  exact ⟨level.current.trans entered.current, level.target.trans entered.target, asked⟩

end Write

section Moves

variable {current target : Int} {periodSize : Nat}

/-- Away from the target the fill is not compared. -/
theorem nextThreshold_of_ne (apart : current ≠ target) (k l : Int) :
    nextThreshold current target periodSize k = nextThreshold current target periodSize l := by
  -- Away from the target the direction is all that counts.
  unfold nextThreshold
  dsimp only
  rcases Int.lt_or_gt_of_ne apart with below | above
  · rw [if_neg (Int.not_lt.mpr (Int.le_of_lt below)), if_pos below,
      if_neg (Int.not_lt.mpr (Int.le_of_lt below)), if_pos below]
  · rw [if_pos above, if_pos above]

/-- A number that fits into an `int` is kept by the conversion to one. -/
theorem int32_of_isInt32 {value : Int} (fits : IsInt32 value) : int32 value = value := by
  unfold IsInt32 at fits
  exact Int.bmod_eq_of_le (by omega) (by omega)

/-- A fill above a current threshold on target is no reason to move it. -/
theorem nextThreshold_approaches {k : Int} (fits : IsInt32 current) (low : 512 ≤ target)
    (high : target ≤ 4096) (small : periodSize ≤ 512) (free : current ≠ target ∨ current < k) :
    current ≤ nextThreshold current target periodSize k ∧
        nextThreshold current target periodSize k ≤ target ∨
      target ≤ nextThreshold current target periodSize k ∧
        nextThreshold current target periodSize k ≤ current := by
  unfold IsInt32 at fits
  have step : 0 ≤ (periodSize : Int) / 4 ∧ (periodSize : Int) / 4 ≤ 128 := by omega
  unfold nextThreshold
  dsimp only
  generalize (periodSize : Int) / 4 = quarter at step
  rcases Int.lt_trichotomy current target with below | same | above
  · -- From below, a quarter of a period is added, but not beyond the target.
    have exact_ : int32 (current + quarter) = current + quarter :=
      int32_of_isInt32 ⟨by omega, by omega⟩
    rw [if_neg (by omega), if_pos below, exact_]
    split <;> omega
  · -- On target, a kernel that is full enough is no reason to go anywhere.
    have full : ¬ k < target := by omega
    rw [if_neg (by omega), if_neg (by omega), if_neg fun low => full low.1]
    omega
  · -- From above, a quarter of a period is taken off, but not below the target.
    have exact_ : int32 (current - quarter) = current - quarter :=
      int32_of_isInt32 ⟨by omega, by omega⟩
    rw [if_pos above, exact_]
    split <;> omega

/-- On target, a full kernel leaves the threshold there. -/
theorem nextThreshold_full : nextThreshold target target periodSize target = target := by
  -- Neither below nor above the target, and the buffer is not low.
  unfold nextThreshold
  dsimp only
  rw [if_neg (Int.lt_irrefl _), if_neg (Int.lt_irrefl _), if_neg fun low => Int.lt_irrefl _ low.1]

/-- A fill of minus one wraps around to no periods at all, which leaves a quarter of one. -/
theorem nextThreshold_wraps (period : periodSize = 256 ∨ periodSize = 512)
    (low : 2 * (periodSize : Int) ≤ target) (high : target ≤ 4096) :
    nextThreshold target target periodSize (-1) = periodSize / 4 := by
  have exact_ : int32 (target - -1) = target + 1 := int32_of_isInt32 ⟨by omega, by omega⟩
  unfold nextThreshold
  dsimp only
  -- The gap is larger than the short buffer, so the threshold is computed from the fill.
  rw [if_neg (Int.lt_irrefl _), if_neg (Int.lt_irrefl _), exact_]
  rcases period with rfl | rfl
  · rw [if_pos ⟨by omega, lt_of_eq_of_lt (show _ = (512 : Int) by decide) (by omega)⟩]
    decide
  · rw [if_pos ⟨by omega, lt_of_eq_of_lt (show _ = (1024 : Int) by decide) (by omega)⟩]
    decide

end Moves

section Exact

/-- The device asks for a short or a long buffer. -/
theorem AudioDevice.bufferType_ne_unknown (adev : AudioDevice) : adev.bufferType ≠ .unknown := by
  unfold AudioDevice.bufferType
  split <;> decide

/-- After adapting, the current threshold is off target if it was and was set before. -/
theorem StreamOut.off_target_adaptBuffer (out : StreamOut ρ) {wanted : OutBufferType}
    (which : out.config = pcmConfigOut ∨ out.config = pcmConfigSco) (known : wanted ≠ .unknown) :
    (out.adaptBuffer wanted).curWriteThreshold ≠ (out.adaptBuffer wanted).writeThreshold ↔
      out.bufferType ≠ .unknown ∧
        out.curWriteThreshold ≠ if out.bufferType = wanted then out.writeThreshold
          else (out.config.periodSize *
            (if wanted = .long then outLongPeriodCount else outShortPeriodCount) : Nat) := by
  -- The new target fits a 32-bit number whichever the configuration.
  have exact_ : int32 (out.config.periodSize *
      (if wanted = .long then outLongPeriodCount else outShortPeriodCount) : Nat) =
        (out.config.periodSize *
          (if wanted = .long then outLongPeriodCount else outShortPeriodCount) : Nat) := by
    rcases which with main | sco
    · rw [main]
      cases wanted <;> decide
    · rw [sco]
      cases wanted <;> decide
  unfold StreamOut.adaptBuffer
  dsimp only
  by_cases same : out.bufferType = wanted
  · -- A buffer size that stays leaves both thresholds alone.
    rw [if_neg (not_not.mpr same.symm), if_pos same]
    exact ⟨fun apart => ⟨same ▸ known, apart⟩, fun both => both.2⟩
  · -- A new buffer size sets the target, and an unset threshold along with it.
    rw [if_pos (Ne.symm same), if_neg same, exact_]
    dsimp only
    by_cases unset : out.bufferType = .unknown
    · rw [if_pos unset]
      exact ⟨fun apart => absurd rfl apart, fun both => absurd unset both.1⟩
    · rw [if_neg unset]
      exact ⟨fun apart => ⟨unset, apart⟩, fun both => both.2⟩

variable (R : ResamplerLib ρ) (w : World ρ) (o : Nat) (env : OutWriteEnv)

/-- Whether the fill is known, once it is known how the start of the write came out. -/
theorem fillKnown_cases (fit : w.Fit) :
    (((startOutIfStandby R o env.start).exec w).1 ≠ 0 ∧ FillKnown w o env) ∨
      ∃ after, (startOutIfStandby R o env.start).exec w = (0, after) ∧
        ((after.outs o).Fit ∧ (after.outs o).standby = false) ∧
        ((outScoOn after.adev = true ∧ FillKnown w o env) ∨
          (outScoOn after.adev = false ∧ (FillKnown w o env ↔
            (env.pcmGetHtimestamp 0).isSome ∨ (throttled R w o env).curWriteThreshold ≠
              (throttled R w o env).writeThreshold))) := by
  have started := fit_startOutIfStandby R w o env.start (fit.outs o)
  rcases startOutIfStandby_cases R w env.start o with
    ⟨running, same⟩ | ⟨resting, ready, ret, route, n, own⟩ | ⟨resting, failed, ret, _⟩
  · -- The stream is running, so the thresholds are those from before the write.
    rw [same] at started
    refine Or.inr ⟨w, same, ⟨started.1, running⟩, ?_⟩
    cases sco : outScoOn w.adev with
    | true => exact Or.inl ⟨rfl, Or.inr (Or.inl sco)⟩
    | false =>
      refine Or.inr ⟨rfl, ?_⟩
      have off := (w.outs o).off_target_adaptBuffer ((fit.outs o).config running)
        w.adev.bufferType_ne_unknown
      rw [throttled, same, off]
      constructor
      · rintro (⟨resting, _⟩ | onSco | stamped | ⟨_, apart⟩)
        · exact absurd (resting.symm.trans running) (by decide)
        · exact absurd (onSco.symm.trans sco) (by decide)
        · exact Or.inl stamped
        · exact Or.inr apart
      · rintro (stamped | apart)
        · exact Or.inr (Or.inr (Or.inl stamped))
        · exact Or.inr (Or.inr (Or.inr ⟨running, apart⟩))
  · -- A stream that has just started on the main PCM is set to its target.
    generalize result : (startOutIfStandby R o env.start).exec w = begun at started ret route own
    obtain ⟨ret', after⟩ := begun
    obtain rfl : ret' = 0 := ret
    refine Or.inr ⟨after, rfl, ⟨started.1, started.2 rfl⟩, ?_⟩
    have same : outScoOn after.adev = outScoOn w.adev := by
      unfold outScoOn
      rw [route]
    rw [same]
    cases sco : outScoOn w.adev with
    | true => exact Or.inl ⟨rfl, Or.inr (Or.inl sco)⟩
    | false =>
      refine Or.inr ⟨rfl, ?_⟩
      have unset : (after.outs o).bufferType = .unknown := by
        dsimp only at own
        rw [own, sco]
        exact (StreamOut.threshold_begun _ R env.start _).1
      have off := (after.outs o).off_target_adaptBuffer (started.1.config (started.2 rfl))
        after.adev.bufferType_ne_unknown
      rw [throttled, result, off]
      constructor
      · rintro (⟨_, failed⟩ | onSco | stamped | ⟨running, _⟩)
        · exact absurd (failed.symm.trans ready) (by decide)
        · exact absurd (onSco.symm.trans sco) (by decide)
        · exact Or.inl stamped
        · exact absurd (resting.symm.trans running) (by decide)
      · rintro (stamped | apart)
        · exact Or.inr (Or.inr (Or.inl stamped))
        · exact absurd unset apart.1
  · -- A stream that could not be started is not throttled at all.
    refine Or.inl ⟨?_, Or.inl ⟨resting, failed⟩⟩
    rw [ret]
    decide

/-- A stream has the buffer type asked for afterwards. -/
theorem StreamOut.bufferType_adaptBuffer (out : StreamOut ρ) (wanted : OutBufferType) :
    (out.adaptBuffer wanted).bufferType = wanted := by
  unfold StreamOut.adaptBuffer
  -- Either the buffer size is the one wanted already, or it is set.
  split
  · rfl
  · rename_i same
    exact (not_not.mp same).symm

variable {R w o env}

/-- The stream a write throttles has a target of at least two of its periods. -/
theorem throttled_bounds {after : World ρ}
    (started : (startOutIfStandby R o env.start).exec w = (0, after))
    (fit : (after.outs o).Fit) (running : (after.outs o).standby = false) :
    let before := throttled R w o env
    (before.config.periodSize = 256 ∨ before.config.periodSize = 512) ∧
      IsInt32 before.curWriteThreshold ∧ (512 : Int) ≤ before.writeThreshold ∧
      2 * (before.config.periodSize : Int) ≤ before.writeThreshold ∧
      before.writeThreshold ≤ 4096 := by
  dsimp only
  rw [throttled, started]
  dsimp only
  have adapted := fit.adaptBuffer running after.adev.bufferType
  have still : ((after.outs o).adaptBuffer after.adev.bufferType).standby = false :=
    (StreamOut.kept_adaptBuffer _ _).standby.trans running
  have known : ((after.outs o).adaptBuffer after.adev.bufferType).bufferType ≠ .unknown := by
    rw [StreamOut.bufferType_adaptBuffer]
    exact after.adev.bufferType_ne_unknown
  -- The thresholds of a fit stream are bounded once its buffer size is known.
  refine ⟨?_, adapted.current, adapted.threshold known⟩
  rcases adapted.config still with main | sco
  · exact Or.inr (by rw [main]; rfl)
  · exact Or.inl (by rw [sco]; rfl)

/-- A write that does not get to the loop asks for no fill, and ends alike whatever it was. -/
theorem fillDefined_of_unasked (buffer : Samples) (bytes : Nat) (result : Int × World ρ)
    (ends : ∀ k, (outWrite R o buffer bytes { env with kernelFrames := k }).exec w = result)
    (unasked : result.2.asked = w.asked) : FillDefined R w o buffer bytes env := by
  -- Both runs end in the one result, in which nothing more was asked for.
  refine ⟨fun k l => (ends k).trans (ends l).symm, fun k n => ?_⟩
  dsimp only
  rw [ends k, unasked]
  intro asked _
  omega

/-- Where the loop leads to does not depend on a fill that is stored over or not compared. -/
theorem moved_same (v : World ρ) (entered : 0 < env.fuel)
    (free : (env.pcmGetHtimestamp 0).isSome ∨
      (v.outs o).curWriteThreshold ≠ (v.outs o).writeThreshold) (k l : Int) :
    let left := fun k => (throttle o env.pcmGetHtimestamp env.fuel 0 k 0).exec v
    ((modifyOut o fun out => out.moveThreshold (left k).1).exec (left k).2).2 =
      ((modifyOut o fun out => out.moveThreshold (left l).1).exec (left l).2).2 := by
  dsimp only
  obtain ⟨fuel, enough⟩ : ∃ fuel, env.fuel = fuel + 1 := ⟨env.fuel - 1, by omega⟩
  rw [enough]
  cases first : env.pcmGetHtimestamp 0 with
  -- The first timestamp overwrites the fill.
  | some avail => rw [throttle_stamped o env.pcmGetHtimestamp fuel 0 k l 0 v avail first]
  | none =>
    -- The fill stays, and is not compared off the target.
    have apart : (v.outs o).curWriteThreshold ≠ (v.outs o).writeThreshold :=
      free.resolve_left (by rw [first]; decide)
    rw [throttle_unstamped _ _ _ _ _ _ _ first, throttle_unstamped _ _ _ _ _ _ _ first]
    simp only [exec_modifyOut, StreamOut.moveThreshold_eq, nextThreshold_of_ne apart k l]

/-- The write of a fit stream ends alike whatever the fill was, if it is known not to matter. -/
theorem fillDefined_of_known (buffer : Samples) (bytes : Nat) (entered : 0 < env.fuel)
    (fit : w.Fit) (known : FillKnown w o env) : FillDefined R w o buffer bytes env := by
  rcases fillKnown_cases R w o env fit with
    ⟨failed, _⟩ | ⟨after, started, ⟨own, running⟩, ⟨sco, _⟩ | ⟨main, exact_⟩⟩
  · -- A failing start asks for nothing.
    refine fillDefined_of_unasked buffer bytes
      ((outWriteExit o bytes ((startOutIfStandby R o env.start).exec w).1).exec
        ((startOutIfStandby R o env.start).exec w).2) (fun k => ?_) ?_
    · rw [exec_outWrite_failed R w o buffer bytes { env with kernelFrames := k } failed]
    · exact (unmade_outWriteExit _ o bytes _ fun _ => rfl).trans
        (asked_startOutIfStandby w R o env.start)
  · -- Neither does a write on the SCO route.
    refine fillDefined_of_unasked buffer bytes
      ((finishWrite o bytes ((convert R o buffer (bytes / outFrameSize)).exec after).1
        env.pcmWrite).exec ((convert R o buffer (bytes / outFrameSize)).exec after).2)
      (fun k => ?_) ?_
    · rw [exec_outWrite_started R w o buffer bytes { env with kernelFrames := k } started, sco,
        exec_prepareWrite_sco]
    · have begun := asked_startOutIfStandby w R o env.start
      rw [started] at begun
      exact ((asked_finishWrite _ o bytes _ _).trans (asked_convert after R o buffer _)).trans begun
  · -- A write on the main PCM stores the fill first, or is off its target.
    obtain ⟨period, current, low, _, high⟩ := throttled_bounds started own running
    have free := exact_.mp known
    have level := level_converted R after o buffer bytes after.adev.bufferType
    have before : throttled R w o env = (after.outs o).adaptBuffer after.adev.bufferType := by
      rw [throttled, started]
    refine ⟨fun k l => ?_, fun k n => ?_⟩
    · rw [exec_outWrite_started R w o buffer bytes { env with kernelFrames := k } started,
        exec_outWrite_started R w o buffer bytes { env with kernelFrames := l } started, main,
        exec_prepareWrite_throttled, exec_prepareWrite_throttled]
      rw [before, ← level.current, ← level.target] at free
      dsimp only
      rw [moved_same _ entered free k l]
    · obtain ⟨moved, target, asked⟩ := exec_outWrite_throttled R w o buffer bytes
        { env with kernelFrames := k } started main
      dsimp only at moved target asked ⊢
      intro more failed
      rw [asked] at more
      -- No fill was asked for before the loop.
      have begun : (converted R after o buffer bytes after.adev.bufferType).2.asked = w.asked := by
        have begun := asked_startOutIfStandby w R o env.start
        rw [started] at begun
        exact (asked_convert _ R o buffer (bytes / outFrameSize)).trans begun
      rw [← begun] at more
      have stopped := throttle_failed o env.pcmGetHtimestamp env.fuel 0 k 0
        (converted R after o buffer bytes after.adev.bufferType).2 n more (by rwa [Nat.zero_add])
      have small : (throttled R w o env).config.periodSize ≤ 512 := by omega
      refine ⟨target, ?_⟩
      rw [moved]
      refine nextThreshold_approaches current low high small ?_
      rcases stopped with ⟨first, _⟩ | full
      · exact Or.inl (free.resolve_left (by rw [first]; decide))
      · rw [level.current, ← before] at full
        exact Or.inr full

/-- On target without a first timestamp, the fill decides where the threshold goes. -/
theorem fillKnown_of_defined (buffer : Samples) (bytes : Nat) (entered : 0 < env.fuel)
    (fit : w.Fit) (defined_ : FillDefined R w o buffer bytes env) : FillKnown w o env := by
  rcases fillKnown_cases R w o env fit with
    ⟨_, known⟩ | ⟨after, started, ⟨own, running⟩, ⟨_, known⟩ | ⟨main, exact_⟩⟩
  · exact known
  · exact known
  · -- Were the fill unknown, the threshold would be on target and the first timestamp missing.
    refine exact_.mpr ?_
    by_contra unknown
    obtain ⟨unstamped, onTarget⟩ := not_or.mp unknown
    have onTarget := not_not.mp onTarget
    obtain ⟨period, current, low, periods, high⟩ := throttled_bounds started own running
    obtain ⟨fuel, enough⟩ : ∃ fuel, env.fuel = fuel + 1 := ⟨env.fuel - 1, by omega⟩
    -- The loop is left at once with whatever the fill was.
    have filled : ∀ k, (fillLeft R after o buffer bytes { env with kernelFrames := k }
        after.adev.bufferType).1 = k := by
      intro k
      unfold fillLeft
      dsimp only
      rw [enough, throttle_unstamped _ _ _ _ _ _ _ (Option.not_isSome_iff_eq_none.mp unstamped)]
    have ends : ∀ k, (((outWrite R o buffer bytes { env with kernelFrames := k }).exec w).2.outs
        o).curWriteThreshold = nextThreshold (throttled R w o env).writeThreshold
          (throttled R w o env).writeThreshold (throttled R w o env).config.periodSize k := by
      intro k
      have moved := (exec_outWrite_throttled R w o buffer bytes { env with kernelFrames := k }
        started main).1
      rw [filled] at moved
      exact moved.trans (congrArg (nextThreshold · _ _ k) onTarget)
    -- A fill of minus one takes the threshold away from its target, and a full kernel does not.
    have same := congrArg (fun result => (result.2.outs o).curWriteThreshold)
      (defined_.same (-1) (throttled R w o env).writeThreshold)
    have apart := (ends (-1)).symm.trans (same.trans (ends _))
    rw [nextThreshold_full, nextThreshold_wraps period periods high] at apart
    omega

/--
`out_write` acts upon a defined fill of the kernel exactly when it does not get to the initial one.

The body of the loop is entered once whatever happens, so at least once is followed here.
-/
theorem fillDefined_iff (R : ResamplerLib ρ) (hardware : Settings) (acts : List Act) (w : World ρ)
    (ran : run (step R) (.initial hardware) acts = some w) (o : Nat) (buffer : Samples)
    (bytes : Nat) (env : OutWriteEnv) (entered : 0 < env.fuel) :
    FillDefined R w o buffer bytes env ↔ FillKnown w o env :=
  have fit : w.Fit := fit_run R hardware acts w ran
  ⟨fillKnown_of_defined buffer bytes entered fit, fillDefined_of_known buffer bytes entered fit⟩

/-- A stream is opened, and nothing else has happened. -/
def opensOutput : List Act := [.openOutputStream 0 true ⟨outSamplingRate, audioChannelOutStereo⟩]

/-- The PCM has not started to run, so it has no timestamp yet. -/
def OutWriteEnv.unstamped : OutWriteEnv where
  start := { pcmIsReady := true, createResampler := true, malloc := some fun _ => 0 }
  kernelFrames := 0
  pcmGetHtimestamp _ := none
  pcmWrite := 0
  fuel := 1

/-- A write that gets a timestamp does not depend on what the variable held. -/
theorem fillDefined_iff_stamped : ∃ w : World (Nat × Nat),
    run (step .nearest) (.initial fun _ => none) opensOutput = some w ∧
      FillDefined .nearest w 0 (fun _ => 0) 4
        { OutWriteEnv.unstamped with pcmGetHtimestamp := fun _ => some 4096 } :=
  ⟨_, rfl, (fillDefined_iff .nearest (fun _ => none) opensOutput _ rfl 0 (fun _ => 0) 4
    { OutWriteEnv.unstamped with pcmGetHtimestamp := fun _ => some 4096 } (by decide)).mpr
      (Or.inr (Or.inr (Or.inl rfl)))⟩

/-- The first write of all leaves a threshold of 128 or of 1024, as its stack has it. -/
theorem not_fillDefined_unstamped : ∃ w : World (Nat × Nat),
    run (step .nearest) (.initial fun _ => none) opensOutput = some w ∧
      ¬ FillDefined .nearest w 0 (fun _ => 0) 4 .unstamped := by
  refine ⟨_, rfl, fun defined_ => ?_⟩
  have same := congrArg (fun result => (result.2.outs 0).curWriteThreshold)
    (defined_.same (-1) 1024)
  -- A fill of minus one leads to 128, and one of 1024 stays there.
  exact absurd same (by decide +kernel)

end Exact

end Grouper.Audio
