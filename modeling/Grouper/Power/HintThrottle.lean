import Grouper.Lib.Run
import Grouper.Lib.Throttle
import Grouper.Power.Hints

/-! Whether hints are throttled by the time that has really passed, over whole runs. -/

namespace Grouper.Power

open Function (update)

/-- A call of `common_power_hint`, with the reading of the clock it finds. -/
structure HintCall where
  hint : Nat
  data : Bool
  reading : Timespec

/-- The power HAL beside the history of the hints it was given. -/
structure HintRun where
  info : PowerhalInfo
  /-- The last reading of the clock. -/
  now : Timespec
  history : List (Verdict Nat)
  /-- All requests so far, the newest first. -/
  requests : List PmQosRequest

/-- One hint. The clock never runs backwards, whatever it is shown as. -/
def hintStep (clock : Timespec → Nat) (s : HintRun) (call : HintCall) : Option HintRun :=
  if call.hint < maxPowerHintCount ∧ s.now.le call.reading then
    -- The check sees only the clock, and the history keeps the time that has really passed.
    let time := clock call.reading
    let after := commonPowerHint s.info call.hint call.data time
    some {
      info := after.1
      now := call.reading
      history :=
        ⟨call.hint, call.reading.micros, (checkHint s.info call.hint time).isSome⟩ :: s.history
      requests := after.2 ++ s.requests }
  else none

/-- The HAL as it is opened, when the clock starts. -/
def HintRun.opened (maxFrequency : Int) : HintRun :=
  ⟨.opened maxFrequency, ⟨0, 0, by decide⟩, [], []⟩

/-- Hints were rejected for the time that had passed, and those of one kind accepted are apart. -/
def HintRun.Faithful (s : HintRun) : Prop :=
  Throttled s.info.hintInterval s.history ∧ Spaced s.info.hintInterval s.history

section Clock

/-- Where a time lies between two changes of the clock's sign, which are 2^32 microseconds apart. -/
def signPhase (time : Nat) : Nat := (time + 2 ^ 31) % 2 ^ 32

/--
The clock tells whether two times are less than an interval apart.

A recent time must not look like none, and no change of sign may lie between it and now. A time
that is not recent must look like none, or else not look recent.
-/
def TellsApart (interval last time : Nat) : Prop :=
  if time < last + interval then last % 2 ^ 32 ≠ 0 ∧ signPhase last ≤ signPhase time
  else last % 2 ^ 32 = 0 ∨ signPhase time < signPhase last ∨
    signPhase last + interval ≤ signPhase time

/-- The sign extension of a `long` is zero when its 32 bits are. -/
theorem longToUint64_eq_zero (value : Nat) : longToUint64 value = 0 ↔ value % 2 ^ 32 = 0 := by
  -- A negative number is far from zero when it is taken as an unsigned one.
  unfold longToUint64
  split <;> omega

/-- Between two changes of sign the clock subtracts as it should, and otherwise it wraps around. -/
theorem sub64_longToUint64 (time last : Nat) :
    sub64 (longToUint64 time) (longToUint64 last) =
      if signPhase last ≤ signPhase time then signPhase time - signPhase last
      else 2 ^ 64 - (signPhase last - signPhase time) := by
  -- The phase is the clock, moved up by half of its range.
  have phase : ∀ value, signPhase value =
      if value % 2 ^ 32 < 2 ^ 31 then value % 2 ^ 32 + 2 ^ 31 else value % 2 ^ 32 - 2 ^ 31 := by
    intro value
    unfold signPhase
    split <;> omega
  have small : ∀ value, value % 2 ^ 32 < 2 ^ 32 := fun value => Nat.mod_lt _ (by decide)
  have one := small time
  have two := small last
  rw [phase, phase]
  unfold sub64 longToUint64
  generalize time % 2 ^ 32 = t at *
  generalize last % 2 ^ 32 = l at *
  split_ifs <;> omega

/-- Times less than 2^32 apart are as far apart as their phases, unless the sign has changed. -/
theorem signPhase_sub {time last : Nat} (later : last ≤ time) (near : time < last + 2 ^ 32)
    (same : signPhase last ≤ signPhase time) : signPhase time - signPhase last = time - last := by
  unfold signPhase at *
  omega

/-- The check rejects for the time that has passed precisely when the clock tells it. -/
theorem rejects_iff_tellsApart {interval last time : Nat} (later : last ≤ time)
    (small : interval ≤ 2 ^ 32) :
    ((longToUint64 last ≠ 0 ∧ interval ≠ 0 ∧
        sub64 (longToUint64 time) (longToUint64 last) < interval) ↔ time < last + interval) ↔
      TellsApart interval last time := by
  have below : signPhase last < 2 ^ 32 := Nat.mod_lt _ (by decide)
  unfold TellsApart
  rw [Ne, longToUint64_eq_zero, sub64_longToUint64]
  by_cases recent : time < last + interval
  · -- A recent time has to be rejected for.
    rw [if_pos recent, iff_true_right recent]
    by_cases same : signPhase last ≤ signPhase time
    · -- Without a change of sign the clock shows the very difference of the times.
      rw [if_pos same, signPhase_sub later (by omega) same]
      exact ⟨fun rejects => ⟨rejects.1, same⟩, fun tells => ⟨tells.1, by omega, by omega⟩⟩
    · -- The difference has wrapped around, and is larger than any interval.
      rw [if_neg same]
      exact ⟨fun rejects => absurd rejects.2.2 (by omega), fun tells => absurd tells.2 same⟩
  · -- A time that is not recent has to be accepted: not noted, not behind, or far enough ahead.
    rw [if_neg recent, iff_false_right recent]
    by_cases same : signPhase last ≤ signPhase time
    · rw [if_pos same]
      omega
    · -- Behind a change of sign the difference is huge, and never below an interval.
      rw [if_neg same]
      exact ⟨fun _ => Or.inr (Or.inl (by omega)), fun _ rejects => absurd rejects.2.2 (by omega)⟩

/-- In the first 35 minutes the clock tells all times apart, once it shows any. -/
theorem tellsApart_early {interval last time : Nat} (shown : 0 < last) (later : last ≤ time)
    (early : time < 2 ^ 31) : TellsApart interval last time := by
  -- No change of sign has come yet, so every phase is ahead of its time by the same amount.
  unfold TellsApart signPhase
  split <;> omega

end Clock

/-- A call tells the time since the last accepted hint of its kind. -/
def HintCall.TellsTime (s : HintRun) (call : HintCall) : Prop :=
  ∀ last, lastAccepted s.history call.hint = some last →
    TellsApart (s.info.hintInterval call.hint) last call.reading.micros

/-- What every hint keeps. -/
structure HintRun.Kept (maxFrequency : Int) (s : HintRun) : Prop where
  intervals : s.info.hintInterval = (PowerhalInfo.opened maxFrequency).hintInterval
  /-- The note of a kind is what the clock showed when a hint was last accepted. -/
  noted : ∀ hint, s.info.hintTime hint =
    ((lastAccepted s.history hint).map longToUint64).getD 0
  chronological : Chronological s.history
  past : ∀ v ∈ s.history, v.time ≤ s.now.micros

section Steps

variable {maxFrequency : Int} {s next : HintRun} {call : HintCall}

/-- A later time has as many microseconds or more. -/
theorem Timespec.micros_le {earlier later : Timespec} (ordered : earlier.le later = true) :
    earlier.micros ≤ later.micros := by
  -- The seconds decide, and within one second the nanoseconds do.
  have carried := earlier.carried
  unfold Timespec.le at ordered
  unfold Timespec.micros
  rcases of_decide_eq_true ordered with less | ⟨same, less⟩ <;> omega

/-- No interval is as long as the 32 bits of the clock allow. -/
theorem hintInterval_le (maxFrequency : Int) (hint : Nat) :
    (PowerhalInfo.opened maxFrequency).hintInterval hint ≤ 2 ^ 32 := by
  -- Three kinds have an interval, and no interval is longer than two seconds.
  unfold PowerhalInfo.opened PowerhalInfo.setHintIntervals
  simp only [Function.update_apply]
  split_ifs <;> omega

/-- What one hint does, whether it is accepted or not. -/
theorem hintStep_cases {clock : Timespec → Nat} (stepped : hintStep clock s call = some next) :
    s.now.le call.reading = true ∧ next.now = call.reading ∧
      next.info.hintInterval = s.info.hintInterval ∧
      next.history = ⟨call.hint, call.reading.micros,
        (checkHint s.info call.hint (clock call.reading)).isSome⟩ :: s.history ∧
      next.info.hintTime =
        if (checkHint s.info call.hint (clock call.reading)).isSome then
          update s.info.hintTime call.hint (clock call.reading)
        else s.info.hintTime := by
  unfold hintStep at stepped
  split at stepped
  · rename_i enabled
    obtain rfl := Option.some.inj stepped
    refine ⟨enabled.2, rfl, ?_, rfl, ?_⟩
    · -- Only the notes may change, and the intervals are no part of them.
      show (commonPowerHint s.info call.hint call.data _).1.hintInterval = _
      unfold commonPowerHint
      split <;> rfl
    · show (commonPowerHint s.info call.hint call.data _).1.hintTime = _
      unfold commonPowerHint
      cases checked : checkHint s.info call.hint (clock call.reading) with
      | none => rfl
      | some t =>
        -- The time that is noted is the one the clock showed.
        have same : t = clock call.reading := by
          unfold checkHint at checked
          split_ifs at checked
          exact (Option.some.inj checked).symm
        rw [same]
        rfl
  · cases stepped

/-- A module that was just opened has answered no hint. -/
theorem HintRun.kept_opened (maxFrequency : Int) :
    (HintRun.opened maxFrequency).Kept maxFrequency :=
  -- A fresh HAL has notes of zero and no history, so nothing was accepted.
  ⟨rfl, fun _ => rfl, List.Pairwise.nil, List.forall_mem_nil _⟩

/-- A hint that is accepted is noted, and one that is not changes nothing. -/
theorem HintRun.Kept.taken (kept : s.Kept maxFrequency)
    (stepped : hintStep clockMicros s call = some next) : next.Kept maxFrequency := by
  obtain ⟨ordered, now, intervals, history, noted⟩ := hintStep_cases stepped
  have onward : ∀ v ∈ s.history, v.time ≤ call.reading.micros := fun v member =>
    Nat.le_trans (kept.past v member) (Timespec.micros_le ordered)
  refine ⟨intervals.trans kept.intervals, fun hint => ?_, ?_, ?_⟩
  · -- The note follows the last accepted hint of its kind, and only the kind of the call moves.
    rw [history, noted, lastAccepted_cons]
    by_cases accepted : (checkHint s.info call.hint (clockMicros call.reading)).isSome = true
    · rw [if_pos accepted]
      by_cases own : call.hint = hint
      · subst own
        rw [Function.update_self, if_pos ⟨rfl, accepted⟩, Option.map_some, Option.getD_some,
          clockMicros]
      · rw [Function.update_of_ne (Ne.symm own), if_neg fun both => own both.1]
        exact kept.noted hint
    · rw [if_neg accepted, if_neg fun both => accepted both.2]
      exact kept.noted hint
  · rw [history]
    exact List.pairwise_cons.mpr ⟨onward, kept.chronological⟩
  · rw [history, now]
    exact List.forall_mem_cons.mpr ⟨Nat.le_refl _, onward⟩

/-- A history stays faithful precisely when the hint it gains tells the time. -/
theorem faithful_taken_iff (kept : s.Kept maxFrequency) (faithful : s.Faithful)
    (stepped : hintStep clockMicros s call = some next) :
    next.Faithful ↔ call.TellsTime s := by
  obtain ⟨ordered, _, intervals, history, _⟩ := hintStep_cases stepped
  -- The step was taken, so the hint is one that the check knows.
  have enabled : ¬ maxPowerHintCount ≤ call.hint := by
    unfold hintStep at stepped
    split at stepped
    · rename_i enabled
      exact Nat.not_le.mpr enabled.1
    · cases stepped
  -- Only the verdict on the new hint is at stake.
  have verdict : next.Faithful ↔
      ((checkHint s.info call.hint (clockMicros call.reading)).isSome = false ↔
        AcceptedWithin (s.info.hintInterval call.hint) s.history call.hint
          call.reading.micros) := by
    unfold HintRun.Faithful
    rw [history, intervals]
    refine ⟨fun both => both.1.1, fun exact_ => ?_⟩
    have throttled : Throttled s.info.hintInterval (⟨call.hint, call.reading.micros,
        (checkHint s.info call.hint (clockMicros call.reading)).isSome⟩ :: s.history) :=
      ⟨exact_, faithful.1⟩
    exact ⟨throttled, throttled.spaced⟩
  have rejects : (checkHint s.info call.hint (clockMicros call.reading)).isSome = false ↔
      s.info.hintTime call.hint ≠ 0 ∧ s.info.hintInterval call.hint ≠ 0 ∧
        sub64 (clockMicros call.reading) (s.info.hintTime call.hint) <
          s.info.hintInterval call.hint := by
    -- The number of the hint is in range, so the check rejects for the notes alone.
    unfold checkHint
    rw [if_neg enabled]
    split
    · rename_i rejected
      exact ⟨fun _ => rejected, fun _ => rfl⟩
    · rename_i accepted
      exact ⟨nofun, fun rejected => absurd rejected accepted⟩
  rw [verdict, rejects, kept.chronological.acceptedWithin_iff, kept.noted]
  unfold HintCall.TellsTime
  cases found : lastAccepted s.history call.hint with
  | none =>
    -- A kind that was never accepted is never rejected.
    refine ⟨fun _ => nofun, fun _ => ⟨fun rejected => absurd rfl rejected.1, ?_⟩⟩
    rintro ⟨_, is, _⟩
    cases is
  | some last =>
    -- The note is the clock at the time of an accepted hint, which the history still has.
    obtain ⟨v, member, _, _, rfl⟩ := exists_of_lastAccepted found
    have later : v.time ≤ call.reading.micros :=
      Nat.le_trans (kept.past v member) (Timespec.micros_le ordered)
    have small : s.info.hintInterval call.hint ≤ 2 ^ 32 := by
      rw [kept.intervals]
      exact hintInterval_le maxFrequency call.hint
    have one : (∃ last, some v.time = some last ∧
        call.reading.micros < last + s.info.hintInterval call.hint) ↔
        call.reading.micros < v.time + s.info.hintInterval call.hint := by
      refine ⟨?_, fun recent => ⟨_, rfl, recent⟩⟩
      rintro ⟨_, is, recent⟩
      rw [Option.some.inj is]
      exact recent
    rw [one]
    refine (rejects_iff_tellsApart later small).trans
      ⟨fun tells last is => ?_, fun tells => tells _ rfl⟩
    obtain rfl := Option.some.inj is
    exact tells

end Steps

/--
Hints are throttled by the time that has really passed, over a whole run, precisely when every
hint of the run tells the time since the last accepted one of its kind.
-/
theorem faithful_always_iff (maxFrequency : Int) (calls : List HintCall) (final : HintRun)
    (ran : run (hintStep clockMicros) (.opened maxFrequency) calls = some final) :
    Always (hintStep clockMicros) HintRun.Faithful (.opened maxFrequency) calls ↔
      Along (hintStep clockMicros) (fun s call => call.TellsTime s) (.opened maxFrequency)
        calls := by
  refine always_iff_along (fun s call next kept stepped => HintRun.Kept.taken kept stepped)
    (fun s call next kept faithful stepped => faithful_taken_iff kept faithful stepped)
    (HintRun.kept_opened maxFrequency) ?_ ran
  -- Nothing has been accepted yet.
  exact ⟨trivial, List.Pairwise.nil⟩

/-- An interaction hint, so many seconds and nanoseconds after the clock started. -/
def interactionAt (seconds : Nat) (nanoseconds : Fin 1000000000) : HintCall :=
  ⟨powerHintInteraction, false, ⟨seconds, nanoseconds, nanoseconds.isLt⟩⟩

/-- Hints 50 and then 150 milliseconds apart, of which the second comes too early. -/
def interactions : List HintCall :=
  [interactionAt 1 0, interactionAt 1 50000000, interactionAt 1 200000000]

/-- A run of interactions tells its times. -/
theorem faithful_always_iff_interactions : ∃ final,
    run (hintStep clockMicros) (.opened 1300000) interactions = some final ∧
      (Always (hintStep clockMicros) HintRun.Faithful (.opened 1300000) interactions ↔
        Along (hintStep clockMicros) (fun s call => call.TellsTime s) (.opened 1300000)
          interactions) :=
  ⟨_, rfl, faithful_always_iff 1300000 interactions _ rfl⟩

/-- A hint before the clock changes its sign, and one a microsecond later. -/
def acrossSignChange : List HintCall :=
  [interactionAt 2147 483647000, interactionAt 2147 483648000]

/-- Both are accepted, although the second comes well within the interval. -/
theorem not_faithful_acrossSignChange : ∃ final,
    run (hintStep clockMicros) (.opened 1300000) acrossSignChange = some final ∧
      final.history = [⟨2, 2147483648, true⟩, ⟨2, 2147483647, true⟩] ∧
      final.info.hintInterval 2 = 100000 ∧ ¬ final.Faithful := by
  -- The two answers are one microsecond apart.
  refine ⟨_, rfl, rfl, rfl, fun faithful => ?_⟩
  have apart := (List.pairwise_cons.mp faithful.2).1 _ (List.mem_singleton_self _) rfl rfl rfl
  exact absurd apart (by decide +kernel)

end Grouper.Power
