import Grouper.Lib.Run
import Grouper.Power.Hints

/-! Which hints are followed by a boost, in times without a width. -/

namespace Grouper.Power

open Function (update)

/-- `check_hint`, with the subtraction of times left open. -/
def checkHintBy (sub : Nat → Nat → Nat) (info : PowerhalInfo) (hint time : Nat) : Option Nat :=
  if maxPowerHintCount ≤ hint then none
  else if info.hintTime hint ≠ 0 ∧ info.hintInterval hint ≠ 0 ∧
      sub time (info.hintTime hint) < info.hintInterval hint then none
  else some time

/-- `common_power_hint`, with the subtraction of times left open. -/
def commonPowerHintBy (sub : Nat → Nat → Nat) (info : PowerhalInfo) (hint : Nat) (data : Bool)
    (time : Nat) : PowerhalInfo × List PmQosRequest :=
  match checkHintBy sub info hint time with
  | none => (info, [])
  | some t => ({ info with hintTime := update info.hintTime hint t }, hintRequests info hint data)

/-- The code subtracts in 64 bits. -/
theorem commonPowerHintBy_sub64 : commonPowerHintBy sub64 = commonPowerHint := rfl

/-- Later times below 2^64 are subtracted as numbers. -/
theorem sub64_eq {left right : Nat} (later : right ≤ left) (small : left < 2 ^ 64) :
    sub64 left right = left - right := by
  unfold sub64
  omega

/-- Up to 2^64 microseconds a width makes no difference. -/
theorem commonPowerHint_eq {info : PowerhalInfo} {hint time : Nat}
    (later : info.hintTime hint ≤ time) (small : time < 2 ^ 64) (data : Bool) :
    commonPowerHint info hint data time = commonPowerHintBy (· - ·) info hint data time := by
  -- The difference of the two times is no negative one.
  rw [← commonPowerHintBy_sub64]
  unfold commonPowerHintBy checkHintBy
  rw [sub64_eq later small]

/-- A call of `common_power_hint` at a time in microseconds. -/
structure BoostCall where
  hint : Nat
  data : Bool
  time : Nat
  deriving DecidableEq, Repr

/-- A hint, and what it came to. -/
structure HintOutcome where
  hint : Nat
  data : Bool
  time : Nat
  accepted : Bool
  requests : List PmQosRequest
  deriving DecidableEq, Repr

/-- The power HAL beside the hints it was given, the newest first. -/
structure BoostRun where
  info : PowerhalInfo
  now : Nat
  history : List HintOutcome

/-- One hint. Hints come in the order of time. -/
def boostStep (s : BoostRun) (call : BoostCall) : Option BoostRun :=
  if s.now ≤ call.time then
    let accepted := (checkHintBy (· - ·) s.info call.hint call.time).isSome
    let after := commonPowerHintBy (· - ·) s.info call.hint call.data call.time
    some {
      info := after.1
      now := call.time
      history := ⟨call.hint, call.data, call.time, accepted, after.2⟩ :: s.history }
  else none

/-- The HAL as it is opened. -/
def BoostRun.opened (maxFrequency : Int) : BoostRun := ⟨.opened maxFrequency, 0, []⟩

/-- Whether a hint would be accepted. -/
def BoostCall.Accepted (s : BoostRun) (call : BoostCall) : Prop :=
  (checkHintBy (· - ·) s.info call.hint call.time).isSome = true

/-- A hint that asks for a boost. -/
def asksBoost (hint : Nat) (data : Bool) : Prop :=
  hint = powerHintInteraction ∨ hint = powerHintLaunch ∨ hint = powerHintVsync ∧ data = true

/-- The two requests of a boost were issued. -/
def HintOutcome.Boosts (outcome : HintOutcome) : Prop :=
  outcome.requests.map PmQosRequest.filename = ["/dev/cpu_freq_min", "/dev/min_online_cpus"]

/-- Every hint that asked for a boost got it, or one of its kind had got it within the interval. -/
def Justified (interval : Nat → Nat) : List HintOutcome → Prop
  | [] => True
  | new :: history =>
    (asksBoost new.hint new.data → new.Boosts ∨ ∃ earlier ∈ history, earlier.hint = new.hint ∧
      earlier.Boosts ∧ new.time < earlier.time + interval new.hint) ∧ Justified interval history

/-- The last hint of a kind that was accepted. -/
def lastOf (history : List HintOutcome) (hint : Nat) : Option HintOutcome :=
  history.find? fun outcome => outcome.hint = hint ∧ outcome.accepted = true

/--
A hint to synchronise with data comes within 100 milliseconds of an accepted one without data.

Only a hint accepted at time zero, which is noted as none, may have boosted within this time.
-/
def BoostCall.Masked (s : BoostRun) (call : BoostCall) : Prop :=
  call.hint = powerHintVsync ∧ call.data = true ∧
    (∃ last, lastOf s.history powerHintVsync = some last ∧ last.data = false ∧ 0 < last.time ∧
      call.time < last.time + 100000) ∧
    ¬ (call.time < 100000 ∧ ∃ outcome ∈ s.history, outcome.hint = powerHintVsync ∧
      outcome.data = true ∧ outcome.accepted = true ∧ outcome.time = 0)

/-- A hint of the kind of a call has boosted within the interval. -/
def BoostCall.Caused (s : BoostRun) (call : BoostCall) : Prop :=
  ∃ earlier ∈ s.history, earlier.hint = call.hint ∧ earlier.Boosts ∧
    call.time < earlier.time + s.info.hintInterval call.hint

/-- What every hint keeps. -/
structure BoostRun.Kept (s : BoostRun) : Prop where
  intervals : s.info.hintInterval = (PowerhalInfo.opened 0).hintInterval
  /-- The note of a kind is the time of the last accepted hint, or zero. -/
  noted : ∀ hint, s.info.hintTime hint = ((lastOf s.history hint).map HintOutcome.time).getD 0
  past : ∀ outcome ∈ s.history, outcome.time ≤ s.now
  chronological : s.history.Pairwise fun later earlier => earlier.time ≤ later.time
  /-- Accepted hints of a kind are apart, unless the earlier one came at time zero. -/
  apart : s.history.Pairwise fun later earlier => later.hint = earlier.hint →
    later.accepted = true → earlier.accepted = true → earlier.time ≠ 0 →
      earlier.time + s.info.hintInterval later.hint ≤ later.time
  issued : ∀ outcome ∈ s.history, outcome.requests =
    if outcome.accepted then hintRequests s.info outcome.hint outcome.data else []

section Intervals

variable (info : PowerhalInfo)

/-- Synchronisations are told apart by a tenth of a second. -/
theorem hintInterval_vsync : (PowerhalInfo.opened 0).hintInterval powerHintVsync = 100000 := rfl

/-- An accepted hint boosts precisely when it asks for it. -/
theorem boosts_hintRequests_iff (hint : Nat) (data : Bool) :
    (hintRequests info hint data).map PmQosRequest.filename =
      ["/dev/cpu_freq_min", "/dev/min_online_cpus"] ↔ asksBoost hint data := by
  unfold hintRequests asksBoost
  -- The kinds are tried in the order of the source, and only the first one looks at the data.
  by_cases vsync : hint = powerHintVsync
  · subst vsync
    cases data <;> simp [boost, powerHintVsync, powerHintInteraction, powerHintLaunch]
  · rw [if_neg vsync]
    by_cases interaction : hint = powerHintInteraction
    · simp [interaction, boost]
    · rw [if_neg interaction]
      by_cases launch : hint = powerHintLaunch
      · simp [launch, boost]
      · simp [vsync, interaction, launch]

end Intervals

/-- The requests of a hint depend on the highest frequency only. -/
theorem hintRequests_congr {info other : PowerhalInfo}
    (same : info.maxFrequency = other.maxFrequency) (hint : Nat) (data : Bool) :
    hintRequests info hint data = hintRequests other hint data := by
  unfold hintRequests boost
  rw [same]

section Steps

variable {s next : BoostRun} {call : BoostCall} {maxFrequency : Int}

/-- What a step does. -/
theorem boostStep_cases (stepped : boostStep s call = some next) :
    s.now ≤ call.time ∧ next.now = call.time ∧
      next.info.maxFrequency = s.info.maxFrequency ∧
      next.info.hintInterval = s.info.hintInterval ∧
      ∃ accepted requests,
        next.history = ⟨call.hint, call.data, call.time, accepted, requests⟩ :: s.history ∧
        (accepted = true ↔ call.Accepted s) ∧
        requests = (if accepted then hintRequests s.info call.hint call.data else []) ∧
        next.info.hintTime =
          if accepted then update s.info.hintTime call.hint call.time else s.info.hintTime := by
  unfold boostStep at stepped
  split at stepped
  · rename_i ordered
    cases stepped
    refine ⟨ordered, rfl, ?_⟩
    dsimp only
    unfold BoostCall.Accepted commonPowerHintBy
    cases checked : checkHintBy (· - ·) s.info call.hint call.time with
    -- A rejected hint issues nothing and notes nothing.
    | none => exact ⟨rfl, rfl, false, [], rfl, by simp, by simp, by simp⟩
    | some t =>
      -- The time that is noted is the time of the hint.
      have same : t = call.time := by
        unfold checkHintBy at checked
        split at checked
        · cases checked
        · split at checked
          · cases checked
          · exact (Option.some.inj checked).symm
      subst same
      exact ⟨rfl, rfl, true, _, rfl, by simp, by simp, by simp⟩
  · cases stepped

/-- A hint is rejected for its number, or for coming within the interval of the one noted. -/
theorem BoostCall.accepted_iff : call.Accepted s ↔
    call.hint < maxPowerHintCount ∧ (s.info.hintTime call.hint = 0 ∨
      s.info.hintInterval call.hint = 0 ∨
      s.info.hintInterval call.hint ≤ call.time - s.info.hintTime call.hint) := by
  unfold BoostCall.Accepted checkHintBy
  -- The source checks the number first, and then all that makes it reject the time.
  split
  · rename_i unknown
    exact ⟨nofun, fun accepted => absurd accepted.1 (Nat.not_lt.mpr unknown)⟩
  · split
    · rename_i known rejected
      dsimp only at rejected
      exact ⟨nofun, fun accepted => by omega⟩
    · rename_i known rejected
      dsimp only at rejected
      exact ⟨fun _ => by omega, fun _ => rfl⟩

/-- The last accepted hint of a kind is part of the history. -/
theorem of_lastOf {history : List HintOutcome} {hint : Nat} {last : HintOutcome}
    (found : lastOf history hint = some last) :
    last ∈ history ∧ last.hint = hint ∧ last.accepted = true := by
  have met := List.find?_some found
  exact ⟨List.mem_of_find?_eq_some found, of_decide_eq_true met⟩

/-- A new hint that is accepted is the last one of its kind, and of no other. -/
theorem lastOf_cons (outcome : HintOutcome) (history : List HintOutcome) (hint : Nat) :
    lastOf (outcome :: history) hint =
      if outcome.hint = hint ∧ outcome.accepted = true then some outcome
      else lastOf history hint := by
  -- The newest outcome is looked at first.
  unfold lastOf
  rw [List.find?_cons]
  split <;> simp_all

/-- Without an accepted hint of a kind there is no last one. -/
theorem ne_of_lastOf_none {history : List HintOutcome} {hint : Nat}
    (nothing : lastOf history hint = none) {outcome : HintOutcome} (member : outcome ∈ history)
    (accepted : outcome.accepted = true) : outcome.hint ≠ hint := by
  -- Else it would have been found.
  intro same
  have other := List.find?_eq_none.mp nothing outcome member
  exact other (decide_eq_true ⟨same, accepted⟩)

/-- Nothing has been noted when the HAL is opened. -/
theorem BoostRun.kept_opened : (BoostRun.opened maxFrequency).Kept :=
  ⟨rfl, fun _ => rfl, List.forall_mem_nil _, List.Pairwise.nil, List.Pairwise.nil,
    List.forall_mem_nil _⟩

/-- A relation between later and earlier hints holds between the last of a kind and the others. -/
theorem of_lastOf_pairwise {history : List HintOutcome} {rel : HintOutcome → HintOutcome → Prop}
    (pairwise : history.Pairwise rel) {last outcome : HintOutcome}
    (found : lastOf history outcome.hint = some last) (member : outcome ∈ history)
    (accepted : outcome.accepted = true) : outcome = last ∨ rel last outcome := by
  -- The induction goes back in time to the last of the kind.
  induction history with
  | nil => cases member
  | cons newest history ih =>
    obtain ⟨newer, pairwise⟩ := List.pairwise_cons.mp pairwise
    rw [lastOf_cons] at found
    split at found
    · -- The newest hint is the last of the kind, and all others came before it.
      obtain rfl := Option.some.inj found
      rcases List.mem_cons.mp member with same | member
      · exact .inl same
      · exact .inr (newer outcome member)
    · -- The newest is not of the kind, so neither the last one nor the other is the newest.
      rename_i other
      rcases List.mem_cons.mp member with rfl | member
      · exact absurd ⟨rfl, accepted⟩ other
      · exact ih pairwise found member

/-- An accepted hint comes an interval after the last one, unless that came at time zero. -/
theorem BoostRun.Kept.apart_of_accepted (kept : s.Kept) (accepted : call.Accepted s)
    (ordered : s.now ≤ call.time) {earlier : HintOutcome} (member : earlier ∈ s.history)
    (same : call.hint = earlier.hint) (before : earlier.accepted = true)
    (noted : earlier.time ≠ 0) :
    earlier.time + s.info.hintInterval call.hint ≤ call.time := by
  have past := kept.past earlier member
  have note := kept.noted call.hint
  cases found : lastOf s.history call.hint with
  | none => exact absurd same.symm (ne_of_lastOf_none found member before)
  | some last =>
    rw [found, Option.map_some, Option.getD_some] at note
    rw [same] at found
    have late := kept.past last (of_lastOf found).1
    -- What is noted is at least as late as the earlier hint, so it is not zero.
    rcases of_lastOf_pairwise kept.chronological found member before with rfl | order
    · rcases BoostCall.accepted_iff.mp accepted with ⟨_, zero | free | apart⟩ <;> omega
    · rcases BoostCall.accepted_iff.mp accepted with ⟨_, zero | free | apart⟩ <;> omega

/-- A hint that is accepted is noted, and one that is not changes nothing. -/
theorem BoostRun.Kept.taken (kept : s.Kept) (stepped : boostStep s call = some next) :
    next.Kept := by
  obtain ⟨ordered, now, frequency, intervals, accepted, requests, history, verdict, issued,
    noted⟩ := boostStep_cases stepped
  have onward : ∀ outcome ∈ s.history, outcome.time ≤ call.time := fun outcome member =>
    Nat.le_trans (kept.past outcome member) ordered
  refine ⟨intervals.trans kept.intervals, fun hint => ?_, ?_, ?_, ?_, ?_⟩
  · -- The note follows the last accepted hint of its kind, and only the kind of the call moves.
    rw [history, noted, lastOf_cons]
    dsimp only
    by_cases is : accepted = true
    · rw [if_pos is]
      by_cases own : call.hint = hint
      · subst own
        rw [Function.update_self, if_pos ⟨rfl, is⟩]
        rfl
      · rw [Function.update_of_ne (Ne.symm own), if_neg fun both => own both.1]
        exact kept.noted hint
    · rw [if_neg is, if_neg fun both => is both.2]
      exact kept.noted hint
  · rw [history, now]
    exact List.forall_mem_cons.mpr ⟨Nat.le_refl _, onward⟩
  · rw [history]
    exact List.pairwise_cons.mpr ⟨onward, kept.chronological⟩
  · -- Only the new hint has to be compared with those before it.
    rw [history, intervals]
    refine List.pairwise_cons.mpr ⟨fun earlier member same is before notZero => ?_, kept.apart⟩
    exact kept.apart_of_accepted (verdict.mp is) ordered member same before notZero
  · -- The highest frequency never changes, so what was issued is what would be issued now.
    rw [history]
    refine List.forall_mem_cons.mpr ⟨?_, fun outcome member => ?_⟩
    · rw [hintRequests_congr frequency]
      exact issued
    · rw [hintRequests_congr frequency]
      exact kept.issued outcome member

/-- An accepted hint boosts precisely when it asks for it. -/
theorem BoostRun.Kept.boosts_iff (kept : s.Kept) {outcome : HintOutcome}
    (member : outcome ∈ s.history) :
    outcome.Boosts ↔ outcome.accepted = true ∧ asksBoost outcome.hint outcome.data := by
  unfold HintOutcome.Boosts
  -- What an outcome issued is decided by whether it was accepted.
  rw [kept.issued outcome member]
  split
  · rename_i accepted
    rw [boosts_hintRequests_iff]
    exact ⟨fun asks => ⟨accepted, asks⟩, fun both => both.2⟩
  · rename_i rejected
    exact ⟨nofun, fun both => absurd both.1 rejected⟩

/-- The kinds of hints that may boost are numbers the check knows. -/
theorem lt_of_asksBoost {hint : Nat} {data : Bool} (asks : asksBoost hint data) :
    hint < maxPowerHintCount := by
  rcases asks with rfl | rfl | ⟨rfl, _⟩ <;> decide

/-- A masked hint asks for a boost and is rejected, though none of its kind has boosted. -/
theorem BoostCall.Masked.suppressed (kept : s.Kept) (ordered : s.now ≤ call.time)
    (masked : call.Masked s) :
    asksBoost call.hint call.data ∧ ¬ call.Accepted s ∧ ¬ call.Caused s := by
  obtain ⟨vsync, data, ⟨last, found, plain, positive, recent⟩, never⟩ := masked
  have interval : s.info.hintInterval call.hint = 100000 := by
    rw [vsync, kept.intervals, hintInterval_vsync]
  have note := kept.noted call.hint
  rw [vsync, found, Option.map_some, Option.getD_some] at note
  refine ⟨.inr (.inr ⟨vsync, data⟩), fun accepted => ?_, ?_⟩
  · -- The hint without data is noted, and it is too recent.
    rw [← vsync] at note
    rcases BoostCall.accepted_iff.mp accepted with ⟨_, zero | free | apart⟩ <;> omega
  · rintro ⟨earlier, member, same, boosted, within⟩
    obtain ⟨before, asks⟩ := (kept.boosts_iff member).mp boosted
    rw [interval] at within
    rw [vsync] at same
    have late := kept.past last (of_lastOf found).1
    -- It is not the last hint that has boosted, and an earlier one came too early.
    have withData : earlier.data = true := by
      rw [same] at asks
      rcases asks with interaction | launch | ⟨_, is⟩
      · exact absurd interaction (by decide)
      · exact absurd launch (by decide)
      · exact is
    rw [← same] at found
    rcases of_lastOf_pairwise kept.apart found member before with rfl | apart
    · rw [withData] at plain
      cases plain
    · obtain ⟨_, is, isAccepted⟩ := of_lastOf found
      have gap := apart is isAccepted before
      rw [is, same, kept.intervals, hintInterval_vsync] at gap
      have zero : earlier.time = 0 := by
        by_contra notZero
        have := gap notZero
        omega
      exact never ⟨by omega, earlier, member, same, withData, before, zero⟩

/-- A hint that asks for a boost in vain, though none of its kind has boosted, is masked. -/
theorem BoostCall.masked_of_suppressed (kept : s.Kept) (asks : asksBoost call.hint call.data)
    (rejected : ¬ call.Accepted s) (without : ¬ call.Caused s) : call.Masked s := by
  have note := kept.noted call.hint
  rw [BoostCall.accepted_iff] at rejected
  have known := lt_of_asksBoost asks
  cases found : lastOf s.history call.hint with
  | none =>
    rw [found] at note
    exact absurd ⟨known, .inl note⟩ rejected
  | some last =>
    rw [found, Option.map_some, Option.getD_some] at note
    obtain ⟨member, same, accepted⟩ := of_lastOf found
    have recent : call.time < last.time + s.info.hintInterval call.hint := by
      by_contra late
      exact rejected ⟨known, .inr (.inr (by omega))⟩
    -- The last hint cannot have boosted, so it was one to synchronise without data.
    have quiet : ¬ asksBoost last.hint last.data := fun asked =>
      without ⟨last, member, same, (kept.boosts_iff member).mpr ⟨accepted, asked⟩, recent⟩
    have vsync : call.hint = powerHintVsync ∧ call.data = true := by
      rcases asks with interaction | launch | both
      · exact absurd (.inl (same.trans interaction)) quiet
      · exact absurd (.inr (.inl (same.trans launch))) quiet
      · exact both
    have plain : last.data = false := by
      by_contra withData
      exact quiet (.inr (.inr ⟨same.trans vsync.1, Bool.not_eq_false _ ▸ withData⟩))
    -- The masking hint is recent by the interval of its kind, and it was not noted as zero.
    have interval : s.info.hintInterval call.hint = 100000 := by
      rw [vsync.1, kept.intervals, hintInterval_vsync]
    rw [interval] at recent
    rw [vsync.1] at found
    refine ⟨vsync.1, vsync.2, ⟨last, found, plain, by omega, recent⟩, ?_⟩
    rintro ⟨early, outcome, present, kind, withData, was, zero⟩
    -- One accepted with data at time zero would have boosted within the interval.
    refine without ⟨outcome, present, kind.trans vsync.1.symm, ?_, by rw [interval]; omega⟩
    exact (kept.boosts_iff present).mpr ⟨was, .inr (.inr ⟨kind, withData⟩)⟩

/-- A history stays justified precisely when the hint it gains is not masked. -/
theorem justified_taken_iff (kept : s.Kept) (justified : Justified s.info.hintInterval s.history)
    (stepped : boostStep s call = some next) :
    Justified next.info.hintInterval next.history ↔ ¬ call.Masked s := by
  have after := kept.taken stepped
  obtain ⟨ordered, _, _, intervals, accepted, requests, history, verdict, _, _⟩ :=
    boostStep_cases stepped
  have boosts := after.boosts_iff (history ▸ List.mem_cons_self)
  rw [history, intervals]
  unfold Justified
  rw [boosts, verdict]
  constructor
  · -- A masked hint has neither a boost of its own nor a cause.
    rintro ⟨cause, _⟩ masked
    obtain ⟨asks, rejected, without⟩ := masked.suppressed kept ordered
    rcases cause asks with boosted | caused
    · exact rejected boosted.1
    · exact without caused
  · intro clear
    refine ⟨fun asks => ?_, justified⟩
    -- A hint that is accepted boosts itself, and one that is not needs an earlier one.
    by_cases is : call.Accepted s
    · exact .inl ⟨is, asks⟩
    · refine .inr ?_
      by_contra without
      exact clear (BoostCall.masked_of_suppressed kept asks is without)

end Steps

/--
Every hint of a run that asks for a boost gets it, or comes within the interval of one that did,
precisely when no hint to synchronise is masked by an earlier one without data.
-/
theorem justified_always_iff (maxFrequency : Int) (calls : List BoostCall) (final : BoostRun)
    (ran : run boostStep (.opened maxFrequency) calls = some final) :
    Always boostStep (fun s => Justified s.info.hintInterval s.history) (.opened maxFrequency)
        calls ↔
      Along boostStep (fun s call => ¬ call.Masked s) (.opened maxFrequency) calls :=
  always_iff_along (fun _ _ _ kept stepped => BoostRun.Kept.taken kept stepped)
    (fun _ _ _ kept justified stepped => justified_taken_iff kept justified stepped)
    BoostRun.kept_opened trivial ran

/-- Hints to synchronise with data, 150 milliseconds apart. -/
def synchronisations : List BoostCall :=
  [⟨powerHintVsync, true, 1000000⟩, ⟨powerHintVsync, true, 1150000⟩]

/-- Synchronisations with data mask nothing. -/
theorem justified_always_iff_synchronisations : ∃ final,
    run boostStep (.opened 1300000) synchronisations = some final ∧
      (Always boostStep (fun s => Justified s.info.hintInterval s.history) (.opened 1300000)
          synchronisations ↔
        Along boostStep (fun s call => ¬ call.Masked s) (.opened 1300000) synchronisations) :=
  ⟨_, rfl, justified_always_iff 1300000 synchronisations _ rfl⟩

/-- The end of an animation, and 16 milliseconds later the begin of the next one. -/
def masking : List BoostCall :=
  [⟨powerHintVsync, false, 1000000⟩, ⟨powerHintVsync, true, 1016000⟩]

/-- The second hint asks for the first boost ever, and gets none. -/
theorem not_justified_masking : ∃ final,
    run boostStep (.opened 1300000) masking = some final ∧
      final.history = [⟨1, true, 1016000, false, []⟩, ⟨1, false, 1000000, true, []⟩] ∧
      ¬ Justified final.info.hintInterval final.history := by
  refine ⟨_, rfl, rfl, fun justified => ?_⟩
  -- The only earlier hint has issued nothing either.
  rcases justified.1 (.inr (.inr ⟨rfl, rfl⟩)) with boosts | ⟨earlier, member, _, boosts, _⟩
  · cases boosts
  · obtain rfl := List.mem_singleton.mp member
    cases boosts

end Grouper.Power
