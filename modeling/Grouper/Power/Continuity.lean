import Grouper.Power.Boosts
import Mathlib.Data.Real.Basic
import Mathlib.Tactic.Linarith
import Mathlib.Tactic.NormNum

/-! Whether the boosts of interaction hints go on without a gap. -/

namespace Grouper.Power

/-- The processor frequency is held up at an instant by a hint that was accepted. -/
def HintOutcome.Holds (outcome : HintOutcome) (instant : ℝ) : Prop :=
  outcome.accepted = true ∧ ∃ request ∈ outcome.requests, request.filename = "/dev/cpu_freq_min" ∧
    -- Times are in microseconds, and timeouts in nanoseconds.
    outcome.time ≤ instant ∧ instant ≤ outcome.time + request.timeout / 1000

/-- The processor frequency is held up at every instant from the first hint to the last. -/
def HeldThroughout (history : List HintOutcome) : Prop :=
  ∀ instant : ℝ, (∃ first ∈ history, first.time ≤ instant) →
    (∃ last ∈ history, instant ≤ last.time) → ∃ outcome ∈ history, outcome.Holds instant

/-- An interaction hint comes while the boost of the last accepted one is held. -/
def BoostCall.InTime (s : BoostRun) (call : BoostCall) : Prop :=
  ∀ last, lastOf s.history powerHintInteraction = some last → call.time ≤ last.time + 100000

/-- What interaction hints keep when there are no others. -/
structure BoostRun.Interactive (s : BoostRun) : Prop where
  kept : s.Kept
  only : ∀ outcome ∈ s.history, outcome.hint = powerHintInteraction
  /-- Hints are rejected only while the boost of an accepted one is held. -/
  fresh : s.history ≠ [] → ∃ last, lastOf s.history powerHintInteraction = some last ∧
    s.now ≤ last.time + 100000

/-- Interactions are told apart by a tenth of a second. -/
theorem hintInterval_interaction :
    (PowerhalInfo.opened 0).hintInterval powerHintInteraction = 100000 := rfl

section Interaction

variable {s next : BoostRun} {call : BoostCall}

/-- An accepted interaction hint holds the frequency up for 100 milliseconds. -/
theorem BoostRun.Interactive.holds_iff (interactive : s.Interactive) {outcome : HintOutcome}
    (member : outcome ∈ s.history) (instant : ℝ) :
    outcome.Holds instant ↔ outcome.accepted = true ∧ outcome.time ≤ instant ∧
      instant ≤ outcome.time + 100000 := by
  -- Both requests of a boost last for its tenth of a second.
  unfold HintOutcome.Holds
  refine and_congr_right fun accepted => ?_
  rw [interactive.kept.issued outcome member, if_pos accepted, interactive.only outcome member]
  have boosts : hintRequests s.info powerHintInteraction outcome.data =
      boost s.info defaultMinOnlineCpus (ms2ns 100) := rfl
  have whole : ((ms2ns 100 : Nat) : ℝ) / 1000 = 100000 := by
    norm_num [ms2ns]
  rw [boosts]
  constructor
  · rintro ⟨request, issued, _, from_, until_⟩
    have timeout : request.timeout = ms2ns 100 := by
      rcases List.mem_pair.mp issued with rfl | rfl <;> rfl
    rw [timeout, whole] at until_
    exact ⟨from_, until_⟩
  · rintro ⟨from_, until_⟩
    exact ⟨_, List.mem_cons_self, rfl, from_, by rw [whole]; exact until_⟩

/-- Interaction hints go on to be the only ones, and rejected only while a boost is held. -/
theorem BoostRun.Interactive.taken (interactive : s.Interactive)
    (interaction : call.hint = powerHintInteraction) (stepped : boostStep s call = some next) :
    next.Interactive := by
  obtain ⟨ordered, now, _, _, accepted, requests, history, verdict, _, _⟩ :=
    boostStep_cases stepped
  refine ⟨interactive.kept.taken stepped, ?_, fun _ => ?_⟩
  · rw [history]
    exact List.forall_mem_cons.mpr ⟨interaction, interactive.only⟩
  · rw [history, now, lastOf_cons]
    dsimp only
    by_cases is : accepted = true
    · exact ⟨_, if_pos ⟨interaction, is⟩, Nat.le_add_right _ _⟩
    · -- The hint was rejected for the note of the last accepted one.
      rw [if_neg fun both => is both.2]
      have rejected := is ∘ verdict.mpr
      rw [BoostCall.accepted_iff, interaction] at rejected
      have note := interactive.kept.noted powerHintInteraction
      have interval : s.info.hintInterval powerHintInteraction = 100000 := by
        rw [interactive.kept.intervals, hintInterval_interaction]
      have known : powerHintInteraction < maxPowerHintCount := by decide
      cases found : lastOf s.history powerHintInteraction with
      | none =>
        rw [found] at note
        exact absurd ⟨known, .inl note⟩ rejected
      | some last =>
        rw [found, Option.map_some, Option.getD_some] at note
        refine ⟨last, rfl, ?_⟩
        by_contra late
        exact rejected ⟨known, .inr (.inr (by omega))⟩

/-- Every accepted interaction hint is at most as late as the last one. -/
theorem BoostRun.Interactive.le_last (interactive : s.Interactive) {last outcome : HintOutcome}
    (found : lastOf s.history powerHintInteraction = some last) (member : outcome ∈ s.history)
    (accepted : outcome.accepted = true) : outcome.time ≤ last.time := by
  -- All outcomes are interactions, and they are in order.
  rw [← interactive.only outcome member] at found
  rcases of_lastOf_pairwise interactive.kept.chronological found member accepted with rfl | order
  · exact Nat.le_refl _
  · exact order

/-- A hint that comes too late leaves a gap in front of it. -/
theorem HeldThroughout.inTime (interactive : s.Interactive) (after : next.Interactive)
    {outcome : HintOutcome} (now : outcome.time = call.time)
    (history : next.history = outcome :: s.history) (held : HeldThroughout next.history) :
    call.InTime s := by
  intro last found
  by_contra late
  obtain ⟨member, _, _⟩ := of_lastOf found
  have late : (last.time : ℝ) + 100000 < call.time := by exact_mod_cast Nat.lt_of_not_le late
  rw [history] at held
  -- In the middle of the gap nothing is held.
  obtain ⟨holder, among, holds⟩ := held ((last.time + 100000 + call.time) / 2)
    ⟨last, List.mem_cons_of_mem _ member, by linarith⟩
    ⟨outcome, List.mem_cons_self, by rw [now]; linarith⟩
  -- The new hint holds from its own time on, and the last accepted one up to 100 milliseconds.
  obtain ⟨accepted, from_, until_⟩ := (after.holds_iff (history ▸ among) _).mp holds
  rcases List.mem_cons.mp among with rfl | among
  · rw [now] at from_
    linarith
  · have before : (holder.time : ℝ) ≤ last.time :=
      Nat.cast_le.mpr (interactive.le_last found among accepted)
    linarith

/-- Without a hint in between, nothing that was held before is held only by the new hint. -/
theorem HeldThroughout.before (interactive : s.Interactive) {outcome : HintOutcome}
    (now : s.now ≤ outcome.time) (held : HeldThroughout (outcome :: s.history)) :
    HeldThroughout s.history := by
  rintro instant first ⟨last, member, to_⟩
  obtain ⟨recent, found, fresh⟩ := interactive.fresh (List.ne_nil_of_mem member)
  obtain ⟨present, _, accepted⟩ := of_lastOf found
  rcases le_or_gt (recent.time : ℝ) instant with since | before
  · -- The boost of the last accepted hint reaches to the last hint.
    have end_ : (last.time : ℝ) ≤ recent.time + 100000 := by
      exact_mod_cast Nat.le_trans (interactive.kept.past last member) fresh
    exact ⟨recent, present,
      (interactive.holds_iff present instant).mpr ⟨accepted, since, le_trans to_ end_⟩⟩
  · obtain ⟨start, among, from_⟩ := first
    -- Before it the instant lies between two hints of the shorter history.
    obtain ⟨holder, among, holds⟩ := held instant ⟨start, List.mem_cons_of_mem _ among, from_⟩
      ⟨recent, List.mem_cons_of_mem _ present, le_of_lt before⟩
    rcases List.mem_cons.mp among with rfl | among
    · -- The new hint is later than that.
      obtain ⟨_, _, _, _, later, _⟩ := holds
      have order : (recent.time : ℝ) ≤ holder.time :=
        Nat.cast_le.mpr (Nat.le_trans (interactive.kept.past recent present) now)
      linarith
    · exact ⟨holder, among, holds⟩

/-- A hint that comes in time leaves no gap. -/
theorem HeldThroughout.cons (interactive : s.Interactive) {recent outcome : HintOutcome}
    (found : lastOf s.history powerHintInteraction = some recent) (now : s.now ≤ outcome.time)
    (inTime : outcome.time ≤ recent.time + 100000) (held : HeldThroughout s.history) :
    HeldThroughout (outcome :: s.history) := by
  obtain ⟨present, _, accepted⟩ := of_lastOf found
  have order : (recent.time : ℝ) ≤ outcome.time :=
    Nat.cast_le.mpr (Nat.le_trans (interactive.kept.past recent present) now)
  have reach : (outcome.time : ℝ) ≤ recent.time + 100000 := by exact_mod_cast inTime
  rintro instant ⟨first, among, from_⟩ ⟨last, member, to_⟩
  rcases le_or_gt instant (recent.time : ℝ) with until_ | since
  · -- Up to the last accepted hint nothing has changed.
    have earlier : ∃ start ∈ s.history, (start.time : ℝ) ≤ instant := by
      rcases List.mem_cons.mp among with rfl | among
      · exact ⟨recent, present, by linarith⟩
      · exact ⟨first, among, from_⟩
    obtain ⟨holder, among, holds⟩ := held instant earlier ⟨recent, present, until_⟩
    exact ⟨holder, List.mem_cons_of_mem _ among, holds⟩
  · -- From there its boost reaches to the new hint.
    have past : (last.time : ℝ) ≤ outcome.time := by
      rcases List.mem_cons.mp member with rfl | member
      · exact le_refl _
      · exact Nat.cast_le.mpr (Nat.le_trans (interactive.kept.past last member) now)
    exact ⟨recent, List.mem_cons_of_mem _ present,
      (interactive.holds_iff present instant).mpr ⟨accepted, by linarith, by linarith⟩⟩

/-- The boosts go on without a gap precisely when a hint comes while one is held. -/
theorem heldThroughout_taken_iff (interactive : s.Interactive)
    (interaction : call.hint = powerHintInteraction) (stepped : boostStep s call = some next) :
    HeldThroughout next.history ↔ HeldThroughout s.history ∧ call.InTime s := by
  have after := interactive.taken interaction stepped
  obtain ⟨ordered, _, _, _, accepted, requests, history, verdict, _, _⟩ :=
    boostStep_cases stepped
  constructor
  · intro held
    -- The two halves of the condition say what went on before the hint and right before it.
    have inTime := held.inTime interactive after rfl history
    rw [history] at held
    exact ⟨held.before interactive ordered, inTime⟩
  · rintro ⟨held, inTime⟩
    cases found : lastOf s.history powerHintInteraction with
    | some recent =>
      rw [history]
      exact held.cons interactive found ordered (inTime recent found)
    | none =>
      -- The first hint is accepted, and there is only one instant.
      have first : s.history = [] := by
        by_contra some_
        obtain ⟨last, is, _⟩ := interactive.fresh some_
        rw [found] at is
        cases is
      have note := interactive.kept.noted call.hint
      rw [interaction, found] at note
      have is : accepted = true := by
        rw [verdict, BoostCall.accepted_iff, interaction]
        exact ⟨by decide, .inl note⟩
      rw [history, first]
      rintro instant ⟨start, among, from_⟩ ⟨last, member, to_⟩
      obtain rfl := List.mem_singleton.mp among
      obtain rfl := List.mem_singleton.mp member
      have holds := after.holds_iff (history ▸ List.mem_cons_self) instant
      exact ⟨_, List.mem_singleton_self _, holds.mpr ⟨is, from_, by linarith⟩⟩

end Interaction

/-- The HAL as it is opened has had no hints. -/
theorem BoostRun.interactive_opened {maxFrequency : Int} :
    (BoostRun.opened maxFrequency).Interactive :=
  ⟨BoostRun.kept_opened, List.forall_mem_nil _, fun some_ => absurd rfl some_⟩

/--
From the first of a sequence of interaction hints to the last, the frequency is always held up
precisely when no hint comes more than 100 milliseconds after the one last accepted before it.
-/
theorem heldThroughout_iff (maxFrequency : Int) (calls : List BoostCall) (final : BoostRun)
    (interactions : ∀ call ∈ calls, call.hint = powerHintInteraction)
    (ran : run boostStep (.opened maxFrequency) calls = some final) :
    HeldThroughout final.history ↔
      Along boostStep (fun s call => call.InTime s) (.opened maxFrequency) calls := by
  -- That all are interaction hints is a condition on the calls, whatever state they meet.
  have side : Along boostStep (fun _ call => call.hint = powerHintInteraction)
      (.opened maxFrequency) calls := along_of_forall interactions _
  have nothing : HeldThroughout (BoostRun.opened maxFrequency).history := by
    rintro _ ⟨_, member, _⟩
    cases member
  rw [last_iff_along_of_side
    (fun _ _ _ interactive interaction stepped => interactive.taken interaction stepped)
    (fun _ _ _ interactive interaction stepped =>
      heldThroughout_taken_iff interactive interaction stepped)
    BoostRun.interactive_opened side ran]
  exact and_iff_right nothing

/-- Interaction hints from the first second on, so many and so many microseconds apart. -/
def interactionsEvery (gap count : Nat) : List BoostCall :=
  (List.range count).map fun index => ⟨powerHintInteraction, false, 1000000 + index * gap⟩

/-- Hints that come every hundredth of a second. -/
theorem heldThroughout_iff_every : ∃ final,
    run boostStep (.opened 1300000) (interactionsEvery 10000 12) = some final ∧
      (HeldThroughout final.history ↔
        Along boostStep (fun s call => call.InTime s) (.opened 1300000)
          (interactionsEvery 10000 12)) :=
  ⟨_, rfl, heldThroughout_iff 1300000 (interactionsEvery 10000 12) _ (by decide) rfl⟩

/-- With hints 9.9 milliseconds apart, the eleventh is rejected and the twelfth is late. -/
theorem not_heldThroughout_every : ∃ final,
    run boostStep (.opened 1300000) (interactionsEvery 9900 12) = some final ∧
      (interactionsEvery 9900 12).IsChain (fun call next => next.time ≤ call.time + 10000) ∧
      ¬ HeldThroughout final.history := by
  obtain ⟨final, ran⟩ : ∃ final, run boostStep (.opened 1300000) (interactionsEvery 9900 12) =
      some final := Option.isSome_iff_exists.mp (by decide +kernel)
  refine ⟨final, ran, by decide, fun held => ?_⟩
  -- What holds is read off the history, so the history has to be one of interaction hints.
  have interactive : final.Interactive := run_invariant
    (fun _ _ _ interactive interaction stepped => interactive.taken interaction stepped)
    BoostRun.interactive_opened (along_of_forall (by decide) _) ran
  -- Of the twelve hints the first and the last are accepted.
  have times : final.history.map (fun outcome => (outcome.time, outcome.accepted)) =
      (1108900, true) :: ((List.range 10).reverse.map fun index => (1009900 + index * 9900, false))
        ++ [(1000000, true)] := by
    have computed := congrArg (Option.map fun s : BoostRun =>
      s.history.map fun outcome => (outcome.time, outcome.accepted)) ran
    exact Option.some.inj (computed.symm.trans (by decide +kernel))
  obtain ⟨first, among, is⟩ := List.mem_map.mp
    (show (1000000, true) ∈ final.history.map fun o => (o.time, o.accepted) by rw [times]; decide)
  obtain ⟨last, member, was⟩ := List.mem_map.mp
    (show (1108900, true) ∈ final.history.map fun o => (o.time, o.accepted) by rw [times]; decide)
  -- The boost of the first lasts up to 100 milliseconds, and the last comes at 108.9.
  have begin_ : first.time = 1000000 := congrArg Prod.fst is
  have end_ : last.time = 1108900 := congrArg Prod.fst was
  obtain ⟨holder, present, holds⟩ := held 1105000
    ⟨first, among, by rw [begin_]; norm_num⟩ ⟨last, member, by rw [end_]; norm_num⟩
  obtain ⟨accepted, from_, until_⟩ := (interactive.holds_iff present _).mp holds
  have pair : (holder.time, true) ∈ (1108900, true) ::
      ((List.range 10).reverse.map fun index => (1009900 + index * 9900, false)) ++
        [(1000000, true)] := by
    rw [← times, ← accepted]
    exact List.mem_map_of_mem present
  have which : holder.time = 1108900 ∨ holder.time = 1000000 := by simpa using pair
  -- Neither of the two accepted hints holds at 1105 milliseconds.
  rcases which with late | early
  · rw [late] at from_
    norm_num at from_
  · rw [early] at until_
    norm_num at until_

end Grouper.Power
