import Mathlib.Data.List.Basic

/-! Histories of requests of several kinds, and what it means that they were throttled. -/

namespace Grouper

variable {κ : Type*}

/-- A request: its kind, when it came, and whether it was accepted. -/
structure Verdict (κ : Type*) where
  kind : κ
  time : Nat
  accepted : Bool
  deriving DecidableEq, Repr

/-- A history in the order of time, with the newest request first. -/
def Chronological (history : List (Verdict κ)) : Prop :=
  history.Pairwise fun later earlier => earlier.time ≤ later.time

/-- A request of the kind was accepted less than the interval before a time. -/
def AcceptedWithin (interval : Nat) (history : List (Verdict κ)) (kind : κ) (time : Nat) : Prop :=
  ∃ v ∈ history, v.kind = kind ∧ v.accepted = true ∧ time < v.time + interval

/-- Every request was rejected just when one of its kind had been accepted within the interval. -/
def Throttled (interval : κ → Nat) : List (Verdict κ) → Prop
  | [] => True
  | v :: history =>
    (v.accepted = false ↔ AcceptedWithin (interval v.kind) history v.kind v.time) ∧
      Throttled interval history

/-- Accepted requests of one kind are at least the interval apart. -/
def Spaced (interval : κ → Nat) (history : List (Verdict κ)) : Prop :=
  history.Pairwise fun later earlier => later.kind = earlier.kind → later.accepted = true →
    earlier.accepted = true → earlier.time + interval later.kind ≤ later.time

section Last

variable [DecidableEq κ]

/-- When a request of the kind was last accepted, if one ever was. -/
def lastAccepted (history : List (Verdict κ)) (kind : κ) : Option Nat :=
  match history with
  | [] => none
  | v :: history => if v.kind = kind ∧ v.accepted = true then some v.time
    else lastAccepted history kind

/-- A new request that is accepted is the last one of its kind, and of no other. -/
theorem lastAccepted_cons (v : Verdict κ) (history : List (Verdict κ)) (kind : κ) :
    lastAccepted (v :: history) kind =
      if v.kind = kind ∧ v.accepted = true then some v.time else lastAccepted history kind := rfl

/-- What was accepted last is part of the history. -/
theorem exists_of_lastAccepted {history : List (Verdict κ)} {kind : κ} {last : Nat}
    (found : lastAccepted history kind = some last) :
    ∃ v ∈ history, v.kind = kind ∧ v.accepted = true ∧ v.time = last := by
  -- The induction follows the search back in time.
  induction history with
  | nil => cases found
  | cons v history ih =>
    rw [lastAccepted_cons] at found
    split at found
    · rename_i here
      exact ⟨v, List.mem_cons_self, here.1, here.2, Option.some.inj found⟩
    · obtain ⟨u, member, rest⟩ := ih found
      exact ⟨u, List.mem_cons_of_mem v member, rest⟩

/-- Nothing of the kind was accepted later than what was accepted last. -/
theorem Chronological.le_lastAccepted {history : List (Verdict κ)}
    (chronological : Chronological history) {u : Verdict κ} (member : u ∈ history)
    (accepted : u.accepted = true) :
    ∃ last, lastAccepted history u.kind = some last ∧ u.time ≤ last := by
  -- The induction finds the newest accepted request of the kind on its way back.
  induction history with
  | nil => cases member
  | cons v history ih =>
    obtain ⟨earlier, chronological⟩ := List.pairwise_cons.mp chronological
    rw [lastAccepted_cons]
    split
    · -- The newest request is at least as late as any other.
      rcases List.mem_cons.mp member with rfl | member
      · exact ⟨u.time, rfl, Nat.le_refl _⟩
      · exact ⟨v.time, rfl, earlier u member⟩
    · rename_i other
      rcases List.mem_cons.mp member with rfl | member
      · exact absurd ⟨rfl, accepted⟩ other
      · exact ih chronological member

/-- Only the last accepted request of the kind matters. -/
theorem Chronological.acceptedWithin_iff {history : List (Verdict κ)}
    (chronological : Chronological history) (interval : Nat) (kind : κ) (time : Nat) :
    AcceptedWithin interval history kind time ↔
      ∃ last, lastAccepted history kind = some last ∧ time < last + interval := by
  constructor
  · -- Whatever was accepted within the interval is no later than the last one.
    rintro ⟨v, member, rfl, accepted, recent⟩
    obtain ⟨last, found, later⟩ := chronological.le_lastAccepted member accepted
    exact ⟨last, found, by omega⟩
  · rintro ⟨last, found, recent⟩
    obtain ⟨v, member, same, accepted, rfl⟩ := exists_of_lastAccepted found
    exact ⟨v, member, same, accepted, recent⟩

end Last

/-- What is throttled is spaced. -/
theorem Throttled.spaced {interval : κ → Nat} {history : List (Verdict κ)}
    (throttled : Throttled interval history) : Spaced interval history := by
  -- Each verdict is judged against the history it was made on.
  induction history with
  | nil => exact List.Pairwise.nil
  | cons v history ih =>
    obtain ⟨exact_, throttled⟩ := throttled
    refine List.pairwise_cons.mpr ⟨fun u member same accepted before => ?_, ih throttled⟩
    -- Were it nearer, the newest request would have been rejected.
    by_contra near
    have recent : AcceptedWithin (interval v.kind) history v.kind v.time :=
      ⟨u, member, same.symm, before, by omega⟩
    rw [exact_.mpr recent] at accepted
    cases accepted

end Grouper
