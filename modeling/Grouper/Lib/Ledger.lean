import Mathlib.Data.List.Count
import Mathlib.Logic.Function.Basic

/-! Logs of the calls made on handles, and the books that tell who holds which handle. -/

namespace Grouper

open Function (update)

/-- A call on handles `η` made on behalf of the owners `ω`; an absent handle is a null pointer. -/
inductive HandleEvent (ω η : Type*) where
  | opened (owner : ω) (handle : η)
  | closed (handle : Option η)
  | used (handle : Option η)
  deriving DecidableEq

namespace HandleEvent

variable {ω η : Type*}

/-- A handle that was opened and has not been closed. The newest event of a log comes first. -/
def Live (past : List (HandleEvent ω η)) (handle : η) : Prop :=
  (∃ owner, opened owner handle ∈ past) ∧ closed (some handle) ∉ past

/-- The argument of a call is a live handle, so in particular no null pointer. -/
def Valid (past : List (HandleEvent ω η)) (argument : Option η) : Prop :=
  ∃ handle, argument = some handle ∧ Live past handle

/-- Every call that takes a handle was made on a live one. -/
def Legal : List (HandleEvent ω η) → Prop
  | [] => True
  | opened _ _ :: past => Legal past
  | closed argument :: past => Valid past argument ∧ Legal past
  | used argument :: past => Valid past argument ∧ Legal past

/-- Nothing has gone wrong before the first event. -/
@[simp] theorem legal_nil : Legal ([] : List (HandleEvent ω η)) := trivial

/-- Opening is always legal. -/
@[simp] theorem legal_opened (owner : ω) (handle : η) (past : List (HandleEvent ω η)) :
    Legal (opened owner handle :: past) ↔ Legal past := Iff.rfl

/-- Closing asks for a handle that is open. -/
@[simp] theorem legal_closed (argument : Option η) (past : List (HandleEvent ω η)) :
    Legal (closed argument :: past) ↔ Valid past argument ∧ Legal past := Iff.rfl

/-- So does using. -/
@[simp] theorem legal_used (argument : Option η) (past : List (HandleEvent ω η)) :
    Legal (used argument :: past) ↔ Valid past argument ∧ Legal past := Iff.rfl

/-- Uses change nothing about which handles are live. -/
@[simp] theorem live_used (argument : Option η) (past : List (HandleEvent ω η)) (handle : η) :
    Live (used argument :: past) handle ↔ Live past handle := by
  simp [Live]

/-- A handle is live at once after it was opened, unless it was closed before. -/
theorem live_opened {past : List (HandleEvent ω η)} (owner : ω) {handle : η}
    (unclosed : closed (some handle) ∉ past) : Live (opened owner handle :: past) handle :=
  ⟨⟨owner, List.mem_cons_self⟩, by simpa using unclosed⟩

/-- A valid argument may be used any number of times. -/
theorem Legal.useMany {past : List (HandleEvent ω η)} (legal : Legal past) {argument : Option η}
    (valid : Valid past argument) (uses : Nat) :
    Legal (List.replicate uses (used argument) ++ past) := by
  obtain ⟨handle, is, live⟩ := valid
  -- Uses keep the handle live, so each use is as valid as the first.
  have stays : ∀ uses, Live (List.replicate uses (used argument) ++ past) handle := by
    intro uses
    induction uses with
    | zero => exact live
    | succ uses ih => simpa [List.replicate_succ] using ih
  induction uses with
  | zero => exact legal
  | succ uses ih =>
    rw [List.replicate_succ]
    exact ⟨⟨handle, is, stays uses⟩, ih⟩

/-- In a legal log no handle is closed twice. -/
theorem Legal.count_closed_le_one [DecidableEq ω] [DecidableEq η]
    {log : List (HandleEvent ω η)} (legal : Legal log) (handle : η) :
    log.count (closed (some handle)) ≤ 1 := by
  -- A second close would have needed a handle the first one left dead.
  induction log with
  | nil => simp
  | cons event past ih =>
    cases event with
    | opened owner other => simpa using ih legal
    | used argument => simpa using ih legal.2
    | closed argument =>
      by_cases same : argument = some handle
      · subst same
        obtain ⟨it, is, _, unclosed⟩ := legal.1
        cases is
        simp [List.count_eq_zero_of_not_mem unclosed]
      · simpa [same] using ih legal.2

/--
The books of a log: `holding` tells which handle each owner still holds, and every handle seen so
far has a serial number below `next`.
-/
structure Books (serial : η → Nat) (log : List (HandleEvent ω η)) (next : Nat)
    (holding : ω → Option η) : Prop where
  tracks : ∀ owner handle, holding owner = some handle ↔
    opened owner handle ∈ log ∧ closed (some handle) ∉ log
  unique : ∀ owner other handle, opened owner handle ∈ log → opened other handle ∈ log →
    owner = other
  opened_below : ∀ owner handle, opened owner handle ∈ log → serial handle < next
  closed_below : ∀ handle, closed (some handle) ∈ log → serial handle < next

namespace Books

variable {serial : η → Nat} {log : List (HandleEvent ω η)} {next : Nat} {holding : ω → Option η}

/-- Before the first call nobody holds anything. -/
theorem nil (serial : η → Nat) : Books serial ([] : List (HandleEvent ω η)) 0 fun _ => none :=
  ⟨by simp, by simp, by simp, by simp⟩

/-- A held handle is live. -/
theorem live (books : Books serial log next holding) {owner : ω} {handle : η}
    (held : holding owner = some handle) : Live log handle :=
  let ⟨opening, unclosed⟩ := (books.tracks owner handle).mp held
  ⟨⟨owner, opening⟩, unclosed⟩

/-- A held handle is a valid argument. -/
theorem valid (books : Books serial log next holding) {owner : ω} {handle : η}
    (held : holding owner = some handle) : Valid log (some handle) :=
  ⟨handle, rfl, books.live held⟩

/-- A handle with a number not yet given out was never closed. -/
theorem fresh_unclosed (books : Books serial log next holding) (handle : η)
    (fresh : next ≤ serial handle) : closed (some handle) ∉ log :=
  fun member => Nat.not_lt.mpr fresh (books.closed_below handle member)

/-- Using handles changes no books. -/
theorem use (books : Books serial log next holding) (argument : Option η) :
    Books serial (used argument :: log) next holding where
  -- A use is none of the events that the books are about.
  tracks := by simpa using books.tracks
  unique := by simpa using books.unique
  opened_below := by simpa using books.opened_below
  closed_below := by simpa using books.closed_below

/-- Nor do any number of uses. -/
theorem useMany (books : Books serial log next holding) (argument : Option η) (uses : Nat) :
    Books serial (List.replicate uses (used argument) ++ log) next holding := by
  -- The induction is on the number of uses.
  induction uses with
  | zero => exact books
  | succ uses ih => exact ih.use argument

variable [DecidableEq ω]

/-- A fresh handle is entered under an owner who held nothing. -/
theorem open_ (books : Books serial log next holding) {owner : ω} {handle : η}
    (empty : holding owner = none) (fresh : serial handle = next) :
    Books serial (opened owner handle :: log) (next + 1) (update holding owner (some handle)) where
  tracks other it := by
    -- The handle is new, so nobody has opened or closed it before.
    have unopened : ∀ who, opened who handle ∉ log := fun who member =>
      absurd (books.opened_below who handle member) (by omega)
    have unclosed := books.fresh_unclosed handle (by omega)
    by_cases same : other = owner
    · subst same
      have nothing : ¬ (opened other it ∈ log ∧ closed (some it) ∉ log) := fun held => by
        simpa [empty] using (books.tracks other it).mpr held
      by_cases new : it = handle
      · subst new
        simp [unclosed]
      · simpa [new, Ne.symm new] using nothing
    · by_cases new : it = handle
      · subst new
        simp [same, unopened, books.tracks]
      · simp [same, books.tracks]
  unique who other it one two := by
    have below := books.opened_below
    simp only [List.mem_cons, HandleEvent.opened.injEq] at one two
    rcases one with ⟨rfl, rfl⟩ | one <;> rcases two with ⟨rfl, same⟩ | two
    · rfl
    · exact absurd (below _ _ two) (by omega)
    · subst same
      exact absurd (below _ _ one) (by omega)
    · exact books.unique who other it one two
  opened_below who it member := by
    simp only [List.mem_cons, HandleEvent.opened.injEq] at member
    rcases member with ⟨_, rfl⟩ | member
    · omega
    · exact Nat.lt_succ_of_lt (books.opened_below who it member)
  closed_below it member := by
    simp only [List.mem_cons, reduceCtorEq, false_or] at member
    exact Nat.lt_succ_of_lt (books.closed_below it member)

/-- A held handle leaves the books when it is closed. -/
theorem close (books : Books serial log next holding) {owner : ω} {handle : η}
    (held : holding owner = some handle) :
    Books serial (closed (some handle) :: log) next (update holding owner none) where
  tracks other it := by
    -- The owner held this handle and no other, and nobody else held it.
    obtain ⟨opening, _⟩ := (books.tracks owner handle).mp held
    by_cases same : other = owner
    · subst same
      have only : opened other it ∈ log → closed (some it) ∉ log → it = handle := fun o c => by
        have other_held := (books.tracks other it).mpr ⟨o, c⟩
        rw [held] at other_held
        exact (Option.some.inj other_held).symm
      simp only [Function.update_self, reduceCtorEq, List.mem_cons, false_or, not_or, false_iff]
      rintro ⟨o, new, c⟩
      exact new (by rw [only o c])
    · by_cases it_is : it = handle
      · subst it_is
        have apart : holding other ≠ some it := fun also =>
          same (books.unique _ _ _ ((books.tracks other it).mp also).1 opening)
        simp [same, apart]
      · simp [same, books.tracks, it_is]
  unique := by simpa using books.unique
  opened_below := by simpa using books.opened_below
  closed_below it member := by
    simp only [List.mem_cons, HandleEvent.closed.injEq, Option.some.injEq] at member
    rcases member with rfl | member
    · exact books.opened_below owner it ((books.tracks owner it).mp held).1
    · exact books.closed_below it member

/-- A handle that turns out unusable is used once more and closed, and the books stay as is. -/
theorem openFailed (books : Books serial log next holding) {owner : ω} {handle : η}
    (empty : holding owner = none) (fresh : serial handle = next) (argument : Option η) :
    Books serial (closed (some handle) :: used argument :: opened owner handle :: log) (next + 1)
      holding := by
  -- The handle is entered and taken out again.
  have entered : update holding owner (some handle) owner = some handle := Function.update_self ..
  have closing := ((books.open_ empty fresh).use argument).close entered
  rwa [Function.update_idem, ← empty, Function.update_eq_self] at closing

/-- Once its owner holds nothing, every handle opened for it has been closed exactly once. -/
theorem closed_once [DecidableEq η] (books : Books serial log next holding) (legal : Legal log)
    {owner : ω} (empty : holding owner = none) {handle : η} (opening : opened owner handle ∈ log) :
    log.count (closed (some handle)) = 1 := by
  -- It was closed, as nobody holds it; and a legal log closes it once.
  have member : closed (some handle) ∈ log := by
    by_contra unclosed
    simpa [empty] using (books.tracks owner handle).mpr ⟨opening, unclosed⟩
  have some_ := List.count_pos_iff.mpr member
  have few := legal.count_closed_le_one handle
  omega

end Books

end HandleEvent

end Grouper
