import Mathlib.Order.Bounds.Basic
import Mathlib.Order.Nat

/-! The first index below a bound at which something holds. -/

namespace Grouper

/-- The least index below a bound that passes a test. -/
def firstBelow (p : Nat → Bool) (bound : Nat) : Option Nat := (List.range bound).find? p

section FirstBelow

variable {p : Nat → Bool} {bound i : Nat}

/-- Nothing is found among no indices. -/
@[simp] theorem firstBelow_zero : firstBelow p 0 = none := rfl

/-- One more index is looked at only while nothing was found. -/
theorem firstBelow_succ (p : Nat → Bool) (bound : Nat) :
    firstBelow p (bound + 1) =
      (firstBelow p bound).or (if p bound then some bound else none) := by
  -- The last index is looked at last.
  unfold firstBelow
  rw [List.range_succ, List.find?_append]
  simp

/-- Nothing is found when there is nothing. -/
theorem firstBelow_eq_none : firstBelow p bound = none ↔ ∀ i < bound, p i = false := by
  simp [firstBelow]

/-- What is found is the least index of all that pass, below the bound or not. -/
theorem firstBelow_eq_some :
    firstBelow p bound = some i ↔ i < bound ∧ IsLeast {j | p j = true} i := by
  unfold firstBelow
  rw [List.find?_range_eq_some, List.mem_range]
  constructor
  · intro ⟨passes, below, first⟩
    refine ⟨below, passes, fun j other => ?_⟩
    -- A smaller index would have been found first.
    by_contra smaller
    have fails := first j (Nat.lt_of_not_le smaller)
    simp [show p j = true from other] at fails
  · intro ⟨below, passes, least⟩
    refine ⟨passes, below, fun j smaller => ?_⟩
    have fails : ¬ p j = true := fun other => absurd (least other) (Nat.not_le.mpr smaller)
    simpa using fails

/-- Something is found when there is something. -/
theorem firstBelow_ne_none : firstBelow p bound ≠ none ↔ ∃ i < bound, p i = true := by
  rw [Ne, firstBelow_eq_none]
  simp

/-- If any index passes, one of them is the least. -/
theorem exists_isLeast (passes : p i = true) : ∃ least, IsLeast {j | p j = true} least := by
  -- A search that goes beyond the index finds something.
  have ends : firstBelow p (i + 1) ≠ none := firstBelow_ne_none.mpr ⟨i, by omega, passes⟩
  obtain ⟨least, found⟩ := Option.ne_none_iff_exists'.mp ends
  exact ⟨least, (firstBelow_eq_some.mp found).2⟩

end FirstBelow

end Grouper
