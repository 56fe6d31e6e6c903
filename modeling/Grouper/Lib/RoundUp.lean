import Mathlib.Algebra.Order.Field.Rat
import Mathlib.Algebra.Order.Field.Basic
import Mathlib.Order.Bounds.Basic
import Mathlib.Tactic.NormNum

/-! Rounding up to a multiple, of numbers and of quotients that were rounded down before. -/

namespace Grouper

/-- The multiple of a number that comes next, unless this is one already. -/
def roundUp (multiple n : Nat) : Nat := (n + (multiple - 1)) / multiple * multiple

/-- The multiples that are not below a quotient. -/
def multiplesFrom (multiple dividend divisor : Nat) : Set Nat :=
  {n | multiple ∣ n ∧ (dividend : ℚ) / divisor ≤ n}

section RoundUp

variable {multiple dividend divisor n : Nat}

/-- It is a multiple. -/
theorem dvd_roundUp (multiple n : Nat) : multiple ∣ roundUp multiple n := Nat.dvd_mul_left _ _

/-- It is not below the number. -/
theorem le_roundUp (positive : 0 < multiple) (n : Nat) : n ≤ roundUp multiple n := by
  -- What the division leaves is less than what was added before.
  unfold roundUp
  have whole := Nat.div_add_mod (n + (multiple - 1)) multiple
  have rest := Nat.mod_lt (n + (multiple - 1)) positive
  rw [Nat.mul_comm] at whole
  omega

/-- Less than a whole multiple is added. -/
theorem roundUp_lt (positive : 0 < multiple) (n : Nat) : roundUp multiple n < n + multiple := by
  -- The division gives back no more than there was.
  unfold roundUp
  have whole := Nat.div_mul_le_self (n + (multiple - 1)) multiple
  omega

/-- There is no multiple between a number and where it is rounded to. -/
theorem roundUp_le {m : Nat} (positive : 0 < multiple) (aligned : multiple ∣ m) (above : n ≤ m) :
    roundUp multiple n ≤ m := by
  obtain ⟨count, rfl⟩ := aligned
  have below := roundUp_lt positive n
  obtain ⟨rounds, same⟩ := dvd_roundUp multiple n
  rw [same] at below ⊢
  -- One more round than needed would be more than a whole multiple above.
  have fewer : multiple * rounds < multiple * (count + 1) := by
    rw [Nat.mul_add]
    omega
  exact Nat.mul_le_mul_left _ (Nat.lt_succ_iff.mp (Nat.lt_of_mul_lt_mul_left fewer))

/-- A multiple belongs here when it covers the quotient. -/
theorem mem_multiplesFrom (positive : 0 < divisor) : n ∈ multiplesFrom multiple dividend divisor ↔
    multiple ∣ n ∧ dividend ≤ n * divisor := by
  -- The quotient is compared by multiplying with the divisor.
  have nonzero : (0 : ℚ) < divisor := by exact_mod_cast positive
  change multiple ∣ n ∧ (dividend : ℚ) / divisor ≤ n ↔ _
  rw [div_le_iff₀ nonzero]
  norm_cast

/-- A whole number is not below a quotient, precisely when it is above what is rounded down, or
the same and nothing was lost. -/
theorem dividend_le_iff (positive : 0 < divisor) : dividend ≤ n * divisor ↔
    dividend / divisor < n ∨ dividend / divisor = n ∧ divisor ∣ dividend := by
  have whole := Nat.div_add_mod dividend divisor
  have rest := Nat.mod_lt dividend positive
  rw [Nat.mul_comm] at whole
  constructor
  · intro above
    -- The number is above the rounded quotient, equal to it, or below it.
    rcases Nat.lt_trichotomy (dividend / divisor) n with below | same | beyond
    · exact .inl below
    · refine .inr ⟨same, Nat.dvd_of_mod_eq_zero ?_⟩
      rw [same] at whole
      omega
    · -- A quotient beyond the number would make the dividend greater.
      have more : (n + 1) * divisor ≤ dividend / divisor * divisor :=
        Nat.mul_le_mul_right _ beyond
      rw [Nat.add_mul] at more
      omega
  · rintro (below | ⟨rfl, divides⟩)
    · have more : (dividend / divisor + 1) * divisor ≤ n * divisor :=
        Nat.mul_le_mul_right _ below
      rw [Nat.add_mul] at more
      omega
    · exact (Nat.div_mul_cancel divides).ge

/-- Rounding a quotient up twice, to a whole number first, does not miss it. -/
theorem isLeast_roundUp_ceil (aligned : 0 < multiple) (positive : 0 < divisor) :
    IsLeast (multiplesFrom multiple dividend divisor)
      (roundUp multiple ((dividend + (divisor - 1)) / divisor)) := by
  -- A whole number is not below the quotient if it is not below the quotient rounded up.
  have covers : ∀ n, dividend ≤ n * divisor ↔ (dividend + (divisor - 1)) / divisor ≤ n := by
    intro n
    rw [Nat.div_le_iff_le_mul_add_pred positive, Nat.mul_comm]
    omega
  constructor
  · exact (mem_multiplesFrom positive).mpr
      ⟨dvd_roundUp _ _, (covers _).mpr (le_roundUp aligned _)⟩
  · intro n member
    obtain ⟨divides, above⟩ := (mem_multiplesFrom positive).mp member
    exact roundUp_le aligned divides ((covers n).mp above)

/-- Rounding a quotient down and then up misses it, precisely when the first makes a multiple of
what was none. -/
theorem isLeast_roundUp_div_iff (aligned : 0 < multiple) (positive : 0 < divisor) :
    IsLeast (multiplesFrom multiple dividend divisor) (roundUp multiple (dividend / divisor)) ↔
      (multiple ∣ dividend / divisor → divisor ∣ dividend) := by
  have above := le_roundUp aligned (dividend / divisor)
  constructor
  · intro least whole
    -- A multiple is rounded up to itself.
    have same : roundUp multiple (dividend / divisor) = dividend / divisor :=
      Nat.le_antisymm (roundUp_le aligned whole (Nat.le_refl _)) above
    rcases (dividend_le_iff positive).mp ((mem_multiplesFrom positive).mp least.1).2 with
      beyond | ⟨-, divides⟩
    · omega
    · exact divides
  · intro exact_
    constructor
    · -- Either rounding up has added something, or the quotient was a multiple and exact.
      refine (mem_multiplesFrom positive).mpr ⟨dvd_roundUp _ _, (dividend_le_iff positive).mpr ?_⟩
      rcases Nat.eq_or_lt_of_le above with same | beyond
      · exact .inr ⟨same, exact_ (same ▸ dvd_roundUp _ _)⟩
      · exact .inl beyond
    · intro n member
      obtain ⟨divides, covers⟩ := (mem_multiplesFrom positive).mp member
      apply roundUp_le aligned divides
      -- Any other multiple that holds the quotient holds it rounded down.
      rcases (dividend_le_iff positive).mp covers with beyond | ⟨same, -⟩
      · exact Nat.le_of_lt beyond
      · exact Nat.le_of_eq same

/-- The same with a dividend that wraps, which is always too small then. -/
theorem isLeast_roundUp_wrapped_iff {word : Nat} (aligned : 0 < multiple) (positive : 0 < divisor)
    (wide : multiple * divisor < word) :
    IsLeast (multiplesFrom multiple dividend divisor)
        (roundUp multiple (dividend % word / divisor)) ↔
      dividend < word ∧ (multiple ∣ dividend / divisor → divisor ∣ dividend) := by
  by_cases fits : dividend < word
  · rw [Nat.mod_eq_of_lt fits, isLeast_roundUp_div_iff aligned positive]
    exact (and_iff_right fits).symm
  · refine iff_of_false (fun least => ?_) (fun both => fits both.1)
    have covers := ((mem_multiplesFrom positive).mp least.1).2
    have below := roundUp_lt aligned (dividend % word / divisor)
    -- What is added by rounding is less than what is lost by wrapping.
    have bound : roundUp multiple (dividend % word / divisor) * divisor ≤
        (dividend % word / divisor + multiple) * divisor :=
      Nat.mul_le_mul_right _ (Nat.le_of_lt below)
    have rounded := Nat.div_mul_le_self (dividend % word) divisor
    have lost : dividend % word + word ≤ dividend := by
      have whole := Nat.div_add_mod dividend word
      have some_ : 1 ≤ dividend / word := (Nat.one_le_div_iff (by omega)).mpr (by omega)
      have more := Nat.mul_le_mul_left word some_
      omega
    rw [Nat.add_mul] at bound
    omega

end RoundUp

end Grouper
