import Mathlib.FieldTheory.Finite.Basic

/-! Exponents that undo each other modulo a product of two primes. -/

namespace Grouper

/-- Raising to one exponent and then to the other comes back to where it started. -/
def Undoes (n d e : Nat) : Prop := ∀ m < n, (m ^ d % n) ^ e % n = m

/-- The two exponents of a modulus that is a product of two primes. -/
structure Exponents (p q d e : Nat) : Prop where
  left : p.Prime
  right : q.Prime
  apart : p ≠ q
  leftInverse : d * e ≡ 1 [MOD p - 1]
  rightInverse : d * e ≡ 1 [MOD q - 1]
  positive : 0 < d * e

/-- A power that is one more than a multiple of `p - 1` is no power at all modulo the prime. -/
theorem pow_modEq_self {p k : Nat} (prime : p.Prime) (inverse : k ≡ 1 [MOD p - 1])
    (positive : 0 < k) (m : Nat) : m ^ k ≡ m [MOD p] := by
  by_cases divides : p ∣ m
  · -- What the prime divides is zero on both sides.
    have zero : m ≡ 0 [MOD p] := Nat.modEq_zero_iff_dvd.mpr divides
    have power : m ^ k ≡ 0 [MOD p] :=
      Nat.modEq_zero_iff_dvd.mpr (divides.trans (dvd_pow_self m (by omega)))
    exact power.trans zero.symm
  · have coprime : m.Coprime p := ((Nat.Prime.coprime_iff_not_dvd prime).mpr divides).symm
    have fermat : m ^ (p - 1) ≡ 1 [MOD p] := by
      simpa [Nat.totient_prime prime] using Nat.ModEq.pow_totient coprime
    obtain ⟨c, is⟩ := (Nat.modEq_iff_dvd' positive).mp inverse.symm
    have split : k = (p - 1) * c + 1 := by omega
    calc m ^ k = (m ^ (p - 1)) ^ c * m := by rw [split, pow_succ, pow_mul]
      _ ≡ 1 ^ c * m [MOD p] := (fermat.pow c).mul_right m
      _ = m := by simp

namespace Exponents

variable {p q d e : Nat}

/-- Modulo each of the primes the two exponents cancel, and so they do modulo the product. -/
theorem undoes (exponents : Exponents p q d e) : Undoes (p * q) d e := by
  -- Modulo each of the two primes the power is the number again, and so modulo the product.
  intro m small
  have coprime : p.Coprime q := (Nat.coprime_primes exponents.left exponents.right).mpr
    exponents.apart
  have power : m ^ (d * e) ≡ m [MOD p * q] :=
    (Nat.modEq_and_modEq_iff_modEq_mul coprime).mp
      ⟨pow_modEq_self exponents.left exponents.leftInverse exponents.positive m,
        pow_modEq_self exponents.right exponents.rightInverse exponents.positive m⟩
  calc (m ^ d % (p * q)) ^ e % (p * q) = m ^ (d * e) % (p * q) := by rw [← Nat.pow_mod, pow_mul]
    _ = m % (p * q) := power
    _ = m := Nat.mod_eq_of_lt small

/-- Which of the two comes first makes no difference. -/
theorem symm (exponents : Exponents p q d e) : Exponents p q e d :=
  -- The conditions are about the product of the two exponents.
  { exponents with
    leftInverse := by rw [Nat.mul_comm]; exact exponents.leftInverse
    rightInverse := by rw [Nat.mul_comm]; exact exponents.rightInverse
    positive := by rw [Nat.mul_comm]; exact exponents.positive }

end Exponents

end Grouper
