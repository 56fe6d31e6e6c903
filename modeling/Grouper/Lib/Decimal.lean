import Mathlib.Data.Nat.Digits.Defs
import Mathlib.Data.Nat.Digits.Lemmas

/-! Decimal numbers as text: how they are written, and how they are read back. -/

namespace Grouper

/-- The character of a digit. -/
def digitChar (digit : Nat) : UInt8 := UInt8.ofNat (48 + digit)

/-- The character is a decimal digit. -/
def isDigit (c : UInt8) : Bool := 48 ≤ c.toNat && c.toNat ≤ 57

def minusSign : UInt8 := 45

/-- A number as its digits, the highest first. -/
def decimal (n : Nat) : List UInt8 :=
  if n = 0 then [digitChar 0] else ((Nat.digits 10 n).map digitChar).reverse

/-- A number with its sign if it has one, as `%d` prints it. -/
def decimalInt (z : Int) : List UInt8 :=
  if z < 0 then minusSign :: decimal z.natAbs else decimal z.natAbs

/-- The number that digits add up to, behind those that were read before. -/
def digitsValue (before : Nat) (digits : List UInt8) : Nat :=
  digits.foldl (fun value c => value * 10 + (c.toNat - 48)) before

/-- A text that is digits only, and has some, as the number it stands for. -/
def readDecimal (text : List UInt8) : Option Nat :=
  if text ≠ [] ∧ text.all isDigit then some (digitsValue 0 text) else none

/-- The same for a text that may begin with a sign. -/
def readDecimalInt (text : List UInt8) : Option Int :=
  match text with
  | [] => none
  | c :: digits =>
    if c = minusSign then (readDecimal digits).map fun n : Nat => -(n : Int)
    else (readDecimal text).map fun n : Nat => (n : Int)

/-- The digits follow the character of zero. -/
theorem digitChar_toNat {digit : Nat} (small : digit < 10) :
    (digitChar digit).toNat = 48 + digit := by
  -- The sum fits into a byte.
  unfold digitChar
  simp only [UInt8.toNat_ofNat']
  omega

/-- A digit is written as one. -/
theorem isDigit_digitChar {digit : Nat} (small : digit < 10) :
    isDigit (digitChar digit) = true := by
  -- The digits follow one another in the character set.
  simp [isDigit, digitChar_toNat small]
  omega

/-- Every number has a digit. -/
@[simp] theorem decimal_ne_nil (n : Nat) : decimal n ≠ [] := by
  -- Zero has a digit of its own, and every other number has digits.
  unfold decimal
  split
  · simp
  · rename_i positive
    simpa [Nat.digits_ne_nil_iff_ne_zero] using positive

/-- Every character of a number is a digit. -/
theorem isDigit_of_mem_decimal {n : Nat} {c : UInt8} (member : c ∈ decimal n) :
    isDigit c = true := by
  unfold decimal at member
  split at member
  · -- Zero is written as a digit of its own.
    simp only [List.mem_singleton] at member
    subst member
    exact isDigit_digitChar (by omega)
  · simp only [List.mem_reverse, List.mem_map] at member
    obtain ⟨digit, isOne, rfl⟩ := member
    exact isDigit_digitChar (Nat.digits_lt_base (by omega) isOne)

/-- The first digit is worth the most. -/
theorem digitsValue_cons (before : Nat) (c : UInt8) (digits : List UInt8) :
    digitsValue before (c :: digits) = digitsValue (before * 10 + (c.toNat - 48)) digits := by
  unfold digitsValue
  rw [List.foldl_cons]

/-- One more digit behind the others moves them up. -/
theorem digitsValue_append_one (before : Nat) (digits : List UInt8) (c : UInt8) :
    digitsValue before (digits ++ [c]) = digitsValue before digits * 10 + (c.toNat - 48) := by
  -- A last digit comes in behind all the others.
  unfold digitsValue
  rw [List.foldl_append]
  rfl

/-- Written in reverse, digits are what a number is composed of. -/
theorem digitsValue_reverse (digits : List Nat) (small : ∀ d ∈ digits, d < 10) :
    digitsValue 0 (digits.map digitChar).reverse = Nat.ofDigits 10 digits := by
  -- The lowest digit is written last, so it is read last.
  induction digits with
  | nil => rfl
  | cons d rest ih =>
    have later := ih fun d member => small d (List.mem_cons_of_mem _ member)
    rw [List.map_cons, List.reverse_cons, digitsValue_append_one, later, Nat.ofDigits_cons,
      digitChar_toNat (small d List.mem_cons_self)]
    omega

/-- What is written is read back. -/
theorem digitsValue_decimal (n : Nat) : digitsValue 0 (decimal n) = n := by
  -- Zero has a digit of its own, and another number those of its base.
  unfold decimal
  split
  · rename_i zero
    rw [zero, digitsValue_cons, digitChar_toNat (by omega)]
    rfl
  · rw [digitsValue_reverse _ fun d member => Nat.digits_lt_base (by omega) member,
      Nat.ofDigits_digits]

/-- What was written is read back. -/
theorem readDecimal_decimal (n : Nat) : readDecimal (decimal n) = some n := by
  -- What is written passes the check before it is read.
  have all : (decimal n).all isDigit = true := by
    simpa using fun c member => isDigit_of_mem_decimal member
  simp [readDecimal, all, digitsValue_decimal]

/-- A number below a power of ten has no more digits than that. -/
theorem length_decimal_le {n count : Nat} (some_ : 0 < count) (small : n < 10 ^ count) :
    (decimal n).length ≤ count := by
  -- Zero has one digit, and another number as many as its base says.
  unfold decimal
  split
  · exact some_
  · rw [List.length_reverse, List.length_map]
    exact (Nat.digits_length_le_iff (by omega) n).mpr small

/-- A number begins with a digit. -/
theorem exists_decimal_eq_cons (n : Nat) :
    ∃ c rest, decimal n = c :: rest ∧ isDigit c = true := by
  -- The first character is one of the number, so it is a digit.
  cases written : decimal n with
  | nil => exact absurd written (decimal_ne_nil n)
  | cons c rest => exact ⟨c, rest, rfl, isDigit_of_mem_decimal (n := n) (by simp [written])⟩

/-- Signed numbers are read back too. -/
theorem readDecimalInt_decimalInt (z : Int) : readDecimalInt (decimalInt z) = some z := by
  unfold decimalInt
  split
  · rename_i negative
    -- The sign is in front, and the digits behind it are those of the absolute value.
    unfold readDecimalInt
    dsimp only
    rw [if_pos rfl, readDecimal_decimal, Option.map_some]
    congr 1
    omega
  · rename_i other
    obtain ⟨c, rest, written, digit⟩ := exists_decimal_eq_cons z.natAbs
    -- No digit is taken for a sign.
    have unsigned : c ≠ minusSign := by
      rintro rfl
      exact absurd digit (by decide)
    have read := readDecimal_decimal z.natAbs
    rw [written] at read ⊢
    unfold readDecimalInt
    dsimp only
    rw [if_neg unsigned, read, Option.map_some]
    congr 1
    omega

/-- A signed number has no other characters than digits and the sign. -/
theorem mem_decimalInt {z : Int} {c : UInt8} (member : c ∈ decimalInt z) :
    c = minusSign ∨ isDigit c = true := by
  -- Below zero there is a sign in front.
  unfold decimalInt at member
  split at member
  · rcases List.mem_cons.mp member with same | digit
    · exact Or.inl same
    · exact Or.inr (isDigit_of_mem_decimal digit)
  · exact Or.inr (isDigit_of_mem_decimal member)

/-- Every integer has a digit. -/
@[simp] theorem decimalInt_ne_nil (z : Int) : decimalInt z ≠ [] := by
  unfold decimalInt
  split <;> simp

end Grouper
