import Grouper.Power.Commands

/-! Nodes read into a buffer, and the functions of the library that take the buffer apart. -/

namespace Grouper.Power

/-- What may go wrong with memory, or with a loop. -/
inductive Fault where
  | outsideBuffer
  | outsideArray
  | negativeSize
  /-- A null pointer is given to `atoi`. -/
  | nullToken
  | unending
  deriving DecidableEq, Repr

/-- What opening and reading a node comes to. -/
inductive SysfsRead where
  /-- One of them failed, with the message of `strerror_r`. -/
  | failed (message : List UInt8)
  | read (bytes : List UInt8)
  deriving DecidableEq, Repr

/-- What is written to the beginning of a buffer leaves the rest of it. -/
def overwrite (new buffer : List UInt8) : List UInt8 := new ++ buffer.drop new.length

/-- `sysfs_read`: it returns nothing, whatever it has put into the buffer. -/
def sysfsRead (outcome : SysfsRead) (s : List UInt8) (size : Nat) : List UInt8 :=
  match outcome with
  -- A message is cut to fit, with its NUL.
  | .failed message => overwrite (snprintf size message) s
  -- What is read is not terminated.
  | .read bytes => overwrite (bytes.take size) s

/-- A buffer that `strtok` works on, divided where the pointer it has saved points to. -/
structure Strtok where
  /-- All of the buffer, once the saved pointer is null. -/
  before : List UInt8
  saved : Option (List UInt8)
  deriving DecidableEq, Repr

def Strtok.buffer (t : Strtok) : List UInt8 := t.before ++ t.saved.getD []

/-- `strtok` is given a buffer, and not a null pointer. -/
def Strtok.start (buffer : List UInt8) : Strtok := ⟨[], some buffer⟩

/-- `strtok` with a space as the only delimiter. A pointer is what the buffer has from there on. -/
def strtok (t : Strtok) : Except Fault (Option (List UInt8) × Strtok) :=
  match t.saved with
  | none => .ok (none, t)
  | some text =>
    match firstWord space 0 text with
    | (_, _, []) => .error .outsideBuffer
    | (blanks, word, c :: after) =>
      if c = space then
        -- The space behind the token becomes its NUL, and is passed.
        .ok (some (word ++ 0 :: after), ⟨t.before ++ (blanks ++ (word ++ [0])), some after⟩)
      else if word = [] then .ok (none, ⟨t.before ++ text, none⟩)
      else .ok (some (word ++ c :: after), ⟨t.before ++ text, none⟩)

/-- `isspace`. -/
def isSpace (c : UInt8) : Bool := c = space || (9 ≤ c.toNat && c.toNat ≤ 13)

def plusSign : UInt8 := 43

/-- A text less the sign it may begin with. -/
def unsigned (text : List UInt8) : List UInt8 :=
  match text with
  | [] => []
  | c :: rest => if c = minusSign ∨ c = plusSign then rest else text

/-- A number as an `int`, or the nearest one there is. -/
def clampInt (z : Int) : Int := max (-2 ^ 31) (min z (2 ^ 31 - 1))

/-- The digits that `atoi` reads begin here. -/
def digitsFrom (text : List UInt8) : List UInt8 := unsigned (text.dropWhile isSpace)

/-- What is left of a text behind the number that `atoi` reads. -/
def behindNumber (text : List UInt8) : List UInt8 := (digitsFrom text).dropWhile isDigit

/-- `atoi`, which reads up to the first character that is no part of the number. -/
def atoi (text : List UInt8) : Except Fault Int :=
  if behindNumber text = [] then .error .outsideBuffer
  else
    let value : Int := digitsValue 0 ((digitsFrom text).takeWhile isDigit)
    .ok (clampInt (if (text.dropWhile isSpace).head? = some minusSign then -value else value))

section Buffers

variable {new buffer : List UInt8} {size : Nat}

/-- A text that fits leaves the buffer as long as it was. -/
theorem length_overwrite (fits : new.length ≤ buffer.length) :
    (overwrite new buffer).length = buffer.length := by
  -- The rest of the buffer makes up for it.
  unfold overwrite
  rw [List.length_append, List.length_drop]
  omega

/-- The buffer keeps its size. -/
theorem length_sysfsRead (outcome : SysfsRead) (whole : buffer.length = size) (some_ : 0 < size) :
    (sysfsRead outcome buffer size).length = size := by
  cases outcome with
  | failed message =>
    -- A message is cut to the size of the buffer, with its NUL.
    have fits : (snprintf size message).length ≤ buffer.length := by
      unfold snprintf
      rw [if_neg (Nat.pos_iff_ne_zero.mp some_), List.length_append, List.length_take]
      simp only [List.length_singleton]
      omega
    exact (length_overwrite fits).trans whole
  | read bytes =>
    -- No more bytes are read than fit.
    refine (length_overwrite ?_).trans whole
    rw [whole, List.length_take]
    exact Nat.min_le_left _ _

end Buffers

section Atoi

variable {text : List UInt8}

/-- `atoi` stays inside a text that goes on behind the number. -/
theorem atoi_ok_iff : (∃ value, atoi text = .ok value) ↔ behindNumber text ≠ [] := by
  -- The only branch that goes wrong is the one without an end of the number.
  unfold atoi
  split
  · rename_i outside
    exact ⟨nofun, fun inside => absurd outside inside⟩
  · rename_i inside
    exact ⟨fun _ => inside, fun _ => ⟨_, rfl⟩⟩

/-- A character that is no sign is not taken for one. -/
theorem mem_unsigned {c : UInt8} (member : c ∈ text) (minus : c ≠ minusSign) (plus : c ≠ plusSign) :
    c ∈ unsigned text := by
  -- At most the first character is dropped, and it is a sign.
  cases text with
  | nil => cases member
  | cons first rest =>
    unfold unsigned
    dsimp only
    split
    · rename_i sign
      rcases List.mem_cons.mp member with rfl | member
      · exact absurd sign (not_or.mpr ⟨minus, plus⟩)
      · exact member
    · exact member

/-- A character that does not belong to the front is still there behind it. -/
theorem mem_dropWhile {p : UInt8 → Bool} {c : UInt8} (member : c ∈ text) (stays : p c = false) :
    c ∈ text.dropWhile p := by
  -- What stays ends the prefix that goes, at the latest.
  induction text with
  | nil => cases member
  | cons first rest ih =>
    rw [List.dropWhile_cons]
    split
    · rename_i goes
      rcases List.mem_cons.mp member with rfl | member
      · rw [stays] at goes
        cases goes
      · exact ih member
    · exact member

/-- A NUL is no part of a number. -/
theorem behindNumber_ne_nil (terminated : 0 ∈ text) : behindNumber text ≠ [] := by
  -- A NUL is neither a blank, nor a sign, nor a digit, so each of the three parts ends before it.
  have skipped : (0 : UInt8) ∈ text.dropWhile isSpace := mem_dropWhile terminated (by decide)
  have digits : (0 : UInt8) ∈ digitsFrom text := mem_unsigned skipped (by decide) (by decide)
  exact List.ne_nil_of_mem (mem_dropWhile digits (by decide))

/-- The digits of a number end where it does. -/
theorem takeWhile_decimal (n : Nat) {c : UInt8} (ends : isDigit c = false) (after : List UInt8) :
    (decimal n ++ c :: after).takeWhile isDigit = decimal n ∧
      (decimal n ++ c :: after).dropWhile isDigit = c :: after := by
  -- The digits are taken, and the character behind them is none.
  have digits : ∀ d ∈ decimal n, isDigit d = true := fun d member => isDigit_of_mem_decimal member
  rw [List.takeWhile_append_of_pos digits, List.dropWhile_append_of_pos digits]
  simp [ends]

/-- A digit is neither a blank nor a sign. -/
theorem not_isSpace_of_isDigit {c : UInt8} (digit : isDigit c = true) :
    isSpace c = false ∧ c ≠ minusSign ∧ c ≠ plusSign := by
  -- Blanks and signs have other codes than the digits.
  have range : 48 ≤ c.toNat ∧ c.toNat ≤ 57 := by simpa [isDigit] using digit
  refine ⟨?_, ?_, ?_⟩
  · have other : c ≠ space := by
      rintro rfl
      exact absurd range.1 (by decide)
    simp only [isSpace, decide_eq_false other, Bool.false_or, Bool.and_eq_false_iff,
      decide_eq_false_iff_not]
    omega
  · rintro rfl
    exact absurd range.1 (by decide)
  · rintro rfl
    exact absurd range.1 (by decide)

/-- A number that an `int` holds is read up to what is behind it. -/
theorem atoi_decimalInt {z : Int} (low : -2 ^ 31 ≤ z) (high : z < 2 ^ 31) {c : UInt8}
    (ends : isDigit c = false) (after : List UInt8) :
    atoi (decimalInt z ++ c :: after) = .ok z := by
  obtain ⟨digits, rest⟩ := takeWhile_decimal z.natAbs ends after
  have clamped : clampInt z = z := by
    unfold clampInt
    omega
  unfold decimalInt
  split
  · -- The sign is passed, and the digits are negated.
    rename_i negative
    have skipped : (minusSign :: decimal z.natAbs ++ c :: after).dropWhile isSpace =
        minusSign :: (decimal z.natAbs ++ c :: after) := rfl
    have from_ : digitsFrom (minusSign :: decimal z.natAbs ++ c :: after) =
        decimal z.natAbs ++ c :: after := by
      unfold digitsFrom
      rw [skipped]
      rfl
    unfold atoi behindNumber
    rw [from_, digits, rest, if_neg (List.cons_ne_nil _ _), skipped, List.head?_cons]
    dsimp only
    rw [if_pos rfl, digitsValue_decimal, Int.ofNat_natAbs_of_nonpos (by omega), Int.neg_neg,
      clamped]
  · rename_i positive
    -- Without a sign the text begins with a digit, which ends both blanks and signs.
    obtain ⟨d, others, written, digit⟩ := exists_decimal_eq_cons z.natAbs
    obtain ⟨noSpace, noMinus, noPlus⟩ := not_isSpace_of_isDigit digit
    have skipped : (decimal z.natAbs ++ c :: after).dropWhile isSpace =
        decimal z.natAbs ++ c :: after := by
      rw [written, List.cons_append, List.dropWhile_cons, noSpace]
      rfl
    have from_ : digitsFrom (decimal z.natAbs ++ c :: after) = decimal z.natAbs ++ c :: after := by
      unfold digitsFrom
      rw [skipped, written, List.cons_append]
      exact if_neg (not_or.mpr ⟨noMinus, noPlus⟩)
    have unsigned_ : (decimal z.natAbs ++ c :: after).head? ≠ some minusSign := by
      rw [written]
      simpa using noMinus
    unfold atoi behindNumber
    rw [from_, digits, rest, if_neg (List.cons_ne_nil _ _), skipped]
    dsimp only
    rw [if_neg unsigned_, digitsValue_decimal, Int.natAbs_of_nonneg (by omega), clamped]

/-- In front of a NUL there is always a number, if only zero. -/
theorem exists_atoi_token (word after : List UInt8) :
    ∃ value, atoi (word ++ 0 :: after) = .ok value :=
  atoi_ok_iff.mpr (behindNumber_ne_nil (List.mem_append_right _ List.mem_cons_self))

end Atoi

/-- There is a NUL in front of which `strtok` stops. -/
def Strtok.Terminated (t : Strtok) : Prop := ∀ text ∈ t.saved, 0 ∈ text

/-- There is none. -/
def Strtok.Unterminated (t : Strtok) : Prop := ∃ text ∈ t.saved, 0 ∉ text

/-- The tokens up to the first NUL. -/
def Strtok.tokens (t : Strtok) : List (List UInt8) :=
  words space (cString (t.saved.getD []))

/-- The tokens with a space behind them. -/
def Strtok.closed (t : Strtok) : List (List UInt8) := closedWords space (t.saved.getD [])

/-- The buffer once so many tokens were cut off. -/
def Strtok.cut (count : Nat) (t : Strtok) : List UInt8 :=
  t.before ++ cutWords space 0 count (t.saved.getD [])

section Strtok

variable {t : Strtok} {text : List UInt8}

/-- What is in front of every NUL is part of the string. -/
theorem cString_append {front : List UInt8} (whole : 0 ∉ front) :
    cString (front ++ text) = front ++ cString text := by
  -- Every character in front is another one than NUL.
  refine List.takeWhile_append_of_pos fun c member => ?_
  have other : c ≠ 0 := fun same => whole (same ▸ member)
  simpa using other

/-- A text that begins with a NUL is empty. -/
theorem cString_zero : cString (0 :: text) = [] := rfl

/-- There is no NUL among blanks. -/
theorem zero_notMem_blanks {blanks : List UInt8} (only : ∀ c ∈ blanks, c = space) : 0 ∉ blanks :=
  fun member => absurd (only 0 member) (by decide)

/-- Nothing is cut into no words. -/
theorem cutWords_nil (count : Nat) : cutWords space 0 count ([] : List UInt8) = [] :=
  List.eq_nil_of_length_eq_zero (length_cutWords count [])

/-- In a terminated buffer a token is found or there is none left, and nothing else is read. -/
theorem strtok_terminated (terminated : t.Terminated) : ∃ pointer next,
    strtok t = .ok (pointer, next) ∧ next.Terminated ∧ next.tokens = t.tokens.tail ∧
      (∀ count, next.cut count = t.cut (count + 1)) ∧
      (t.tokens = [] ∧ pointer = none ∧ next.cut 0 = t.cut 0 ∨
        ∃ word rest after, t.tokens = word :: rest ∧ pointer = some (word ++ 0 :: after)) := by
  obtain ⟨before, saved⟩ := t
  cases saved with
  | none =>
    refine ⟨none, ⟨before, none⟩, rfl, terminated, rfl, fun count => ?_, .inl ⟨rfl, rfl, rfl⟩⟩
    unfold Strtok.cut
    simp only [Option.getD_none, cutWords_nil]
  | some text =>
    have zero : 0 ∈ text := terminated text rfl
    obtain ⟨blanks, word, rest, first, parts, only, whole, free, ends⟩ :=
      firstWord_cases space 0 text
    have clear := zero_notMem_blanks only
    -- The NUL is behind the first word, so the text does not end there.
    have later : 0 ∈ rest := by
      rw [parts] at zero
      simpa [clear, free] using zero
    rcases ends with rfl | ⟨after, rfl⟩ | ⟨some_, after, rfl⟩
    · cases later
    · -- The word, if it is one, ends at the NUL, and it is the last one.
      have tokens : (⟨before, some text⟩ : Strtok).tokens = words space word := by
        unfold Strtok.tokens
        rw [Option.getD_some, parts, cString_append clear, words_blanks only, cString_append free,
          cString_zero, List.append_nil]
      have still : ∀ count, cutWords space 0 count text = text := fun count =>
        cutWords_open first fun other same => absurd (List.cons.inj same).1 (by decide)
      have cut : ∀ count, (⟨before ++ text, none⟩ : Strtok).cut count =
          (⟨before, some text⟩ : Strtok).cut (count + 1) := by
        intro count
        unfold Strtok.cut
        simp only [Option.getD_none, Option.getD_some, cutWords_nil, still, List.append_nil]
      by_cases empty : word = []
      · refine ⟨none, ⟨before ++ text, none⟩, ?_, nofun, ?_, cut, .inl ⟨?_, rfl, ?_⟩⟩
        · unfold strtok
          simp only [first, empty]
          rfl
        · rw [tokens, empty, words_nil]
          rfl
        · rw [tokens, empty, words_nil]
        · rw [cut 0]
          unfold Strtok.cut
          simp only [Option.getD_some, still]
      · rw [tokens, words_single whole empty]
        refine ⟨some (word ++ 0 :: after), ⟨before ++ text, none⟩, ?_, nofun, rfl, cut,
          .inr ⟨word, [], after, rfl, rfl⟩⟩
        unfold strtok
        simp only [first, if_neg empty]
        rfl
    · -- The word ends at a space, and what is behind it remains.
      have behind : 0 ∈ after := by
        rcases List.mem_cons.mp later with same | behind
        · exact absurd same (by decide)
        · exact behind
      have tokens : (⟨before, some text⟩ : Strtok).tokens =
          word :: words space (cString after) := by
        unfold Strtok.tokens
        have zeroSpace : (0 : UInt8) ∉ [space] := by decide
        rw [Option.getD_some, parts, cString_append clear, words_blanks only, cString_append free,
          ← List.singleton_append, cString_append zeroSpace, List.singleton_append,
          words_append whole some_]
      refine ⟨some (word ++ 0 :: after), ⟨before ++ (blanks ++ (word ++ [0])), some after⟩, ?_,
        ?_, ?_, fun count => ?_, .inr ⟨word, _, after, tokens, rfl⟩⟩
      · unfold strtok
        simp only [first, if_pos]
      · intro other same
        exact Option.some.inj same ▸ behind
      · rw [tokens]
        rfl
      · unfold Strtok.cut
        rw [Option.getD_some, Option.getD_some, cutWords_closed first]
        simp

/-- In a buffer that is not terminated only a token with a space behind it is found. -/
theorem strtok_unterminated (unterminated : t.Unterminated) :
    t.closed = [] ∧ strtok t = .error .outsideBuffer ∨ ∃ word after next,
      strtok t = .ok (some (word ++ 0 :: after), next) ∧ next.Unterminated ∧
        t.closed = word :: next.closed ∧ ∀ count, next.cut count = t.cut (count + 1) := by
  obtain ⟨before, saved⟩ := t
  obtain ⟨text, is, nowhere⟩ := unterminated
  obtain rfl : saved = some text := is
  obtain ⟨blanks, word, rest, first, parts, only, whole, free, ends⟩ :=
    firstWord_cases space 0 text
  -- There is no NUL, so a word ends at a space or not at all.
  rcases ends with rfl | ⟨after, rfl⟩ | ⟨some_, after, rfl⟩
  · -- The end of the buffer is reached in front of any delimiter.
    refine .inl ⟨?_, ?_⟩
    · unfold Strtok.closed
      rw [Option.getD_some, parts, List.append_nil, closedWords_blanks only,
        closedWords_single whole]
    · unfold strtok
      simp only [first]
  · exact absurd (by simp [parts]) nowhere
  · refine .inr ⟨word, after, ⟨before ++ (blanks ++ (word ++ [0])), some after⟩, ?_,
      ⟨after, rfl, fun member => nowhere (by simp [parts, member])⟩, ?_, fun count => ?_⟩
    · unfold strtok
      simp only [first, if_pos]
    · unfold Strtok.closed
      rw [Option.getD_some, Option.getD_some, parts, closedWords_blanks only,
        closedWords_append whole, if_neg some_]
      rfl
    · unfold Strtok.cut
      rw [Option.getD_some, Option.getD_some, cutWords_closed first]
      simp

/-- Every buffer is terminated or not. -/
theorem Strtok.terminated_start {buffer : List UInt8} (zero : 0 ∈ buffer) :
    (Strtok.start buffer).Terminated :=
  fun _ same => Option.some.inj same ▸ zero

/-- Without a NUL in the buffer the cutting starts without an end. -/
theorem Strtok.unterminated_start {buffer : List UInt8} (nowhere : 0 ∉ buffer) :
    (Strtok.start buffer).Unterminated :=
  ⟨buffer, rfl, nowhere⟩

end Strtok

end Grouper.Power
