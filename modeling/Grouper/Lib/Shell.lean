import Grouper.Lib.FirstIndex
import Grouper.Lib.Words
import Mathlib.Algebra.Group.Nat.Defs
import Mathlib.Data.List.DropRight
import Mathlib.Data.List.Infix

/-! What a shell makes of the words of a script: patterns and what they remove from a text,
fields, command substitution, and the operations that are left to the shell. -/

namespace Grouper

/-- A part of a pattern: a character for itself, any one of them, or any number of them. -/
inductive PatternPart where
  | char (c : Char)
  | one
  | any
  deriving DecidableEq, Repr

/-- The pattern describes the text as a whole. -/
def matchesPattern : List PatternPart → List Char → Bool
  | [], text => text = []
  | .char c :: rest, text => text.head? = some c && matchesPattern rest text.tail
  | .one :: rest, text => text ≠ [] && matchesPattern rest text.tail
  | .any :: rest, text => text.tails.any (matchesPattern rest)

/-- `${text##pattern}`, which keeps as little as it can. -/
def removeLargestPrefix (pattern : List PatternPart) (text : List Char) : List Char :=
  match firstBelow (fun kept => matchesPattern pattern (text.rdrop kept)) (text.length + 1) with
  | some kept => text.rtake kept
  | none => text

/-- `${text%%pattern}`, which keeps as little as it can. -/
def removeLargestSuffix (pattern : List PatternPart) (text : List Char) : List Char :=
  match firstBelow (fun kept => matchesPattern pattern (text.drop kept)) (text.length + 1) with
  | some kept => text.take kept
  | none => text

/-- `${text%pattern}`, which removes as little as it can. -/
def removeSmallestSuffix (pattern : List PatternPart) (text : List Char) : List Char :=
  match firstBelow (fun gone => matchesPattern pattern (text.rtake gone)) (text.length + 1) with
  | some gone => text.rdrop gone
  | none => text

section Patterns

variable {c : Char} {text before after : List Char}

/-- Of two texts together, the end of the second is the end. -/
theorem rtake_append_of_le_length {count : Nat} (short : count ≤ after.length) :
    (before ++ after).rtake count = after.rtake count := by
  -- The characters taken lie behind the first part.
  unfold List.rtake
  have cut : (before ++ after).length - count = before.length + (after.length - count) := by
    rw [List.length_append]
    omega
  rw [cut, List.drop_length_add_append]

/-- The last part of a text is what its length takes from the end. -/
theorem rtake_length_append (before after : List Char) :
    (before ++ after).rtake after.length = after := by
  rw [rtake_append_of_le_length (Nat.le_refl _)]
  simp [List.rtake]

/-- `?` stands for one character. -/
theorem matchesPattern_one : matchesPattern [.one] text = true ↔ ∃ d, text = [d] := by
  -- A text of two characters or more has one left over.
  cases text with
  | nil => simp [matchesPattern]
  | cons d ds => cases ds <;> simp [matchesPattern]

/-- `*c` stands for a text that ends in `c`. -/
theorem matchesPattern_any_char :
    matchesPattern [.any, .char c] text = true ↔ ∃ front, text = front ++ [c] := by
  simp only [matchesPattern, List.any_eq_true, List.mem_tails, Bool.and_eq_true, decide_eq_true_eq]
  constructor
  · intro ⟨rest, ⟨front, whole⟩, first, alone⟩
    -- What follows the front is the character and nothing else.
    cases rest with
    | nil => cases first
    | cons d ds =>
      simp only [List.head?_cons, Option.some.injEq, List.tail_cons] at first alone
      exact ⟨front, by rw [← whole, first, alone]⟩
  · intro ⟨front, whole⟩
    exact ⟨[c], ⟨front, whole.symm⟩, rfl, rfl⟩

/-- `c*` stands for a text that begins with `c`. -/
theorem matchesPattern_char_any :
    matchesPattern [.char c, .any] text = true ↔ ∃ rest, text = c :: rest := by
  cases text with
  | nil => simp [matchesPattern]
  | cons d ds =>
    -- Any text ends with the empty one, so nothing is asked of the rest.
    simp [matchesPattern]

/-- The largest prefix that ends with a character ends with the last one. -/
theorem removeLargestPrefix_any_char (absent : c ∉ after) :
    removeLargestPrefix [.any, .char c] (before ++ c :: after) = after := by
  have shape : before ++ c :: after = (before ++ [c]) ++ after := by simp
  have bound : after.length < (before ++ c :: after).length + 1 := by
    rw [List.length_append, List.length_cons]
    omega
  have least : IsLeast {kept | matchesPattern [.any, .char c]
      ((before ++ c :: after).rdrop kept) = true} after.length := by
    constructor
    · apply matchesPattern_any_char.mpr
      exact ⟨before, by rw [shape, List.rdrop_append_length]⟩
    · intro kept matched
      by_contra fewer
      obtain ⟨front, same⟩ := matchesPattern_any_char.mp matched
      -- The character would be found once more, behind the last one.
      rw [shape, List.rdrop_append_of_le_length _ (by omega)] at same
      have some_ : after.rdrop kept ≠ [] := by
        intro none_
        have length := congrArg List.length none_
        simp only [List.rdrop, List.length_take, List.length_nil] at length
        omega
      have last := congrArg List.getLast? same
      rw [List.getLast?_append_of_ne_nil _ some_, List.getLast?_append_cons] at last
      have member := List.mem_of_getLast? last
      exact absent (List.mem_of_mem_take member)
  unfold removeLargestPrefix
  rw [firstBelow_eq_some.mpr ⟨bound, least⟩]
  dsimp only
  rw [shape, rtake_length_append]

/-- The largest suffix that begins with a character begins with the first one. -/
theorem removeLargestSuffix_char_any (absent : c ∉ before) :
    removeLargestSuffix [.char c, .any] (before ++ c :: after) = before := by
  have bound : before.length < (before ++ c :: after).length + 1 := by
    rw [List.length_append]
    omega
  have least : IsLeast {kept | matchesPattern [.char c, .any]
      ((before ++ c :: after).drop kept) = true} before.length := by
    constructor
    · apply matchesPattern_char_any.mpr
      exact ⟨after, List.drop_left⟩
    · intro kept matched
      by_contra fewer
      obtain ⟨rest, same⟩ := matchesPattern_char_any.mp matched
      -- The character would be found in front of the first one.
      have first := congrArg List.head? same
      rw [List.head?_drop, List.getElem?_append_left (by omega), List.head?_cons] at first
      exact absent (List.mem_of_getElem? first)
  unfold removeLargestSuffix
  rw [firstBelow_eq_some.mpr ⟨bound, least⟩]
  simp

/-- The smallest suffix that begins with a character begins with the last one. -/
theorem removeSmallestSuffix_char_any (absent : c ∉ after) :
    removeSmallestSuffix [.char c, .any] (before ++ c :: after) = before := by
  have bound : after.length + 1 < (before ++ c :: after).length + 1 := by
    rw [List.length_append, List.length_cons]
    omega
  have least : IsLeast {gone | matchesPattern [.char c, .any]
      ((before ++ c :: after).rtake gone) = true} (after.length + 1) := by
    constructor
    · apply matchesPattern_char_any.mpr
      exact ⟨after, rtake_length_append before (c :: after)⟩
    · intro gone matched
      by_contra fewer
      obtain ⟨rest, same⟩ := matchesPattern_char_any.mp matched
      -- The character would be found once more, behind the last one.
      have shape : before ++ c :: after = (before ++ [c]) ++ after := by simp
      rw [shape, rtake_append_of_le_length (by omega)] at same
      have member : c ∈ after.rtake gone := same ▸ List.mem_cons_self
      exact absent (List.mem_of_mem_drop member)
  unfold removeSmallestSuffix
  rw [firstBelow_eq_some.mpr ⟨bound, least⟩]
  simp [List.rdrop]

/-- One character less, if there is one. -/
theorem removeSmallestSuffix_one (text : List Char) :
    removeSmallestSuffix [.one] text = text.dropLast := by
  cases text using List.reverseRecOn with
  | nil => rfl
  | append_singleton front d =>
    have least : IsLeast {gone | matchesPattern [.one] ((front ++ [d]).rtake gone) = true} 1 := by
      constructor
      · apply matchesPattern_one.mpr
        exact ⟨d, by simp [List.rtake]⟩
      · intro gone matched
        by_contra fewer
        obtain ⟨other, same⟩ := matchesPattern_one.mp matched
        -- Nothing removed is no character.
        have zero : gone = 0 := by omega
        rw [zero, List.rtake_zero] at same
        cases same
    unfold removeSmallestSuffix
    rw [firstBelow_eq_some.mpr ⟨by simp, least⟩]
    simp [List.rdrop]

end Patterns

/-- What the output of a command becomes in its place. -/
def substitute (output : List Char) : List Char := output.rdropWhile (· = '\n')

/-- The fields of a text, where all separators are white space. -/
def fields (ifs text : List Char) : List (List Char) :=
  (text.splitOnP (· ∈ ifs)).filter (· ≠ [])

/-- `IFS` before a script sets it. -/
def defaultIfs : List Char := [' ', '\t', '\n']

/-- The character is none that a shell treats in some way of its own. -/
def ordinary (c : Char) : Bool := c.isAlphanum || c ∈ ['.', ':', '-', '_']

/-- The text is a word that commands take as it is, and not as an option. -/
def Plain (word : List Char) : Prop :=
  word ≠ [] ∧ word.head? ≠ some '-' ∧ word.all ordinary = true

instance (word : List Char) : Decidable (Plain word) :=
  inferInstanceAs (Decidable (_ ∧ _ ∧ _))

/-- A number in decimal digits. -/
abbrev numeral (n : Nat) : List Char := Nat.toDigits 10 n

/-- The part of a shell that a script relies on beyond the expansions above. -/
structure Shell where
  /-- The words that a field becomes, which are the names of files if it is a pattern. -/
  glob : List Char → List (List Char)
  /-- `set`, with the parameters that there are afterwards. -/
  set : List (List Char) → List (List Char)
  /-- `[` succeeds on its operands. -/
  test : List (List Char) → Bool
  /-- The output of `echo`. -/
  echo : List (List Char) → List Char
  /-- The product of two texts in an arithmetic expansion. -/
  times : List Char → List Char → List Char
  /-- The number that a numeral stands for, in the width of the shell. -/
  integer : Nat → Int
  glob_of_ordinary : ∀ word, (∀ c ∈ word, ordinary c = true ∨ c = '\n') → glob word = [word]
  set_letter : ∀ c rest words, c.isAlpha = true → set ((c :: rest) :: words) = (c :: rest) :: words
  test_one : ∀ word, test [word] = decide (word ≠ [])
  test_nonempty : ∀ word, test [['-', 'n'], word] = decide (word ≠ [])
  test_equal : ∀ left right, test [left, ['=', '='], right] = decide (left = right)
  test_le : ∀ left right, test [numeral left, ['-', 'l', 'e'], numeral right] =
    decide (integer left ≤ integer right)
  echo_nil : echo [] = ['\n']
  echo_plain : ∀ word, Plain word → echo [word] = word ++ ['\n']
  times_numerals : ∀ left right, left * right < 2 ^ 31 →
    times (numeral left) (numeral right) = numeral (left * right)
  times_nil : ∀ left, times (numeral left) [] = numeral 0
  integer_of_small : ∀ n < 2 ^ 31, integer n = n

/-- The words that a text becomes where it is not quoted. -/
def Shell.expand (shell : Shell) (ifs text : List Char) : List (List Char) :=
  (fields ifs text).flatMap shell.glob

section Expansions

variable {ifs word text before after : List Char} {c : Char}

/-- Command substitution makes nothing of nothing. -/
@[simp] theorem substitute_nil : substitute [] = [] := rfl

/-- It drops a newline at the end. -/
@[simp] theorem substitute_append_newline (text : List Char) :
    substitute (text ++ ['\n']) = substitute text :=
  List.rdropWhile_concat_pos _ _ _ (by simp)

/-- Newlines are removed at the end only. -/
theorem substitute_append (other : c ∈ after) (visible : c ≠ '\n') :
    substitute (before ++ after) = before ++ substitute after := by
  unfold substitute List.rdropWhile
  rw [List.reverse_append, List.dropWhile_append]
  -- Something remains of the second text, so nothing of the first one goes.
  have remains : after.reverse.dropWhile (fun d => decide (d = '\n')) ≠ [] := by
    intro none_
    have all := List.dropWhile_eq_nil_iff.mp none_ c (List.mem_reverse.mpr other)
    exact visible (of_decide_eq_true all)
  simp [remains]

/-- It drops all newlines at the end. -/
theorem substitute_append_newlines {newlines : List Char} (only : ∀ c ∈ newlines, c = '\n') :
    substitute (text ++ newlines) = substitute text := by
  -- Read from the end, they come first and are all dropped.
  unfold substitute List.rdropWhile
  rw [List.reverse_append, List.dropWhile_append_of_pos]
  intro c member
  simpa using only c (List.mem_reverse.mp member)

/-- It leaves a text without newlines as it is. -/
theorem substitute_of_notMem (absent : '\n' ∉ text) : substitute text = text := by
  -- The last character of the text is no newline.
  apply List.rdropWhile_eq_self_iff.mpr
  intro some_ newline
  have last : text.getLast some_ = '\n' := by simpa using newline
  exact absent (last ▸ List.getLast_mem some_)

/-- What is removed are newlines. -/
theorem exists_substitute_append (text : List Char) :
    ∃ newlines, text = substitute text ++ newlines ∧ ∀ c ∈ newlines, c = '\n' := by
  -- What is taken from the end is a newline, character by character.
  refine ⟨text.rtakeWhile (· = '\n'), (List.rdropWhile_append_rtakeWhile).symm, ?_⟩
  intro c member
  simpa using List.mem_rtakeWhile_imp member

/-- The first character remains, unless it is a newline. -/
theorem head?_substitute (first : text.head? = some c) (visible : c ≠ '\n') :
    (substitute text).head? = some c := by
  obtain ⟨newlines, parts, only⟩ := exists_substitute_append text
  rw [parts] at first
  cases kept : substitute text with
  | nil =>
    -- Otherwise the text would consist of newlines.
    rw [kept, List.nil_append] at first
    exact absurd (only c (List.mem_of_head? first)) visible
  | cons d ds =>
    rw [kept] at first
    exact first

/-- A part at the beginning of a text loses nothing but newlines. -/
theorem exists_takeWhile_substitute (p : Char → Bool) (text : List Char) :
    ∃ newlines, text.takeWhile p = (substitute text).takeWhile p ++ newlines ∧
      ∀ c ∈ newlines, c = '\n' := by
  obtain ⟨newlines, parts, only⟩ := exists_substitute_append text
  have split := congrArg (List.takeWhile p) parts
  rw [List.takeWhile_append] at split
  split at split
  · -- The part reaches into the newlines at the end.
    rename_i whole
    have same := (List.takeWhile_prefix p).eq_of_length whole
    refine ⟨newlines.takeWhile p, by rw [split, same], fun c member => ?_⟩
    exact only c ((List.takeWhile_prefix p).subset member)
  · exact ⟨[], by rw [split, List.append_nil], by simp⟩

/-- With one separator the fields are the words. -/
theorem fields_singleton (text : List Char) : fields [c] text = words c text := by
  -- Among one separator is the separator.
  unfold fields words
  rw [List.splitOn_eq_splitOnP]
  congr 2
  funext d
  simp [beq_eq_decide]

/-- A text without separators is one field. -/
theorem fields_single (whole : ∀ c ∈ word, c ∉ ifs) (some_ : word ≠ []) :
    fields ifs word = [word] := by
  -- It is split nowhere, and the one field is not empty.
  unfold fields
  rw [List.splitOnP_eq_singleton (by simpa using whole)]
  simp [some_]

/-- A plain word has ordinary characters only. -/
theorem Plain.ordinary_of_mem (plain : Plain word) (member : c ∈ word) : ordinary c = true :=
  List.all_eq_true.mp plain.2.2 c member

/-- A plain word has none of the separators. -/
theorem Plain.notMem_defaultIfs (plain : Plain word) : ∀ c ∈ word, c ∉ defaultIfs := by
  -- The separators are the blank, the tab and the newline, and none is ordinary.
  intro c member separator
  have is := plain.ordinary_of_mem member
  simp only [defaultIfs, List.mem_cons, List.not_mem_nil, or_false] at separator
  rcases separator with rfl | rfl | rfl <;> exact absurd is (by decide)

/-- Command substitution leaves a plain word as it is. -/
theorem Plain.substitute_eq (plain : Plain word) : substitute word = word :=
  substitute_of_notMem fun member => plain.notMem_defaultIfs _ member (by simp [defaultIfs])

variable (shell : Shell)

/-- An empty expansion makes no word. -/
@[simp] theorem expand_nil : shell.expand ifs [] = [] := rfl

/-- A plain word expands to itself. -/
theorem expand_plain (plain : Plain word) (among : ifs ⊆ defaultIfs) :
    shell.expand ifs word = [word] := by
  -- It is one field, and no pattern for file names.
  have whole : ∀ c ∈ word, c ∉ ifs := fun c member separator =>
    plain.notMem_defaultIfs c member (among separator)
  unfold Shell.expand
  rw [fields_single whole plain.1, List.flatMap_singleton,
    shell.glob_of_ordinary _ fun c member => .inl (plain.ordinary_of_mem member)]

/-- A plain word is read back from what `echo` prints of it. -/
theorem substitute_echo_plain (plain : Plain word) (among : ifs ⊆ defaultIfs) :
    substitute (shell.echo (shell.expand ifs word)) = word := by
  rw [expand_plain shell plain among, shell.echo_plain word plain, substitute_append_newline,
    plain.substitute_eq]

end Expansions

section Numerals

variable {n : Nat} {c : Char}

/-- The characters of a numeral are digits. -/
theorem isDigit_of_mem_numeral (member : c ∈ numeral n) : c.isDigit = true :=
  Nat.isDigit_of_mem_toDigits (by decide) (by decide) member

/-- A numeral has digits only. -/
theorem notMem_numeral (other : c.isDigit = false) : c ∉ numeral n := by
  -- A member would be a digit.
  intro member
  rw [isDigit_of_mem_numeral member] at other
  cases other

/-- A numeral is a plain word. -/
theorem plain_numeral (n : Nat) : Plain (numeral n) := by
  -- It is not empty, does not begin with a dash, and has digits only.
  refine ⟨Nat.toDigits_ne_nil, ?_, ?_⟩
  · intro first
    exact notMem_numeral (by decide) (List.mem_of_head? first)
  · apply List.all_eq_true.mpr
    intro c member
    simp [ordinary, Char.isAlphanum, isDigit_of_mem_numeral member]

end Numerals

/-- The number that a text of digits stands for in 32 bits. -/
def digitsInteger (text : List Char) : Int := (Nat.ofDigitChars 10 text 0 : Int).bmod (2 ^ 32)

/-- A number with its sign. -/
def integerText (z : Int) : List Char :=
  if z < 0 then '-' :: numeral z.natAbs else numeral z.natAbs

/-- The shell reads a numeral as its number, wrapped to 32 bits. -/
@[simp] theorem digitsInteger_numeral (n : Nat) :
    digitsInteger (numeral n) = (n : Int).bmod (2 ^ 32) := by
  unfold digitsInteger
  rw [Nat.ofDigitChars_ten_toDigits]

/-- No sign is written in front of a natural number. -/
@[simp] theorem integerText_natCast (n : Nat) : integerText n = numeral n := by
  unfold integerText
  rw [if_neg (by omega), Int.natAbs_natCast]

/-- Numbers below the half of the range stay what they are. -/
theorem bmod_of_small {n : Nat} (small : n < 2 ^ 31) : (n : Int).bmod (2 ^ 32) = n :=
  Int.bmod_eq_of_le (by omega) (by omega)

/-- A shell with numbers of 32 bits, in a directory without files, that knows no more tests than
those of a text or a number. -/
def Shell.bare : Shell where
  glob word := [word]
  set words := words
  test
    | [word] => word ≠ []
    | [op, word] => op = ['-', 'n'] && word ≠ []
    | [left, op, right] =>
      if op = ['=', '='] then left = right
      else op = ['-', 'l', 'e'] && digitsInteger left ≤ digitsInteger right
    | _ => false
  echo words := [' '].intercalate words ++ ['\n']
  times left right := integerText ((digitsInteger left * digitsInteger right).bmod (2 ^ 32))
  integer n := (n : Int).bmod (2 ^ 32)
  glob_of_ordinary _ _ := rfl
  set_letter _ _ _ _ := rfl
  test_one _ := rfl
  test_nonempty _ := by simp
  test_equal _ _ := by simp
  test_le _ _ := by simp
  echo_nil := rfl
  echo_plain word _ := by simp [List.intercalate]
  times_numerals left right small := by
    -- The product is in the range, whatever becomes of the factors.
    have product : ((left : Int) * right).bmod (2 ^ 32) = ((left * right : Nat) : Int) := by
      rw [← Int.natCast_mul]
      exact bmod_of_small small
    rw [digitsInteger_numeral, digitsInteger_numeral, Int.bmod_mul_bmod, Int.mul_bmod_bmod,
      product, integerText_natCast]
  times_nil left := by
    have empty : digitsInteger [] = 0 := rfl
    rw [empty, Int.mul_zero]
    rfl
  integer_of_small _ small := bmod_of_small small

end Grouper
