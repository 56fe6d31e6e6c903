import Grouper.Hwui.Script

/-! What the kernel says of the display and the memory, and what the script makes of it. -/

namespace Grouper.Hwui

/-- A letter of a mode. -/
structure Letter where
  char : Char
  isAlpha : char.isAlpha = true

/-- A mode of a display, apart from its resolution. -/
structure Mode where
  kind : Letter
  scan : Letter
  rate : Nat

/-- What separates a mode from the next one. -/
structure Gap where
  text : List Char
  some_ : text ≠ []
  blank : ∀ c ∈ text, c = ' ' ∨ c = '\n'

/-- The mode as the kernel writes it, with the resolution that all modes share. -/
def Mode.text (width height : Nat) (mode : Mode) : List Char :=
  mode.kind.char :: ':' :: (numeral width ++
    'x' :: (numeral height ++ mode.scan.char :: '-' :: numeral mode.rate))

/-- A mode, the modes behind it, and the end of the file. -/
def modesText (width height : Nat) (ending : List Char) : Mode → List (Gap × Mode) → List Char
  | mode, [] => mode.text width height ++ ending
  | mode, (gap, next) :: rest =>
    mode.text width height ++ (gap.text ++ modesText width height ending next rest)

/-- The last mode in front of the first space. -/
def lookedAt : Mode → List (Gap × Mode) → Mode
  | mode, [] => mode
  | mode, (gap, next) :: rest => if ' ' ∈ gap.text then mode else lookedAt next rest

/-- A display with at least one mode. -/
structure Display where
  width : Nat
  height : Nat
  bounded : width * height < 2 ^ 31
  first : Mode
  others : List (Gap × Mode)
  ending : List Char
  blank : ∀ c ∈ ending, c = ' ' ∨ c = '\n'

/-- The contents of "/sys/class/graphics/fb0/modes". -/
def Display.contents (display : Display) : List Char :=
  modesText display.width display.height display.ending display.first display.others

/-- The number of pixels that the script counts: an `x` behind the height is taken for the one in
front of it. -/
def Display.counted (display : Display) : Nat :=
  if (lookedAt display.first display.others).scan.char = 'x' then 0
  else display.width * display.height

/-- The memory of a system, with as many spaces in front of it as it takes. -/
structure Meminfo where
  total : Nat
  spaces : Nat
  rest : List Char

/-- The contents of "/proc/meminfo". -/
def Meminfo.contents (meminfo : Meminfo) : List Char :=
  "MemTotal:".toList ++ ' ' :: (List.replicate meminfo.spaces ' ' ++
    (numeral meminfo.total ++ ' ' :: ("kB\n".toList ++ meminfo.rest)))

section Display

variable {width height : Nat} {ending : List Char} {mode : Mode} {others : List (Gap × Mode)}
  {c : Char}

/-- A mode is written in ordinary characters. -/
theorem ordinary_of_mem_text (member : c ∈ mode.text width height) : ordinary c = true := by
  -- Piece by piece, a mode is written in letters, digits and signs.
  have digits : ∀ n, c ∈ numeral n → ordinary c = true := fun n among =>
    (plain_numeral n).ordinary_of_mem among
  have letters : ∀ letter : Letter, c = letter.char → ordinary c = true := by
    intro letter same
    simp [ordinary, Char.isAlphanum, same, letter.isAlpha]
  simp only [Mode.text, List.mem_cons, List.mem_append] at member
  rcases member with kind | rfl | among | rfl | among | scan | rfl | among
  · exact letters _ kind
  · rfl
  · exact digits _ among
  · rfl
  · exact digits _ among
  · exact letters _ scan
  · rfl
  · exact digits _ among

/-- All other characters are blanks. -/
theorem mem_modesText (blank : ∀ c ∈ ending, c = ' ' ∨ c = '\n')
    (member : c ∈ modesText width height ending mode others) :
    ordinary c = true ∨ c = ' ' ∨ c = '\n' := by
  -- The induction is on the modes behind the first one.
  induction others generalizing mode with
  | nil =>
    rcases List.mem_append.mp member with among | among
    · exact .inl (ordinary_of_mem_text among)
    · exact .inr (blank c among)
  | cons other rest ih =>
    obtain ⟨gap, next⟩ := other
    rcases List.mem_append.mp member with among | among
    · exact .inl (ordinary_of_mem_text among)
    · rcases List.mem_append.mp among with between | behind
      · exact .inr (gap.blank c between)
      · exact ih behind

/-- Blanks in front of the first space are newlines. -/
theorem newline_of_mem_takeWhile {text : List Char} (blank : ∀ c ∈ text, c = ' ' ∨ c = '\n')
    (member : c ∈ text.takeWhile (· ≠ ' ')) : c = '\n' := by
  have other : c ≠ ' ' := by simpa using List.mem_takeWhile_imp member
  exact (blank c ((List.takeWhile_prefix _).subset member)).resolve_left other

/-- The text of a mode has no blank. -/
theorem takeWhile_text_append (rest : List Char) :
    (mode.text width height ++ rest).takeWhile (· ≠ ' ') =
      mode.text width height ++ rest.takeWhile (· ≠ ' ') := by
  apply List.takeWhile_append_of_pos
  intro c member
  have is := ordinary_of_mem_text member
  -- A space is no ordinary character.
  have other : c ≠ ' ' := by
    rintro rfl
    exact absurd is (by decide)
  simpa using other

/-- Nothing of a mode at the end is removed. -/
theorem substitute_append_text (front : List Char) :
    substitute (front ++ mode.text width height) = front ++ mode.text width height := by
  -- A mode has a colon, so it is no trailing newline itself.
  have absent : '\n' ∉ mode.text width height := fun member =>
    absurd (ordinary_of_mem_text member) (by decide)
  have colon : ':' ∈ mode.text width height := by simp [Mode.text]
  rw [substitute_append colon (by decide), substitute_of_notMem absent]

/-- What is in front of the first space ends with the mode that is looked at, and newlines. -/
theorem exists_takeWhile_modesText (blank : ∀ c ∈ ending, c = ' ' ∨ c = '\n') :
    ∃ front newlines, (modesText width height ending mode others).takeWhile (· ≠ ' ') =
        front ++ (lookedAt mode others).text width height ++ newlines ∧
      ∀ c ∈ newlines, c = '\n' := by
  induction others generalizing mode with
  | nil =>
    refine ⟨[], ending.takeWhile (· ≠ ' '), ?_, fun c => newline_of_mem_takeWhile blank⟩
    exact takeWhile_text_append ending
  | cons other rest ih =>
    obtain ⟨gap, next⟩ := other
    unfold modesText lookedAt
    rw [takeWhile_text_append]
    by_cases space : ' ' ∈ gap.text
    · -- The space is in this gap, so the modes behind it are in other fields.
      refine ⟨[], gap.text.takeWhile (· ≠ ' '), ?_, fun c => newline_of_mem_takeWhile gap.blank⟩
      -- What is taken stops inside the gap, and nothing behind it is reached.
      have cut : (gap.text.takeWhile (· ≠ ' ')).length ≠ gap.text.length := by
        intro whole
        have same := (List.takeWhile_prefix (fun c => decide (c ≠ ' '))).eq_of_length whole
        rw [← same] at space
        simpa using List.mem_takeWhile_imp space
      rw [List.takeWhile_append, if_neg cut, if_pos space, List.nil_append]
    · -- The gap consists of newlines, which are no separators here.
      obtain ⟨front, newlines, behind, only⟩ := @ih next
      refine ⟨mode.text width height ++ (gap.text ++ front), newlines, ?_, only⟩
      have through : ∀ c ∈ gap.text, decide (c ≠ ' ') = true := by
        intro c member
        simpa using fun same : c = ' ' => space (same ▸ member)
      rw [List.takeWhile_append_of_pos through, behind, if_neg space]
      simp only [List.append_assoc]

/-- The first character of the file is the kind of the first mode. -/
theorem head?_contents (display : Display) :
    display.contents.head? = some display.first.kind.char := by
  unfold Display.contents
  cases display.others <;> rfl

/-- No letter is a blank. -/
theorem Letter.ne_blank (letter : Letter) : letter.char ≠ ' ' ∧ letter.char ≠ '\n' := by
  constructor <;> intro same <;> exact absurd (same ▸ letter.isAlpha) (by decide)

/-- The first field of the file begins with a letter, and ends with the mode that is looked at
and newlines. -/
theorem exists_expand_contents (shell : Shell) (display : Display) :
    ∃ front newlines rest, shell.set (shell.expand [' '] (substitute display.contents)) =
        (front ++ (lookedAt display.first display.others).text display.width display.height ++
          newlines) :: rest ∧
      ∀ c ∈ newlines, c = '\n' := by
  obtain ⟨front, newlines, cut, only⟩ := @exists_takeWhile_modesText display.width display.height
    display.ending display.first display.others display.blank
  obtain ⟨removed, whole, newline⟩ := exists_takeWhile_substitute (· ≠ ' ') display.contents
  have letter := display.first.kind.ne_blank
  -- The first character is no separator, so the first field is what is in front of the first space.
  have starts := head?_substitute (head?_contents display) letter.2
  obtain ⟨rest, split⟩ := exists_words_eq_cons starts letter.1
  generalize field : (substitute display.contents).takeWhile (· ≠ ' ') = word at split whole
  -- The mode does not end with a newline, so nothing of it was removed.
  have kept : substitute word = front ++
      (lookedAt display.first display.others).text display.width display.height := by
    rw [← substitute_append_newlines newline, ← whole]
    unfold Display.contents
    rw [cut, substitute_append_newlines only]
    exact substitute_append_text front
  obtain ⟨blanks, parts, blank⟩ := exists_substitute_append word
  rw [kept] at parts
  refine ⟨front, blanks, rest.flatMap shell.glob, ?_, blank⟩
  -- A field is no pattern, and no option.
  have ordinaries : ∀ c ∈ word, ordinary c = true ∨ c = '\n' := by
    intro c member
    rw [← field] at member
    have other : c ≠ ' ' := by simpa using List.mem_takeWhile_imp member
    have among := (List.rdropWhile_prefix _ _).subset ((List.takeWhile_prefix _).subset member)
    have is := mem_modesText display.blank among
    simp_all
  have first : word.head? = some display.first.kind.char := by
    rw [← field, List.head?_takeWhile, starts]
    simp [letter.1]
  unfold Shell.expand
  rw [fields_singleton, split, List.flatMap_cons, shell.glob_of_ordinary _ ordinaries, ← parts]
  cases word with
  | nil => cases first
  | cons d ds =>
    obtain rfl : d = display.first.kind.char := by simpa using first
    exact shell.set_letter _ _ _ display.first.kind.isAlpha

/-- The text between the last colon and the `x` behind it is the width. -/
theorem width_of_field (front : List Char) {newlines : List Char}
    (only : ∀ c ∈ newlines, c = '\n') :
    removeLargestSuffix [.char 'x', .any]
        (removeLargestPrefix [.any, .char ':'] (front ++ mode.text width height ++ newlines)) =
      numeral width := by
  have shape : front ++ mode.text width height ++ newlines =
      (front ++ [mode.kind.char]) ++ ':' :: (numeral width ++ 'x' :: (numeral height ++
        mode.scan.char :: '-' :: (numeral mode.rate ++ newlines))) := by
    simp [Mode.text]
  have absent : ':' ∉ numeral width ++ 'x' :: (numeral height ++
      mode.scan.char :: '-' :: (numeral mode.rate ++ newlines)) := by
    have letter : ':' ≠ mode.scan.char := fun same =>
      absurd (same ▸ mode.scan.isAlpha) (by decide)
    have digits : ∀ n, ':' ∉ numeral n := fun n => notMem_numeral (by decide)
    have newline : ':' ∉ newlines := fun member => absurd (only _ member) (by decide)
    simp [letter, digits, newline]
  -- The largest prefix ends at the last colon, and the largest suffix begins at the first `x`.
  rw [shape, removeLargestPrefix_any_char absent,
    removeLargestSuffix_char_any (notMem_numeral (by decide))]

/-- The text behind the last `x`, less the rate and one character, is the height, unless that
character is an `x` itself. -/
theorem height_of_field (front : List Char) {newlines : List Char}
    (only : ∀ c ∈ newlines, c = '\n') :
    removeSmallestSuffix [.one] (removeSmallestSuffix [.char '-', .any]
        (removeLargestPrefix [.any, .char 'x'] (front ++ mode.text width height ++ newlines))) =
      if mode.scan.char = 'x' then [] else numeral height := by
  have noDigit : ∀ n, 'x' ∉ numeral n := fun n => notMem_numeral (by decide)
  have noNewline : 'x' ∉ newlines := fun member => absurd (only _ member) (by decide)
  have rate : '-' ∉ numeral mode.rate ++ newlines := by
    have digits : '-' ∉ numeral mode.rate := notMem_numeral (by decide)
    have newline : '-' ∉ newlines := fun member => absurd (only _ member) (by decide)
    simp [digits, newline]
  by_cases scan : mode.scan.char = 'x'
  · -- The last `x` is behind the height.
    have shape : front ++ mode.text width height ++ newlines =
        (front ++ mode.kind.char :: ':' :: (numeral width ++ 'x' :: numeral height)) ++
          'x' :: ([] ++ '-' :: (numeral mode.rate ++ newlines)) := by
      simp [Mode.text, scan]
    have absent : 'x' ∉ [] ++ '-' :: (numeral mode.rate ++ newlines) := by
      simp [noDigit, noNewline]
    rw [shape, removeLargestPrefix_any_char absent, removeSmallestSuffix_char_any rate,
      removeSmallestSuffix_one, if_pos scan]
    rfl
  · have shape : front ++ mode.text width height ++ newlines =
        (front ++ mode.kind.char :: ':' :: numeral width) ++
          'x' :: ((numeral height ++ [mode.scan.char]) ++ '-' ::
            (numeral mode.rate ++ newlines)) := by
      simp [Mode.text]
    have absent : 'x' ∉ (numeral height ++ [mode.scan.char]) ++ '-' ::
        (numeral mode.rate ++ newlines) := by
      simp [noDigit, noNewline, Ne.symm scan]
    rw [shape, removeLargestPrefix_any_char absent, removeSmallestSuffix_char_any rate,
      removeSmallestSuffix_one, List.dropLast_concat, if_neg scan]

/-- The script counts the pixels of the mode it looks at. -/
theorem pixelCount_eq (shell : Shell) (display : Display) :
    substitute (getDefaultDisplayPixelCount shell (some display.contents)) =
      numeral display.counted := by
  -- The two sides are cut out of the first field, and multiplied.
  obtain ⟨front, newlines, rest, fields, only⟩ := exists_expand_contents shell display
  have product : shell.times (numeral display.width)
      (if (lookedAt display.first display.others).scan.char = 'x' then []
        else numeral display.height) = numeral display.counted := by
    unfold Display.counted
    split
    · exact shell.times_nil _
    · exact shell.times_numerals _ _ display.bounded
  unfold getDefaultDisplayPixelCount
  dsimp only
  rw [fields, List.getD_cons_zero, width_of_field front only, height_of_field front only, product,
    substitute_echo_plain shell (plain_numeral _) (by decide)]

/-- Modes on lines of their own are one field, of which the last one is looked at. -/
example : substitute (getDefaultDisplayPixelCount .bare
    (some "U:1080x1920p-60\nU:1080x1920p-53\n".toList)) = "2073600".toList := by decide

/-- The product of the sides is less than what the shell can count. -/
theorem counted_lt (display : Display) : display.counted < 2 ^ 31 := by
  -- The mode says so of its sides, or the product is zero.
  have bounded := display.bounded
  unfold Display.counted
  split <;> omega

end Display

/-- Newlines are removed behind the unit only. -/
theorem substitute_contents (meminfo : Meminfo) :
    substitute meminfo.contents =
      "MemTotal:".toList ++ ' ' :: (List.replicate meminfo.spaces ' ' ++
        (numeral meminfo.total ++ ' ' :: substitute ("kB\n".toList ++ meminfo.rest))) := by
  -- The title, the blanks and the number are in front of the last character that shows.
  have visible : 'k' ∈ "kB\n".toList ++ meminfo.rest := by simp
  unfold Meminfo.contents
  generalize "MemTotal:".toList = title
  generalize "kB\n".toList ++ meminfo.rest = behind at visible ⊢
  have shape : title ++ ' ' :: (List.replicate meminfo.spaces ' ' ++
      (numeral meminfo.total ++ ' ' :: behind)) =
      (title ++ ' ' :: (List.replicate meminfo.spaces ' ' ++
        (numeral meminfo.total ++ [' ']))) ++ behind := by
    simp
  rw [shape, substitute_append visible (by decide)]
  simp

/-- The second field of the file is the memory. -/
theorem totalSysMemsize_eq (shell : Shell) (meminfo : Meminfo) :
    substitute (getTotalSystemMemory shell (some meminfo.contents)) = numeral meminfo.total := by
  have plain := plain_numeral meminfo.total
  have title : words ' ' (substitute meminfo.contents) =
      ('M' :: "emTotal:".toList) :: numeral meminfo.total ::
        words ' ' (substitute ("kB\n".toList ++ meminfo.rest)) := by
    rw [substitute_contents, words_append (by decide) (by decide),
      words_blanks fun c member => (List.mem_replicate.mp member).2,
      words_append (notMem_numeral (by decide)) plain.1]
    rfl
  have letters : ('M' :: "emTotal:".toList).all ordinary = true := by decide
  have number : shell.glob (numeral meminfo.total) = [numeral meminfo.total] :=
    shell.glob_of_ordinary _ fun c member => .inl (plain.ordinary_of_mem member)
  unfold getTotalSystemMemory Shell.expand
  dsimp only
  -- The title is no pattern and, because it begins with a letter, no option of `set`.
  rw [fields_singleton, title, List.flatMap_cons, List.flatMap_cons, number,
    shell.glob_of_ordinary _ fun c member => .inl (List.all_eq_true.mp letters c member),
    List.singleton_append, List.singleton_append,
    shell.set_letter _ _ _ (by decide), List.getD_cons_succ, List.getD_cons_zero,
    shell.echo_plain _ plain, substitute_append_newline, plain.substitute_eq]

end Grouper.Hwui
