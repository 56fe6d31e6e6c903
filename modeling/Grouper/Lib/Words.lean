import Mathlib.Data.List.Basic
import Mathlib.Data.List.Forall2
import Mathlib.Data.List.TakeWhile

/-! Texts as sequences of words, which one character separates. -/

namespace Grouper

variable {α : Type*} [DecidableEq α]

/-- The longest parts of a text without the separator, less the empty ones. -/
def words (separator : α) (text : List α) : List (List α) :=
  (text.splitOn separator).filter (· ≠ [])

variable {separator : α} {word text : List α}

/-- There is no word in an empty text. -/
@[simp] theorem words_nil : words separator [] = [] := by
  simp [words]

/-- A separator in front of a text makes no word. -/
@[simp] theorem words_separator : words separator (separator :: text) = words separator text := by
  -- The part in front of the separator is empty, and empty parts are no words.
  unfold words
  rw [List.splitOn_cons_eq_if_modifyHead]
  simp

/-- A text without the separator is one word. -/
theorem words_single (whole : separator ∉ word) (some_ : word ≠ []) :
    words separator word = [word] := by
  -- A text without separators is split into one piece.
  unfold words
  rw [List.splitOn_eq_singleton whole]
  simp [some_]

/-- A word ends at the first separator behind it. -/
theorem words_append (whole : separator ∉ word) (some_ : word ≠ []) :
    words separator (word ++ separator :: text) = word :: words separator text := by
  -- The first separator is behind the first word.
  unfold words
  rw [List.splitOn_append_cons_self, List.splitOn_eq_singleton whole]
  simp [some_]

/-- A text that begins with a word begins with everything in front of the next separator. -/
theorem exists_words_eq_cons {c : α} (starts : text.head? = some c) (other : c ≠ separator) :
    ∃ rest, words separator text = text.takeWhile (· ≠ separator) :: rest := by
  have whole : separator ∉ text.takeWhile (· ≠ separator) := by
    intro member
    simpa using List.mem_takeWhile_imp member
  have some_ : text.takeWhile (· ≠ separator) ≠ [] := by
    cases text with
    | nil => cases starts
    | cons d ds =>
      obtain rfl : d = c := by simpa using starts
      simp [other]
  have parts := List.takeWhile_append_dropWhile (p := fun c => decide (c ≠ separator)) (l := text)
  have stopped := List.head?_dropWhile_not (fun c => decide (c ≠ separator)) text
  cases behind : text.dropWhile (· ≠ separator) with
  | nil =>
    rw [behind, List.append_nil] at parts
    refine ⟨[], ?_⟩
    rw [← words_single whole some_, parts]
  | cons d ds =>
    -- What ends the word is a separator.
    rw [behind] at stopped
    obtain rfl : d = separator := by simpa using stopped
    rw [behind] at parts
    refine ⟨words d ds, ?_⟩
    rw [← words_append whole some_, parts]

/-- Words written with a separator behind each of them are read back. -/
theorem words_flatMap {parts : List (List α)}
    (wholes : ∀ part ∈ parts, separator ∉ part ∧ part ≠ []) :
    words separator (parts.flatMap (· ++ [separator]) ++ text) = parts ++ words separator text := by
  -- Each word ends before the separator that was written behind it.
  induction parts with
  | nil => rfl
  | cons part rest ih =>
    obtain ⟨whole, some_⟩ := wholes part List.mem_cons_self
    have later := ih fun other member => wholes other (List.mem_cons_of_mem _ member)
    rw [List.flatMap_cons, List.append_assoc, List.append_assoc, List.singleton_append,
      words_append whole some_, later, List.cons_append]

/-- Separators in front of a text make no word. -/
theorem words_blanks {blanks : List α} (only : ∀ c ∈ blanks, c = separator) :
    words separator (blanks ++ text) = words separator text := by
  -- The separators go one by one, from the left.
  induction blanks with
  | nil => rfl
  | cons c rest ih =>
    obtain ⟨rfl, others⟩ := List.forall_mem_cons.mp only
    rw [List.cons_append, words_separator, ih others]

/-- The words of a text that have a separator behind them. -/
def closedWords (separator : α) (text : List α) : List (List α) :=
  (text.splitOn separator).dropLast.filter (· ≠ [])

/-- A text without separators closes no word. -/
theorem closedWords_single (whole : separator ∉ word) : closedWords separator word = [] := by
  -- Nothing closes the one word.
  unfold closedWords
  rw [List.splitOn_eq_singleton whole]
  rfl

/-- A word is closed by the separator behind it. -/
theorem closedWords_append (whole : separator ∉ word) :
    closedWords separator (word ++ separator :: text) =
      (if word = [] then [] else [word]) ++ closedWords separator text := by
  have rest : text.splitOn separator ≠ [] := List.splitOn_ne_nil _ _
  -- Something follows the separator, so the first part is not the last one, which is dropped.
  unfold closedWords
  rw [List.splitOn_append_cons_self, List.splitOn_eq_singleton whole, List.singleton_append,
    List.dropLast_cons_of_ne_nil rest, List.filter_cons]
  by_cases empty : word = []
  · simp [empty]
  · simp [empty]

/-- Blanks in front close no word. -/
theorem closedWords_blanks {blanks : List α} (only : ∀ c ∈ blanks, c = separator) :
    closedWords separator (blanks ++ text) = closedWords separator text := by
  induction blanks with
  | nil => rfl
  | cons c rest ih =>
    obtain ⟨rfl, others⟩ := List.forall_mem_cons.mp only
    rw [List.cons_append]
    -- A leading separator closes the empty word, which does not count.
    have first : closedWords c ([] ++ c :: (rest ++ text)) = _ :=
      closedWords_append List.not_mem_nil
    rw [if_pos rfl, List.nil_append, List.nil_append, ih others] at first
    exact first

/-- A text has no more words than characters. -/
theorem length_words_le (text : List α) : (words separator text).length ≤ text.length := by
  -- Each character adds at most one word to those of the rest.
  induction text with
  | nil => simp
  | cons c rest ih =>
    by_cases same : c = separator
    · subst same
      rw [words_separator]
      exact Nat.le_succ_of_le ih
    · -- The character joins the first part of the rest, and only that may become a word.
      unfold words at ih ⊢
      rw [List.splitOn_cons_eq_if_modifyHead, if_neg (by simpa using same), List.length_cons]
      cases split : List.splitOn separator rest with
      | nil => simp
      | cons part parts =>
        rw [split] at ih
        rw [List.modifyHead_cons, List.filter_cons_of_pos (by simp), List.length_cons]
        refine Nat.succ_le_succ (Nat.le_trans ?_ ih)
        exact ((List.sublist_cons_self part parts).filter _).length_le

/-- There are at most as many closed words as characters. -/
theorem length_closedWords_le (text : List α) :
    (closedWords separator text).length ≤ text.length :=
  Nat.le_trans ((List.dropLast_sublist _).filter _).length_le (length_words_le text)

/-- A text as its first separators, the word behind them, and the rest from where that ends. -/
def firstWord (separator stop : α) (text : List α) : List α × List α × List α :=
  let rest := text.dropWhile (· = separator)
  (text.takeWhile (· = separator), rest.takeWhile fun c => c ≠ separator ∧ c ≠ stop,
    rest.dropWhile fun c => c ≠ separator ∧ c ≠ stop)

/-- A word ends at the end of the text, at a stop, or, if it is one, at a separator. -/
theorem firstWord_cases (separator stop : α) (text : List α) : ∃ blanks word rest,
    firstWord separator stop text = (blanks, word, rest) ∧ text = blanks ++ (word ++ rest) ∧
      (∀ c ∈ blanks, c = separator) ∧ separator ∉ word ∧ stop ∉ word ∧
      (rest = [] ∨ (∃ after, rest = stop :: after) ∨
        word ≠ [] ∧ ∃ after, rest = separator :: after) := by
  have ends : ∀ c ∈ (text.dropWhile (· = separator)).takeWhile
      (fun c => c ≠ separator ∧ c ≠ stop), c ≠ separator ∧ c ≠ stop := by
    intro c member
    have met := List.mem_takeWhile_imp member
    exact of_decide_eq_true met
  refine ⟨_, _, _, rfl, ?_, fun c member => ?_, fun member => (ends _ member).1 rfl,
    fun member => (ends _ member).2 rfl, ?_⟩
  · -- Both divisions put together again are the text.
    rw [List.takeWhile_append_dropWhile, List.takeWhile_append_dropWhile]
  · have met := List.mem_takeWhile_imp member
    exact of_decide_eq_true met
  · -- What stops the word is a stop or a separator, and the first separators are left out.
    have skipped := List.head?_dropWhile_not (fun c => decide (c = separator)) text
    have stopped := List.head?_dropWhile_not (fun c => decide (c ≠ separator ∧ c ≠ stop))
      (text.dropWhile (· = separator))
    have parts := List.takeWhile_append_dropWhile (p := fun c => decide (c ≠ separator ∧ c ≠ stop))
      (l := text.dropWhile (· = separator))
    generalize (text.dropWhile (· = separator)).takeWhile
      (fun c => decide (c ≠ separator ∧ c ≠ stop)) = word at parts ⊢
    generalize (text.dropWhile (· = separator)).dropWhile
      (fun c => decide (c ≠ separator ∧ c ≠ stop)) = rest at stopped parts ⊢
    cases rest with
    | nil => exact .inl rfl
    | cons c after =>
      -- The character that ended the word is one of the two.
      have which : c = separator ∨ c = stop := by
        by_contra neither
        simp_all
      rcases which with rfl | rfl
      · refine .inr (.inr ⟨?_, after, rfl⟩)
        -- An empty word would leave the separator among those that were skipped.
        rintro rfl
        rw [← parts] at skipped
        simp at skipped
      · exact .inr (.inl ⟨after, rfl⟩)

/-- Each of the first words that has a separator behind it is cut off there by a stop. -/
def cutWords (separator stop : α) : Nat → List α → List α
  | 0, text => text
  | count + 1, text =>
    match firstWord separator stop text with
    | (blanks, word, c :: after) =>
      if c = separator then blanks ++ (word ++ stop :: cutWords separator stop count after)
      else text
    | (_, _, []) => text

section Cut

variable {stop : α} {blanks after : List α} {count : Nat}

/-- The cut goes on behind a word that is closed. -/
theorem cutWords_closed
    (first : firstWord separator stop text = (blanks, word, separator :: after)) :
    cutWords separator stop (count + 1) text =
      blanks ++ (word ++ stop :: cutWords separator stop count after) := by
  rw [cutWords, first]
  exact if_pos rfl

/-- A word that ends otherwise is not cut off, nor are those behind it. -/
theorem cutWords_open {rest : List α} (first : firstWord separator stop text = (blanks, word, rest))
    (open_ : ∀ after, rest ≠ separator :: after) : cutWords separator stop count text = text := by
  -- The first word that has no separator behind it is also the last one that is looked at.
  cases count with
  | zero => rfl
  | succ count =>
    rw [cutWords, first]
    cases rest with
    | nil => rfl
    | cons c after =>
      refine if_neg fun same => ?_
      exact open_ after (same ▸ rfl)

/-- Cutting replaces characters. -/
theorem length_cutWords (count : Nat) (text : List α) :
    (cutWords separator stop count text).length = text.length := by
  -- The induction is on the words left to cut, and the text they are in varies.
  induction count generalizing text with
  | zero => rfl
  | succ count ih =>
    obtain ⟨blanks, word, rest, first, parts, _, _, _, ends⟩ := firstWord_cases separator stop text
    by_cases closed : ∃ after, rest = separator :: after
    · obtain ⟨after, rfl⟩ := closed
      rw [cutWords_closed first, parts]
      simp [ih]
    · rw [cutWords_open first fun after same => closed ⟨after, same⟩]

/-- Every character stays as it is, or becomes a stop. -/
theorem forall₂_cutWords (count : Nat) (text : List α) :
    List.Forall₂ (fun new old => new = old ∨ new = stop) (cutWords separator stop count text)
      text := by
  have same : ∀ part : List α, List.Forall₂ (fun new old => new = old ∨ new = stop) part part :=
    fun part => List.forall₂_same.mpr fun _ _ => .inl rfl
  induction count generalizing text with
  | zero => exact same text
  | succ count ih =>
    obtain ⟨blanks, word, rest, first, parts, _, _, _, ends⟩ := firstWord_cases separator stop text
    by_cases closed : ∃ after, rest = separator :: after
    · obtain ⟨after, rfl⟩ := closed
      -- Only the separator behind the word is another character now.
      rw [cutWords_closed first, parts]
      exact List.rel_append (same blanks)
        (List.rel_append (same word) (.cons (.inr rfl) (ih after)))
    · rw [cutWords_open first fun after same => closed ⟨after, same⟩]
      exact same text

end Cut

end Grouper
