import Mathlib.Data.List.Nodup
import Mathlib.Data.List.Perm.Basic
import Mathlib.Logic.Function.Basic

/-! Items filed under keys that wrap around, and the letters that carry nothing but the keys. -/

namespace Grouper

open Function (update)

/-- An item with the number of its dispatch, which never wraps around. -/
structure Numbered (ε : Type*) where
  number : Nat
  item : ε
  deriving DecidableEq, Repr

variable {ε : Type*}

/--
Every letter on its way finds its item, and every item filed has its letter on its way.

A letter is the key it carries and, for the record, the item it was sent for.
-/
structure Filed (modulus sent : Nat) (filed : Nat → Option (Numbered ε))
    (letters : List (Nat × Numbered ε)) : Prop where
  finds : ∀ letter ∈ letters, filed letter.1 = some letter.2
  only : ∀ key item, filed key = some item → (key, item) ∈ letters
  keyed : ∀ letter ∈ letters, letter.1 = letter.2.number % modulus ∧ letter.2.number < sent
  distinct : (letters.map fun letter => letter.2.number).Nodup

/-- Numbers closer than the modulus have different keys. -/
theorem mod_ne_mod_of_near {modulus earlier later : Nat} (less : earlier < later)
    (near : later < earlier + modulus) : earlier % modulus ≠ later % modulus := by
  -- Equal keys would put the numbers at least one whole turn apart.
  intro same
  have turn : modulus ∣ later - earlier :=
    Nat.dvd_of_mod_eq_zero (Nat.sub_mod_eq_zero_of_mod_eq same.symm)
  have far := Nat.le_of_dvd (by omega) turn
  omega

namespace Filed

variable {modulus sent : Nat} {filed : Nat → Option (Numbered ε)}
  {letters others : List (Nat × Numbered ε)}

/-- Nothing is filed before the first letter. -/
theorem empty : Filed modulus 0 (fun _ => none : Nat → Option (Numbered ε)) [] where
  finds := List.forall_mem_nil _
  only := nofun
  keyed := List.forall_mem_nil _
  distinct := List.Pairwise.nil

/-- The order of the letters does not matter. -/
theorem perm (held : Filed modulus sent filed letters) (same : letters.Perm others) :
    Filed modulus sent filed others where
  finds letter member := held.finds letter (same.mem_iff.mpr member)
  only key item found := same.mem_iff.mp (held.only key item found)
  keyed letter member := held.keyed letter (same.mem_iff.mpr member)
  distinct := (same.map _).nodup_iff.mp held.distinct

/-- Nothing is filed once no letter is on its way. -/
theorem nothing (held : Filed modulus sent filed []) (key : Nat) : filed key = none := by
  -- Anything filed would have its letter.
  cases found : filed key with
  | none => rfl
  | some item => exact absurd (held.only key item found) List.not_mem_nil

/-- A new item displaces nothing, if all that is filed was dispatched less than a turn ago. -/
theorem send (held : Filed modulus sent filed letters)
    (fresh : ∀ key item, filed key = some item → sent < item.number + modulus) (item : ε) :
    Filed modulus (sent + 1) (update filed (sent % modulus) (some ⟨sent, item⟩))
      ((sent % modulus, ⟨sent, item⟩) :: letters) := by
  -- The new key differs from every key that is in use.
  have apart : ∀ letter ∈ letters, letter.1 ≠ sent % modulus := by
    intro letter member
    obtain ⟨key, less⟩ := held.keyed letter member
    rw [key]
    exact mod_ne_mod_of_near less (fresh _ _ (held.finds letter member))
  refine ⟨List.forall_mem_cons.mpr ⟨Function.update_self .., fun letter member => ?_⟩,
    fun key other found => ?_, List.forall_mem_cons.mpr ⟨⟨rfl, Nat.lt_succ_self _⟩,
    fun letter member => ?_⟩, List.nodup_cons.mpr ⟨fun member => ?_, held.distinct⟩⟩
  · -- Earlier letters have other keys.
    rw [Function.update_of_ne (apart letter member)]
    exact held.finds letter member
  · -- What is filed under the new key is the new item, and the rest is as before.
    by_cases same : key = sent % modulus
    · subst same
      rw [Function.update_self] at found
      rw [← Option.some.inj found]
      exact List.mem_cons_self
    · rw [Function.update_of_ne same] at found
      exact List.mem_cons_of_mem _ (held.only key other found)
  · obtain ⟨key, less⟩ := held.keyed letter member
    exact ⟨key, Nat.lt_succ_of_lt less⟩
  · -- Every earlier number is below the new one.
    obtain ⟨letter, member, same⟩ := List.mem_map.mp member
    exact absurd same (Nat.ne_of_lt (held.keyed letter member).2)

/-- A letter that arrives finds its item, and all others still find theirs without it. -/
theorem take {letter : Nat × Numbered ε} (held : Filed modulus sent filed (letter :: letters)) :
    filed letter.1 = some letter.2 ∧
      Filed modulus sent (update filed letter.1 none) letters := by
  have found := held.finds letter List.mem_cons_self
  obtain ⟨first, distinct⟩ := List.nodup_cons.mp held.distinct
  -- No other letter has the same key, for it would find the same item.
  have apart : ∀ other ∈ letters, other.1 ≠ letter.1 := by
    intro other member same
    have also := held.finds other (List.mem_cons_of_mem _ member)
    rw [same, found] at also
    have equal : letter.2 = other.2 := Option.some.inj also
    exact first (List.mem_map.mpr ⟨other, member, congrArg Numbered.number equal.symm⟩)
  refine ⟨found, fun other member => ?_, fun key item filed => ?_, fun other member =>
    held.keyed other (List.mem_cons_of_mem _ member), distinct⟩
  · rw [Function.update_of_ne (apart other member)]
    exact held.finds other (List.mem_cons_of_mem _ member)
  · -- The key of the letter is empty now, so the letter of what is filed is another one.
    by_cases same : key = letter.1
    · rw [same, Function.update_self] at filed
      cases filed
    · rw [Function.update_of_ne same] at filed
      rcases List.mem_cons.mp (held.only key item filed) with is | member
      · exact absurd (congrArg Prod.fst is) same
      · exact member

end Filed

/--
Every item sent is in one place: on its way, in hand, or finished with.

What was handled is what is in hand or finished with.
-/
structure Conveys (modulus sent : Nat) (filed : Nat → Option (Numbered ε))
    (letters : List (Nat × Numbered ε)) (hand handled finished : List Nat) : Prop where
  filed : Filed modulus sent filed letters
  places : (letters.map (fun letter => letter.2.number) ++ (hand ++ finished)).Perm
    (List.range sent)
  handled : handled.Perm (hand ++ finished)

namespace Conveys

variable {modulus sent : Nat} {filed : Nat → Option (Numbered ε)}
  {letters others : List (Nat × Numbered ε)} {hand handled finished : List Nat}

/-- Nothing is conveyed before the first letter. -/
theorem empty : Conveys modulus 0 (fun _ => none : Nat → Option (Numbered ε)) [] [] [] [] :=
  ⟨.empty, .rfl, .rfl⟩

/-- The order of the letters does not matter. -/
theorem perm (conveys : Conveys modulus sent filed letters hand handled finished)
    (same : letters.Perm others) : Conveys modulus sent filed others hand handled finished :=
  ⟨conveys.filed.perm same, ((same.map _).symm.append_right _).trans conveys.places,
    conveys.handled⟩

/-- What is sent is on its way. -/
theorem send (conveys : Conveys modulus sent filed letters hand handled finished)
    (fresh : ∀ key item, filed key = some item → sent < item.number + modulus) (item : ε) :
    Conveys modulus (sent + 1) (update filed (sent % modulus) (some ⟨sent, item⟩))
      ((sent % modulus, ⟨sent, item⟩) :: letters) hand handled finished := by
  refine ⟨conveys.filed.send fresh item, ?_, conveys.handled⟩
  -- The new number is the next one.
  rw [List.range_succ]
  exact (conveys.places.cons sent).trans (List.perm_append_singleton sent _).symm

/-- A letter that arrives puts its item in hand, if nothing else is. -/
theorem take {letter : Nat × Numbered ε}
    (conveys : Conveys modulus sent filed (letter :: letters) [] handled finished) :
    filed letter.1 = some letter.2 ∧ Conveys modulus sent (update filed letter.1 none) letters
      [letter.2.number] (letter.2.number :: handled) finished := by
  -- The number of the letter moves from those on their way into the hand.
  obtain ⟨found, rest⟩ := conveys.filed.take
  exact ⟨found, rest, List.perm_middle.trans conveys.places, conveys.handled.cons _⟩

/-- What is in hand is finished with. -/
theorem finish {number : Nat}
    (conveys : Conveys modulus sent filed letters [number] handled finished) :
    Conveys modulus sent filed letters [] handled (number :: finished) :=
  ⟨conveys.filed, conveys.places, conveys.handled⟩

/-- Nothing is handled, or finished with, that was not sent. -/
theorem handled_lt (conveys : Conveys modulus sent filed letters hand handled finished) :
    ∀ number ∈ hand ++ finished, number < sent := by
  -- The three places together hold the numbers sent, and no others.
  intro number member
  exact List.mem_range.mp (conveys.places.mem_iff.mp (List.mem_append_right _ member))

/-- Every item sent still finds its way, or is in hand, or was handled and finished with once. -/
theorem once (conveys : Conveys modulus sent filed letters hand handled finished) {number : Nat}
    (less : number < sent) :
    ((∃ letter ∈ letters, letter.2.number = number ∧ filed letter.1 = some letter.2) ∧
        number ∉ handled ∧ number ∉ finished) ∨
      (number ∈ hand ∧ handled.count number = 1 ∧ number ∉ finished) ∨
      (handled.count number = 1 ∧ finished.count number = 1) := by
  -- The three places together have it once.
  have one := conveys.places.count_eq number
  rw [List.count_range, if_pos less, List.count_append, List.count_append] at one
  have handled := conveys.handled.count_eq number
  rw [List.count_append] at handled
  rcases Nat.eq_zero_or_pos (finished.count number) with absent | present
  · rcases Nat.eq_zero_or_pos (hand.count number) with away | near
    · -- Neither finished nor in hand, so it has a letter, which finds it.
      refine Or.inl ⟨?_, List.count_eq_zero.mp (by omega), List.count_eq_zero.mp absent⟩
      have somewhere : 0 < (letters.map fun letter => letter.2.number).count number := by omega
      obtain ⟨letter, member, same⟩ := List.mem_map.mp (List.count_pos_iff.mp somewhere)
      exact ⟨letter, member, same, conveys.filed.finds letter member⟩
    · exact Or.inr (Or.inl ⟨List.count_pos_iff.mp near, by omega, List.count_eq_zero.mp absent⟩)
  · exact Or.inr (Or.inr ⟨by omega, by omega⟩)

end Conveys

end Grouper
