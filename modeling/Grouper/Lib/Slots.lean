import Mathlib.Data.List.Basic
import Mathlib.Logic.Function.Basic

/-! Numbered slots that tokens are put into, and lists of slots whose tokens are known. -/

namespace Grouper

open Function (update)

variable {τ : Type*}

/-- Every listed slot has the token it is listed with, and no token is listed twice. -/
structure Slotted (slots : Nat → Option τ) (held : List (Nat × τ)) : Prop where
  there : ∀ one ∈ held, slots one.1 = some one.2
  distinct : (held.map Prod.snd).Nodup

namespace Slotted

variable {slots : Nat → Option τ} {held others : List (Nat × τ)} {slot : Nat} {token : τ}

/-- No slot is taken for nothing. -/
theorem nil (slots : Nat → Option τ) : Slotted slots [] :=
  ⟨List.forall_mem_nil _, List.Pairwise.nil⟩

/-- The order of the list does not matter. -/
theorem perm (holds : Slotted slots held) (same : held.Perm others) : Slotted slots others where
  there one member := holds.there one (same.mem_iff.mpr member)
  distinct := (same.map _).nodup_iff.mp holds.distinct

/-- A slot may be forgotten. -/
theorem tail {one : Nat × τ} (holds : Slotted slots (one :: held)) : Slotted slots held where
  there other member := holds.there other (List.mem_cons_of_mem _ member)
  distinct := (List.nodup_cons.mp holds.distinct).2

/-- A slot that was free may be filled without concern to the list. -/
theorem fill (holds : Slotted slots held) (free : slots slot = none) :
    Slotted (update slots slot (some token)) held where
  there one member := by
    -- The listed slots are all taken.
    have other : one.1 ≠ slot := fun same => by
      have there := holds.there one member
      rw [same, free] at there
      cases there
    rw [Function.update_of_ne other]
    exact holds.there one member
  distinct := holds.distinct

/-- A new token in a free slot may be listed. -/
theorem put (holds : Slotted slots held) (free : slots slot = none)
    (new : ∀ one ∈ held, one.2 ≠ token) :
    Slotted (update slots slot (some token)) ((slot, token) :: held) where
  there := List.forall_mem_cons.mpr ⟨Function.update_self .., (holds.fill free).there⟩
  distinct := List.nodup_cons.mpr ⟨fun member => by
    obtain ⟨one, member, same⟩ := List.mem_map.mp member
    exact new one member same, holds.distinct⟩

/-- A slot that is not listed may be emptied. -/
theorem empty (holds : Slotted slots held) (there : slots slot = some token)
    (unlisted : ∀ one ∈ held, one.2 ≠ token) : Slotted (update slots slot none) held where
  there one member := by
    -- Another token is in another slot.
    have other : one.1 ≠ slot := fun same => by
      have found := holds.there one member
      rw [same, there] at found
      exact unlisted one member (Option.some.inj found).symm
    rw [Function.update_of_ne other]
    exact holds.there one member
  distinct := holds.distinct

/-- A listed slot that is emptied leaves the others as they are. -/
theorem take (holds : Slotted slots ((slot, token) :: held)) :
    slots slot = some token ∧ Slotted (update slots slot none) held := by
  -- Emptied, the slot is no longer listed, and the others have other tokens.
  have there := holds.there _ List.mem_cons_self
  refine ⟨there, holds.tail.empty there fun one member same => ?_⟩
  exact (List.nodup_cons.mp holds.distinct).1 (List.mem_map.mpr ⟨one, member, same⟩)

end Slotted

end Grouper
