import Mathlib.Data.List.Nodup
import Mathlib.Logic.Function.Basic

/-! Memory in blocks that are allocated, accessed and released. -/

namespace Grouper

open Function (update)

/-- Memory whose blocks are numbered in the order of their allocation. -/
structure Heap (β : Type*) where
  /-- The contents of the blocks that are there. -/
  block : Nat → Option β
  allocated : Nat
  /-- The blocks that were released, the last one first. -/
  freed : List Nat

/-- The ways in which an access to memory goes wrong. -/
inductive MemoryFault where
  /-- The block was never allocated, or it was released before. -/
  | dangling
  | null
  | outOfBounds
  /-- The block holds something else. -/
  | otherKind
  deriving DecidableEq, Repr

namespace Heap

variable {β : Type*}

def empty : Heap β := ⟨fun _ => none, 0, []⟩

/-- A new block, and its number. -/
def alloc (h : Heap β) (contents : β) : Nat × Heap β :=
  (h.allocated, { h with
    block := update h.block h.allocated (some contents), allocated := h.allocated + 1 })

def load (h : Heap β) (address : Nat) : Except MemoryFault β :=
  match h.block address with
  | none => .error .dangling
  | some contents => .ok contents

def store (h : Heap β) (address : Nat) (contents : β) : Except MemoryFault (Heap β) :=
  match h.block address with
  | none => .error .dangling
  | some _ => .ok { h with block := update h.block address (some contents) }

def free (h : Heap β) (address : Nat) : Except MemoryFault (Heap β) :=
  match h.block address with
  | none => .error .dangling
  | some _ => .ok { h with
    -- A block that was released is gone, so a second release would be an error.
    block := update h.block address none, freed := address :: h.freed }

/-- Every block that was ever allocated was released, and once. -/
def Balanced (h : Heap β) : Prop := ∀ address < h.allocated, h.freed.count address = 1

section Laws

variable {h : Heap β} {address : Nat} {contents : β}

/-- A block that is there can be read. -/
theorem load_of_block (there : h.block address = some contents) :
    h.load address = .ok contents := by
  simp [load, there]

/-- It can be written. -/
theorem store_of_block {other : β} (there : h.block address = some other) :
    h.store address contents =
      .ok { h with block := update h.block address (some contents) } := by
  simp [store, there]

/-- It can be freed. -/
theorem free_of_block (there : h.block address = some contents) :
    h.free address = .ok { h with
      block := update h.block address none, freed := address :: h.freed } := by
  simp [free, there]

end Laws

end Heap

end Grouper
