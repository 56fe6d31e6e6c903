import Grouper.Lib.Heap
import Grouper.Power.Sysfs

/-! The roles of a component, in memory that its library is told about. -/

namespace Grouper.Omx

open Function (update update_self)
open Power (cString overwrite)

/-- `OMX_MAX_STRINGNAME_SIZE`, which counts the NUL. -/
def omxMaxStringnameSize : Nat := 128

/-- `OMX_ERRORTYPE`. -/
abbrev OmxError := UInt32

def omxErrorNone : OmxError := 0
def omxErrorUndefined : OmxError := 0x80001001

/-- What `new` returns, or null. -/
abbrev Pointer := Option Nat

/-- A block of memory. -/
inductive Block where
  /-- An array of pointers to names. -/
  | array (entries : List Pointer)
  | name (bytes : List UInt8)
  deriving DecidableEq, Repr

/-- A name that a buffer has room for. -/
abbrev RoleName := { bytes : List UInt8 // 0 ∉ bytes ∧ bytes.length < omxMaxStringnameSize }

/-- What the two calls of `OMX_GetRolesOfComponent` come to. -/
structure RolesLibrary where
  firstError : OmxError
  /-- The count that the first call leaves behind. -/
  firstCount : UInt32
  secondError : OmxError
  secondCount : UInt32
  /-- What the second call stores in the entries it was offered, if it fills them. -/
  stored : Nat → Option RoleName

/-- `array[i]`. -/
def entry (h : Heap Block) (address i : Nat) : Except MemoryFault Pointer := do
  match ← h.load address with
  | .name _ => .error .otherKind
  | .array entries =>
    match entries[i]? with
    | none => .error .outOfBounds
    | some pointer => return pointer

/-- An assignment to `array[i]`. -/
def setEntry (h : Heap Block) (address i : Nat) (pointer : Pointer) :
    Except MemoryFault (Heap Block) := do
  match ← h.load address with
  | .name _ => .error .otherKind
  | .array entries =>
    if i < entries.length then h.store address (.array (entries.set i pointer))
    else .error .outOfBounds

/-- `String8` of a buffer, which reads up to the NUL. -/
def string8 (h : Heap Block) : Pointer → Except MemoryFault (List UInt8)
  | none => .error .null
  | some address => do
    match ← h.load address with
    | .array _ => .error .otherKind
    | .name bytes => if 0 ∈ bytes then return cString bytes else .error .outOfBounds

/-- `delete[]`, which leaves a null pointer alone. -/
def delete (h : Heap Block) : Pointer → Except MemoryFault (Heap Block)
  | none => return h
  | some address => h.free address

/-- The loop that allocates the buffers, with what each of them contains by then. -/
def newNames (contents : Nat → List UInt8) (address : Nat) :
    Nat → Nat → Heap Block → Except MemoryFault (Heap Block)
  | 0, _, h => return h
  | remaining + 1, i, h => do
    -- `new` comes before the assignment, so the array is written with the buffer in place.
    let (name, h) := h.alloc (.name (contents i))
    let h ← setEntry h address i (some name)
    newNames contents address remaining (i + 1) h

/-- The second call of the library fills the entries that it was offered. -/
def fillNames (stored : Nat → Option RoleName) (address : Nat) :
    Nat → Nat → Heap Block → Except MemoryFault (Heap Block)
  | 0, _, h => return h
  | remaining + 1, i, h => do
    match stored i with
    -- An entry that the library does not fill keeps what the new buffer contained.
    | none => fillNames stored address remaining (i + 1) h
    | some role =>
      match ← entry h address i with
      | none => .error .null
      | some name =>
        match ← h.load name with
        | .array _ => .error .otherKind
        | .name bytes =>
          -- The name is copied with its NUL, over the beginning of the buffer.
          let h ← h.store name (.name (overwrite (role.1 ++ [0]) bytes))
          fillNames stored address remaining (i + 1) h

/-- One round of the loop that takes the names and deletes their buffers. -/
def takeName (err : OmxError) (address i : Nat) (h : Heap Block) (roles : List (List UInt8)) :
    Except MemoryFault (Heap Block × List (List UInt8)) := do
  let roles ← (if err = omxErrorNone then do
    -- Names are only read if the second call has reported no error.
    let s ← string8 h (← entry h address i)
    return roles ++ [s]
  else return roles)
  let h ← delete h (← entry h address i)
  -- The pointer is cleared, so that the entry cannot be deleted twice.
  let h ← setEntry h address i none
  return (h, roles)

def takeNames (err : OmxError) (address : Nat) :
    Nat → Nat → Heap Block → List (List UInt8) →
      Except MemoryFault (Heap Block × List (List UInt8))
  | 0, _, h, roles => return (h, roles)
  | remaining + 1, i, h, roles => do
    let (h, roles) ← takeName err address i h roles
    takeNames err address remaining (i + 1) h roles

/-- What a call leaves behind. -/
structure Roles where
  err : OmxError
  roles : List (List UInt8)
  heap : Heap Block

/-- `NVOMXPlugin::getRolesOfComponent`, over what new buffers contain. -/
def getRolesOfComponent (library : Option RolesLibrary) (contents : Nat → List UInt8) :
    Except MemoryFault Roles :=
  match library with
  -- Without the library the entry points are missing.
  | none => return ⟨omxErrorUndefined, [], .empty⟩
  | some library =>
    let err := library.firstError
    if err ≠ omxErrorNone then return ⟨err, [], .empty⟩
    else do
      let numRoles := library.firstCount.toNat
      if numRoles > 0 then do
        -- The entries are set before any of them is read.
        let (array, h) := Heap.empty.alloc (.array (List.replicate numRoles none))
        let h ← newNames contents array numRoles 0 h
        let h ← fillNames library.stored array numRoles 0 h
        let err := library.secondError
        -- The second call may have changed the count.
        let numRoles := library.secondCount.toNat
        let (h, roles) ← takeNames err array numRoles 0 h []
        let h ← delete h (some array)
        return ⟨err, roles, h⟩
      else return ⟨err, [], .empty⟩

/-- The array has an entry for each of `n` names, and those from `low` to `high` hold a buffer.
The buffers in front of them were deleted, and those behind them are not there yet. -/
structure Holding (n low high : Nat) (content : Nat → List UInt8 → Prop) (h : Heap Block) :
    Prop where
  entries : ∃ entries, h.block 0 = some (.array entries) ∧ entries.length = n ∧
    ∀ k, low ≤ k → k < high → entries[k]? = some (some (k + 1))
  names : ∀ k, low ≤ k → k < high → ∃ bytes, h.block (k + 1) = some (.name bytes) ∧ content k bytes
  allocated : h.allocated = high + 1
  freed : h.freed = (List.range' 1 low).reverse

section Entries

variable {h : Heap Block} {n low high k : Nat} {content : Nat → List UInt8 → Prop}

/-- A pointer that is held is read as it is. -/
theorem entry_of_holding (held : Holding n low high content h) (from_ : low ≤ k)
    (before : k < high) : entry h 0 k = .ok (some (k + 1)) := by
  -- The array is block 0, and the buffer of an entry is the block behind its index.
  obtain ⟨entries, there, -, pointers⟩ := held.entries
  simp [entry, Heap.load_of_block there, pointers k from_ before, bind, Except.bind, pure,
    Except.pure]

/-- There is no entry behind the last one. -/
theorem entry_outside (held : Holding n low high content h) (behind : n ≤ k) :
    entry h 0 k = .error .outOfBounds := by
  -- The block has fewer entries than that.
  obtain ⟨entries, there, length, -⟩ := held.entries
  have absent : entries[k]? = none := List.getElem?_eq_none (by omega)
  simp [entry, Heap.load_of_block there, absent, bind, Except.bind]

/-- An entry is set in place. -/
theorem setEntry_of_block {entries : List Pointer} (there : h.block 0 = some (.array entries))
    (inside : k < entries.length) (pointer : Pointer) : setEntry h 0 k pointer =
      .ok { h with block := update h.block 0 (some (.array (entries.set k pointer))) } := by
  simp [setEntry, Heap.load_of_block there, Heap.store_of_block there, inside, bind, Except.bind]

end Entries

section Allocation

variable {n i remaining : Nat} {h : Heap Block} {stored : Nat → Option RoleName}

/-- One round of the allocation adds a buffer, and its pointer to the array. -/
theorem newName_holding (contents : Nat → List UInt8)
    (held : Holding n 0 i (fun _ _ => True) h) (room : i < n) :
    ∃ next, setEntry (h.alloc (.name (contents i))).2 0 i (some (h.alloc (.name (contents i))).1) =
      .ok next ∧ Holding n 0 (i + 1) (fun _ _ => True) next := by
  obtain ⟨entries, there, length, pointers⟩ := held.entries
  have number : h.allocated = i + 1 := held.allocated
  have array : (h.alloc (.name (contents i))).2.block 0 = some (.array entries) := by
    simp [Heap.alloc, number, there]
  refine ⟨_, setEntry_of_block array (by omega) _, ?_, fun k _ before => ?_, ?_, held.freed⟩
  · refine ⟨entries.set i (some (i + 1)), ?_, by simpa using length, fun k _ before => ?_⟩
    · simp [Heap.alloc, number]
    · -- The new pointer stands behind those that were there.
      rcases Nat.lt_succ_iff_lt_or_eq.mp before with earlier | rfl
      · rw [List.getElem?_set_ne (by omega)]
        exact pointers k (Nat.zero_le k) earlier
      · rw [List.getElem?_set_self (by omega)]
  · rcases Nat.lt_succ_iff_lt_or_eq.mp before with earlier | rfl
    · -- A buffer that was there before has another number than the new one.
      obtain ⟨bytes, block, -⟩ := held.names k (Nat.zero_le k) earlier
      refine ⟨bytes, ?_, trivial⟩
      simp [Heap.alloc, number, block, Nat.ne_of_lt earlier]
    · exact ⟨contents k, by simp [Heap.alloc, number], trivial⟩
  · simp [Heap.alloc, number]

/-- The loop allocates a buffer for each entry. -/
theorem newNames_holding (contents : Nat → List UInt8)
    (held : Holding n 0 i (fun _ _ => True) h) (room : i + remaining ≤ n) :
    ∃ next, newNames contents 0 remaining i h = .ok next ∧
      Holding n 0 (i + remaining) (fun _ _ => True) next := by
  -- The induction is on the buffers that are still to be allocated.
  induction remaining generalizing i h with
  | zero => exact ⟨h, rfl, held⟩
  | succ remaining ih =>
    obtain ⟨next, set, holding⟩ := newName_holding contents held (by omega)
    obtain ⟨last, rest, holds⟩ := ih holding (by omega)
    refine ⟨last, ?_, by rwa [Nat.add_right_comm] at holds⟩
    simpa [newNames, set, bind, Except.bind] using rest

/-- A buffer reads as what is stored in it, if anything is. -/
def Reads (stored : Nat → Option RoleName) (k : Nat) (bytes : List UInt8) : Prop :=
  ∀ role ∈ stored k, 0 ∈ bytes ∧ cString bytes = role.1

/-- A name in front of a NUL is read back. -/
theorem cString_overwrite (role : RoleName) (bytes : List UInt8) :
    0 ∈ overwrite (role.1 ++ [0]) bytes ∧ cString (overwrite (role.1 ++ [0]) bytes) = role.1 := by
  -- The name itself has no NUL, so it reaches up to the one that was copied with it.
  have text : ∀ c ∈ role.1, decide (c ≠ 0) = true := by
    intro c member
    have other : c ≠ 0 := fun zero => role.2.1 (zero ▸ member)
    simpa using other
  constructor
  · simp [overwrite]
  · unfold overwrite cString
    rw [List.append_assoc, List.takeWhile_append_of_pos text]
    simp

/-- The library fills the entries that it was offered, and changes nothing else. -/
theorem fillNames_holding (held : Holding n 0 n (fun k bytes => k < i → Reads stored k bytes) h)
    (room : i + remaining = n) :
    ∃ next, fillNames stored 0 remaining i h = .ok next ∧ Holding n 0 n (Reads stored) next := by
  -- The induction is on the entries that the library has not come to.
  induction remaining generalizing i h with
  | zero =>
    refine ⟨h, rfl, held.entries, fun k from_ before => ?_, held.allocated, held.freed⟩
    obtain ⟨bytes, block, reads⟩ := held.names k from_ before
    exact ⟨bytes, block, reads (by omega)⟩
  | succ remaining ih =>
    obtain ⟨bytes, block, -⟩ := held.names i (Nat.zero_le i) (by omega)
    unfold fillNames
    cases offer : stored i with
    | none =>
      -- The buffer is left alone, and there is nothing that it should read as.
      apply ih _ (by omega)
      refine ⟨held.entries, fun k from_ before => ?_, held.allocated, held.freed⟩
      obtain ⟨bytes, block, reads⟩ := held.names k from_ before
      refine ⟨bytes, block, fun upTo role stores => ?_⟩
      rcases Nat.lt_succ_iff_lt_or_eq.mp upTo with earlier | rfl
      · exact reads earlier role stores
      · rw [offer] at stores
        cases stores
    | some role =>
      -- The entry is there and points to its buffer, so the copy succeeds.
      have pointer := entry_of_holding held (Nat.zero_le i) (by omega)
      simp only [pointer, Heap.load_of_block block, Heap.store_of_block block, bind, Except.bind]
      apply ih _ (by omega)
      obtain ⟨entries, there, length, pointers⟩ := held.entries
      refine ⟨⟨entries, by simpa using there, length, pointers⟩, fun k from_ before => ?_,
        held.allocated, held.freed⟩
      -- Only the buffer of this entry has changed.
      by_cases here : k = i
      · subst here
        refine ⟨_, update_self .., fun _ other stores => ?_⟩
        rw [offer] at stores
        obtain rfl := Option.some.inj stores
        exact cString_overwrite role bytes
      · obtain ⟨bytes, block, reads⟩ := held.names k from_ before
        refine ⟨bytes, ?_, fun upTo => reads (by omega)⟩
        simpa [here] using block

end Allocation

section Taking

variable {n j remaining : Nat} {h : Heap Block} {content : Nat → List UInt8 → Prop}
  {err : OmxError} {roles : List (List UInt8)}

/-- The buffer of an entry is deleted, and its pointer is cleared. -/
theorem deleteName_holding (held : Holding n j n content h) (inside : j < n) :
    ∃ deleted next, delete h (some (j + 1)) = .ok deleted ∧ setEntry deleted 0 j none = .ok next ∧
      Holding n (j + 1) n content next := by
  obtain ⟨bytes, block, -⟩ := held.names j (Nat.le_refl j) inside
  obtain ⟨entries, there, length, pointers⟩ := held.entries
  refine ⟨_, _, Heap.free_of_block block, setEntry_of_block (by simpa using there) (by omega) none,
    ⟨entries.set j none, by simp, by simpa using length, fun k from_ before => ?_⟩,
    fun k from_ before => ?_, held.allocated, ?_⟩
  · -- The entries behind the one that was cleared keep their pointers.
    rw [List.getElem?_set_ne (by omega)]
    exact pointers k (by omega) before
  · obtain ⟨bytes, block, reads⟩ := held.names k (by omega) before
    have other : k ≠ j := by omega
    exact ⟨bytes, by simpa [other] using block, reads⟩
  · -- The released buffers are one more.
    show (j + 1) :: h.freed = _
    rw [held.freed, List.range'_concat, List.reverse_append]
    simp [Nat.add_comm]

/-- One round takes the name of the next buffer, if it is one, and deletes it. -/
theorem takeName_inside (held : Holding n j n content h) (inside : j < n) (err : OmxError)
    (roles : List (List UInt8)) :
    ∃ bytes next, content j bytes ∧ Holding n (j + 1) n content next ∧
      takeName err 0 j h roles =
        if err = omxErrorNone then
          if 0 ∈ bytes then .ok (next, roles ++ [cString bytes]) else .error .outOfBounds
        else .ok (next, roles) := by
  obtain ⟨bytes, block, reads⟩ := held.names j (Nat.le_refl j) inside
  obtain ⟨deleted, next, freed, cleared, holding⟩ := deleteName_holding held inside
  have pointer := entry_of_holding held (Nat.le_refl j) inside
  refine ⟨bytes, next, reads, holding, ?_⟩
  unfold takeName
  split
  · -- With a success the buffer is read first, which needs a NUL in it.
    by_cases terminated : 0 ∈ bytes <;>
      simp [pointer, string8, Heap.load_of_block block, terminated, freed, cleared, bind,
        Except.bind, pure, Except.pure]
  · simp [pointer, freed, cleared, bind, Except.bind, pure, Except.pure]

/-- A round behind the last entry reads outside the array. -/
theorem takeName_outside (held : Holding n j n content h) (behind : n ≤ j) (err : OmxError)
    (roles : List (List UInt8)) : takeName err 0 j h roles = .error .outOfBounds := by
  -- Whether or not the name is read, the pointer is, and already that goes wrong.
  have outside := entry_outside held behind
  unfold takeName
  split <;> simp [outside, bind, Except.bind, pure, Except.pure]

/-- If all rounds succeed, there were entries for them, and one name was taken in each. -/
theorem takeNames_eq_ok {next : Heap Block} {taken : List (List UInt8)}
    (held : Holding n j n content h) (within : j ≤ n)
    (took : takeNames err 0 remaining j h roles = .ok (next, taken)) :
    j + remaining ≤ n ∧ Holding n (j + remaining) n content next ∧
      (err = omxErrorNone → taken.length = roles.length + remaining) := by
  -- The induction is on the rounds that are left, from any entry on.
  induction remaining generalizing j h roles with
  | zero =>
    obtain ⟨rfl, rfl⟩ := Prod.mk.inj (Except.ok.inj took)
    exact ⟨within, held, fun _ => rfl⟩
  | succ remaining ih =>
    rcases Nat.lt_or_ge j n with inside | behind
    · obtain ⟨bytes, after, -, holding, round⟩ := takeName_inside held inside err roles
      rw [takeNames, round] at took
      split at took
      · rename_i success
        split at took
        · -- The buffer was terminated, so one more name is in the list.
          obtain ⟨room, holds, length⟩ := ih holding inside took
          rw [Nat.add_right_comm] at room holds
          refine ⟨room, holds, fun _ => ?_⟩
          rw [length success, List.length_append, List.length_singleton]
          omega
        · simp [bind, Except.bind] at took
      · rename_i failure
        obtain ⟨room, holds, -⟩ := ih holding inside took
        rw [Nat.add_right_comm] at room holds
        exact ⟨room, holds, fun success => absurd success failure⟩
    · -- A round behind the last entry would have failed.
      rw [takeNames, takeName_outside held behind] at took
      simp [bind, Except.bind] at took

/-- The names of some entries, as far as they were stored. -/
def storedNames (stored : Nat → Option RoleName) (entries : List Nat) : List (List UInt8) :=
  entries.filterMap fun k => (stored k).map Subtype.val

/-- There are as many names as entries only if all entries have one. -/
theorem stored_of_length {stored : Nat → Option RoleName}
    (whole : (storedNames stored (List.range n)).length = n) : ∀ k < n, (stored k).isSome := by
  unfold storedNames at whole
  -- The names are as many as the entries that have one.
  rw [List.length_filterMap_eq_countP] at whole
  have all := List.countP_eq_length.mp (whole.trans List.length_range.symm)
  intro k below
  simpa using all k (List.mem_range.mpr below)

/-- Where names were stored in all entries that are read, they are taken in order. -/
theorem takeNames_of_stored {stored : Nat → Option RoleName}
    (held : Holding n j n (Reads stored) h) (room : j + remaining ≤ n)
    (fills : err = omxErrorNone → ∀ k < n, (stored k).isSome) (roles : List (List UInt8)) :
    ∃ next, takeNames err 0 remaining j h roles = .ok (next, roles ++
      if err = omxErrorNone then storedNames stored (List.range' j remaining) else []) := by
  -- The induction is on the entries that are left to be taken.
  induction remaining generalizing j h roles with
  | zero => exact ⟨h, by simp [takeNames, storedNames, pure, Except.pure]⟩
  | succ remaining ih =>
    obtain ⟨bytes, after, reads, holding, round⟩ := takeName_inside held (by omega) err roles
    by_cases success : err = omxErrorNone
    · -- What was stored here is terminated, so it is read back.
      obtain ⟨role, stores⟩ := Option.isSome_iff_exists.mp (fills success j (by omega))
      obtain ⟨terminated, text⟩ := reads role (by simp [stores])
      obtain ⟨next, rest⟩ := ih holding (by omega) (roles ++ [cString bytes])
      refine ⟨next, ?_⟩
      rw [takeNames, round, if_pos success, if_pos terminated]
      refine rest.trans ?_
      -- The name that was taken first comes first.
      simp [success, storedNames, List.range'_succ, stores, text]
    · -- After an error the buffers are deleted without being read.
      obtain ⟨next, rest⟩ := ih holding (by omega) roles
      refine ⟨next, ?_⟩
      rw [takeNames, round, if_neg success]
      simpa [success, bind, Except.bind] using rest

/-- With the array deleted, the memory is balanced if and only if all buffers were. -/
theorem delete_array (held : Holding n j n content h) (within : j ≤ n) (some_ : 0 < n) :
    ∃ next, delete h (some 0) = .ok next ∧ (next.Balanced ↔ j = n) := by
  obtain ⟨entries, there, -⟩ := held.entries
  refine ⟨_, Heap.free_of_block there, ?_⟩
  unfold Heap.Balanced
  simp only [held.allocated, held.freed]
  -- The buffers from 1 to `j` were released, and then the array.
  have released : ∀ address, (0 :: (List.range' 1 j).reverse).count address =
      if address ≤ j then 1 else 0 := by
    intro address
    rw [List.count_cons, List.count_reverse]
    by_cases array : address = 0
    · subst array
      have apart : 0 ∉ List.range' 1 j := by simp [List.mem_range'_1]
      simp [List.count_eq_zero_of_not_mem apart]
    · have other : ¬ (0 == address) = true := by simpa using Ne.symm array
      rw [if_neg other, Nat.add_zero]
      split
      · rename_i below
        exact List.count_eq_one_of_mem List.nodup_range' (by simp [List.mem_range'_1]; omega)
      · rename_i beyond
        exact List.count_eq_zero_of_not_mem (by simp [List.mem_range'_1]; omega)
  simp only [released]
  constructor
  · intro balanced
    -- The buffer of the last entry is among those that must have been released.
    have last := balanced n (by omega)
    split at last
    · omega
    · cases last
  · rintro rfl address below
    rw [if_pos (by omega)]

end Taking

section Safety

/-- The error code of the last call. -/
def RolesLibrary.error (library : RolesLibrary) : OmxError :=
  if library.firstError ≠ omxErrorNone ∨ library.firstCount = 0 then library.firstError
  else library.secondError

/-- The names that were stored in the entries that were offered. -/
def RolesLibrary.names (library : RolesLibrary) : List (List UInt8) :=
  storedNames library.stored (List.range library.firstCount.toNat)

/-- No access goes wrong, all memory is released once, and the caller gets the error code of the
library, with the stored names if it is none. -/
def RolesLibrary.Served (library : RolesLibrary) (outcome : Except MemoryFault Roles) : Prop :=
  ∃ result, outcome = .ok result ∧ result.heap.Balanced ∧ result.err = library.error ∧
    result.roles = if library.error = omxErrorNone then library.names else []

/-- The second call is not made, or it agrees with the first on the count and stores all names of
which it reports success. -/
def RolesLibrary.Agrees (library : RolesLibrary) : Prop :=
  library.firstError ≠ omxErrorNone ∨ library.firstCount = 0 ∨
    library.secondCount = library.firstCount ∧ (library.secondError = omxErrorNone →
      ∀ k < library.firstCount.toNat, (library.stored k).isSome)

/-- After a first call that counts some roles, the entries are allocated and filled, and then the
second count decides how many are taken. -/
theorem getRolesOfComponent_second {library : RolesLibrary}
    (success : library.firstError = omxErrorNone) (some_ : 0 < library.firstCount.toNat)
    (contents : Nat → List UInt8) :
    ∃ h, Holding library.firstCount.toNat 0 library.firstCount.toNat (Reads library.stored) h ∧
      getRolesOfComponent (some library) contents = (do
        let (h, roles) ← takeNames library.secondError 0 library.secondCount.toNat 0 h []
        let h ← delete h (some 0)
        return ⟨library.secondError, roles, h⟩) := by
  -- The array alone holds no buffer yet.
  have begun : Holding library.firstCount.toNat 0 0 (fun _ _ => True)
      (Heap.empty.alloc (.array (List.replicate library.firstCount.toNat none))).2 := by
    refine ⟨⟨List.replicate library.firstCount.toNat none, rfl, List.length_replicate,
      fun k _ before => ?_⟩, fun k _ before => ?_, rfl, rfl⟩ <;> omega
  obtain ⟨allocated, new, holding⟩ :=
    newNames_holding contents begun (Nat.le_of_eq (Nat.zero_add library.firstCount.toNat))
  rw [Nat.zero_add] at holding
  -- Nothing was filled yet.
  have unread : Holding library.firstCount.toNat 0 library.firstCount.toNat
      (fun k bytes => k < 0 → Reads library.stored k bytes) allocated := by
    refine ⟨holding.entries, fun k from_ before => ?_, holding.allocated, holding.freed⟩
    obtain ⟨bytes, block, -⟩ := holding.names k from_ before
    exact ⟨bytes, block, fun none_ => absurd none_ (Nat.not_lt_zero k)⟩
  obtain ⟨filled, fill, holds⟩ := fillNames_holding unread (Nat.zero_add _)
  refine ⟨filled, holds, ?_⟩
  unfold getRolesOfComponent
  dsimp only
  rw [if_neg (not_not.mpr success), if_pos some_]
  change (newNames contents 0 _ 0 _ >>= _) = _
  rw [new]
  change (fillNames library.stored 0 _ 0 _ >>= _) = _
  rw [fill]
  rfl

/-- A second call with another count leaves the memory unbalanced, or an access goes wrong. -/
theorem served_second_iff {library : RolesLibrary} {n : Nat} {h : Heap Block}
    (held : Holding n 0 n (Reads library.stored) h) (some_ : 0 < n) (count : Nat) :
    (∃ result, (do
        let (h, roles) ← takeNames library.secondError 0 count 0 h []
        let h ← delete h (some 0)
        return ⟨library.secondError, roles, h⟩ : Except MemoryFault Roles) = .ok result ∧
      result.heap.Balanced ∧ result.err = library.secondError ∧
        result.roles = if library.secondError = omxErrorNone then
          storedNames library.stored (List.range n) else []) ↔
      count = n ∧ (library.secondError = omxErrorNone → ∀ k < n, (library.stored k).isSome) := by
  constructor
  · intro ⟨result, ended, balanced, _, roles⟩
    cases took : takeNames library.secondError 0 count 0 h [] with
    | error fault => simp [took, bind, Except.bind] at ended
    | ok taken =>
      obtain ⟨after, names⟩ := taken
      obtain ⟨room, holding, length⟩ := takeNames_eq_ok held (Nat.zero_le n) took
      rw [Nat.zero_add] at room holding
      obtain ⟨last, deleted, balance⟩ := delete_array holding room some_
      simp only [took, deleted, bind, Except.bind, pure, Except.pure, Except.ok.injEq] at ended
      subst ended
      -- All buffers were deleted, so there was a round for each entry.
      have same : count = n := balance.mp balanced
      refine ⟨same, fun success => ?_⟩
      -- As many names were taken as there are entries, so none of them is missing.
      rw [if_pos success] at roles
      have taken := length success
      rw [show names = _ from roles, same] at taken
      exact stored_of_length (by simpa using taken)
  · intro ⟨same, fills⟩
    subst same
    obtain ⟨after, took⟩ :=
      takeNames_of_stored held (Nat.le_of_eq (Nat.zero_add count)) fills []
    -- As many rounds as entries leave no buffer behind.
    obtain ⟨-, holding, -⟩ := takeNames_eq_ok held (Nat.zero_le count) took
    rw [Nat.zero_add] at holding
    obtain ⟨last, deleted, balance⟩ := delete_array holding (Nat.le_refl count) some_
    rw [← List.range_eq_range', List.nil_append] at took
    refine ⟨⟨library.secondError, if library.secondError = omxErrorNone then
      storedNames library.stored (List.range count) else [], last⟩, ?_, balance.mpr rfl, rfl, rfl⟩
    simp only [took, deleted, bind, Except.bind, pure, Except.pure]

/--
Asking for roles is safe and complete, precisely when the second call agrees with the first.

This is so for any contents of new buffers.
-/
theorem served_iff (library : RolesLibrary) (contents : Nat → List UInt8) :
    library.Served (getRolesOfComponent (some library) contents) ↔ library.Agrees := by
  unfold RolesLibrary.Agrees
  by_cases failed : library.firstError ≠ omxErrorNone
  · -- Nothing was allocated, and the error of the only call is returned.
    have error : library.error = library.firstError := if_pos (.inl failed)
    refine iff_of_true ⟨⟨library.firstError, [], .empty⟩, ?_, nofun, error.symm, ?_⟩ (.inl failed)
    · unfold getRolesOfComponent
      dsimp only
      rw [if_pos failed]
      rfl
    · rw [error, if_neg failed]
  · have success : library.firstError = omxErrorNone := not_not.mp failed
    by_cases empty : library.firstCount = 0
    · have error : library.error = library.firstError := if_pos (.inr empty)
      refine iff_of_true ⟨⟨library.firstError, [], .empty⟩, ?_, nofun, error.symm, ?_⟩
        (.inr (.inl empty))
      · unfold getRolesOfComponent
        dsimp only
        rw [if_neg failed, if_neg (by simp [empty])]
        rfl
      · simp [RolesLibrary.names, storedNames, empty]
    · have some_ : 0 < library.firstCount.toNat := by
        apply Nat.pos_of_ne_zero
        exact fun zero => empty (UInt32.toNat_inj.mp zero)
      have error : library.error = library.secondError := if_neg (by simp [success, empty])
      obtain ⟨h, held, ended⟩ := getRolesOfComponent_second success some_ contents
      unfold RolesLibrary.Served RolesLibrary.names
      rw [ended, error, served_second_iff held some_, or_iff_right failed, or_iff_right empty,
        UInt32.toNat_inj]

/-- A library that knows one role at first and two when it stores them. -/
def growingLibrary : RolesLibrary where
  firstError := omxErrorNone
  firstCount := 1
  secondError := omxErrorNone
  secondCount := 2
  stored
    | 0 => some ⟨[97], by decide⟩
    | _ => none

/-- The second role is read from behind the array. -/
theorem not_served_growing :
    getRolesOfComponent (some growingLibrary) (fun _ => List.replicate omxMaxStringnameSize 0) =
        .error .outOfBounds ∧
      ¬ growingLibrary.Served (getRolesOfComponent (some growingLibrary) fun _ =>
        List.replicate omxMaxStringnameSize 0) := by
  -- The second count is larger than the block made for the first.
  have outside : getRolesOfComponent (some growingLibrary) (fun _ =>
      List.replicate omxMaxStringnameSize 0) = .error .outOfBounds := by rfl
  refine ⟨outside, fun served => ?_⟩
  obtain ⟨result, ended, -⟩ := served
  rw [outside] at ended
  cases ended

end Safety

end Grouper.Omx
