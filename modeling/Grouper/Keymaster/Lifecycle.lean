import Mathlib.Data.List.Nodup
import Grouper.Keymaster.Failure
import Grouper.Keymaster.Effects
import Grouper.Lib.Run

/-! The life of a key pair, from the operation that makes it to the one that deletes it. -/

namespace Grouper.Keymaster

variable {τ : Type}

/-- A blob that was handed out, the objects created with it, and whether it is still in use. -/
structure Entry where
  blob : List UInt8
  created : List TokenObject
  live : Bool

/-- The objects that are in the token after an operation and were not before. -/
def created (before after : List TokenObject) : List TokenObject :=
  -- Objects are compared by serial number, and the newest stay first.
  after.filter fun o => o.serial ∉ before.map TokenObject.serial

/-- What is known of the blobs after an operation, from the objects before and after it. -/
def record (before after : List TokenObject) (op : Op) (result : Result)
    (entries : List Entry) : List Entry :=
  match op, result.output with
  -- A call to delete ends the life of the blob it is given, and of no other.
  | .deleteKeypair (some blob), _ =>
    entries.map fun e => if e.blob = blob then { e with live := false } else e
  | _, .keyBlob blob => ⟨blob, created before after, true⟩ :: entries
  | _, _ => entries

/-- One operation on the token, together with what is known of the blobs. -/
def tracked (view : τ → Token) (primary : Nat) (s : Tee τ × List Entry)
    (act : Cryptoki τ × Op) : Option (Tee τ × List Entry) :=
  -- A process that died takes no further step.
  let (result, after) := (act.2.prog act.1 primary).exec s.1
  result.map fun result =>
    (after, record (view s.1.state).objects (view after.state).objects act.2 result s.2)

/-- Restoring the blob opens a handle to each of the two objects. -/
def Restores (view : τ → Token) (tee : Tee τ) (blob : List UInt8) (pub priv : TokenObject) :
    Prop :=
  -- Any library that serves the token will do, and any session that is not searching.
  ∀ lib : Cryptoki τ, lib.Serves view → ∀ session ∈ (view tee.state).sessions,
    (view tee.state).searching session = none →
    let (restored, after) := (keyblobRestore lib session (some blob)).exec tee
    restored.ret = 0 ∧ (view after.state).handles restored.publicKey = some pub ∧
      (view after.state).handles restored.privateKey = some priv

/-- Deleting by the blob removes exactly the two objects, and is no matter for other blobs. -/
def Deletes (view : τ → Token) (primary : Nat) (tee : Tee τ) (blob : List UInt8)
    (pub priv : TokenObject) : Prop :=
  ∀ lib : Cryptoki τ, lib.Serves view →
    let (result, after) := (teeDeleteKeypair lib primary (some blob)).exec tee
    result = some ⟨0, .none⟩ ∧
      (∀ o, o ∈ (view after.state).objects ↔ o ∈ (view tee.state).objects ∧ o ≠ pub ∧ o ≠ priv) ∧
      ∀ other, ¬ blob <+: other → ∀ one two objId,
        Pair (view after.state).objects (some other) one two objId ↔
          Pair (view tee.state).objects (some other) one two objId

/-- Every operation on the blob fails. -/
def Fails (view : τ → Token) (primary : Nat) (tee : Tee τ) (blob : List UInt8) : Prop :=
  ∀ lib : Cryptoki τ, lib.Serves view → ∀ op : Op, op.keyBlob = some (some blob) →
    ((op.prog lib primary).exec tee).1 = some .failed

/-- Every blob stands for its own key pair until it is deleted, and for nothing afterwards. -/
structure Isolated (view : τ → Token) (primary : Nat) (s : Tee τ × List Entry) : Prop where
  live : ∀ e ∈ s.2, e.live = true → ∃ pub priv, e.created = [priv, pub] ∧
    Restores view s.1 e.blob pub priv ∧ Deletes view primary s.1 e.blob pub priv
  dead : ∀ e ∈ s.2, e.live = false → Fails view primary s.1 e.blob

/-- The ID of a new key pair is that of no object in the token and of no earlier blob. -/
def NewId (view : τ → Token) (s : Tee τ × List Entry) (act : Cryptoki τ × Op) : Prop :=
  ∀ objId, act.2.objId = some objId →
    (∀ o ∈ (view s.1.state).objects, o.attributes .id ≠ some (.bytes objId.toList)) ∧
      ∀ e ∈ s.2, e.blob ≠ keyblobSave objId

/-- The library serves every valid call, and IDs do not repeat. -/
def Served (view : τ → Token) (s : Tee τ × List Entry) (act : Cryptoki τ × Op) : Prop :=
  act.1.Serves view ∧ NewId view s act

/-- Nothing is deleted by a blob in use with further bytes behind it. -/
def Exact (s : Tee τ × List Entry) (act : Cryptoki τ × Op) : Prop :=
  ∀ blob, act.2 = .deleteKeypair (some blob) →
    ∀ e ∈ s.2, e.live = true → e.blob <+: blob → e.blob = blob

/-- What is known of the key pair of a blob, which its ID decides. -/
inductive Entry.Stands (objects : List TokenObject) (e : Entry) (objId : KeyId) : Prop
  | live {pub priv : TokenObject} (isLive : e.live = true) (isCreated : e.created = [priv, pub])
      (pair : Pair objects (some e.blob) pub priv objId.toList)
      (only : ∀ o ∈ objects, o.attributes .id = some (.bytes objId.toList) → o = pub ∨ o = priv)
  | dead (isDead : e.live = false)
      (gone : ∀ o ∈ objects, o.attributes .id ≠ some (.bytes objId.toList))

/-- The blob was made from an ID, and the ID's objects are as far as the blob is concerned. -/
def Entry.Known (objects : List TokenObject) (e : Entry) : Prop :=
  ∃ objId, e.blob = keyblobSave objId ∧ e.Stands objects objId

/-- The store invariant: the objects are told apart, and each blob stands for what it should. -/
structure Kept (view : τ → Token) (primary : Nat) (s : Tee τ × List Entry) : Prop where
  opened : primary ∈ (view s.1.state).sessions
  apart : ((view s.1.state).objects.map TokenObject.serial).Nodup
  known : ∀ e ∈ s.2, e.Known (view s.1.state).objects

section Objects

variable {objects : List TokenObject} {o pub priv : TokenObject} {objId : List UInt8}

/-- An object found by the template of a key has its ID. -/
theorem TokenObject.id_of_key {objClass : Nat}
    (has : o.hasAll (keyTemplate objId objClass) = true) :
    o.attributes .id = some (.bytes objId) := by
  -- The ID is the first attribute of the template.
  have entry := List.all_eq_true.mp has ⟨.id, .bytes objId⟩ List.mem_cons_self
  simpa using entry

/-- An object found by the template of a key has its class. -/
theorem TokenObject.class_of_key {objClass : Nat}
    (has : o.hasAll (keyTemplate objId objClass) = true) :
    o.attributes .objectClass = some (.ulong objClass) := by
  -- The class is the second attribute of the template.
  have entry := List.all_eq_true.mp has ⟨.objectClass, .ulong objClass⟩ (by simp [keyTemplate])
  simpa using entry

/-- No object is both a public and a private key. -/
theorem not_both (pubHas : o.hasAll (keyTemplate objId ckoPublicKey) = true)
    (privHas : o.hasAll (keyTemplate objId ckoPrivateKey) = true) : False := by
  -- The two templates ask for different classes.
  have same := (TokenObject.class_of_key pubHas).symm.trans (TokenObject.class_of_key privHas)
  simp [ckoPublicKey, ckoPrivateKey] at same

/-- The public key of a pair has the identifier of the pair. -/
theorem Pair.pubId {blob : Option (List UInt8)} (pair : Pair objects blob pub priv objId) :
    pub.attributes .id = some (.bytes objId) := TokenObject.id_of_key pair.pubHas

/-- So has the private key. -/
theorem Pair.privId {blob : Option (List UInt8)} (pair : Pair objects blob pub priv objId) :
    priv.attributes .id = some (.bytes objId) := TokenObject.id_of_key pair.privHas

/-- What is left after a key pair is destroyed is all but the two objects. -/
theorem mem_removed (apart : (objects.map TokenObject.serial).Nodup) (pubIn : pub ∈ objects)
    (privIn : priv ∈ objects) :
    o ∈ removed objects pub priv ↔ o ∈ objects ∧ o ≠ pub ∧ o ≠ priv := by
  -- Serial numbers tell the objects of the token apart.
  have serial : ∀ other ∈ objects, o ∈ objects → (o.serial ≠ other.serial ↔ o ≠ other) := by
    intro other member there
    refine not_congr ⟨fun same => ?_, fun same => same ▸ rfl⟩
    exact List.inj_on_of_nodup_map apart there member same
  simp only [removed, List.mem_filter, decide_eq_true_eq]
  constructor
  · rintro ⟨⟨there, notPriv⟩, notPub⟩
    exact ⟨there, (serial pub pubIn there).mp notPub, (serial priv privIn there).mp notPriv⟩
  · rintro ⟨there, notPub, notPriv⟩
    exact ⟨⟨there, (serial priv privIn there).mpr notPriv⟩, (serial pub pubIn there).mpr notPub⟩

/-- An object of another ID than the key pair stays when the key pair goes. -/
theorem mem_removed_of_id {blob : Option (List UInt8)} {other : List UInt8}
    (apart : (objects.map TokenObject.serial).Nodup) (pair : Pair objects blob pub priv objId)
    (there : o ∈ objects) (id : o.attributes .id = some (.bytes other)) (another : objId ≠ other) :
    o ∈ removed objects pub priv := by
  -- Objects of different IDs are different objects.
  have differs : ∀ o' : TokenObject, o'.attributes .id = some (.bytes objId) → o ≠ o' := by
    rintro o' id' rfl
    have same := id'.symm.trans id
    simp only [Option.some.injEq, AttributeValue.bytes.injEq] at same
    exact another same
  exact (mem_removed apart pair.pubIn pair.privIn).mpr
    ⟨there, differs pub pair.pubId, differs priv pair.privId⟩

/-- Nothing is added by removing. -/
theorem removed_subset : removed objects pub priv ⊆ objects :=
  fun _ member => (List.mem_filter.mp (List.mem_filter.mp member).1).1

/-- The two objects of a new key pair are what an operation that makes it has created. -/
theorem created_of_newPair {id : KeyId} (new : NewPair objects id pub priv) :
    created objects (priv :: pub :: objects) = [priv, pub] := by
  -- Neither serial number was there before, and every other one was.
  have pubNew : pub.serial ∉ objects.map TokenObject.serial := by
    intro member
    obtain ⟨o, there, same⟩ := List.mem_map.mp member
    exact new.pubNew o there same
  have privNew : priv.serial ∉ objects.map TokenObject.serial := by
    intro member
    obtain ⟨o, there, same⟩ := List.mem_map.mp member
    exact new.privNew o (List.mem_cons_of_mem _ there) same
  have rest : objects.filter (fun o => o.serial ∉ objects.map TokenObject.serial) = [] := by
    refine List.filter_eq_nil_iff.mpr fun o there => ?_
    simpa using ⟨o, there, rfl⟩
  unfold created
  rw [List.filter_cons_of_pos (by simpa using privNew), List.filter_cons_of_pos
    (by simpa using pubNew), rest]

end Objects

namespace Entry.Stands

variable {objects : List TokenObject} {e : Entry} {objId : KeyId} {pub priv : TokenObject}
  {other : List UInt8}

/-- An object of another ID may join. -/
theorem cons {o : TokenObject} (stands : e.Stands objects objId)
    (another : o.attributes .id ≠ some (.bytes objId.toList)) : e.Stands (o :: objects) objId := by
  -- A new object with another identifier is not in the way of a pair, and brings none back.
  cases stands with
  | live isLive isCreated pair only =>
    refine .live isLive isCreated ⟨pair.good, List.mem_cons_of_mem _ pair.pubIn,
      List.mem_cons_of_mem _ pair.privIn, pair.pubHas, pair.privHas⟩ fun o' member has => ?_
    rcases List.mem_cons.mp member with rfl | old
    · exact absurd has another
    · exact only o' old has
  | dead isDead gone =>
    refine .dead isDead fun o' member => ?_
    rcases List.mem_cons.mp member with rfl | old
    · exact another
    · exact gone o' old

/-- The key pair of another ID may go. -/
theorem removed (apart : (objects.map TokenObject.serial).Nodup)
    (stands : e.Stands objects objId) {blob : Option (List UInt8)}
    (pair : Pair objects blob pub priv other) (another : e.live = true → other ≠ objId.toList) :
    e.Stands (removed objects pub priv) objId := by
  -- The objects that go have another identifier, so a live pair keeps its own.
  cases stands with
  | live isLive isCreated own only =>
    have pubStays := mem_removed_of_id apart pair own.pubIn own.pubId (another isLive)
    have privStays := mem_removed_of_id apart pair own.privIn own.privId (another isLive)
    exact .live isLive isCreated ⟨own.good, pubStays, privStays, own.pubHas, own.privHas⟩
      fun o member => only o (removed_subset member)
  | dead isDead gone => exact .dead isDead fun o member => gone o (removed_subset member)

/-- A blob in use names no key pair but its own. -/
theorem own {blob : Option (List UInt8)} (stands : e.Stands objects objId)
    (pair : Pair objects blob pub priv objId.toList) :
    e.live = true ∧ e.created = [priv, pub] ∧
      ∀ o ∈ objects, o.attributes .id = some (.bytes objId.toList) → o = pub ∨ o = priv := by
  cases stands with
  | @live pub' priv' isLive isCreated mine only =>
    -- The class of an object says which of the two it is.
    have isPub : pub = pub' := by
      rcases only pub pair.pubIn pair.pubId with same | rfl
      · exact same
      · exact (not_both pair.pubHas mine.privHas).elim
    have isPriv : priv = priv' := by
      rcases only priv pair.privIn pair.privId with rfl | same
      · exact (not_both mine.pubHas pair.privHas).elim
      · exact same
    subst isPub isPriv
    exact ⟨isLive, isCreated, only⟩
  | dead isDead gone => exact absurd pair.pubId (gone pub pair.pubIn)

/-- The key pair of the blob itself may go, and then the blob stands for nothing. -/
theorem deleted (apart : (objects.map TokenObject.serial).Nodup)
    (stands : e.Stands objects objId) {blob : Option (List UInt8)}
    (pair : Pair objects blob pub priv objId.toList) :
    ({ e with live := false } : Entry).Stands (Keymaster.removed objects pub priv) objId := by
  -- Whatever has the identifier is one of the two that go.
  obtain ⟨_, _, only⟩ := stands.own pair
  refine .dead rfl fun o member id => ?_
  obtain ⟨there, notPub, notPriv⟩ := (mem_removed apart pair.pubIn pair.privIn).mp member
  rcases only o there id with same | same
  · exact notPub same
  · exact notPriv same

/-- A blob that stands for nothing names no key pair. -/
theorem lost (rest : List UInt8) (stands : e.Stands objects objId) (isDead : e.live = false)
    (saved : e.blob = keyblobSave objId) : Lost objects (some (e.blob ++ rest)) := by
  intro pub priv other pair
  -- The ID is read from where it was written, whatever comes behind it.
  have read : blobId (some (e.blob ++ rest)) = some objId.toList := by
    rw [saved]
    exact blobId_keyblobSave objId rest
  obtain rfl := Option.some.inj (read.symm.trans pair.good)
  have isLive := (stands.own pair).1
  rw [isDead] at isLive
  cases isLive

/-- A blob in use names the two objects created with it, whatever comes behind it. -/
theorem pair (rest : List UInt8) (stands : e.Stands objects objId) (isLive : e.live = true)
    (saved : e.blob = keyblobSave objId) : ∃ pub priv, e.created = [priv, pub] ∧
      Pair objects (some (e.blob ++ rest)) pub priv objId.toList := by
  -- A live entry names the pair it stands for, and what follows the blob is not read.
  cases stands with
  | live _ isCreated pair _ =>
    have read : blobId (some (e.blob ++ rest)) = some objId.toList := by
      rw [saved]
      exact blobId_keyblobSave objId rest
    exact ⟨_, _, isCreated, read, pair.pubIn, pair.privIn, pair.pubHas, pair.privHas⟩
  | dead isDead _ =>
    rw [isDead] at isLive
    cases isLive

end Entry.Stands

section Steps

variable {view : τ → Token} {primary : Nat} {s next : Tee τ × List Entry} {act : Cryptoki τ × Op}

/-- An operation that neither deletes nor hands out a blob teaches nothing about the blobs. -/
theorem record_other {before after : List TokenObject} {op : Op} {result : Result}
    {entries : List Entry} (keeps : ∀ blob, op ≠ .deleteKeypair (some blob))
    (blobless : ∀ blob, result.output ≠ .keyBlob blob) :
    record before after op result entries = entries := by
  -- Both other branches of the record are ruled out.
  unfold record
  split
  · exact absurd rfl (keeps _)
  · exact absurd ‹_› (blobless _)
  · rfl

/-- What a step does, in terms of the effect its operation has on the objects. -/
theorem tracked_cases (serves : act.1.Serves view) (opened : primary ∈ (view s.1.state).sessions)
    (stepped : tracked view primary s act = some next) :
    ∃ result objects, ((act.2.prog act.1 primary).exec s.1).1 = some result ∧
      act.2.Effect (view s.1.state).objects (some result) objects ∧
      view next.1.state = { view s.1.state with objects := objects } ∧
      next.2 = record (view s.1.state).objects objects act.2 result s.2 := by
  -- The step is defined when the operation returns, and then its effect is known.
  have ends := prog_spec serves opened act.2 s.1 rfl
  unfold tracked at stepped
  generalize (act.2.prog act.1 primary).exec s.1 = ended at ends stepped
  obtain ⟨result, after⟩ := ended
  obtain ⟨result, rfl, rfl⟩ := Option.map_eq_some_iff.mp stepped
  obtain ⟨objects, effect, at_⟩ := ends rfl
  have at_ : view after.state = { view s.1.state with objects := objects } := at_
  exact ⟨result, objects, rfl, effect, at_, by simp only [at_]⟩

/-- An operation that makes a key pair adds its blob to what is known. -/
theorem record_made {before after : List TokenObject} {op : Op} {objId : KeyId}
    (names : op.objId = some objId) (ret : Int) (blob : List UInt8) (entries : List Entry) :
    record before after op ⟨ret, .keyBlob blob⟩ entries =
      ⟨blob, created before after, true⟩ :: entries := by
  -- Only the two operations that take an identifier make a pair.
  cases op with
  | generateKeypair _ _ _ => rfl
  | importKeypair _ _ _ => rfl
  | getKeypairPublic _ _ _ => cases names
  | deleteKeypair _ => cases names
  | signData _ _ _ => cases names
  | verifyData _ _ _ _ => cases names

/-- An operation that makes a key pair does not delete. -/
theorem keeps_of_objId {op : Op} {objId : KeyId} (names : op.objId = some objId)
    (blob : Option (List UInt8)) : op ≠ .deleteKeypair blob := by
  rintro rfl
  cases names

/-- A step keeps the invariant once the objects and the entries it leaves do. -/
theorem Kept.of_objects (kept : Kept view primary s) {objects : List TokenObject}
    (after : view next.1.state = { view s.1.state with objects := objects })
    (apart : (objects.map TokenObject.serial).Nodup) (known : ∀ e ∈ next.2, e.Known objects) :
    Kept view primary next where
  opened := by
    -- The sessions are those from before.
    rw [after]
    exact kept.opened
  apart := by
    rw [after]
    exact apart
  known := by
    rw [after]
    exact known

/-- A new object is told apart from the old ones. -/
theorem nodup_cons {objects : List TokenObject} {o : TokenObject}
    (new : ∀ other ∈ objects, other.serial ≠ o.serial)
    (apart : (objects.map TokenObject.serial).Nodup) :
    ((o :: objects).map TokenObject.serial).Nodup := by
  -- The serial number of the new object is nobody else's.
  refine List.nodup_cons.mpr ⟨fun member => ?_, apart⟩
  obtain ⟨other, there, same⟩ := List.mem_map.mp member
  exact new other there same

/-- An object of a new ID is no matter for any blob. -/
theorem Entry.Known.cons {e : Entry} {objects : List TokenObject} (known : e.Known objects)
    {objId : KeyId} {o : TokenObject} (id : o.attributes .id = some (.bytes objId.toList))
    (differs : e.blob ≠ keyblobSave objId) : e.Known (o :: objects) := by
  obtain ⟨own, saved, stands⟩ := known
  refine ⟨own, saved, stands.cons fun same => differs ?_⟩
  -- The object would have to have two IDs.
  have lists := id.symm.trans same
  simp only [Option.some.injEq, AttributeValue.bytes.injEq] at lists
  rw [saved, Vector.toList_inj.mp lists]

/-- An attempt to delete by a blob that names no key pair teaches nothing about the blobs. -/
theorem record_lost {objects : List TokenObject} {op : Op} {keyBlob : Option (List UInt8)}
    (names : op.keyBlob = some keyBlob) (lost : Lost objects keyBlob) {entries : List Entry}
    (known : ∀ e ∈ entries, e.Known objects) :
    record objects objects op .failed entries = entries := by
  by_cases deletes : ∃ blob, op = .deleteKeypair (some blob)
  · obtain ⟨blob, rfl⟩ := deletes
    obtain rfl := Option.some.inj names
    -- An entry that would be marked is one that is marked already.
    refine (List.map_congr_left fun e member => ?_).trans (List.map_id _)
    split
    · rename_i same
      subst same
      obtain ⟨objId, saved, stands⟩ := known e member
      have isDead : e.live = false := by
        by_contra isLive
        obtain ⟨pub, priv, _, pair⟩ := stands.pair [] (by simpa using isLive) saved
        rw [List.append_nil] at pair
        exact lost pub priv _ pair
      obtain ⟨_, _, _⟩ := e
      subst isDead
      rfl
    · rfl
  · exact record_other (fun blob same => deletes ⟨blob, same⟩) fun _ => Output.noConfusion

/-- Deleting a key pair keeps what is known of every blob, as long as none in use is continued. -/
theorem known_deleted {objects : List TokenObject} {blob : List UInt8} {pub priv : TokenObject}
    {objId : List UInt8} (apart : (objects.map TokenObject.serial).Nodup)
    (pair : Pair objects (some blob) pub priv objId) {e : Entry} (known : e.Known objects)
    (exact_ : e.live = true → e.blob <+: blob → e.blob = blob) :
    (if e.blob = blob then { e with live := false } else e : Entry).Known
      (removed objects pub priv) := by
  obtain ⟨own, saved, stands⟩ := known
  split
  · rename_i same
    -- The blob is that of the key pair, so the IDs are the same.
    have read := blobId_saved own
    rw [← saved, same] at read
    obtain rfl := Option.some.inj (read.symm.trans pair.good)
    exact ⟨own, saved, stands.deleted apart pair⟩
  · rename_i another
    refine ⟨own, saved, stands.removed apart pair fun isLive same => another ?_⟩
    -- A blob that passes the checks continues the saved form of its ID.
    refine exact_ isLive ?_
    rw [saved, keyblobSave_eq, ← same]
    exact (prefix_of_blobId pair.good).1

/-- Every step that meets the conditions keeps the store invariant. -/
theorem kept_step (kept : Kept view primary s) (served : Served view s act) (exact_ : Exact s act)
    (stepped : tracked view primary s act = some next) : Kept view primary next := by
  obtain ⟨result, objects, _, effect, after, entries⟩ :=
    tracked_cases served.1 kept.opened stepped
  obtain ⟨lib, op⟩ := act
  dsimp only at effect entries
  have newId := served.2
  -- The effect of the operation decides which objects and which entries there are.
  cases effect with
  | rejected bad =>
    have keeps : ∀ blob, op ≠ .deleteKeypair (some blob) := by
      rintro blob rfl
      cases bad
    rw [record_other keeps fun _ => Output.noConfusion] at entries
    exact kept.of_objects after kept.apart (entries ▸ kept.known)
  | @made _ objId _ _ names made =>
    obtain ⟨noObject, noBlob⟩ := newId objId names
    cases made with
    | @pair pub priv new _ =>
      rw [record_made names, created_of_newPair new] at entries
      have pubId := TokenObject.id_of_key new.pubHas
      have privId := TokenObject.id_of_key new.privHas
      refine kept.of_objects after (nodup_cons new.privNew (nodup_cons new.pubNew kept.apart)) ?_
      rw [entries]
      intro e member
      rcases List.mem_cons.mp member with rfl | old
      · -- The new blob stands for the two new objects, since no old one has the ID.
        have read := blobId_saved objId
        refine ⟨objId, rfl, .live rfl rfl ⟨read, ?_, ?_, new.pubHas, new.privHas⟩ ?_⟩
        · exact List.mem_cons_of_mem _ List.mem_cons_self
        · exact List.mem_cons_self
        · intro o there id
          rcases List.mem_cons.mp there with rfl | there
          · exact Or.inr rfl
          · rcases List.mem_cons.mp there with rfl | there
            · exact Or.inl rfl
            · exact absurd id (noObject o there)
      · exact ((kept.known e old).cons pubId (noBlob e old)).cons privId (noBlob e old)
    | half pubHas pubNew =>
      rw [record_other (fun _ => keeps_of_objId names _) fun _ => Output.noConfusion] at entries
      refine kept.of_objects after (nodup_cons pubNew kept.apart) ?_
      rw [entries]
      intro e old
      exact (kept.known e old).cons (TokenObject.id_of_key pubHas) (noBlob e old)
  | unrestored names lost =>
    rw [record_lost names lost kept.known] at entries
    exact kept.of_objects after kept.apart (entries ▸ kept.known)
  | used names pair keeps blobless =>
    have noBlob : ∀ blob, result.output ≠ .keyBlob blob := by
      rintro blob same
      exact blobless blob result.ret (by rw [← same])
    rw [record_other (fun blob => keeps _) noBlob] at entries
    exact kept.of_objects after kept.apart (entries ▸ kept.known)
  | @deleted keyBlob pub priv objId pair =>
    cases keyBlob with
    | none => cases pair.good
    | some blob =>
      refine kept.of_objects after ?_ ?_
      · exact (kept.apart.sublist ((List.filter_sublist.trans List.filter_sublist).map _))
      · rw [entries]
        intro e member
        obtain ⟨old, there, rfl⟩ := List.mem_map.mp member
        exact known_deleted kept.apart pair (kept.known old there)
          (exact_ blob rfl old there)

end Steps

section Isolation

variable {view : τ → Token} {primary : Nat} {s next : Tee τ × List Entry} {act : Cryptoki τ × Op}

/-- A blob of a key pair restores to its two objects. -/
theorem restores_of_pair {tee : Tee τ} {blob : List UInt8} {pub priv : TokenObject}
    {objId : List UInt8} (pair : Pair (view tee.state).objects (some blob) pub priv objId)
    (only : ∀ {one two other}, Pair (view tee.state).objects (some blob) one two other →
      one = pub ∧ two = priv) : Restores view tee blob pub priv := by
  intro lib serves session member idle
  have spec := keyblobRestore_spec serves member idle (some blob) tee rfl
  revert spec
  generalize (keyblobRestore lib session (some blob)).exec tee = ended
  obtain ⟨restored, after⟩ := ended
  rintro ⟨final, outcome, at_⟩
  -- The searches cannot come to nothing while the key pair is in the token.
  cases outcome with
  | rejected bad => exact absurd pair (lost_of_rejected bad _ _ _)
  | noPublicKey good none_ => exact absurd pair (lost_of_noPublicKey good none_ _ _ _)
  | noPrivateKey good free none_ => exact absurd pair (lost_of_noPrivateKey good none_ _ _ _)
  | pair good pubIn privIn pubHas privHas free freeToo =>
    obtain ⟨rfl, rfl⟩ := only ⟨good, pubIn, privIn, pubHas, privHas⟩
    have at_ : view after.state = _ := at_
    refine ⟨rfl, ?_, ?_⟩
    · rw [at_]
      exact Token.handles_pair _ freeToo
    · rw [at_]
      exact Function.update_self ..

/-- Another blob names what it named before once a key pair of a different ID is destroyed. -/
theorem pair_removed_iff {objects : List TokenObject}
    (apart : (objects.map TokenObject.serial).Nodup) {blob other : Option (List UInt8)}
    {pub priv one two : TokenObject} {objId otherId : List UInt8}
    (pair : Pair objects blob pub priv objId) (differs : blobId other ≠ some objId) :
    Pair (removed objects pub priv) other one two otherId ↔ Pair objects other one two otherId := by
  constructor
  · rintro ⟨good, pubIn, privIn, pubHas, privHas⟩
    exact ⟨good, removed_subset pubIn, removed_subset privIn, pubHas, privHas⟩
  · intro own
    -- The two objects of the other ID are none of the two that go.
    have another : objId ≠ otherId := fun same => differs (same ▸ own.good)
    have oneStays := mem_removed_of_id apart pair own.pubIn own.pubId another
    have twoStays := mem_removed_of_id apart pair own.privIn own.privId another
    exact ⟨own.good, oneStays, twoStays, own.pubHas, own.privHas⟩

/-- What becomes of a call on a blob in terms of its effect, since it always returns. -/
theorem effect_of_keyBlob {lib : Cryptoki τ} (serves : lib.Serves view) {tee : Tee τ}
    (opened : primary ∈ (view tee.state).sessions) (op : Op) {keyBlob : Option (List UInt8)}
    (names : op.keyBlob = some keyBlob) : ∃ objects,
      op.Effect (view tee.state).objects ((op.prog lib primary).exec tee).1 objects ∧
        (view ((op.prog lib primary).exec tee).2.state).objects = objects := by
  obtain ⟨objects, effect, at_⟩ := prog_spec serves opened op tee rfl (returns_prog op names tee)
  exact ⟨objects, effect, congrArg Token.objects at_⟩

/-- Every operation on a blob that names no key pair fails. -/
theorem fails_of_lost {tee : Tee τ} (opened : primary ∈ (view tee.state).sessions)
    {blob : List UInt8} (lost : Lost (view tee.state).objects (some blob)) :
    Fails view primary tee blob := by
  intro lib serves op names
  obtain ⟨objects, effect, _⟩ := effect_of_keyBlob serves opened op names
  generalize ((op.prog lib primary).exec tee).1 = result at effect
  -- Every effect but the failures needs a key pair or makes one.
  cases effect with
  | rejected _ => rfl
  | made makes _ =>
    cases op with
    | generateKeypair _ _ _ => cases names
    | importKeypair _ _ _ => cases names
    | getKeypairPublic _ _ _ => cases makes
    | deleteKeypair _ => cases makes
    | signData _ _ _ => cases makes
    | verifyData _ _ _ _ => cases makes
  | unrestored _ _ => rfl
  | used uses pair _ _ =>
    obtain rfl := Option.some.inj (names.symm.trans uses)
    exact (lost _ _ _ pair).elim
  | deleted pair =>
    obtain rfl := Option.some.inj names
    exact (lost _ _ _ pair).elim

/-- Deleting by a blob that names a key pair destroys one that it names. -/
theorem Op.Effect.of_pair {objects after : List TokenObject} {blob objId : List UInt8}
    {result : Option Result} {pub priv : TokenObject}
    (effect : (Op.deleteKeypair (some blob)).Effect objects result after)
    (pair : Pair objects (some blob) pub priv objId) :
    ∃ one two, Pair objects (some blob) one two objId ∧ result = some ⟨0, .none⟩ ∧
      after = removed objects one two := by
  -- Every effect but the deletion is ruled out, since there is a key pair.
  cases effect with
  | rejected bad => cases bad
  | made makes _ => cases makes
  | unrestored names lost =>
    obtain rfl := Option.some.inj names
    exact (lost _ _ _ pair).elim
  | used _ _ keeps _ => exact absurd rfl (keeps _)
  | @deleted _ one two other found =>
    obtain rfl := Option.some.inj (pair.good.symm.trans found.good)
    exact ⟨one, two, found, rfl, rfl⟩

/-- The store invariant isolates the blobs from each other. -/
theorem Kept.isolated (kept : Kept view primary s) : Isolated view primary s where
  live := by
    intro e member isLive
    obtain ⟨objId, saved, stands⟩ := kept.known e member
    obtain ⟨pub, priv, isCreated, pair⟩ := stands.pair [] isLive saved
    rw [List.append_nil] at pair
    -- The blob names no other pair than the one created with it.
    have only : ∀ {one two other}, Pair (view s.1.state).objects (some e.blob) one two other →
        one = pub ∧ two = priv := by
      intro one two other found
      obtain rfl := Option.some.inj (pair.good.symm.trans found.good)
      have same := (stands.own found).2.1.symm.trans isCreated
      simp only [List.cons.injEq, and_true] at same
      exact ⟨same.2, same.1⟩
    refine ⟨pub, priv, isCreated, restores_of_pair pair only, fun lib serves => ?_⟩
    have outcome := effect_of_keyBlob serves kept.opened (.deleteKeypair (some e.blob)) rfl
    revert outcome
    show (∃ objects, (Op.deleteKeypair (some e.blob)).Effect _
      ((teeDeleteKeypair lib primary (some e.blob)).exec s.1).1 objects ∧
      (view ((teeDeleteKeypair lib primary (some e.blob)).exec s.1).2.state).objects = objects) → _
    generalize (teeDeleteKeypair lib primary (some e.blob)).exec s.1 = ended
    obtain ⟨result, after⟩ := ended
    rintro ⟨objects, effect, left⟩
    obtain ⟨one, two, found, returned, rfl⟩ := effect.of_pair pair
    obtain ⟨rfl, rfl⟩ := only found
    refine ⟨returned, ?_, ?_⟩
    · rw [left]
      exact fun o => mem_removed kept.apart pair.pubIn pair.privIn
    · rw [left]
      intro other apart one' two' otherId
      refine pair_removed_iff kept.apart pair fun good => apart ?_
      rw [saved, keyblobSave_eq]
      exact (prefix_of_blobId good).1
  dead := by
    intro e member isDead
    obtain ⟨objId, saved, stands⟩ := kept.known e member
    have lost := stands.lost [] isDead saved
    rw [List.append_nil] at lost
    exact fails_of_lost kept.opened lost

/-- A step that deletes by a continued blob leaves a blob in use that stands for nothing. -/
theorem exact_of_isolated (kept : Kept view primary s) (served : Served view s act)
    (stepped : tracked view primary s act = some next) (isolated : Isolated view primary next) :
    Exact s act := by
  intro blob isDelete e member isLive continued
  obtain ⟨lib, op⟩ := act
  obtain rfl : op = .deleteKeypair (some blob) := isDelete
  by_contra unequal
  obtain ⟨rest, rfl⟩ := continued
  obtain ⟨objId, saved, stands⟩ := kept.known e member
  obtain ⟨pub, priv, _, pair⟩ := stands.pair rest isLive saved
  obtain ⟨result, objects, _, effect, at_, entries⟩ :=
    tracked_cases served.1 kept.opened stepped
  obtain ⟨one, two, found, _, rfl⟩ := effect.of_pair pair
  -- The entry stays as it was, since the blob of the call is another one.
  have still : e ∈ next.2 := by
    rw [entries]
    exact List.mem_map.mpr ⟨e, member, if_neg unequal⟩
  -- Its objects are gone all the same.
  have lost : Lost (view next.1.state).objects (some e.blob) := by
    have gone := (stands.deleted kept.apart found).lost [] rfl saved
    rw [List.append_nil] at gone
    rw [at_]
    exact gone
  have opened : primary ∈ (view next.1.state).sessions := by
    rw [at_]
    exact kept.opened
  have failed := fails_of_lost opened lost lib served.1 (.deleteKeypair (some e.blob)) rfl
  obtain ⟨_, _, _, _, deletes⟩ := isolated.live e still isLive
  have succeeds := (deletes lib served.1).1
  cases failed.symm.trans succeeds

/--
Key pairs are isolated from each other in a run precisely when no key pair is deleted by its blob
with further bytes behind it.
-/
theorem isolated_always_iff {tee : Tee τ} {acts : List (Cryptoki τ × Op)}
    {final : Tee τ × List Entry} (opened : primary ∈ (view tee.state).sessions)
    (apart : ((view tee.state).objects.map TokenObject.serial).Nodup)
    (served : Along (tracked view primary) (Served view) (tee, []) acts)
    (ran : run (tracked view primary) (tee, []) acts = some final) :
    Always (tracked view primary) (Isolated view primary) (tee, []) acts ↔
      Along (tracked view primary) Exact (tee, []) acts := by
  -- The store invariant is kept up to the first step that misses the condition.
  have start : Kept view primary (tee, []) := ⟨opened, apart, fun _ member => nomatch member⟩
  have keeps : ∀ s act next, Kept view primary s → Served view s act → Exact s act →
      tracked view primary s act = some next → Kept view primary next :=
    fun _ _ _ kept served exact_ stepped => kept_step kept served exact_ stepped
  refine always_iff_along_of_side keeps ?_ start start.isolated served ran
  intro s act next kept _ served stepped
  constructor
  · exact exact_of_isolated kept served stepped
  · intro exact_
    exact (kept_step kept served exact_ stepped).isolated

end Isolation

/-- The blob of the key pair that is generated. -/
def generatedBlob : List UInt8 := keyblobSave (Vector.replicate idLength 7)

/-- A key pair is generated, and something is deleted by a blob. -/
def generateAndDelete (blob : List UInt8) : List (Cryptoki SoftToken × Op) :=
  [(softToken none, generates), (softToken none, .deleteKeypair (some blob))]

/-- The soft token serves the calls, and the one ID is new. -/
theorem served_generateAndDelete (blob : List UInt8) :
    Along (tracked SoftToken.view 1) (Served SoftToken.view) (softOpened, [])
      (generateAndDelete blob) := by
  -- There is no object and no blob before the key pair is generated.
  have first : NewId SoftToken.view (softOpened, []) (softToken none, generates) :=
    fun _ _ => ⟨fun _ member => (nomatch member), fun _ member => (nomatch member)⟩
  exact ⟨⟨softToken_serves, first⟩, fun _ _ =>
    ⟨⟨softToken_serves, fun _ names => (nomatch names)⟩, fun _ _ => trivial⟩⟩

/-- A pair that is generated and deleted by its own blob leaves the others alone. -/
theorem isolated_always_iff_deleted :
    ∃ final, run (tracked SoftToken.view 1) (softOpened, []) (generateAndDelete generatedBlob) =
        some final ∧
      (Always (tracked SoftToken.view 1) (Isolated SoftToken.view 1) (softOpened, [])
          (generateAndDelete generatedBlob) ↔
        Along (tracked SoftToken.view 1) Exact (softOpened, [])
          (generateAndDelete generatedBlob)) := by
  -- The run ends, whatever the condition says.
  have returns : (run (tracked SoftToken.view 1) (softOpened, [])
      (generateAndDelete generatedBlob)).isSome := by decide +kernel
  obtain ⟨final, ran⟩ := Option.isSome_iff_exists.mp returns
  exact ⟨final, ran, isolated_always_iff (by decide) (by decide)
    (served_generateAndDelete generatedBlob) ran⟩

/-- What deleting by a blob that was handed out leaves when one byte follows the blob. -/
def overlongState : Tee SoftToken × List Entry :=
  ((run (tracked SoftToken.view 1) (softOpened, [])
    (generateAndDelete (generatedBlob ++ [0]))).getD (softOpened, []))

/-- One byte too many deletes the key pair, while its blob was never deleted. -/
theorem not_isolated_always :
    Along (tracked SoftToken.view 1) (Served SoftToken.view) (softOpened, [])
        (generateAndDelete (generatedBlob ++ [0])) ∧
      ¬ Always (tracked SoftToken.view 1) (Isolated SoftToken.view 1) (softOpened, [])
        (generateAndDelete (generatedBlob ++ [0])) := by
  refine ⟨served_generateAndDelete _, fun always => ?_⟩
  have returns : (run (tracked SoftToken.view 1) (softOpened, [])
      (generateAndDelete (generatedBlob ++ [0]))).isSome := by decide +kernel
  obtain ⟨final, ran⟩ := Option.isSome_iff_exists.mp returns
  have isFinal : overlongState = final := by
    unfold overlongState
    rw [ran]
    rfl
  have isolated := always.last ran
  rw [← isFinal] at isolated
  -- The only blob is still in use, and restoring it fails.
  have one : overlongState.2.length = 1 := by decide +kernel
  obtain ⟨e, isOnly⟩ := List.length_eq_one_iff.mp one
  have blob : overlongState.2.map Entry.blob = [generatedBlob] := by decide +kernel
  have live : overlongState.2.map Entry.live = [true] := by decide +kernel
  rw [isOnly] at blob live
  simp only [List.map_cons, List.map_nil, List.cons.injEq, and_true] at blob live
  obtain ⟨pub, priv, _, restores, _⟩ := isolated.live e (by simp [isOnly]) live
  rw [blob] at restores
  have idle : ((SoftToken.view overlongState.1.state).searching 1).isNone := by decide +kernel
  have restored := (restores (softToken none) softToken_serves 1 (by decide +kernel)
    (Option.isNone_iff_eq_none.mp idle)).1
  exact absurd restored (by decide +kernel)

end Grouper.Keymaster
