import Mathlib.Logic.ExistsUnique
import Grouper.Keymaster.Effects
import Grouper.Keymaster.Failure

/-! Which byte strings are restored as key blobs, and to which objects. -/

namespace Grouper.Keymaster

variable {τ : Type}

/-- An object in the token that a search for an ID and a class may come to. -/
def Matching (t : Token) (objId : List UInt8) (objClass : Nat) (o : TokenObject) : Prop :=
  o ∈ t.objects ∧ o.hasAll (keyTemplate objId objClass) = true

/-- The byte string is what was saved for an ID, and the ID has one key of each class. -/
def Genuine (t : Token) (keyBlob : List UInt8) (objId : KeyId) : Prop :=
  keyBlob = keyblobSave objId ∧ (∃! pub, Matching t objId.toList ckoPublicKey pub) ∧
    ∃! priv, Matching t objId.toList ckoPrivateKey priv

/-- A byte string is restored precisely when it is genuine, and then to the objects of its ID. -/
def ExactlyRestored (view : τ → Token) (lib : Cryptoki τ) (session : Nat) (tee : Tee τ)
    (keyBlob : List UInt8) : Prop :=
  let (restored, after) := (keyblobRestore lib session (some keyBlob)).exec tee
  (restored.ret = 0 ↔ ∃ objId, Genuine (view tee.state) keyBlob objId) ∧
    -- The handles that come out stand for the two keys of the ID.
    (restored.ret = 0 → ∃ objId pub priv, Genuine (view tee.state) keyBlob objId ∧
      Matching (view tee.state) objId.toList ckoPublicKey pub ∧
      Matching (view tee.state) objId.toList ckoPrivateKey priv ∧
      (view after.state).handles restored.publicKey = some pub ∧
      (view after.state).handles restored.privateKey = some priv)

/-- Saved bytes with a key pair behind them have no further bytes and no further keys. -/
def Unambiguous (t : Token) (keyBlob : List UInt8) : Prop :=
  ∀ (objId : KeyId) rest, keyBlob = keyblobSave objId ++ rest →
    ∀ pub priv, Matching t objId.toList ckoPublicKey pub →
      Matching t objId.toList ckoPrivateKey priv →
      rest = [] ∧ (∀ o, Matching t objId.toList ckoPublicKey o → o = pub) ∧
        ∀ o, Matching t objId.toList ckoPrivateKey o → o = priv

/-- A byte string that passes the checks is what was saved for some ID, and maybe more. -/
theorem saved_of_blobId {keyBlob objId : List UInt8} (good : blobId (some keyBlob) = some objId) :
    ∃ (id : KeyId) (rest : List UInt8), id.toList = objId ∧ keyBlob = keyblobSave id ++ rest := by
  -- The checks leave the version and the ID at the front.
  obtain ⟨⟨rest, split⟩, length⟩ := prefix_of_blobId good
  refine ⟨⟨objId.toArray, by simpa using length⟩, rest, by simp [Vector.toList], ?_⟩
  rw [keyblobSave_eq, ← split]
  simp [Vector.toList]

section Restored

variable {view : τ → Token} {lib : Cryptoki τ} (serves : lib.Serves view) {tee : Tee τ}
  {session : Nat} (member : session ∈ (view tee.state).sessions)
  (idle : (view tee.state).searching session = none)

include serves member idle

/-- What is restored is precisely what names a key pair, and the handles stand for one. -/
theorem restored_iff (keyBlob : List UInt8) :
    let (restored, after) := (keyblobRestore lib session (some keyBlob)).exec tee
    (restored.ret = 0 ↔
        ∃ pub priv objId, Pair (view tee.state).objects (some keyBlob) pub priv objId) ∧
      (restored.ret = 0 →
        ∃ pub priv objId, Pair (view tee.state).objects (some keyBlob) pub priv objId ∧
          (view after.state).handles restored.publicKey = some pub ∧
          (view after.state).handles restored.privateKey = some priv) := by
  have spec := keyblobRestore_spec serves member idle (some keyBlob) tee rfl
  revert spec
  generalize (keyblobRestore lib session (some keyBlob)).exec tee = ended
  obtain ⟨restored, after⟩ := ended
  rintro ⟨final, outcome, at_⟩
  have at_ : view after.state = final := at_
  -- Each way the two searches may end decides both sides.
  cases outcome with
  | rejected bad =>
    refine ⟨⟨fun zero => absurd zero (by simp), ?_⟩, fun zero => absurd zero (by simp)⟩
    rintro ⟨pub, priv, objId, pair⟩
    exact absurd pair (lost_of_rejected bad _ _ _)
  | noPublicKey good none_ =>
    refine ⟨⟨fun zero => absurd zero (by simp), ?_⟩, fun zero => absurd zero (by simp)⟩
    rintro ⟨pub, priv, objId, pair⟩
    exact absurd pair (lost_of_noPublicKey good none_ _ _ _)
  | noPrivateKey good free none_ =>
    refine ⟨⟨fun zero => absurd zero (by simp), ?_⟩, fun zero => absurd zero (by simp)⟩
    rintro ⟨pub, priv, objId, pair⟩
    exact absurd pair (lost_of_noPrivateKey good none_ _ _ _)
  | @pair objId one two pub priv good pubIn privIn pubHas privHas free freeToo =>
    -- Both objects were found, so the bytes name them, and their handles were opened last.
    have pair : Pair (view tee.state).objects (some keyBlob) pub priv objId :=
      ⟨good, pubIn, privIn, pubHas, privHas⟩
    refine ⟨⟨fun _ => ⟨pub, priv, objId, pair⟩, fun _ => rfl⟩,
      fun _ => ⟨pub, priv, objId, pair, ?_, ?_⟩⟩
    · rw [at_]
      exact Token.handles_pair _ freeToo
    · rw [at_]
      exact Function.update_self ..

/--
A byte string is restored as it should be precisely when it is not ambiguous: no bytes follow the
ID of a key pair, and the ID has no second key of either class.
-/
theorem exactlyRestored_iff_unambiguous (keyBlob : List UInt8) :
    ExactlyRestored view lib session tee keyBlob ↔ Unambiguous (view tee.state) keyBlob := by
  -- What remains is to compare being genuine with naming a pair that is alone.
  have restored := restored_iff serves member idle keyBlob
  unfold ExactlyRestored
  revert restored
  generalize (keyblobRestore lib session (some keyBlob)).exec tee = ended
  obtain ⟨restored, after⟩ := ended
  rintro ⟨succeeds, handles⟩
  constructor
  · -- A key pair makes the restoring succeed, so the byte string is genuine.
    rintro ⟨exact_, _⟩ objId rest rfl pub priv isPub isPriv
    have zero : restored.ret = 0 := succeeds.mpr ⟨pub, priv, objId.toList,
      blobId_keyblobSave objId rest, isPub.1, isPriv.1, isPub.2, isPriv.2⟩
    obtain ⟨other, saved, onlyPub, onlyPriv⟩ := exact_.mp zero
    have lengths := congrArg List.length saved
    rw [List.length_append, keyblobSave_length, keyblobSave_length] at lengths
    obtain rfl : rest = [] := List.length_eq_zero_iff.mp (by omega)
    rw [List.append_nil] at saved
    obtain rfl := keyblobSave_inj saved
    exact ⟨rfl, fun o isToo => onlyPub.unique isToo isPub,
      fun o isToo => onlyPriv.unique isToo isPriv⟩
  · -- A byte string that names a key pair names no other, so it is genuine.
    intro unambiguous
    have genuine : ∀ pub priv objId, Pair (view tee.state).objects (some keyBlob) pub priv objId →
        ∃ id : KeyId, id.toList = objId ∧ Genuine (view tee.state) keyBlob id := by
      intro pub priv objId pair
      obtain ⟨id, rest, rfl, split⟩ := saved_of_blobId pair.good
      have isPub : Matching (view tee.state) id.toList ckoPublicKey pub := ⟨pair.pubIn, pair.pubHas⟩
      have isPriv : Matching (view tee.state) id.toList ckoPrivateKey priv :=
        ⟨pair.privIn, pair.privHas⟩
      obtain ⟨rfl, onlyPub, onlyPriv⟩ := unambiguous id rest split pub priv isPub isPriv
      rw [List.append_nil] at split
      exact ⟨id, rfl, split, ⟨pub, isPub, onlyPub⟩, ⟨priv, isPriv, onlyPriv⟩⟩
    refine ⟨⟨fun zero => ?_, ?_⟩, fun zero => ?_⟩
    · -- A success names a pair, which is alone.
      obtain ⟨pub, priv, objId, pair⟩ := succeeds.mp zero
      obtain ⟨id, _, isGenuine⟩ := genuine pub priv objId pair
      exact ⟨id, isGenuine⟩
    · -- What was saved for an ID with its two keys names a pair.
      rintro ⟨id, saved, ⟨pub, isPub, _⟩, priv, isPriv, _⟩
      have read := blobId_saved id
      rw [← saved] at read
      exact succeeds.mpr ⟨pub, priv, id.toList, read, isPub.1, isPriv.1, isPub.2, isPriv.2⟩
    · -- The handles stand for the pair that was found.
      obtain ⟨pub, priv, objId, pair, isPublic, isPrivate⟩ := handles zero
      obtain ⟨id, rfl, isGenuine⟩ := genuine pub priv objId pair
      exact ⟨id, pub, priv, isGenuine, ⟨pair.pubIn, pair.pubHas⟩, ⟨pair.privIn, pair.privHas⟩,
        isPublic, isPrivate⟩

end Restored

/-- The soft token after some operations on the opened device. -/
def softAfter (ops : List Op) : Tee SoftToken :=
  (run (step 1) softOpened (ops.map fun op => (softToken none, op))).getD softOpened

/-- The blob of the one pair there is. -/
theorem exactlyRestored_iff_unambiguous_generated :
    ExactlyRestored SoftToken.view (softToken none) 1 (softAfter [generates])
        (keyblobSave (Vector.replicate idLength 7)) ↔
      Unambiguous (SoftToken.view (softAfter [generates]).state)
        (keyblobSave (Vector.replicate idLength 7)) := by
  -- The primary session is there, and has no search going.
  have idle : ((SoftToken.view (softAfter [generates]).state).searching 1).isNone := by
    decide +kernel
  exact exactlyRestored_iff_unambiguous softToken_serves (by decide +kernel)
    (Option.isNone_iff_eq_none.mp idle) _

/-- A blob with a byte behind it is restored, and so is the blob of an ID with two key pairs. -/
theorem not_exactlyRestored :
    ¬ ExactlyRestored SoftToken.view (softToken none) 1 (softAfter [generates])
        (keyblobSave (Vector.replicate idLength 7) ++ [0]) ∧
      ¬ ExactlyRestored SoftToken.view (softToken none) 1 (softAfter [generates, generates])
        (keyblobSave (Vector.replicate idLength 7)) := by
  constructor
  · rintro ⟨exact_, _⟩
    -- No saved blob has 37 bytes.
    obtain ⟨objId, saved, _⟩ := exact_.mp (by decide +kernel)
    have lengths := congrArg List.length saved
    rw [List.length_append, keyblobSave_length, keyblobSave_length] at lengths
    exact absurd lengths (by decide)
  · rintro ⟨exact_, _⟩
    obtain ⟨objId, saved, ⟨pub, isPub, only⟩, _⟩ := exact_.mp (by decide +kernel)
    obtain rfl := keyblobSave_inj saved
    -- Two public keys of the ID are told apart by their serial numbers.
    have both : ∃ o ∈ (SoftToken.view (softAfter [generates, generates]).state).objects,
        o.hasAll (keyTemplate (Vector.replicate idLength 7).toList ckoPublicKey) = true ∧
        ∃ o' ∈ (SoftToken.view (softAfter [generates, generates]).state).objects,
          o'.hasAll (keyTemplate (Vector.replicate idLength 7).toList ckoPublicKey) = true ∧
          o.serial ≠ o'.serial := by decide +kernel
    obtain ⟨o, there, has, o', thereToo, hasToo, differ⟩ := both
    rw [only o ⟨there, has⟩, only o' ⟨thereToo, hasToo⟩] at differ
    exact differ rfl

end Grouper.Keymaster
