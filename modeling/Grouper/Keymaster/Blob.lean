import Mathlib.Data.Nat.Digits.Defs
import Grouper.Keymaster.Cryptoki

/-! The byte formats of the keymaster: key blobs, big integers, and exponents. -/

namespace Grouper.Keymaster

/-- The size of a key ID in bytes. -/
def idLength : Nat := 32

/-- The version of the key blobs that are stored. -/
def keyVersion : UInt32 := 1

/-- A key ID as `generate_random_id` makes it. -/
abbrev KeyId := Vector UInt8 idLength

/-- `keyblob_save`: the version with its highest byte first, then the ID. -/
def keyblobSave (objId : KeyId) : List UInt8 :=
  ((List.range 4).map fun i => (keyVersion >>> (UInt32.ofNat ((4 - i - 1) * 8))).toUInt8) ++
    objId.toList

/-- The version a blob starts with. -/
def blobVersion (keyBlob : List UInt8) : UInt32 :=
  (keyBlob.take 4).foldl (fun version byte => (version <<< 8) ||| byte.toUInt32) 0

/-- The ID `keyblob_restore` searches for, if it gets past its checks of the blob. -/
def blobId (keyBlob : Option (List UInt8)) : Option (List UInt8) :=
  match keyBlob with
  | none => none
  | some keyBlob =>
    -- Longer blobs pass, and what follows the ID is not looked at.
    if keyBlob.length < 4 + idLength then none
    else if blobVersion keyBlob ≠ keyVersion then none
    else some ((keyBlob.drop 4).take idLength)

/-- `BN_bn2bin`: the shortest big-endian form of a number. -/
def bnBn2bin (bn : Nat) : List UInt8 := (Nat.digits 256 bn).reverse.map UInt8.ofNat

/-- `BN_bin2bn`. -/
def bnBin2bn (bytes : List UInt8) : Nat := bytes.foldl (fun bn byte => bn * 256 + byte.toNat) 0

/-- The public exponent of a key to generate, as eight bytes with the highest first. -/
def exponentBytes (publicExponent : UInt64) : List UInt8 :=
  (List.range 8).map fun i => (publicExponent >>> (UInt64.ofNat ((7 - i) * 8))).toUInt8

/-- A blob is its version in four bytes and the identifier. -/
theorem keyblobSave_eq (objId : KeyId) : keyblobSave objId = [0, 0, 0, 1] ++ objId.toList := rfl

/-- A blob has 36 bytes. -/
@[simp] theorem keyblobSave_length (objId : KeyId) : (keyblobSave objId).length = 36 := by
  rw [keyblobSave_eq, List.length_append, Vector.length_toList]
  rfl

/-- The ID of a blob can be read off the blob. -/
theorem keyblobSave_inj {one two : KeyId} (same : keyblobSave one = keyblobSave two) :
    one = two := by
  rw [keyblobSave_eq, keyblobSave_eq] at same
  exact Vector.toList_inj.mp (List.append_cancel_left same)

/-- What is saved is restored, and so is anything that continues it. -/
theorem blobId_keyblobSave (objId : KeyId) (rest : List UInt8) :
    blobId (some (keyblobSave objId ++ rest)) = some objId.toList := by
  -- The version is the right one, and the identifier is read behind it.
  have long : ¬ (keyblobSave objId ++ rest).length < 4 + idLength := by
    rw [List.length_append, keyblobSave_length]
    simp only [idLength]
    omega
  have version : blobVersion (keyblobSave objId ++ rest) = keyVersion := rfl
  unfold blobId
  dsimp only
  rw [if_neg long, if_neg (not_not_intro version)]
  show some ((objId.toList ++ rest).take idLength) = _
  rw [List.take_left' (by simp)]

/-- A blob restores to the ID it was saved for. -/
theorem blobId_saved (objId : KeyId) :
    blobId (some (keyblobSave objId)) = some objId.toList := by
  have read := blobId_keyblobSave objId []
  rwa [List.append_nil] at read

/-- One more byte of a version, while there is room for it. -/
theorem shift_or_toNat (version : UInt32) (byte : UInt8) (room : version.toNat < 2 ^ 24) :
    ((version <<< 8) ||| byte.toUInt32).toNat = version.toNat * 256 + byte.toNat := by
  -- There is room for the byte, so no bit is lost or shared.
  have small : byte.toNat < 2 ^ 8 := byte.toNat_lt
  have shifted : (version <<< 8).toNat = version.toNat <<< 8 := by
    show version.toNat <<< 8 % 2 ^ 32 = _
    rw [Nat.shiftLeft_eq]
    exact Nat.mod_eq_of_lt (by omega)
  rw [UInt32.toNat_or, shifted, UInt8.toNat_toUInt32, ← Nat.shiftLeft_add_eq_or_of_lt small,
    Nat.shiftLeft_eq]

/-- Only one sequence of four bytes reads as the stored version. -/
theorem bytes_of_blobVersion {a b c d : UInt8} {rest : List UInt8}
    (version : blobVersion (a :: b :: c :: d :: rest) = keyVersion) :
    [a, b, c, d] = [0, 0, 0, 1] := by
  -- The four bytes are the digits of the version to the base 256.
  have ha := a.toNat_lt
  have hb := b.toNat_lt
  have hc := c.toNat_lt
  have hd := d.toNat_lt
  have one := shift_or_toNat 0 a (by decide)
  have two := shift_or_toNat _ b (by rw [one, UInt32.toNat_zero]; omega)
  have three := shift_or_toNat _ c (by rw [two, one, UInt32.toNat_zero]; omega)
  have four := shift_or_toNat _ d (by rw [three, two, one, UInt32.toNat_zero]; omega)
  have value : (blobVersion (a :: b :: c :: d :: rest)).toNat = 1 := by
    rw [version]
    rfl
  have total : ((a.toNat * 256 + b.toNat) * 256 + c.toNat) * 256 + d.toNat = 1 := by
    refine Eq.trans ?_ (Eq.trans four.symm value)
    rw [three, two, one, UInt32.toNat_zero]
    omega
  have zero : a.toNat = 0 ∧ b.toNat = 0 ∧ c.toNat = 0 ∧ d.toNat = 1 := by omega
  obtain ⟨za, zb, zc, zd⟩ := zero
  have ea : a = 0 := UInt8.toNat_inj.mp za
  have eb : b = 0 := UInt8.toNat_inj.mp zb
  have ec : c = 0 := UInt8.toNat_inj.mp zc
  have ed : d = 1 := UInt8.toNat_inj.mp zd
  rw [ea, eb, ec, ed]

/-- A blob that passes the checks continues the saved form of the ID it yields. -/
theorem prefix_of_blobId {keyBlob objId : List UInt8}
    (restored : blobId (some keyBlob) = some objId) :
    [0, 0, 0, 1] ++ objId <+: keyBlob ∧ objId.length = idLength := by
  unfold blobId at restored
  dsimp only at restored
  split at restored
  · cases restored
  · rename_i long
    split at restored
    · cases restored
    · rename_i version
      have version := not_not.mp version
      obtain rfl := Option.some.inj restored
      -- The blob is long enough to name its first four bytes.
      match keyBlob, long, version with
      | a :: b :: c :: d :: rest, long, version =>
        have length : idLength ≤ rest.length := by
          simp only [List.length_cons, not_lt] at long
          omega
        refine ⟨?_, by simpa using length⟩
        show [0, 0, 0, 1] ++ rest.take idLength <+: [a, b, c, d] ++ rest
        rw [bytes_of_blobVersion version]
        exact (List.prefix_append_right_inj _).mpr (List.take_prefix _ _)
      | [], long, _ => simp [idLength] at long
      | [_], long, _ => simp [idLength] at long
      | [_, _], long, _ => simp [idLength] at long
      | [_, _, _], long, _ => simp [idLength] at long

end Grouper.Keymaster
