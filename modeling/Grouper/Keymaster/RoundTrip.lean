import Mathlib.Data.Nat.Digits.Lemmas
import Grouper.Keymaster.Partial

/-! What becomes of the numbers of a public key between its creation and its export. -/

namespace Grouper.Keymaster

open Prog (Triple)

variable {τ : Type}

section Numbers

/-- Reading bytes goes on from what was read before. -/
theorem bnBin2bn_append (bytes : List UInt8) (byte : UInt8) :
    bnBin2bn (bytes ++ [byte]) = bnBin2bn bytes * 256 + byte.toNat := by
  -- A last byte comes in behind all the others.
  unfold bnBin2bn
  rw [List.foldl_append]
  rfl

/-- Digits written with the highest first read as the number they are the digits of. -/
theorem bnBin2bn_digits {digits : List Nat} (small : ∀ digit ∈ digits, digit < 256) :
    bnBin2bn (digits.reverse.map UInt8.ofNat) = Nat.ofDigits 256 digits := by
  -- The lowest digit comes last, where reading multiplies all before it.
  induction digits with
  | nil => rfl
  | cons digit rest ih =>
    have here : digit < 256 := small digit List.mem_cons_self
    have later := ih fun other member => small other (List.mem_cons_of_mem _ member)
    have byte : (UInt8.ofNat digit).toNat = digit := by
      rw [UInt8.toNat_ofNat']
      omega
    rw [List.reverse_cons, List.map_append, List.map_singleton, bnBin2bn_append, later, byte,
      Nat.ofDigits_cons]
    omega

/-- The shortest form of a number reads as the number. -/
theorem bnBin2bn_bnBn2bin (bn : Nat) : bnBin2bn (bnBn2bin bn) = bn := by
  -- The bytes are the digits of the number.
  unfold bnBn2bin
  rw [bnBin2bn_digits fun digit member => Nat.digits_lt_base (by decide) member,
    Nat.ofDigits_digits]

/-- The first bytes of an exponent read as the exponent without its lower bytes. -/
theorem bnBin2bn_exponentBytes_range (exponent : UInt64) (count : Nat) (within : count ≤ 8) :
    bnBin2bn ((List.range count).map fun i =>
      (exponent >>> (UInt64.ofNat ((7 - i) * 8))).toUInt8) =
        exponent.toNat / 2 ^ ((8 - count) * 8) := by
  induction count with
  | zero => exact (Nat.div_eq_of_lt exponent.toNat_lt).symm
  | succ count ih =>
    -- The next byte is what is left after its shift, cut to its last eight bits.
    have byte : ((exponent >>> UInt64.ofNat ((7 - count) * 8)).toUInt8).toNat =
        exponent.toNat / 2 ^ ((7 - count) * 8) % 256 := by
      have shift : (UInt64.ofNat ((7 - count) * 8)).toNat % 64 = (7 - count) * 8 := by
        rw [UInt64.toNat_ofNat']
        omega
      rw [UInt64.toNat_toUInt8, UInt64.toNat_shiftRight, Nat.shiftRight_eq_div_pow, shift]
    have left : (8 - count) * 8 = (7 - count) * 8 + 8 := by omega
    have onward : (8 - (count + 1)) * 8 = (7 - count) * 8 := by omega
    rw [List.range_succ, List.map_append, List.map_singleton, bnBin2bn_append, ih (by omega), byte,
      left, onward, Nat.pow_add, ← Nat.div_div_eq_div_mul]
    exact Nat.div_add_mod' _ 256

/-- The eight bytes of an exponent read as the exponent. -/
theorem bnBin2bn_exponentBytes (exponent : UInt64) :
    bnBin2bn (exponentBytes exponent) = exponent.toNat := by
  -- With all eight bytes read, nothing is left out.
  have all := bnBin2bn_exponentBytes_range exponent 8 (Nat.le_refl 8)
  rwa [Nat.sub_self, Nat.zero_mul, Nat.pow_zero, Nat.div_one] at all

end Numbers

section Buffers

/-- The loop over the bytes of a public exponent, with the offset that runs down through them. -/
def writeExponent (publicExponent : UInt64) : Option (List UInt8 × UInt32) :=
  (List.range 8).foldlM (fun (bytes, offset) i =>
    -- A write beyond the array would be an error.
    if offset.toNat < bytes.length then
      some (bytes.set offset.toNat (publicExponent >>> UInt64.ofNat (i * 8)).toUInt8, offset - 1)
    else none) (List.replicate 8 0, 7)

/-- The loop stays inside the array, and the offset runs below zero only after the last write. -/
theorem writeExponent_eq (publicExponent : UInt64) :
    writeExponent publicExponent = some (exponentBytes publicExponent, 0 - 1) := by
  -- Eight rounds fill the array from its end.
  rfl

/-- An array of attributes that is being filled, and the next offset in it. -/
structure TemplateBuffer where
  slots : List (Option Attribute)
  templateOffset : Nat

/-- How filling a template ends: out of bounds, in a null pointer, or with the filled array. -/
inductive Filled where
  | outOfBounds
  | died
  | filled (buffer : TemplateBuffer)

/-- The numbers of attributes of a private key, without and with its extra parts. -/
def privAttribNormalNum : Nat := 4 + 2 + 3

def privAttribExtendedNum : Nat := privAttribNormalNum + 5

/-- `set_attribute` at the next offset, which has to be one of the array. -/
def TemplateBuffer.setAttribute (buffer : TemplateBuffer) (a : Attribute) : Filled :=
  if buffer.templateOffset < buffer.slots.length then
    .filled ⟨buffer.slots.set buffer.templateOffset (some a), buffer.templateOffset + 1⟩
  else .outOfBounds

/-- Filling goes on as long as it has not failed. -/
def Filled.andThen (filled : Filled) (next : TemplateBuffer → Filled) : Filled :=
  match filled with
  | .filled buffer => next buffer
  | failed => failed

/-- Attributes that are at hand are set one after the other. -/
def TemplateBuffer.setAll : TemplateBuffer → Template → Filled
  | buffer, [] => .filled buffer
  | buffer, a :: rest => (buffer.setAttribute a).andThen (·.setAll rest)

/-- Extra parts are converted and set one after the other. -/
def TemplateBuffer.setExtra (converts : AttributeType → Bool) :
    TemplateBuffer → List (AttributeType × Nat) → Filled
  | buffer, [] => .filled buffer
  | buffer, (type, bn) :: rest =>
    match bignumToArray converts type bn with
    -- A null array is dereferenced before it is compared with null.
    | none => .died
    | some bytes =>
      (buffer.setAttribute ⟨type, .bytes bytes⟩).andThen (·.setExtra converts rest)

/-- `privateKeyTemplate` of `tee_import_keypair`, from its allocation to `C_CreateObject`. -/
def fillPrivateKeyTemplate (rsa : Rsa) (converts : AttributeType → Bool) (objId : KeyId)
    (modulus publicExponent privateExponent : List UInt8) : Filled :=
  let capacity := if rsa.extraData.isSome then privAttribExtendedNum else privAttribNormalNum
  let buffer : TemplateBuffer := ⟨List.replicate capacity none, 0⟩
  (buffer.setAll
    (importedPrivateKeyTemplate objId modulus publicExponent privateExponent [])).andThen
    fun buffer => rsa.extraData.elim (.filled buffer) (buffer.setExtra converts)

/-- An array whose first entries are set, with room for more. -/
def bufferOf (done : Template) (room : Nat) : TemplateBuffer :=
  ⟨done.map some ++ List.replicate room none, done.length⟩

/-- An attribute that fits is set behind those that are there. -/
theorem setAttribute_bufferOf (done : Template) (room : Nat) (a : Attribute) :
    (bufferOf done (room + 1)).setAttribute a = .filled (bufferOf (done ++ [a]) room) := by
  have fits : done.length < (done.map some ++
      List.replicate (room + 1) (none : Option Attribute)).length := by
    simp
  have slots : (done.map some ++ List.replicate (room + 1) none).set done.length (some a) =
      (done ++ [a]).map some ++ List.replicate room none := by
    -- The offset is that of the first free entry.
    rw [List.set_append_right _ _ (by simp)]
    simp [List.replicate_succ]
  unfold TemplateBuffer.setAttribute bufferOf
  rw [if_pos fits, slots]
  simp

/-- Attributes that fit are all set. -/
theorem setAll_bufferOf (done : Template) (room : Nat) (template : Template) :
    (bufferOf done (template.length + room)).setAll template =
      .filled (bufferOf (done ++ template) room) := by
  -- The induction sets the first attribute and goes on with one more done.
  induction template generalizing done with
  | nil => simp [TemplateBuffer.setAll]
  | cons a rest ih =>
    have length : (a :: rest).length + room = rest.length + room + 1 := by
      rw [List.length_cons]
      omega
    rw [TemplateBuffer.setAll, length, setAttribute_bufferOf]
    show (bufferOf (done ++ [a]) (rest.length + room)).setAll rest = _
    rw [ih, List.append_assoc]
    rfl

/-- Extra parts that fit are all set, unless one of them cannot be converted. -/
theorem setExtra_bufferOf (converts : AttributeType → Bool) (done : Template)
    (numbers : List (AttributeType × Nat)) :
    (bufferOf done numbers.length).setExtra converts numbers =
      (convertAll converts numbers).elim .died fun extra =>
        .filled (bufferOf (done ++ extra) 0) := by
  -- The induction converts the first part and goes on with one more attribute done.
  induction numbers generalizing done with
  | nil => simp [TemplateBuffer.setExtra, convertAll]
  | cons number rest ih =>
    obtain ⟨type, bn⟩ := number
    unfold TemplateBuffer.setExtra convertAll
    cases bignumToArray converts type bn with
    | none => rfl
    | some bytes =>
      dsimp only
      rw [List.length_cons, setAttribute_bufferOf]
      show (bufferOf (done ++ [⟨type, .bytes bytes⟩]) rest.length).setExtra converts rest = _
      rw [ih]
      cases convertAll converts rest with
      | none => rfl
      | some extra => simp

/-- All five extra parts are there or none. -/
theorem extraData_length {rsa : Rsa} {numbers : List (AttributeType × Nat)}
    (data : rsa.extraData = some numbers) : numbers.length = 5 := by
  -- Each part has its type, and there are five types.
  have types := congrArg List.length (extraData_types data)
  rwa [List.length_map] at types

/-- The array is filled exactly, with the template that the private key is created from. -/
theorem fillPrivateKeyTemplate_eq (rsa : Rsa) (converts : AttributeType → Bool) (objId : KeyId)
    (modulus publicExponent privateExponent : List UInt8) :
    fillPrivateKeyTemplate rsa converts objId modulus publicExponent privateExponent =
      (rsa.extraData.elim (some []) (convertAll converts)).elim .died fun extra =>
        .filled (bufferOf (importedPrivateKeyTemplate objId modulus publicExponent
          privateExponent extra) 0) := by
  have normal : (importedPrivateKeyTemplate objId modulus publicExponent privateExponent
    []).length = privAttribNormalNum := rfl
  unfold fillPrivateKeyTemplate
  cases data : rsa.extraData with
  | none =>
    -- Nine entries are allocated, and nine are set.
    have filled := setAll_bufferOf [] 0 (importedPrivateKeyTemplate objId modulus publicExponent
      privateExponent [])
    rw [normal] at filled
    show Filled.andThen ((bufferOf [] privAttribNormalNum).setAll _) _ = _
    rw [show privAttribNormalNum = privAttribNormalNum + 0 from rfl, filled]
    rfl
  | some numbers =>
    -- Nine entries are set at first, and the other five one by one.
    have filled := setAll_bufferOf [] numbers.length (importedPrivateKeyTemplate objId modulus
      publicExponent privateExponent [])
    rw [normal, extraData_length data] at filled
    show Filled.andThen ((bufferOf [] (privAttribNormalNum + 5)).setAll _) _ = _
    rw [filled]
    show (bufferOf _ 5).setExtra converts numbers = _
    rw [← extraData_length data, setExtra_bufferOf]
    rfl

end Buffers

section Export

/-- A library that returns the attributes of an object unchanged. -/
structure Cryptoki.Reports (lib : Cryptoki τ) (view : τ → Token) : Prop where
  /-- Without memory for the values, the lengths that are stored may be too large. -/
  sizes : ∀ s session handle o attributes, session ∈ (view s).sessions →
    (view s).handles handle = some o →
    (∀ a ∈ attributes, a.2 = none ∧ ∃ value, o.attributes a.1 = some (.bytes value)) →
    let reply := (lib.call s (.getAttributeValue session handle attributes)).1
    reply.rv = ckrOk ∧ ∀ a ∈ attributes, ∀ value, o.attributes a.1 = some (.bytes value) →
      value.length ≤ (reply.answer a.1).length
  /-- With enough memory, the values are stored at its front, and the lengths are the true ones. -/
  values : ∀ s session handle o attributes, session ∈ (view s).sessions →
    (view s).handles handle = some o →
    (∀ a ∈ attributes, ∃ capacity value, a.2 = some capacity ∧
      o.attributes a.1 = some (.bytes value) ∧ value.length ≤ capacity) →
    let reply := (lib.call s (.getAttributeValue session handle attributes)).1
    reply.rv = ckrOk ∧ ∀ a ∈ attributes, ∀ value, o.attributes a.1 = some (.bytes value) →
      (reply.answer a.1).length = value.length ∧ value <+: (reply.answer a.1).bytes

variable {view : τ → Token} {lib : Cryptoki τ} {primary : Nat}

/-- What comes out at the front of a buffer is cut to its true length. -/
theorem take_of_answer {answer : AttributeAnswer} {value : List UInt8}
    (stored : answer.length = value.length ∧ value <+: answer.bytes) :
    answer.bytes.take answer.length = value := by
  -- The bytes that were stored are those at the front, as many as the length says.
  rw [stored.1]
  exact (List.prefix_iff_eq_take.mp stored.2).symm

/-- The two queries come to the numbers of the public key, whatever lengths the first reports. -/
theorem exportBody_ends (serves : lib.Serves view) (reports : lib.Reports view) {t : Token}
    (session : Nat) {one two : Nat} {pub priv : TokenObject} {modulus exponent : List UInt8}
    (member : session ∈ t.sessions)
    (freeToo : (t.openHandle one pub).FreeHandle two)
    (hasModulus : pub.attributes .modulus = some (.bytes modulus))
    (hasExponent : pub.attributes .publicExponent = some (.bytes exponent)) :
    Triple (At view ((t.openHandle one pub).openHandle two priv)) (do
      if true = false then
        return some .failed
      else
        let sizes ← call lib (.getAttributeValue session one
          [(.modulus, none), (.publicExponent, none)])
        if sizes.rv ≠ ckrOk then
          return some .failed
        else
          let values ← call lib (.getAttributeValue session one
            [(.modulus, some (sizes.answer .modulus).length),
              (.publicExponent, some (sizes.answer .publicExponent).length)])
          if values.rv ≠ ckrOk ∨ true = false then
            return some .failed
          else
            let modulus := values.answer .modulus
            let exponent := values.answer .publicExponent
            return some ⟨0, .x509 (bnBin2bn (modulus.bytes.take modulus.length))
              (bnBin2bn (exponent.bytes.take exponent.length))⟩)
      (Ends view (fun result _ =>
          result = some ⟨0, .x509 (bnBin2bn modulus) (bnBin2bn exponent)⟩)
        ((t.openHandle one pub).openHandle two priv)) := by
  -- Both queries are made on the session and the handle that the restoring has opened.
  intro tee at_
  have at_ : view tee.state = (t.openHandle one pub).openHandle two priv := at_
  have isOpen : ∀ s, view s = view tee.state → session ∈ (view s).sessions ∧
      (view s).handles one = some pub := by
    intro s same
    rw [same, at_]
    exact ⟨member, t.handles_pair freeToo⟩
  obtain ⟨there, known⟩ := isOpen _ rfl
  obtain ⟨ok, lengths⟩ := reports.sizes tee.state session one pub
    [(.modulus, none), (.publicExponent, none)] there known (by simp [hasModulus, hasExponent])
  have keeps := serves.getAttributeValue tee.state session one
    [(.modulus, none), (.publicExponent, none)]
  rw [if_neg (by decide), Prog.exec_bind, exec_call, Prog.exec_ite, if_neg (not_not_intro ok)]
  -- The second query has as much memory as the first one asked for.
  have roomModulus := lengths (.modulus, none) (by simp) modulus hasModulus
  have roomExponent := lengths (.publicExponent, none) (by simp) exponent hasExponent
  obtain ⟨there, known⟩ := isOpen _ keeps
  generalize lib.call tee.state (.getAttributeValue session one
    [(.modulus, none), (.publicExponent, none)]) = first at *
  obtain ⟨sizes, middle⟩ := first
  dsimp only at *
  have attributes : ∀ a ∈ [(AttributeType.modulus, some (sizes.answer .modulus).length),
      (.publicExponent, some (sizes.answer .publicExponent).length)], ∃ capacity value,
      a.2 = some capacity ∧ pub.attributes a.1 = some (.bytes value) ∧
        value.length ≤ capacity := by
    simp only [List.mem_cons, List.not_mem_nil, or_false, forall_eq_or_imp, forall_eq]
    exact ⟨⟨_, modulus, rfl, hasModulus, roomModulus⟩, _, exponent, rfl, hasExponent, roomExponent⟩
  obtain ⟨okToo, values⟩ := reports.values middle session one pub _ there known attributes
  have keepsToo := serves.getAttributeValue middle session one
    [(.modulus, some (sizes.answer .modulus).length),
      (.publicExponent, some (sizes.answer .publicExponent).length)]
  have isModulus := take_of_answer
    (values (.modulus, some (sizes.answer .modulus).length) (by simp) modulus hasModulus)
  have isExponent := take_of_answer
    (values (.publicExponent, some (sizes.answer .publicExponent).length) (by simp) exponent
      hasExponent)
  rw [Prog.exec_bind, exec_call, Prog.exec_ite,
    if_neg (not_or.mpr ⟨not_not_intro okToo, by simp⟩)]
  refine .unchanged ?_ ((keepsToo.trans keeps).trans at_)
  -- The blob goes out as the two values, cut to their lengths.
  show some (Result.mk 0 (.x509 (bnBin2bn _) (bnBin2bn _))) = _
  rw [isModulus, isExponent]

/-- The export of a key pair reads the two numbers of its public key. -/
theorem teeGetKeypairPublic_spec (serves : lib.Serves view) (reports : lib.Reports view)
    {t : Token} (primaryIn : primary ∈ t.sessions) {keyBlob : Option (List UInt8)}
    {modulus exponent : List UInt8} (found : ¬ Lost t.objects keyBlob)
    (only : ∀ {pub priv objId}, Pair t.objects keyBlob pub priv objId →
      pub.attributes .modulus = some (.bytes modulus) ∧
        pub.attributes .publicExponent = some (.bytes exponent)) :
    Triple (At view t) (teeGetKeypairPublic lib primary keyBlob true true) fun result _ =>
      result = some ⟨0, .x509 (bnBin2bn modulus) (bnBin2bn exponent)⟩ := by
  have ends : Triple (At view t) (teeGetKeypairPublic lib primary keyBlob true true)
      (Ends view (fun result _ =>
        result = some ⟨0, .x509 (bnBin2bn modulus) (bnBin2bn exponent)⟩) t) := by
    -- The pair that is restored is one of those whose numbers are known.
    refine withCryptoSession_spec serves primaryIn fun session _ idle => ?_
    refine withKeypair_spec serves (t := t.openSession session) List.mem_cons_self idle
      (List.mem_cons_of_mem _ primaryIn) (fun lost => absurd lost found) ?_
    intro pub priv objId one two pair free freeToo tee at_
    exact exportBody_ends serves reports session List.mem_cons_self freeToo
      (only pair).1 (only pair).2 tee at_
  intro tee at_
  obtain ⟨_, same, _⟩ := ends tee at_
    (returns_prog (.getKeypairPublic keyBlob true true) rfl tee)
  exact same

end Export

section History

/-- The public key that every library exports for a blob. -/
def Exports (view : τ → Token) (primary : Nat) (tee : Tee τ) (blob : List UInt8) (n e : Nat) :
    Prop :=
  ∀ reader : Cryptoki τ, reader.Serves view → reader.Reports view →
    ((teeGetKeypairPublic reader primary (some blob) true true).exec tee).1 =
      some ⟨0, .x509 n e⟩

/--
An operation returned a blob, and what came later did not delete it.

All of it runs on libraries that serve every valid call, with IDs that do not repeat. And nothing
is deleted by a blob in use with further bytes behind it, which would delete the pair of the
shorter one.
-/
structure History (view : τ → Token) (primary : Nat) (tee : Tee τ) (lib : Cryptoki τ) (op : Op)
    (blob : List UInt8) (rest : List (Cryptoki τ × Op)) (final : Tee τ × List Entry) : Prop where
  opened : primary ∈ (view tee.state).sessions
  /-- Before the operation no two objects of the token are the same one. -/
  apart : ((view tee.state).objects.map TokenObject.serial).Nodup
  served : Along (tracked view primary) (Served view) (tee, []) ((lib, op) :: rest)
  /-- The check that `keyblob_restore` makes of the length lets longer blobs through. -/
  exact_ : Along (tracked view primary) Exact (tee, []) ((lib, op) :: rest)
  ran : run (tracked view primary) (tee, []) ((lib, op) :: rest) = some final
  returned : ((op.prog lib primary).exec tee).1 = some ⟨0, .keyBlob blob⟩
  undeleted : ∀ act ∈ rest, act.2 ≠ .deleteKeypair (some blob)

variable {view : τ → Token} {primary : Nat}

/-- What is known of a blob stays known until the blob is deleted. -/
theorem mem_of_tracked {s next : Tee τ × List Entry} {act : Cryptoki τ × Op} {e : Entry}
    (member : e ∈ s.2) (undeleted : act.2 ≠ .deleteKeypair (some e.blob))
    (stepped : tracked view primary s act = some next) : e ∈ next.2 := by
  unfold tracked at stepped
  generalize (act.2.prog act.1 primary).exec s.1 = ended at stepped
  obtain ⟨result, after⟩ := ended
  obtain ⟨result, rfl, rfl⟩ := Option.map_eq_some_iff.mp stepped
  dsimp only
  -- The record marks entries of the blob of a deletion only, and drops none.
  unfold record
  split
  · rename_i blob _ isDelete
    refine List.mem_map.mpr ⟨e, member, if_neg ?_⟩
    rintro rfl
    exact undeleted isDelete
  · exact List.mem_cons_of_mem _ member
  · exact member

/-- An entry nobody deletes stays in the books for the whole run. -/
theorem mem_of_run {s final : Tee τ × List Entry} {acts : List (Cryptoki τ × Op)} {e : Entry}
    (member : e ∈ s.2) (undeleted : ∀ act ∈ acts, act.2 ≠ .deleteKeypair (some e.blob))
    (ran : run (tracked view primary) s acts = some final) : e ∈ final.2 := by
  -- The induction follows the run, and the blob is not deleted on the way.
  induction acts generalizing s with
  | nil => exact Option.some.inj ran ▸ member
  | cons act rest ih =>
    obtain ⟨next, stepped, ran⟩ := run_cons.mp ran
    have still := mem_of_tracked member (undeleted act List.mem_cons_self) stepped
    exact ih still (fun other there => undeleted other (List.mem_cons_of_mem _ there)) ran

/-- An operation that returns a blob has made its public key from its template. -/
theorem entry_of_returned {s next : Tee τ × List Entry} {act : Cryptoki τ × Op}
    {blob : List UInt8} (serves : act.1.Serves view) (opened : primary ∈ (view s.1.state).sessions)
    (stepped : tracked view primary s act = some next)
    (returned : ((act.2.prog act.1 primary).exec s.1).1 = some ⟨0, .keyBlob blob⟩) :
    (∃ objId, act.2.objId = some objId) ∧
      ∃ pub priv, ⟨blob, [priv, pub], true⟩ ∈ next.2 ∧
        pub.hasAll act.2.publicKeyTemplate = true := by
  obtain ⟨result, objects, ran, effect, _, entries⟩ := tracked_cases serves opened stepped
  obtain rfl := Option.some.inj (ran.symm.trans returned)
  obtain ⟨lib, op⟩ := act
  dsimp only at effect entries ⊢
  generalize isResult : some (Result.mk 0 (.keyBlob blob)) = result at effect
  -- Only the making of a key pair returns a blob.
  cases effect with
  | rejected _ => cases isResult
  | @made _ objId _ _ names made =>
    cases made with
    | @pair pub priv new hasAll =>
      have same : keyblobSave objId = blob := by
        simp only [Option.some.injEq, Result.mk.injEq, Output.keyBlob.injEq, true_and] at isResult
        exact isResult.symm
      refine ⟨⟨objId, names⟩, pub, priv, ?_, hasAll⟩
      rw [entries, record_made names, created_of_newPair new]
      exact List.mem_cons_self
    | half _ _ => cases isResult
  | unrestored _ _ => cases isResult
  | used _ _ _ blobless => exact absurd isResult.symm (blobless blob 0)
  | deleted _ => cases isResult

/-- A blob in use exports the numbers of the public key created with it. -/
theorem Kept.exports {s : Tee τ × List Entry} (kept : Kept view primary s)
    {blob modulus exponent : List UInt8} {pub priv : TokenObject}
    (member : ⟨blob, [priv, pub], true⟩ ∈ s.2)
    (hasModulus : pub.attributes .modulus = some (.bytes modulus))
    (hasExponent : pub.attributes .publicExponent = some (.bytes exponent)) :
    Exports view primary s.1 blob (bnBin2bn modulus) (bnBin2bn exponent) := by
  intro reader serves reports
  -- The entry stands for a pair, which the search of the export finds.
  obtain ⟨objId, saved, stands⟩ := kept.known _ member
  obtain ⟨one, two, _, pair⟩ := stands.pair [] rfl saved
  rw [List.append_nil] at pair
  refine teeGetKeypairPublic_spec serves reports kept.opened (fun lost => lost _ _ _ pair) ?_
    s.1 rfl
  -- Whatever the search comes to is the pair that was created with the blob.
  intro pub' priv' other found
  obtain rfl := Option.some.inj (pair.good.symm.trans found.good)
  have same := (stands.own found).2.1
  simp only [List.cons.injEq, and_true] at same
  obtain ⟨rfl, rfl⟩ := same
  exact ⟨hasModulus, hasExponent⟩

/-- An attribute of a template is one of the objects made from it. -/
theorem TokenObject.attribute_of_hasAll {o : TokenObject} {template : Template}
    (has : o.hasAll template = true) {a : Attribute} (member : a ∈ template) :
    o.attributes a.type = some a.value := by
  simpa using List.all_eq_true.mp has a member

/-- The public key that was created with a blob has a modulus. -/
def HasModulus (entries : List Entry) (blob modulus : List UInt8) : Prop :=
  ∀ pub priv, ⟨blob, [priv, pub], true⟩ ∈ entries →
    pub.attributes .modulus = some (.bytes modulus)

/--
The numbers of a public key survive from its import or generation to its export.

Import and generation also stay inside their arrays, and pass on exactly what they wrote.
-/
theorem publicKey_roundTrip {tee : Tee τ} {lib : Cryptoki τ} {op : Op} {blob : List UInt8}
    {rest : List (Cryptoki τ × Op)} {final : Tee τ × List Entry}
    (history : History view primary tee lib op blob rest final) :
    (∀ rsa converts objId, op = .importKeypair (some (.rsa rsa)) converts objId →
      Exports view primary final.1 blob rsa.n rsa.e) ∧
    (∀ type params objId, op = .generateKeypair type (some params) objId →
      writeExponent params.publicExponent = some (exponentBytes params.publicExponent, 0 - 1) ∧
      ∀ modulus, HasModulus final.2 blob modulus →
        Exports view primary final.1 blob (bnBin2bn modulus) params.publicExponent.toNat) ∧
    ∀ rsa converts objId modulus publicExponent privateExponent,
      fillPrivateKeyTemplate rsa converts objId modulus publicExponent privateExponent =
        (rsa.extraData.elim (some []) (convertAll converts)).elim .died fun extra =>
          .filled (bufferOf (importedPrivateKeyTemplate objId modulus publicExponent
            privateExponent extra) 0) := by
  -- The record starts out empty, and every step keeps what is known of its blobs.
  have start : Kept view primary (tee, []) :=
    ⟨history.opened, history.apart, fun _ member => nomatch member⟩
  have kept : Kept view primary final :=
    run_invariant (fun _ _ _ kept both stepped => kept_step kept both.1 both.2 stepped) start
      (history.served.and history.exact_) history.ran
  obtain ⟨next, stepped, ran⟩ := run_cons.mp history.ran
  obtain ⟨⟨_, names⟩, pub, priv, member, hasAll⟩ :=
    entry_of_returned history.served.1.1 history.opened stepped history.returned
  have member := mem_of_run member history.undeleted ran
  refine ⟨?_, ?_, fun _ _ _ _ _ _ => fillPrivateKeyTemplate_eq ..⟩
  · -- An imported key has the shortest forms of its numbers.
    rintro rsa converts objId rfl
    cases objId with
    | none => cases names
    | some objId =>
      have exports := kept.exports member
        (TokenObject.attribute_of_hasAll hasAll (a := ⟨.modulus, .bytes (bnBn2bin rsa.n)⟩)
          (by simp [Op.publicKeyTemplate, importedPublicKeyTemplate]))
        (TokenObject.attribute_of_hasAll hasAll (a := ⟨.publicExponent, .bytes (bnBn2bin rsa.e)⟩)
          (by simp [Op.publicKeyTemplate, importedPublicKeyTemplate]))
      rwa [bnBin2bn_bnBn2bin, bnBin2bn_bnBn2bin] at exports
  · -- A generated key has the eight bytes of its exponent.
    rintro type params objId rfl
    refine ⟨writeExponent_eq _, fun modulus hasModulus => ?_⟩
    cases objId with
    | none => cases names
    | some objId =>
      have exports := kept.exports member (hasModulus pub priv member)
        (TokenObject.attribute_of_hasAll hasAll
          (a := ⟨.publicExponent, .bytes (exponentBytes params.publicExponent)⟩)
          (by simp [Op.publicKeyTemplate, generatedPublicKeyTemplate]))
      rwa [bnBin2bn_exponentBytes] at exports

end History

/-- The soft token reports its attributes with their true lengths. -/
theorem softToken_reports : (softToken none).Reports SoftToken.view where
  sizes := by
    intro t session handle o attributes member known stored
    -- A session exists only while the token is initialized.
    obtain ⟨ready, view⟩ := SoftToken.initialized_of_session member
    rw [view] at known
    rw [softToken_initialized ready]
    refine ⟨rfl, fun a _ value isValue => ?_⟩
    simp [SoftToken.serve, known, isValue]
  values := by
    intro t session handle o attributes member known stored
    obtain ⟨ready, view⟩ := SoftToken.initialized_of_session member
    rw [view] at known
    rw [softToken_initialized ready]
    refine ⟨rfl, fun a _ value isValue => ?_⟩
    simp [SoftToken.serve, known, isValue]

/-- A key is imported for some ID. -/
def imports : Op :=
  .importKeypair (some (.rsa smallRsa)) (fun _ => true) (some (Vector.replicate idLength 7))

/-- The smallest public key comes back from its blob. -/
theorem publicKey_roundTrip_small :
    ∃ final, ((teeGetKeypairPublic (softToken none) 1 (some generatedBlob) true true).exec
      final).1 = some ⟨0, .x509 3233 17⟩ := by
  -- The import runs through, so there is a state to export from.
  have returns : (run (tracked SoftToken.view 1) (softOpened, [])
      [(softToken none, imports)]).isSome := by decide +kernel
  obtain ⟨final, ran⟩ := Option.isSome_iff_exists.mp returns
  have first : NewId SoftToken.view (softOpened, []) (softToken none, imports) :=
    fun _ _ => ⟨fun _ member => (nomatch member), fun _ member => (nomatch member)⟩
  have history : History SoftToken.view 1 softOpened (softToken none) imports generatedBlob []
      final :=
    ⟨by decide, by decide, ⟨⟨softToken_serves, first⟩, fun _ _ => trivial⟩,
      ⟨fun _ deletes => (nomatch deletes), fun _ _ => trivial⟩, ran, by decide +kernel,
      fun _ member => (nomatch member)⟩
  exact ⟨final.1, (publicKey_roundTrip history).1 smallRsa _ _ rfl (softToken none)
    softToken_serves softToken_reports⟩

end Grouper.Keymaster
