import Mathlib.Tactic.NormNum.Prime
import Grouper.Keymaster.RoundTrip
import Grouper.Lib.Exponents

/-! What is signed with an imported key is verified with it, and nothing else is. -/

namespace Grouper.Keymaster

open Prog (Triple)

variable {τ : Type}

section Raw

/-- How many bytes a number has. -/
def byteLength (n : Nat) : Nat := (bnBn2bin n).length

/-- A number in some bytes, with zeros in front. -/
def padded (length bn : Nat) : List UInt8 :=
  List.replicate (length - byteLength bn) 0 ++ bnBn2bin bn

/-- The number an attribute of an object stands for. -/
def TokenObject.number (o : TokenObject) (type : AttributeType) : Option Nat :=
  match o.attributes type with
  | some (.bytes bytes) => some (bnBin2bn bytes)
  | _ => none

/-- Bytes that stand for a remainder of the modulus, and are no longer than it. -/
def Fits (n : Nat) (data : List UInt8) : Prop :=
  data.length ≤ byteLength n ∧ bnBin2bn data < n

instance (n : Nat) (data : List UInt8) : Decidable (Fits n data) :=
  inferInstanceAs (Decidable (_ ∧ _))

/-- The mechanism `CKM_RSA_X_509` of a private key: the bare power. -/
def TokenObject.rawSign (o : TokenObject) (data : List UInt8) : Option (List UInt8) := do
  let n ← o.number .modulus
  let d ← o.number .privateExponent
  if Fits n data then some (padded (byteLength n) (bnBin2bn data ^ d % n)) else none

/-- The mechanism of a public key: the power of the signature is the data. -/
def TokenObject.rawVerifies (o : TokenObject) (data signature : List UInt8) : Bool :=
  match o.number .modulus, o.number .publicExponent with
  | some n, some e =>
    Fits n data ∧ signature.length = byteLength n ∧ Fits n signature ∧
      bnBin2bn signature ^ e % n = bnBin2bn data
  | _, _ => false

/-- Zeros in front of a number count for nothing. -/
theorem bnBin2bn_zeros (zeros : Nat) (bytes : List UInt8) :
    bnBin2bn (List.replicate zeros 0 ++ bytes) = bnBin2bn bytes := by
  -- Each zero in front multiplies nothing.
  induction zeros with
  | zero => rfl
  | succ zeros ih =>
    rw [← ih]
    simp [bnBin2bn, List.replicate_succ]

/-- Padding does not change the number. -/
@[simp] theorem bnBin2bn_padded (length bn : Nat) : bnBin2bn (padded length bn) = bn := by
  rw [padded, bnBin2bn_zeros, bnBin2bn_bnBn2bin]

/-- A smaller number has no more bytes. -/
theorem byteLength_le {small large : Nat} (le : small ≤ large) :
    byteLength small ≤ byteLength large := by
  simpa [byteLength, bnBn2bin] using Nat.le_length_digits_le 256 small large le

/-- A number that has room is padded to the full length. -/
theorem length_padded {length bn : Nat} (room : byteLength bn ≤ length) :
    (padded length bn).length = length := by
  -- The zeros make up for what the number leaves.
  unfold padded
  rw [List.length_append, List.length_replicate]
  unfold byteLength at *
  omega

/-- A remainder is written in the bytes of its modulus. -/
theorem fits_padded {n bn : Nat} (small : bn < n) : Fits n (padded (byteLength n) bn) := by
  -- The number is below the modulus, so it is as long at most.
  constructor
  · exact (length_padded (byteLength_le small.le)).le
  · simpa using small

/-- As many bytes that stand for the same number are the same bytes. -/
theorem bnBin2bn_injective {one two : List UInt8} (length : one.length = two.length)
    (same : bnBin2bn one = bnBin2bn two) : one = two := by
  -- The induction takes the last bytes off, which are the remainders of the numbers.
  induction one using List.reverseRecOn generalizing two with
  | nil => exact (List.length_eq_zero_iff.mp length.symm).symm
  | append_singleton one byte ih =>
    have filled : two ≠ [] := by
      rintro rfl
      simp at length
    obtain ⟨two, last, rfl⟩ := two.eq_nil_or_concat.resolve_left filled
    rw [List.concat_eq_append] at length same ⊢
    rw [bnBin2bn_append, bnBin2bn_append] at same
    have small := byte.toNat_lt
    have smallToo := last.toNat_lt
    have front : one = two := ih (by simpa using length) (by omega)
    have back : byte = last := UInt8.toNat_inj.mp (by omega)
    rw [front, back]

/-- What a private key signs a number as is what its public key takes back to the number. -/
theorem rawVerifies_iff {pub priv : TokenObject} {n d e : Nat} (undoes : Undoes n d e)
    (undoesToo : Undoes n e d) (pubModulus : pub.number .modulus = some n)
    (exponent : pub.number .publicExponent = some e) (privModulus : priv.number .modulus = some n)
    (secret : priv.number .privateExponent = some d) (data signature : List UInt8) :
    pub.rawVerifies data signature = true ↔ priv.rawSign data = some signature := by
  by_cases fits : Fits n data
  · have verifies : pub.rawVerifies data signature = true ↔ signature.length = byteLength n ∧
        Fits n signature ∧ bnBin2bn signature ^ e % n = bnBin2bn data := by
      simp [TokenObject.rawVerifies, pubModulus, exponent, fits]
    have signs : priv.rawSign data = some signature ↔
        padded (byteLength n) (bnBin2bn data ^ d % n) = signature := by
      simp [TokenObject.rawSign, privModulus, secret, fits]
    rw [verifies, signs]
    have small : bnBin2bn data ^ d % n < n := Nat.mod_lt _ (by have := fits.2; omega)
    constructor
    · intro ⟨length, within, power⟩
      -- The other exponent takes the number of the data to that of the signature.
      have back := undoesToo (bnBin2bn signature) within.2
      rw [power] at back
      refine bnBin2bn_injective ?_ ?_
      · rw [length_padded (byteLength_le small.le), length]
      · rw [bnBin2bn_padded, back]
    · intro same
      subst same
      have back := undoes (bnBin2bn data) fits.2
      exact ⟨length_padded (byteLength_le small.le), fits_padded small, by rwa [bnBin2bn_padded]⟩
  · simp [TokenObject.rawVerifies, TokenObject.rawSign, pubModulus, exponent, privModulus, secret,
      fits]

end Raw

section Library

/-- What a private key must say of itself for the library to sign with it. -/
def signingKey : Template :=
  [⟨.objectClass, .ulong ckoPrivateKey⟩, ⟨.keyType, .ulong ckkRsa⟩, ⟨.sign, .bool true⟩]

/-- What a public key must say of itself for the library to verify with it. -/
def verifyingKey : Template :=
  [⟨.objectClass, .ulong ckoPublicKey⟩, ⟨.keyType, .ulong ckkRsa⟩, ⟨.verify, .bool true⟩]

/-- The three calls of a search. -/
def Request.finds : Request → Bool
  | findObjectsInit _ _ | findObjects _ _ | findObjectsFinal _ => true
  | _ => false

/--
A library that signs and verifies by the bare power.

The two functions tell which key a session is about to sign or to verify with, if any.
-/
structure Cryptoki.SignsRaw (lib : Cryptoki τ) (view : τ → Token)
    (signing verifying : τ → Nat → Option TokenObject) : Prop where
  openSession : ∀ s primary, primary ∈ (view s).sessions →
    let (reply, after) := lib.call s (.openSession (some primary))
    signing after reply.answer = none ∧ verifying after reply.answer = none
  finds : ∀ s request session, request.finds = true →
    signing (lib.call s request).2 session = signing s session ∧
      verifying (lib.call s request).2 session = verifying s session
  signInit : ∀ s session key o, session ∈ (view s).sessions → signing s session = none →
    (view s).handles key = some o → o.hasAll signingKey = true →
    let (reply, after) := lib.call s (.signInit session ckmRsaX509 key)
    reply.rv = ckrOk ∧ signing after session = some o
  sign : ∀ s session data capacity o signature, session ∈ (view s).sessions →
    signing s session = some o → o.rawSign data = some signature →
    signature.length ≤ capacity →
    let reply := (lib.call s (.sign session data capacity)).1
    reply.rv = ckrOk ∧ reply.answer = signature
  /-- Data that is no remainder of the modulus is refused. -/
  refuses : ∀ s session data capacity o, session ∈ (view s).sessions →
    signing s session = some o → o.rawSign data = none →
    (lib.call s (.sign session data capacity)).1.rv ≠ ckrOk
  verifyInit : ∀ s session key o, session ∈ (view s).sessions → verifying s session = none →
    (view s).handles key = some o → o.hasAll verifyingKey = true →
    let (reply, after) := lib.call s (.verifyInit session ckmRsaX509 key)
    reply.rv = ckrOk ∧ verifying after session = some o
  verify : ∀ s session data signature o, session ∈ (view s).sessions →
    verifying s session = some o →
    ((lib.call s (.verify session data signature)).1.rv = ckrOk ↔
      o.rawVerifies data signature = true)

variable {view : τ → Token} {lib : Cryptoki τ} {primary : Nat}
  {signing verifying : τ → Nat → Option TokenObject}

/-- A session that is about neither to sign nor to verify. -/
def IdleIn (signing verifying : τ → Nat → Option TokenObject) (session : Nat) (tee : Tee τ) :
    Prop :=
  signing tee.state session = none ∧ verifying tee.state session = none

section Restoring

variable (raw : lib.SignsRaw view signing verifying) {session : Nat}

include raw

/-- Searching does not touch what the sessions sign or verify. -/
theorem idleIn_call {request : Request} (finds : request.finds = true) :
    Triple (IdleIn signing verifying session) (call lib request)
      fun _ => IdleIn signing verifying session := by
  -- The library keeps both under a request that belongs to a search.
  intro tee idle
  obtain ⟨one, two⟩ := raw.finds tee.state request session finds
  exact ⟨one.trans idle.1, two.trans idle.2⟩

/-- So a whole search leaves a session idle. -/
theorem idleIn_findSingleObject (objId : List UInt8) (objClass : Nat) :
    Triple (IdleIn signing verifying session) (findSingleObject lib session objId objClass)
      fun _ => IdleIn signing verifying session := by
  -- The three calls one after the other.
  refine .bind (idleIn_call raw rfl) fun init => ?_
  refine .ite (fun _ => .pure fun _ => id) fun _ => ?_
  refine .bind (idleIn_call raw rfl) fun found => ?_
  refine .bind (idleIn_call raw rfl) fun _ => ?_
  exact .ite (fun _ => .pure fun _ => id) fun _ => .pure fun _ => id

/-- Searching for a key pair does not begin to sign or to verify. -/
theorem idleIn_keyblobRestore (keyBlob : Option (List UInt8)) :
    Triple (IdleIn signing verifying session) (keyblobRestore lib session keyBlob)
      fun _ => IdleIn signing verifying session := by
  -- A blob is restored by two searches at most.
  unfold keyblobRestore
  cases blobId keyBlob with
  | none => exact .pure fun _ => id
  | some objId =>
    refine .bind (idleIn_findSingleObject raw objId _) fun found => ?_
    cases found with
    | none => exact .pure fun _ => id
    | some publicKey =>
      refine .bind (idleIn_findSingleObject raw objId _) fun found => ?_
      cases found with
      | none => exact .pure fun _ => id
      | some privateKey => exact .pure fun _ => id

end Restoring

/-- A key pair that is found is used in a session that has done nothing else. -/
theorem result_onKeypair (serves : lib.Serves view) (raw : lib.SignsRaw view signing verifying)
    {tee : Tee τ} (opened : primary ∈ (view tee.state).sessions) {keyBlob : Option (List UInt8)}
    (found : ¬ Lost (view tee.state).objects keyBlob)
    {body : Nat → Nat → Nat → KeymasterM τ (Option Result)} {expected : Option Result}
    (ends : ∀ session one two pub priv objId middle,
      Pair (view tee.state).objects keyBlob pub priv objId →
      session ∈ (view middle.state).sessions → (view middle.state).handles one = some pub →
      (view middle.state).handles two = some priv → IdleIn signing verifying session middle →
      ((body session one two).exec middle).1 = expected) :
    ((withCryptoSession lib primary fun session =>
      withKeypair lib session primary keyBlob (body session)).exec tee).1 = expected := by
  obtain ⟨valid, searching, at_⟩ := openCryptoSession_spec serves opened tee rfl
  have idle : IdleIn signing verifying ((openCryptoSession lib primary).exec tee).1
      ((openCryptoSession lib primary).exec tee).2 := by
    obtain ⟨ok, isValid, _⟩ := serves.openSession tee.state primary opened
    have quiet := raw.openSession tee.state primary opened
    unfold openCryptoSession
    rw [Prog.exec_bind, exec_call, Prog.exec_ite, if_neg (by simp only [ok, isValid]; simp)]
    exact quiet
  unfold withCryptoSession
  rw [Prog.exec_bind, Prog.exec_bind, Prog.exec_bind, Prog.exec_pure]
  generalize (openCryptoSession lib primary).exec tee = started at *
  obtain ⟨session, started⟩ := started
  dsimp only at *
  -- The search leaves the session as it was but for the handles it opens.
  have restored := keyblobRestore_spec serves (t := (view tee.state).openSession session)
    List.mem_cons_self searching keyBlob started at_
  have still := idleIn_keyblobRestore raw keyBlob started idle
  unfold withKeypair withObjectHandle
  simp only [Prog.exec_bind, Prog.exec_pure]
  generalize (keyblobRestore lib session keyBlob).exec started = restoration at *
  obtain ⟨restored', middle⟩ := restoration
  obtain ⟨after, outcome, at_⟩ := restored
  have at_ : view middle.state = after := at_
  cases outcome with
  | rejected bad => exact absurd (lost_of_rejected bad) found
  | noPublicKey good none_ => exact absurd (lost_of_noPublicKey good none_) found
  | noPrivateKey good free none_ => exact absurd (lost_of_noPrivateKey good none_) found
  | pair good pubIn privIn pubHas privHas free freeToo =>
    rw [Prog.exec_ite, if_neg (by simp)]
    refine ends session _ _ _ _ _ middle ⟨good, pubIn, privIn, pubHas, privHas⟩ ?_ ?_ ?_ still
    · rw [at_]
      exact List.mem_cons_self
    · rw [at_]
      exact Token.handles_pair _ freeToo
    · rw [at_]
      exact Function.update_self ..

/-- The only key pair of a blob decides what a signature is. -/
theorem teeSignData_result (serves : lib.Serves view) (raw : lib.SignsRaw view signing verifying)
    {tee : Tee τ} (opened : primary ∈ (view tee.state).sessions) {keyBlob : Option (List UInt8)}
    (found : ¬ Lost (view tee.state).objects keyBlob) {key : TokenObject}
    (only : ∀ {pub priv objId}, Pair (view tee.state).objects keyBlob pub priv objId → priv = key)
    (signs : key.hasAll signingKey = true) {params : RsaSignParams} (plain : params.raw = true)
    (data : List UInt8)
    (room : ∀ signature, key.rawSign data = some signature → signature.length ≤ signatureCapacity) :
    ((teeSignData lib primary (some params) keyBlob data).exec tee).1 =
      (key.rawSign data).elim (some .failed) fun signature => some ⟨0, .signature signature⟩ := by
  refine result_onKeypair serves raw opened found ?_
  intro session one two pub priv objId middle pair member _ isOpen idle
  obtain rfl := only pair
  obtain ⟨ok, ready⟩ := raw.signInit middle.state session two priv member idle.1 isOpen signs
  have keeps := serves.signInit middle.state session ckmRsaX509 two
  rw [if_neg (by simp [plain]), Prog.exec_bind, exec_call, Prog.exec_ite,
    if_neg (not_not_intro ok)]
  have ready : signing (lib.call middle.state (.signInit session ckmRsaX509 two)).2 session =
    some priv := ready
  generalize lib.call middle.state (.signInit session ckmRsaX509 two) = begun at *
  obtain ⟨_, begun⟩ := begun
  have there : session ∈ (view begun).sessions := by rwa [keeps]
  rw [Prog.exec_bind, exec_call, Prog.exec_ite, Prog.exec_pure, Prog.exec_pure]
  -- The library refuses what the key cannot sign.
  cases power : priv.rawSign data with
  | none =>
    rw [if_pos (raw.refuses begun session data signatureCapacity priv there ready power)]
    rfl
  | some signature =>
    obtain ⟨okToo, answer⟩ := raw.sign begun session data signatureCapacity priv signature there
      ready power (room signature power)
    rw [if_neg (not_not_intro okToo)]
    exact congrArg (fun bytes => some (Result.mk 0 (.signature bytes))) answer

/-- Verification tells whether the public key of the blob accepts the signature. -/
theorem teeVerifyData_result (serves : lib.Serves view)
    (raw : lib.SignsRaw view signing verifying) {tee : Tee τ}
    (opened : primary ∈ (view tee.state).sessions) {keyBlob : Option (List UInt8)}
    (found : ¬ Lost (view tee.state).objects keyBlob) {key : TokenObject}
    (only : ∀ {pub priv objId}, Pair (view tee.state).objects keyBlob pub priv objId → pub = key)
    (verifies : key.hasAll verifyingKey = true) {params : RsaSignParams}
    (plain : params.raw = true) (data signature : List UInt8) :
    ((teeVerifyData lib primary (some params) keyBlob data signature).exec tee).1 =
      if key.rawVerifies data signature = true then some ⟨0, .none⟩ else some .failed := by
  -- The session is idle when the keys are there, so it starts to verify with the public one.
  refine result_onKeypair serves raw opened found ?_
  intro session one two pub priv objId middle pair member isOpen _ idle
  obtain rfl := only pair
  obtain ⟨ok, ready⟩ := raw.verifyInit middle.state session one pub member idle.2 isOpen verifies
  have keeps := serves.verifyInit middle.state session ckmRsaX509 one
  rw [if_neg (by simp [plain]), Prog.exec_bind, exec_call, Prog.exec_ite,
    if_neg (not_not_intro ok)]
  have ready : verifying (lib.call middle.state (.verifyInit session ckmRsaX509 one)).2 session =
    some pub := ready
  generalize lib.call middle.state (.verifyInit session ckmRsaX509 one) = begun at *
  obtain ⟨_, begun⟩ := begun
  have verified := raw.verify begun session data signature pub (by rwa [keeps]) ready
  rw [Prog.exec_bind, exec_call, Prog.exec_ite, Prog.exec_pure, Prog.exec_pure]
  by_cases accepts : pub.rawVerifies data signature = true
  · rw [if_neg (not_not_intro (verified.mpr accepts)), if_pos accepts]
  · rw [if_pos (fun yes => accepts (verified.mp yes)), if_neg accepts]

end Library

section Import

variable {view : τ → Token} {lib : Cryptoki τ} {primary : Nat}

/-- What an import that returns a blob has added: two keys with all that the given key has. -/
def AddsKeys (objects : List TokenObject) (rsa : Rsa) (objId : KeyId) (result : Option Result)
    (after : List TokenObject) : Prop :=
  ∀ blob, result = some ⟨0, .keyBlob blob⟩ → ∃ pub priv extra,
    NewPair objects objId pub priv ∧ after = priv :: pub :: objects ∧
      pub.hasAll (importedPublicKeyTemplate objId (bnBn2bin rsa.n) (bnBn2bin rsa.e)) = true ∧
      priv.hasAll (importedPrivateKeyTemplate objId (bnBn2bin rsa.n) (bnBn2bin rsa.e)
        (bnBn2bin rsa.d) extra) = true

variable (serves : lib.Serves view) {t : Token} {session : Nat}

include serves

/-- What is imported behind a public key is a private one with the numbers of the source. -/
theorem importPrivateKey_adds {objects : List TokenObject} {pub : TokenObject}
    (member : session ∈ t.sessions) (primaryIn : primary ∈ t.sessions)
    (holds : t.objects = pub :: objects) (rsa : Rsa) (converts : AttributeType → Bool)
    (objId : KeyId) (hasAll : pub.hasAll
      (importedPublicKeyTemplate objId (bnBn2bin rsa.n) (bnBn2bin rsa.e)) = true)
    (pubNew : ∀ o ∈ objects, o.serial ≠ pub.serial) :
    Triple (At view t)
      (importPrivateKey lib primary session rsa converts objId (bnBn2bin rsa.n) (bnBn2bin rsa.e))
      (Ends view (AddsKeys objects rsa objId) t) := by
  have failed : ∀ after, AddsKeys objects rsa objId (some .failed) after :=
    fun after blob isBlob => by cases isBlob
  unfold importPrivateKey bignumToArray
  cases converts .privateExponent with
  | false => exact .pure fun _ at_ => .unchanged (failed _) at_
  | true =>
    rw [if_pos rfl]
    dsimp only
    cases converted : rsa.extraData.elim (some []) (convertAll converts) with
    -- A part that cannot be converted ends the process, and nothing is returned.
    | none => exact .pure fun _ _ returned => by cases returned
    | some extra =>
      rintro tee rfl
      obtain ⟨ok, priv, privHas, privNew, free, after⟩ := serves.createObject tee.state session
        (importedPrivateKeyTemplate objId (bnBn2bin rsa.n) (bnBn2bin rsa.e) (bnBn2bin rsa.d) extra)
        member (proper_importedPrivateKeyTemplate objId _ _ _ converted)
      have new : NewPair objects objId pub priv := by
        refine ⟨TokenObject.hasKey hasAll ?_ ?_, TokenObject.hasKey privHas ?_ ?_, pubNew,
          holds ▸ privNew⟩
        all_goals simp [importedPublicKeyTemplate, importedPrivateKeyTemplate]
      have adds : AddsKeys objects rsa objId (some ⟨0, .keyBlob (keyblobSave objId)⟩)
          (priv :: (view tee.state).objects) :=
        fun blob _ => ⟨pub, priv, extra, new, by rw [holds], hasAll, privHas⟩
      rw [Prog.exec_bind, exec_call, Prog.exec_ite, if_neg (not_not_intro ok)]
      exact withObjectHandle_spec serves primaryIn free (o := priv)
        (.pure fun _ at_ _ => ⟨_, adds, at_⟩) _ after

/-- An import that returns a blob has made both keys of it from the key it was given. -/
theorem teeImportKeypair_adds (primaryIn : primary ∈ t.sessions) (rsa : Rsa)
    (converts : AttributeType → Bool) (objId : KeyId) :
    Triple (At view t) (teeImportKeypair lib primary (some (.rsa rsa)) converts (some objId))
      (Ends view (AddsKeys t.objects rsa objId) t) := by
  have failed : ∀ after, AddsKeys t.objects rsa objId (some .failed) after :=
    fun after blob isBlob => by cases isBlob
  unfold teeImportKeypair bignumToArray
  cases converts .modulus with
  | false => exact .pure fun _ at_ => .unchanged (failed _) at_
  | true =>
    cases converts .publicExponent with
    | false => exact .pure fun _ at_ => .unchanged (failed _) at_
    | true =>
      refine withCryptoSession_spec serves primaryIn fun session _ _ => ?_
      rintro tee at_
      have at_ : view tee.state = t.openSession session := at_
      obtain ⟨ok, pub, pubHas, pubNew, free, after⟩ := serves.createObject tee.state session
        (importedPublicKeyTemplate objId (bnBn2bin rsa.n) (bnBn2bin rsa.e))
        (by rw [at_]; exact List.mem_cons_self) (by simp [Proper, importedPublicKeyTemplate])
      rw [at_] at pubNew free after
      unfold importInSession
      rw [Prog.exec_bind, exec_call, Prog.exec_ite, if_neg (not_not_intro ok)]
      -- The private key is made while the handle of the public one is open.
      have rest := fun handle => importPrivateKey_adds serves
        (t := ((t.openSession session).create pub).openHandle handle pub) List.mem_cons_self
        (List.mem_cons_of_mem _ primaryIn) rfl rsa converts objId pubHas pubNew
      exact withObjectHandle_spec serves (List.mem_cons_of_mem _ primaryIn) free (o := pub)
        (rest _) _ after

end Import

section History

variable {view : τ → Token} {primary : Nat}

/-- An import that returns a blob leaves it in the record with the two keys that were added. -/
theorem entry_of_imported {s next : Tee τ × List Entry} {lib : Cryptoki τ} {op : Op} {rsa : Rsa}
    {converts : AttributeType → Bool} {objId : KeyId} {blob : List UInt8}
    (serves : lib.Serves view) (opened : primary ∈ (view s.1.state).sessions)
    (isImport : op = .importKeypair (some (.rsa rsa)) converts (some objId))
    (stepped : tracked view primary s (lib, op) = some next)
    (returned : ((op.prog lib primary).exec s.1).1 = some ⟨0, .keyBlob blob⟩) :
    ∃ pub priv extra, ⟨blob, [priv, pub], true⟩ ∈ next.2 ∧
      pub.hasAll (importedPublicKeyTemplate objId (bnBn2bin rsa.n) (bnBn2bin rsa.e)) = true ∧
      priv.hasAll (importedPrivateKeyTemplate objId (bnBn2bin rsa.n) (bnBn2bin rsa.e)
        (bnBn2bin rsa.d) extra) = true := by
  have adds : Triple (At view (view s.1.state)) (op.prog lib primary)
      (Ends view (AddsKeys (view s.1.state).objects rsa objId) (view s.1.state)) := by
    subst isImport
    exact teeImportKeypair_adds serves opened rsa converts objId
  have ends := adds s.1 rfl
  unfold tracked at stepped
  dsimp only at stepped
  generalize (op.prog lib primary).exec s.1 = ended at *
  obtain ⟨result, after⟩ := ended
  obtain rfl : result = some ⟨0, .keyBlob blob⟩ := returned
  obtain rfl := Option.some.inj stepped
  obtain ⟨objects, added, at_⟩ := ends rfl
  have at_ : view after.state = { view s.1.state with objects := objects } := at_
  obtain ⟨pub, priv, extra, new, rfl, pubHas, privHas⟩ := added blob rfl
  refine ⟨pub, priv, extra, ?_, pubHas, privHas⟩
  -- The objects that were not there before are the two keys.
  subst isImport
  dsimp only
  rw [record_made rfl, at_, created_of_newPair new]
  exact List.mem_cons_self

/-- The attributes of an imported key read as the numbers it was made from. -/
theorem TokenObject.number_of_hasAll {o : TokenObject} {template : Template}
    (has : o.hasAll template = true) {type : AttributeType} {bn : Nat}
    (member : ⟨type, .bytes (bnBn2bin bn)⟩ ∈ template) : o.number type = some bn := by
  -- An attribute that belongs to the template is an attribute of the object.
  have isValue : o.attributes type = some (.bytes (bnBn2bin bn)) :=
    TokenObject.attribute_of_hasAll has member
  rw [TokenObject.number, isValue]
  exact congrArg some (bnBin2bn_bnBn2bin bn)

/-- A blob in the record stands for the two keys that were created with it, and for no others. -/
theorem Kept.only {s : Tee τ × List Entry} (kept : Kept view primary s) {blob : List UInt8}
    {pub priv : TokenObject} (member : ⟨blob, [priv, pub], true⟩ ∈ s.2) :
    ¬ Lost (view s.1.state).objects (some blob) ∧
      ∀ {pub' priv' objId}, Pair (view s.1.state).objects (some blob) pub' priv' objId →
        pub' = pub ∧ priv' = priv := by
  -- The books have an entry for the blob, and no other object of the token has its identifier.
  obtain ⟨objId, saved, stands⟩ := kept.known _ member
  obtain ⟨one, two, _, pair⟩ := stands.pair [] rfl saved
  rw [List.append_nil] at pair
  refine ⟨fun lost => lost _ _ _ pair, ?_⟩
  intro pub' priv' other found
  obtain rfl := Option.some.inj (pair.good.symm.trans found.good)
  have same := (stands.own found).2.1
  simp only [List.cons.injEq, and_true] at same
  exact ⟨same.2.symm, same.1.symm⟩

/-- The blob stands for two keys of the token alone, and they have the numbers of the RSA key. -/
structure Holds (view : τ → Token) (primary : Nat) (tee : Tee τ) (blob : List UInt8) (rsa : Rsa)
    (pub priv : TokenObject) : Prop where
  opened : primary ∈ (view tee.state).sessions
  found : ¬ Lost (view tee.state).objects (some blob)
  only : ∀ {pub' priv' objId}, Pair (view tee.state).objects (some blob) pub' priv' objId →
    pub' = pub ∧ priv' = priv
  pubModulus : pub.number .modulus = some rsa.n
  publicExponent : pub.number .publicExponent = some rsa.e
  verifies : pub.hasAll verifyingKey = true
  privModulus : priv.number .modulus = some rsa.n
  privateExponent : priv.number .privateExponent = some rsa.d
  signs : priv.hasAll signingKey = true

/-- An imported blob that was not deleted still stands for the key it was imported from. -/
theorem History.holds {tee : Tee τ} {lib : Cryptoki τ} {rsa : Rsa}
    {converts : AttributeType → Bool} {objId : Option KeyId} {blob : List UInt8}
    {rest : List (Cryptoki τ × Op)} {final : Tee τ × List Entry}
    (history : History view primary tee lib (.importKeypair (some (.rsa rsa)) converts objId) blob
      rest final) : ∃ pub priv, Holds view primary final.1 blob rsa pub priv := by
  -- The record starts out empty, and every step keeps what is known of its blobs.
  have start : Kept view primary (tee, []) :=
    ⟨history.opened, history.apart, fun _ member => by cases member⟩
  have kept : Kept view primary final :=
    run_invariant (fun _ _ _ kept both stepped => kept_step kept both.1 both.2 stepped) start
      (history.served.and history.exact_) history.ran
  obtain ⟨next, stepped, ran⟩ := run_cons.mp history.ran
  have serves := history.served.1.1
  obtain ⟨⟨id, names⟩, _⟩ := entry_of_returned serves history.opened stepped history.returned
  obtain rfl : objId = some id := names
  obtain ⟨pub, priv, extra, member, pubHas, privHas⟩ :=
    entry_of_imported serves history.opened rfl stepped history.returned
  have member := mem_of_run member history.undeleted ran
  obtain ⟨found, only⟩ := kept.only member
  refine ⟨pub, priv, kept.opened, found, only, pub.number_of_hasAll pubHas ?_,
    pub.number_of_hasAll pubHas ?_, pub.hasAll_of_subset pubHas ?_,
    priv.number_of_hasAll privHas ?_, priv.number_of_hasAll privHas ?_,
    priv.hasAll_of_subset privHas ?_⟩
  -- Each attribute in question is one of the template.
  all_goals simp [importedPublicKeyTemplate, importedPrivateKeyTemplate, verifyingKey, signingKey]

variable {signing verifying : τ → Nat → Option TokenObject} {works : Cryptoki τ} {tee : Tee τ}
  {blob : List UInt8} {rsa : Rsa} {pub priv : TokenObject} {params : RsaSignParams}

/-- Signing comes to whatever the private key makes of the data. -/
theorem Holds.signs_iff (holds : Holds view primary tee blob rsa pub priv)
    (serves : works.Serves view) (raw : works.SignsRaw view signing verifying)
    (room : byteLength rsa.n ≤ signatureCapacity) (plain : params.raw = true)
    (data signature : List UInt8) :
    ((teeSignData works primary (some params) (some blob) data).exec tee).1 =
        some ⟨0, .signature signature⟩ ↔ priv.rawSign data = some signature := by
  -- A signature is as long as the modulus, so it fits what the caller provides.
  have fits : ∀ signature, priv.rawSign data = some signature →
      signature.length ≤ signatureCapacity := by
    intro signature signed
    simp only [TokenObject.rawSign, holds.privModulus, holds.privateExponent, Option.bind_eq_bind,
      Option.bind_some, Option.ite_none_right_eq_some, Option.some.injEq] at signed
    obtain ⟨within, rfl⟩ := signed
    have small : bnBin2bn data ^ rsa.d % rsa.n < rsa.n := Nat.mod_lt _ (by have := within.2; omega)
    rwa [length_padded (byteLength_le small.le)]
  rw [teeSignData_result serves raw holds.opened holds.found (fun pair => (holds.only pair).2)
    holds.signs plain data fits]
  cases priv.rawSign data with
  | none => simp [Result.failed]
  | some made => simp

/-- Of a token that holds the key, verification is what the public numbers say. -/
theorem Holds.verifies_iff (holds : Holds view primary tee blob rsa pub priv)
    (serves : works.Serves view) (raw : works.SignsRaw view signing verifying)
    (plain : params.raw = true) (data signature : List UInt8) :
    ((teeVerifyData works primary (some params) (some blob) data signature).exec tee).1 =
        some ⟨0, .none⟩ ↔ pub.rawVerifies data signature = true := by
  -- The only pair for the blob is the one held.
  rw [teeVerifyData_result serves raw holds.opened holds.found (fun pair => (holds.only pair).1)
    holds.verifies plain data signature]
  simp [Result.failed]

end History

section Theorem

variable {view : τ → Token} {primary : Nat}

/--
What is verified with an imported key is exactly what is signed with it.

The key may have been imported twice, each time under a blob of its own, and both blobs may have
gone through any operations that did not delete them. The history of each of them asks that the IDs
of its key pairs do not repeat, and that nothing in it was deleted by a blob in use with further
bytes behind it, since `keyblob_restore` takes such a blob for the shorter one.
-/
theorem verified_iff_signed {tee other : Tee τ} {lib otherLib : Cryptoki τ} {rsa : Rsa}
    {converts otherConverts : AttributeType → Bool} {objId otherId : Option KeyId}
    {blob otherBlob : List UInt8} {rest otherRest : List (Cryptoki τ × Op)}
    {final otherFinal : Tee τ × List Entry}
    (signed : History view primary tee lib (.importKeypair (some (.rsa rsa)) converts objId) blob
      rest final)
    (verified : History view primary other otherLib
      (.importKeypair (some (.rsa rsa)) otherConverts otherId) otherBlob otherRest otherFinal)
    {p q : Nat} (exponents : Exponents p q rsa.d rsa.e) (modulus : rsa.n = p * q)
    (room : byteLength rsa.n ≤ signatureCapacity)
    {works : Cryptoki τ} {signing verifying : τ → Nat → Option TokenObject}
    (serves : works.Serves view) (raw : works.SignsRaw view signing verifying)
    {params otherParams : RsaSignParams} (plain : params.raw = true)
    (otherPlain : otherParams.raw = true) :
    (∀ data, Fits rsa.n data → ∃ signature,
      ((teeSignData works primary (some params) (some blob) data).exec final.1).1 =
        some ⟨0, .signature signature⟩) ∧
    ∀ data signature,
      ((teeVerifyData works primary (some otherParams) (some otherBlob) data signature).exec
        otherFinal.1).1 = some ⟨0, .none⟩ ↔
      ((teeSignData works primary (some params) (some blob) data).exec final.1).1 =
        some ⟨0, .signature signature⟩ := by
  obtain ⟨_, priv, holds⟩ := signed.holds
  obtain ⟨pub, _, otherHolds⟩ := verified.holds
  have signs := holds.signs_iff serves raw room plain
  have verifies := otherHolds.verifies_iff serves raw otherPlain
  constructor
  · intro data fits
    refine ⟨padded (byteLength rsa.n) (bnBin2bn data ^ rsa.d % rsa.n), (signs data _).mpr ?_⟩
    simp [TokenObject.rawSign, holds.privModulus, holds.privateExponent, fits]
  · intro data signature
    rw [signs, verifies]
    -- Each exponent undoes the other, since the primes are those of the modulus.
    exact rawVerifies_iff (modulus ▸ exponents.undoes) (modulus ▸ exponents.symm.undoes)
      otherHolds.pubModulus otherHolds.publicExponent holds.privModulus holds.privateExponent data
      signature

end Theorem

/-- The soft token, with the keys that its sessions are about to sign or to verify with. -/
structure RsaToken where
  soft : SoftToken
  signing : Nat → Option TokenObject
  verifying : Nat → Option TokenObject

def RsaToken.view (t : RsaToken) : Token := t.soft.view

/-- The soft token where it comes to anything but bare powers. -/
def rsaToken : Cryptoki RsaToken where
  call t request :=
    let after := ((softToken none).call t.soft request).2
    match request with
    | .openSession primary =>
      let reply := ((softToken none).call t.soft (.openSession primary)).1
      (reply, ⟨after, Function.update t.signing reply.answer none,
        Function.update t.verifying reply.answer none⟩)
    | .signInit session _ key =>
      -- An operation that is active has to end first.
      if (t.signing session).isSome then (⟨0x90, ()⟩, t)
      else
        let signing := Function.update t.signing session (t.soft.token.handles key)
        (⟨ckrOk, ()⟩, { t with soft := after, signing := signing })
    | .sign session data capacity =>
      let done := { t with soft := after, signing := Function.update t.signing session none }
      match (t.signing session).bind (·.rawSign data) with
      | none => (⟨0x20, []⟩, done)
      | some signature =>
        if signature.length ≤ capacity then (⟨ckrOk, signature⟩, done) else (⟨0x150, []⟩, done)
    | .verifyInit session _ key =>
      if (t.verifying session).isSome then (⟨0x90, ()⟩, t)
      else
        let verifying := Function.update t.verifying session (t.soft.token.handles key)
        (⟨ckrOk, ()⟩, { t with soft := after, verifying := verifying })
    | .verify session data signature =>
      let done := { t with soft := after, verifying := Function.update t.verifying session none }
      if (t.verifying session).any (·.rawVerifies data signature) then (⟨ckrOk, ()⟩, done)
      else (⟨0xC0, ()⟩, done)
    | request => (((softToken none).call t.soft request).1, { t with soft := after })

/-- A token that computes with its numbers serves sessions and objects as before. -/
theorem rsaToken_serves : rsaToken.Serves RsaToken.view where
  -- Signing and verifying are on top of the token in memory, and do not touch it.
  openSession t := softToken_serves.openSession t.soft
  closeSession t := softToken_serves.closeSession t.soft
  closeObjectHandle t := softToken_serves.closeObjectHandle t.soft
  findObjectsInit t := softToken_serves.findObjectsInit t.soft
  findObjects t := softToken_serves.findObjects t.soft
  findObjectsFinal t := softToken_serves.findObjectsFinal t.soft
  generateKeyPair t := softToken_serves.generateKeyPair t.soft
  createObject t := softToken_serves.createObject t.soft
  destroyObject t := softToken_serves.destroyObject t.soft
  getAttributeValue t := softToken_serves.getAttributeValue t.soft
  signInit t session mechanism key := by
    dsimp only [rsaToken]
    split
    · rfl
    · exact softToken_serves.signInit t.soft session mechanism key
  sign t session data capacity := by
    dsimp only [rsaToken]
    split
    · exact softToken_serves.sign t.soft session data capacity
    · split <;> exact softToken_serves.sign t.soft session data capacity
  verifyInit t session mechanism key := by
    dsimp only [rsaToken]
    split
    · rfl
    · exact softToken_serves.verifyInit t.soft session mechanism key
  verify t session data signature := by
    dsimp only [rsaToken]
    split <;> exact softToken_serves.verify t.soft session data signature

/-- And it signs and verifies by them. -/
theorem rsaToken_signsRaw :
    rsaToken.SignsRaw RsaToken.view RsaToken.signing RsaToken.verifying where
  -- A handle that is open stands for its object, whose numbers are the ones computed with.
  openSession t primary member := ⟨Function.update_self .., Function.update_self ..⟩
  finds t request session finds := by
    cases request <;> simp [Request.finds] at finds
    all_goals exact ⟨rfl, rfl⟩
  signInit t session key o member idle isOpen _ := by
    have isOpen : t.soft.view.handles key = some o := isOpen
    rw [(SoftToken.initialized_of_session member).2] at isOpen
    simp [rsaToken, idle, isOpen]
  sign t session data capacity o signature member ready signed room := by
    simp [rsaToken, ready, signed, room]
  refuses t session data capacity o member ready fails := by
    simp [rsaToken, ready, fails, ckrOk]
  verifyInit t session key o member idle isOpen _ := by
    have isOpen : t.soft.view.handles key = some o := isOpen
    rw [(SoftToken.initialized_of_session member).2] at isOpen
    simp [rsaToken, idle, isOpen]
  verify t session data signature o member ready := by
    cases accepts : o.rawVerifies data signature <;> simp [rsaToken, ready, accepts, ckrOk]

/-- The device is opened on a token nobody has used yet. -/
def rsaOpened : Tee RsaToken :=
  ((teeOpen rsaToken true).exec ⟨⟨.blank, fun _ => none, fun _ => none⟩, []⟩).2

/-- The smallest keys sign and verify through their blob. -/
theorem verified_iff_signed_small : ∃ final : Tee RsaToken, ∀ data signature,
    ((teeVerifyData rsaToken 1 (some ⟨0, 0⟩) (some generatedBlob) data signature).exec
      final).1 = some ⟨0, .none⟩ ↔
    ((teeSignData rsaToken 1 (some ⟨0, 0⟩) (some generatedBlob) data).exec final).1 =
      some ⟨0, .signature signature⟩ := by
  have returns : (run (tracked RsaToken.view 1) (rsaOpened, [])
      [(rsaToken, imports)]).isSome := by decide +kernel
  obtain ⟨final, ran⟩ := Option.isSome_iff_exists.mp returns
  have first : NewId RsaToken.view (rsaOpened, []) (rsaToken, imports) :=
    fun _ _ => ⟨fun _ member => (nomatch member), fun _ member => (nomatch member)⟩
  have history : History RsaToken.view 1 rsaOpened rsaToken imports generatedBlob [] final :=
    ⟨by decide, by decide, ⟨⟨rsaToken_serves, first⟩, fun _ _ => trivial⟩,
      ⟨fun _ deletes => (nomatch deletes), fun _ _ => trivial⟩, ran, by decide +kernel,
      fun _ member => (nomatch member)⟩
  -- The modulus is the product of 61 and 53.
  have exponents : Exponents 61 53 2753 17 :=
    ⟨by norm_num, by norm_num, by decide, by decide, by decide, by decide⟩
  exact ⟨final.1, (verified_iff_signed history history exponents rfl (by decide +kernel)
    rsaToken_serves rsaToken_signsRaw rfl rfl).2⟩

end Grouper.Keymaster
