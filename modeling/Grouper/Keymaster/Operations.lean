import Grouper.Keymaster.Blob

/-! The operations of the keymaster device, with the sessions and handles they open and close. -/

namespace Grouper.Keymaster

variable {τ : Type}

section Scopes

variable (lib : Cryptoki τ) (primary : Nat)

/-- The constructor of `CryptoSession`: the handle of the subsession, or an invalid one. -/
def openCryptoSession : KeymasterM τ Nat := do
  let reply ← call lib (.openSession (some primary))
  if reply.rv ≠ ckrOk ∨ reply.answer = ckInvalidHandle then
    let _ ← call lib .finalize
    return ckInvalidHandle
  else
    return reply.answer

/-- The destructor of `CryptoSession`. -/
def closeCryptoSession (subsession : Nat) : KeymasterM τ Unit :=
  Prog.when (subsession ≠ ckInvalidHandle) do
    let _ ← call lib (.closeSession subsession)

/-- The destructor of `ObjectHandle`, which closes the handle through the primary session. -/
def closeObjectHandle (handle : Nat) : KeymasterM τ Unit :=
  Prog.when (handle ≠ ckInvalidHandle) do
    let _ ← call lib (.closeObjectHandle primary handle)

/-- What an operation stored for its caller. -/
inductive Output where
  | none
  | keyBlob (blob : List UInt8)
  | x509 (n e : Nat)
  | signature (bytes : List UInt8)
  deriving DecidableEq, Repr

/-- How an operation ends for its caller. -/
structure Result where
  ret : Int
  output : Output
  deriving DecidableEq, Repr

def Result.failed : Result := ⟨-1, .none⟩

/-- A body under a subsession, closed when the body returns. A body that died leaves it open. -/
def withCryptoSession (body : Nat → KeymasterM τ (Option Result)) :
    KeymasterM τ (Option Result) := do
  let session ← openCryptoSession lib primary
  let result ← body session
  Prog.when (result.isSome) (closeCryptoSession lib session)
  return result

/-- A body under an object handle, closed when the body returns. -/
def withObjectHandle (handle : Nat) (body : KeymasterM τ (Option Result)) :
    KeymasterM τ (Option Result) := do
  let result ← body
  Prog.when (result.isSome) (closeObjectHandle lib primary handle)
  return result

end Scopes

section Restore

variable (lib : Cryptoki τ) (session : Nat)

/-- The attributes an object is searched by: the ID of its pair, and its own class. -/
def keyTemplate (objId : List UInt8) (objClass : Nat) : Template :=
  [⟨.id, .bytes objId⟩, ⟨.objectClass, .ulong objClass⟩]

/-- `find_single_object`: the handle the search came to, if it found an object. -/
def findSingleObject (objId : List UInt8) (objClass : Nat) : KeymasterM τ (Option Nat) := do
  let init ← call lib (.findObjectsInit session (keyTemplate objId objClass))
  if init.rv ≠ ckrOk then
    return none
  else
    let found ← call lib (.findObjects session 1)
    let _ ← call lib (.findObjectsFinal session)
    if found.rv ≠ ckrOk ∨ found.answer.2 ≠ 1 then
      return none
    else
      return some found.answer.1

/-- What `keyblob_restore` returns, and what it made of the two object handles. -/
structure Restored where
  ret : Int
  publicKey : Nat
  privateKey : Nat
  deriving DecidableEq, Repr

def keyblobRestore (keyBlob : Option (List UInt8)) : KeymasterM τ Restored :=
  match blobId keyBlob with
  | none => return ⟨-1, ckInvalidHandle, ckInvalidHandle⟩
  | some objId => do
    match ← findSingleObject lib session objId ckoPublicKey with
    | none => return ⟨1, ckInvalidHandle, ckInvalidHandle⟩
    | some publicKey => do
      -- The two results are joined by a C++ disjunction, so a failure comes out as one.
      match ← findSingleObject lib session objId ckoPrivateKey with
      | none => return ⟨1, publicKey, ckInvalidHandle⟩
      | some privateKey => return ⟨0, publicKey, privateKey⟩

/-- A body that works on the key pair of a blob, if the blob can be restored. -/
def withKeypair (primary : Nat) (keyBlob : Option (List UInt8))
    (body : Nat → Nat → KeymasterM τ (Option Result)) : KeymasterM τ (Option Result) := do
  let restored ← keyblobRestore lib session keyBlob
  withObjectHandle lib primary restored.publicKey <|
    withObjectHandle lib primary restored.privateKey <|
      if restored.ret ≠ 0 then return some .failed
      else body restored.publicKey restored.privateKey

end Restore

/-- `TYPE_RSA`. -/
def typeRsa : Nat := 1

/-- `DIGEST_NONE`. -/
def digestNone : Nat := 0

/-- `PADDING_NONE`. -/
def paddingNone : Nat := 0

structure RsaKeygenParams where
  modulusSize : Nat
  publicExponent : UInt64

structure RsaSignParams where
  digestType : Nat
  paddingType : Nat

/-- An RSA key as OpenSSL holds it, with the parts of the CRT form it may lack. -/
structure Rsa where
  n : Nat
  e : Nat
  d : Nat
  p : Option Nat
  q : Option Nat
  dmp1 : Option Nat
  dmq1 : Option Nat
  iqmp : Option Nat

/-- What OpenSSL makes of the bytes of a private key. -/
inductive ParsedKey where
  | unreadable
  | notRsa
  | rsa (key : Rsa)

section Templates

/-- `bignum_to_array`, which fails when OpenSSL writes another number of bytes than it announced. -/
def bignumToArray (converts : AttributeType → Bool) (type : AttributeType) (bn : Nat) :
    Option (List UInt8) :=
  if converts type then some (bnBn2bin bn) else none

/-- The extra parts of a private key, in template order, if the key has all of them. -/
def Rsa.extraData (rsa : Rsa) : Option (List (AttributeType × Nat)) := do
  return [(.prime1, ← rsa.p), (.prime2, ← rsa.q), (.exponent1, ← rsa.dmp1),
    (.exponent2, ← rsa.dmq1), (.coefficient, ← rsa.iqmp)]

/-- The attributes of some numbers, as long as each of them can be converted. -/
def convertAll (converts : AttributeType → Bool) : List (AttributeType × Nat) → Option Template
  | [] => some []
  | (type, bn) :: rest => do
    let bytes ← bignumToArray converts type bn
    return ⟨type, .bytes bytes⟩ :: (← convertAll converts rest)

def generatedPublicKeyTemplate (objId : KeyId) (params : RsaKeygenParams) : Template :=
  [⟨.id, .bytes objId.toList⟩, ⟨.token, .bool true⟩, ⟨.encrypt, .bool true⟩,
    ⟨.verify, .bool true⟩, ⟨.modulusBits, .ulong params.modulusSize⟩,
    ⟨.publicExponent, .bytes (exponentBytes params.publicExponent)⟩]

def generatedPrivateKeyTemplate (objId : KeyId) : Template :=
  [⟨.id, .bytes objId.toList⟩, ⟨.token, .bool true⟩, ⟨.decrypt, .bool true⟩,
    ⟨.sign, .bool true⟩]

def importedPublicKeyTemplate (objId : KeyId) (modulus publicExponent : List UInt8) : Template :=
  [⟨.id, .bytes objId.toList⟩, ⟨.token, .bool true⟩, ⟨.objectClass, .ulong ckoPublicKey⟩,
    ⟨.keyType, .ulong ckkRsa⟩, ⟨.encrypt, .bool true⟩, ⟨.verify, .bool true⟩,
    ⟨.modulus, .bytes modulus⟩, ⟨.publicExponent, .bytes publicExponent⟩]

def importedPrivateKeyTemplate (objId : KeyId)
    (modulus publicExponent privateExponent : List UInt8) (extra : Template) : Template :=
  [⟨.id, .bytes objId.toList⟩, ⟨.token, .bool true⟩, ⟨.objectClass, .ulong ckoPrivateKey⟩,
    ⟨.keyType, .ulong ckkRsa⟩, ⟨.decrypt, .bool true⟩, ⟨.sign, .bool true⟩,
    ⟨.modulus, .bytes modulus⟩, ⟨.publicExponent, .bytes publicExponent⟩,
    ⟨.privateExponent, .bytes privateExponent⟩] ++ extra

end Templates

section Operations

variable (lib : Cryptoki τ) (primary : Nat)

/-- The part of `tee_generate_keypair` that has a session. -/
def generateInSession (session : Nat) (rsaParams : RsaKeygenParams) (objId : KeyId) :
    KeymasterM τ (Option Result) := do
  let reply ← call lib (.generateKeyPair session ckmRsaPkcsKeyPairGen
    (generatedPublicKeyTemplate objId rsaParams) (generatedPrivateKeyTemplate objId))
  if reply.rv ≠ ckrOk then
    return some .failed
  else
    withObjectHandle lib primary reply.answer.1 <|
      withObjectHandle lib primary reply.answer.2 <|
        return some ⟨0, .keyBlob (keyblobSave objId)⟩

/-- `tee_generate_keypair`, with the ID `generate_random_id` came up with, if any. -/
def teeGenerateKeypair (type : Nat) (keyParams : Option RsaKeygenParams) (objId : Option KeyId) :
    KeymasterM τ (Option Result) :=
  if type ≠ typeRsa then return some .failed
  else match keyParams, objId with
    | some rsaParams, some objId =>
      withCryptoSession lib primary fun session =>
        generateInSession lib primary session rsaParams objId
    | _, _ => return some .failed

/-- The part of `tee_import_keypair` from the creation of the private key on. -/
def importPrivateKey (session : Nat) (rsa : Rsa) (converts : AttributeType → Bool)
    (objId : KeyId) (modulus publicExponent : List UInt8) : KeymasterM τ (Option Result) :=
  match bignumToArray converts .privateExponent rsa.d with
  | none => return some .failed
  | some privateExponent =>
    match rsa.extraData.elim (some []) (convertAll converts) with
    -- A null array is dereferenced before it is compared with null.
    | none => return none
    | some extra => do
      let reply ← call lib (.createObject session
        (importedPrivateKeyTemplate objId modulus publicExponent privateExponent extra))
      if reply.rv ≠ ckrOk then
        return some .failed
      else
        withObjectHandle lib primary reply.answer <|
          return some ⟨0, .keyBlob (keyblobSave objId)⟩

/-- The part of `tee_import_keypair` that has a session. -/
def importInSession (session : Nat) (rsa : Rsa) (converts : AttributeType → Bool)
    (objId : KeyId) (modulus publicExponent : List UInt8) : KeymasterM τ (Option Result) := do
  let reply ← call lib (.createObject session
    (importedPublicKeyTemplate objId modulus publicExponent))
  if reply.rv ≠ ckrOk then
    return some .failed
  else
    withObjectHandle lib primary reply.answer <|
      importPrivateKey lib primary session rsa converts objId modulus publicExponent

/-- `tee_import_keypair`, of a key that OpenSSL has parsed and whose numbers it may convert. -/
def teeImportKeypair (key : Option ParsedKey) (converts : AttributeType → Bool)
    (objId : Option KeyId) : KeymasterM τ (Option Result) :=
  match key with
  | some (.rsa rsa) =>
    match bignumToArray converts .modulus rsa.n, bignumToArray converts .publicExponent rsa.e,
      objId with
    | some modulus, some publicExponent, some objId =>
      withCryptoSession lib primary fun session =>
        importInSession lib primary session rsa converts objId modulus publicExponent
    | _, _, _ => return some .failed
  | _ => return some .failed

/--
`tee_get_keypair_public`.

The caller may lack a destination, and OpenSSL may fail to encode the key it is given.
-/
def teeGetKeypairPublic (keyBlob : Option (List UInt8)) (destination encodes : Bool) :
    KeymasterM τ (Option Result) :=
  withCryptoSession lib primary fun session =>
    withKeypair lib session primary keyBlob fun publicKey _ => do
      if destination = false then
        return some .failed
      else
        let sizes ← call lib (.getAttributeValue session publicKey
          [(.modulus, none), (.publicExponent, none)])
        if sizes.rv ≠ ckrOk then
          return some .failed
        else
          let values ← call lib (.getAttributeValue session publicKey
            [(.modulus, some (sizes.answer .modulus).length),
              (.publicExponent, some (sizes.answer .publicExponent).length)])
          if values.rv ≠ ckrOk ∨ encodes = false then
            return some .failed
          else
            -- The lengths of the second query count, since those of the first may be too large.
            let modulus := values.answer .modulus
            let exponent := values.answer .publicExponent
            return some ⟨0, .x509 (bnBin2bn (modulus.bytes.take modulus.length))
              (bnBin2bn (exponent.bytes.take exponent.length))⟩

def teeDeleteKeypair (keyBlob : Option (List UInt8)) : KeymasterM τ (Option Result) :=
  withCryptoSession lib primary fun session =>
    withKeypair lib session primary keyBlob fun publicKey privateKey => do
      let reply ← call lib (.destroyObject session privateKey)
      if reply.rv ≠ ckrOk then
        return some .failed
      else
        let reply ← call lib (.destroyObject session publicKey)
        if reply.rv ≠ ckrOk then
          return some .failed
        else
          return some ⟨0, .none⟩

/-- The checks of the signing parameters that come after the key pair has been found. -/
def RsaSignParams.raw (params : RsaSignParams) : Bool :=
  params.digestType = digestNone && params.paddingType = paddingNone

/-- The size of the buffer a signature is made in. -/
def signatureCapacity : Nat := 1024

def teeSignData (params : Option RsaSignParams) (keyBlob : Option (List UInt8))
    (data : List UInt8) : KeymasterM τ (Option Result) :=
  match params with
  | none => return some .failed
  | some params =>
    withCryptoSession lib primary fun session =>
      withKeypair lib session primary keyBlob fun _ privateKey => do
        -- The parameters are checked only once the key pair has been found.
        if params.raw = false then
          return some .failed
        else
          let init ← call lib (.signInit session ckmRsaX509 privateKey)
          if init.rv ≠ ckrOk then
            return some .failed
          else
            let signed ← call lib (.sign session data signatureCapacity)
            if signed.rv ≠ ckrOk then
              return some .failed
            else
              return some ⟨0, .signature signed.answer⟩

def teeVerifyData (params : Option RsaSignParams) (keyBlob : Option (List UInt8))
    (signedData signature : List UInt8) : KeymasterM τ (Option Result) :=
  match params with
  | none => return some .failed
  | some params =>
    withCryptoSession lib primary fun session =>
      withKeypair lib session primary keyBlob fun publicKey _ => do
        if params.raw = false then
          return some .failed
        else
          let init ← call lib (.verifyInit session ckmRsaX509 publicKey)
          if init.rv ≠ ckrOk then
            return some .failed
          else
            let verified ← call lib (.verify session signedData signature)
            if verified.rv ≠ ckrOk then
              return some .failed
            else
              return some ⟨0, .none⟩

end Operations

/-- `-ENODEV`. -/
def noDevice : Int := -19

/-- `-EINVAL`. -/
def invalidArgument : Int := -22

/-- `tee_open`, under the right name or not: an error, or the handle of the primary session. -/
def teeOpen (lib : Cryptoki τ) (named : Bool) : KeymasterM τ (Except Int Nat) := do
  if named = false then
    return .error invalidArgument
  else
    let initialized ← call lib .initializeLibrary
    if initialized.rv ≠ ckrOk then
      return .error noDevice
    else
      let info ← call lib .getInfo
      if info.rv ≠ ckrOk then
        let _ ← call lib .finalize
        return .error noDevice
      else
        let opened ← call lib (.openSession none)
        if opened.rv ≠ ckrOk ∨ opened.answer = ckInvalidHandle then
          let _ ← call lib .finalize
          return .error (-1)
        else
          return .ok opened.answer

/-- An operation on the opened device, with its arguments and what OpenSSL makes of them. -/
inductive Op where
  | generateKeypair (type : Nat) (keyParams : Option RsaKeygenParams) (objId : Option KeyId)
  | importKeypair (key : Option ParsedKey) (converts : AttributeType → Bool)
      (objId : Option KeyId)
  | getKeypairPublic (keyBlob : Option (List UInt8)) (destination encodes : Bool)
  | deleteKeypair (keyBlob : Option (List UInt8))
  | signData (params : Option RsaSignParams) (keyBlob : Option (List UInt8)) (data : List UInt8)
  | verifyData (params : Option RsaSignParams) (keyBlob : Option (List UInt8))
      (signedData signature : List UInt8)

/-- The program of an operation. It comes to nothing when the process dies on the way. -/
def Op.prog (lib : Cryptoki τ) (primary : Nat) : Op → KeymasterM τ (Option Result)
  | generateKeypair type keyParams objId => teeGenerateKeypair lib primary type keyParams objId
  | importKeypair key converts objId => teeImportKeypair lib primary key converts objId
  | getKeypairPublic keyBlob destination encodes =>
    teeGetKeypairPublic lib primary keyBlob destination encodes
  | deleteKeypair keyBlob => teeDeleteKeypair lib primary keyBlob
  | signData params keyBlob data => teeSignData lib primary params keyBlob data
  | verifyData params keyBlob signedData signature =>
    teeVerifyData lib primary params keyBlob signedData signature

/-- With parameters for an RSA key generating a pair is a matter of its session. -/
theorem teeGenerateKeypair_rsa (lib : Cryptoki τ) (primary : Nat) (params : RsaKeygenParams)
    (objId : KeyId) : teeGenerateKeypair lib primary typeRsa (some params) (some objId) =
      withCryptoSession lib primary fun session =>
        generateInSession lib primary session params objId := rfl

/-- So is importing one, once the two public numbers are converted. -/
theorem teeImportKeypair_rsa (lib : Cryptoki τ) (primary : Nat) (rsa : Rsa)
    {converts : AttributeType → Bool} (objId : KeyId) (modulus : converts .modulus = true)
    (publicExponent : converts .publicExponent = true) :
    teeImportKeypair lib primary (some (.rsa rsa)) converts (some objId) =
      withCryptoSession lib primary fun session => importInSession lib primary session rsa converts
        objId (bnBn2bin rsa.n) (bnBn2bin rsa.e) := by
  simp [teeImportKeypair, bignumToArray, modulus, publicExponent]

/-- The arguments of an operation take it to the constructor of its `CryptoSession`. -/
def Op.opensSession : Op → Bool
  | generateKeypair type keyParams objId => type = typeRsa && keyParams.isSome && objId.isSome
  | importKeypair (some (.rsa _)) converts objId =>
    converts .modulus && converts .publicExponent && objId.isSome
  | importKeypair _ _ _ => false
  | getKeypairPublic _ _ _ | deleteKeypair _ => true
  | signData params _ _ | verifyData params _ _ _ => params.isSome

/-- The shapes of the operations that get as far as their `CryptoSession`. -/
inductive Op.Opens : Op → Prop where
  | generateKeypair (params : RsaKeygenParams) (objId : KeyId) :
    Op.Opens (.generateKeypair typeRsa (some params) (some objId))
  | importKeypair (rsa : Rsa) (converts : AttributeType → Bool) (objId : KeyId)
    (modulus : converts .modulus = true) (exponent : converts .publicExponent = true) :
    Op.Opens (.importKeypair (some (.rsa rsa)) converts (some objId))
  | getKeypairPublic (keyBlob : Option (List UInt8)) (destination encodes : Bool) :
    Op.Opens (.getKeypairPublic keyBlob destination encodes)
  | deleteKeypair (keyBlob : Option (List UInt8)) : Op.Opens (.deleteKeypair keyBlob)
  | signData (params : RsaSignParams) (keyBlob : Option (List UInt8)) (data : List UInt8) :
    Op.Opens (.signData (some params) keyBlob data)
  | verifyData (params : RsaSignParams) (keyBlob : Option (List UInt8))
    (signedData signature : List UInt8) :
    Op.Opens (.verifyData (some params) keyBlob signedData signature)

/-- Arguments that take an operation to its session have one of those shapes. -/
theorem Op.opens_of {op : Op} (opens : op.opensSession = true) : op.Opens := by
  -- Every absent argument, and every key that is not RSA, is rejected before the session.
  cases op with
  | generateKeypair type keyParams objId =>
    cases keyParams with
    | none => simp [Op.opensSession] at opens
    | some params =>
      cases objId with
      | none => simp [Op.opensSession] at opens
      | some objId =>
        obtain rfl : type = typeRsa := by simpa [Op.opensSession] using opens
        exact .generateKeypair params objId
  | importKeypair key converts objId =>
    cases key with
    | none => cases opens
    | some key =>
      cases key with
      | unreadable => cases opens
      | notRsa => cases opens
      | rsa rsa =>
        cases objId with
        | none => simp [Op.opensSession] at opens
        | some objId =>
          have both : converts .modulus = true ∧ converts .publicExponent = true := by
            simpa [Op.opensSession] using opens
          exact .importKeypair rsa converts objId both.1 both.2
  | getKeypairPublic keyBlob destination encodes =>
    exact .getKeypairPublic keyBlob destination encodes
  | deleteKeypair keyBlob => exact .deleteKeypair keyBlob
  | signData params keyBlob data =>
    cases params with
    | none => cases opens
    | some params => exact .signData params keyBlob data
  | verifyData params keyBlob signedData signature =>
    cases params with
    | none => cases opens
    | some params => exact .verifyData params keyBlob signedData signature

/-- Arguments that do not take an operation to the library make it fail. -/
theorem rejected_prog (lib : Cryptoki τ) (primary : Nat) (op : Op)
    (rejected : op.opensSession = false) : op.prog lib primary = pure (some .failed) := by
  cases op with
  | generateKeypair type keyParams objId =>
    show teeGenerateKeypair lib primary type keyParams objId = _
    unfold teeGenerateKeypair
    match keyParams, objId with
    | some params, some objId =>
      have other : type ≠ typeRsa := by simpa [Op.opensSession] using rejected
      rw [if_pos other]
    | none, _ => split <;> rfl
    | some _, none => split <;> rfl
  | importKeypair key converts objId =>
    show teeImportKeypair lib primary key converts objId = _
    match key, objId with
    | some (.rsa rsa), some objId =>
      -- One of the two numbers of the public key cannot be converted.
      have fails : converts .modulus = true → converts .publicExponent = false := by
        simpa [Op.opensSession] using rejected
      unfold teeImportKeypair bignumToArray
      cases modulus : converts .modulus with
      | false => rfl
      | true => rw [fails modulus]; rfl
    | some (.rsa rsa), none =>
      unfold teeImportKeypair bignumToArray
      cases converts .modulus <;> cases converts .publicExponent <;> rfl
    | some .unreadable, _ => rfl
    | some .notRsa, _ => rfl
    | none, _ => rfl
  | getKeypairPublic _ _ _ => cases rejected
  | deleteKeypair _ => cases rejected
  | signData params _ _ =>
    cases params with
    | none => rfl
    | some _ => cases rejected
  | verifyData params _ _ _ =>
    cases params with
    | none => rfl
    | some _ => cases rejected

/-- What a sequence of operations returns, each made on the library as it behaves at the time. -/
def results (primary : Nat) : Tee τ → List (Cryptoki τ × Op) → List (Option Result)
  | _, [] => []
  | tee, (lib, op) :: rest =>
    match (op.prog lib primary).exec tee with
    -- A process that died makes no more operations.
    | (none, _) => [none]
    | (some result, after) => some result :: results primary after rest

/-- An operation that returns is followed by the others. -/
theorem results_cons {primary : Nat} {tee : Tee τ} {act : Cryptoki τ × Op} {result : Result}
    (returned : ((act.2.prog act.1 primary).exec tee).1 = some result)
    (rest : List (Cryptoki τ × Op)) : results primary tee (act :: rest) =
      some result :: results primary ((act.2.prog act.1 primary).exec tee).2 rest := by
  -- The results of a run are those of its operations in turn.
  obtain ⟨lib, op⟩ := act
  rw [results]
  generalize (op.prog lib primary).exec tee = ended at returned ⊢
  obtain ⟨_, after⟩ := ended
  obtain rfl : _ = some result := returned
  rfl

/-- One operation, from which the process goes on unless it died. -/
def step (primary : Nat) (tee : Tee τ) (act : Cryptoki τ × Op) : Option (Tee τ) :=
  let (result, after) := (act.2.prog act.1 primary).exec tee
  result.map fun _ => after

end Grouper.Keymaster
