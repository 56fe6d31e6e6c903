import Grouper.Keymaster.Lifecycle

/-! What an operation leaves in the token when the library fails in the middle of it. -/

namespace Grouper.Keymaster

open Prog (Triple)

variable {τ : Type}

/-- A call that creates an object from a template. -/
def Request.creates : Request → Bool
  | createObject _ _ => true
  | _ => false

/-- A call that destroys an object. -/
def Request.destroys : Request → Bool
  | destroyObject _ _ => true
  | _ => false

/-- How the calls of one kind came out, the newest first. -/
def outcomes (kind : Request → Bool) (calls : List Event) : List Bool :=
  (calls.filter fun event => kind event.request).map fun event => event.reply.rv = ckrOk

section Import

/-- What calls do to the objects that are stored, whether they succeed or not. -/
structure Cryptoki.Stores (lib : Cryptoki τ) (stored : τ → List TokenObject) : Prop where
  /-- A creation that succeeds adds one object, and one that fails adds none. -/
  createObject : ∀ s session template,
    let (reply, after) := lib.call s (.createObject session template)
    (reply.rv = ckrOk → ∃ o : TokenObject,
      (∀ other ∈ stored s, other.serial ≠ o.serial) ∧ stored after = o :: stored s) ∧
    (reply.rv ≠ ckrOk → stored after = stored s)
  openSession : ∀ s primary, stored (lib.call s (.openSession primary)).2 = stored s
  closeSession : ∀ s session, stored (lib.call s (.closeSession session)).2 = stored s
  closeObjectHandle : ∀ s session object,
    stored (lib.call s (.closeObjectHandle session object)).2 = stored s
  finalize : ∀ s, stored (lib.call s .finalize).2 = stored s

/-- An import that fails leaves the set of stored objects as it was. -/
def ImportAtomic (stored : τ → List TokenObject) (lib : Cryptoki τ) (primary : Nat) (s : τ)
    (key : Option ParsedKey) (converts : AttributeType → Bool) (objId : Option KeyId) : Prop :=
  let (result, after) := (teeImportKeypair lib primary key converts objId).exec ⟨s, []⟩
  ∀ r, result = some r → r.ret = -1 → ∀ o, o ∈ stored after.state ↔ o ∈ stored s

/-- The public key was created, and then the private one failed to be. -/
def Orphaned (converts : AttributeType → Bool) (calls : List Event) : Prop :=
  outcomes Request.creates calls = [true] ∧ converts .privateExponent = false ∨
    outcomes Request.creates calls = [false, true]

/-- The objects that are stored, and how the creations so far came out. -/
def StoredAt (stored : τ → List TokenObject) (objects : List TokenObject) (created : List Bool)
    (tee : Tee τ) : Prop :=
  stored tee.state = objects ∧ outcomes Request.creates tee.calls = created

/-- What an import that got past its arguments comes to. -/
inductive Imported (objects : List TokenObject) (converts : AttributeType → Bool) :
    Option Result → List TokenObject → List Bool → Prop
  | refused : Imported objects converts (some .failed) objects [false]
  | unconverted {pub : TokenObject} (new : ∀ o ∈ objects, o.serial ≠ pub.serial)
      (fails : converts .privateExponent = false) :
      Imported objects converts (some .failed) (pub :: objects) [true]
  | died {after : List TokenObject} (converted : converts .privateExponent = true) :
      Imported objects converts none after [true]
  | orphaned {pub : TokenObject} (new : ∀ o ∈ objects, o.serial ≠ pub.serial) :
      Imported objects converts (some .failed) (pub :: objects) [false, true]
  | imported {blob : List UInt8} {after : List TokenObject} :
      Imported objects converts (some ⟨0, .keyBlob blob⟩) after [true, true]

/-- A program ends with one of the outcomes of an import. -/
def ImportEnds (stored : τ → List TokenObject) (objects : List TokenObject)
    (converts : AttributeType → Bool) (result : Option Result) (tee : Tee τ) : Prop :=
  ∃ after created, Imported objects converts result after created ∧
    StoredAt stored after created tee

variable {lib : Cryptoki τ} {stored : τ → List TokenObject} {objects : List TokenObject}
  {created : List Bool} {converts : AttributeType → Bool}

/-- A call of another kind that stores nothing changes nothing of interest. -/
theorem storedAt_call {request : Request} (other : request.creates = false)
    (keeps : ∀ s, stored (lib.call s request).2 = stored s) :
    Triple (StoredAt stored objects created) (call lib request) fun _ tee =>
      StoredAt stored objects created tee := by
  rintro tee ⟨isStored, isCreated⟩
  refine ⟨(keeps tee.state).trans isStored, ?_⟩
  -- The log is filtered for creations.
  rw [exec_call, ← isCreated]
  unfold outcomes
  rw [List.filter_cons_of_neg (by simp [other])]

/-- Closing what was opened does not change how an import ends. -/
theorem importEnds_after {pre : Tee τ → Prop} {body : KeymasterM τ (Option Result)}
    {close : KeymasterM τ Unit}
    (closes : ∀ after created, Triple (StoredAt stored after created) close fun _ =>
      StoredAt stored after created)
    (ends : Triple pre body (ImportEnds stored objects converts)) :
    Triple pre (do
      let result ← body
      Prog.when result.isSome close
      return result) (ImportEnds stored objects converts) := by
  -- The destructor comes after the body, and not at all when the body did not return.
  intro tee met
  obtain ⟨after, created, outcome, isStored⟩ := ends tee met
  rw [Prog.exec_bind, Prog.exec_bind, Prog.exec_when, Prog.exec_pure]
  refine ⟨after, created, outcome, ?_⟩
  split
  · exact closes after created _ isStored
  · exact isStored

variable (stores : lib.Stores stored)

include stores

/-- The destructor of a handle stores nothing. -/
theorem storedAt_closeObjectHandle (primary handle : Nat) :
    Triple (StoredAt stored objects created) (closeObjectHandle lib primary handle) fun _ =>
      StoredAt stored objects created := by
  -- A missing handle is not closed, and closing another one stores nothing.
  refine .when (fun _ => ?_) fun _ _ met => met
  exact .bind (storedAt_call rfl (stores.closeObjectHandle · primary handle)) fun _ =>
    .pure fun _ met => met

/-- Nor does that of a session. -/
theorem storedAt_closeCryptoSession (session : Nat) :
    Triple (StoredAt stored objects created) (closeCryptoSession lib session) fun _ =>
      StoredAt stored objects created := by
  refine .when (fun _ => ?_) fun _ _ met => met
  exact .bind (storedAt_call rfl (stores.closeSession · session)) fun _ => .pure fun _ met => met

/-- Nor does the constructor of one, whether it succeeds or not. -/
theorem storedAt_openCryptoSession (primary : Nat) :
    Triple (StoredAt stored objects created) (openCryptoSession lib primary) fun _ =>
      StoredAt stored objects created := by
  -- A refused subsession finalizes the library, which stores nothing either.
  refine .bind (storedAt_call rfl (stores.openSession · _)) fun reply => ?_
  refine .ite (fun _ => ?_) ?_
  · exact .bind (storedAt_call rfl stores.finalize) fun _ => .pure fun _ met => met
  · exact fun _ => .pure fun _ met => met

/-- A creation adds one object when it succeeds, and says so in the log. -/
theorem createObject_spec (session : Nat) (template : Template) :
    Triple (StoredAt stored objects created) (call lib (.createObject session template))
      fun reply tee =>
        (reply.rv = ckrOk → ∃ o : TokenObject, (∀ other ∈ objects, other.serial ≠ o.serial) ∧
          StoredAt stored (o :: objects) (true :: created) tee) ∧
        (reply.rv ≠ ckrOk → StoredAt stored objects (false :: created) tee) := by
  rintro tee ⟨rfl, rfl⟩
  -- The log gains what the library has just answered.
  obtain ⟨succeeds, fails⟩ := stores.createObject tee.state session template
  rw [exec_call]
  constructor
  · intro ok
    obtain ⟨o, new, after⟩ := succeeds ok
    refine ⟨o, new, after, ?_⟩
    simpa [outcomes, Request.creates] using ok
  · intro refused
    refine ⟨fails refused, ?_⟩
    simpa [outcomes, Request.creates] using refused

/-- Behind the public key the private one is created, or it fails to convert or to be created. -/
theorem importPrivateKey_ends {pub : TokenObject} (new : ∀ o ∈ objects, o.serial ≠ pub.serial)
    (primary session : Nat) (rsa : Rsa) (objId : KeyId) (modulus publicExponent : List UInt8) :
    Triple (StoredAt stored (pub :: objects) [true])
      (importPrivateKey lib primary session rsa converts objId modulus publicExponent)
      (ImportEnds stored objects converts) := by
  -- A failed conversion of the exponent returns, and one of an extra part does not.
  unfold importPrivateKey bignumToArray
  cases converted : converts .privateExponent with
  | false => exact .pure fun _ met => ⟨_, _, .unconverted new converted, met⟩
  | true =>
    cases rsa.extraData.elim (some []) (convertAll converts) with
    | none => exact .pure fun _ met => ⟨_, _, .died converted, met⟩
    | some extra =>
      refine .bind (createObject_spec stores session _) fun reply => ?_
      refine .ite (fun refused => ?_) ?_
      · exact .pure fun _ met => ⟨_, _, .orphaned new, met.2 refused⟩
      · intro fine
        refine importEnds_after (fun _ _ => storedAt_closeObjectHandle stores primary _) ?_
        refine .pure fun _ met => ?_
        obtain ⟨priv, _, isStored⟩ := met.1 (not_not.mp fine)
        exact ⟨_, _, .imported, isStored⟩

/-- An import ends with both objects, with none, or with the public one left over. -/
theorem importInSession_ends (primary session : Nat) (rsa : Rsa) (objId : KeyId)
    (modulus publicExponent : List UInt8) :
    Triple (StoredAt stored objects [])
      (importInSession lib primary session rsa converts objId modulus publicExponent)
      (ImportEnds stored objects converts) := by
  -- Without a public key there is nothing to leave behind.
  refine .bind (createObject_spec stores session _) fun reply => ?_
  refine .ite (fun refused => ?_) ?_
  · exact .pure fun _ met => ⟨_, _, .refused, met.2 refused⟩
  · intro fine tee met
    obtain ⟨pub, new, isStored⟩ := met.1 (not_not.mp fine)
    exact importEnds_after (fun _ _ => storedAt_closeObjectHandle stores primary _)
      (importPrivateKey_ends stores new primary session rsa objId _ _) tee isStored

/-- An import that gets past its arguments ends with one of the outcomes. -/
theorem teeImportKeypair_ends (primary : Nat) (rsa : Rsa) (objId : KeyId)
    (modulus : converts .modulus = true) (exponent : converts .publicExponent = true) :
    Triple (StoredAt stored objects [])
      (teeImportKeypair lib primary (some (.rsa rsa)) converts (some objId))
      (ImportEnds stored objects converts) := by
  -- From its session on, an import is one of the five outcomes.
  rw [teeImportKeypair_rsa lib primary rsa objId modulus exponent]
  refine .bind (storedAt_openCryptoSession stores primary) fun session => ?_
  exact importEnds_after (fun _ _ => storedAt_closeCryptoSession stores session)
    (importInSession_ends stores primary session rsa objId _ _)

/-- An import is atomic precisely when its public key is not orphaned. -/
theorem importAtomic_iff (primary : Nat) (s : τ) (key : Option ParsedKey)
    (objId : Option KeyId) : ImportAtomic stored lib primary s key converts objId ↔
      ¬ Orphaned converts
        ((teeImportKeypair lib primary key converts objId).exec ⟨s, []⟩).2.calls := by
  unfold ImportAtomic
  cases opens : (Op.importKeypair key converts objId).opensSession with
  | false =>
    -- An import that is rejected makes no call at all.
    have rejected : teeImportKeypair lib primary key converts objId = pure (some .failed) :=
      rejected_prog lib primary _ opens
    rw [rejected]
    simp [Orphaned, outcomes]
  | true =>
    cases Op.opens_of opens with
    | importKeypair rsa _ objId modulus exponent =>
      have spec : Triple (StoredAt stored (stored s) [])
          (teeImportKeypair lib primary (some (.rsa rsa)) converts (some objId)) _ :=
        teeImportKeypair_ends stores primary rsa objId modulus exponent
      have ends := spec ⟨s, []⟩ ⟨rfl, rfl⟩
      revert ends
      generalize (teeImportKeypair lib primary (some (.rsa rsa)) converts (some objId)).exec
        ⟨s, []⟩ = ended
      obtain ⟨result, after⟩ := ended
      rintro ⟨objects, created, outcome, isStored, isCreated⟩
      have isStored : stored after.state = objects := isStored
      have isCreated : outcomes Request.creates after.calls = created := isCreated
      -- A new object is not one of the old ones.
      have grows : ∀ {pub : TokenObject}, (∀ o ∈ stored s, o.serial ≠ pub.serial) →
          ¬ ∀ o, o ∈ pub :: stored s ↔ o ∈ stored s :=
        fun new same => new _ ((same _).mp List.mem_cons_self) rfl
      simp only [Orphaned, isStored, isCreated]
      cases outcome with
      | refused => simp
      | unconverted new fails => simpa [fails, Result.failed] using grows new
      | died converted => simp [converted]
      | orphaned new => simpa [Result.failed] using grows new
      | imported => simp

omit stores

/-- The library, with some calls refused before they have any effect. -/
def Cryptoki.refusing (lib : Cryptoki τ) (rv : Nat) (refuses : τ → Request → Bool) :
    Cryptoki τ where
  call s request := if refuses s request then (.refused rv request, s) else lib.call s request

/-- A refused call stores no more than a served one that stores nothing. -/
theorem Cryptoki.refusing_keeps {rv : Nat} {refuses : τ → Request → Bool} {s : τ}
    {request : Request} (keeps : stored (lib.call s request).2 = stored s) :
    stored ((lib.refusing rv refuses).call s request).2 = stored s := by
  unfold Cryptoki.refusing
  -- The state is the one before, or the one of the library that is refusing.
  dsimp only
  split
  · rfl
  · exact keeps

/-- Refusing calls is one of the ways in which a library may fail. -/
theorem Cryptoki.Stores.refusing (stores : lib.Stores stored) {rv : Nat} (bad : rv ≠ ckrOk)
    (refuses : τ → Request → Bool) : (lib.refusing rv refuses).Stores stored where
  createObject := by
    intro s session template
    unfold Cryptoki.refusing
    dsimp only
    -- A refused creation fails, and adds nothing.
    split
    · rw [Reply.refused_rv]
      exact ⟨fun ok => absurd ok bad, fun _ => rfl⟩
    · exact stores.createObject s session template
  openSession s primary := refusing_keeps (stores.openSession s primary)
  closeSession s session := refusing_keeps (stores.closeSession s session)
  closeObjectHandle s session object := refusing_keeps (stores.closeObjectHandle s session object)
  finalize s := refusing_keeps (stores.finalize s)

/-- A request that an initialized soft token serves without storing anything stores nothing. -/
theorem softToken_keeps (t : SoftToken) {request : Request} (later : request ≠ .initializeLibrary)
    (serves : (t.serve none request).2.token.objects = t.token.objects) :
    ((softToken none).call t request).2.token.objects = t.token.objects := by
  -- Before its initialization the token refuses everything, and stays as it is.
  cases ready : t.initialized with
  | true => rw [softToken_initialized ready, serves]
  | false => cases request <;> simp [softToken, ready] at later ⊢

/-- The soft token stores what is created. -/
theorem softToken_stores : (softToken none).Stores fun t => t.token.objects where
  createObject := by
    intro t session template
    cases ready : t.initialized with
    | false => simp [softToken, ready, Reply.refused_rv, ckrCryptokiNotInitialized, ckrOk]
    | true =>
      rw [softToken_initialized ready]
      -- Every new object has a serial number above those there are.
      refine ⟨fun _ => ⟨t.newObject template, fun o there => ?_, rfl⟩, fun bad => absurd rfl bad⟩
      exact Nat.ne_of_lt (t.objectsBelow o there)
  openSession t _ := softToken_keeps t (by simp) rfl
  closeSession t _ := softToken_keeps t (by simp) rfl
  closeObjectHandle t _ _ := softToken_keeps t (by simp) rfl
  finalize t := softToken_keeps t (by simp) rfl

/-- A key with small numbers. -/
def smallRsa : Rsa := ⟨3233, 17, 2753, none, none, none, none, none⟩

/-- A token that has no room for private keys. -/
def fullToken : Cryptoki SoftToken :=
  (softToken none).refusing 0x31 fun _ request =>
    match request with
    | .createObject _ template => ⟨.objectClass, .ulong ckoPrivateKey⟩ ∈ template
    | _ => false

/-- On a token without room for private keys the condition is asked of the calls made there. -/
theorem importAtomic_iff_full :
    ImportAtomic (fun t : SoftToken => t.token.objects) fullToken 1 softOpened.state
        (some (.rsa smallRsa)) (fun _ => true) (some (Vector.replicate idLength 7)) ↔
      ¬ Orphaned (fun _ => true) ((teeImportKeypair fullToken 1 (some (.rsa smallRsa))
        (fun _ => true) (some (Vector.replicate idLength 7))).exec
          ⟨softOpened.state, []⟩).2.calls :=
  importAtomic_iff (softToken_stores.refusing (by decide) _) 1 _ _ _

/-- An import that finds no room for the private key leaves the public one behind. -/
theorem not_importAtomic_full :
    fullToken.Stores (fun t => t.token.objects) ∧
      ¬ ImportAtomic (fun t : SoftToken => t.token.objects) fullToken 1 softOpened.state
        (some (.rsa smallRsa)) (fun _ => true) (some (Vector.replicate idLength 7)) := by
  refine ⟨softToken_stores.refusing (by decide) _, fun atomic => ?_⟩
  let ended := (teeImportKeypair fullToken 1 (some (.rsa smallRsa)) (fun _ => true)
    (some (Vector.replicate idLength 7))).exec ⟨softOpened.state, []⟩
  have failed : ended.1 = some .failed := by decide +kernel
  have same := atomic .failed failed rfl
  -- The token was empty before, and is not afterwards.
  have empty : softOpened.state.token.objects = [] := rfl
  have one : ended.2.state.token.objects.length = 1 := by decide +kernel
  obtain ⟨o, isOnly⟩ := List.length_eq_one_iff.mp one
  have there : o ∈ softOpened.state.token.objects :=
    (same o).mp (show o ∈ ended.2.state.token.objects by simp [isOnly])
  rw [empty] at there
  cases there

end Import

end Grouper.Keymaster
