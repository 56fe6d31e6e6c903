import Grouper.Keymaster.Token

/-! What the operations come to for the objects of a token whose library serves every valid call. -/

namespace Grouper.Keymaster

open Function (update)
open Prog (Triple)

/-- An object with all attributes of a template has those of every part of it. -/
theorem TokenObject.hasAll_of_subset {o : TokenObject} {part template : Template}
    (has : o.hasAll template = true) (within : part ⊆ template) : o.hasAll part = true :=
  List.all_eq_true.mpr fun a member => List.all_eq_true.mp has a (within member)

namespace Token

variable (t : Token)

/-- Closing the session opened last takes back what opening it has changed. -/
theorem close_openSession (session : Nat) (objects : List TokenObject) :
    ({ t.openSession session with objects := objects } : Token).closeSession session =
      { t with objects := objects } := by
  simp [openSession, closeSession]

/-- An entry that is set and cleared again leaves no trace. -/
theorem update_clear {α : Type} {f : Nat → Option α} {key : Nat} (empty : f key = none)
    (value : Option α) : update (update f key value) key none = f := by
  rw [Function.update_idem]
  exact Function.update_eq_self_iff.mpr empty.symm

/-- Ending a search takes back what starting it has changed. -/
theorem stop_startSearch {session : Nat} (idle : t.searching session = none)
    (template : Template) : (t.startSearch session template).stopSearch session = t :=
  congrArg (fun searching => { t with searching := searching }) (update_clear idle _)

/-- A handle that was free leaves no trace once it is closed again. -/
theorem close_openHandle {handle : Nat} (free : t.FreeHandle handle) (o : TokenObject)
    (objects : List TokenObject) :
    ({ t.openHandle handle o with objects := objects } : Token).closeHandle handle =
      { t with objects := objects } :=
  congrArg (fun handles => { t with objects := objects, handles := handles })
    (update_clear free.2 _)

/-- A handle that was free is another one than the handle before it. -/
theorem handles_pair {one two : Nat} {pub priv : TokenObject}
    (freeToo : (t.openHandle one pub).FreeHandle two) :
    ((t.openHandle one pub).openHandle two priv).handles one = some pub := by
  -- The second handle was free after the first one was taken, so they differ.
  have other : one ≠ two := by
    rintro rfl
    have taken : update t.handles one (some pub) one = none := freeToo.2
    rw [Function.update_self] at taken
    cases taken
  show update (update t.handles one (some pub)) two (some priv) one = some pub
  rw [Function.update_of_ne other, Function.update_self]

end Token

variable {τ : Type} {lib : Cryptoki τ} {view : τ → Token}

/-- The library's state stands for the token. -/
def At (view : τ → Token) (t : Token) (tee : Tee τ) : Prop := view tee.state = t

/-- A program that returns has changed nothing of the token but the objects, to some effect. -/
def Ends (view : τ → Token) (effect : Option Result → List TokenObject → Prop) (t : Token)
    (result : Option Result) (tee : Tee τ) : Prop :=
  result.isSome → ∃ objects, effect result objects ∧ At view { t with objects := objects } tee

/-- Returning with the objects as they are. -/
theorem Ends.unchanged {effect : Option Result → List TokenObject → Prop} {t : Token}
    {result : Option Result} {tee : Tee τ} (met : effect result t.objects) (at_ : At view t tee) :
    Ends view effect t result tee := fun _ => ⟨t.objects, met, at_⟩

section Sessions

variable (serves : lib.Serves view) {t : Token} {primary : Nat}

include serves

/-- A session can be opened as long as the one the module is initialised with is there. -/
theorem openCryptoSession_spec (member : primary ∈ t.sessions) :
    Triple (At view t) (openCryptoSession lib primary) fun session tee =>
      session ≠ ckInvalidHandle ∧ t.searching session = none ∧
        At view (t.openSession session) tee := by
  -- A valid call is served, so the session is a new one.
  rintro tee rfl
  obtain ⟨ok, valid, _, idle, after⟩ := serves.openSession tee.state primary member
  unfold openCryptoSession
  rw [Prog.exec_bind, exec_call, Prog.exec_ite, if_neg (by simp only [ok, valid]; simp)]
  exact ⟨valid, idle, after⟩

/-- An operation's body under its own session changes the objects as much as the operation does. -/
theorem withCryptoSession_spec (member : primary ∈ t.sessions)
    {body : Nat → KeymasterM τ (Option Result)}
    {effect : Option Result → List TokenObject → Prop}
    (spec : ∀ session, session ≠ ckInvalidHandle → t.searching session = none →
      Triple (At view (t.openSession session)) (body session)
        (Ends view effect (t.openSession session))) :
    Triple (At view t) (withCryptoSession lib primary body) (Ends view effect t) := by
  refine .bind (openCryptoSession_spec serves member) fun session => ?_
  rintro opened ⟨valid, idle, at_⟩
  have ran := spec session valid idle opened at_
  rw [Prog.exec_bind, Prog.exec_bind, Prog.exec_when, Prog.exec_pure]
  intro returned
  obtain ⟨objects, met, after⟩ := ran returned
  refine ⟨objects, met, ?_⟩
  rw [if_pos returned]
  unfold closeCryptoSession
  rw [Prog.exec_when, if_pos valid, Prog.exec_bind, exec_call]
  -- The session closed is the one opened before the body.
  have own : session ∈ (view ((body session).exec opened).2.state).sessions := by
    rw [after]
    exact List.mem_cons_self
  show view _ = _
  refine (serves.closeSession _ session own).trans ?_
  rw [after]
  exact t.close_openSession session objects

/-- A body under a handle of its own leaves no trace of the handle. -/
theorem withObjectHandle_spec (member : primary ∈ t.sessions) {handle : Nat}
    (free : t.FreeHandle handle) {o : TokenObject} {pre : Tee τ → Prop}
    {body : KeymasterM τ (Option Result)} {effect : Option Result → List TokenObject → Prop}
    (spec : Triple pre body (Ends view effect (t.openHandle handle o))) :
    Triple pre (withObjectHandle lib primary handle body) (Ends view effect t) := by
  intro tee met
  have ran := spec tee met
  unfold withObjectHandle closeObjectHandle
  rw [Prog.exec_bind, Prog.exec_bind, Prog.exec_when, Prog.exec_pure]
  intro returned
  obtain ⟨objects, met, after⟩ := ran returned
  refine ⟨objects, met, ?_⟩
  rw [if_pos returned, Prog.exec_when, if_pos free.1, Prog.exec_bind, exec_call]
  -- The destructor goes through the primary session, which is still there.
  have there : primary ∈ (view (body.exec tee).2.state).sessions := by
    rw [after]
    exact member
  have isOpen : (view (body.exec tee).2.state).handles handle ≠ none := by
    rw [after]
    show Function.update t.handles handle (some o) handle ≠ none
    rw [Function.update_self]
    simp
  show view _ = _
  refine (serves.closeObjectHandle _ primary handle there isOpen).trans ?_
  rw [after]
  exact t.close_openHandle free o objects

end Sessions

/-- A handle that was never filled needs no closing. -/
theorem withObjectHandle_invalid {primary : Nat} {pre : Tee τ → Prop}
    {body : KeymasterM τ (Option Result)} {post : Option Result → Tee τ → Prop}
    (spec : Triple pre body post) :
    Triple pre (withObjectHandle lib primary ckInvalidHandle body) post := by
  intro tee met
  -- The destructor looks at the handle before it closes anything.
  have nothing : (closeObjectHandle lib primary ckInvalidHandle) = pure () := by
    unfold closeObjectHandle Prog.when
    exact if_neg (not_not_intro rfl)
  unfold withObjectHandle
  rw [nothing, Prog.exec_bind, Prog.exec_bind, Prog.exec_when, Prog.exec_pure, Prog.exec_pure,
    ite_self]
  exact spec tee met

section Search

/-- What a search for one object comes to. -/
inductive Found (t : Token) (template : Template) : Option Nat → Token → Prop
  | nothing (none_ : ∀ o ∈ t.objects, o.hasAll template = false) : Found t template none t
  | object {handle : Nat} {o : TokenObject} (present : o ∈ t.objects)
      (has : o.hasAll template = true) (free : t.FreeHandle handle) :
      Found t template (some handle) (t.openHandle handle o)

/-- What restoring a blob comes to. -/
inductive Restoration (t : Token) (keyBlob : Option (List UInt8)) : Restored → Token → Prop
  | rejected (bad : blobId keyBlob = none) : Restoration t keyBlob ⟨-1, 0, 0⟩ t
  | noPublicKey {objId : List UInt8} (good : blobId keyBlob = some objId)
      (none_ : ∀ o ∈ t.objects, o.hasAll (keyTemplate objId ckoPublicKey) = false) :
      Restoration t keyBlob ⟨1, 0, 0⟩ t
  | noPrivateKey {objId : List UInt8} {one : Nat} {pub : TokenObject}
      (good : blobId keyBlob = some objId) (free : t.FreeHandle one)
      (none_ : ∀ o ∈ t.objects, o.hasAll (keyTemplate objId ckoPrivateKey) = false) :
      Restoration t keyBlob ⟨1, one, 0⟩ (t.openHandle one pub)
  | pair {objId : List UInt8} {one two : Nat} {pub priv : TokenObject}
      (good : blobId keyBlob = some objId) (pubIn : pub ∈ t.objects) (privIn : priv ∈ t.objects)
      (pubHas : pub.hasAll (keyTemplate objId ckoPublicKey) = true)
      (privHas : priv.hasAll (keyTemplate objId ckoPrivateKey) = true)
      (free : t.FreeHandle one) (freeToo : (t.openHandle one pub).FreeHandle two) :
      Restoration t keyBlob ⟨0, one, two⟩ ((t.openHandle one pub).openHandle two priv)

variable (serves : lib.Serves view) {t : Token} {session : Nat}

include serves

/-- A session without a search can start one. -/
theorem findObjectsInit_spec (member : session ∈ t.sessions) (idle : t.searching session = none)
    (template : Template) : Triple (At view t) (call lib (.findObjectsInit session template))
      fun reply tee => reply.rv = ckrOk ∧ At view (t.startSearch session template) tee := by
  rintro tee rfl
  exact serves.findObjectsInit tee.state session template member idle

/--
A search for one object finds none only if there is none, and else opens a fresh handle to it.
-/
theorem findObjects_spec (member : session ∈ t.sessions) {template : Template}
    (searching : t.searching session = some template) :
    Triple (At view t) (call lib (.findObjects session 1)) fun reply tee => reply.rv = ckrOk ∧
      ((∀ o ∈ t.objects, o.hasAll template = false) ∧ reply.answer.2 = 0 ∧ At view t tee ∨
        ∃ o ∈ t.objects, o.hasAll template = true ∧ reply.answer.2 = 1 ∧
          t.FreeHandle reply.answer.1 ∧ At view (t.openHandle reply.answer.1 o) tee) := by
  rintro tee rfl
  exact serves.findObjects tee.state session template member searching

/-- A session can end its search. -/
theorem findObjectsFinal_spec (member : session ∈ t.sessions) :
    Triple (At view t) (call lib (.findObjectsFinal session)) fun _ tee =>
      At view (t.stopSearch session) tee := by
  rintro tee rfl
  exact serves.findObjectsFinal tee.state session member

/-- A search as a whole leaves the session without one, and finds what is there. -/
theorem findSingleObject_spec (member : session ∈ t.sessions) (idle : t.searching session = none)
    (objId : List UInt8) (objClass : Nat) :
    Triple (At view t) (findSingleObject lib session objId objClass) fun found tee =>
      ∃ after, Found t (keyTemplate objId objClass) found after ∧ At view after tee := by
  let template := keyTemplate objId objClass
  refine .bind (findObjectsInit_spec serves member idle template) fun init => ?_
  refine .ite ?_ fun _ => ?_
  · -- The beginning of a search is served.
    exact fun fails tee met => absurd met.1 fails
  · have searching : (t.startSearch session template).searching session = some template :=
      Function.update_self ..
    have stopped := t.stop_startSearch idle template
    have found := findObjects_spec serves (t := t.startSearch session template) member searching
    refine .bind (found.mono (fun _ met => met.2) fun _ _ => id) fun reply => ?_
    rintro tee ⟨ok, outcome⟩
    rw [Prog.exec_bind, Prog.exec_ite, Prog.exec_pure, Prog.exec_pure]
    rcases outcome with ⟨none_, count, at_⟩ | ⟨o, present, has, count, free, at_⟩
    · -- Nothing matches, and the search leaves no trace.
      rw [if_pos (Or.inr (by rw [count]; exact Nat.zero_ne_one))]
      have ended :=
        findObjectsFinal_spec serves (t := t.startSearch session template) member tee at_
      rw [stopped] at ended
      exact ⟨t, .nothing none_, ended⟩
    · -- The handle found outlives the search.
      rw [if_neg (by simp [ok, count])]
      have ended := findObjectsFinal_spec serves
        (t := (t.startSearch session template).openHandle reply.answer.1 o) member tee at_
      refine ⟨_, .object present has free, ended.trans ?_⟩
      exact congrArg (Token.openHandle · _ o) stopped

/-- A blob is restored to the handles of its two keys, or fails. -/
theorem keyblobRestore_spec (member : session ∈ t.sessions) (idle : t.searching session = none)
    (keyBlob : Option (List UInt8)) :
    Triple (At view t) (keyblobRestore lib session keyBlob) fun restored tee =>
      ∃ after, Restoration t keyBlob restored after ∧ At view after tee := by
  unfold keyblobRestore
  cases good : blobId keyBlob with
  -- The checks come before the first search.
  | none => exact .pure fun _ at_ => ⟨t, .rejected good, at_⟩
  | some objId =>
    refine .bind (findSingleObject_spec serves member idle objId _) fun found => ?_
    rintro tee ⟨middle, outcome, at_⟩
    cases outcome with
    | nothing none_ => exact ⟨t, .noPublicKey good none_, at_⟩
    | @object one pub pubIn pubHas free =>
      dsimp only
      rw [Prog.exec_bind]
      -- The second search runs with the handle of the public key open.
      have second := findSingleObject_spec serves (t := t.openHandle one pub) member idle objId
        ckoPrivateKey tee at_
      revert second
      generalize (findSingleObject lib session objId ckoPrivateKey).exec tee = ended
      obtain ⟨found, after⟩ := ended
      rintro ⟨final, outcome, at_⟩
      cases outcome with
      | nothing none_ => exact ⟨_, .noPrivateKey good free none_, at_⟩
      | object privIn privHas freeToo =>
        exact ⟨_, .pair good pubIn privIn pubHas privHas free freeToo, at_⟩

end Search

section Keypair

/-- Two objects are the key pair a blob names. -/
structure Pair (objects : List TokenObject) (keyBlob : Option (List UInt8))
    (pub priv : TokenObject) (objId : List UInt8) : Prop where
  good : blobId keyBlob = some objId
  pubIn : pub ∈ objects
  privIn : priv ∈ objects
  pubHas : pub.hasAll (keyTemplate objId ckoPublicKey) = true
  privHas : priv.hasAll (keyTemplate objId ckoPrivateKey) = true

/-- No two objects are the key pair a blob names. -/
def Lost (objects : List TokenObject) (keyBlob : Option (List UInt8)) : Prop :=
  ∀ pub priv objId, ¬ Pair objects keyBlob pub priv objId

/-- Bytes that are no blob name no key pair. -/
theorem lost_of_rejected {objects : List TokenObject} {keyBlob : Option (List UInt8)}
    (bad : blobId keyBlob = none) : Lost objects keyBlob := by
  intro pub priv objId pair
  cases bad.symm.trans pair.good

/-- Nor does a blob without a public key. -/
theorem lost_of_noPublicKey {objects : List TokenObject} {keyBlob : Option (List UInt8)}
    {objId : List UInt8} (good : blobId keyBlob = some objId)
    (none_ : ∀ o ∈ objects, o.hasAll (keyTemplate objId ckoPublicKey) = false) :
    Lost objects keyBlob := by
  -- A pair for the blob would have its public key among the objects.
  intro pub priv other pair
  obtain rfl := Option.some.inj (good.symm.trans pair.good)
  exact Bool.noConfusion ((none_ pub pair.pubIn).symm.trans pair.pubHas)

/-- Nor does one without a private key. -/
theorem lost_of_noPrivateKey {objects : List TokenObject} {keyBlob : Option (List UInt8)}
    {objId : List UInt8} (good : blobId keyBlob = some objId)
    (none_ : ∀ o ∈ objects, o.hasAll (keyTemplate objId ckoPrivateKey) = false) :
    Lost objects keyBlob := by
  -- A pair for the blob would have its private key among the objects.
  intro pub priv other pair
  obtain rfl := Option.some.inj (good.symm.trans pair.good)
  exact Bool.noConfusion ((none_ priv pair.privIn).symm.trans pair.privHas)

variable (serves : lib.Serves view) {t : Token} {session primary : Nat}

include serves

/-- An operation on a blob fails, or its body runs on the two objects the blob names. -/
theorem withKeypair_spec (member : session ∈ t.sessions) (idle : t.searching session = none)
    (primaryIn : primary ∈ t.sessions) {keyBlob : Option (List UInt8)}
    {body : Nat → Nat → KeymasterM τ (Option Result)}
    {effect : Option Result → List TokenObject → Prop}
    (unrestored : Lost t.objects keyBlob → effect (some .failed) t.objects)
    (spec : ∀ {pub priv objId one two}, Pair t.objects keyBlob pub priv objId →
      t.FreeHandle one → (t.openHandle one pub).FreeHandle two →
      Triple (At view ((t.openHandle one pub).openHandle two priv)) (body one two)
        (Ends view effect ((t.openHandle one pub).openHandle two priv))) :
    Triple (At view t) (withKeypair lib session primary keyBlob body) (Ends view effect t) := by
  refine .bind (keyblobRestore_spec serves member idle keyBlob) fun restored => ?_
  rintro tee ⟨after, outcome, at_⟩
  -- What has been opened so far decides which of the two destructors do something.
  have giveUp : ∀ u, u.objects = t.objects → Lost t.objects keyBlob →
      Triple (At view u) (pure (some .failed) : KeymasterM τ (Option Result))
        (Ends view effect u) := by
    intro u same lost
    exact .pure fun _ there => .unchanged (same ▸ unrestored lost) there
  cases outcome with
  | rejected bad =>
    exact withObjectHandle_invalid
      (withObjectHandle_invalid (giveUp t rfl (lost_of_rejected bad))) tee at_
  | noPublicKey good none_ =>
    exact withObjectHandle_invalid
      (withObjectHandle_invalid (giveUp t rfl (lost_of_noPublicKey good none_))) tee at_
  | @noPrivateKey _ one pub good free none_ =>
    -- The handle of the public key is open, and is closed again.
    have lost := lost_of_noPrivateKey good none_
    exact withObjectHandle_spec serves primaryIn free
      (withObjectHandle_invalid (giveUp (t.openHandle one pub) rfl lost)) tee at_
  | @pair _ one _ pub _ good pubIn privIn pubHas privHas free freeToo =>
    have ran := spec ⟨good, pubIn, privIn, pubHas, privHas⟩ free freeToo
    have inner := withObjectHandle_spec serves (t := t.openHandle one pub) primaryIn freeToo ran
    exact withObjectHandle_spec serves primaryIn free inner tee at_

end Keypair

section Creation

/-- An object with all attributes of a template has the ID and the class it gives. -/
theorem TokenObject.hasKey {o : TokenObject} {template : Template} {objId : List UInt8}
    {objClass : Nat} (has : o.hasAll template = true)
    (id : ⟨.id, .bytes objId⟩ ∈ template)
    (class_ : ⟨.objectClass, .ulong objClass⟩ ∈ template) :
    o.hasAll (keyTemplate objId objClass) = true := by
  -- An object is searched by two attributes, and the template gives both.
  refine o.hasAll_of_subset has fun a member => ?_
  rcases List.mem_cons.mp member with rfl | member
  · exact id
  · rw [List.mem_singleton.mp member]
    exact class_

/-- Converted numbers keep their types. -/
theorem convertAll_types {converts : AttributeType → Bool} :
    ∀ {numbers : List (AttributeType × Nat)} {template : Template},
      convertAll converts numbers = some template →
      template.map Attribute.type = numbers.map Prod.fst
  | [], template, converted => by
    obtain rfl := Option.some.inj converted
    rfl
  | (type, bn) :: rest, template, converted => by
    simp only [convertAll, Option.bind_eq_bind, Option.bind_eq_some_iff, Option.pure_def,
      Option.some.injEq] at converted
    obtain ⟨bytes, _, tail, later, rfl⟩ := converted
    simp [convertAll_types later]

/-- The extra parts of a key are there together, in the order of the CRT form. -/
theorem extraData_types {rsa : Rsa} {numbers : List (AttributeType × Nat)}
    (data : rsa.extraData = some numbers) : numbers.map Prod.fst =
      [.prime1, .prime2, .exponent1, .exponent2, .coefficient] := by
  -- The first part that is missing would have ended the search for them.
  simp only [Rsa.extraData, Option.bind_eq_bind, Option.bind_eq_some_iff, Option.pure_def,
    Option.some.injEq] at data
  obtain ⟨_, _, _, _, _, _, _, _, _, _, rfl⟩ := data
  rfl

/-- The extra attributes of a private key, if there are any, are those of the CRT form. -/
theorem extra_types {rsa : Rsa} {converts : AttributeType → Bool} {extra : Template}
    (converted : rsa.extraData.elim (some []) (convertAll converts) = some extra) :
    extra.map Attribute.type = [] ∨ extra.map Attribute.type =
      [.prime1, .prime2, .exponent1, .exponent2, .coefficient] := by
  -- The attributes are those of the five numbers, where these are given.
  cases data : rsa.extraData with
  | none =>
    rw [data] at converted
    obtain rfl := Option.some.inj converted
    exact Or.inl rfl
  | some numbers =>
    rw [data] at converted
    rw [convertAll_types converted]
    exact Or.inr (extraData_types data)

/-- The template of an imported private key names each attribute once, and its own identifier. -/
theorem proper_importedPrivateKeyTemplate {rsa : Rsa} {converts : AttributeType → Bool}
    {extra : Template} (objId : KeyId) (modulus publicExponent privateExponent : List UInt8)
    (converted : rsa.extraData.elim (some []) (convertAll converts) = some extra) :
    Proper (importedPrivateKeyTemplate objId modulus publicExponent privateExponent extra) := by
  -- The nine attributes of the normal part are none of the five extra ones.
  unfold Proper importedPrivateKeyTemplate
  rw [List.map_append]
  rcases extra_types converted with types | types
  · rw [types]
    simp
  · rw [types]
    simp

variable (serves : lib.Serves view) {t : Token} {session primary : Nat}

/-- Two new objects are the key pair of an ID. -/
structure NewPair (objects : List TokenObject) (objId : KeyId) (pub priv : TokenObject) :
    Prop where
  pubHas : pub.hasAll (keyTemplate objId.toList ckoPublicKey) = true
  privHas : priv.hasAll (keyTemplate objId.toList ckoPrivateKey) = true
  pubNew : ∀ o ∈ objects, o.serial ≠ pub.serial
  privNew : ∀ o ∈ pub :: objects, o.serial ≠ priv.serial

/-- What making a key pair for an ID comes to, with the template the public key is made from. -/
inductive Made (objects : List TokenObject) (objId : KeyId) (template : Template) :
    Option Result → List TokenObject → Prop
  | pair {pub priv : TokenObject} (new : NewPair objects objId pub priv)
      (hasAll : pub.hasAll template = true) :
      Made objects objId template (some ⟨0, .keyBlob (keyblobSave objId)⟩)
        (priv :: pub :: objects)
  | half {pub : TokenObject} (pubHas : pub.hasAll (keyTemplate objId.toList ckoPublicKey) = true)
      (pubNew : ∀ o ∈ objects, o.serial ≠ pub.serial) :
      Made objects objId template (some .failed) (pub :: objects)

include serves

/-- Generating a pair adds its two objects, or none. -/
theorem generateInSession_spec (member : session ∈ t.sessions) (primaryIn : primary ∈ t.sessions)
    (params : RsaKeygenParams) (objId : KeyId) :
    Triple (At view t) (generateInSession lib primary session params objId)
      (Ends view (Made t.objects objId (generatedPublicKeyTemplate objId params)) t) := by
  -- The two objects come from one call, each with a handle of its own.
  rintro tee rfl
  obtain ⟨ok, pub, priv, pubHas, privHas, pubNew, privNew, free, freeToo, after⟩ :=
    serves.generateKeyPair tee.state session (generatedPublicKeyTemplate objId params)
      (generatedPrivateKeyTemplate objId) member (by simp [Proper, generatedPublicKeyTemplate])
      (by simp [Proper, generatedPrivateKeyTemplate])
  have made : Made (view tee.state).objects objId (generatedPublicKeyTemplate objId params)
      (some ⟨0, .keyBlob (keyblobSave objId)⟩) (priv :: pub :: (view tee.state).objects) := by
    refine .pair ⟨TokenObject.hasKey pubHas ?_ ?_, TokenObject.hasKey privHas ?_ ?_, pubNew,
      privNew⟩ (pub.hasAll_of_subset pubHas (List.subset_cons_self ..))
    all_goals simp [generatedPublicKeyTemplate, generatedPrivateKeyTemplate]
  unfold generateInSession
  rw [Prog.exec_bind, exec_call, Prog.exec_ite, if_neg (not_not_intro ok)]
  -- Both handles are closed again, and the new objects stay.
  refine withObjectHandle_spec serves primaryIn free (o := pub)
    (withObjectHandle_spec serves (t := (view tee.state).openHandle _ pub) primaryIn freeToo
      (o := priv) (.pure fun _ at_ _ => ⟨_, made, at_⟩)) _ after

/-- The private key is added to the public one, or the public one is taken back. -/
theorem importPrivateKey_spec {objects : List TokenObject} {pub : TokenObject}
    (member : session ∈ t.sessions) (primaryIn : primary ∈ t.sessions)
    (holds : t.objects = pub :: objects) (rsa : Rsa) (converts : AttributeType → Bool)
    (objId : KeyId) (modulus publicExponent : List UInt8)
    {template : Template} (hasAll : pub.hasAll template = true)
    (pubHas : pub.hasAll (keyTemplate objId.toList ckoPublicKey) = true)
    (pubNew : ∀ o ∈ objects, o.serial ≠ pub.serial) :
    Triple (At view t)
      (importPrivateKey lib primary session rsa converts objId modulus publicExponent)
      (Ends view (Made objects objId template) t) := by
  unfold importPrivateKey
  cases bignumToArray converts .privateExponent rsa.d with
  -- An exponent that is not converted leaves the public key alone in the token.
  | none => exact .pure fun _ at_ => .unchanged (holds ▸ .half pubHas pubNew) at_
  | some privateExponent =>
    cases converted : rsa.extraData.elim (some []) (convertAll converts) with
    -- An extra part that is not converted ends the process.
    | none => exact .pure fun _ _ returned => by cases returned
    | some extra =>
      rintro tee rfl
      obtain ⟨ok, priv, privHas, privNew, free, after⟩ := serves.createObject tee.state session
        (importedPrivateKeyTemplate objId modulus publicExponent privateExponent extra) member
        (proper_importedPrivateKeyTemplate objId _ _ _ converted)
      have made : Made objects objId template (some ⟨0, .keyBlob (keyblobSave objId)⟩)
          (priv :: (view tee.state).objects) := by
        rw [holds]
        refine .pair ⟨pubHas, TokenObject.hasKey privHas ?_ ?_, pubNew, ?_⟩ hasAll
        · simp [importedPrivateKeyTemplate]
        · simp [importedPrivateKeyTemplate]
        · exact holds ▸ privNew
      dsimp only
      rw [Prog.exec_bind, exec_call, Prog.exec_ite, if_neg (not_not_intro ok)]
      exact withObjectHandle_spec serves primaryIn free (o := priv)
        (.pure fun _ at_ _ => ⟨_, made, at_⟩) _ after

/-- Importing a pair adds its two objects, or none. -/
theorem importInSession_spec (member : session ∈ t.sessions) (primaryIn : primary ∈ t.sessions)
    (rsa : Rsa) (converts : AttributeType → Bool) (objId : KeyId)
    (modulus publicExponent : List UInt8) :
    Triple (At view t)
      (importInSession lib primary session rsa converts objId modulus publicExponent)
      (Ends view (Made t.objects objId
        (importedPublicKeyTemplate objId modulus publicExponent)) t) := by
  rintro tee rfl
  obtain ⟨ok, pub, pubHas, pubNew, free, after⟩ := serves.createObject tee.state session
    (importedPublicKeyTemplate objId modulus publicExponent) member
    (by simp [Proper, importedPublicKeyTemplate])
  have isKey : pub.hasAll (keyTemplate objId.toList ckoPublicKey) = true := by
    refine TokenObject.hasKey pubHas ?_ ?_ <;> simp [importedPublicKeyTemplate]
  unfold importInSession
  rw [Prog.exec_bind, exec_call, Prog.exec_ite, if_neg (not_not_intro ok)]
  -- The private key is made while the handle of the public one is open.
  have rest := fun handle => importPrivateKey_spec serves
    (t := ((view tee.state).create pub).openHandle handle pub) member primaryIn rfl rsa converts
    objId modulus publicExponent pubHas isKey pubNew
  exact withObjectHandle_spec serves primaryIn free (o := pub) (rest _) _ after

end Creation

section Use

variable {t : Token}

/-- A result that hands out no blob. -/
def Blobless (result : Option Result) : Prop :=
  ∀ blob ret, result ≠ some ⟨ret, .keyBlob blob⟩

/-- A body that makes no change and hands out no blob. -/
def Using (view : τ → Token) (t : Token) (body : KeymasterM τ (Option Result)) : Prop :=
  Triple (At view t) body fun result tee => Blobless result ∧ At view t tee

/-- Giving up leaves the token as it is. -/
theorem Using.failed : Using view t (pure (some .failed)) :=
  fun _ at_ => ⟨fun _ _ => by simp [Result.failed], at_⟩

/-- A call that leaves the token alone may come first. -/
theorem Using.call {request : Request} (quiet : ∀ s, view (lib.call s request).2 = view s)
    {rest : Reply request → KeymasterM τ (Option Result)}
    (later : ∀ reply, Using view t (rest reply)) : Using view t (call lib request >>= rest) := by
  -- A quiet request is answered without a change to what is seen of the library.
  intro tee at_
  rw [Prog.exec_bind, exec_call]
  exact later _ _ ((quiet tee.state).trans at_)

/-- A check that makes the body fail may come first. -/
theorem Using.check {condition : Prop} [Decidable condition] {rest : KeymasterM τ (Option Result)}
    (later : Using view t rest) :
    Using view t (if condition then pure (some .failed) else rest) :=
  Triple.ite (fun _ => Using.failed) fun _ => later

/-- A body that only uses the key pair has any effect that allows for the objects to stay. -/
theorem Using.ends {body : KeymasterM τ (Option Result)}
    {effect : Option Result → List TokenObject → Prop} (uses : Using view t body)
    (met : ∀ result, Blobless result → effect result t.objects) :
    Triple (At view t) body (Ends view effect t) := by
  -- What is seen is as before, so the effect is asked of the objects from before.
  intro tee at_
  obtain ⟨blobless, after⟩ := uses tee at_
  exact .unchanged (met _ blobless) after

end Use

/-- The ID of the key pair an operation makes. -/
def Op.objId : Op → Option KeyId
  | generateKeypair _ _ objId | importKeypair _ _ objId => objId
  | _ => none

/-- The template an operation makes the public key from, if it gets that far. -/
def Op.publicKeyTemplate : Op → Template
  | generateKeypair _ (some params) (some objId) => generatedPublicKeyTemplate objId params
  | importKeypair (some (.rsa rsa)) _ (some objId) =>
    importedPublicKeyTemplate objId (bnBn2bin rsa.n) (bnBn2bin rsa.e)
  | _ => []

/-- The blob of the key pair an operation works on. -/
def Op.keyBlob : Op → Option (Option (List UInt8))
  | generateKeypair _ _ _ | importKeypair _ _ _ => none
  | getKeypairPublic keyBlob _ _ | deleteKeypair keyBlob | signData _ keyBlob _
  | verifyData _ keyBlob _ _ => some keyBlob

/-- The objects that are left when the private and then the public key have been destroyed. -/
def removed (objects : List TokenObject) (pub priv : TokenObject) : List TokenObject :=
  (objects.filter fun o => o.serial ≠ priv.serial).filter fun o => o.serial ≠ pub.serial

/-- What an operation that returns does to the objects of the token. -/
inductive Op.Effect (objects : List TokenObject) : Op → Option Result → List TokenObject → Prop
  | rejected {op : Op} (bad : op.opensSession = false) : Effect objects op (some .failed) objects
  | made {op : Op} {objId : KeyId} {result : Option Result} {after : List TokenObject}
      (names : op.objId = some objId)
      (made : Made objects objId op.publicKeyTemplate result after) :
      Effect objects op result after
  | unrestored {op : Op} {keyBlob : Option (List UInt8)} (names : op.keyBlob = some keyBlob)
      (lost : Lost objects keyBlob) : Effect objects op (some .failed) objects
  | used {op : Op} {keyBlob : Option (List UInt8)} {pub priv : TokenObject}
      {objId : List UInt8} {result : Option Result} (names : op.keyBlob = some keyBlob)
      (pair : Pair objects keyBlob pub priv objId) (keeps : ∀ blob, op ≠ .deleteKeypair blob)
      (blobless : Blobless result) : Effect objects op result objects
  | deleted {keyBlob : Option (List UInt8)} {pub priv : TokenObject} {objId : List UInt8}
      (pair : Pair objects keyBlob pub priv objId) :
      Effect objects (.deleteKeypair keyBlob) (some ⟨0, .none⟩) (removed objects pub priv)

section Operations

variable (serves : lib.Serves view) {t : Token} {primary : Nat}

include serves

/-- An operation that works on a blob is as good as the body it runs on the key pair. -/
theorem keypair_spec (primaryIn : primary ∈ t.sessions) {op : Op}
    {keyBlob : Option (List UInt8)} (names : op.keyBlob = some keyBlob)
    {body : Nat → Nat → Nat → KeymasterM τ (Option Result)}
    (spec : ∀ {session pub priv objId one two}, session ≠ ckInvalidHandle →
      Pair t.objects keyBlob pub priv objId → t.FreeHandle one →
      (t.openHandle one pub).FreeHandle two →
      Triple (At view (((t.openSession session).openHandle one pub).openHandle two priv))
        (body session one two) (Ends view (op.Effect t.objects)
          (((t.openSession session).openHandle one pub).openHandle two priv))) :
    Triple (At view t) (withCryptoSession lib primary fun session =>
      withKeypair lib session primary keyBlob (body session))
      (Ends view (op.Effect t.objects) t) := by
  -- The new session is not searching, and the primary one is still there.
  refine withCryptoSession_spec serves primaryIn fun session valid idle => ?_
  exact withKeypair_spec serves (t := t.openSession session) List.mem_cons_self idle
    (List.mem_cons_of_mem _ primaryIn) (.unrestored names)
    fun pair free freeToo => spec valid pair free freeToo

/-- An operation that makes no change to its key pair may use it in whatever way. -/
theorem using_spec (primaryIn : primary ∈ t.sessions) {op : Op}
    {keyBlob : Option (List UInt8)} (names : op.keyBlob = some keyBlob)
    (keeps : ∀ blob, op ≠ .deleteKeypair blob)
    {body : Nat → Nat → Nat → KeymasterM τ (Option Result)}
    (uses : ∀ u session one two, Using view u (body session one two)) :
    Triple (At view t) (withCryptoSession lib primary fun session =>
      withKeypair lib session primary keyBlob (body session))
      (Ends view (op.Effect t.objects) t) :=
  keypair_spec serves primaryIn names fun _ pair _ _ =>
    (uses _ _ _ _).ends fun _ blobless => .used names pair keeps blobless

/-- Deleting destroys the two objects that the blob names. -/
theorem teeDeleteKeypair_spec (primaryIn : primary ∈ t.sessions)
    (keyBlob : Option (List UInt8)) :
    Triple (At view t) (teeDeleteKeypair lib primary keyBlob)
      (Ends view ((Op.deleteKeypair keyBlob).Effect t.objects) t) := by
  refine keypair_spec serves primaryIn rfl ?_
  intro session pub priv objId one two valid pair free freeToo tee at_
  let opened := ((t.openSession session).openHandle one pub).openHandle two priv
  have present : (view tee.state).handles two = some priv := by
    rw [at_]
    exact Function.update_self ..
  have member : session ∈ (view tee.state).sessions := by
    rw [at_]
    exact List.mem_cons_self
  obtain ⟨ok, after⟩ := serves.destroyObject tee.state session two priv member present
  rw [Prog.exec_bind, exec_call, Prog.exec_ite, if_neg (not_not_intro ok)]
  have after : view (lib.call tee.state (.destroyObject session two)).2 = opened.destroy priv :=
    after.trans (congrArg (Token.destroy · priv) at_)
  -- The handle of the public key is another one, so it still stands for the public key.
  have presentToo : (opened.destroy priv).handles one = some pub := t.handles_pair freeToo
  obtain ⟨okToo, final⟩ := serves.destroyObject _ session one pub (after ▸ List.mem_cons_self)
    (after ▸ presentToo)
  rw [Prog.exec_bind, exec_call, Prog.exec_ite, if_neg (not_not_intro okToo)]
  intro _
  exact ⟨_, .deleted pair, final.trans (congrArg (Token.destroy · pub) after)⟩

/-- Every operation that returns has one of the known effects on the objects. -/
theorem prog_spec (primaryIn : primary ∈ t.sessions) (op : Op) :
    Triple (At view t) (op.prog lib primary) (Ends view (op.Effect t.objects) t) := by
  -- By the operation: two make a pair, one deletes it, and three only use it.
  cases opens : op.opensSession with
  | false =>
    rw [rejected_prog lib primary op opens]
    exact .pure fun _ at_ => .unchanged (.rejected opens) at_
  | true =>
    cases Op.opens_of opens with
    | generateKeypair params objId =>
      show Triple _ (teeGenerateKeypair lib primary typeRsa (some params) (some objId)) _
      rw [teeGenerateKeypair_rsa]
      refine withCryptoSession_spec serves primaryIn fun session _ _ => ?_
      refine (generateInSession_spec serves (t := t.openSession session) List.mem_cons_self
        (List.mem_cons_of_mem _ primaryIn) params objId).mono (fun _ => id) ?_
      intro result tee ends returned
      obtain ⟨objects, made, at_⟩ := ends returned
      exact ⟨objects, .made rfl made, at_⟩
    | importKeypair rsa converts objId modulus exponent =>
      show Triple _ (teeImportKeypair lib primary (some (.rsa rsa)) converts (some objId)) _
      rw [teeImportKeypair_rsa lib primary rsa objId modulus exponent]
      refine withCryptoSession_spec serves primaryIn fun session _ _ => ?_
      refine (importInSession_spec serves (t := t.openSession session) List.mem_cons_self
        (List.mem_cons_of_mem _ primaryIn) rsa converts objId _ _).mono (fun _ => id) ?_
      intro result tee ends returned
      obtain ⟨objects, made, at_⟩ := ends returned
      exact ⟨objects, .made rfl made, at_⟩
    | getKeypairPublic keyBlob destination encodes =>
      refine using_spec serves primaryIn rfl (by simp) fun u session one two => ?_
      refine .check (.call (serves.getAttributeValue · session one _) fun sizes => .check ?_)
      refine .call (serves.getAttributeValue · session one _) fun values => .check ?_
      exact fun _ at_ => ⟨fun _ _ => by simp, at_⟩
    | deleteKeypair keyBlob => exact teeDeleteKeypair_spec serves primaryIn keyBlob
    | signData params keyBlob data =>
      refine using_spec serves primaryIn rfl (by simp) fun u session one two => ?_
      refine .check (.call (serves.signInit · session _ two) fun init => .check ?_)
      refine .call (serves.sign · session data _) fun signed => .check ?_
      exact fun _ at_ => ⟨fun _ _ => by simp, at_⟩
    | verifyData params keyBlob signedData signature =>
      refine using_spec serves primaryIn rfl (by simp) fun u session one two => ?_
      refine .check (.call (serves.verifyInit · session _ one) fun init => .check ?_)
      refine .call (serves.verify · session signedData signature) fun verified => .check ?_
      exact fun _ at_ => ⟨fun _ _ => by simp, at_⟩

end Operations

section Returns

/-- A program that returns, whatever the library does. -/
def Returns (p : KeymasterM τ (Option Result)) : Prop := ∀ tee, (p.exec tee).1.isSome

/-- A result is returned. -/
theorem Returns.result (result : Result) : Returns (pure (some result) : KeymasterM τ _) :=
  fun _ => rfl

/-- A program returns as the program behind its first call does. -/
theorem Returns.bind {α : Type} {first : KeymasterM τ α} {second : α → KeymasterM τ (Option Result)}
    (returns : ∀ value, Returns (second value)) : Returns (first >>= second) := by
  -- The first program ends somehow, and the second one is started there.
  intro tee
  rw [Prog.exec_bind]
  exact returns _ _

/-- A choice between programs that return is one. -/
theorem Returns.ite {condition : Prop} [Decidable condition]
    {yes no : KeymasterM τ (Option Result)} (one : Returns yes) (two : Returns no) :
    Returns (if condition then yes else no) := by
  -- Either branch returns.
  split
  · exact one
  · exact two

/-- The call of a destructor after the body does not touch the result. -/
theorem Returns.around {body : KeymasterM τ (Option Result)} (returns : Returns body)
    (close : Option Result → KeymasterM τ Unit) :
    Returns (do
      let result ← body
      close result
      return result) := by
  -- Closing the session comes after the result and does not touch it.
  intro tee
  rw [Prog.exec_bind, Prog.exec_bind, Prog.exec_pure]
  exact returns tee

/-- So does whatever is done with the keys of a blob. -/
theorem returns_withKeypair {session primary : Nat} {keyBlob : Option (List UInt8)}
    {body : Nat → Nat → KeymasterM τ (Option Result)}
    (returns : ∀ one two, Returns (body one two)) :
    Returns (withKeypair lib session primary keyBlob body) :=
  .bind fun _ => .around (.around (.ite (.result _) (returns _ _)) _) _

/-- So does whatever is done in a session of its own. -/
theorem returns_withCryptoSession {primary : Nat} {body : Nat → KeymasterM τ (Option Result)}
    (returns : ∀ session, Returns (body session)) :
    Returns (withCryptoSession lib primary body) := .bind fun session => .around (returns session) _

/-- Every operation on a blob returns. -/
theorem returns_prog {primary : Nat} (op : Op) {keyBlob : Option (List UInt8)}
    (names : op.keyBlob = some keyBlob) : Returns (op.prog lib primary) := by
  -- The bodies consist of checks and calls, and every branch ends in a result.
  cases op with
  | generateKeypair _ _ _ => cases names
  | importKeypair _ _ _ => cases names
  | getKeypairPublic _ _ _ =>
    refine returns_withCryptoSession fun _ => returns_withKeypair fun _ _ => ?_
    refine .ite (.result _) ?_
    refine .bind fun _ => ?_
    refine .ite (.result _) ?_
    refine .bind fun _ => ?_
    exact .ite (.result _) (.result _)
  | deleteKeypair _ =>
    refine returns_withCryptoSession fun _ => returns_withKeypair fun _ _ => ?_
    refine .bind fun _ => ?_
    refine .ite (.result _) ?_
    refine .bind fun _ => ?_
    exact .ite (.result _) (.result _)
  | signData params _ _ =>
    cases params with
    | none => exact .result _
    | some _ =>
      refine returns_withCryptoSession fun _ => returns_withKeypair fun _ _ => ?_
      refine .ite (.result _) ?_
      refine .bind fun _ => ?_
      refine .ite (.result _) ?_
      refine .bind fun _ => ?_
      exact .ite (.result _) (.result _)
  | verifyData params _ _ _ =>
    cases params with
    | none => exact .result _
    | some _ =>
      refine returns_withCryptoSession fun _ => returns_withKeypair fun _ _ => ?_
      refine .ite (.result _) ?_
      refine .bind fun _ => ?_
      refine .ite (.result _) ?_
      refine .bind fun _ => ?_
      exact .ite (.result _) (.result _)

end Returns

end Grouper.Keymaster
