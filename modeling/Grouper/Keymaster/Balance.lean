import Grouper.Keymaster.Failure

/-! What an operation takes from the library, and that it gives all of it back. -/

namespace Grouper.Keymaster

open Prog (Triple)

variable {τ : Type}

/-- What was taken and not given back, the newest first. -/
structure Held where
  sessions : List Nat
  /-- Each object handle comes with the session it was obtained under. -/
  handles : List (Nat × Nat)
  searching : List Nat
  deriving DecidableEq, Repr

namespace Held

/-- Nothing is held. -/
def nothing : Held := ⟨[], [], []⟩

variable (held : Held)

/-- A session is taken, unless it is no session at all. -/
def enter (session : Nat) : Held :=
  if session = ckInvalidHandle then held else { held with sessions := session :: held.sessions }

/-- A handle is obtained under a session, unless it is no handle at all. -/
def obtain_ (session handle : Nat) : Held :=
  if handle = ckInvalidHandle then held
  else { held with handles := (session, handle) :: held.handles }

/-- A session can be closed once everything that was taken under it has been given back. -/
def leave (session : Nat) : Option Held :=
  if session ∈ held.sessions ∧ session ∉ held.searching ∧
      ∀ entry ∈ held.handles, entry.1 ≠ session then
    some { held with sessions := held.sessions.erase session }
  else none

/-- A handle can be closed as often as it was obtained. -/
def release (handle : Nat) : Option Held :=
  (held.handles.find? fun entry => entry.2 = handle).map fun entry =>
    { held with handles := held.handles.erase entry }

/-- A search can be ended as often as it was begun. -/
def endSearch (session : Nat) : Option Held :=
  if session ∈ held.searching then
    some { held with searching := held.searching.erase session }
  else none

end Held

/-- What a call takes or gives back, if it is one that may be made with what is held. -/
def account (held : Held) : Event → Option Held
  | ⟨.openSession _, reply⟩ =>
    some (if reply.rv = ckrOk then held.enter reply.answer else held)
  | ⟨.closeSession session, _⟩ => held.leave session
  | ⟨.generateKeyPair session _ _ _, reply⟩ =>
    some (if reply.rv = ckrOk then
      (held.obtain_ session reply.answer.1).obtain_ session reply.answer.2 else held)
  | ⟨.createObject session _, reply⟩ =>
    some (if reply.rv = ckrOk then held.obtain_ session reply.answer else held)
  -- A search for one object obtains a handle when it reports one.
  | ⟨.findObjects session _, reply⟩ =>
    some (if reply.rv = ckrOk ∧ reply.answer.2 = 1 then held.obtain_ session reply.answer.1
      else held)
  | ⟨.closeObjectHandle _ handle, _⟩ => held.release handle
  | ⟨.findObjectsInit session _, reply⟩ =>
    some (if reply.rv = ckrOk then { held with searching := session :: held.searching } else held)
  | ⟨.findObjectsFinal session, _⟩ => held.endSearch session
  | _ => some held

/-- In a sequence of calls everything is given back that was taken, and once, and in order. -/
def Balanced (calls : List Event) : Prop := run account .nothing calls = some .nothing

/-- The calls made since a log was as it was lead to what is held. -/
def Accounted (start : List Event) (held : Held) (tee : Tee τ) : Prop :=
  -- The newest call of a log comes first, and a run takes the oldest first.
  ∃ calls, tee.calls = calls ++ start ∧ run account .nothing calls.reverse = some held

/-- A program that returns has led to what is held. -/
def Gives (start : List Event) (held : Held) (result : Option Result) (tee : Tee τ) : Prop :=
  result.isSome → Accounted start held tee

namespace Held

variable (held : Held)

/-- An invalid session is not entered into the books. -/
@[simp] theorem enter_invalid : held.enter ckInvalidHandle = held := if_pos rfl

/-- Nor is an invalid handle. -/
@[simp] theorem obtain_invalid (session : Nat) : held.obtain_ session ckInvalidHandle = held :=
  if_pos rfl

/-- The session taken last can be closed if nothing else is held. -/
theorem leave_enter {session : Nat} (valid : session ≠ ckInvalidHandle) :
    (nothing.enter session).leave session = some nothing := by
  simp [enter, leave, nothing, valid]

/-- The handle obtained last is the first that is found to be closed. -/
theorem release_obtain (session : Nat) {handle : Nat} (valid : handle ≠ ckInvalidHandle) :
    (held.obtain_ session handle).release handle = some held := by
  simp [obtain_, release, valid]

/-- The search begun last can be ended. -/
theorem endSearch_cons (session : Nat) :
    ({ held with searching := session :: held.searching } : Held).endSearch session =
      some held := by
  simp [endSearch]

end Held

section Programs

variable {start : List Event} {held : Held} {lib : Cryptoki τ}

/-- A call adds to what is held what it is accounted for. -/
theorem accounted_call {request : Request} {after : Reply request → Held}
    (accounts : ∀ reply, account held ⟨request, reply⟩ = some (after reply)) :
    Triple (Accounted start held) (call lib request) fun reply tee =>
      Accounted start (after reply) tee := by
  -- The log grows by the call, and the run by one step at its end.
  rintro tee ⟨calls, log, ran⟩
  refine ⟨⟨request, (lib.call tee.state request).1⟩ :: calls, ?_, ?_⟩
  · rw [exec_call, log]
    rfl
  · rw [List.reverse_cons]
    exact run_append.mpr ⟨held, ran, run_cons.mpr ⟨_, accounts _, rfl⟩⟩

/-- A call whose reply does not matter leads on to what it is accounted for. -/
theorem accounted_ignore {request : Request} {after : Held}
    (accounts : ∀ reply, account held ⟨request, reply⟩ = some after) :
    Triple (Accounted start held) (do let _ ← call lib request) fun (_ : Unit) =>
      Accounted start after :=
  .bind (accounted_call accounts) fun _ => .pure fun _ met => met

/-- The constructor of a session enters the session it returns. -/
theorem accounted_openCryptoSession (primary : Nat) :
    Triple (Accounted start .nothing) (openCryptoSession lib primary) fun session =>
      Accounted start (Held.nothing.enter session) := by
  -- A session that is refused is not taken, and neither is an invalid one.
  refine .bind (accounted_call fun _ => rfl) fun reply => ?_
  refine .ite (fun refused => ?_) fun fine => ?_
  · have nothing : (if reply.rv = ckrOk then Held.nothing.enter reply.answer else .nothing) =
        Held.nothing := by
      split
      · rename_i ok
        have invalid : reply.answer = ckInvalidHandle :=
          refused.resolve_left fun fails => fails ok
        rw [invalid, Held.enter_invalid]
      · rfl
    rw [nothing]
    exact .bind (accounted_call fun _ => rfl) fun _ => .pure fun _ met => met
  · have ok : reply.rv = ckrOk := not_not.mp fun fails => fine (Or.inl fails)
    rw [if_pos ok]
    exact .pure fun _ met => met

/-- Its destructor takes it out. -/
theorem accounted_closeCryptoSession (session : Nat) :
    Triple (Accounted start (Held.nothing.enter session)) (closeCryptoSession lib session)
      fun _ => Accounted start .nothing := by
  -- An invalid session was never taken, and is not given back.
  refine .when (fun valid => accounted_ignore fun _ => Held.leave_enter valid) ?_
  intro invalid _ met
  rwa [not_not.mp invalid, Held.enter_invalid] at met

/-- The destructor of a handle takes the handle out. -/
theorem accounted_closeObjectHandle (primary session handle : Nat) :
    Triple (Accounted start (held.obtain_ session handle)) (closeObjectHandle lib primary handle)
      fun _ => Accounted start held := by
  -- The same holds of an invalid handle.
  refine .when (fun valid => accounted_ignore fun _ => held.release_obtain session valid) ?_
  intro invalid _ met
  rwa [not_not.mp invalid, Held.obtain_invalid] at met

/-- A destructor gives back what its body left to it. -/
theorem accounted_withObjectHandle (primary session handle : Nat) {pre : Tee τ → Prop}
    {body : KeymasterM τ (Option Result)}
    (gives : Triple pre body (Gives start (held.obtain_ session handle))) :
    Triple pre (withObjectHandle lib primary handle body) (Gives start held) := by
  -- A body that died closes nothing, and a claim is made only for one that returned.
  refine .bind gives fun result => ?_
  intro tee met
  rw [Prog.exec_bind, Prog.exec_when, Prog.exec_pure]
  intro returned
  rw [if_pos returned]
  exact accounted_closeObjectHandle primary session handle tee (met returned)

/-- An operation gives everything back if its body leaves no more than the session. -/
theorem accounted_withCryptoSession (primary : Nat) {body : Nat → KeymasterM τ (Option Result)}
    (gives : ∀ session, Triple (Accounted start (Held.nothing.enter session)) (body session)
      (Gives start (Held.nothing.enter session))) :
    Triple (Accounted start .nothing) (withCryptoSession lib primary body)
      (Gives start .nothing) := by
  -- The session is taken before the body and given back after it.
  refine .bind (accounted_openCryptoSession primary) fun session => ?_
  refine .bind (gives session) fun result => ?_
  intro tee met
  rw [Prog.exec_bind, Prog.exec_when, Prog.exec_pure]
  intro returned
  rw [if_pos returned]
  exact accounted_closeCryptoSession session tee (met returned)

/-- A search obtains the handle it comes to, and is over. -/
theorem accounted_findSingleObject (session : Nat) (objId : List UInt8) (objClass : Nat) :
    Triple (Accounted start held) (findSingleObject lib session objId objClass) fun found =>
      Accounted start (found.elim held (held.obtain_ session)) := by
  refine .bind (accounted_call fun _ => rfl) fun init => ?_
  refine .ite (fun refused => ?_) fun fine => ?_
  · -- A search that does not begin obtains nothing and needs no end.
    rw [if_neg refused]
    exact .pure fun _ met => met
  · rw [if_pos (not_not.mp fine)]
    refine .bind (accounted_call fun _ => rfl) fun found => ?_
    -- What was found is obtained while the search is still going on.
    let after : Held := if found.rv = ckrOk ∧ found.answer.2 = 1
      then held.obtain_ session found.answer.1 else held
    have begun : (if found.rv = ckrOk ∧ found.answer.2 = 1 then
        ({ held with searching := session :: held.searching } : Held).obtain_ session
          found.answer.1
        else { held with searching := session :: held.searching }) =
        { after with searching := session :: after.searching } := by
      unfold after Held.obtain_
      split
      · split <;> rfl
      · rfl
    rw [begun]
    refine .bind (accounted_call fun _ => after.endSearch_cons session) fun _ => ?_
    refine .ite (fun nothing => ?_) fun one => ?_
    · have isHeld : after = held := if_neg fun both => nothing.elim (· both.1) (· both.2)
      rw [isHeld]
      exact .pure fun _ met => met
    · have isObtained : after = held.obtain_ session found.answer.1 := by
        refine if_pos ⟨?_, ?_⟩
        · exact not_not.mp fun fails => one (Or.inl fails)
        · exact not_not.mp fun fails => one (Or.inr fails)
      rw [isObtained]
      exact .pure fun _ met => met

/-- Restoring a blob obtains the handles that it fills. -/
theorem accounted_keyblobRestore (session : Nat) (keyBlob : Option (List UInt8)) :
    Triple (Accounted start held) (keyblobRestore lib session keyBlob) fun restored =>
      Accounted start
        ((held.obtain_ session restored.publicKey).obtain_ session restored.privateKey) := by
  -- The handles are filled one after the other, and an empty one stands for none.
  unfold keyblobRestore
  split
  · exact .pure fun _ met => by simpa using met
  · refine .bind (accounted_findSingleObject session _ _) fun found => ?_
    cases found with
    | none => exact .pure fun _ met => by simpa using met
    | some publicKey =>
      refine .bind (accounted_findSingleObject session _ _) fun found => ?_
      cases found with
      | none => exact .pure fun _ met => by simpa using met
      | some privateKey => exact .pure fun _ met => met

/-- An operation on a key pair gives its handles back if its body takes nothing. -/
theorem accounted_withKeypair (session primary : Nat) (keyBlob : Option (List UInt8))
    {body : Nat → Nat → KeymasterM τ (Option Result)}
    (neutral : ∀ (inner : Held) one two,
      Triple (Accounted start inner) (body one two) (Gives start inner)) :
    Triple (Accounted start held) (withKeypair lib session primary keyBlob body)
      (Gives start held) := by
  -- The two destructors close the handles in the reverse order.
  refine .bind (accounted_keyblobRestore session keyBlob) fun restored => ?_
  refine accounted_withObjectHandle primary session _ ?_
  refine accounted_withObjectHandle primary session _ (.ite (fun _ => ?_) fun _ => ?_)
  · exact .pure fun _ met _ => met
  · exact neutral _ _ _

/-- A result is a way to end with what is held. -/
theorem gives_result (result : Result) :
    Triple (Accounted start held) (pure (some result) : KeymasterM τ _) (Gives start held) :=
  .pure fun _ met _ => met

/-- A call that is neutral may come before the rest of a body. -/
theorem gives_call {request : Request} {rest : Reply request → KeymasterM τ (Option Result)}
    (neutral : ∀ reply, account held ⟨request, reply⟩ = some held)
    (later : ∀ reply, Triple (Accounted start held) (rest reply) (Gives start held)) :
    Triple (Accounted start held) (call lib request >>= rest) (Gives start held) :=
  .bind (accounted_call neutral) later

/-- A check that makes a body fail may come before the rest of it. -/
theorem gives_check {condition : Prop} [Decidable condition]
    {rest : KeymasterM τ (Option Result)}
    (later : Triple (Accounted start held) rest (Gives start held)) :
    Triple (Accounted start held) (if condition then pure (some .failed) else rest)
      (Gives start held) := .ite (fun _ => gives_result _) fun _ => later

/-- Generating a pair gives back the two handles it gets. -/
theorem accounted_generateInSession (primary session : Nat) (params : RsaKeygenParams)
    (objId : KeyId) : Triple (Accounted start held)
      (generateInSession lib primary session params objId) (Gives start held) := by
  refine .bind (accounted_call fun _ => rfl) fun reply => ?_
  refine .ite (fun refused => ?_) fun fine => ?_
  · rw [if_neg refused]
    exact gives_result _
  · rw [if_pos (not_not.mp fine)]
    -- The private key's handle is the last to be obtained and the first to be closed.
    exact accounted_withObjectHandle primary session _
      (accounted_withObjectHandle primary session _ (gives_result _))

/-- Importing a private key gives back its handle. -/
theorem accounted_importPrivateKey (primary session : Nat) (rsa : Rsa)
    (converts : AttributeType → Bool) (objId : KeyId) (modulus publicExponent : List UInt8) :
    Triple (Accounted start held)
      (importPrivateKey lib primary session rsa converts objId modulus publicExponent)
      (Gives start held) := by
  -- A handle is there only if the object was created.
  unfold importPrivateKey
  split
  · exact gives_result _
  · split
    · exact .pure fun _ _ returned => by cases returned
    · refine .bind (accounted_call fun _ => rfl) fun reply => ?_
      refine .ite (fun refused => ?_) fun fine => ?_
      · rw [if_neg refused]
        exact gives_result _
      · rw [if_pos (not_not.mp fine)]
        exact accounted_withObjectHandle primary session _ (gives_result _)

/-- Importing a pair gives back both handles. -/
theorem accounted_importInSession (primary session : Nat) (rsa : Rsa)
    (converts : AttributeType → Bool) (objId : KeyId) (modulus publicExponent : List UInt8) :
    Triple (Accounted start held)
      (importInSession lib primary session rsa converts objId modulus publicExponent)
      (Gives start held) := by
  -- A handle is there only if the public object was created.
  refine .bind (accounted_call fun _ => rfl) fun reply => ?_
  refine .ite (fun refused => ?_) fun fine => ?_
  · rw [if_neg refused]
    exact gives_result _
  · rw [if_pos (not_not.mp fine)]
    exact accounted_withObjectHandle primary session _
      (accounted_importPrivateKey primary session rsa converts objId _ _)

/-- Every operation that returns has given back all that it took. -/
theorem accounted_prog (primary : Nat) (op : Op) :
    Triple (Accounted start .nothing) (op.prog lib primary) (Gives start .nothing) := by
  -- Every operation runs in a session of its own, and all that opens handles closes them.
  cases opens : op.opensSession with
  | false =>
    rw [rejected_prog lib primary op opens]
    exact gives_result _
  | true =>
    cases Op.opens_of opens with
    | generateKeypair params objId =>
      show Triple _ (teeGenerateKeypair lib primary typeRsa (some params) (some objId)) _
      rw [teeGenerateKeypair_rsa]
      exact accounted_withCryptoSession primary fun session =>
        accounted_generateInSession primary session params objId
    | importKeypair rsa converts objId modulus exponent =>
      show Triple _ (teeImportKeypair lib primary (some (.rsa rsa)) converts (some objId)) _
      rw [teeImportKeypair_rsa lib primary rsa objId modulus exponent]
      exact accounted_withCryptoSession primary fun session =>
        accounted_importInSession primary session rsa converts objId _ _
    | getKeypairPublic keyBlob destination encodes =>
      refine accounted_withCryptoSession primary fun session => ?_
      refine accounted_withKeypair session primary keyBlob fun inner one two => ?_
      refine gives_check (gives_call (fun _ => rfl) fun sizes => gives_check ?_)
      exact gives_call (fun _ => rfl) fun values => gives_check (gives_result _)
    | deleteKeypair keyBlob =>
      refine accounted_withCryptoSession primary fun session => ?_
      refine accounted_withKeypair session primary keyBlob fun inner one two => ?_
      refine gives_call (fun _ => rfl) fun first => gives_check ?_
      exact gives_call (fun _ => rfl) fun second => gives_check (gives_result _)
    | signData params keyBlob data =>
      refine accounted_withCryptoSession primary fun session => ?_
      refine accounted_withKeypair session primary keyBlob fun inner one two => ?_
      refine gives_check (gives_call (fun _ => rfl) fun init => gives_check ?_)
      exact gives_call (fun _ => rfl) fun signed => gives_check (gives_result _)
    | verifyData params keyBlob signedData signature =>
      refine accounted_withCryptoSession primary fun session => ?_
      refine accounted_withKeypair session primary keyBlob fun inner one two => ?_
      refine gives_check (gives_call (fun _ => rfl) fun init => gives_check ?_)
      exact gives_call (fun _ => rfl) fun verified => gives_check (gives_result _)

end Programs

/--
Every operation that returns has made a balanced sequence of calls.

The library may answer in whatever way, so every pattern of failures is one of its behaviours.
-/
theorem balanced_of_returned (lib : Cryptoki τ) (primary : Nat) (op : Op) (tee : Tee τ)
    (returned : ((op.prog lib primary).exec tee).1.isSome) :
    ∃ calls, ((op.prog lib primary).exec tee).2.calls = calls ++ tee.calls ∧
      Balanced calls.reverse :=
  -- The accounts are kept from the log as it was before the operation.
  accounted_prog primary op tee ⟨[], rfl, rfl⟩ returned

/-- Generating a pair on the token in memory returns, and leaves nothing open. -/
theorem balanced_of_returned_generates :
    ∃ calls, ((generates.prog (softToken none) 1).exec softOpened).2.calls =
        calls ++ softOpened.calls ∧ Balanced calls.reverse :=
  balanced_of_returned (softToken none) 1 generates softOpened (by decide +kernel)

end Grouper.Keymaster
