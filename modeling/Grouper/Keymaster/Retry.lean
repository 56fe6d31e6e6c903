import Grouper.Keymaster.Acceptance
import Grouper.Keymaster.Partial

/-! Deleting a key pair once more after a deletion that failed on the way. -/

namespace Grouper.Keymaster

open Prog (Triple)

variable {τ : Type}

/-- A library any of whose calls may fail, and then has no effect. -/
structure Cryptoki.Falters (lib : Cryptoki τ) (view : τ → Token) (down : τ → Prop) : Prop
    extends lib.StaysDown down where
  openSession : ∀ s primary,
    let (reply, after) := lib.call s (.openSession (some primary))
    (reply.rv = ckrOk → reply.answer ≠ ckInvalidHandle → reply.answer ∉ (view s).sessions ∧
      view after = (view s).openSession reply.answer) ∧
    (reply.rv ≠ ckrOk ∨ reply.answer = ckInvalidHandle → view after = view s)
  /-- Finalizing takes the library down, unless it fails like any other call. -/
  finalize : ∀ s, down (lib.call s .finalize).2 ∨ view (lib.call s .finalize).2 = view s
  closeSession : ∀ s session,
    view (lib.call s (.closeSession session)).2 = (view s).closeSession session ∨
      view (lib.call s (.closeSession session)).2 = view s
  closeObjectHandle : ∀ s session handle,
    view (lib.call s (.closeObjectHandle session handle)).2 = (view s).closeHandle handle ∨
      view (lib.call s (.closeObjectHandle session handle)).2 = view s
  /-- A search begins only on an open session that is not searching yet. -/
  findObjectsInit : ∀ s session template,
    let (reply, after) := lib.call s (.findObjectsInit session template)
    (reply.rv = ckrOk → session ∈ (view s).sessions ∧
      view after = (view s).startSearch session template) ∧
    (reply.rv ≠ ckrOk → view after = view s)
  findObjects : ∀ s session template, (view s).searching session = some template →
    let (reply, after) := lib.call s (.findObjects session 1)
    (reply.rv = ckrOk →
      (∀ o ∈ (view s).objects, o.hasAll template = false) ∧ reply.answer.2 = 0 ∧
          view after = view s ∨
        ∃ o ∈ (view s).objects, o.hasAll template = true ∧ reply.answer.2 = 1 ∧
          (view s).FreeHandle reply.answer.1 ∧
          view after = (view s).openHandle reply.answer.1 o) ∧
    (reply.rv ≠ ckrOk → view after = view s)
  findObjectsFinal : ∀ s session,
    view (lib.call s (.findObjectsFinal session)).2 = (view s).stopSearch session ∨
      view (lib.call s (.findObjectsFinal session)).2 = view s
  destroyObject : ∀ s session handle o, (view s).handles handle = some o →
    let (reply, after) := lib.call s (.destroyObject session handle)
    (reply.rv = ckrOk → session ∈ (view s).sessions ∧ view after = (view s).destroy o) ∧
    (reply.rv ≠ ckrOk → view after = view s)

/-- There is no key of the ID in the token. -/
def NoKey (t : Token) (objId : List UInt8) : Prop :=
  ∀ o, ¬ Matching t objId ckoPublicKey o ∧ ¬ Matching t objId ckoPrivateKey o

/--
A later time at which a deletion may be repeated, with the objects as the first attempt left them.

The second attempt is made on a device that is open. The device of the first attempt is one unless
that attempt itself has closed its primary session.
-/
structure Later (view : τ → Token) (primary other : Nat) (after later : Tee τ) : Prop where
  objects : (view later.state).objects = (view after.state).objects
  opened : (other = primary → primary ∈ (view after.state).sessions) →
    other ∈ (view later.state).sessions

/--
A deletion that fails can be repeated, and one that succeeds has removed both keys.

The second attempt is made at any later time, on the same device or on another one, and on a
library that works.
-/
def Retryable (view : τ → Token) (lib works : Cryptoki τ) (primary : Nat) (s : τ)
    (keyBlob objId : List UInt8) : Prop :=
  let (result, after) := (teeDeleteKeypair lib primary (some keyBlob)).exec ⟨s, []⟩
  (∀ r, result = some r → r.ret = -1 → ∀ (other : Nat) (later : Tee τ),
    Later view primary other after later →
    let (again, final) := (teeDeleteKeypair works other (some keyBlob)).exec later
    (∃ r, again = some r ∧ r.ret = 0) ∧ NoKey (view final.state) objId) ∧
  ∀ r, result = some r → r.ret = 0 → NoKey (view after.state) objId

/-- The blob names one key pair, and the ID has no other keys. -/
structure NamesPair (t : Token) (keyBlob objId : List UInt8) : Prop where
  good : blobId (some keyBlob) = some objId
  onePublic : ∃! pub, Matching t objId ckoPublicKey pub
  onePrivate : ∃! priv, Matching t objId ckoPrivateKey priv

/-- What a deletion comes to, with the outcomes of its calls to destroy, the newest first. -/
inductive Deletion (objects : List TokenObject) (keyBlob : List UInt8) :
    Option Result → List TokenObject → List Bool → Prop
  | nothing {destroyed : List Bool} (none_ : destroyed = [] ∨ destroyed = [false]) :
      Deletion objects keyBlob (some .failed) objects destroyed
  | half {pub priv : TokenObject} {objId : List UInt8}
      (pair : Pair objects (some keyBlob) pub priv objId) :
      Deletion objects keyBlob (some .failed)
        (objects.filter fun o => o.serial ≠ priv.serial) [false, true]
  | both {pub priv : TokenObject} {objId : List UInt8}
      (pair : Pair objects (some keyBlob) pub priv objId) :
      Deletion objects keyBlob (some ⟨0, .none⟩) (removed objects pub priv) [true, true]

/-- The token, and how the calls to destroy came out so far. -/
def DestroyedAt (view : τ → Token) (t : Token) (destroyed : List Bool) (tee : Tee τ) : Prop :=
  view tee.state = t ∧ outcomes Request.destroys tee.calls = destroyed

/-- Nothing was taken from the token that matters to a deletion. -/
structure Undisturbed (t u : Token) : Prop where
  objects : u.objects = t.objects
  sessions : u.sessions = t.sessions
  handles : ∀ handle o, t.handles handle = some o → u.handles handle = some o

/-- Nothing disturbs a token at rest. -/
theorem Undisturbed.refl (t : Token) : Undisturbed t t := ⟨rfl, rfl, fun _ _ same => same⟩

/-- Two steps without disturbance are one. -/
theorem Undisturbed.trans {t u v : Token} (one : Undisturbed t u) (two : Undisturbed u v) :
    Undisturbed t v :=
  ⟨two.objects.trans one.objects, two.sessions.trans one.sessions,
    fun handle o known => two.handles handle o (one.handles handle o known)⟩

/-- Opening a free handle disturbs nothing. -/
theorem Undisturbed.openHandle {t : Token} {handle : Nat} (free : t.FreeHandle handle)
    (o : TokenObject) : Undisturbed t (t.openHandle handle o) := by
  refine ⟨rfl, rfl, fun other o' known => ?_⟩
  -- A known handle is not the free one.
  have apart : other ≠ handle := by
    rintro rfl
    rw [free.2] at known
    cases known
  show Function.update t.handles handle (some o) other = some o'
  rw [Function.update_of_ne apart]
  exact known

section Attempt

variable {view : τ → Token} {lib : Cryptoki τ} {down : τ → Prop} {t : Token}
  {destroyed : List Bool}

/-- A call that destroys nothing is no matter for the outcomes. -/
theorem destroyedAt_call {request : Request} (other : request.destroys = false) {tee : Tee τ}
    (at_ : DestroyedAt view t destroyed tee) {u : Token}
    (after : view (lib.call tee.state request).2 = u) :
    DestroyedAt view u destroyed ((call lib request).exec tee).2 := by
  -- The request is no destroy, so it does not join the outcomes.
  refine ⟨after, ?_⟩
  rw [exec_call, ← at_.2]
  unfold outcomes
  rw [List.filter_cons_of_neg (by simp [other])]

variable (falters : lib.Falters view down)

include falters

/-- A search begins, or it fails and leaves the token. -/
theorem faltering_findObjectsInit (session : Nat) (template : Template) :
    Triple (DestroyedAt view t destroyed) (call lib (.findObjectsInit session template))
      fun reply tee =>
        (reply.rv = ckrOk → DestroyedAt view (t.startSearch session template) destroyed tee) ∧
        (reply.rv ≠ ckrOk → DestroyedAt view t destroyed tee) := by
  -- The library says which of the two by its return value.
  rintro tee ⟨rfl, isDestroyed⟩
  obtain ⟨served, failed⟩ := falters.findObjectsInit tee.state session template
  constructor
  · intro ok
    exact destroyedAt_call rfl ⟨rfl, isDestroyed⟩ (served ok).2
  · intro bad
    exact destroyedAt_call rfl ⟨rfl, isDestroyed⟩ (failed bad)

/-- A search may open a handle to what it finds, and disturbs nothing else. -/
theorem faltering_findObjects {session : Nat} {template : Template}
    (searching : t.searching session = some template) :
    Triple (DestroyedAt view t destroyed) (call lib (.findObjects session 1))
      fun reply tee => ∃ u, Undisturbed t u ∧ DestroyedAt view u destroyed tee ∧
        (reply.rv = ckrOk → reply.answer.2 = 1 → ∃ o ∈ t.objects, o.hasAll template = true ∧
          u.handles reply.answer.1 = some o) := by
  -- Served it finds nothing or one object; refused it leaves the token.
  rintro tee ⟨rfl, isDestroyed⟩
  obtain ⟨served, failed⟩ := falters.findObjects tee.state session template searching
  have at_ : DestroyedAt view (view tee.state) destroyed tee := ⟨rfl, isDestroyed⟩
  rw [exec_call]
  by_cases ok : (lib.call tee.state (.findObjects session 1)).1.rv = ckrOk
  · rcases served ok with ⟨_, zero, same⟩ | ⟨o, present, has, _, free, after⟩
    · refine ⟨_, .refl _, destroyedAt_call rfl at_ same, fun _ one => ?_⟩
      cases zero.symm.trans one
    · refine ⟨_, .openHandle free o, destroyedAt_call rfl at_ after, fun _ _ => ?_⟩
      exact ⟨o, present, has, Function.update_self ..⟩
  · exact ⟨_, .refl _, destroyedAt_call rfl at_ (failed ok), fun fine => absurd fine ok⟩

/-- Whether a search is ended or not, nothing that matters changes. -/
theorem faltering_findObjectsFinal (session : Nat) :
    Triple (DestroyedAt view t destroyed) (call lib (.findObjectsFinal session))
      fun _ tee => ∃ u, Undisturbed t u ∧ DestroyedAt view u destroyed tee := by
  -- Whether or not the search is ended, no object and no handle is touched.
  rintro tee ⟨rfl, isDestroyed⟩
  have at_ : DestroyedAt view (view tee.state) destroyed tee := ⟨rfl, isDestroyed⟩
  rcases falters.findObjectsFinal tee.state session with after | after
  · refine ⟨_, ?_, destroyedAt_call rfl at_ after⟩
    exact ⟨rfl, rfl, fun _ _ known => known⟩
  · exact ⟨_, .refl _, destroyedAt_call rfl at_ after⟩

/-- The handle a search comes to stands for an object that matches. -/
theorem faltering_findSingleObject (session : Nat) (objId : List UInt8) (objClass : Nat) :
    Triple (DestroyedAt view t destroyed) (findSingleObject lib session objId objClass)
      fun found tee => ∃ u, Undisturbed t u ∧ DestroyedAt view u destroyed tee ∧
        ∀ handle, found = some handle → ∃ o ∈ t.objects,
          o.hasAll (keyTemplate objId objClass) = true ∧ u.handles handle = some o := by
  let template := keyTemplate objId objClass
  refine .bind (faltering_findObjectsInit falters session template) fun init => ?_
  refine .ite ?_ ?_
  · intro bad
    exact .pure fun _ met => ⟨t, .refl t, met.2 bad, fun _ none_ => (nomatch none_)⟩
  · intro fine
    have searching : (t.startSearch session template).searching session = some template :=
      Function.update_self ..
    have begun : Undisturbed t (t.startSearch session template) :=
      ⟨rfl, rfl, fun _ _ known => known⟩
    refine .bind ((faltering_findObjects falters searching).mono
      (fun _ met => met.1 (not_not.mp fine)) fun _ _ => id) fun found => ?_
    -- What was found is still open when the search is ended.
    rintro tee ⟨u, second, at_, finds⟩
    obtain ⟨v, third, at_⟩ := faltering_findObjectsFinal falters session tee at_
    have all := (begun.trans second).trans third
    rw [Prog.exec_bind, Prog.exec_ite, Prog.exec_pure, Prog.exec_pure]
    split
    · exact ⟨v, all, at_, fun _ none_ => (nomatch none_)⟩
    · rename_i one
      refine ⟨v, all, at_, fun handle isFound => ?_⟩
      obtain rfl := Option.some.inj isFound
      obtain ⟨o, present, has, known⟩ := finds (not_not.mp fun bad => one (Or.inl bad))
        (not_not.mp fun other => one (Or.inr other))
      exact ⟨o, present, has, third.handles _ o known⟩

/-- The handles of a restored blob stand for a key pair that it names. -/
theorem faltering_keyblobRestore (session : Nat) (keyBlob : List UInt8) :
    Triple (DestroyedAt view t destroyed) (keyblobRestore lib session (some keyBlob))
      fun restored tee => ∃ u, Undisturbed t u ∧ DestroyedAt view u destroyed tee ∧
        (restored.ret = 0 → ∃ pub priv objId, Pair t.objects (some keyBlob) pub priv objId ∧
          u.handles restored.publicKey = some pub ∧
          u.handles restored.privateKey = some priv) := by
  -- The blob is looked at before the first search, and the second one needs a public key.
  unfold keyblobRestore
  cases good : blobId (some keyBlob) with
  | none => exact .pure fun _ at_ => ⟨t, .refl t, at_, fun zero => absurd zero (by simp)⟩
  | some objId =>
    refine .bind (faltering_findSingleObject falters session objId _) fun found => ?_
    rintro tee ⟨u, first, at_, finds⟩
    cases found with
    | none => exact ⟨u, first, at_, fun zero => absurd zero (by simp)⟩
    | some publicKey =>
      obtain ⟨pub, pubIn, pubHas, isPub⟩ := finds publicKey rfl
      dsimp only
      rw [Prog.exec_bind]
      have again := faltering_findSingleObject falters session objId ckoPrivateKey tee at_
      revert again
      generalize (findSingleObject lib session objId ckoPrivateKey).exec tee = ended
      obtain ⟨found, after⟩ := ended
      rintro ⟨v, second, at_, finds⟩
      cases found with
      | none => exact ⟨v, first.trans second, at_, fun zero => absurd zero (by simp)⟩
      | some privateKey =>
        obtain ⟨priv, privIn, privHas, isPriv⟩ := finds privateKey rfl
        refine ⟨v, first.trans second, at_, fun _ => ⟨pub, priv, objId, ?_, ?_, isPriv⟩⟩
        · exact ⟨good, pubIn, first.objects ▸ privIn, pubHas, privHas⟩
        · exact second.handles _ pub isPub

/-- A destruction that succeeds removes the object, and its session was open. -/
theorem faltering_destroyObject (session : Nat) {handle : Nat} {o : TokenObject}
    (isOpen : t.handles handle = some o) :
    Triple (DestroyedAt view t destroyed) (call lib (.destroyObject session handle))
      fun reply tee =>
        (reply.rv = ckrOk → session ∈ t.sessions ∧
          DestroyedAt view (t.destroy o) (true :: destroyed) tee) ∧
        (reply.rv ≠ ckrOk → DestroyedAt view t (false :: destroyed) tee) := by
  -- Either way there is one outcome more.
  rintro tee ⟨rfl, rfl⟩
  obtain ⟨served, failed⟩ := falters.destroyObject tee.state session handle o isOpen
  rw [exec_call]
  constructor
  · intro ok
    refine ⟨(served ok).1, (served ok).2, ?_⟩
    simpa [outcomes, Request.destroys] using ok
  · intro bad
    refine ⟨failed bad, ?_⟩
    simpa [outcomes, Request.destroys] using bad

end Attempt

/-- What a deletion has come to, and what is known of the sessions. -/
def DeletionEnds (view : τ → Token) (objects : List TokenObject) (keyBlob : List UInt8)
    (keeps : List Nat → Prop) (result : Option Result) (tee : Tee τ) : Prop :=
  ∃ u destroyed, Deletion objects keyBlob result u.objects destroyed ∧
    keeps u.sessions ∧ DestroyedAt view u destroyed tee

section Ends

variable {view : τ → Token} {lib : Cryptoki τ} {down : τ → Prop} {t : Token}
  {objects : List TokenObject} {keyBlob : List UInt8}

/-- A session was opened among others, or none was and its handle is the invalid one. -/
def Begun (sessions : List Nat) (session : Nat) (now : List Nat) : Prop :=
  now = session :: sessions ∨ session = ckInvalidHandle ∧ now = sessions

/-- Either way the others are still there. -/
theorem Begun.subset {sessions now : List Nat} {session : Nat}
    (begun : Begun sessions session now) : sessions ⊆ now := by
  -- There is one session more, or none.
  rcases begun with rfl | ⟨_, rfl⟩
  · exact List.subset_cons_self ..
  · exact fun _ member => member

/-- Closing what was opened changes no more than the sessions. -/
theorem deletionEnds_after {keeps weaker : List Nat → Prop} {pre : Tee τ → Prop}
    {body : KeymasterM τ (Option Result)} {close : KeymasterM τ Unit}
    (ends : Triple pre body (DeletionEnds view objects keyBlob keeps))
    (weakens : ∀ sessions, keeps sessions → weaker sessions)
    (closes : ∀ u destroyed, Triple (DestroyedAt view u destroyed) close fun _ tee =>
      ∃ v, v.objects = u.objects ∧ (keeps u.sessions → weaker v.sessions) ∧
        DestroyedAt view v destroyed tee) :
    Triple pre (do
      let result ← body
      Prog.when result.isSome close
      return result) (DeletionEnds view objects keyBlob weaker) := by
  -- The destructor comes after the body, and not at all when the body did not return.
  intro tee met
  obtain ⟨u, destroyed, deletion, kept, at_⟩ := ends tee met
  rw [Prog.exec_bind, Prog.exec_bind, Prog.exec_when, Prog.exec_pure]
  split
  · obtain ⟨v, same, stays, at_⟩ := closes u destroyed _ at_
    exact ⟨v, destroyed, same ▸ deletion, stays kept, at_⟩
  · exact ⟨u, destroyed, deletion, weakens _ kept, at_⟩

variable (falters : lib.Falters view down)

include falters

/-- The destructor of a handle leaves the objects and the sessions. -/
theorem deletionEnds_closeObjectHandle {keeps : List Nat → Prop} (primary handle : Nat) (u : Token)
    (destroyed : List Bool) : Triple (DestroyedAt view u destroyed)
      (closeObjectHandle lib primary handle) fun _ tee => ∃ v, v.objects = u.objects ∧
        (keeps u.sessions → keeps v.sessions) ∧ DestroyedAt view v destroyed tee := by
  -- An invalid handle is not closed; closing another one may fail.
  refine .when (fun _ => ?_) fun _ _ at_ => ⟨u, rfl, id, at_⟩
  rintro tee ⟨rfl, isDestroyed⟩
  have at_ : DestroyedAt view (view tee.state) destroyed tee := ⟨rfl, isDestroyed⟩
  rcases falters.closeObjectHandle tee.state primary handle with after | after
  · refine ⟨_, ?_, ?_, destroyedAt_call rfl at_ after⟩
    · rfl
    · exact id
  · exact ⟨_, rfl, id, destroyedAt_call rfl at_ after⟩

/-- The session that is closed is the one that was opened last, if any was. -/
theorem deletionEnds_closeCryptoSession (session : Nat) (sessions : List Nat) (u : Token)
    (destroyed : List Bool) : Triple (DestroyedAt view u destroyed)
      (closeCryptoSession lib session) fun _ tee => ∃ v, v.objects = u.objects ∧
        (Begun sessions session u.sessions → sessions ⊆ v.sessions) ∧
        DestroyedAt view v destroyed tee := by
  refine .when (fun valid => ?_) fun _ _ at_ => ⟨u, rfl, Begun.subset, at_⟩
  rintro tee ⟨rfl, isDestroyed⟩
  have at_ : DestroyedAt view (view tee.state) destroyed tee := ⟨rfl, isDestroyed⟩
  rcases falters.closeSession tee.state session with after | after
  · refine ⟨_, ?_, ?_, destroyedAt_call rfl at_ after⟩
    · rfl
    · -- A valid session was opened, and is the newest one.
      rintro (opened | invalid)
      · show sessions ⊆ (view tee.state).sessions.erase session
        rw [opened, List.erase_cons_head]
        exact fun _ member => member
      · exact absurd invalid.1 valid
  · exact ⟨_, rfl, Begun.subset, destroyedAt_call rfl at_ after⟩

/-- The private key goes first, and the public key only if the private one went. -/
theorem deletionEnds_body {session publicKey privateKey : Nat} {pub priv : TokenObject}
    {objId : List UInt8} {keeps : List Nat → Prop}
    (pair : Pair t.objects (some keyBlob) pub priv objId)
    (isPub : t.handles publicKey = some pub) (isPriv : t.handles privateKey = some priv)
    (kept : keeps t.sessions) :
    Triple (DestroyedAt view t []) (do
      let reply ← call lib (.destroyObject session privateKey)
      if reply.rv ≠ ckrOk then
        return some .failed
      else
        let reply ← call lib (.destroyObject session publicKey)
        if reply.rv ≠ ckrOk then
          return some .failed
        else
          return some ⟨0, .none⟩) (DeletionEnds view t.objects keyBlob keeps) := by
  refine .bind (faltering_destroyObject falters session isPriv) fun reply => ?_
  refine .ite (fun bad => ?_) ?_
  · exact .pure fun _ met => ⟨t, [false], .nothing (Or.inr rfl), kept, met.2 bad⟩
  · intro fine
    have ok := not_not.mp fine
    -- From here on the private key is gone.
    intro tee met
    obtain ⟨_, at_⟩ := met.1 ok
    have second := faltering_destroyObject falters session (t := t.destroy priv) isPub tee at_
    rw [Prog.exec_bind, Prog.exec_ite, Prog.exec_pure, Prog.exec_pure]
    split
    · rename_i bad
      exact ⟨t.destroy priv, _, .half pair, kept, second.2 bad⟩
    · rename_i fine
      exact ⟨(t.destroy priv).destroy pub, _, .both pair, kept,
        (second.1 (not_not.mp fine)).2⟩

/-- Unless the library is taken down, a session is opened, or nothing has changed. -/
theorem faltering_openCryptoSession (primary : Nat) :
    Triple (fun tee => ¬ lib.ClosesDown down primary tee.state ∧ DestroyedAt view t [] tee)
      (openCryptoSession lib primary) fun session tee =>
        ∃ u, u.objects = t.objects ∧ Begun t.sessions session u.sessions ∧
          DestroyedAt view u [] tee := by
  rintro tee ⟨stands, rfl, isDestroyed⟩
  have at_ : DestroyedAt view (view tee.state) [] tee := ⟨rfl, isDestroyed⟩
  obtain ⟨served, failed⟩ := falters.openSession tee.state primary
  unfold openCryptoSession
  rw [Prog.exec_bind, Prog.exec_ite, Prog.exec_pure]
  split
  · rename_i refused
    have first : DestroyedAt view _ []
        ((call lib (.openSession (some primary))).exec tee).2 :=
      destroyedAt_call rfl at_ (failed refused)
    -- The library is not taken down, so finalizing it has failed as well.
    have finalized := falters.finalize (lib.call tee.state (.openSession (some primary))).2
    have same := finalized.resolve_left fun isDown => stands ⟨refused, isDown⟩
    rw [Prog.exec_bind]
    refine ⟨_, ?_, Or.inr ⟨rfl, ?_⟩, destroyedAt_call rfl first (same.trans (failed refused))⟩
    · rfl
    · rfl
  · rename_i fine
    have ok := not_not.mp fun bad => fine (Or.inl bad)
    obtain ⟨_, after⟩ := served ok fun invalid => fine (Or.inr invalid)
    refine ⟨_, ?_, Or.inl ?_, destroyedAt_call rfl at_ after⟩
    · rfl
    · rfl

/-- What is done to the key pair of a blob decides how a deletion ends. -/
theorem deletionEnds_withKeypair {session : Nat} (primary : Nat) {keeps : List Nat → Prop}
    {body : Nat → Nat → KeymasterM τ (Option Result)}
    (kept : keeps t.sessions)
    (ends : ∀ {u pub priv objId one two}, Pair u.objects (some keyBlob) pub priv objId →
      u.handles one = some pub → u.handles two = some priv → keeps u.sessions →
      Triple (DestroyedAt view u []) (body one two)
        (DeletionEnds view u.objects keyBlob keeps)) :
    Triple (DestroyedAt view t []) (withKeypair lib session primary (some keyBlob) body)
      (DeletionEnds view t.objects keyBlob keeps) := by
  intro tee at_
  have restores := faltering_keyblobRestore falters session keyBlob tee at_
  unfold withKeypair
  rw [Prog.exec_bind]
  revert restores
  generalize (keyblobRestore lib session (some keyBlob)).exec tee = ended
  obtain ⟨restored, after⟩ := ended
  rintro ⟨v, undisturbed, at_, names⟩
  -- The two destructors change nothing that matters, so the body decides.
  have inner : Triple (DestroyedAt view v [])
      (if restored.ret ≠ 0 then pure (some .failed)
        else body restored.publicKey restored.privateKey)
      (DeletionEnds view v.objects keyBlob keeps) := by
    have keptToo : keeps v.sessions := undisturbed.sessions ▸ kept
    refine .ite (fun _ => .pure fun _ at_ => ?_) fun fine => ?_
    · exact ⟨v, [], .nothing (Or.inl rfl), keptToo, at_⟩
    · obtain ⟨pub, priv, objId, pair, isPub, isPriv⟩ := names (not_not.mp fine)
      exact ends (undisturbed.objects ▸ pair) isPub isPriv keptToo
  rw [← undisturbed.objects]
  exact deletionEnds_after (deletionEnds_after inner (fun _ => id)
    (deletionEnds_closeObjectHandle falters primary restored.privateKey)) (fun _ => id)
    (deletionEnds_closeObjectHandle falters primary restored.publicKey) after at_

/-- A deletion that does not take the library down ends in one of the known ways. -/
theorem teeDeleteKeypair_ends (primary : Nat) :
    Triple (fun tee => ¬ lib.ClosesDown down primary tee.state ∧ DestroyedAt view t [] tee)
      (teeDeleteKeypair lib primary (some keyBlob))
      (DeletionEnds view t.objects keyBlob (t.sessions ⊆ ·)) := by
  -- The session is opened, or it is not and the body finds nothing open.
  refine .bind (faltering_openCryptoSession falters primary) fun session => ?_
  rintro tee ⟨u, same, begun, at_⟩
  have ends : Triple (DestroyedAt view u [])
      (withKeypair lib session primary (some keyBlob) fun publicKey privateKey => do
        let reply ← call lib (.destroyObject session privateKey)
        if reply.rv ≠ ckrOk then
          return some .failed
        else
          let reply ← call lib (.destroyObject session publicKey)
          if reply.rv ≠ ckrOk then
            return some .failed
          else
            return some ⟨0, .none⟩)
      (DeletionEnds view u.objects keyBlob (Begun t.sessions session)) :=
    deletionEnds_withKeypair falters primary begun fun pair isPub isPriv begun =>
      deletionEnds_body falters pair isPub isPriv begun
  rw [← same]
  exact deletionEnds_after ends (fun _ => Begun.subset)
    (deletionEnds_closeCryptoSession falters session t.sessions) tee at_

end Ends

section Theorem

variable {view : τ → Token} {lib works : Cryptoki τ} {primary : Nat} {keyBlob objId : List UInt8}

/-- Destroying the two keys of an ID that has no others leaves no key of the ID. -/
theorem noKey_removed {t u : Token} (named : NamesPair t keyBlob objId) {pub priv : TokenObject}
    {other : List UInt8} (pair : Pair t.objects (some keyBlob) pub priv other)
    (left : u.objects = removed t.objects pub priv) : NoKey u objId := by
  -- The pair that is gone was the only one of the identifier.
  obtain rfl := Option.some.inj (named.good.symm.trans pair.good)
  intro o
  constructor
  · rintro ⟨there, has⟩
    rw [left] at there
    have same := named.onePublic.unique ⟨removed_subset there, has⟩ ⟨pair.pubIn, pair.pubHas⟩
    simpa [same] using (List.mem_filter.mp there).2
  · rintro ⟨there, has⟩
    rw [left] at there
    have same := named.onePrivate.unique ⟨removed_subset there, has⟩ ⟨pair.privIn, pair.privHas⟩
    simpa [same] using (List.mem_filter.mp (List.mem_filter.mp there).1).2

/-- A deletion on a library that works succeeds and leaves no key of the ID. -/
theorem deletes_of_named (serves : works.Serves view) {tee : Tee τ}
    (opened : primary ∈ (view tee.state).sessions)
    (named : NamesPair (view tee.state) keyBlob objId) :
    let (again, final) := (teeDeleteKeypair works primary (some keyBlob)).exec tee
    (∃ r, again = some r ∧ r.ret = 0) ∧ NoKey (view final.state) objId := by
  -- A library that serves finds both keys, and destroys them.
  obtain ⟨objects, effect, left⟩ :=
    effect_of_keyBlob serves opened (.deleteKeypair (some keyBlob)) rfl
  revert effect left
  show (Op.deleteKeypair (some keyBlob)).Effect _
    ((teeDeleteKeypair works primary (some keyBlob)).exec tee).1 objects →
    (view ((teeDeleteKeypair works primary (some keyBlob)).exec tee).2.state).objects = objects → _
  generalize (teeDeleteKeypair works primary (some keyBlob)).exec tee = ended
  obtain ⟨again, final⟩ := ended
  intro effect left
  obtain ⟨pub, ⟨pubIn, pubHas⟩, _⟩ := named.onePublic
  obtain ⟨priv, ⟨privIn, privHas⟩, _⟩ := named.onePrivate
  obtain ⟨one, two, pair, rfl, rfl⟩ := effect.of_pair ⟨named.good, pubIn, privIn, pubHas, privHas⟩
  exact ⟨⟨_, rfl, rfl⟩, noKey_removed named pair left⟩

/-- What a second attempt right after the first one comes to, on the same device. -/
theorem Retryable.again {s : τ}
    (retryable : Retryable view lib works primary s keyBlob objId)
    (failed : ((teeDeleteKeypair lib primary (some keyBlob)).exec ⟨s, []⟩).1 = some .failed) :
    ∃ r, ((teeDeleteKeypair works primary (some keyBlob)).exec
      ((teeDeleteKeypair lib primary (some keyBlob)).exec ⟨s, []⟩).2).1 = some r ∧ r.ret = 0 := by
  unfold Retryable at retryable
  revert retryable failed
  generalize (teeDeleteKeypair lib primary (some keyBlob)).exec ⟨s, []⟩ = ended
  obtain ⟨result, after⟩ := ended
  rintro ⟨retry, _⟩ failed
  -- Right after the first attempt, its device is as it was left.
  have now : Later view primary primary after after := ⟨rfl, fun opened => opened rfl⟩
  have second := retry .failed failed rfl primary after now
  revert second
  generalize (teeDeleteKeypair works primary (some keyBlob)).exec after = final
  exact fun second => second.1

/-- A deletion that takes the library down cannot be repeated on its device. -/
theorem not_retryable_of_closesDown {down : τ → Prop} (stays : lib.StaysDown down)
    (staysToo : works.StaysDown down) {s : τ} (closes : lib.ClosesDown down primary s) :
    ¬ Retryable view lib works primary s keyBlob objId := by
  intro retryable
  -- Without a session the first attempt fails, and the library is down for the second one.
  obtain ⟨failed, isDown⟩ := refused_prog stays primary (.deleteKeypair (some keyBlob)) rfl
    ⟨s, []⟩ closes
  obtain ⟨r, again, zero⟩ := retryable.again failed
  have failedToo := down_prog staysToo primary (.deleteKeypair (some keyBlob)) isDown
  obtain rfl := Option.some.inj (failedToo.symm.trans again)
  cases zero

/--
A deletion can be repeated unless it has taken the library down, or was left halfway.

It takes the library down when it is refused its session, and it is left halfway when the private
key is destroyed and the public key is not.
-/
theorem retryable_iff {down : τ → Prop} (falters : lib.Falters view down)
    (serves : works.Serves view) (stays : works.StaysDown down) {s : τ}
    (opened : primary ∈ (view s).sessions) (named : NamesPair (view s) keyBlob objId) :
    Retryable view lib works primary s keyBlob objId ↔
      ¬ lib.ClosesDown down primary s ∧ outcomes Request.destroys
        ((teeDeleteKeypair lib primary (some keyBlob)).exec ⟨s, []⟩).2.calls ≠ [false, true] := by
  by_cases closes : lib.ClosesDown down primary s
  · have never : ¬ Retryable view lib works primary s keyBlob objId :=
      not_retryable_of_closesDown falters.toStaysDown stays closes
    simp [closes, never]
  have spec : Triple (fun tee => ¬ lib.ClosesDown down primary tee.state ∧
      DestroyedAt view (view s) [] tee) (teeDeleteKeypair lib primary (some keyBlob)) _ :=
    teeDeleteKeypair_ends falters primary
  have ends := spec ⟨s, []⟩ ⟨closes, rfl, rfl⟩
  have again := fun retryable : Retryable view lib works primary s keyBlob objId => retryable.again
  unfold Retryable at again ⊢
  revert ends again
  generalize (teeDeleteKeypair lib primary (some keyBlob)).exec ⟨s, []⟩ = ended
  obtain ⟨result, after⟩ := ended
  rintro ⟨u, destroyed, deletion, kept, rfl, isDestroyed⟩ again
  have isDestroyed : outcomes Request.destroys after.calls = destroyed := isDestroyed
  have still : primary ∈ (view after.state).sessions := kept opened
  generalize isLeft : (view after.state).objects = left at deletion
  dsimp only at again ⊢
  rw [isDestroyed]
  simp only [closes, not_false_eq_true, true_and]
  -- The way the first attempt ended decides both sides.
  cases deletion with
  | nothing none_ =>
    refine ⟨fun _ => ?_, fun _ => ⟨fun _ _ _ other later isLater => ?_, ?_⟩⟩
    · rcases none_ with rfl | rfl <;> simp
    · -- Both keys are there, and the device that is used is open.
      have same := isLater.objects.trans isLeft
      refine deletes_of_named serves (isLater.opened fun _ => still) ⟨named.good, ?_, ?_⟩
      · simpa only [Matching, same] using named.onePublic
      · simpa only [Matching, same] using named.onePrivate
    · intro r returned zero
      obtain rfl := Option.some.inj returned
      cases zero
  | @half pub priv other pair =>
    refine ⟨fun retryable => ?_, fun other => absurd rfl other⟩
    -- The private key is gone, so the second attempt finds no key pair.
    have lost : Lost (view after.state).objects (some keyBlob) := by
      intro one two another again
      obtain rfl := Option.some.inj (named.good.symm.trans pair.good)
      obtain rfl := Option.some.inj (named.good.symm.trans again.good)
      have there := again.privIn
      rw [isLeft] at there
      have same := named.onePrivate.unique ⟨(List.mem_filter.mp there).1, again.privHas⟩
        ⟨pair.privIn, pair.privHas⟩
      simpa [same] using (List.mem_filter.mp there).2
    have failed := fails_of_lost still lost works serves (.deleteKeypair (some keyBlob)) rfl
    have failed : ((teeDeleteKeypair works primary (some keyBlob)).exec after).1 = some .failed :=
      failed
    obtain ⟨r, same, zero⟩ := again retryable rfl
    obtain rfl := Option.some.inj (failed.symm.trans same)
    cases zero
  | both pair =>
    refine ⟨fun _ => by simp, fun _ => ⟨?_, fun _ _ _ => noKey_removed named pair isLeft⟩⟩
    intro r returned failed
    obtain rfl := Option.some.inj returned
    cases failed

end Theorem

/-- A library that is up and refuses a call, out of some whim or for a session that is not open. -/
def strictRefuses (whim : SoftToken → Request → Bool) (t : SoftToken) (request : Request) : Bool :=
  t.initialized && (whim t request || match request with
    | .findObjectsInit session _ | .destroyObject session _ => session ∉ t.view.sessions
    | _ => false)

/-- A soft token that checks its sessions, and refuses some calls besides. -/
def strictToken (whim : SoftToken → Request → Bool) : Cryptoki SoftToken :=
  (softToken none).refusing 0xB3 (strictRefuses whim)

/-- No call is refused out of a whim. -/
def willing : SoftToken → Request → Bool := fun _ _ => false

/-- Public keys are not destroyed. -/
def stubborn (t : SoftToken) : Request → Bool
  -- The attributes of the object tell its class.
  | .destroyObject _ handle => (t.token.handles handle).any fun o =>
    o.attributes .objectClass = some (.ulong ckoPublicKey)
  | _ => false

/-- No further session is opened. -/
def crowded (_ : SoftToken) : Request → Bool
  | .openSession _ => true
  | _ => false

/-- A call either does what the soft token does, or fails and changes nothing. -/
theorem strictToken_cases (whim : SoftToken → Request → Bool) (t : SoftToken) (request : Request)
    (later : request ≠ .initializeLibrary) :
    (t.initialized = true ∧ strictRefuses whim t request = false ∧
        (strictToken whim).call t request = t.serve none request) ∨
      (((strictToken whim).call t request).1.rv ≠ ckrOk ∧
        ((strictToken whim).call t request).2 = t) := by
  -- It refuses on a whim, or because it is not initialised, or it serves.
  have split_ : (strictToken whim).call t request =
      if strictRefuses whim t request then (.refused 0xB3 request, t)
      else (softToken none).call t request := rfl
  rw [split_]
  cases strictRefuses whim t request with
  | true =>
    refine Or.inr ⟨?_, rfl⟩
    rw [if_pos rfl, Reply.refused_rv]
    decide
  | false =>
    cases ready : t.initialized with
    | true => exact Or.inl ⟨rfl, rfl, softToken_initialized ready request⟩
    | false =>
      right
      cases request <;> simp [softToken, ready, Reply.refused_rv] at later ⊢ <;> decide

/-- A session is open where a call on it was not refused. -/
theorem mem_of_strict {whim : SoftToken → Request → Bool} {t : SoftToken} {request : Request}
    {session : Nat} (ready : t.initialized = true)
    (allowed : strictRefuses whim t request = false)
    (kind : (∃ template, request = .findObjectsInit session template) ∨
      ∃ handle, request = .destroyObject session handle) : session ∈ t.view.sessions := by
  -- Both kinds of request are refused outside a session.
  rcases kind with ⟨template, rfl⟩ | ⟨handle, rfl⟩
  all_goals
    simp only [strictRefuses, ready, Bool.true_and, Bool.or_eq_false_iff] at allowed
    simpa using allowed.2

/-- A strict token that is down refuses what a soft token refuses. -/
theorem strictToken_staysDown (whim : SoftToken → Request → Bool) :
    (strictToken whim).StaysDown fun t => t.initialized = false where
  refuses t request isDown later := by
    -- Once finalised it does not get as far as a whim.
    have same : (strictToken whim).call t request = (softToken none).call t request := by
      show (if strictRefuses whim t request then _ else _) = _
      simp [strictRefuses, isDown]
    rw [same]
    exact (softToken_shutsDown none).refuses t request isDown later

/-- The strict token is a library whose calls may fail. -/
theorem strictToken_falters (whim : SoftToken → Request → Bool) :
    (strictToken whim).Falters SoftToken.view fun t => t.initialized = false where
  toStaysDown := strictToken_staysDown whim
  openSession t primary := by
    -- A session that is served is a new one.
    rcases strictToken_cases whim t (.openSession (some primary)) (by simp) with
      ⟨ready, _, served⟩ | ⟨bad, same⟩
    · rw [served]
      have after : t.openSession.view = t.view.openSession t.next := by
        rw [SoftToken.view_eq ready, SoftToken.view_eq (u := t.openSession) ready]
        rfl
      refine ⟨fun _ _ => ⟨fun old => ?_, after⟩, ?_⟩
      · rw [SoftToken.view_eq ready] at old
        exact Nat.lt_irrefl _ (t.sessionsBelow _ old)
      · rintro (bad | bad)
        · exact absurd rfl bad
        · exact absurd bad (Nat.pos_iff_ne_zero.mp t.positive)
    · exact ⟨fun ok => absurd ok bad, fun _ => by rw [same]⟩
  finalize t := by
    -- Finalised or refused, nothing is seen but the end of it or what was there.
    rcases strictToken_cases whim t .finalize (by simp) with ⟨_, _, served⟩ | ⟨_, same⟩
    · left
      rw [served]
      rfl
    · exact Or.inr (by rw [same])
  closeSession t session := by
    rcases strictToken_cases whim t (.closeSession session) (by simp) with
      ⟨ready, _, served⟩ | ⟨_, same⟩
    · left
      rw [served, SoftToken.view_eq ready]
      exact SoftToken.view_eq (u := t.closeSession session) ready
    · exact Or.inr (by rw [same])
  closeObjectHandle t session handle := by
    rcases strictToken_cases whim t (.closeObjectHandle session handle)
      (by simp) with ⟨ready, _, served⟩ | ⟨_, same⟩
    · left
      rw [served, SoftToken.view_eq ready]
      exact SoftToken.view_eq (u := t.closeHandle handle) ready
    · exact Or.inr (by rw [same])
  findObjectsInit t session template := by
    -- A search that is served belongs to a session.
    rcases strictToken_cases whim t (.findObjectsInit session template)
      (by simp) with ⟨ready, allowed, served⟩ | ⟨bad, same⟩
    · have member : session ∈ t.view.sessions :=
        mem_of_strict ready allowed (Or.inl ⟨template, rfl⟩)
      have known : session < t.next := by
        rw [SoftToken.view_eq ready] at member
        exact t.sessionsBelow session member
      rw [served]
      refine ⟨fun _ => ⟨member, ?_⟩, fun bad => absurd rfl bad⟩
      show (t.startSearch session template).view = _
      unfold SoftToken.startSearch
      rw [dif_pos known, SoftToken.view_eq ready]
      exact SoftToken.view_eq ready
    · exact ⟨fun ok => absurd ok bad, fun _ => by rw [same]⟩
  findObjects t session template searching := by
    -- A search finds the first object that fits, and opens a fresh handle to it.
    rcases strictToken_cases whim t (.findObjects session 1) (by simp) with
      ⟨ready, _, served⟩ | ⟨bad, same⟩
    · rw [served]
      rw [SoftToken.view_eq ready] at searching ⊢
      simp only [SoftToken.serve, searching, Option.bind_some]
      cases found : t.token.objects.find? (·.hasAll template) with
      | none =>
        refine ⟨fun _ => Or.inl ⟨fun o present => ?_, rfl, SoftToken.view_eq ready⟩,
          fun bad => absurd rfl bad⟩
        simpa using List.find?_eq_none.mp found o present
      | some o =>
        refine ⟨fun _ => Or.inr ⟨o, List.mem_of_find?_eq_some found, ?_, rfl, ?_, ?_⟩,
          fun bad => absurd rfl bad⟩
        · simpa using List.find?_some found
        · exact ⟨Nat.pos_iff_ne_zero.mp t.positive, t.handlesBelow _ (Nat.le_refl _)⟩
        · exact SoftToken.view_eq (u := t.openHandle o) ready
    · exact ⟨fun ok => absurd ok bad, fun _ => by rw [same]⟩
  findObjectsFinal t session := by
    rcases strictToken_cases whim t (.findObjectsFinal session) (by simp) with
      ⟨ready, _, served⟩ | ⟨_, same⟩
    · left
      rw [served, SoftToken.view_eq ready]
      exact SoftToken.view_eq (u := t.stopSearch session) ready
    · exact Or.inr (by rw [same])
  destroyObject t session handle o isOpen := by
    -- What is destroyed is the object of the handle.
    rcases strictToken_cases whim t (.destroyObject session handle) (by simp) with
      ⟨ready, allowed, served⟩ | ⟨bad, same⟩
    · have member : session ∈ t.view.sessions :=
        mem_of_strict ready allowed (Or.inr ⟨handle, rfl⟩)
      rw [served]
      rw [SoftToken.view_eq ready] at isOpen member ⊢
      simp only [SoftToken.serve, isOpen]
      exact ⟨fun _ => ⟨member, SoftToken.view_eq (u := t.destroy o) ready⟩,
        fun bad => absurd rfl bad⟩
    · exact ⟨fun ok => absurd ok bad, fun _ => by rw [same]⟩

/-- Of objects that are told apart, the only one of a kind is found by looking at them all. -/
theorem existsUnique_matching {t : Token} (apart : (t.objects.map TokenObject.serial).Nodup)
    {objId : List UInt8} {objClass : Nat}
    (one : ∃ o ∈ t.objects, o.hasAll (keyTemplate objId objClass) = true ∧
      ∀ o' ∈ t.objects, o'.hasAll (keyTemplate objId objClass) = true → o'.serial = o.serial) :
    ∃! o, Matching t objId objClass o := by
  -- Objects with one serial number are one object.
  obtain ⟨o, there, has, only⟩ := one
  refine ⟨o, ⟨there, has⟩, fun o' same => ?_⟩
  exact List.inj_on_of_nodup_map apart same.1 there (only o' same.1 same.2)

/-- The blob of the generated key pair names it, and there are no other keys. -/
theorem namesPair_generated : NamesPair (SoftToken.view (softAfter [generates]).state)
    generatedBlob (Vector.replicate idLength 7).toList where
  good := by decide +kernel
  onePublic := existsUnique_matching (by decide +kernel) (by decide +kernel)
  onePrivate := existsUnique_matching (by decide +kernel) (by decide +kernel)

/-- The equivalence on a library that refuses nothing out of a whim. -/
theorem retryable_iff_strict :
    Retryable SoftToken.view (strictToken willing) (softToken none) 1
        (softAfter [generates]).state generatedBlob (Vector.replicate idLength 7).toList ↔
      ¬ (strictToken willing).ClosesDown (fun t => t.initialized = false) 1
          (softAfter [generates]).state ∧
        outcomes Request.destroys ((teeDeleteKeypair (strictToken willing) 1
          (some generatedBlob)).exec ⟨(softAfter [generates]).state, []⟩).2.calls ≠
            [false, true] :=
  retryable_iff (strictToken_falters willing) softToken_serves
    (softToken_shutsDown none).toStaysDown (by decide +kernel) namesPair_generated

/-- A failure in the first attempt makes the second one fail as well. -/
theorem not_retryable_of_failed {whim : SoftToken → Request → Bool}
    (failed : ((teeDeleteKeypair (strictToken whim) 1 (some generatedBlob)).exec
      ⟨(softAfter [generates]).state, []⟩).1 = some .failed)
    (failedToo : ((teeDeleteKeypair (softToken none) 1 (some generatedBlob)).exec
      ((teeDeleteKeypair (strictToken whim) 1 (some generatedBlob)).exec
        ⟨(softAfter [generates]).state, []⟩).2).1 = some .failed) :
    ¬ Retryable SoftToken.view (strictToken whim) (softToken none) 1
      (softAfter [generates]).state generatedBlob (Vector.replicate idLength 7).toList := by
  -- A retry on the same device is one of those the property asks for.
  intro retryable
  obtain ⟨r, again, zero⟩ := retryable.again failed
  obtain rfl := Option.some.inj (failedToo.symm.trans again)
  cases zero

/--
A public key that cannot be destroyed once stays for ever, and its blob with it.

A session that cannot be opened once keeps the device from deleting anything.
-/
theorem not_retryable_stubborn :
    (strictToken stubborn).Falters SoftToken.view (fun t => t.initialized = false) ∧
      (strictToken crowded).Falters SoftToken.view (fun t => t.initialized = false) ∧
      NamesPair (SoftToken.view (softAfter [generates]).state) generatedBlob
        (Vector.replicate idLength 7).toList ∧
      ¬ Retryable SoftToken.view (strictToken stubborn) (softToken none) 1
        (softAfter [generates]).state generatedBlob (Vector.replicate idLength 7).toList ∧
      ¬ Retryable SoftToken.view (strictToken crowded) (softToken none) 1
        (softAfter [generates]).state generatedBlob (Vector.replicate idLength 7).toList := by
  refine ⟨strictToken_falters stubborn, strictToken_falters crowded, namesPair_generated, ?_, ?_⟩
  -- The second attempt does not find the private key any more.
  · exact not_retryable_of_failed (by decide +kernel) (by decide +kernel)
  -- The second attempt finds the library down.
  · exact not_retryable_of_failed (by decide +kernel) (by decide +kernel)

end Grouper.Keymaster
