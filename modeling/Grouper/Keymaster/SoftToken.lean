import Grouper.Keymaster.Token

/-! The plainest token there is: a library that serves every valid call and keeps all in memory. -/

namespace Grouper.Keymaster

open Function (update)

/--
The state of a library with its token.

One counter numbers sessions, handles and objects, and nothing is numbered beyond it.
-/
structure SoftToken where
  initialized : Bool
  next : Nat
  token : Token
  positive : 0 < next
  sessionsBelow : ∀ session ∈ token.sessions, session < next
  searchingBelow : ∀ session, next ≤ session → token.searching session = none
  handlesBelow : ∀ handle, next ≤ handle → token.handles handle = none
  objectsBelow : ∀ o ∈ token.objects, o.serial < next

/-- Nothing lies beyond a bound after an entry within it is set, or any entry is cleared. -/
theorem none_beyond_update {α : Type} {f : Nat → Option α} {bound key : Nat} {value : Option α}
    (beyond : ∀ k, bound ≤ k → f k = none) (fits : key < bound ∨ value = none) :
    ∀ k, bound ≤ k → update f key value k = none := by
  -- Beyond the bound the entry is another one, or it is cleared.
  intro k far
  by_cases same : k = key
  · subst same
    rw [Function.update_self]
    exact fits.resolve_left (by omega)
  · rw [Function.update_of_ne same]
    exact beyond k far

namespace SoftToken

/-- A token nobody has used yet. -/
def blank : SoftToken where
  initialized := false
  next := 1
  token := ⟨[], fun _ => none, [], fun _ => none⟩
  positive := Nat.one_pos
  sessionsBelow := by simp
  searchingBelow := by simp
  handlesBelow := by simp
  objectsBelow := by simp

variable (t : SoftToken)

/-- A library that has not been initialized serves no session. -/
def view : Token := if t.initialized then t.token else { t.token with sessions := [] }

def openSession : SoftToken where
  initialized := t.initialized
  next := t.next + 1
  token := t.token.openSession t.next
  positive := Nat.succ_pos _
  sessionsBelow := by
    intro session member
    rcases List.mem_cons.mp member with rfl | old
    · exact Nat.lt_succ_self _
    · exact Nat.lt_succ_of_lt (t.sessionsBelow session old)
  searchingBelow session beyond := t.searchingBelow session (Nat.le_of_succ_le beyond)
  handlesBelow handle beyond := t.handlesBelow handle (Nat.le_of_succ_le beyond)
  objectsBelow o member := Nat.lt_succ_of_lt (t.objectsBelow o member)

def closeSession (session : Nat) : SoftToken :=
  { t with
    token := t.token.closeSession session
    sessionsBelow := fun other member => t.sessionsBelow other (List.mem_of_mem_erase member) }

def startSearch (session : Nat) (template : Template) : SoftToken :=
  if known : session < t.next then
    { t with
      token := t.token.startSearch session template
      searchingBelow := none_beyond_update t.searchingBelow (Or.inl known) }
  else t

def stopSearch (session : Nat) : SoftToken :=
  { t with
    token := t.token.stopSearch session
    searchingBelow := none_beyond_update t.searchingBelow (Or.inr rfl) }

/-- The next number becomes a handle of an object. -/
def openHandle (o : TokenObject) : SoftToken where
  initialized := t.initialized
  next := t.next + 1
  token := t.token.openHandle t.next o
  positive := Nat.succ_pos _
  sessionsBelow session member := Nat.lt_succ_of_lt (t.sessionsBelow session member)
  searchingBelow session beyond := t.searchingBelow session (Nat.le_of_succ_le beyond)
  handlesBelow := none_beyond_update
    (fun handle beyond => t.handlesBelow handle (Nat.le_of_succ_le beyond))
    (Or.inl (Nat.lt_succ_self _))
  objectsBelow o member := Nat.lt_succ_of_lt (t.objectsBelow o member)

def closeHandle (handle : Nat) : SoftToken :=
  { t with
    token := t.token.closeHandle handle
    handlesBelow := none_beyond_update t.handlesBelow (Or.inr rfl) }

/-- The next number becomes the serial number of an object made from a template. -/
def newObject (template : Template) : TokenObject where
  serial := t.next
  attributes type := (template.find? fun a => a.type = type).map Attribute.value

def create (template : Template) : SoftToken where
  initialized := t.initialized
  next := t.next + 1
  token := t.token.create (t.newObject template)
  positive := Nat.succ_pos _
  sessionsBelow session member := Nat.lt_succ_of_lt (t.sessionsBelow session member)
  searchingBelow session beyond := t.searchingBelow session (Nat.le_of_succ_le beyond)
  handlesBelow handle beyond := t.handlesBelow handle (Nat.le_of_succ_le beyond)
  objectsBelow := by
    intro o member
    rcases List.mem_cons.mp member with rfl | old
    · exact Nat.lt_succ_self _
    · exact Nat.lt_succ_of_lt (t.objectsBelow o old)

def destroy (o : TokenObject) : SoftToken :=
  { t with
    token := t.token.destroy o
    objectsBelow := fun other member => t.objectsBelow other (List.mem_filter.mp member).1 }

end SoftToken

/-- The answer of a call that failed, in which nothing is worth reading. -/
def Reply.refused (rv : Nat) : (request : Request) → Reply request
  | .openSession _ => ⟨rv, (0 : Nat)⟩
  | .generateKeyPair _ _ _ _ => ⟨rv, ((0, 0) : Nat × Nat)⟩
  | .createObject _ _ => ⟨rv, (0 : Nat)⟩
  | .findObjects _ _ => ⟨rv, ((0, 0) : Nat × Nat)⟩
  | .getAttributeValue _ _ _ => ⟨rv, fun _ => ⟨0, []⟩⟩
  | .sign _ _ _ => ⟨rv, ([] : List UInt8)⟩
  | .initializeLibrary | .finalize | .getInfo | .closeSession _ | .closeObjectHandle _ _
  | .findObjectsInit _ _ | .findObjectsFinal _ | .destroyObject _ _ | .signInit _ _ _
  | .verifyInit _ _ _ | .verify _ _ _ => ⟨rv, ()⟩

/-- A refusal returns its code. -/
theorem Reply.refused_rv (rv : Nat) (request : Request) : (Reply.refused rv request).rv = rv := by
  cases request <;> rfl

namespace SoftToken

/-- What `C_Finalize` leaves: the objects, and neither a session nor a handle. -/
def reset (t : SoftToken) : SoftToken where
  initialized := false
  next := t.next
  token := { t.token with sessions := [], searching := fun _ => none, handles := fun _ => none }
  positive := t.positive
  sessionsBelow := by simp
  searchingBelow := by simp
  handlesBelow := by simp
  objectsBelow := t.objectsBelow

/-- How an initialized library answers. Sessions may be refused, and signatures repeat the data. -/
def serve (refusal : Option Nat) (t : SoftToken) : (request : Request) → Reply request × SoftToken
  | .initializeLibrary => (⟨ckrOk, ()⟩, t)
  | .finalize => (⟨ckrOk, ()⟩, t.reset)
  | .getInfo => (⟨ckrOk, ()⟩, t)
  | .openSession primary =>
    match refusal with
    | some rv => (.refused rv (.openSession primary), t)
    | none => (⟨ckrOk, t.next⟩, t.openSession)
  | .closeSession session => (⟨ckrOk, ()⟩, t.closeSession session)
  | .closeObjectHandle _ handle => (⟨ckrOk, ()⟩, t.closeHandle handle)
  | .generateKeyPair _ _ publicKeyTemplate privateKeyTemplate =>
    let publicKeyTemplate := ⟨.objectClass, .ulong ckoPublicKey⟩ :: publicKeyTemplate
    let privateKeyTemplate := ⟨.objectClass, .ulong ckoPrivateKey⟩ :: privateKeyTemplate
    let one := t.create publicKeyTemplate
    let two := one.create privateKeyTemplate
    let three := two.openHandle (t.newObject publicKeyTemplate)
    (⟨ckrOk, (two.next, three.next)⟩, three.openHandle (one.newObject privateKeyTemplate))
  | .createObject _ template =>
    (⟨ckrOk, (t.create template).next⟩, (t.create template).openHandle (t.newObject template))
  | .findObjectsInit session template => (⟨ckrOk, ()⟩, t.startSearch session template)
  -- The first object that has all attributes is found, with a handle of its own.
  | .findObjects session _ =>
    match (t.token.searching session).bind fun template =>
      t.token.objects.find? (·.hasAll template) with
    | none => (⟨ckrOk, (0, 0)⟩, t)
    | some o => (⟨ckrOk, (t.next, 1)⟩, t.openHandle o)
  | .findObjectsFinal session => (⟨ckrOk, ()⟩, t.stopSearch session)
  | .getAttributeValue _ handle _ =>
    (⟨ckrOk, fun type =>
      match (t.token.handles handle).bind (·.attributes type) with
      | some (.bytes bytes) => ⟨bytes.length, bytes⟩
      | _ => ⟨0, []⟩⟩, t)
  | .destroyObject session handle =>
    match t.token.handles handle with
    | none => (.refused 0x82 (.destroyObject session handle), t)
    | some o => (⟨ckrOk, ()⟩, t.destroy o)
  | .signInit _ _ _ => (⟨ckrOk, ()⟩, t)
  | .sign _ data _ => (⟨ckrOk, data⟩, t)
  | .verifyInit _ _ _ => (⟨ckrOk, ()⟩, t)
  | .verify _ data signature => (⟨if data = signature then ckrOk else 0xC0, ()⟩, t)

end SoftToken

/-- The library, which may refuse to open sessions with some code. -/
def softToken (refusal : Option Nat) : Cryptoki SoftToken where
  call t request :=
    if t.initialized then t.serve refusal request
    else match request with
      -- Before it is initialized, the library serves nothing else.
      | .initializeLibrary => (⟨ckrOk, ()⟩, { t with initialized := true })
      | request => (.refused ckrCryptokiNotInitialized request, t)

/-- An object made from a template has all the attributes the template gives. -/
theorem SoftToken.newObject_hasAll (t : SoftToken) {template : Template}
    (proper : Proper template) : (t.newObject template).hasAll template := by
  -- The first entry of a type is the only one, which the induction on the template finds.
  have found : ∀ a ∈ template,
      (template.find? fun b => b.type = a.type).map Attribute.value = some a.value := by
    induction template with
    | nil => exact fun _ member => by cases member
    | cons head rest ih =>
      obtain ⟨new, proper⟩ := List.nodup_cons.mp proper
      intro a member
      rcases List.mem_cons.mp member with rfl | later
      · simp
      · have apart : head.type ≠ a.type := fun same =>
          new (same ▸ List.mem_map_of_mem later)
        rw [List.find?_cons_of_neg (by simpa using apart)]
        exact ih proper a later
  exact List.all_eq_true.mpr fun a member => decide_eq_true (found a member)

section Serves

variable {t : SoftToken}

/-- Once initialised the token serves. -/
theorem softToken_initialized {refusal : Option Nat} (ready : t.initialized = true)
    (request : Request) : (softToken refusal).call t request = t.serve refusal request :=
  if_pos ready

/-- Only an initialized library has a session. -/
theorem SoftToken.initialized_of_session {session : Nat} (member : session ∈ t.view.sessions) :
    t.initialized = true ∧ t.view = t.token := by
  -- Nothing is seen of a token that is not initialised.
  cases ready : t.initialized with
  | true => exact ⟨rfl, if_pos ready⟩
  | false => simp [SoftToken.view, ready] at member

/-- Once initialised it is seen as it is. -/
theorem SoftToken.view_eq {u : SoftToken} (ready : u.initialized = true) : u.view = u.token :=
  if_pos ready

/-- What is not on the search, the objects or the handles is no matter for the view. -/
theorem softToken_idle (request : Request)
    (idle : ∀ u : SoftToken, (u.serve none request).2 = u)
    (later : request ≠ .initializeLibrary) : ((softToken none).call t request).2.view = t.view := by
  -- It serves and changes nothing, or it refuses.
  cases ready : t.initialized with
  | true => rw [softToken_initialized ready, idle]
  | false => cases request <;> simp [softToken, ready] at later ⊢

/-- The soft token serves every valid call, as long as it opens sessions. -/
theorem softToken_serves : (softToken none).Serves SoftToken.view where
  openSession := by
    intro t primary member
    obtain ⟨ready, view⟩ := SoftToken.initialized_of_session member
    rw [softToken_initialized ready, view]
    refine ⟨rfl, Nat.pos_iff_ne_zero.mp t.positive, fun old => ?_, ?_, SoftToken.view_eq ready⟩
    · exact Nat.lt_irrefl _ (t.sessionsBelow _ old)
    · exact t.searchingBelow _ (Nat.le_refl _)
  closeSession := by
    intro t session member
    obtain ⟨ready, view⟩ := SoftToken.initialized_of_session member
    rw [softToken_initialized ready, view]
    exact SoftToken.view_eq (u := t.closeSession session) ready
  closeObjectHandle := by
    intro t session handle member _
    obtain ⟨ready, view⟩ := SoftToken.initialized_of_session member
    rw [softToken_initialized ready, view]
    exact SoftToken.view_eq (u := t.closeHandle handle) ready
  findObjectsInit := by
    intro t session template member _
    obtain ⟨ready, view⟩ := SoftToken.initialized_of_session member
    rw [softToken_initialized ready, view]
    have known : session < t.next := t.sessionsBelow session (view ▸ member)
    refine ⟨rfl, ?_⟩
    show (t.startSearch session template).view = _
    unfold SoftToken.startSearch
    -- A session that is open has a number that was given out.
    rw [dif_pos known]
    exact SoftToken.view_eq ready
  findObjects := by
    intro t session template member searching
    obtain ⟨ready, view⟩ := SoftToken.initialized_of_session member
    rw [view] at searching ⊢
    rw [softToken_initialized ready]
    simp only [SoftToken.serve, searching, Option.bind_some]
    cases found : t.token.objects.find? (·.hasAll template) with
    | none =>
      refine ⟨rfl, Or.inl ⟨fun o present => ?_, rfl, SoftToken.view_eq ready⟩⟩
      simpa using List.find?_eq_none.mp found o present
    | some o =>
      refine ⟨rfl, Or.inr ⟨o, List.mem_of_find?_eq_some found, ?_, rfl, ?_, ?_⟩⟩
      · simpa using List.find?_some found
      · exact ⟨Nat.pos_iff_ne_zero.mp t.positive, t.handlesBelow _ (Nat.le_refl _)⟩
      · exact SoftToken.view_eq (u := t.openHandle o) ready
  findObjectsFinal := by
    intro t session member
    obtain ⟨ready, view⟩ := SoftToken.initialized_of_session member
    rw [softToken_initialized ready, view]
    exact SoftToken.view_eq (u := t.stopSearch session) ready
  generateKeyPair := by
    intro t session publicKeyTemplate privateKeyTemplate member properPublic properPrivate
    obtain ⟨ready, view⟩ := SoftToken.initialized_of_session member
    rw [softToken_initialized ready, view]
    -- The public key is made first, so the private one is new beside it.
    let one := t.create (⟨.objectClass, .ulong ckoPublicKey⟩ :: publicKeyTemplate)
    refine ⟨rfl, _, _, t.newObject_hasAll properPublic, one.newObject_hasAll properPrivate,
      fun o present => Nat.ne_of_lt (t.objectsBelow o present),
      fun o present => Nat.ne_of_lt (one.objectsBelow o present), ⟨Nat.succ_ne_zero _, ?_⟩,
      ⟨Nat.succ_ne_zero _, ?_⟩, SoftToken.view_eq ready⟩
    · exact t.handlesBelow _ (Nat.le_add_right _ 2)
    · let two := one.create (⟨.objectClass, .ulong ckoPrivateKey⟩ :: privateKeyTemplate)
      exact (two.openHandle _).handlesBelow _ (Nat.le_refl _)
  createObject := by
    intro t session template member proper
    obtain ⟨ready, view⟩ := SoftToken.initialized_of_session member
    rw [softToken_initialized ready, view]
    refine ⟨rfl, _, t.newObject_hasAll proper, fun o present => ?_, ⟨?_, ?_⟩, ?_⟩
    · exact Nat.ne_of_lt (t.objectsBelow o present)
    · exact Nat.succ_ne_zero _
    · exact t.handlesBelow _ (Nat.le_add_right _ 1)
    · exact SoftToken.view_eq ready
  destroyObject := by
    intro t session handle o member present
    obtain ⟨ready, view⟩ := SoftToken.initialized_of_session member
    rw [view] at present ⊢
    rw [softToken_initialized ready]
    simp only [SoftToken.serve, present]
    exact ⟨trivial, SoftToken.view_eq (u := t.destroy o) ready⟩
  getAttributeValue _ _ _ _ := softToken_idle _ (fun _ => rfl) (by simp)
  signInit _ _ _ _ := softToken_idle _ (fun _ => rfl) (by simp)
  sign _ _ _ _ := softToken_idle _ (fun _ => rfl) (by simp)
  verifyInit _ _ _ _ := softToken_idle _ (fun _ => rfl) (by simp)
  verify _ _ _ _ := softToken_idle _ (fun _ => rfl) (by simp)

end Serves

end Grouper.Keymaster
