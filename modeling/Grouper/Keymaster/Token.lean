import Mathlib.Logic.Function.Basic
import Grouper.Keymaster.Operations

/-! A token as PKCS#11 describes it: what a library that serves every valid call does to it. -/

namespace Grouper.Keymaster

open Function (update)

/-- An object in the token, told apart from others by a serial number. -/
structure TokenObject where
  serial : Nat
  attributes : AttributeType → Option AttributeValue

/-- An object that has all the attributes of a template. -/
def TokenObject.hasAll (o : TokenObject) (template : Template) : Bool :=
  template.all fun a => o.attributes a.type = some a.value

/-- A template that gives each of its attributes once. -/
def Proper (template : Template) : Prop := (template.map Attribute.type).Nodup

/-- A token: open sessions and their searches, objects with the newest first, and open handles. -/
structure Token where
  sessions : List Nat
  searching : Nat → Option Template
  objects : List TokenObject
  handles : Nat → Option TokenObject

namespace Token

variable (t : Token)

def openSession (session : Nat) : Token := { t with sessions := session :: t.sessions }

def closeSession (session : Nat) : Token := { t with sessions := t.sessions.erase session }

def startSearch (session : Nat) (template : Template) : Token :=
  { t with searching := update t.searching session (some template) }

def stopSearch (session : Nat) : Token :=
  { t with searching := update t.searching session none }

def openHandle (handle : Nat) (o : TokenObject) : Token :=
  { t with handles := update t.handles handle (some o) }

def closeHandle (handle : Nat) : Token := { t with handles := update t.handles handle none }

def create (o : TokenObject) : Token := { t with objects := o :: t.objects }

def destroy (o : TokenObject) : Token :=
  { t with objects := t.objects.filter fun other => other.serial ≠ o.serial }

/-- A handle no open object goes by. -/
def FreeHandle (handle : Nat) : Prop := handle ≠ ckInvalidHandle ∧ t.handles handle = none

/-- An object that is not in the token yet. -/
def Fresh (o : TokenObject) : Prop := ∀ other ∈ t.objects, other.serial ≠ o.serial

end Token

variable {τ : Type}

/--
A library that serves every call with valid arguments, as far as the keymaster relies on it.

The view says which token the library's state stands for.
-/
structure Cryptoki.Serves (lib : Cryptoki τ) (view : τ → Token) : Prop where
  openSession : ∀ s primary, primary ∈ (view s).sessions →
    let (reply, after) := lib.call s (.openSession (some primary))
    reply.rv = ckrOk ∧ reply.answer ≠ ckInvalidHandle ∧ reply.answer ∉ (view s).sessions ∧
      (view s).searching reply.answer = none ∧ view after = (view s).openSession reply.answer
  closeSession : ∀ s session, session ∈ (view s).sessions →
    view (lib.call s (.closeSession session)).2 = (view s).closeSession session
  closeObjectHandle : ∀ s session handle, session ∈ (view s).sessions →
    (view s).handles handle ≠ none →
    view (lib.call s (.closeObjectHandle session handle)).2 = (view s).closeHandle handle
  findObjectsInit : ∀ s session template, session ∈ (view s).sessions →
    (view s).searching session = none →
    let (reply, after) := lib.call s (.findObjectsInit session template)
    reply.rv = ckrOk ∧ view after = (view s).startSearch session template
  /-- Asked for one object, a search comes to one that matches, if there is any. -/
  findObjects : ∀ s session template, session ∈ (view s).sessions →
    (view s).searching session = some template →
    let (reply, after) := lib.call s (.findObjects session 1)
    reply.rv = ckrOk ∧
      ((∀ o ∈ (view s).objects, o.hasAll template = false) ∧ reply.answer.2 = 0 ∧
          view after = view s ∨
        ∃ o ∈ (view s).objects, o.hasAll template = true ∧ reply.answer.2 = 1 ∧
          (view s).FreeHandle reply.answer.1 ∧
          view after = (view s).openHandle reply.answer.1 o)
  findObjectsFinal : ∀ s session, session ∈ (view s).sessions →
    view (lib.call s (.findObjectsFinal session)).2 = (view s).stopSearch session
  /-- The two new objects have the attributes of the templates and the class of their kind. -/
  generateKeyPair : ∀ s session publicKeyTemplate privateKeyTemplate,
    session ∈ (view s).sessions →
    Proper (⟨.objectClass, .ulong ckoPublicKey⟩ :: publicKeyTemplate) →
    Proper (⟨.objectClass, .ulong ckoPrivateKey⟩ :: privateKeyTemplate) →
    let (reply, after) := lib.call s
      (.generateKeyPair session ckmRsaPkcsKeyPairGen publicKeyTemplate privateKeyTemplate)
    reply.rv = ckrOk ∧ ∃ publicKey privateKey : TokenObject,
      publicKey.hasAll (⟨.objectClass, .ulong ckoPublicKey⟩ :: publicKeyTemplate) ∧
      privateKey.hasAll (⟨.objectClass, .ulong ckoPrivateKey⟩ :: privateKeyTemplate) ∧
      (view s).Fresh publicKey ∧ ((view s).create publicKey).Fresh privateKey ∧
      (view s).FreeHandle reply.answer.1 ∧
      ((view s).openHandle reply.answer.1 publicKey).FreeHandle reply.answer.2 ∧
      view after = ((((view s).create publicKey).create privateKey).openHandle
        reply.answer.1 publicKey).openHandle reply.answer.2 privateKey
  createObject : ∀ s session template, session ∈ (view s).sessions → Proper template →
    let (reply, after) := lib.call s (.createObject session template)
    reply.rv = ckrOk ∧ ∃ o : TokenObject, o.hasAll template ∧ (view s).Fresh o ∧
      (view s).FreeHandle reply.answer ∧
      view after = ((view s).create o).openHandle reply.answer o
  destroyObject : ∀ s session handle o, session ∈ (view s).sessions →
    (view s).handles handle = some o →
    let (reply, after) := lib.call s (.destroyObject session handle)
    reply.rv = ckrOk ∧ view after = (view s).destroy o
  getAttributeValue : ∀ s session handle attributes,
    view (lib.call s (.getAttributeValue session handle attributes)).2 = view s
  signInit : ∀ s session mechanism key,
    view (lib.call s (.signInit session mechanism key)).2 = view s
  sign : ∀ s session data capacity,
    view (lib.call s (.sign session data capacity)).2 = view s
  verifyInit : ∀ s session mechanism key,
    view (lib.call s (.verifyInit session mechanism key)).2 = view s
  verify : ∀ s session data signature,
    view (lib.call s (.verify session data signature)).2 = view s

end Grouper.Keymaster
