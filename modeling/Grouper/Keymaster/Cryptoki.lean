import Grouper.Lib.Prog

/-! The PKCS#11 calls the keymaster makes, and the library on the other side of them. -/

namespace Grouper.Keymaster

def ckrOk : Nat := 0x0
def ckrSessionCount : Nat := 0xB1
def ckrCryptokiNotInitialized : Nat := 0x190

def ckInvalidHandle : Nat := 0

def ckoPublicKey : Nat := 2
def ckoPrivateKey : Nat := 3

def ckkRsa : Nat := 0

def ckmRsaPkcsKeyPairGen : Nat := 0
def ckmRsaX509 : Nat := 3

/-- The attributes of objects in the token, `CKA_CLASS` to `CKA_COEFFICIENT`. -/
inductive AttributeType where
  | objectClass
  | token
  | keyType
  | id
  | encrypt
  | decrypt
  | sign
  | verify
  | modulus
  | modulusBits
  | publicExponent
  | privateExponent
  | prime1
  | prime2
  | exponent1
  | exponent2
  | coefficient
  deriving DecidableEq, Repr

inductive AttributeValue where
  | bool (value : Bool)
  | ulong (value : Nat)
  | bytes (value : List UInt8)
  deriving DecidableEq, Repr

/-- `CK_ATTRIBUTE`, in a template. -/
structure Attribute where
  type : AttributeType
  value : AttributeValue
  deriving DecidableEq, Repr

abbrev Template := List Attribute

/-- What a query for one attribute stores: the length of the value, and the value if asked for. -/
structure AttributeAnswer where
  length : Nat
  bytes : List UInt8

/-- A call of the TEE's library, with its arguments. -/
inductive Request where
  | initializeLibrary
  | finalize
  | getInfo
  /-- A primary session, or a session under a primary one. -/
  | openSession (primary : Option Nat)
  | closeSession (session : Nat)
  | closeObjectHandle (session object : Nat)
  | generateKeyPair (session mechanism : Nat) (publicKeyTemplate privateKeyTemplate : Template)
  | createObject (session : Nat) (template : Template)
  | findObjectsInit (session : Nat) (template : Template)
  | findObjects (session maxObjectCount : Nat)
  | findObjectsFinal (session : Nat)
  /-- Each attribute comes with the size of the memory for its value, or with none. -/
  | getAttributeValue (session object : Nat) (attributes : List (AttributeType × Option Nat))
  | destroyObject (session object : Nat)
  | signInit (session mechanism key : Nat)
  | sign (session : Nat) (data : List UInt8) (capacity : Nat)
  | verifyInit (session mechanism key : Nat)
  | verify (session : Nat) (data signature : List UInt8)

/-- What a call stores for its caller: handles, a handle and a count, values, or a signature. -/
abbrev Request.Answer : Request → Type
  | openSession _ => Nat
  | generateKeyPair _ _ _ _ => Nat × Nat
  | createObject _ _ => Nat
  | findObjects _ _ => Nat × Nat
  | getAttributeValue _ _ _ => AttributeType → AttributeAnswer
  | sign _ _ _ => List UInt8
  | _ => Unit

/-- The return value of a call, a `CK_RV`, and what the call stored. -/
structure Reply (request : Request) where
  rv : Nat
  answer : request.Answer

/-- The TEE's library as its callers see it, with states `τ`. -/
structure Cryptoki (τ : Type) where
  call : τ → (request : Request) → Reply request × τ

/-- A call and how it was answered. -/
structure Event where
  request : Request
  reply : Reply request

/-- The library's state, and the calls made so far with the newest one first. -/
structure Tee (τ : Type) where
  state : τ
  calls : List Event

/-- A program of the keymaster, which has no mutexes. -/
abbrev KeymasterM (τ : Type) := Prog (Tee τ) Empty

variable {τ : Type}

/-- Call the library and log the call. -/
def call (lib : Cryptoki τ) (request : Request) : KeymasterM τ (Reply request) := do
  let tee ← Prog.state
  let (reply, state) := lib.call tee.state request
  Prog.update fun tee => { state := state, calls := ⟨request, reply⟩ :: tee.calls }
  return reply

/-- A call is answered by the library, and logged with its answer. -/
@[simp] theorem exec_call (lib : Cryptoki τ) (request : Request) (tee : Tee τ) :
    (call lib request).exec tee = ((lib.call tee.state request).1,
      { state := (lib.call tee.state request).2
        calls := ⟨request, (lib.call tee.state request).1⟩ :: tee.calls }) := rfl

end Grouper.Keymaster
