import Grouper.Keymaster.SoftToken
import Grouper.Lib.Run

/-! What a refused subsession does to the operation that asked for it, and to all later ones. -/

namespace Grouper.Keymaster

open Prog (Triple)

variable {τ : Type}

/-- While it is down, the library refuses every call until it is initialized. -/
structure Cryptoki.StaysDown (lib : Cryptoki τ) (down : τ → Prop) : Prop where
  refuses : ∀ s request, down s → request ≠ .initializeLibrary →
    (lib.call s request).1.rv = ckrCryptokiNotInitialized ∧ down (lib.call s request).2

/-- Finalizing takes the library down, and down it refuses every call until it is initialized. -/
structure Cryptoki.ShutsDown (lib : Cryptoki τ) (down : τ → Prop) : Prop
    extends lib.StaysDown down where
  finalize : ∀ s, down (lib.call s .finalize).2

/-- The library does not open a subsession. -/
def Cryptoki.RefusesSession (lib : Cryptoki τ) (primary : Nat) (s : τ) : Prop :=
  (lib.call s (.openSession (some primary))).1.rv ≠ ckrOk ∨
    (lib.call s (.openSession (some primary))).1.answer = ckInvalidHandle

/-- The constructor of `CryptoSession` is refused a session, and takes the library down. -/
def Cryptoki.ClosesDown (lib : Cryptoki τ) (down : τ → Prop) (primary : Nat) (s : τ) : Prop :=
  lib.RefusesSession primary s ∧
    down (lib.call (lib.call s (.openSession (some primary))).2 .finalize).2

/-- A refused session takes the library down if finalizing does. -/
theorem Cryptoki.ShutsDown.closesDown {lib : Cryptoki τ} {down : τ → Prop}
    (shuts : lib.ShutsDown down) {primary : Nat} {s : τ}
    (refuses : lib.RefusesSession primary s) : lib.ClosesDown down primary s :=
  ⟨refuses, shuts.finalize _⟩

/-- A library that is down refuses the session as well, and is down after it. -/
theorem Cryptoki.StaysDown.closesDown {lib : Cryptoki τ} {down : τ → Prop}
    (stays : lib.StaysDown down) {s : τ} (isDown : down s) (primary : Nat) :
    lib.ClosesDown down primary s := by
  -- The session is refused, and the call of `C_Finalize` behind it too.
  obtain ⟨refused, still⟩ := stays.refuses s (.openSession (some primary)) isDown (by simp)
  constructor
  · left
    rw [refused]
    decide
  · exact (stays.refuses _ .finalize still (by simp)).2

/-- The session of a call that creates, searches, queries, uses or destroys objects. -/
def Request.objectSession : Request → Option Nat
  | generateKeyPair session _ _ _ | createObject session _ | findObjectsInit session _
  | findObjects session _ | findObjectsFinal session | getAttributeValue session _ _
  | destroyObject session _ | signInit session _ _ | sign session _ _ | verifyInit session _ _
  | verify session _ _ => some session
  | _ => none

section Refused

variable {lib : Cryptoki τ} {down : τ → Prop} (stays : lib.StaysDown down) (primary : Nat)

/-- The library is down. -/
def Down (down : τ → Prop) (tee : Tee τ) : Prop := down tee.state

/-- A failed operation that leaves the library down. -/
def FailedDown (down : τ → Prop) (result : Option Result) (tee : Tee τ) : Prop :=
  result = some .failed ∧ down tee.state

include stays

/-- A library that is down refuses every call but the one that would bring it up. -/
theorem down_call (request : Request) (later : request ≠ .initializeLibrary) :
    Triple (Down down) (call lib request) fun reply tee => reply.rv ≠ ckrOk ∧ Down down tee := by
  -- The refusal is no `CKR_OK`.
  intro tee isDown
  obtain ⟨refused, still⟩ := stays.refuses tee.state request isDown later
  refine ⟨?_, still⟩
  show ((lib.call tee.state request).1).rv ≠ ckrOk
  rw [refused]
  decide

/-- A call whose reply nobody looks at leaves the library down. -/
theorem down_ignore (request : Request) (later : request ≠ .initializeLibrary) :
    Triple (Down down) (do let _ ← call lib request) fun (_ : Unit) => Down down :=
  .bind (down_call stays request later) fun _ => .pure fun _ met => met.2

/-- The destructor of a session does not bring it up. -/
theorem down_closeCryptoSession (session : Nat) :
    Triple (Down down) (closeCryptoSession lib session) fun _ => Down down :=
  .when (fun _ => down_ignore stays _ (by simp)) fun _ _ met => met

/-- Nor does that of a handle. -/
theorem down_closeObjectHandle (handle : Nat) :
    Triple (Down down) (closeObjectHandle lib primary handle) fun _ => Down down :=
  .when (fun _ => down_ignore stays _ (by simp)) fun _ _ met => met

/-- A search finds nothing while the library is down. -/
theorem down_findSingleObject (session : Nat) (objId : List UInt8) (objClass : Nat) :
    Triple (Down down) (findSingleObject lib session objId objClass) fun found tee =>
      found = none ∧ Down down tee := by
  -- The search does not even begin.
  refine .bind (down_call stays _ (by simp)) fun init => ?_
  refine .ite (fun _ => ?_) fun fine => ?_
  · exact .pure fun _ met => ⟨rfl, met.2⟩
  · exact fun _ met => absurd met.1 fine

/-- Nor does restoring a blob, which fails. -/
theorem down_keyblobRestore (session : Nat) (keyBlob : Option (List UInt8)) :
    Triple (Down down) (keyblobRestore lib session keyBlob) fun restored tee =>
      restored.ret ≠ 0 ∧ Down down tee := by
  -- If the blob is well formed, the first search fails.
  unfold keyblobRestore
  split
  · exact .pure fun _ isDown => ⟨by decide, isDown⟩
  · refine .bind (down_findSingleObject stays session _ _) fun found => ?_
    split
    · exact .pure fun _ met => ⟨by decide, met.2⟩
    · exact fun _ met => by cases met.1

/-- A body that fails still fails under a handle. -/
theorem down_withObjectHandle (handle : Nat) {pre : Tee τ → Prop}
    {body : KeymasterM τ (Option Result)} (failing : Triple pre body (FailedDown down)) :
    Triple pre (withObjectHandle lib primary handle body) (FailedDown down) := by
  -- The destructor is called after the body, and the library is down then.
  refine .bind failing fun result => ?_
  have closed : Triple (FailedDown down result)
      (Prog.when result.isSome (closeObjectHandle lib primary handle))
      fun _ => FailedDown down result := by
    refine .when (fun _ tee met => ?_) fun _ _ met => met
    exact ⟨met.1, down_closeObjectHandle stays primary handle tee met.2⟩
  exact closed.bind fun _ => .pure fun _ met => met

/-- No operation gets to work on a key pair while the library is down. -/
theorem down_withKeypair (session : Nat) (keyBlob : Option (List UInt8))
    (body : Nat → Nat → KeymasterM τ (Option Result)) :
    Triple (Down down) (withKeypair lib session primary keyBlob body) (FailedDown down) := by
  -- The blob is not restored, so the body is not reached.
  refine .bind (down_keyblobRestore stays session keyBlob) fun restored => ?_
  refine down_withObjectHandle stays primary _ (down_withObjectHandle stays primary _ ?_)
  refine .ite (fun _ => .pure fun _ met => ⟨rfl, met.2⟩) fun fine => ?_
  exact fun _ met => absurd met.1 fine

omit stays in
/-- A refused subsession takes the library down with it. -/
theorem refused_openCryptoSession :
    Triple (fun tee => lib.ClosesDown down primary tee.state) (openCryptoSession lib primary)
      fun _ => Down down := by
  -- The constructor goes into the branch that finalises the library.
  rintro tee ⟨refuses, isDown⟩
  have refused : ((lib.call tee.state (.openSession (some primary))).1.rv ≠ ckrOk ∨
    (lib.call tee.state (.openSession (some primary))).1.answer = ckInvalidHandle) := refuses
  unfold openCryptoSession
  rw [Prog.exec_bind, exec_call, Prog.exec_ite, if_pos refused]
  exact isDown

/-- An operation that is refused its subsession fails, as far as its body does without one. -/
theorem refused_withCryptoSession {body : Nat → KeymasterM τ (Option Result)}
    (failing : ∀ session, Triple (Down down) (body session) (FailedDown down)) :
    Triple (fun tee => lib.ClosesDown down primary tee.state)
      (withCryptoSession lib primary body) (FailedDown down) := by
  -- The body runs without a session, in a library that is down.
  refine .bind (refused_openCryptoSession primary) fun session => ?_
  refine .bind (failing session) fun result => ?_
  have closed : Triple (FailedDown down result)
      (Prog.when result.isSome (closeCryptoSession lib session))
      fun _ => FailedDown down result := by
    refine .when (fun _ tee met => ?_) fun _ _ met => met
    exact ⟨met.1, down_closeCryptoSession stays session tee met.2⟩
  exact closed.bind fun _ => .pure fun _ met => met

/-- Creating keys or objects fails while the library is down. -/
theorem down_create {request : Request} (later : request ≠ .initializeLibrary)
    (rest : Reply request → KeymasterM τ (Option Result)) :
    Triple (Down down) (do
      let reply ← call lib request
      if reply.rv ≠ ckrOk then return some .failed else rest reply) (FailedDown down) := by
  -- The first call fails, and the rest is not reached.
  refine .bind (down_call stays request later) fun reply => ?_
  refine .ite (fun _ => ?_) fun fine => ?_
  · exact .pure fun _ met => ⟨rfl, met.2⟩
  · exact fun _ met => absurd met.1 fine

/-- Every operation that is refused its subsession fails and leaves the library down. -/
theorem refused_prog (op : Op) (opens : op.opensSession = true) :
    Triple (fun tee => lib.ClosesDown down primary tee.state) (op.prog lib primary)
      (FailedDown down) := by
  cases Op.opens_of opens with
  | generateKeypair params objId =>
    show Triple _ (teeGenerateKeypair lib primary typeRsa (some params) (some objId)) _
    rw [teeGenerateKeypair_rsa]
    exact refused_withCryptoSession stays primary fun session => down_create stays (by simp) _
  | importKeypair rsa converts objId modulus exponent =>
    show Triple _ (teeImportKeypair lib primary (some (.rsa rsa)) converts (some objId)) _
    rw [teeImportKeypair_rsa lib primary rsa objId modulus exponent]
    exact refused_withCryptoSession stays primary fun session => down_create stays (by simp) _
  -- The other operations first restore their key pair, which needs the library up.
  | getKeypairPublic keyBlob destination encodes =>
    exact refused_withCryptoSession stays primary fun session =>
      down_withKeypair stays primary session _ _
  | deleteKeypair keyBlob =>
    exact refused_withCryptoSession stays primary fun session =>
      down_withKeypair stays primary session _ _
  | signData params keyBlob data =>
    exact refused_withCryptoSession stays primary fun session =>
      down_withKeypair stays primary session _ _
  | verifyData params keyBlob signedData signature =>
    exact refused_withCryptoSession stays primary fun session =>
      down_withKeypair stays primary session _ _

end Refused

/-- An operation fails by itself: on no invalid session, and with no trace in later results. -/
structure Contained (down : τ → Prop) (primary : Nat) (s : τ) (act : Cryptoki τ × Op) : Prop where
  fails : ∃ result, ((act.2.prog act.1 primary).exec ⟨s, []⟩).1 = some result ∧ result.ret = -1
  sessions : ∀ event ∈ ((act.2.prog act.1 primary).exec ⟨s, []⟩).2.calls,
    event.request.objectSession ≠ some ckInvalidHandle
  later : ∀ later : List (Cryptoki τ × Op), (∀ act ∈ later, act.1.ShutsDown down) →
    results primary ((act.2.prog act.1 primary).exec ⟨s, []⟩).2 later =
      results primary ⟨s, []⟩ later

/-- An operation on a library that is down fails, whatever its arguments. -/
theorem down_prog {lib : Cryptoki τ} {down : τ → Prop} (stays : lib.StaysDown down)
    (primary : Nat) (op : Op) {tee : Tee τ} (isDown : down tee.state) :
    ((op.prog lib primary).exec tee).1 = some .failed := by
  cases opens : op.opensSession with
  | false =>
    rw [rejected_prog lib primary op opens]
    rfl
  | true =>
    -- Down, the library refuses the subsession along with everything else.
    exact (refused_prog stays primary op opens tee (stays.closesDown isDown primary)).1

/-- There is an operation that would succeed. -/
def Usable (down : τ → Prop) (primary : Nat) (s : τ) : Prop :=
  ∃ other : Cryptoki τ × Op, other.1.ShutsDown down ∧
    ∃ result, ((other.2.prog other.1 primary).exec ⟨s, []⟩).1 = some result ∧ result.ret = 0

/-- If the operation is refused its subsession, its failure is contained. -/
def Survives (down : τ → Prop) (primary : Nat) (tee : Tee τ) (act : Cryptoki τ × Op) : Prop :=
  act.2.opensSession = true → act.1.RefusesSession primary tee.state →
    Contained down primary tee.state act

/-- The operation is not refused its subsession. -/
def Granted (primary : Nat) (tee : Tee τ) (act : Cryptoki τ × Op) : Prop :=
  ¬ (act.2.opensSession = true ∧ act.1.RefusesSession primary tee.state)

/-- A refused operation of a usable module is never contained: others fail that would not have. -/
theorem survives_iff_granted {down : τ → Prop} {primary : Nat} {tee : Tee τ}
    {act : Cryptoki τ × Op} (shuts : act.1.ShutsDown down)
    (usable : Usable down primary tee.state) :
    Survives down primary tee act ↔ Granted primary tee act := by
  -- A refused session ends what would have succeeded, and a granted one asks for nothing.
  constructor
  · rintro contained ⟨opens, refuses⟩
    obtain ⟨other, shutsToo, result, succeeds, zero⟩ := usable
    have isDown := (refused_prog shuts.toStaysDown primary act.2 opens ⟨tee.state, []⟩
      (shuts.closesDown refuses)).2
    have same := (contained opens refuses).later [other] (by simpa using shutsToo)
    rw [results_cons (down_prog shutsToo.toStaysDown primary other.2 isDown),
      results_cons succeeds] at same
    have failed : Result.failed = result := Option.some.inj (List.cons.inj same).1
    rw [← failed] at zero
    cases zero
  · intro granted opens refuses
    exact absurd ⟨opens, refuses⟩ granted

/--
A sequence of operations contains every refused subsession only if it has none.

The module is taken to be usable for as long as no subsession has been refused.
-/
theorem survives_along_iff {down : τ → Prop} {primary : Nat} {tee : Tee τ}
    {acts : List (Cryptoki τ × Op)} (shuts : ∀ act ∈ acts, act.1.ShutsDown down)
    (usable : ∀ before after, before <+: acts → run (step primary) tee before = some after →
      Along (step primary) (Granted primary) tee before → Usable down primary after.state) :
    Along (step primary) (Survives down primary) tee acts ↔
      Along (step primary) (Granted primary) tee acts := by
  -- The first refusal decides on both sides, and up to it the module is usable.
  induction acts generalizing tee with
  | nil => exact Iff.rfl
  | cons act rest ih =>
    have first := survives_iff_granted (shuts act List.mem_cons_self)
      (usable [] tee (List.nil_prefix) rfl trivial)
    have later : Granted primary tee act → ∀ next, step primary tee act = some next →
        (Along (step primary) (Survives down primary) next rest ↔
          Along (step primary) (Granted primary) next rest) := by
      intro granted next stepped
      refine ih (fun other member => shuts other (List.mem_cons_of_mem _ member)) ?_
      intro before after initial ran along
      refine usable (act :: before) after (List.cons_prefix_cons.mpr ⟨rfl, initial⟩)
        (run_cons.mpr ⟨next, stepped, ran⟩) ⟨granted, fun other took => ?_⟩
      obtain rfl := Option.some.inj (stepped.symm.trans took)
      exact along
    constructor
    · rintro ⟨survives, rest⟩
      have granted := first.mp survives
      exact ⟨granted, fun next stepped => (later granted next stepped).mp (rest next stepped)⟩
    · rintro ⟨granted, rest⟩
      exact ⟨first.mpr granted,
        fun next stepped => (later granted next stepped).mpr (rest next stepped)⟩

/-- The soft token does not outlive being finalized. -/
theorem softToken_shutsDown (refusal : Option Nat) :
    (softToken refusal).ShutsDown fun t => t.initialized = false where
  finalize := by
    -- Finalising is served or refused, and it is down after either.
    intro t
    cases ready : t.initialized with
    | true =>
      rw [softToken_initialized ready]
      rfl
    | false => simp [softToken, ready]
  refuses := by
    intro t request isDown later
    cases request <;> simp [softToken, isDown, Reply.refused_rv] at later ⊢

/-- A soft token on which the device has been opened. -/
def softOpened : Tee SoftToken := ((teeOpen (softToken none) true).exec ⟨.blank, []⟩).2

/-- A key pair is generated for some ID. -/
def generates : Op :=
  .generateKeypair typeRsa (some ⟨2048, 65537⟩) (some (Vector.replicate idLength 7))

/-- An operation whose session is granted survives. -/
theorem survives_along_iff_granted :
    Along (step 1) (Survives (fun t => t.initialized = false) 1) softOpened
      [(softToken none, generates)] := by
  refine (survives_along_iff (by simpa using softToken_shutsDown none) ?_).mpr
    ⟨fun refused => ?_, fun _ _ => trivial⟩
  · -- The generation succeeds before the sequence, and once more after it.
    intro before after initial ran _
    refine ⟨(softToken none, generates), softToken_shutsDown none, ?_⟩
    rcases List.prefix_cons_iff.mp initial with rfl | ⟨rest, rfl, none⟩
    · obtain rfl := Option.some.inj ran
      exact ⟨_, rfl, rfl⟩
    · obtain rfl := List.prefix_nil.mp none
      obtain rfl := Option.some.inj ran
      exact ⟨_, rfl, rfl⟩
  · rcases refused.2 with failed | invalid
    · exact failed rfl
    · cases invalid

/-- A refused generation works on an invalid session and leaves no operation that succeeds. -/
theorem not_survives : ∃ primary,
    ((teeOpen (softToken none) true).exec ⟨.blank, []⟩).1 = .ok primary ∧
      ¬ Survives (fun t => t.initialized = false) primary softOpened
        (softToken (some ckrSessionCount), generates) ∧
      ((generates.prog (softToken (some ckrSessionCount)) primary).exec softOpened).2.calls.any
        (fun event => event.request.objectSession = some ckInvalidHandle) ∧
      results primary softOpened [(softToken none, generates)] ≠ [some .failed] ∧
      results primary softOpened [(softToken (some ckrSessionCount), generates),
        (softToken none, generates)] = [some .failed, some .failed] := by
  -- The one session too many is refused, and the next operation fails for good.
  refine ⟨1, rfl, fun survives => ?_, rfl, by decide, rfl⟩
  have same := (survives rfl (Or.inl (by decide))).later [(softToken none, generates)]
    (by simpa using softToken_shutsDown none)
  have failed : Result.failed.ret = 0 := congrArg
    (fun rs : List (Option Result) => (rs.head?.bind id).elim 0 Result.ret) same
  exact absurd failed (by decide)

end Grouper.Keymaster
