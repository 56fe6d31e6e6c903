import Grouper.Lib.Monitor
import Grouper.Lib.Run

/-! Calls under one mutex: what the mutex guards is as if the calls were made one at a time. -/

namespace Grouper

namespace Prog

variable {σ μ ν α β γ δ : Type}

/-- Programs in a row may be grouped either way. -/
theorem bind_assoc (p : Prog σ μ α) (f : α → Prog σ μ β) (g : β → Prog σ μ γ) :
    p >>= f >>= g = p >>= fun value => f value >>= g := by
  -- The induction walks down the first program.
  show (p.bind f).bind g = p.bind fun value => (f value).bind g
  induction p with
  | done value => rfl
  | read next ih => exact congrArg read (funext ih)
  | write change next ih => exact congrArg (write change) ih
  | lock mutex next ih => exact congrArg (lock mutex) ih
  | unlock mutex next ih => exact congrArg (unlock mutex) ih

/-- A program that touches no mutex and makes only writes of one kind. -/
def Makes (kind : (σ → σ) → Prop) : Prog σ μ α → Prop
  | done _ => True
  | read next => ∀ seen, Makes kind (next seen)
  | write change next => kind change ∧ Makes kind next
  | lock _ _ => False
  | unlock _ _ => False

section Makes

variable {kind : (σ → σ) → Prop}

/-- Returning makes no change. -/
theorem makes_pure (value : α) : Makes kind (pure value : Prog σ μ α) := trivial

/-- Nor does reading. -/
theorem makes_state : Makes kind (state : Prog σ μ σ) := fun _ => trivial

/-- An update of the kind is one. -/
theorem makes_update {change : σ → σ} (fits : kind change) :
    Makes kind (update change : Prog σ μ Unit) := ⟨fits, trivial⟩

/-- The writes of two programs in a row are those of the one and those of the other. -/
theorem Makes.bind {first : Prog σ μ α} {second : α → Prog σ μ β} (one : Makes kind first)
    (two : ∀ value, Makes kind (second value)) : Makes kind (first >>= second) := by
  change Makes kind (first.bind second)
  induction first with
  | done value => exact two value
  | read next ih => exact fun seen => ih seen (one seen)
  | write change next ih => exact ⟨one.1, ih one.2⟩
  -- Neither program has a step on a mutex.
  | lock mutex next => exact one.elim
  | unlock mutex next => exact one.elim

/-- A choice between programs that make such changes is one. -/
theorem Makes.ite {condition : Prop} [Decidable condition] {yes no : Prog σ μ α}
    (one : Makes kind yes) (two : Makes kind no) :
    Makes kind (if condition then yes else no) := by
  -- Either branch makes such changes.
  split
  · exact one
  · exact two

/-- And so is a guarded one. -/
theorem Makes.when {condition : Prop} [Decidable condition] {p : Prog σ μ Unit}
    (makes : Makes kind p) : Makes kind (Prog.when condition p) := makes.ite (makes_pure ())

/-- Writes that leave a part of the state alone make a program aloof from it. -/
theorem Makes.aloof {gate : μ} {view : σ → ν} {p : Prog σ μ α} (makes : Makes kind p)
    (same : ∀ change, kind change → ∀ s, view (change s) = view s) : Aloof gate view p := by
  -- Every change is of the kind, and the program is at no mutex.
  induction p with
  | done value => trivial
  | read next ih => exact fun seen => ih seen (makes seen)
  | write change next ih => exact ⟨same change makes.1, ih makes.2⟩
  | lock mutex next => exact makes.elim
  | unlock mutex next => exact makes.elim

end Makes

/-- Run alone, an aloof program leaves the guarded part as it was. -/
theorem Aloof.exec {gate : μ} {view : σ → ν} {p : Prog σ μ α} (aloof : Aloof gate view p)
    (start : σ) : view (p.exec start).2 = view start := by
  -- No step of the program changes what is seen.
  induction p generalizing start with
  | done value => rfl
  | read next ih => exact ih start (aloof start) start
  | write change next ih => exact (ih aloof.2 (change start)).trans (aloof.1 start)
  | lock mutex next ih => exact ih aloof.2 start
  | unlock mutex next ih => exact ih aloof.2 start

/--
What a program makes of the guarded part in the hands of the owner of the mutex.

`Within gate view known p post` says that `p`, started by the owner with a known value of the part,
neither releases the mutex nor takes it again, knows the value after each of its writes whatever the
other threads do to the rest, and ends with a result and a value that satisfy `post`.
-/
def Within (gate : μ) (view : σ → ν) : ν → Prog σ μ α → (α → ν → Prop) → Prop
  | known, done value, post => post value known
  | known, read next, post => ∀ seen, view seen = known → Within gate view known (next seen) post
  | known, write change next, post =>
    ∃ after, (∀ s, view s = known → view (change s) = after) ∧ Within gate view after next post
  | known, lock mutex next, post => mutex ≠ gate ∧ Within gate view known next post
  | known, unlock mutex next, post => mutex ≠ gate ∧ Within gate view known next post

section Within

variable {gate : μ} {view : σ → ν} {known : ν}

/-- Sequencing hands the value left by the first program to the second. -/
theorem Within.bind {first : Prog σ μ α} {second : α → Prog σ μ β} {post : β → ν → Prop}
    (within : Within gate view known first fun value left =>
      Within gate view left (second value) post) :
    Within gate view known (first >>= second) post := by
  -- The induction walks down the first program to the end where the second is grafted.
  show Within gate view known (first.bind second) post
  induction first generalizing known with
  | done value => exact within
  | read next ih => exact fun seen fits => ih seen (within seen fits)
  | write change next ih =>
    obtain ⟨after, moves, rest⟩ := within
    exact ⟨after, moves, ih rest⟩
  | lock mutex next ih => exact ⟨within.1, ih within.2⟩
  | unlock mutex next ih => exact ⟨within.1, ih within.2⟩

/-- Weakening the postcondition keeps the judgement. -/
theorem Within.mono {p : Prog σ μ α} {post weaker : α → ν → Prop}
    (within : Within gate view known p post)
    (weaken : ∀ value left, post value left → weaker value left) :
    Within gate view known p weaker := by
  -- The induction reaches every end of the program, where the postcondition stands.
  induction p generalizing known with
  | done value => exact weaken _ _ within
  | read next ih => exact fun seen fits => ih seen (within seen fits)
  | write change next ih =>
    obtain ⟨after, moves, rest⟩ := within
    exact ⟨after, moves, ih rest⟩
  | lock mutex next ih => exact ⟨within.1, ih within.2⟩
  | unlock mutex next ih => exact ⟨within.1, ih within.2⟩

/-- An aloof program leaves the value its thread knows. -/
theorem Aloof.within {p : Prog σ μ α} {post : α → ν → Prop} (aloof : Aloof gate view p)
    (met : ∀ value, post value known) : Within gate view known p post := by
  -- What is known stays the same at every step.
  induction p with
  | done value => exact met value
  | read next ih => exact fun seen _ => ih seen (aloof seen)
  | write change next ih => exact ⟨known, fun s fits => (aloof.1 s).trans fits, ih aloof.2⟩
  | lock mutex next ih => exact ⟨aloof.1, ih aloof.2⟩
  | unlock mutex next ih => exact ⟨aloof.1, ih aloof.2⟩

end Within

/--
The owner of a mutex keeps up with a run of its program alone.

`Follows gate view p q post` says that from any state on, `p` in the hands of the owner of the mutex
leaves the guarded part as `q` leaves it when run alone from a state with the same guarded part, and
that their results are related by `post`.
-/
def Follows (gate : μ) (view : σ → ν) (p : Prog σ μ α) (q : Prog σ μ β)
    (post : α → β → Prop) : Prop :=
  ∀ start, Within gate view (view start) p fun value left =>
    left = view (q.exec start).2 ∧ post value (q.exec start).1

section Follows

variable {gate : μ} {view : σ → ν}

/-- Two programs that only return are related as their results are. -/
theorem follows_pure {post : α → β → Prop} {one : α} {two : β} (related : post one two) :
    Follows gate view (pure one : Prog σ μ α) (pure two) post := fun _ => ⟨rfl, related⟩

/-- Programs that keep up go on from where the first ones have left the guarded part. -/
theorem Follows.bind {mid : α → β → Prop} {post : γ → δ → Prop} {p : Prog σ μ α}
    {q : Prog σ μ β} {f : α → Prog σ μ γ} {g : β → Prog σ μ δ}
    (first : Follows gate view p q mid)
    (second : ∀ one two, mid one two → Follows gate view (f one) (g two) post) :
    Follows gate view (p >>= f) (q >>= g) post := by
  -- The second pair starts from results that the first one has related.
  intro start
  refine .bind ((first start).mono fun value left reached => ?_)
  obtain ⟨rfl, related⟩ := reached
  rw [exec_bind]
  exact second _ _ related _

/-- The state itself may differ, but not in what the mutex guards. -/
theorem follows_state : Follows gate view (state : Prog σ μ σ) state
    fun one two => view one = view two :=
  fun _ _ fits => ⟨rfl, fits⟩

/-- A write keeps up if it makes the same of the same guarded part. -/
theorem follows_update {change other : σ → σ}
    (same : ∀ s t, view s = view t → view (change s) = view (other t)) :
    Follows gate view (update change : Prog σ μ Unit) (update other) fun _ _ => True :=
  fun start => ⟨view (other start), fun s fits => same s start fits, rfl, trivial⟩

/-- Programs that leave the guarded part alone keep up with each other. -/
theorem Aloof.follows {p : Prog σ μ α} {q : Prog σ μ β} (one : Aloof gate view p)
    (two : Aloof gate view q) : Follows gate view p q fun _ _ => True :=
  fun start => one.within fun _ => ⟨(two.exec start).symm, trivial⟩

/-- Both runs take the same branch. -/
theorem Follows.ite {post : α → β → Prop} {here there : Prop} [Decidable here]
    [Decidable there] {p p' : Prog σ μ α} {q q' : Prog σ μ β} (agree : here ↔ there)
    (yes : Follows gate view p q post) (no : Follows gate view p' q' post) :
    Follows gate view (if here then p else p') (if there then q else q') post := by
  -- Both programs take the same branch.
  by_cases condition : here
  · rwa [if_pos condition, if_pos (agree.mp condition)]
  · rwa [if_neg condition, if_neg (mt agree.mpr condition)]

/-- And so are two guarded programs whose conditions agree. -/
theorem Follows.when {here there : Prop} [Decidable here] [Decidable there]
    {p q : Prog σ μ Unit} (agree : here ↔ there)
    (inside : Follows gate view p q fun _ _ => True) :
    Follows gate view (Prog.when here p) (Prog.when there q) fun _ _ => True :=
  .ite agree inside (follows_pure trivial)

/-- Less may be said of the results. -/
theorem Follows.mono {post weaker : α → β → Prop} {p : Prog σ μ α} {q : Prog σ μ β}
    (follows : Follows gate view p q post)
    (weaken : ∀ one two, post one two → weaker one two) : Follows gate view p q weaker :=
  fun start => (follows start).mono fun _ _ reached => ⟨reached.1, weaken _ _ reached.2⟩

end Follows

section Stamp

variable {κ : Type} [DecidableEq μ]

/-- The same program, which enters its call in a history right before it releases a mutex. -/
def stamp (gate : μ) (call : κ) : Prog σ μ α → Prog (σ × List κ) μ α
  | done value => done value
  | read next => read fun s => (next s.1).stamp gate call
  | write change next => write (fun s => (change s.1, s.2)) (next.stamp gate call)
  | lock mutex next => lock mutex (next.stamp gate call)
  | unlock mutex next =>
    if mutex = gate then
      write (fun s => (s.1, s.2 ++ [call])) (unlock mutex (next.stamp gate call))
    else unlock mutex (next.stamp gate call)

variable {gate : μ} {call : κ} {view : σ → ν}

/-- The guarded part, with the history beside it. -/
def dated (view : σ → ν) (s : σ × List κ) : ν × List κ := (view s.1, s.2)

/-- A program that only returns has no release to stamp. -/
@[simp] theorem stamp_pure (value : α) :
    (pure value : Prog σ μ α).stamp gate call = pure value := rfl

/-- Programs are stamped one after the other. -/
@[simp] theorem stamp_bind (first : Prog σ μ α) (second : α → Prog σ μ β) :
    (first >>= second).stamp gate call =
      first.stamp gate call >>= fun value => (second value).stamp gate call := by
  show (first.bind second).stamp gate call =
    (first.stamp gate call).bind fun value => (second value).stamp gate call
  induction first with
  | done value => rfl
  | read next ih => exact congrArg read (funext fun s => ih s.1)
  | write change next ih => exact congrArg (write _) ih
  | lock mutex next ih => exact congrArg (lock mutex) ih
  | unlock mutex next ih =>
    -- The history is written to in front of the release or not at all.
    simp only [Prog.bind, stamp, ih]
    split <;> rfl

/-- Away from the mutex there is nothing to enter. -/
theorem Aloof.stamp {p : Prog σ μ α} (aloof : Aloof gate view p) :
    Aloof gate (dated view) (p.stamp gate call) := by
  -- A program that is not at the gate is left without a stamp.
  induction p with
  | done value => trivial
  | read next ih => exact fun seen => ih seen.1 (aloof seen.1)
  | write change next ih => exact ⟨fun s => congrArg (·, s.2) (aloof.1 s.1), ih aloof.2⟩
  | lock mutex next ih => exact ⟨aloof.1, ih aloof.2⟩
  | unlock mutex next ih =>
    rw [Prog.stamp, if_neg aloof.1]
    exact ⟨aloof.1, ih aloof.2⟩

/-- While the mutex is held nothing is entered, and the history stays as the owner has found it. -/
theorem Within.stamp {sound : ν × List κ → Prop} {p : Prog σ μ α} {known : ν} {past : List κ}
    {post : α → ν → Prop} (within : Within gate view known p post) :
    Guards gate (dated view) sound (some (known, past)) (p.stamp gate call)
      fun value left => ∃ after, left = some (after, past) ∧ post value after := by
  -- Between the two ends of the gate nothing is stamped, so the past is what it was.
  induction p generalizing known with
  | done value => exact ⟨known, rfl, within⟩
  | read next ih =>
    intro seen fits
    exact ih seen.1 (within seen.1 (Prod.ext_iff.mp (fits _ rfl)).1)
  | write change next ih =>
    obtain ⟨after, moves, rest⟩ := within
    refine ⟨some (after, past), fun s fits => ?_, ih rest⟩
    obtain ⟨value, history⟩ := Prod.ext_iff.mp fits
    exact Prod.ext (moves s.1 value) history
  | lock mutex next ih => exact ⟨fun same => absurd same within.1, fun _ => ih within.2⟩
  | unlock mutex next ih =>
    rw [Prog.stamp, if_neg within.1]
    exact ⟨fun same => absurd same within.1, fun _ => ih within.2⟩

/-- The owner enters its call and gives the mutex back. -/
theorem guards_stamp_release {sound : ν × List κ → Prop} {known : ν} {past : List κ}
    {post : Unit → Option (ν × List κ) → Prop} (fine : sound (known, past ++ [call]))
    (met : post () none) :
    Guards gate (dated view) sound (some (known, past))
      ((release gate : Prog σ μ Unit).stamp gate call) post := by
  -- The stamp is the one step before the release.
  show Guards gate (dated view) sound (some (known, past)) (Prog.stamp gate call
    (unlock gate (done ()))) post
  rw [Prog.stamp, if_pos rfl]
  refine ⟨some (known, past ++ [call]), fun s fits => ?_, guards_release fine met⟩
  obtain ⟨value, history⟩ := Prod.ext_iff.mp fits
  exact Prod.ext value (congrArg (· ++ [call]) history)

end Stamp

end Prog

namespace Config

open Function (update)

variable {τ σ μ ν κ : Type} [DecidableEq τ] [DecidableEq μ]

/--
Interleavings of named calls, with their history.

`Interleaves prog made gate start c now past` says that threads making calls of the kind `made` can
bring about `c`, in which `now` tells what call each thread is in, and `past` lists the calls that
have released the mutex, in the order in which they did.
-/
inductive Interleaves (prog : κ → Prog σ μ Unit) (made : κ → Prop) (gate : μ) (start : σ) :
    Config τ σ μ → (τ → Option κ) → List κ → Prop
  | start : Interleaves prog made gate start (initial start) (fun _ => none) []
  | call {c : Config τ σ μ} {now : τ → Option κ} {past : List κ} (t : τ) (call : κ)
      (before : Interleaves prog made gate start c now past) (allowed : made call)
      (idle : c.code t = none) :
      Interleaves prog made gate start { c with code := update c.code t (some (prog call)) }
        (update now t (some call)) past
  | step {c d : Config τ σ μ} {now : τ → Option κ} {past : List κ} (t : τ)
      (before : Interleaves prog made gate start c now past)
      (stepped : Step (fun _ => False) t c d) :
      Interleaves prog made gate start d now
        (if c.owner gate = some t ∧ d.owner gate = none then past ++ (now t).toList else past)

variable {prog : κ → Prog σ μ Unit} {made : κ → Prop} {gate : μ} {start : σ}

/-- A step that is not the beginning of a call is one whatever calls there are. -/
theorem Step.ofInner {entry : Prog σ μ Unit → Prop} {t : τ} {c d : Config τ σ μ}
    (stepped : Step (fun _ => False) t c d) : Step entry t c d := by
  -- A step that is no call is there whatever may be called.
  cases stepped with
  | call p allowed idle => exact allowed.elim
  | ret ended => exact .ret ended
  | read next here => exact .read next here
  | write change next here => exact .write change next here
  | lock mutex next here free => exact .lock mutex next here free
  | unlock mutex next here mine => exact .unlock mutex next here mine

/-- Whatever the threads can reach without names, they can reach with them. -/
theorem Reachable.interleaves (gate : μ) {c : Config τ σ μ}
    (reached : Reachable (fun p => ∃ call, made call ∧ p = prog call) start c) :
    ∃ now past, Interleaves prog made gate start c now past := by
  -- The induction names each call as it begins.
  induction reached with
  | refl => exact ⟨_, _, .start⟩
  | tail _ stepped ih =>
    obtain ⟨now, past, before⟩ := ih
    obtain ⟨t, stepped⟩ := stepped
    cases stepped with
    | call p allowed idle =>
      obtain ⟨call, fits, rfl⟩ := allowed
      exact ⟨_, _, .call t call before fits idle⟩
    | ret ended => exact ⟨_, _, .step t before (.ret ended)⟩
    | read next here => exact ⟨_, _, .step t before (.read next here)⟩
    | write change next here => exact ⟨_, _, .step t before (.write change next here)⟩
    | lock mutex next here free => exact ⟨_, _, .step t before (.lock mutex next here free)⟩
    | unlock mutex next here mine => exact ⟨_, _, .step t before (.unlock mutex next here mine)⟩

/-- The names and the history play no part in what the threads can reach. -/
theorem Interleaves.reachable {c : Config τ σ μ} {now : τ → Option κ} {past : List κ}
    (interleaves : Interleaves prog made gate start c now past) :
    Reachable (fun p => ∃ call, made call ∧ p = prog call) start c := by
  -- The induction is on the interleaving, and forgets which call is which.
  induction interleaves with
  | start => exact .refl
  | call t call _ allowed idle ih => exact ih.tail ⟨t, .call _ ⟨call, allowed, rfl⟩ idle⟩
  | step t _ stepped ih => exact ih.tail ⟨t, stepped.ofInner⟩

/-- A thread in the middle of a call has a name for it. -/
theorem Interleaves.named {c : Config τ σ μ} {now : τ → Option κ} {past : List κ}
    (interleaves : Interleaves prog made gate start c now past) {u : τ} {p : Prog σ μ Unit}
    (running : c.code u = some p) : ∃ call, now u = some call := by
  induction interleaves generalizing p with
  | start => cases running
  | call t call _ _ _ ih =>
    by_cases same : u = t
    · exact ⟨call, by rw [same, Function.update_self]⟩
    · rw [Function.update_of_ne same]
      exact ih (by simpa [same] using running)
  | step t _ stepped ih =>
    -- A thread that runs after a step of its own or of another one ran before it.
    by_cases same : u = t
    · subst same
      cases stepped with
      | call p allowed idle => exact allowed.elim
      | ret ended => exact ih ended
      | read next here => exact ih here
      | write change next here => exact ih here
      | lock mutex next here free => exact ih here
      | unlock mutex next here mine => exact ih here
    · refine ih (p := p) ?_
      cases stepped <;> simpa [same] using running

/-- The same configuration with stamped programs and the history beside its state. -/
def stamped (gate : μ) (c : Config τ σ μ) (now : τ → Option κ) (past : List κ) :
    Config τ (σ × List κ) μ where
  shared := (c.shared, past)
  owner := c.owner
  code t := (now t).bind fun call => (c.code t).map (Prog.stamp gate call)

/-- Going on with the code of one thread is going on with its stamped code. -/
theorem stamped_code (gate : μ) (now : τ → Option κ) (code : τ → Option (Prog σ μ Unit)) {t : τ}
    {call : κ} (who : now t = some call) (next : Option (Prog σ μ Unit)) :
    (fun u => (now u).bind fun call => (update code t next u).map (Prog.stamp gate call)) =
      update (fun u => (now u).bind fun call => (code u).map (Prog.stamp gate call)) t
        (next.map (Prog.stamp gate call)) := by
  -- Only the thread that went on has other code.
  funext u
  by_cases same : u = t
  · subst same
    simp [who]
  · simp [same]

/-- The calls, stamped with their names. -/
def Stamps (prog : κ → Prog σ μ Unit) (made : κ → Prop) (gate : μ)
    (p : Prog (σ × List κ) μ Unit) : Prop := ∃ call, made call ∧ p = (prog call).stamp gate call

/-- A call begins alike with its stamp. -/
theorem stamped_call {c : Config τ σ μ} (now : τ → Option κ) (past : List κ) {t : τ} {call : κ}
    (allowed : made call) (idle : c.code t = none) :
    Step (Stamps prog made gate) t (c.stamped gate now past)
      (stamped gate { c with code := update c.code t (some (prog call)) }
        (update now t (some call)) past) := by
  -- The program that is called is stamped with its own call.
  have begins : (c.stamped gate now past).code t = none := by simp [stamped, idle]
  have code : (fun u => (update now t (some call) u).bind fun name =>
      (update c.code t (some (prog call)) u).map (Prog.stamp gate name)) =
        update (c.stamped gate now past).code t (some ((prog call).stamp gate call)) := by
    funext u
    by_cases same : u = t
    · subst same
      simp
    · simp [stamped, same]
  have called : Step (Stamps prog made gate) t (c.stamped gate now past) _ :=
    .call _ ⟨call, allowed, rfl⟩ begins
  rw [← code] at called
  exact called

/-- A step of a call is a step with its stamp, or two when the mutex is released. -/
theorem stamped_step {entry : Prog (σ × List κ) μ Unit → Prop} {c d : Config τ σ μ}
    {now : τ → Option κ} {past : List κ} {t : τ} {call : κ} (who : now t = some call)
    (stepped : Step (fun _ => False) t c d) :
    Relation.ReflTransGen (fun before after => ∃ t, Step entry t before after)
      (c.stamped gate now past)
      (d.stamped gate now (if c.owner gate = some t ∧ d.owner gate = none then
        past ++ (now t).toList else past)) := by
  have at_ : ∀ p, c.code t = some p →
      (c.stamped gate now past).code t = some (p.stamp gate call) := by
    intro p here
    simp [stamped, who, here]
  have code := stamped_code gate now c.code who
  cases stepped with
  | call p allowed idle => exact allowed.elim
  | ret ended =>
    have ends : Step entry t (c.stamped gate now past) _ := .ret (at_ _ ended)
    rw [if_neg fun gone => by simp [gone.1] at gone]
    unfold stamped at ends ⊢
    rw [code]
    exact .single ⟨t, ends⟩
  | read next here =>
    have reads : Step entry t (c.stamped gate now past) _ := .read _ (at_ _ here)
    rw [if_neg fun gone => by simp [gone.1] at gone]
    unfold stamped at reads ⊢
    rw [code]
    exact .single ⟨t, reads⟩
  | write change next here =>
    have writes : Step entry t (c.stamped gate now past) _ := .write _ _ (at_ _ here)
    rw [if_neg fun gone => by simp [gone.1] at gone]
    unfold stamped at writes ⊢
    rw [code]
    exact .single ⟨t, writes⟩
  | lock mutex next here free =>
    have locks : Step entry t (c.stamped gate now past) _ := .lock _ _ (at_ _ here) free
    have kept : ¬ (c.owner gate = some t ∧ update c.owner mutex (some t) gate = none) := by
      by_cases same : gate = mutex <;> simp +contextual [same]
    rw [if_neg kept]
    unfold stamped at locks ⊢
    rw [code]
    exact .single ⟨t, locks⟩
  | unlock mutex next here mine =>
    have here' := at_ _ here
    rw [Prog.stamp] at here'
    by_cases same : mutex = gate
    · subst same
      rw [if_pos rfl] at here'
      -- The call is entered in the history first, and the mutex is released then.
      have enters : Step entry t (c.stamped mutex now past) _ := .write _ _ here'
      have gives : Step entry t _ _ := .unlock mutex (next.stamp mutex call)
        (c := ⟨(c.shared, past ++ [call]), c.owner, update (c.stamped mutex now past).code t
          (some (.unlock mutex (next.stamp mutex call)))⟩) (Function.update_self ..) mine
      rw [if_pos ⟨mine, Function.update_self ..⟩, who]
      rw [Function.update_idem] at gives
      unfold stamped at enters gives ⊢
      rw [code]
      exact .head ⟨t, enters⟩ (.single ⟨t, gives⟩)
    · rw [if_neg same] at here'
      have gives : Step entry t (c.stamped gate now past) _ := .unlock _ _ here' mine
      have kept : ¬ (c.owner gate = some t ∧ update c.owner mutex none gate = none) := by
        rw [Function.update_of_ne (Ne.symm same)]
        exact fun gone => by simp [gone.1] at gone
      rw [if_neg kept]
      unfold stamped at gives ⊢
      rw [code]
      exact .single ⟨t, gives⟩

/-- Stamped programs can do what the programs can, and keep the history while they do. -/
theorem Interleaves.stamped {c : Config τ σ μ} {now : τ → Option κ} {past : List κ}
    (interleaves : Interleaves prog made gate start c now past) :
    Reachable (Stamps prog made gate) (start, []) (c.stamped gate now past) := by
  induction interleaves with
  | start => exact .refl
  | call t call before allowed idle ih => exact ih.tail ⟨t, stamped_call _ _ allowed idle⟩
  | @step c d now past t before stepped ih =>
    -- The thread that takes the step is in the middle of a call.
    have running : ∃ p, c.code t = some p := by
      cases stepped with
      | call p allowed idle => exact allowed.elim
      | ret ended => exact ⟨_, ended⟩
      | read next here => exact ⟨_, here⟩
      | write change next here => exact ⟨_, here⟩
      | lock mutex next here free => exact ⟨_, here⟩
      | unlock mutex next here mine => exact ⟨_, here⟩
    obtain ⟨p, here⟩ := running
    obtain ⟨call, who⟩ := before.named here
    exact ih.trans (stamped_step who stepped)

end Config

section Serial

variable {τ σ μ ν κ : Type} [DecidableEq τ] [DecidableEq μ]

/-- The calls of a history, made one at a time, leave the guarded part like this. -/
def Serial (step : σ → κ → Option σ) (view : σ → ν) (made : κ → Prop) (start : σ)
    (seen : ν × List κ) : Prop :=
  (∀ call ∈ seen.2, made call) ∧ ∃ final, run step start seen.2 = some final ∧ view final = seen.1

variable {step : σ → κ → Option σ} {view : σ → ν} {made : κ → Prop} {start : σ}

/-- No call has been made. -/
theorem serial_nil : Serial step view made start (view start, []) := ⟨by simp, start, rfl, rfl⟩

/-- One more call is made after the others. -/
theorem serial_snoc {past : List κ} {call : κ} {final next : σ}
    (all : ∀ call ∈ past, made call) (ran : run step start past = some final)
    (here : made call) (stepped : step final call = some next) :
    Serial step view made start (view next, past ++ [call]) := by
  -- The calls of the past and one more.
  refine ⟨fun other member => ?_, next, ?_, rfl⟩
  · rcases List.mem_append.mp member with before | last
    · exact all other before
    · rwa [List.mem_singleton.mp last]
  · exact run_append.mpr ⟨final, ran, run_cons.mpr ⟨next, stepped, rfl⟩⟩

variable {prog : κ → Prog σ μ Unit} {gate : μ}

/--
While the mutex is free, the guarded part is as the calls of the history leave it in a row.

It is enough that every call, stamped, finds the guarded part as some calls in a row have left it
and gives it back as it is after one more.
-/
theorem Config.Interleaves.serial
    (turns : ∀ call, made call → ((prog call).stamp gate call).Guards gate (Prog.dated view)
      (Serial step view made start) none fun _ left => left = none)
    {c : Config τ σ μ} {now : τ → Option κ} {past : List κ}
    (interleaves : Interleaves prog made gate start c now past) (free : c.owner gate = none) :
    Serial step view made start (view c.shared, past) := by
  -- The stamped programs guard the past with the state, so at a free moment both are serial.
  have entries : ∀ p, Stamps prog made gate p → p.Guards gate (Prog.dated view)
      (Serial step view made start) none fun _ left => left = none := by
    rintro p ⟨call, allowed, rfl⟩
    exact turns call allowed
  exact (Monitored.reachable entries serial_nil interleaves.stamped).free free

end Serial

end Grouper
