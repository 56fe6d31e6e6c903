import Grouper.Power.PokerRuns

/-! Who closes the files behind a handle, whatever becomes of the events and their keys. -/

namespace Grouper.Power

open Function (update)

/-- The files that were closed, as often as they were. -/
def Kernel.closedFiles (k : Kernel) : List File := k.closings.map Closing.file

def Kernel.ClosedOnce (k : Kernel) (file : File) : Prop := k.closedFiles.count file = 1

/-- Every descriptor stands for a file of its own, and no file is closed twice. -/
structure Kernel.Sound (k : Kernel) : Prop where
  serials : ∀ file ∈ k.opened, file.serial < k.opened.length
  known : ∀ fd file, k.fds fd = some file → file ∈ k.opened
  alone : ∀ fd other file, k.fds fd = some file → k.fds other = some file → fd = other
  unclosed : ∀ fd file, k.fds fd = some file → file ∉ k.closedFiles
  once : k.closedFiles.Nodup
  past : ∀ file ∈ k.closedFiles, file ∈ k.opened

/-- What one kernel had open is open in a later one, or closed. -/
structure Kernel.Later (k later : Kernel) : Prop where
  opened : ∀ file ∈ k.opened, file ∈ later.opened
  closed : ∀ file ∈ k.closedFiles, file ∈ later.closedFiles
  still : ∀ fd file, k.fds fd = some file → later.fds fd = some file ∨ file ∈ later.closedFiles

section Kernel

variable {k later : Kernel} {fd : Nat} {file : File}

/-- A kernel is later than itself. -/
theorem Kernel.Later.refl (k : Kernel) : k.Later k :=
  ⟨fun _ => id, fun _ => id, fun _ _ => .inl⟩

/-- Later is later, over any number of steps. -/
theorem Kernel.Later.trans {last : Kernel} (first : k.Later later) (second : later.Later last) :
    k.Later last := by
  -- A descriptor still open in between may be closed after that.
  refine ⟨fun file member => second.opened file (first.opened file member),
    fun file member => second.closed file (first.closed file member), fun fd file there => ?_⟩
  rcases first.still fd file there with still | closed
  · exact second.still fd file still
  · exact .inr (second.closed file closed)

/-- What is written makes no difference. -/
theorem Kernel.later_write (k : Kernel) (writes : List (File × PmQosSetting)) :
    k.Later { k with writes := writes } :=
  ⟨fun _ => id, fun _ => id, fun _ _ => .inl⟩

/-- Opening forgets no file. -/
theorem Kernel.later_open (free : k.fds fd = none) (purpose : Purpose) :
    k.Later (k.open_ fd purpose) := by
  refine ⟨fun file => List.mem_cons_of_mem _, fun _ => id, fun other file there => .inl ?_⟩
  -- The descriptor that is opened stood for nothing.
  have apart : other ≠ fd := fun same => by
    rw [same, free] at there
    cases there
  exact (Function.update_of_ne apart _ _).trans there

/-- A closed file is remembered. -/
theorem Kernel.closedFiles_close (there : k.fds fd = some file) (time : Int) (closer : Closer) :
    (k.close fd time closer).closedFiles = file :: k.closedFiles := by
  rw [Kernel.Accounts.close_eq time closer there]
  rfl

/-- Its descriptor is free again. -/
theorem Kernel.fds_close_eq (there : k.fds fd = some file) (time : Int) (closer : Closer) :
    (k.close fd time closer).fds = update k.fds fd none := by
  rw [Kernel.Accounts.close_eq time closer there]

/-- Closing opens nothing. -/
theorem Kernel.opened_close (k : Kernel) (fd : Nat) (time : Int) (closer : Closer) :
    (k.close fd time closer).opened = k.opened := by
  unfold Kernel.close
  split <;> rfl

/-- Closing forgets no file either. -/
theorem Kernel.later_close (there : k.fds fd = some file) (time : Int) (closer : Closer) :
    k.Later (k.close fd time closer) := by
  -- The file that goes from the descriptors is among the closed ones then.
  refine ⟨fun other => by rw [Kernel.opened_close]; exact id, fun other member => ?_,
    fun other found still => ?_⟩
  · rw [Kernel.closedFiles_close there]
    exact List.mem_cons_of_mem _ member
  · rw [Kernel.closedFiles_close there, Kernel.fds_close_eq there]
    by_cases same : other = fd
    · subst same
      rw [there] at still
      exact .inr (Option.some.inj still ▸ List.mem_cons_self)
    · exact .inl ((Function.update_of_ne same _ _).trans still)

namespace Kernel.Sound

/-- A file that is opened next was never opened before. -/
theorem file_new (sound : k.Sound) (purpose : Purpose) : k.file purpose ∉ k.opened :=
  fun member => Nat.lt_irrefl _ (sound.serials _ member)

/-- A file was closed once if it was closed at all. -/
theorem closedOnce_iff (sound : k.Sound) : k.ClosedOnce file ↔ file ∈ k.closedFiles := by
  refine ⟨fun once => List.count_pos_iff.mp (Nat.lt_of_lt_of_eq Nat.zero_lt_one once.symm),
    fun member => List.count_eq_one_of_mem sound.once member⟩

/-- Writing to files opens and closes none. -/
theorem write (sound : k.Sound) (writes : List (File × PmQosSetting)) :
    ({ k with writes := writes } : Kernel).Sound :=
  ⟨sound.serials, sound.known, sound.alone, sound.unclosed, sound.once, sound.past⟩

/-- A free descriptor may be opened. -/
theorem open_ (sound : k.Sound) (free : k.fds fd = none) (purpose : Purpose) :
    (k.open_ fd purpose).Sound := by
  have new := sound.file_new purpose
  -- A descriptor stands for the new file, or for what it stood for.
  have cases_ : ∀ other found, (k.open_ fd purpose).fds other = some found →
      other = fd ∧ found = k.file purpose ∨ other ≠ fd ∧ k.fds other = some found := by
    intro other found there
    have there : update k.fds fd (some (k.file purpose)) other = some found := there
    by_cases same : other = fd
    · subst same
      rw [Function.update_self] at there
      exact .inl ⟨rfl, (Option.some.inj there).symm⟩
    · rw [Function.update_of_ne same] at there
      exact .inr ⟨same, there⟩
  refine ⟨List.forall_mem_cons.mpr ⟨Nat.lt_succ_self _, fun file member =>
    Nat.lt_succ_of_lt (sound.serials file member)⟩, fun other found there => ?_,
    fun one other found first second => ?_, fun other found there => ?_, sound.once,
    fun file member => List.mem_cons_of_mem _ (sound.past file member)⟩
  · rcases cases_ other found there with ⟨_, rfl⟩ | ⟨_, there⟩
    · exact List.mem_cons_self
    · exact List.mem_cons_of_mem _ (sound.known other found there)
  · rcases cases_ one found first with ⟨rfl, rfl⟩ | ⟨_, first⟩
    · rcases cases_ other _ second with ⟨rfl, _⟩ | ⟨_, second⟩
      · rfl
      · exact absurd (sound.known other _ second) new
    · rcases cases_ other found second with ⟨_, rfl⟩ | ⟨_, second⟩
      · exact absurd (sound.known one _ first) new
      · exact sound.alone one other found first second
  · rcases cases_ other found there with ⟨_, rfl⟩ | ⟨_, there⟩
    · exact fun member => new (sound.past _ member)
    · exact sound.unclosed other found there

/-- An open descriptor may be closed, whatever it stands for. -/
theorem close (sound : k.Sound) (there : k.fds fd = some file) (time : Int) (closer : Closer) :
    (k.close fd time closer).Sound := by
  have closed := Kernel.closedFiles_close there time closer
  have fds := Kernel.fds_close_eq there time closer
  have opened := k.opened_close fd time closer
  refine ⟨by rw [opened]; exact sound.serials, fun other found still => ?_,
    fun one other found first second => ?_, fun other found still => ?_, ?_, ?_⟩
  · rw [fds] at still
    rw [opened]
    exact sound.known other found (Kernel.Accounts.fds_close still).2
  · rw [fds] at first second
    exact sound.alone one other found (Kernel.Accounts.fds_close first).2
      (Kernel.Accounts.fds_close second).2
  · -- The file that was closed stands under no other descriptor.
    rw [fds] at still
    rw [closed]
    obtain ⟨apart, still⟩ := Kernel.Accounts.fds_close still
    intro member
    rcases List.mem_cons.mp member with rfl | member
    · exact apart (sound.alone other fd found still there)
    · exact sound.unclosed other found still member
  · rw [closed]
    exact List.nodup_cons.mpr ⟨sound.unclosed fd file there, sound.once⟩
  · rw [closed, opened]
    exact List.forall_mem_cons.mpr ⟨sound.known fd file there, sound.past⟩

end Kernel.Sound

end Kernel

/-- The descriptors of the timeout events that are queued, each in one place only. -/
structure Backs (queued : Nat → Option (Numbered QueuedEvent)) (due : List (Nat × File)) :
    Prop where
  listed : ∀ key event, queued key = some event → ∀ one ∈ event.item.holding, one ∈ due
  apart : ∀ key other event found one, queued key = some event → queued other = some found →
    one ∈ event.item.holding → one ∈ found.item.holding → key = other

namespace Backs

variable {queued : Nat → Option (Numbered QueuedEvent)} {due : List (Nat × File)} {key : Nat}
  {event : Numbered QueuedEvent}

/-- What is still found after one key was emptied was found before, under another key. -/
theorem found_of_drop {other : Nat} (found : update queued key none other = some event) :
    other ≠ key ∧ queued other = some event := by
  -- Under the key itself nothing is queued afterwards.
  by_cases same : other = key
  · subst same
    rw [Function.update_self] at found
    cases found
  · rw [Function.update_of_ne same] at found
    exact ⟨same, found⟩

/-- Nothing need be queued. -/
theorem drop (backs : Backs queued due) (key : Nat) : Backs (update queued key none) due where
  listed other event found := backs.listed other event (found_of_drop found).2
  apart other another event found one first second :=
    backs.apart other another event found one (found_of_drop first).2 (found_of_drop second).2

/-- An event that is taken out takes its descriptor along. -/
theorem take (backs : Backs queued due) (found : queued key = some event) {one : Nat × File}
    (holding : event.item.holding = [one]) :
    one ∈ due ∧ Backs (update queued key none) (due.erase one) := by
  have mine : one ∈ event.item.holding := holding ▸ List.mem_singleton_self one
  refine ⟨backs.listed key event found one mine, fun other another there each member => ?_,
    (backs.drop key).apart⟩
  -- Under another key there is another descriptor.
  obtain ⟨apart, there⟩ := found_of_drop there
  refine (List.mem_erase_of_ne fun same => ?_).mpr (backs.listed other another there each member)
  exact apart (backs.apart other key another event one there found (same ▸ member) mine)

/-- An event that is queued brings its descriptor, and may displace another event. -/
theorem put (backs : Backs queued due) (key : Nat)
    (new : ∀ one ∈ event.item.holding, one ∉ due) :
    Backs (update queued key (some event)) (event.item.holding ++ due) := by
  -- Under a key there is the new event, or what was there before.
  have cases_ : ∀ other another, update queued key (some event) other = some another →
      other = key ∧ another = event ∨ queued other = some another := by
    intro other another found
    -- The update decides at the key, and leaves every other one as it was.
    by_cases same : other = key
    · subst same
      rw [Function.update_self] at found
      exact .inl ⟨rfl, (Option.some.inj found).symm⟩
    · rw [Function.update_of_ne same] at found
      exact .inr found
  refine ⟨fun other another found one member => ?_, fun other another event_ found one first second
    mine yours => ?_⟩
  · rcases cases_ other another found with ⟨_, rfl⟩ | found
    · exact List.mem_append_left _ member
    · exact List.mem_append_right _ (backs.listed other another found one member)
  · rcases cases_ other event_ first with ⟨rfl, rfl⟩ | here
    · -- A descriptor that is new cannot be under a key that was there before.
      rcases cases_ another found second with ⟨rfl, _⟩ | there
      · rfl
      · exact absurd (backs.listed another found there one yours) (new one mine)
    · rcases cases_ another found second with ⟨_, rfl⟩ | there
      · exact absurd (backs.listed other event_ here one mine) (new one yours)
      · exact backs.apart other another event_ found one here there mine yours

end Backs

/-- The descriptors the looper thread works on. -/
def Handler.inHand : Handler → List (Nat × File)
  | .running event => event.item.holding
  | .opened _ fd file => [(fd, file)]
  | _ => []

/-- What the looper thread knows of the file it has opened. -/
def Handler.Knows : Handler → Prop
  | .opened event _ file =>
    match event.item with
    | .pmQosOpenHandle _ _ _ => file.purpose = .node
    | _ => file.isTimed = true
  | _ => True

/-- The descriptors in the hands of the looper thread and of the listeners. -/
def Poker.inHand (s : Poker) : List (Nat × File) :=
  s.handler.inHand ++ s.listeners.flatMap Listener.holding

/-- A result stored for a caller is an error, or the client end of a pipe. -/
def Caller.Returns (k : Kernel) : Caller → Prop
  | .woken ret => ret = -1 ∨ 0 ≤ ret ∧ ∃ client ∈ k.opened, client.purpose = .client ∧
      (k.fds ret.toNat = some client ∨ client ∈ k.closedFiles)
  | _ => True

/-- What every step keeps, whether or not the looper listens and whether or not keys are lost. -/
structure Poker.Owns (s : Poker) (due : List (Nat × File)) : Prop where
  sound : s.kernel.Sound
  holds : Slotted s.kernel.fds (s.inHand ++ due)
  /-- Other code holds none of them. -/
  ours : ∀ one ∈ s.inHand ++ due, one.2.purpose ≠ .elsewhere ∧ one.2.purpose ≠ .client
  backs : Backs s.queuedEvents due
  listeners : ∀ listener ∈ s.listeners, listener.handleFile.purpose = .server ∧
    listener.fdFile.purpose = .node
  knows : s.handler.Knows
  returns : ∀ caller, (s.callers caller).Returns s.kernel

section Steps

variable {s next : Poker} {due : List (Nat × File)}

/-- Before the first request nothing was opened, sent or returned. -/
theorem Poker.owns_initial : Poker.initial.Owns [] where
  sound := ⟨List.forall_mem_nil _, nofun, nofun, nofun, List.Pairwise.nil, List.forall_mem_nil _⟩
  holds := .nil _
  ours := List.forall_mem_nil _
  -- No key is in use.
  backs := by
    constructor
    · intro _ _ found
      cases found
    · intro _ _ _ _ _ found
      cases found
  listeners := List.forall_mem_nil _
  knows := trivial
  returns := fun _ => trivial

/-- A result stays good while the kernel goes on. -/
theorem Caller.Returns.later {k later : Kernel} (on : k.Later later) {caller : Caller}
    (returns : caller.Returns k) : caller.Returns later := by
  -- What the caller was given is still open, or has been closed.
  cases caller with
  | woken ret =>
    rcases returns with error | ⟨positive, client, opened, purpose, open_ | closed⟩
    · exact .inl error
    · exact .inr ⟨positive, client, on.opened client opened, purpose, on.still _ client open_⟩
    · exact .inr ⟨positive, client, on.opened client opened, purpose,
        .inr (on.closed client closed)⟩
  | _ => trivial

/-- A caller moves on, with a good result if it has one. -/
theorem Poker.Owns.withCaller (owns : s.Owns due) {caller : Nat} {place : Caller}
    (returns : place.Returns s.kernel) :
    ({ s with callers := update s.callers caller place } : Poker).Owns due := by
  -- The other callers stand where they stood.
  refine ⟨owns.sound, owns.holds, owns.ours, owns.backs, owns.listeners, owns.knows,
    fun other => ?_⟩
  show (update s.callers caller place other).Returns s.kernel
  by_cases same : other = caller
  · subst same
    rw [Function.update_self]
    exact returns
  · rw [Function.update_of_ne same]
    exact owns.returns other

/-- The looper thread and the kernel move on, with the same queue. -/
theorem Poker.Owns.goOn (owns : s.Owns due) (handler : Handler)
    (listeners : List Listener) {k : Kernel} (on : s.kernel.Later k) (sound : k.Sound)
    (holds : Slotted k.fds (handler.inHand ++ listeners.flatMap Listener.holding ++ due))
    (ours : ∀ one ∈ handler.inHand ++ listeners.flatMap Listener.holding ++ due,
      one.2.purpose ≠ .elsewhere ∧ one.2.purpose ≠ .client)
    (pairs : ∀ listener ∈ listeners, listener.handleFile.purpose = .server ∧
      listener.fdFile.purpose = .node)
    (knows : handler.Knows) :
    ({ s with handler := handler, kernel := k, listeners := listeners } : Poker).Owns due :=
  ⟨sound, holds, ours, owns.backs, pairs, knows, fun caller => (owns.returns caller).later on⟩

/-- An event is queued, and the descriptor it takes over with it. -/
theorem Poker.Owns.send (owns : s.Owns due) (delay : Int) (event : QueuedEvent)
    (handler : Handler)
    (moved : (s.handler.inHand).Perm (event.holding ++ handler.inHand)) (knows : handler.Knows) :
    ({ s.sendEventDelayed delay event with handler := handler } : Poker).Owns
      (event.holding ++ due) := by
  have same : (s.inHand ++ due).Perm
      (handler.inHand ++ s.listeners.flatMap Listener.holding ++ (event.holding ++ due)) := by
    unfold Poker.inHand
    refine ((moved.append_right _).append_right _).trans ?_
    rw [List.append_assoc, List.append_assoc, ← List.append_assoc handler.inHand]
    exact List.perm_append_comm_assoc _ _ _
  have holds := owns.holds.perm same
  refine ⟨owns.sound, holds, fun one member => owns.ours one (same.mem_iff.mpr member), ?_,
    owns.listeners, knows, owns.returns⟩
  -- What the event takes over is in no other queued event.
  refine owns.backs.put s.mKey fun one member again => ?_
  have distinct := holds.distinct
  rw [List.map_append] at distinct
  have tail := (List.nodup_append'.mp distinct).2.1
  rw [List.map_append] at tail
  have apart := (List.nodup_append'.mp tail).2.2
  exact apart (List.mem_map_of_mem member) (List.mem_map_of_mem again)

/-- The looper thread is busy with an event that holds nothing, or done with one. -/
theorem Poker.Owns.emptyHanded (owns : s.Owns due) (handler : Handler)
    (nothing : s.handler.inHand = []) (nothing' : handler.inHand = []) (knows : handler.Knows) :
    ({ s with handler := handler } : Poker).Owns due := by
  -- The hands of the handler are empty before and after.
  have holds := owns.holds
  have ours := owns.ours
  unfold Poker.inHand at holds ours
  rw [nothing, ← nothing'] at holds ours
  exact ⟨owns.sound, holds, ours, owns.backs, owns.listeners, knows, owns.returns⟩

/-- The event of a delivered message is in hand, with the descriptor it took over if it did. -/
theorem Poker.Owns.takeOut (owns : s.Owns due) {message : Message} {event : Numbered QueuedEvent}
    (handling : s.handler = .handling message)
    (found : s.queuedEvents message.what = some event) :
    ∃ due, ({ s with
      queuedEvents := update s.queuedEvents message.what none
      handler := .running event
      ran := event.number :: s.ran } : Poker).Owns due := by
  have same : s.inHand = s.listeners.flatMap Listener.holding := by
    unfold Poker.inHand
    rw [handling]
    rfl
  have holds := owns.holds
  have ours := owns.ours
  rw [same] at holds ours
  cases item : event.item with
  | timeout fd file =>
    have holding : event.item.holding = [(fd, file)] := by
      rw [item]
      rfl
    obtain ⟨member, backs⟩ := owns.backs.take found holding
    -- The descriptor passes from the queue to the looper thread.
    have moved : (s.listeners.flatMap Listener.holding ++ due).Perm
        (event.item.holding ++ s.listeners.flatMap Listener.holding ++ due.erase (fd, file)) := by
      rw [holding]
      exact ((List.perm_cons_erase member).append_left _).trans List.perm_middle
    exact ⟨due.erase (fd, file), owns.sound, holds.perm moved, fun one member =>
      ours one (moved.mem_iff.mpr member), backs, owns.listeners, trivial, owns.returns⟩
  | _ =>
    -- An open event holds nothing yet.
    have nothing : event.item.holding = [] := by
      rw [item]
      rfl
    refine ⟨due, owns.sound, ?_, ?_, owns.backs.drop _, owns.listeners, trivial, owns.returns⟩
    · show Slotted s.kernel.fds (event.item.holding ++ _ ++ due)
      rw [nothing]
      exact holds
    · show ∀ one ∈ event.item.holding ++ _ ++ due, _
      rw [nothing]
      exact ours

/-- What is owned, read where the looper thread stands. -/
theorem Poker.Owns.standing (owns : s.Owns due) {handler : Handler} (stands : s.handler = handler) :
    Slotted s.kernel.fds (handler.inHand ++ s.listeners.flatMap Listener.holding ++ due) ∧
      (∀ one ∈ handler.inHand ++ s.listeners.flatMap Listener.holding ++ due,
        one.2.purpose ≠ .elsewhere ∧ one.2.purpose ≠ .client) ∧ handler.Knows := by
  subst stands
  exact ⟨owns.holds, owns.ours, owns.knows⟩

/-- The looper thread opens a descriptor and holds it. -/
theorem Poker.Owns.openNode (owns : s.Owns due) {event : Numbered QueuedEvent} {fd : Nat}
    (running : s.handler = .running event) (nothing : event.item.holding = [])
    (free : s.kernel.fds fd = none) (purpose : Purpose)
    (ours : purpose ≠ .elsewhere ∧ purpose ≠ .client) (setting : PmQosSetting)
    (knows : (Handler.opened event fd (s.kernel.file purpose)).Knows) :
    ({ s with
      kernel := s.kernel.openPmQosNode fd purpose setting
      handler := .opened event fd (s.kernel.file purpose) } : Poker).Owns due := by
  -- An open event holds nothing while it runs, so only the listeners and the queue do.
  obtain ⟨holds, others, _⟩ := owns.standing running
  have empty : (Handler.running event).inHand = [] := nothing
  rw [empty] at holds others
  refine owns.goOn _ _ ((Kernel.later_open free purpose).trans (Kernel.later_write _ _))
    ((owns.sound.open_ free purpose).write _) ?_ (List.forall_mem_cons.mpr ⟨ours, others⟩)
    owns.listeners knows
  -- The new file is none of those that are held.
  refine holds.put free fun one member same => owns.sound.file_new purpose ?_
  exact same ▸ owns.sound.known one.1 one.2 (holds.there one member)

/-- A held descriptor is closed, and is held no longer. -/
theorem Slotted.close {k : Kernel} {held : List (Nat × File)} {fd : Nat} {file : File}
    (holds : Slotted k.fds ((fd, file) :: held)) (time : Int) (closer : Closer) :
    k.fds fd = some file ∧ Slotted (k.close fd time closer).fds held := by
  -- The descriptors that are left are those of the others.
  obtain ⟨there, rest⟩ := holds.take
  rw [Kernel.fds_close_eq there]
  exact ⟨there, rest⟩

/-- Without a pipe the node of a handle event is closed. -/
theorem Poker.Owns.pipeFails (owns : s.Owns due) {event : Numbered QueuedEvent} {fd : Nat}
    {file : File} (opened : s.handler = .opened event fd file) :
    ({ s with
      kernel := s.kernel.close fd s.now .createHandleForFd
      handler := .deleting event } : Poker).Owns due := by
  -- The file goes back to the kernel, and with it all that the handler held.
  obtain ⟨holds, ours, _⟩ := owns.standing opened
  obtain ⟨there, holds⟩ := Slotted.close holds s.now .createHandleForFd
  exact owns.goOn (.deleting event) _ (Kernel.later_close there _ _)
    (owns.sound.close there s.now .createHandleForFd) holds (List.forall_mem_cons.mp ours).2
    owns.listeners trivial

/-- A handle event leaves its node with the new listener, or leaves it behind. -/
theorem Poker.Owns.pipeOpens (owns : s.Owns due) {event : Numbered QueuedEvent} {fd : Nat}
    {file : File} {caller client server : Nat} (listens : Bool)
    (opened : s.handler = .opened event fd file) (isNode : file.purpose = .node)
    (freeClient : s.kernel.fds client = none) (freeServer : s.kernel.fds server = none)
    (apart : client ≠ server) :
    ({ s.wake caller client with
      kernel := (s.kernel.open_ client .client).open_ server .server
      listeners :=
        if listens then
          ⟨server, fd, (s.kernel.open_ client .client).file .server, file⟩ :: s.listeners
        else s.listeners
      handler := .deleting event } : Poker).Owns due := by
  obtain ⟨holds, ours, _⟩ := owns.standing opened
  -- The pipe opens two descriptors, the client end first.
  let piped := s.kernel.open_ client .client
  have freeServer : piped.fds server = none :=
    (Function.update_of_ne (Ne.symm apart) _ _).trans freeServer
  have sound := owns.sound.open_ freeClient .client
  have later := (Kernel.later_open freeClient .client).trans
    (Kernel.later_open freeServer .server)
  have filled : Slotted piped.fds _ := holds.fill freeClient
  -- The result is the client end, which the caller may close.
  have returns : Caller.Returns (piped.open_ server .server) (.woken client) := by
    refine .inr ⟨Int.natCast_nonneg client, s.kernel.file .client,
      List.mem_cons_of_mem _ List.mem_cons_self, rfl, .inl ?_⟩
    rw [Int.toNat_natCast]
    exact (Function.update_of_ne apart _ _).trans (Function.update_self ..)
  cases listens with
  | true =>
    -- The node and the server end go to the listener.
    have new : ∀ one ∈ (fd, file) :: (s.listeners.flatMap Listener.holding ++ due),
        one.2 ≠ piped.file .server := fun one member same =>
      sound.file_new .server (same ▸ sound.known one.1 one.2 (filled.there one member))
    let listener : Listener := ⟨server, fd, piped.file .server, file⟩
    have went := owns.goOn (.deleting event) (listener :: s.listeners) later
      (sound.open_ freeServer .server)
      (filled.put freeServer new) (List.forall_mem_cons.mpr ⟨⟨nofun, nofun⟩, ours⟩)
      (List.forall_mem_cons.mpr ⟨⟨rfl, isNode⟩, owns.listeners⟩) trivial
    exact went.withCaller returns
  | false =>
    -- Nobody is left to close the node.
    have went := owns.goOn (.deleting event) _ later (sound.open_ freeServer .server)
      (filled.tail.fill freeServer) (List.forall_mem_cons.mp ours).2 owns.listeners trivial
    exact went.withCaller returns

/-- A handle event has opened a node. -/
theorem Poker.Owns.isNode (owns : s.Owns due) {event : Numbered QueuedEvent} {fd : Nat}
    {file : File} {node : String} {setting : PmQosSetting} {caller : Nat}
    (opened : s.handler = .opened event fd file)
    (item : event.item = .pmQosOpenHandle node setting caller) : file.purpose = .node := by
  -- The handler knows by its event what it has opened.
  obtain ⟨_, _, knows⟩ := owns.standing opened
  unfold Handler.Knows at knows
  dsimp only at knows
  rw [item] at knows
  exact knows

/-- What a timeout event has in hand. -/
theorem Poker.Owns.timeout (owns : s.Owns due) {event : Numbered QueuedEvent} {fd : Nat}
    {file : File} (running : s.handler = .running event) (item : event.item = .timeout fd file) :
    Slotted s.kernel.fds ((fd, file) :: (s.listeners.flatMap Listener.holding ++ due)) ∧
      ∀ one ∈ (fd, file) :: (s.listeners.flatMap Listener.holding ++ due),
        one.2.purpose ≠ .elsewhere ∧ one.2.purpose ≠ .client := by
  obtain ⟨holds, ours, _⟩ := owns.standing running
  have hand : (Handler.running event).inHand = [(fd, file)] := by
    show event.item.holding = _
    rw [item]
    rfl
  -- What the event was made for is what the looper thread has in its hands.
  rw [hand] at holds ours
  exact ⟨holds, ours⟩

/-- Running a timeout event closes the file it was made for. -/
theorem Poker.Owns.timeoutRequest (owns : s.Owns due) {event : Numbered QueuedEvent} {fd : Nat}
    {file : File} (running : s.handler = .running event) (item : event.item = .timeout fd file) :
    ({ s with
      kernel := s.kernel.close fd s.now (.timeoutRequest event)
      handler := .deleting event } : Poker).Owns due := by
  -- The file in the event is the one that is closed.
  obtain ⟨holds, ours⟩ := owns.timeout running item
  obtain ⟨there, holds⟩ := Slotted.close holds s.now (.timeoutRequest event)
  exact owns.goOn (.deleting event) _ (Kernel.later_close there _ _)
    (owns.sound.close there s.now _) holds (List.forall_mem_cons.mp ours).2 owns.listeners trivial

/-- The two descriptors of a listener stand for its files, and can be closed one after the other. -/
theorem Poker.Owns.listener (owns : s.Owns due) {listener : Listener}
    (listens : listener ∈ s.listeners) :
    s.kernel.fds listener.handle = some listener.handleFile ∧
      (s.kernel.close listener.handle s.now .pipeCloseCb).fds listener.fd = some listener.fdFile ∧
      Slotted ((s.kernel.close listener.handle s.now .pipeCloseCb).close listener.fd s.now
        .pipeCloseCb).fds
        (s.handler.inHand ++ (s.listeners.erase listener).flatMap Listener.holding ++ due) ∧
      ∀ one ∈ s.handler.inHand ++ (s.listeners.erase listener).flatMap Listener.holding ++ due,
        one ∈ s.inHand ++ due := by
  -- The listener is brought to the front of all that is held.
  have same := List.perm_cons_erase listens
  have moved : (s.inHand ++ due).Perm ((listener.handle, listener.handleFile) ::
      (listener.fd, listener.fdFile) ::
        (s.handler.inHand ++ (s.listeners.erase listener).flatMap Listener.holding ++ due)) := by
    refine (((same.flatMap_right Listener.holding).append_left s.handler.inHand).append_right
      due).trans ?_
    exact (List.perm_append_comm_assoc s.handler.inHand listener.holding _).append_right due
  -- Closing the first leaves the second where it is.
  obtain ⟨first, holds⟩ := Slotted.close (owns.holds.perm moved) s.now .pipeCloseCb
  obtain ⟨second, holds⟩ := Slotted.close holds s.now .pipeCloseCb
  exact ⟨first, second, holds, fun one member => moved.mem_iff.mpr
    (List.mem_cons_of_mem _ (List.mem_cons_of_mem _ member))⟩

/-- A listener closes the two descriptors it has. -/
theorem Poker.Owns.pipeCloseCb (owns : s.Owns due) {listener : Listener}
    (listens : listener ∈ s.listeners) :
    ({ s with
      listeners := s.listeners.erase listener
      kernel := (s.kernel.close listener.handle s.now .pipeCloseCb).close listener.fd s.now
        .pipeCloseCb } : Poker).Owns due := by
  -- Both descriptors of the listener are closed, the handle and the file it keeps.
  obtain ⟨first, second, holds, fewer⟩ := owns.listener listens
  exact owns.goOn s.handler _
    ((Kernel.later_close first _ _).trans (Kernel.later_close second _ _))
    ((owns.sound.close first _ _).close second _ _) holds
    (fun one member => owns.ours one (fewer one member))
    (fun other member => owns.listeners other (List.mem_of_mem_erase member)) owns.knows

/-- Other code closes a file that the poker does not hold. -/
theorem Poker.Owns.closeElsewhere (owns : s.Owns due) {fd : Nat} {file : File}
    (there : s.kernel.fds fd = some file)
    (others : file.purpose = .elsewhere ∨ file.purpose = .client) :
    ({ s with kernel := s.kernel.close fd s.now .elsewhere } : Poker).Owns due := by
  -- All that is held was opened for the poker itself.
  have unlisted : ∀ one ∈ s.inHand ++ due, one.2 ≠ file := by
    intro one member same
    have ours := owns.ours one member
    rw [same] at ours
    exact others.elim ours.1 ours.2
  have holds := owns.holds.empty there unlisted
  rw [← Kernel.fds_close_eq there s.now .elsewhere] at holds
  exact owns.goOn s.handler _ (Kernel.later_close there _ _) (owns.sound.close there _ _) holds
    owns.ours owns.listeners owns.knows

/-- Every step keeps it, with whatever timeouts are left to come. -/
theorem Poker.Owns.taken {act : PokerAct} (owns : s.Owns due)
    (stepped : pokerStep s act = some next) : ∃ due, next.Owns due := by
  -- One case for each function of the poker that may go on, and one for the world around it.
  cases Poker.moves_of_step stepped with
  | tick passed =>
    exact ⟨due, owns.sound, owns.holds, owns.ours, owns.backs, owns.listeners, owns.knows,
      owns.returns⟩
  | requestPmQosTimed => exact ⟨due, owns.withCaller trivial⟩
  | createPmQosHandle => exact ⟨due, owns.withCaller trivial⟩
  | pushTimed | pushHandle =>
    -- An open event holds nothing.
    exact ⟨due, (owns.send 0 _ s.handler (.refl _) owns.knows).withCaller trivial⟩
  | returns => exact ⟨due, owns.withCaller trivial⟩
  | deliver idle _ _ =>
    have resting := owns.emptyHanded .idle (by rw [idle]; rfl) rfl trivial
    exact ⟨due, resting.sound, resting.holds, resting.ours, resting.backs, resting.listeners,
      trivial, resting.returns⟩
  | lost handling _ => exact ⟨due, owns.emptyHanded _ (by rw [handling]; rfl) rfl trivial⟩
  | found handling found => exact owns.takeOut handling found
  | @timedFails event node setting timeout running item =>
    have nothing : s.handler.inHand = [] := by
      rw [running]
      show QueuedEvent.holding _ = []
      rw [item]
      rfl
    exact ⟨due, owns.emptyHanded (.deleting event) nothing rfl trivial⟩
  | @handleFails event node setting caller running item =>
    have nothing : s.handler.inHand = [] := by
      rw [running]
      show QueuedEvent.holding _ = []
      rw [item]
      rfl
    exact ⟨due, (owns.emptyHanded (.deleting event) nothing rfl trivial).withCaller (.inl rfl)⟩
  | @timedOpens event node setting timeout fd running item free =>
    refine ⟨due, owns.openNode running (by rw [item]; rfl) free (.timed s.now timeout)
      ⟨nofun, nofun⟩ setting ?_⟩
    unfold Handler.Knows
    dsimp only
    rw [item]
    rfl
  | @handleOpens event node setting caller fd running item free =>
    refine ⟨due, owns.openNode running (by rw [item]; rfl) free .node ⟨nofun, nofun⟩ setting ?_⟩
    unfold Handler.Knows
    dsimp only
    rw [item]
    rfl
  | @sendTimeout event fd file node setting timeout opened item =>
    -- The timeout event takes over the descriptor of its file.
    refine ⟨_, owns.send timeout (.timeout fd file) (.deleting event) ?_ trivial⟩
    rw [opened]
    exact .refl _
  | pipeFails opened item => exact ⟨due, (owns.pipeFails opened).withCaller (.inl rfl)⟩
  | pipeOpens listens opened item freeClient freeServer apart =>
    exact ⟨due, owns.pipeOpens listens opened (owns.isNode opened item) freeClient freeServer
      apart⟩
  | timeoutRequest running item => exact ⟨due, owns.timeoutRequest running item⟩
  | delete deleting =>
    have resting := owns.emptyHanded .idle (by rw [deleting]; rfl) rfl trivial
    exact ⟨due, resting.sound, resting.holds, resting.ours, resting.backs, resting.listeners,
      trivial, resting.returns⟩
  | pipeCloseCb _ listens => exact ⟨due, owns.pipeCloseCb listens⟩
  | openElsewhere free =>
    exact ⟨due, owns.goOn s.handler _ (Kernel.later_open free _) (owns.sound.open_ free _)
      (owns.holds.fill free) owns.ours owns.listeners owns.knows⟩
  | closeElsewhere there others => exact ⟨due, owns.closeElsewhere there others⟩

end Steps

end Grouper.Power
