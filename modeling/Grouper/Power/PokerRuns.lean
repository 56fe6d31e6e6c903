import Grouper.Lib.Run
import Grouper.Power.Descriptors

/-! In any interleaving every event is run and deleted once, and every timed file closed once. -/

namespace Grouper.Power

open Function (update)

/-- The descriptor an event is about to close, with the file it stands for. -/
def QueuedEvent.holding : QueuedEvent → List (Nat × File)
  | .timeout fd file => [(fd, file)]
  | _ => []

/-- The message that was delivered and whose event is still queued. -/
def Handler.messages : Handler → List Message
  | .handling message => [message]
  | _ => []

/-- The event that was taken out and not yet deleted. -/
def Handler.events : Handler → List Nat
  | .running event => [event.number]
  | .opened event _ _ => [event.number]
  | .deleting event => [event.number]
  | _ => []

def Handler.holding : Handler → List (Nat × File)
  | .handling message => message.carries.item.holding
  | .running event => event.item.holding
  | .opened _ fd file => [(fd, file)]
  | _ => []

def Listener.holding (listener : Listener) : List (Nat × File) :=
  [(listener.handle, listener.handleFile), (listener.fd, listener.fdFile)]

def Message.letter (message : Message) : Nat × Numbered QueuedEvent :=
  (message.what, message.carries)

/-- The messages whose events are queued. -/
def Poker.pending (s : Poker) : List Message := s.handler.messages ++ s.messages

/-- The descriptors that an event or a listener is to close. -/
def Poker.heldLater (s : Poker) : List (Nat × File) :=
  s.messages.flatMap (fun message => message.carries.item.holding) ++
    s.listeners.flatMap Listener.holding

/-- All descriptors the poker is to close, those of the looper thread first. -/
def Poker.held (s : Poker) : List (Nat × File) := s.handler.holding ++ s.heldLater

/-- No message is in flight, and no send or handler is in progress. -/
structure Poker.Quiet (s : Poker) : Prop where
  messages : s.messages = []
  handler : s.handler = .idle
  callers : ∀ caller, s.callers caller = .idle ∨ s.callers caller = .waiting ∨
    ∃ ret, s.callers caller = .woken ret

/-- Every event sent is found, run and deleted once, and every timed file is closed once. -/
structure Poker.ExactlyOnce (s : Poker) : Prop where
  /-- Every message that was delivered found an event. -/
  found : ∀ message, s.handler ≠ .lost message
  /-- An event waits under the key of its message, or it is being run, or it was run and deleted. -/
  events : ∀ number < s.sent,
    (∃ message ∈ s.pending, message.carries.number = number ∧
        s.queuedEvents message.what = some message.carries) ∧
      number ∉ s.ran ∧ number ∉ s.deleted ∨
    number ∈ s.handler.events ∧ s.ran.count number = 1 ∧ number ∉ s.deleted ∨
    s.ran.count number = 1 ∧ s.deleted.count number = 1
  sent : ∀ number, number ∈ s.ran ∨ number ∈ s.deleted → number < s.sent
  /-- A timed file is open with its timeout event to come, or it was closed. -/
  files : ∀ file ∈ s.kernel.opened, file.isTimed = true →
    (∃ fd, (fd, file) ∈ s.held ∧ s.kernel.fds fd = some file) ∧
      file ∉ s.kernel.closings.map Closing.file ∨
    (s.kernel.closings.map Closing.file).count file = 1
  punctual : ∀ closing ∈ s.kernel.closings, closing.Punctual
  quiet : s.Quiet → (∀ key, s.queuedEvents key = none) ∧
    (∀ fd file, s.kernel.fds fd = some file → file.isTimed = false) ∧
    (∀ number < s.sent, s.ran.count number = 1 ∧ s.deleted.count number = 1) ∧
    ∀ file ∈ s.kernel.opened, file.isTimed = true →
      (s.kernel.closings.map Closing.file).count file = 1

/-- Whether a step hands an event to `sendEventDelayed`. -/
def PokerAct.sends : PokerAct → Bool
  | .pushEvent _ => true
  | .sendTimeout => true
  | _ => false

/-- No event stays queued while 2^32 later keys are generated. -/
def Poker.KeysFresh (s : Poker) (act : PokerAct) : Prop :=
  act.sends = true → ∀ key event, s.queuedEvents key = some event → s.sent < event.number + 2 ^ 32

/-- What the looper thread knows of the times of the descriptors it works on. -/
def Handler.Timely (now : Int) : Handler → Prop
  | .handling message => ∀ one ∈ message.carries.item.holding, one.2.DueBy now
  | .running event => ∀ one ∈ event.item.holding, one.2.DueBy now
  | .opened event _ file =>
    match event.item with
    | .pmQosOpenTimed _ _ timeout => ∃ openedAt ≤ now, file.purpose = .timed openedAt timeout
    | .pmQosOpenHandle _ _ _ => file.purpose = .node
    | .timeout _ _ => True
  | _ => True

/-- What every step keeps. -/
structure Poker.Kept (s : Poker) : Prop where
  key : s.mKey = s.sent % 2 ^ 32
  conveys : Conveys (2 ^ 32) s.sent s.queuedEvents (s.pending.map Message.letter)
    s.handler.events s.ran s.deleted
  found : ∀ message, s.handler ≠ .lost message
  accounts : s.kernel.Accounts s.held
  due : ∀ message ∈ s.messages, ∀ one ∈ message.carries.item.holding, one.2.DueBy message.uptime
  timely : s.handler.Timely s.now
  /-- No listener has a timed file. -/
  listeners : ∀ listener ∈ s.listeners, listener.handleFile.isTimed = false ∧
    listener.fdFile.isTimed = false

/-- What is due by some time is due later. -/
theorem File.DueBy.later {file : File} {time later : Int} (due : file.DueBy time)
    (after : time ≤ later) : file.DueBy later := by
  obtain ⟨openedAt, timeout, purpose, passed⟩ := due
  exact ⟨openedAt, timeout, purpose, by omega⟩

/-- Only a timed file is ever due. -/
theorem File.DueBy.isTimed {file : File} {time : Int} (due : file.DueBy time) :
    file.isTimed = true := by
  -- Its purpose names the timeout.
  obtain ⟨openedAt, timeout, purpose, _⟩ := due
  unfold File.isTimed
  rw [purpose]

section Results

variable {s : Poker}

/-- A timed file is held, or it was closed once. -/
theorem Kernel.Accounts.once {k : Kernel} {held : List (Nat × File)} (accounts : k.Accounts held)
    {file : File} (opened : file ∈ k.opened) (timed : file.isTimed = true) :
    (∃ fd, (fd, file) ∈ held ∧ k.fds fd = some file) ∧ file ∉ k.closings.map Closing.file ∨
      (k.closings.map Closing.file).count file = 1 := by
  -- Held and closed together have it once.
  have one := accounts.balance.count_eq file
  rw [List.count_append, List.count_filter timed, List.count_filter timed,
    List.count_eq_one_of_mem accounts.distinct opened] at one
  unfold Kernel.timedClosed at one
  rw [List.count_filter timed] at one
  rcases Nat.eq_zero_or_pos ((held.map Prod.snd).count file) with absent | present
  · exact Or.inr (by omega)
  · obtain ⟨⟨fd, found⟩, member, is⟩ := List.mem_map.mp (List.count_pos_iff.mp present)
    have same : found = file := is
    subst same
    exact Or.inl ⟨⟨fd, member, accounts.holds.there _ member⟩, List.count_eq_zero.mp (by omega)⟩

/-- What is kept is exactly what was to be shown of every state. -/
theorem Poker.Kept.exactlyOnce (kept : s.Kept) : s.ExactlyOnce where
  found := kept.found
  events number less := by
    rcases kept.conveys.once less with ⟨⟨letter, member, same, found⟩, rest⟩ | done
    · obtain ⟨message, pending, rfl⟩ := List.mem_map.mp member
      exact Or.inl ⟨⟨message, pending, same, found⟩, rest⟩
    · exact Or.inr done
  sent number member := by
    refine kept.conveys.handled_lt number ?_
    rcases member with ran | deleted
    · exact kept.conveys.handled.mem_iff.mp ran
    · exact List.mem_append_right _ deleted
  files file opened timed := kept.accounts.once opened timed
  punctual := kept.accounts.punctual
  quiet quiet := by
    -- Nothing is on its way, nothing is in hand, and only listeners hold anything.
    have pending : s.pending = [] := by
      unfold Poker.pending
      rw [quiet.handler, quiet.messages]
      rfl
    have held : ∀ one ∈ s.held, one.2.isTimed = false := by
      unfold Poker.held Poker.heldLater
      rw [quiet.handler, quiet.messages]
      intro one member
      obtain ⟨listener, member, here⟩ := List.mem_flatMap.mp member
      obtain ⟨handle, fd⟩ := kept.listeners listener member
      rcases List.mem_pair.mp here with rfl | rfl
      · exact handle
      · exact fd
    have conveys := kept.conveys
    rw [pending, quiet.handler] at conveys
    refine ⟨conveys.filed.nothing, fun fd file there => ?_, fun number less => ?_,
      fun file opened timed => ?_⟩
    · -- An open timed file would be held.
      cases timed : file.isTimed with
      | false => rfl
      | true => exact timed ▸ held _ (kept.accounts.timedHeld fd file there timed)
    · -- An event has no other place left than among those done with.
      rcases conveys.once less with ⟨⟨_, member, _⟩, _⟩ | ⟨member, _⟩ | once
      · exact absurd member List.not_mem_nil
      · exact absurd member List.not_mem_nil
      · exact once
    · rcases kept.accounts.once opened timed with ⟨⟨fd, member, _⟩, _⟩ | once
      · exact absurd (timed.symm.trans (held _ member)) (by decide)
      · exact once

end Results

section Steps

variable {s next : Poker}

/-- Before the first request there is nothing to keep. -/
theorem Poker.kept_initial : Poker.initial.Kept where
  -- Nothing was sent, and nothing was opened.
  key := rfl
  conveys := .empty
  found := nofun
  accounts := ⟨.nil _, List.forall_mem_nil _, List.Pairwise.nil, nofun, nofun,
    List.forall_mem_nil _, .rfl, List.forall_mem_nil _⟩
  due := List.forall_mem_nil _
  timely := trivial
  listeners := List.forall_mem_nil _

/-- The threads that call are no concern of what is kept. -/
theorem Poker.Kept.withCallers (kept : s.Kept) (callers : Nat → Caller) :
    ({ s with callers := callers } : Poker).Kept :=
  ⟨kept.key, kept.conveys, kept.found, kept.accounts, kept.due, kept.timely, kept.listeners⟩

/-- Nor are descriptors that the poker does not hold. -/
theorem Poker.Kept.withKernel (kept : s.Kept) {k : Kernel} (accounts : k.Accounts s.held) :
    ({ s with kernel := k } : Poker).Kept :=
  ⟨kept.key, kept.conveys, kept.found, accounts, kept.due, kept.timely, kept.listeners⟩

/-- A handler in time is in time later. -/
theorem Handler.Timely.later {handler : Handler} {now later : Int} (timely : handler.Timely now)
    (after : now ≤ later) : handler.Timely later := by
  -- Whatever is due stays due.
  cases handler with
  | handling message => exact fun one member => (timely one member).later after
  | running event => exact fun one member => (timely one member).later after
  | opened event fd file =>
    unfold Handler.Timely at *
    dsimp only at *
    split at timely
    · obtain ⟨openedAt, before, purpose⟩ := timely
      exact ⟨openedAt, Int.le_trans before after, purpose⟩
    · exact timely
    · trivial
  | _ => trivial

/-- The passing of time keeps it. -/
theorem Poker.Kept.tick (kept : s.Kept) (passed : Nat) :
    ({ s with now := s.now + passed } : Poker).Kept := by
  -- What was due before is due after.
  have after : s.now ≤ s.now + passed := by omega
  exact ⟨kept.key, kept.conveys, kept.found, kept.accounts, kept.due, kept.timely.later after,
    kept.listeners⟩

/-- What is sent is conveyed, as long as no key in use comes around again. -/
theorem Poker.Kept.conveys_send (kept : s.Kept)
    (fresh : ∀ key event, s.queuedEvents key = some event → s.sent < event.number + 2 ^ 32)
    (delay : Int) (event : QueuedEvent) :
    Conveys (2 ^ 32) (s.sent + 1) (s.sendEventDelayed delay event).queuedEvents
      ((s.sendEventDelayed delay event).pending.map Message.letter) s.handler.events s.ran
      s.deleted := by
  have conveys := kept.conveys.send fresh event
  rw [← kept.key] at conveys
  refine conveys.perm ?_
  -- The new message joins those in flight, behind the one that was delivered.
  show (Message.letter ⟨s.mKey, s.now + delay, ⟨s.sent, event⟩⟩ ::
    (s.handler.messages ++ s.messages).map Message.letter).Perm
      ((s.handler.messages ++ _ :: s.messages).map Message.letter)
  rw [← List.map_cons]
  exact List.perm_middle.symm.map _

/-- The key of the next event is its number, wrapped to 32 bits. -/
theorem Poker.Kept.key_send (kept : s.Kept) : (s.mKey + 1) % 2 ^ 32 = (s.sent + 1) % 2 ^ 32 := by
  have key := kept.key
  omega

/-- An open event, which holds nothing yet, is sent. -/
theorem Poker.Kept.send (kept : s.Kept)
    (fresh : ∀ key event, s.queuedEvents key = some event → s.sent < event.number + 2 ^ 32)
    (delay : Int) {event : QueuedEvent} (nothing : event.holding = []) :
    (s.sendEventDelayed delay event).Kept where
  key := kept.key_send
  conveys := kept.conveys_send fresh delay event
  found := kept.found
  accounts := by
    -- Only the accounts look at the event, and it holds nothing.
    show s.kernel.Accounts (s.handler.holding ++ ((event.holding ++ _) ++ _))
    rw [nothing]
    exact kept.accounts
  due := List.forall_mem_cons.mpr ⟨by rw [nothing]; exact List.forall_mem_nil _, kept.due⟩
  timely := kept.timely
  listeners := kept.listeners

/-- What is kept, read where the looper thread stands. -/
theorem Poker.Kept.standing (kept : s.Kept) {handler : Handler} (stands : s.handler = handler) :
    Conveys (2 ^ 32) s.sent s.queuedEvents ((handler.messages ++ s.messages).map Message.letter)
        handler.events s.ran s.deleted ∧
      s.kernel.Accounts (handler.holding ++ s.heldLater) ∧ handler.Timely s.now := by
  subst stands
  exact ⟨kept.conveys, kept.accounts, kept.timely⟩

/-- The looper thread takes a message, which is due. -/
theorem Poker.Kept.deliver (kept : s.Kept) {message : Message} (idle : s.handler = .idle)
    (inFlight : message ∈ s.messages) (passed : message.uptime ≤ s.now) :
    ({ s with
      messages := s.messages.erase message
      handler := .handling message } : Poker).Kept := by
  have same := List.perm_cons_erase inFlight
  obtain ⟨conveys, accounts, _⟩ := kept.standing idle
  refine ⟨kept.key, conveys.perm (same.map _), nofun, accounts.perm ?_, fun other member =>
    kept.due other (List.mem_of_mem_erase member), fun one member =>
    (kept.due message inFlight one member).later passed, kept.listeners⟩
  -- What the message held is now held by the looper thread.
  show ((s.messages.flatMap _) ++ _).Perm (message.carries.item.holding ++ (_ ++ _))
  rw [← List.append_assoc]
  exact (same.flatMap_right _).append_right _

/-- A message has its letter, so its event is under its key. -/
theorem Poker.Kept.there (kept : s.Kept) {message : Message}
    (handling : s.handler = .handling message) :
    s.queuedEvents message.what = some message.carries :=
  (kept.standing handling).1.take.1

/-- The event of a delivered message is taken out, and run. -/
theorem Poker.Kept.takeOut (kept : s.Kept) {message : Message}
    (handling : s.handler = .handling message) :
    ({ s with
      queuedEvents := update s.queuedEvents message.what none
      handler := .running message.carries
      ran := message.carries.number :: s.ran } : Poker).Kept := by
  obtain ⟨conveys, accounts, timely⟩ := kept.standing handling
  exact ⟨kept.key, conveys.take.2, nofun, accounts, kept.due, timely, kept.listeners⟩

/-- The looper thread goes on with its event, and may have opened or closed descriptors. -/
theorem Poker.Kept.goOn (kept : s.Kept) (handler : Handler) (k : Kernel)
    (messages : handler.messages = s.handler.messages)
    (events : handler.events = s.handler.events) (found : ∀ message, handler ≠ .lost message)
    (accounts : k.Accounts (handler.holding ++ s.heldLater)) (timely : handler.Timely s.now) :
    ({ s with handler := handler, kernel := k } : Poker).Kept := by
  -- Neither the message in hand nor the event in hand has changed.
  obtain ⟨conveys, _, _⟩ := kept.standing rfl
  rw [← messages, ← events] at conveys
  exact ⟨kept.key, conveys, found, accounts, kept.due, timely, kept.listeners⟩

/-- An open event holds nothing before it has opened its node. -/
theorem Poker.Kept.holdsNothing (kept : s.Kept) {event : Numbered QueuedEvent}
    (running : s.handler = .running event) (nothing : event.item.holding = []) :
    s.kernel.Accounts s.heldLater := by
  -- The accounts are those of the event and of all that is held later.
  obtain ⟨_, accounts, _⟩ := kept.standing running
  have accounts : s.kernel.Accounts (event.item.holding ++ s.heldLater) := accounts
  rw [nothing] at accounts
  exact accounts

/-- An open event without a node is over. -/
theorem Poker.Kept.openFails (kept : s.Kept) {event : Numbered QueuedEvent}
    (running : s.handler = .running event) (nothing : event.item.holding = []) :
    ({ s with handler := .deleting event } : Poker).Kept :=
  kept.goOn (.deleting event) s.kernel (by rw [running]; rfl) (by rw [running]; rfl) nofun
    (kept.holdsNothing running nothing) trivial

/-- An open event holds its node, which is not due before its timeout has passed. -/
theorem Poker.Kept.opens (kept : s.Kept) {event : Numbered QueuedEvent} {fd : Nat}
    (running : s.handler = .running event) (nothing : event.item.holding = [])
    (free : s.kernel.fds fd = none) (purpose : Purpose)
    (ours : purpose ≠ .elsewhere ∧ purpose ≠ .client) (setting : PmQosSetting)
    (timely : (Handler.opened event fd (s.kernel.file purpose)).Timely s.now) :
    ({ s with
      kernel := s.kernel.openPmQosNode fd purpose setting
      handler := .opened event fd (s.kernel.file purpose) } : Poker).Kept := by
  have held := (kept.holdsNothing running nothing).openHeld free purpose ours
  exact kept.goOn _ _ (by rw [running]; rfl) (by rw [running]; rfl) nofun (held.write _) timely

/-- The timeout event takes over the descriptor of its file, and is due when the timeout ends. -/
theorem Poker.Kept.sendTimeout (kept : s.Kept)
    (fresh : ∀ key event, s.queuedEvents key = some event → s.sent < event.number + 2 ^ 32)
    {event : Numbered QueuedEvent} {fd : Nat} {file : File} {node : String}
    {setting : PmQosSetting} {timeout : Int} (opened : s.handler = .opened event fd file)
    (item : event.item = .pmQosOpenTimed node setting timeout) :
    ({ s.sendEventDelayed timeout (.timeout fd file) with
      handler := .deleting event } : Poker).Kept := by
  obtain ⟨_, accounts, timely⟩ := kept.standing opened
  have conveys := kept.conveys_send fresh timeout (.timeout fd file)
  unfold Handler.Timely at timely
  unfold Poker.pending at conveys
  rw [show (s.sendEventDelayed timeout (.timeout fd file)).handler = s.handler from rfl,
    opened] at conveys
  dsimp only at timely
  rw [item] at timely
  obtain ⟨openedAt, before, purpose⟩ := timely
  refine ⟨kept.key_send, conveys, nofun, accounts, List.forall_mem_cons.mpr ⟨?_, kept.due⟩,
    trivial, kept.listeners⟩
  -- The message is due a timeout from now, and the file was opened before.
  have due : file.DueBy (s.now + timeout) := ⟨openedAt, timeout, purpose, by omega⟩
  exact List.forall_mem_singleton.mpr due

/-- The node of a handle is not for a timed file. -/
theorem Poker.Kept.untimed (kept : s.Kept) {event : Numbered QueuedEvent} {fd : Nat} {file : File}
    {node : String} {setting : PmQosSetting} {caller : Nat}
    (opened : s.handler = .opened event fd file)
    (item : event.item = .pmQosOpenHandle node setting caller) : file.isTimed = false := by
  -- The handler is in time, which for a handle event says what it has opened.
  obtain ⟨_, _, timely⟩ := kept.standing opened
  unfold Handler.Timely at timely
  dsimp only at timely
  rw [item] at timely
  unfold File.isTimed
  rw [show file.purpose = .node from timely]

/-- Without a pipe the node of a handle event is closed. -/
theorem Poker.Kept.pipeFails (kept : s.Kept) {event : Numbered QueuedEvent} {fd : Nat}
    {file : File} (opened : s.handler = .opened event fd file) (untimed : file.isTimed = false) :
    ({ s with
      kernel := s.kernel.close fd s.now .createHandleForFd
      handler := .deleting event } : Poker).Kept := by
  -- The file is no timed one, so nobody waits for its time.
  obtain ⟨_, accounts, _⟩ := kept.standing opened
  have accounts : s.kernel.Accounts ((fd, file) :: s.heldLater) := accounts
  have closed := accounts.closeHeld s.now .createHandleForFd fun timed =>
    absurd (timed.symm.trans untimed) (by decide)
  exact kept.goOn (.deleting event) _ (by rw [opened]; rfl) (by rw [opened]; rfl) nofun closed
    trivial

/-- A handle event leaves its node with the new listener, or leaves it behind. -/
theorem Poker.Kept.pipeOpens (kept : s.Kept) {event : Numbered QueuedEvent} {fd : Nat}
    {file : File} {client server : Nat} (listens : Bool)
    (opened : s.handler = .opened event fd file) (untimed : file.isTimed = false)
    (freeClient : s.kernel.fds client = none) (freeServer : s.kernel.fds server = none)
    (apart : client ≠ server) :
    ({ s with
      kernel := (s.kernel.open_ client .client).open_ server .server
      listeners :=
        if listens then
          ⟨server, fd, (s.kernel.open_ client .client).file .server, file⟩ :: s.listeners
        else s.listeners
      handler := .deleting event } : Poker).Kept := by
  obtain ⟨_, accounts, _⟩ := kept.standing opened
  have accounts : s.kernel.Accounts ((fd, file) :: s.heldLater) := accounts
  have gone := kept.goOn (.deleting event) s.kernel (by rw [opened]; rfl)
    (by rw [opened]; rfl) nofun (accounts.drop untimed) trivial
  have freeServer : (s.kernel.open_ client .client).fds server = none := by
    show update s.kernel.fds client _ server = none
    rw [Function.update_of_ne (Ne.symm apart)]
    exact freeServer
  have piped := accounts.openUnheld freeClient .client rfl
  cases listens with
  | true =>
    -- The node and the server end go to the listener.
    let listener : Listener := ⟨server, fd, (s.kernel.open_ client .client).file .server, file⟩
    have same : ((server, listener.handleFile) :: (fd, file) :: s.heldLater).Perm
        (s.messages.flatMap (fun message => message.carries.item.holding) ++
          (listener :: s.listeners).flatMap Listener.holding) :=
      List.perm_append_comm_assoc listener.holding _ _
    have held := (piped.openHeld freeServer .server ⟨nofun, nofun⟩).perm same
    exact ⟨gone.key, gone.conveys, gone.found, held, gone.due, gone.timely,
      List.forall_mem_cons.mpr ⟨⟨rfl, untimed⟩, gone.listeners⟩⟩
  | false =>
    -- Nobody is left to close the node.
    exact gone.withKernel ((piped.openUnheld freeServer .server rfl).drop untimed)

/-- Running a timeout event closes the file it was made for, and not before its time. -/
theorem Poker.Kept.timeoutRequest (kept : s.Kept) {event : Numbered QueuedEvent} {fd : Nat}
    {file : File} (running : s.handler = .running event)
    (item : event.item = .timeout fd file) :
    ({ s with
      kernel := s.kernel.close fd s.now (.timeoutRequest event)
      handler := .deleting event } : Poker).Kept := by
  -- A timeout is run when it is due, so its file is closed in time.
  obtain ⟨_, accounts, timely⟩ := kept.standing running
  have accounts : s.kernel.Accounts (event.item.holding ++ s.heldLater) := accounts
  have timely : ∀ one ∈ event.item.holding, one.2.DueBy s.now := timely
  rw [item] at accounts timely
  have due : file.DueBy s.now := timely (fd, file) (List.mem_singleton_self _)
  exact kept.goOn (.deleting event) _ (by rw [running]; rfl) (by rw [running]; rfl) nofun
    (accounts.closeHeld s.now _ fun _ => ⟨due, event, fd, rfl, item⟩) trivial

/-- An event that was run is deleted. -/
theorem Poker.Kept.delete (kept : s.Kept) {event : Numbered QueuedEvent}
    (deleting : s.handler = .deleting event) :
    ({ s with handler := .idle, deleted := event.number :: s.deleted } : Poker).Kept := by
  -- The event leaves the hand of the looper thread, which holds nothing any more.
  obtain ⟨conveys, accounts, _⟩ := kept.standing deleting
  exact ⟨kept.key, conveys.finish, nofun, accounts, kept.due, trivial, kept.listeners⟩

/-- A listener closes the two descriptors it has. -/
theorem Poker.Kept.pipeCloseCb (kept : s.Kept) {listener : Listener} (idle : s.handler = .idle)
    (listens : listener ∈ s.listeners) :
    ({ s with
      listeners := s.listeners.erase listener
      kernel := (s.kernel.close listener.handle s.now .pipeCloseCb).close listener.fd s.now
        .pipeCloseCb } : Poker).Kept := by
  obtain ⟨handle, fd⟩ := kept.listeners listener listens
  have same := List.perm_cons_erase listens
  obtain ⟨_, accounts, _⟩ := kept.standing idle
  -- The descriptors of the listener come first, and are closed one after the other.
  have first : (Handler.idle.holding ++ s.heldLater).Perm
      ((listener.handle, listener.handleFile) :: (listener.fd, listener.fdFile) ::
        (s.messages.flatMap (fun message => message.carries.item.holding) ++
          (s.listeners.erase listener).flatMap Listener.holding)) :=
    ((same.flatMap_right Listener.holding).append_left _).trans
      (List.perm_append_comm_assoc _ (Listener.holding listener) _)
  have closed := ((accounts.perm first).closeHeld s.now .pipeCloseCb fun timed =>
    absurd (timed.symm.trans handle) (by decide)).closeHeld s.now .pipeCloseCb fun timed =>
    absurd (timed.symm.trans fd) (by decide)
  refine ⟨kept.key, kept.conveys, kept.found, ?_, kept.due, kept.timely, fun other member =>
    kept.listeners other (List.mem_of_mem_erase member)⟩
  show Kernel.Accounts _ (s.handler.holding ++ _)
  rw [idle]
  exact closed

/-- Every step keeps it all, as long as no key in use comes around again. -/
theorem Poker.Kept.taken (s : Poker) (act : PokerAct) (next : Poker) (kept : s.Kept)
    (fresh : s.KeysFresh act) (stepped : pokerStep s act = some next) : next.Kept := by
  -- What callers and other code do is no concern of what is kept.
  cases Poker.moves_of_step stepped with
  | tick passed => exact kept.tick passed
  | requestPmQosTimed => exact kept.withCallers _
  | createPmQosHandle => exact kept.withCallers _
  | pushTimed => exact (kept.send (fresh rfl) 0 rfl).withCallers _
  | pushHandle => exact (kept.send (fresh rfl) 0 rfl).withCallers _
  | returns => exact kept.withCallers _
  | deliver idle inFlight due => exact kept.deliver idle inFlight due
  | lost handling nothing =>
    -- No key in use has come around, so no event is lost.
    rw [kept.there handling] at nothing
    cases nothing
  | found handling found =>
    obtain rfl := Option.some.inj ((kept.there handling).symm.trans found)
    exact kept.takeOut handling
  | timedFails running item => exact kept.openFails running (by rw [item]; rfl)
  | handleFails running item =>
    exact (kept.openFails running (by rw [item]; rfl)).withCallers _
  | @timedOpens event node setting timeout fd running item free =>
    refine kept.opens running (by rw [item]; rfl) free (.timed s.now timeout) ⟨nofun, nofun⟩
      setting ?_
    unfold Handler.Timely
    dsimp only
    rw [item]
    exact ⟨s.now, Int.le_refl _, rfl⟩
  | @handleOpens event node setting caller fd running item free =>
    refine kept.opens running (by rw [item]; rfl) free .node ⟨nofun, nofun⟩ setting ?_
    unfold Handler.Timely
    dsimp only
    rw [item]
    rfl
  | sendTimeout opened item => exact kept.sendTimeout (fresh rfl) opened item
  | pipeFails opened item =>
    exact (kept.pipeFails opened (kept.untimed opened item)).withCallers _
  | pipeOpens listens opened item freeClient freeServer apart =>
    exact (kept.pipeOpens listens opened (kept.untimed opened item) freeClient freeServer
      apart).withCallers _
  | timeoutRequest running item => exact kept.timeoutRequest running item
  | delete deleting => exact kept.delete deleting
  | pipeCloseCb idle listens => exact kept.pipeCloseCb idle listens
  | openElsewhere free => exact kept.withKernel (kept.accounts.openUnheld free .elsewhere rfl)
  | closeElsewhere there others =>
    exact kept.withKernel (kept.accounts.closeUnheld s.now .elsewhere there others)

end Steps

/--
In every interleaving, every event sent is found, run and deleted exactly once, and every file that
`openPmQosTimed` opens is closed exactly once, by its own timeout event and not before its timeout.
-/
theorem exactlyOnce_always (acts : List PokerAct)
    (fresh : Along pokerStep Poker.KeysFresh .initial acts) :
    Always pokerStep Poker.ExactlyOnce .initial acts :=
  (always_of_along Poker.Kept.taken Poker.kept_initial fresh).mono fun _ kept => kept.exactlyOnce

/-- A step sends at most one event. -/
theorem sent_step {s next : Poker} {act : PokerAct} (stepped : pokerStep s act = some next) :
    next.sent ≤ s.sent + 1 := by
  -- Three steps send one, and the others leave the count alone.
  cases Poker.moves_of_step stepped with
  | pushTimed | pushHandle | sendTimeout => exact Nat.le_refl _
  | _ => exact Nat.le_succ _

/-- No run of fewer than 2^32 steps brings a key around again. -/
theorem along_keysFresh (s : Poker) (acts : List PokerAct)
    (short : s.sent + acts.length < 2 ^ 32) : Along pokerStep Poker.KeysFresh s acts := by
  -- The induction spends one step of the bound at each act.
  induction acts generalizing s with
  | nil => trivial
  | cons act rest ih =>
    have length : (act :: rest).length = rest.length + 1 := rfl
    refine ⟨fun _ _ event _ => by omega, fun next stepped => ih next ?_⟩
    have more := sent_step stepped
    omega

/-- A timed request and a request for a handle, whose events are run in the other order. -/
def requestsTwo : List PokerAct :=
  let timed : QueuedEvent := .pmQosOpenTimed "/dev/cpu_freq_min" (.default 1300000) 100000000
  let handle : QueuedEvent := .pmQosOpenHandle "/dev/constraint_cpu_freq" (.priority 50 9 4) 1
  let file : File := ⟨3, .timed 0 100000000⟩
  [.requestPmQosTimed 0 "/dev/cpu_freq_min" (.default 1300000) 100000000,
    .createPmQosHandle 1 "/dev/constraint_cpu_freq" (.priority 50 9 4),
    .pushEvent 0, .pushEvent 1,
    .deliver ⟨1, 0, ⟨1, handle⟩⟩, .removeEventByKey, .openPmQosNode (some 7),
    .createHandleForFd (.made 8 9 true), .delete, .returns 1,
    .deliver ⟨0, 0, ⟨0, timed⟩⟩, .removeEventByKey, .openPmQosNode (some 10), .sendTimeout, .delete,
    .tick 100000000,
    .deliver ⟨2, 100000000, ⟨2, .timeout 10 file⟩⟩, .removeEventByKey, .timeoutRequest, .delete]

/-- Two requests, a timed one and one for a handle, are dealt with once each. -/
theorem exactlyOnce_always_requestsTwo : ∃ final,
    run pokerStep .initial requestsTwo = some final ∧
      final.messages = [] ∧ final.handler = .idle ∧ final.ran = [2, 0, 1] ∧
      final.kernel.closings.map Closing.time = [100000000] ∧
      Always pokerStep Poker.ExactlyOnce .initial requestsTwo :=
  ⟨_, rfl, rfl, rfl, rfl, rfl, exactlyOnce_always requestsTwo (along_keysFresh _ _ (by decide))⟩

end Grouper.Power
