import Grouper.Lib.Mailbox
import Mathlib.Algebra.Group.Nat.Defs

/-! The timeout poker: events that callers queue under keys, and the looper that runs them. -/

namespace Grouper.Power

open Function (update)

/-- Why a file was opened, for the record. -/
inductive Purpose where
  /-- By `openPmQosTimed`, at a time and for a time. -/
  | timed (openedAt timeout : Int)
  /-- By `createHandleForPmQosRequest`. -/
  | node
  /-- The two ends of the pipe of a handle. -/
  | server
  | client
  /-- By other code of the process. -/
  | elsewhere
  deriving DecidableEq, Repr

/-- An open file, numbered in the order in which files were opened. -/
structure File where
  serial : Nat
  purpose : Purpose
  deriving DecidableEq, Repr

/-- What is written to a node: a value, or a range with a priority. -/
inductive PmQosSetting where
  | default (val : Int)
  | priority (priority max min : Int)
  deriving DecidableEq, Repr

/-- The events, by their classes. -/
inductive QueuedEvent where
  | pmQosOpenTimed (node : String) (setting : PmQosSetting) (timeout : Int)
  /-- The caller waits at its barrier for the handle. -/
  | pmQosOpenHandle (node : String) (setting : PmQosSetting) (caller : Nat)
  /-- The file is the one the descriptor stood for when the event was made, for the record. -/
  | timeout (pmQosFd : Nat) (file : File)
  deriving DecidableEq, Repr

/-- A message of the looper, which carries a key. The event it was sent for is for the record. -/
structure Message where
  what : Nat
  uptime : Int
  carries : Numbered QueuedEvent
  deriving DecidableEq, Repr

/-- Who closes a file. -/
inductive Closer where
  | timeoutRequest (event : Numbered QueuedEvent)
  | createHandleForFd
  | pipeCloseCb
  | elsewhere
  deriving DecidableEq, Repr

structure Closing where
  file : File
  time : Int
  closer : Closer
  deriving DecidableEq, Repr

/-- The descriptors of the process, with all that was ever opened, closed and written. -/
structure Kernel where
  fds : Nat → Option File
  opened : List File
  closings : List Closing
  writes : List (File × PmQosSetting)

/-- A pipe end the looper listens to, and the descriptor to close with it. -/
structure Listener where
  handle : Nat
  fd : Nat
  /-- The files the two descriptors stand for, for the record. -/
  handleFile : File
  fdFile : File
  deriving DecidableEq, Repr

/-- Where the looper thread is. -/
inductive Handler where
  | idle
  | handling (message : Message)
  | running (event : Numbered QueuedEvent)
  /-- `openPmQosNode` has returned a descriptor. -/
  | opened (event : Numbered QueuedEvent) (fd : Nat) (file : File)
  | deleting (event : Numbered QueuedEvent)
  /-- There was no entry for the key of the message. -/
  | lost (message : Message)
  deriving DecidableEq, Repr

/-- Where a calling thread is. -/
inductive Caller where
  | idle
  | pushingTimed (node : String) (setting : PmQosSetting) (timeout : Int)
  | pushingHandle (node : String) (setting : PmQosSetting)
  /-- At the barrier of `createPmQosHandle`. -/
  | waiting
  | woken (ret : Int)
  deriving DecidableEq, Repr

/-- The poker, the threads that call it, and the kernel. -/
structure Poker where
  /-- `CLOCK_MONOTONIC`, in nanoseconds. -/
  now : Int
  mKey : Nat
  /-- The vector under its keys. How many events were sent before one is for the record. -/
  queuedEvents : Nat → Option (Numbered QueuedEvent)
  messages : List Message
  handler : Handler
  listeners : List Listener
  callers : Nat → Caller
  kernel : Kernel
  /-- How many events were sent, and which of them were run and deleted. -/
  sent : Nat
  ran : List Nat
  deleted : List Nat

/-- The file that is opened next for some purpose. -/
def Kernel.file (k : Kernel) (purpose : Purpose) : File := ⟨k.opened.length, purpose⟩

def Kernel.open_ (k : Kernel) (fd : Nat) (purpose : Purpose) : Kernel :=
  { k with
    fds := update k.fds fd (some (k.file purpose))
    opened := k.file purpose :: k.opened }

/-- `close`, which fails on a descriptor that is not open. -/
def Kernel.close (k : Kernel) (fd : Nat) (time : Int) (closer : Closer) : Kernel :=
  match k.fds fd with
  | none => k
  | some file => { k with
      fds := update k.fds fd none
      closings := ⟨file, time, closer⟩ :: k.closings }

/-- `openPmQosNode`, when the node can be opened: the setting is written to it. -/
def Kernel.openPmQosNode (k : Kernel) (fd : Nat) (purpose : Purpose) (setting : PmQosSetting) :
    Kernel :=
  { k.open_ fd purpose with writes := (k.file purpose, setting) :: k.writes }

/-- `sendEventDelayed`, all of it under `mEvLock`. The key is an `int` that wraps around. -/
def Poker.sendEventDelayed (s : Poker) (delay : Int) (event : QueuedEvent) : Poker :=
  { s with
    mKey := (s.mKey + 1) % 2 ^ 32
    queuedEvents := update s.queuedEvents s.mKey (some ⟨s.sent, event⟩)
    messages := ⟨s.mKey, s.now + delay, ⟨s.sent, event⟩⟩ :: s.messages
    sent := s.sent + 1 }

/-- The result is stored for the caller, and its barrier is opened. -/
def Poker.wake (s : Poker) (caller : Nat) (ret : Int) : Poker :=
  { s with callers := update s.callers caller (.woken ret) }

/-- What the pipe of a handle comes to: none, or two ends that the looper listens to or not. -/
inductive PipeOutcome where
  | failed
  | made (client server : Nat) (listens : Bool)
  deriving DecidableEq, Repr

/-- A step of a thread, of the looper, or of other code, with what it finds in the kernel. -/
inductive PokerAct where
  | tick (passed : Nat)
  | requestPmQosTimed (caller : Nat) (node : String) (setting : PmQosSetting) (timeout : Int)
  | createPmQosHandle (caller : Nat) (node : String) (setting : PmQosSetting)
  | pushEvent (caller : Nat)
  | returns (caller : Nat)
  | deliver (message : Message)
  | removeEventByKey
  | openPmQosNode (fd : Option Nat)
  | sendTimeout
  | createHandleForFd (outcome : PipeOutcome)
  | timeoutRequest
  | delete
  | pipeCloseCb (listener : Listener)
  | openElsewhere (fd : Nat)
  | closeElsewhere (fd : Nat)

/-- A caller hands its event over, and waits if it asked for a handle. -/
def Poker.pushEvent (s : Poker) (caller : Nat) : Option Poker :=
  match s.callers caller with
  | .pushingTimed node setting timeout =>
    -- `requestPmQosTimed` returns as soon as its event is queued.
    some { s.sendEventDelayed 0 (.pmQosOpenTimed node setting timeout) with
      callers := update s.callers caller .idle }
  | .pushingHandle node setting =>
    -- `createPmQosHandle` goes on to wait at its barrier.
    some { s.sendEventDelayed 0 (.pmQosOpenHandle node setting caller) with
      callers := update s.callers caller .waiting }
  | _ => none

/-- The looper hands a message over that is due, in whatever order it has them. -/
def Poker.deliver (s : Poker) (message : Message) : Option Poker :=
  match s.handler with
  | .idle =>
    if message ∈ s.messages ∧ message.uptime ≤ s.now then
      some { s with messages := s.messages.erase message, handler := .handling message }
    else none
  | _ => none

/-- `handleMessage` up to the call of `run`: the event is taken out under `mEvLock`. -/
def Poker.removeEventByKey (s : Poker) : Option Poker :=
  match s.handler with
  | .handling message =>
    match s.queuedEvents message.what with
    -- The handler returns without having run anything.
    | none => some { s with handler := .lost message }
    | some event => some { s with
        queuedEvents := update s.queuedEvents message.what none
        handler := .running event
        ran := event.number :: s.ran }
  | _ => none

/-- The first part of running an open event. Without a node there is nothing to time out. -/
def Poker.openPmQosNode (s : Poker) (fd : Option Nat) : Option Poker :=
  match s.handler with
  | .running event =>
    match event.item, fd with
    -- A timed request that fails has nobody to tell.
    | .pmQosOpenTimed _ _ _, none => some { s with handler := .deleting event }
    | .pmQosOpenHandle _ _ caller, none =>
      some { s.wake caller (-1) with handler := .deleting event }
    | .pmQosOpenTimed _ setting timeout, some fd =>
      if s.kernel.fds fd = none then
        some { s with
          kernel := s.kernel.openPmQosNode fd (.timed s.now timeout) setting
          handler := .opened event fd (s.kernel.file (.timed s.now timeout)) }
      else none
    | .pmQosOpenHandle _ setting _, some fd =>
      if s.kernel.fds fd = none then
        some { s with
          kernel := s.kernel.openPmQosNode fd .node setting
          handler := .opened event fd (s.kernel.file .node) }
      else none
    | .timeout _ _, _ => none
  | _ => none

/-- The rest of `openPmQosTimed`. -/
def Poker.sendTimeout (s : Poker) : Option Poker :=
  match s.handler with
  | .opened event fd file =>
    match event.item with
    | .pmQosOpenTimed _ _ timeout =>
      -- The looper thread queues like any caller, under the same lock.
      some { s.sendEventDelayed timeout (.timeout fd file) with handler := .deleting event }
    | _ => none
  | _ => none

/--
`createHandleForFd` and the end of running its event.

The check that follows `listenForHandleToCloseFd` is on the result of `pipe`, so the handle is
returned whether or not the looper listens.
-/
def Poker.createHandleForFd (s : Poker) (outcome : PipeOutcome) : Option Poker :=
  match s.handler with
  | .opened event fd file =>
    match event.item, outcome with
    -- Without a pipe there is no handle, and the node is closed.
    | .pmQosOpenHandle _ _ caller, .failed =>
      some { s.wake caller (-1) with
        kernel := s.kernel.close fd s.now .createHandleForFd
        handler := .deleting event }
    | .pmQosOpenHandle _ _ caller, .made client server listens =>
      -- The kernel gives out two descriptors that are free.
      if s.kernel.fds client = none ∧ s.kernel.fds server = none ∧ client ≠ server then
        some { s.wake caller client with
          kernel := (s.kernel.open_ client .client).open_ server .server
          -- The listener closes the server end and the node once the client end is closed.
          listeners :=
            if listens then
              ⟨server, fd, (s.kernel.open_ client .client).file .server, file⟩ :: s.listeners
            else s.listeners
          handler := .deleting event }
      else none
    | _, _ => none
  | _ => none

/-- Running a timeout event. -/
def Poker.timeoutRequest (s : Poker) : Option Poker :=
  match s.handler with
  | .running event =>
    match event.item with
    | .timeout fd _ => some { s with
        kernel := s.kernel.close fd s.now (.timeoutRequest event)
        handler := .deleting event }
    | _ => none
  | _ => none

/-- `pipeCloseCb`, which the looper calls between messages once the client end is closed. -/
def Poker.pipeCloseCb (s : Poker) (listener : Listener) : Option Poker :=
  match s.handler with
  | .idle =>
    if listener ∈ s.listeners then
      some { s with
        listeners := s.listeners.erase listener
        kernel := (s.kernel.close listener.handle s.now .pipeCloseCb).close listener.fd s.now
          .pipeCloseCb }
    else none
  | _ => none

def pokerStep (s : Poker) : PokerAct → Option Poker
  | .tick passed => some { s with now := s.now + passed }
  -- A call begins with the making of its event, which is not queued yet.
  | .requestPmQosTimed caller node setting timeout =>
    if s.callers caller = .idle then
      some { s with callers := update s.callers caller (.pushingTimed node setting timeout) }
    else none
  | .createPmQosHandle caller node setting =>
    if s.callers caller = .idle then
      some { s with callers := update s.callers caller (.pushingHandle node setting) }
    else none
  | .pushEvent caller => s.pushEvent caller
  -- The barrier was opened, so the caller goes on with what was stored for it.
  | .returns caller =>
    match s.callers caller with
    | .woken _ => some { s with callers := update s.callers caller .idle }
    | _ => none
  | .deliver message => s.deliver message
  | .removeEventByKey => s.removeEventByKey
  | .openPmQosNode fd => s.openPmQosNode fd
  | .sendTimeout => s.sendTimeout
  | .createHandleForFd outcome => s.createHandleForFd outcome
  | .timeoutRequest => s.timeoutRequest
  | .delete =>
    match s.handler with
    | .deleting event => some { s with handler := .idle, deleted := event.number :: s.deleted }
    | _ => none
  | .pipeCloseCb listener => s.pipeCloseCb listener
  | .openElsewhere fd =>
    if s.kernel.fds fd = none then some { s with kernel := s.kernel.open_ fd .elsewhere } else none
  | .closeElsewhere fd =>
    -- Other code closes what it opened, and the client ends it was given as handles.
    match s.kernel.fds fd with
    | some file =>
      if file.purpose = .elsewhere ∨ file.purpose = .client then
        some { s with kernel := s.kernel.close fd s.now .elsewhere }
      else none
    | none => none

/-- What a step can do: one case for each way through the code. -/
inductive Poker.Moves (s : Poker) : PokerAct → Poker → Prop
  | tick (passed : Nat) : s.Moves (.tick passed) { s with now := s.now + passed }
  | requestPmQosTimed {caller : Nat} (node : String) (setting : PmQosSetting) (timeout : Int)
      (idle : s.callers caller = .idle) :
      s.Moves (.requestPmQosTimed caller node setting timeout)
        { s with callers := update s.callers caller (.pushingTimed node setting timeout) }
  | createPmQosHandle {caller : Nat} (node : String) (setting : PmQosSetting)
      (idle : s.callers caller = .idle) :
      s.Moves (.createPmQosHandle caller node setting)
        { s with callers := update s.callers caller (.pushingHandle node setting) }
  | pushTimed {caller : Nat} {node : String} {setting : PmQosSetting} {timeout : Int}
      (pushing : s.callers caller = .pushingTimed node setting timeout) :
      s.Moves (.pushEvent caller)
        { s.sendEventDelayed 0 (.pmQosOpenTimed node setting timeout) with
          callers := update s.callers caller .idle }
  | pushHandle {caller : Nat} {node : String} {setting : PmQosSetting}
      (pushing : s.callers caller = .pushingHandle node setting) :
      s.Moves (.pushEvent caller)
        { s.sendEventDelayed 0 (.pmQosOpenHandle node setting caller) with
          callers := update s.callers caller .waiting }
  | returns {caller : Nat} {ret : Int} (woken : s.callers caller = .woken ret) :
      s.Moves (.returns caller) { s with callers := update s.callers caller .idle }
  | deliver {message : Message} (idle : s.handler = .idle) (inFlight : message ∈ s.messages)
      (due : message.uptime ≤ s.now) :
      s.Moves (.deliver message)
        { s with messages := s.messages.erase message, handler := .handling message }
  | lost {message : Message} (handling : s.handler = .handling message)
      (nothing : s.queuedEvents message.what = none) :
      s.Moves .removeEventByKey { s with handler := .lost message }
  | found {message : Message} {event : Numbered QueuedEvent}
      (handling : s.handler = .handling message)
      (found : s.queuedEvents message.what = some event) :
      s.Moves .removeEventByKey { s with
        queuedEvents := update s.queuedEvents message.what none
        handler := .running event
        ran := event.number :: s.ran }
  | timedFails {event : Numbered QueuedEvent} {node : String} {setting : PmQosSetting}
      {timeout : Int} (running : s.handler = .running event)
      (item : event.item = .pmQosOpenTimed node setting timeout) :
      s.Moves (.openPmQosNode none) { s with handler := .deleting event }
  | handleFails {event : Numbered QueuedEvent} {node : String} {setting : PmQosSetting}
      {caller : Nat} (running : s.handler = .running event)
      (item : event.item = .pmQosOpenHandle node setting caller) :
      s.Moves (.openPmQosNode none) { s.wake caller (-1) with handler := .deleting event }
  | timedOpens {event : Numbered QueuedEvent} {node : String} {setting : PmQosSetting}
      {timeout : Int} {fd : Nat} (running : s.handler = .running event)
      (item : event.item = .pmQosOpenTimed node setting timeout)
      (free : s.kernel.fds fd = none) :
      s.Moves (.openPmQosNode (some fd)) { s with
        kernel := s.kernel.openPmQosNode fd (.timed s.now timeout) setting
        handler := .opened event fd (s.kernel.file (.timed s.now timeout)) }
  | handleOpens {event : Numbered QueuedEvent} {node : String} {setting : PmQosSetting}
      {caller fd : Nat} (running : s.handler = .running event)
      (item : event.item = .pmQosOpenHandle node setting caller)
      (free : s.kernel.fds fd = none) :
      s.Moves (.openPmQosNode (some fd)) { s with
        kernel := s.kernel.openPmQosNode fd .node setting
        handler := .opened event fd (s.kernel.file .node) }
  | sendTimeout {event : Numbered QueuedEvent} {fd : Nat} {file : File} {node : String}
      {setting : PmQosSetting} {timeout : Int} (opened : s.handler = .opened event fd file)
      (item : event.item = .pmQosOpenTimed node setting timeout) :
      s.Moves .sendTimeout
        { s.sendEventDelayed timeout (.timeout fd file) with handler := .deleting event }
  | pipeFails {event : Numbered QueuedEvent} {fd : Nat} {file : File} {node : String}
      {setting : PmQosSetting} {caller : Nat} (opened : s.handler = .opened event fd file)
      (item : event.item = .pmQosOpenHandle node setting caller) :
      s.Moves (.createHandleForFd .failed) { s.wake caller (-1) with
        kernel := s.kernel.close fd s.now .createHandleForFd
        handler := .deleting event }
  | pipeOpens {event : Numbered QueuedEvent} {fd : Nat} {file : File} {node : String}
      {setting : PmQosSetting} {caller client server : Nat} (listens : Bool)
      (opened : s.handler = .opened event fd file)
      (item : event.item = .pmQosOpenHandle node setting caller)
      (freeClient : s.kernel.fds client = none) (freeServer : s.kernel.fds server = none)
      (apart : client ≠ server) :
      s.Moves (.createHandleForFd (.made client server listens)) { s.wake caller client with
        kernel := (s.kernel.open_ client .client).open_ server .server
        listeners :=
          if listens then
            ⟨server, fd, (s.kernel.open_ client .client).file .server, file⟩ :: s.listeners
          else s.listeners
        handler := .deleting event }
  | timeoutRequest {event : Numbered QueuedEvent} {fd : Nat} {file : File}
      (running : s.handler = .running event) (item : event.item = .timeout fd file) :
      s.Moves .timeoutRequest { s with
        kernel := s.kernel.close fd s.now (.timeoutRequest event)
        handler := .deleting event }
  | delete {event : Numbered QueuedEvent} (deleting : s.handler = .deleting event) :
      s.Moves .delete { s with handler := .idle, deleted := event.number :: s.deleted }
  | pipeCloseCb {listener : Listener} (idle : s.handler = .idle)
      (listens : listener ∈ s.listeners) :
      s.Moves (.pipeCloseCb listener) { s with
        listeners := s.listeners.erase listener
        kernel := (s.kernel.close listener.handle s.now .pipeCloseCb).close listener.fd s.now
          .pipeCloseCb }
  | openElsewhere {fd : Nat} (free : s.kernel.fds fd = none) :
      s.Moves (.openElsewhere fd) { s with kernel := s.kernel.open_ fd .elsewhere }
  | closeElsewhere {fd : Nat} {file : File} (there : s.kernel.fds fd = some file)
      (others : file.purpose = .elsewhere ∨ file.purpose = .client) :
      s.Moves (.closeElsewhere fd) { s with kernel := s.kernel.close fd s.now .elsewhere }

section Moves

variable {s next : Poker}

/-- A caller can only push what it is about to push. -/
theorem Poker.moves_pushEvent {caller : Nat} (stepped : s.pushEvent caller = some next) :
    s.Moves (.pushEvent caller) next := by
  -- By what the caller is about to push.
  unfold Poker.pushEvent at stepped
  split at stepped
  · rename_i pushing
    obtain rfl := Option.some.inj stepped
    exact .pushTimed pushing
  · rename_i pushing
    obtain rfl := Option.some.inj stepped
    exact .pushHandle pushing
  · cases stepped

/-- A message is delivered to an idle handler when it is due. -/
theorem Poker.moves_deliver {message : Message} (stepped : s.deliver message = some next) :
    s.Moves (.deliver message) next := by
  -- Both are guards of the step.
  unfold Poker.deliver at stepped
  split at stepped
  · rename_i idle
    split at stepped
    · rename_i enabled
      obtain rfl := Option.some.inj stepped
      exact .deliver idle enabled.1 enabled.2
    · cases stepped
  · cases stepped

/-- The handler of a message looks its key up, and takes the event if it is there. -/
theorem Poker.moves_removeEventByKey (stepped : s.removeEventByKey = some next) :
    s.Moves .removeEventByKey next := by
  unfold Poker.removeEventByKey at stepped
  split at stepped
  · -- The message is looked up by its key, which may be of another event by now.
    rename_i handling
    split at stepped
    · rename_i nothing
      obtain rfl := Option.some.inj stepped
      exact .lost handling nothing
    · rename_i found
      obtain rfl := Option.some.inj stepped
      exact .found handling found
  · cases stepped

/-- A running event opens its node, or fails to. -/
theorem Poker.moves_openPmQosNode {fd : Option Nat} (stepped : s.openPmQosNode fd = some next) :
    s.Moves (.openPmQosNode fd) next := by
  unfold Poker.openPmQosNode at stepped
  split at stepped
  · rename_i running
    split at stepped
    · rename_i item
      obtain rfl := Option.some.inj stepped
      exact .timedFails running item
    · rename_i item
      obtain rfl := Option.some.inj stepped
      exact .handleFails running item
    · -- With a descriptor the event goes on only if that is a free one.
      rename_i item
      split at stepped
      · rename_i free
        obtain rfl := Option.some.inj stepped
        exact .timedOpens running item free
      · cases stepped
    · rename_i item
      split at stepped
      · rename_i free
        obtain rfl := Option.some.inj stepped
        exact .handleOpens running item free
      · cases stepped
    · cases stepped
  · cases stepped

/-- What was opened for a timed event is sent back with its timeout. -/
theorem Poker.moves_sendTimeout (stepped : s.sendTimeout = some next) :
    s.Moves .sendTimeout next := by
  -- The event in hand is a timed one.
  unfold Poker.sendTimeout at stepped
  split at stepped
  · rename_i opened
    split at stepped
    · rename_i item
      obtain rfl := Option.some.inj stepped
      exact .sendTimeout opened item
    · cases stepped
  · cases stepped

/-- What was opened for a handle gets its pipe, or is closed. -/
theorem Poker.moves_createHandleForFd {outcome : PipeOutcome}
    (stepped : s.createHandleForFd outcome = some next) :
    s.Moves (.createHandleForFd outcome) next := by
  unfold Poker.createHandleForFd at stepped
  split at stepped
  · rename_i opened
    split at stepped
    · rename_i item
      obtain rfl := Option.some.inj stepped
      exact .pipeFails opened item
    · -- The two ends of a pipe are two free descriptors.
      rename_i item
      split at stepped
      · rename_i free
        obtain ⟨freeClient, freeServer, apart⟩ := free
        obtain rfl := Option.some.inj stepped
        exact .pipeOpens _ opened item freeClient freeServer apart
      · cases stepped
    · cases stepped
  · cases stepped

/-- A timeout closes the descriptor it carries. -/
theorem Poker.moves_timeoutRequest (stepped : s.timeoutRequest = some next) :
    s.Moves .timeoutRequest next := by
  -- The event in hand is a timeout.
  unfold Poker.timeoutRequest at stepped
  split at stepped
  · rename_i running
    split at stepped
    · rename_i item
      obtain rfl := Option.some.inj stepped
      exact .timeoutRequest running item
    · cases stepped
  · cases stepped

/-- A listener is called back while the handler is idle. -/
theorem Poker.moves_pipeCloseCb {listener : Listener}
    (stepped : s.pipeCloseCb listener = some next) : s.Moves (.pipeCloseCb listener) next := by
  -- Both are guards of the step.
  unfold Poker.pipeCloseCb at stepped
  split at stepped
  · rename_i idle
    split at stepped
    · rename_i listens
      obtain rfl := Option.some.inj stepped
      exact .pipeCloseCb idle listens
    · cases stepped
  · cases stepped

/-- The code does nothing else. -/
theorem Poker.moves_of_step {act : PokerAct} (stepped : pokerStep s act = some next) :
    s.Moves act next := by
  -- The steps that are functions of their own have been taken apart above.
  cases act with
  | tick passed =>
    obtain rfl := Option.some.inj stepped
    exact .tick passed
  | requestPmQosTimed caller node setting timeout =>
    dsimp only [pokerStep] at stepped
    split at stepped
    · rename_i idle
      obtain rfl := Option.some.inj stepped
      exact .requestPmQosTimed node setting timeout idle
    · cases stepped
  | createPmQosHandle caller node setting =>
    dsimp only [pokerStep] at stepped
    split at stepped
    · rename_i idle
      obtain rfl := Option.some.inj stepped
      exact .createPmQosHandle node setting idle
    · cases stepped
  | pushEvent caller => exact Poker.moves_pushEvent stepped
  | returns caller =>
    dsimp only [pokerStep] at stepped
    split at stepped
    · rename_i woken
      obtain rfl := Option.some.inj stepped
      exact .returns woken
    · cases stepped
  | deliver message => exact Poker.moves_deliver stepped
  | removeEventByKey => exact Poker.moves_removeEventByKey stepped
  | openPmQosNode fd => exact Poker.moves_openPmQosNode stepped
  | sendTimeout => exact Poker.moves_sendTimeout stepped
  | createHandleForFd outcome => exact Poker.moves_createHandleForFd stepped
  | timeoutRequest => exact Poker.moves_timeoutRequest stepped
  | delete =>
    dsimp only [pokerStep] at stepped
    split at stepped
    · rename_i deleting
      obtain rfl := Option.some.inj stepped
      exact .delete deleting
    · cases stepped
  | pipeCloseCb listener => exact Poker.moves_pipeCloseCb stepped
  | openElsewhere fd =>
    dsimp only [pokerStep] at stepped
    split at stepped
    · rename_i free
      obtain rfl := Option.some.inj stepped
      exact .openElsewhere free
    · cases stepped
  | closeElsewhere fd =>
    dsimp only [pokerStep] at stepped
    split at stepped
    · rename_i there
      split at stepped
      · rename_i others
        obtain rfl := Option.some.inj stepped
        exact .closeElsewhere there others
      · cases stepped
    · cases stepped

end Moves

/-- The poker once its looper is ready. -/
def Poker.initial : Poker where
  now := 0
  mKey := 0
  queuedEvents _ := none
  messages := []
  handler := .idle
  listeners := []
  callers _ := .idle
  kernel := ⟨fun _ => none, [], [], []⟩
  sent := 0
  ran := []
  deleted := []

end Grouper.Power
