import Grouper.Lib.Run
import Grouper.Power.Handles

/-! The files behind a handle are closed with it precisely when the looper listens for that. -/

namespace Grouper.Power

open Function (update)

/-- A server end and a node are open, and a listener has both of them. -/
def Poker.Watched (s : Poker) (server node : File) : Prop :=
  ∃ listener ∈ s.listeners, listener.handleFile = server ∧ listener.fdFile = node ∧
    s.kernel.fds listener.handle = some server ∧ s.kernel.fds listener.fd = some node ∧
    server ∉ s.kernel.closedFiles ∧ node ∉ s.kernel.closedFiles

/-- Everything that was opened for a handle is closed once the handle is, and once only. -/
structure Poker.HandlesOwned (s : Poker) : Prop where
  returned : ∀ caller, (s.callers caller).Returns s.kernel
  /-- Behind a handle there are a server end and a node, with a listener or both closed. -/
  handles : ∀ client ∈ s.kernel.opened, client.purpose = .client → ∃ server node,
    server.purpose = .server ∧ server.serial = client.serial + 1 ∧ node.purpose = .node ∧
      (s.Watched server node ∨ s.kernel.ClosedOnce server ∧ s.kernel.ClosedOnce node)
  /-- A node is in the hands of the call that opened it, with a listener, or closed. -/
  nodes : ∀ node ∈ s.kernel.opened, node.purpose = .node →
    (∃ event fd, s.handler = .opened event fd node ∧ s.kernel.fds fd = some node ∧
        node ∉ s.kernel.closedFiles) ∨
      (∃ server, s.Watched server node) ∨ s.kernel.ClosedOnce node
  /-- A listener that is called closes the server end and the node. -/
  releases : ∀ listener ∈ s.listeners, ∀ next, s.pipeCloseCb listener = some next →
    next.kernel.ClosedOnce listener.handleFile ∧ next.kernel.ClosedOnce listener.fdFile
  /-- A call that fails for want of a pipe leaves nothing open. -/
  fails : ∀ event fd node next, s.handler = .opened event fd node →
    s.createHandleForFd .failed = some next →
      next.kernel.ClosedOnce node ∧ next.kernel.opened = s.kernel.opened

/-- The looper listens to the server end, if a pipe is made for a handle. -/
def PokerAct.Listens : PokerAct → Prop
  | .createHandleForFd (.made _ _ listens) => listens = true
  | _ => True

/-- A listener has a server end and a node. -/
def Poker.Has (s : Poker) (server node : File) : Prop :=
  ∃ listener ∈ s.listeners, listener.handleFile = server ∧ listener.fdFile = node

/-- The call that opened a node is still at work on it. -/
def Handler.WorksOn (handler : Handler) (node : File) : Prop :=
  ∃ event fd, handler = .opened event fd node

/-- What is behind the handles, without the descriptors. -/
structure Poker.Watching (s : Poker) : Prop where
  handles : ∀ client ∈ s.kernel.opened, client.purpose = .client → ∃ server node,
    server.purpose = .server ∧ server.serial = client.serial + 1 ∧ node.purpose = .node ∧
      (s.Has server node ∨ server ∈ s.kernel.closedFiles ∧ node ∈ s.kernel.closedFiles)
  nodes : ∀ node ∈ s.kernel.opened, node.purpose = .node →
    s.handler.WorksOn node ∨ (∃ server, s.Has server node) ∨ node ∈ s.kernel.closedFiles

section Watching

variable {s next : Poker} {due : List (Nat × File)}

/-- What a listener has is open. -/
theorem Poker.Owns.watched_iff (owns : s.Owns due) (server node : File) :
    s.Watched server node ↔ s.Has server node := by
  constructor
  · rintro ⟨listener, listens, handle, fd, _⟩
    exact ⟨listener, listens, handle, fd⟩
  · rintro ⟨listener, listens, rfl, rfl⟩
    -- What a listener has is among all that is held, and that is open and was not closed.
    have among : ∀ one ∈ listener.holding, one ∈ s.inHand ++ due := fun one member =>
      List.mem_append_left _ (List.mem_append_right _ (List.mem_flatMap.mpr ⟨_, listens, member⟩))
    have first := owns.holds.there _ (among _ List.mem_cons_self)
    have second := owns.holds.there _ (among _ (List.mem_cons_of_mem _ (List.mem_singleton_self _)))
    exact ⟨listener, listens, rfl, rfl, first, second, owns.sound.unclosed _ _ first,
      owns.sound.unclosed _ _ second⟩

/-- A listener that is called closes its two files, and the other listeners stay. -/
theorem Poker.Owns.pipeCloseCb_closes (owns : s.Owns due) {listener : Listener}
    (stepped : s.pipeCloseCb listener = some next) :
    s.kernel.Later next.kernel ∧ next.kernel.opened = s.kernel.opened ∧
      next.handler = s.handler ∧ next.listeners = s.listeners.erase listener ∧
      listener.handleFile ∈ next.kernel.closedFiles ∧
      listener.fdFile ∈ next.kernel.closedFiles := by
  cases Poker.moves_pipeCloseCb stepped with
  | pipeCloseCb idle listens =>
    obtain ⟨first, second, _⟩ := owns.listener listens
    -- The closings are noted one in front of the other.
    have closed := Kernel.closedFiles_close second s.now .pipeCloseCb
    rw [Kernel.closedFiles_close first] at closed
    refine ⟨(Kernel.later_close first _ _).trans (Kernel.later_close second _ _), ?_, rfl, rfl,
      ?_, ?_⟩
    · exact (Kernel.opened_close _ _ _ _).trans (Kernel.opened_close _ _ _ _)
    · exact closed ▸ List.mem_cons_of_mem _ List.mem_cons_self
    · exact closed ▸ List.mem_cons_self

/-- Without a pipe, the node is closed and nothing else is opened. -/
theorem Poker.Owns.createHandleForFd_failed (owns : s.Owns due) {event : Numbered QueuedEvent}
    {fd : Nat} {node : File} (opened : s.handler = .opened event fd node)
    (stepped : s.createHandleForFd .failed = some next) :
    s.kernel.Later next.kernel ∧ next.kernel.opened = s.kernel.opened ∧
      next.listeners = s.listeners ∧ node ∈ next.kernel.closedFiles := by
  -- The failed pipe closes the node.
  cases Poker.moves_createHandleForFd stepped with
  | pipeFails opened' item =>
    obtain ⟨rfl, rfl, rfl⟩ := Handler.opened.inj (opened.symm.trans opened')
    have there := (owns.standing opened).1.there _ List.mem_cons_self
    refine ⟨Kernel.later_close there _ _, Kernel.opened_close _ _ _ _, rfl, ?_⟩
    have closed := Kernel.closedFiles_close there s.now .createHandleForFd
    exact closed ▸ List.mem_cons_self

/-- What is owned makes the rest of the property a matter of who has what. -/
theorem Poker.Owns.handlesOwned_iff (owns : s.Owns due) : s.HandlesOwned ↔ s.Watching := by
  -- No file is closed twice anyway, so being closed once is being closed at all.
  have once := fun file => @Kernel.Sound.closedOnce_iff _ file owns.sound
  constructor
  · intro owned
    refine ⟨fun client opened purpose => ?_, fun node opened purpose => ?_⟩
    · obtain ⟨server, node, isServer, serial, isNode, rest⟩ := owned.handles client opened purpose
      rw [owns.watched_iff, once, once] at rest
      exact ⟨server, node, isServer, serial, isNode, rest⟩
    · rcases owned.nodes node opened purpose with ⟨event, fd, hand, _⟩ | ⟨server, watched⟩ | closed
      · exact .inl ⟨event, fd, hand⟩
      · exact .inr (.inl ⟨server, (owns.watched_iff _ _).mp watched⟩)
      · exact .inr (.inr ((once node).mp closed))
  · intro watching
    refine ⟨owns.returns, fun client opened purpose => ?_, fun node opened purpose => ?_,
      fun listener _ next stepped => ?_, fun event fd node next hand stepped => ?_⟩
    · obtain ⟨server, node, isServer, serial, isNode, rest⟩ :=
        watching.handles client opened purpose
      rw [← owns.watched_iff, ← once, ← once] at rest
      exact ⟨server, node, isServer, serial, isNode, rest⟩
    · rcases watching.nodes node opened purpose with ⟨event, fd, hand⟩ | ⟨server, has⟩ | closed
      · have there := (owns.standing hand).1.there _ List.mem_cons_self
        exact .inl ⟨event, fd, hand, there, owns.sound.unclosed _ _ there⟩
      · exact .inr (.inl ⟨server, (owns.watched_iff _ _).mpr has⟩)
      · exact .inr (.inr ((once node).mpr closed))
    · -- What is owned after the call decides what is closed once after it.
      obtain ⟨_, went⟩ := owns.taken (show pokerStep s (.pipeCloseCb listener) = some next from
        stepped)
      have after := went.sound
      obtain ⟨_, _, _, _, handle, fd⟩ := owns.pipeCloseCb_closes stepped
      exact ⟨after.closedOnce_iff.mpr handle, after.closedOnce_iff.mpr fd⟩
    · obtain ⟨_, went⟩ := owns.taken (show pokerStep s (.createHandleForFd .failed) = some next
        from stepped)
      have after := went.sound
      obtain ⟨_, opened, _, closed⟩ := owns.createHandleForFd_failed hand stepped
      exact ⟨after.closedOnce_iff.mpr closed, opened⟩

/-- Nothing gets out of sight as long as every file that is let go of is closed. -/
theorem Poker.Watching.goOn (watching : s.Watching) (later : s.kernel.Later next.kernel)
    (clients : ∀ file ∈ next.kernel.opened, file.purpose = .client → file ∈ s.kernel.opened)
    (nodes : ∀ file ∈ next.kernel.opened, file.purpose = .node →
      file ∈ s.kernel.opened ∨ next.handler.WorksOn file)
    (hand : ∀ node, node.purpose = .node → s.handler.WorksOn node →
      next.handler.WorksOn node ∨ node ∈ next.kernel.closedFiles)
    (has : ∀ server node, s.Has server node → next.Has server node ∨
      server ∈ next.kernel.closedFiles ∧ node ∈ next.kernel.closedFiles) : next.Watching := by
  refine ⟨fun client opened purpose => ?_, fun node opened purpose => ?_⟩
  · -- No client end is new, and the files behind an old one are watched or closed for good.
    obtain ⟨server, node, isServer, serial, isNode, still | gone⟩ :=
      watching.handles client (clients client opened purpose) purpose
    · exact ⟨server, node, isServer, serial, isNode, has server node still⟩
    · exact ⟨server, node, isServer, serial, isNode,
        .inr ⟨later.closed _ gone.1, later.closed _ gone.2⟩⟩
  · -- A node is new in the hands of the looper thread, or it was somewhere before.
    rcases nodes node opened purpose with before | works
    · rcases watching.nodes node before purpose with works | ⟨server, still⟩ | closed
      · rcases hand node purpose works with works | closed
        · exact .inl works
        · exact .inr (.inr closed)
      · rcases has server node still with still | gone
        · exact .inr (.inl ⟨server, still⟩)
        · exact .inr (.inr gone.2)
      · exact .inr (.inr (later.closed _ closed))
    · exact .inl works

/-- A step that leaves the kernel and the listeners alone, and the node in hand. -/
theorem Poker.Watching.still (watching : s.Watching) (kernel : next.kernel = s.kernel)
    (listeners : next.listeners = s.listeners)
    (hand : ∀ node, node.purpose = .node → s.handler.WorksOn node → next.handler.WorksOn node) :
    next.Watching := by
  -- Nothing is opened or closed, and nobody stops listening.
  refine watching.goOn (kernel ▸ .refl _) (fun file opened _ => kernel ▸ opened)
    (fun file opened _ => .inl (kernel ▸ opened)) (fun node purpose works =>
    .inl (hand node purpose works)) fun server node has => .inl ?_
  obtain ⟨listener, listens, same⟩ := has
  exact ⟨listener, listeners ▸ listens, same⟩

/-- A step in which the kernel moves on, and neither a pipe nor a node is opened. -/
theorem Poker.Watching.withKernel (watching : s.Watching) (later : s.kernel.Later next.kernel)
    (listeners : next.listeners = s.listeners)
    (opened : ∀ file ∈ next.kernel.opened, file ∈ s.kernel.opened ∨
      file.purpose ≠ .client ∧ file.purpose ≠ .node)
    (hand : ∀ node, node.purpose = .node → s.handler.WorksOn node →
      next.handler.WorksOn node ∨ node ∈ next.kernel.closedFiles) : next.Watching := by
  -- What is opened meanwhile is neither a node nor a client.
  refine watching.goOn later (fun file member purpose => ?_) (fun file member purpose => ?_) hand
    fun server node has => .inl ?_
  · exact (opened file member).resolve_right fun other => other.1 purpose
  · exact .inl ((opened file member).resolve_right fun other => other.2 purpose)
  · obtain ⟨listener, listens, same⟩ := has
    exact ⟨listener, listeners ▸ listens, same⟩

/-- The looper thread that works on no node has none to lose. -/
theorem Handler.not_worksOn {handler : Handler} {P : Prop} {node : File}
    (other : ∀ event fd file, handler ≠ .opened event fd file) (works : handler.WorksOn node) :
    P := by
  obtain ⟨event, fd, is⟩ := works
  exact absurd is (other event fd node)

/-- A node that is opened is in the hands of the looper thread. -/
theorem Poker.Watching.opens (watching : s.Watching) {event : Numbered QueuedEvent} {fd : Nat}
    (running : s.handler = .running event) (free : s.kernel.fds fd = none) (purpose : Purpose)
    (ours : purpose ≠ .client) (setting : PmQosSetting) :
    ({ s with
      kernel := s.kernel.openPmQosNode fd purpose setting
      handler := .opened event fd (s.kernel.file purpose) } : Poker).Watching := by
  refine watching.goOn ((Kernel.later_open free purpose).trans (Kernel.later_write _ _))
    (fun file member isClient => ?_) (fun file member _ => ?_)
    (fun _ _ => Handler.not_worksOn (by rw [running]; exact fun _ _ _ => nofun)) fun _ _ => .inl
  · rcases List.mem_cons.mp member with rfl | member
    · exact absurd isClient ours
    · exact member
  · -- The new file is the only one that was not there.
    rcases List.mem_cons.mp member with rfl | member
    · exact .inr ⟨_, _, rfl⟩
    · exact .inl member

/-- Only a timed file is handed over to a timeout event. -/
theorem Poker.Owns.isTimed (owns : s.Owns due) {event : Numbered QueuedEvent} {fd : Nat}
    {file : File} {node : String} {setting : PmQosSetting} {timeout : Int}
    (opened : s.handler = .opened event fd file)
    (item : event.item = .pmQosOpenTimed node setting timeout) : file.purpose ≠ .node := by
  obtain ⟨_, _, knows⟩ := owns.standing opened
  unfold Handler.Knows at knows
  dsimp only at knows
  rw [item] at knows
  -- What was opened for a timed event was opened with a timeout.
  have timed : file.isTimed = true := knows
  intro isNode
  unfold File.isTimed at timed
  rw [isNode] at timed
  cases timed

/-- The files of a listener that is called are closed. -/
theorem Poker.Watching.pipeCloseCb (watching : s.Watching) (owns : s.Owns due)
    {listener : Listener} (stepped : s.pipeCloseCb listener = some next) : next.Watching := by
  obtain ⟨later, opened, handler, listeners, handle, fd⟩ := owns.pipeCloseCb_closes stepped
  refine watching.goOn later (fun file member _ => opened ▸ member)
    (fun file member _ => .inl (opened ▸ member))
    (fun node _ works => .inl (by rw [handler]; exact works)) fun server node has => ?_
  obtain ⟨other, listens, rfl, rfl⟩ := has
  -- Only the listener that was called has lost its files, and both of them are closed.
  by_cases same : other = listener
  · subst same
    exact .inr ⟨handle, fd⟩
  · exact .inl ⟨other, listeners ▸ (List.mem_erase_of_ne same).mpr listens, rfl, rfl⟩

/-- A listener that is added takes nothing from the others. -/
theorem Poker.Has.cons {server node : File} (has : s.Has server node) (listener : Listener) :
    ∃ other ∈ listener :: s.listeners, other.handleFile = server ∧ other.fdFile = node := by
  obtain ⟨other, listens, same⟩ := has
  exact ⟨other, List.mem_cons_of_mem _ listens, same⟩

/-- What a listener has was opened before. -/
theorem Poker.Owns.serial_of_has (owns : s.Owns due) {server node : File}
    (has : s.Has server node) : server.serial < s.kernel.opened.length := by
  obtain ⟨listener, _, _, _, there, _⟩ := (owns.watched_iff server node).mpr has
  exact owns.sound.serials server (owns.sound.known _ _ there)

/-- A pipe that was opened leaves its files watched precisely when the looper listens. -/
theorem Poker.watching_pipeOpens_iff (watching : s.Watching) (owns : s.Owns due)
    {event : Numbered QueuedEvent} {fd : Nat} {file : File} {caller client server : Nat}
    (listens : Bool) (opened : s.handler = .opened event fd file)
    (isNode : file.purpose = .node) :
    ({ s.wake caller client with
      kernel := (s.kernel.open_ client .client).open_ server .server
      listeners :=
        if listens then
          ⟨server, fd, (s.kernel.open_ client .client).file .server, file⟩ :: s.listeners
        else s.listeners
      handler := .deleting event } : Poker).Watching ↔ listens = true := by
  cases listens with
  | true =>
    -- The new handle has the new listener, which takes over the node.
    refine iff_of_true ⟨fun other member purpose => ?_, fun other member purpose => ?_⟩ rfl
    · rcases List.mem_cons.mp member with rfl | member
      · cases purpose
      · rcases List.mem_cons.mp member with rfl | member
        · exact ⟨_, file, rfl, rfl, isNode, .inl ⟨_, List.mem_cons_self, rfl, rfl⟩⟩
        · obtain ⟨server, node, isServer, serial, isNode, has | closed⟩ :=
            watching.handles other member purpose
          · exact ⟨server, node, isServer, serial, isNode, .inl (has.cons _)⟩
          · exact ⟨server, node, isServer, serial, isNode, .inr closed⟩
    · rcases List.mem_cons.mp member with rfl | member
      · cases purpose
      · rcases List.mem_cons.mp member with rfl | member
        · cases purpose
        · rcases watching.nodes other member purpose with ⟨_, _, is⟩ | ⟨server, has⟩ | closed
          · obtain ⟨_, _, rfl⟩ := Handler.opened.inj (opened.symm.trans is)
            exact .inr (.inl ⟨_, _, List.mem_cons_self, rfl, rfl⟩)
          · exact .inr (.inl ⟨server, has.cons _⟩)
          · exact .inr (.inr closed)
  | false =>
    -- The server end is new, so no listener has it, and it was not closed.
    refine iff_of_false (fun after => ?_) nofun
    obtain ⟨other, node, _, serial, _, has | closed⟩ := after.handles
      (s.kernel.file .client) (List.mem_cons_of_mem _ List.mem_cons_self) rfl
    · have before := owns.serial_of_has has
      have serial : other.serial = s.kernel.opened.length + 1 := serial
      omega
    · have before := owns.sound.serials other (owns.sound.past other closed.1)
      have serial : other.serial = s.kernel.opened.length + 1 := serial
      omega

/-- A step keeps the handles watched precisely when the looper listens if it has to. -/
theorem Poker.watching_taken_iff (watching : s.Watching) (owns : s.Owns due) {act : PokerAct}
    (stepped : pokerStep s act = some next) : next.Watching ↔ act.Listens := by
  -- Where the looper thread works on no node, it has none to lose.
  have idle : ∀ {handler : Handler}, s.handler = handler →
      (∀ event fd file, handler ≠ .opened event fd file) →
      ∀ {P : File → Prop} node, node.purpose = .node → s.handler.WorksOn node → P node :=
    fun stands other _ _ _ => Handler.not_worksOn (by rw [stands]; exact other)
  cases Poker.moves_of_step stepped with
  | tick => exact iff_of_true (watching.still rfl rfl fun _ _ => id) trivial
  | requestPmQosTimed => exact iff_of_true (watching.still rfl rfl fun _ _ => id) trivial
  | createPmQosHandle => exact iff_of_true (watching.still rfl rfl fun _ _ => id) trivial
  | pushTimed | pushHandle => exact iff_of_true (watching.still rfl rfl fun _ _ => id) trivial
  | returns => exact iff_of_true (watching.still rfl rfl fun _ _ => id) trivial
  | deliver resting _ _ =>
    exact iff_of_true (watching.still rfl rfl (idle resting fun _ _ _ => nofun)) trivial
  | lost handling _ =>
    exact iff_of_true (watching.still rfl rfl (idle handling fun _ _ _ => nofun)) trivial
  | found handling _ =>
    exact iff_of_true (watching.still rfl rfl (idle handling fun _ _ _ => nofun)) trivial
  | timedFails running _ =>
    exact iff_of_true (watching.still rfl rfl (idle running fun _ _ _ => nofun)) trivial
  | handleFails running _ =>
    exact iff_of_true (watching.still rfl rfl (idle running fun _ _ _ => nofun)) trivial
  | @timedOpens event node setting timeout fd running _ free =>
    exact iff_of_true (watching.opens running free (.timed s.now timeout) nofun setting) trivial
  | @handleOpens event node setting caller fd running _ free =>
    exact iff_of_true (watching.opens running free .node nofun setting) trivial
  | sendTimeout opened item =>
    refine iff_of_true (watching.still rfl rfl fun node isNode works => ?_) trivial
    -- The file that leaves the hands of the looper thread is a timed one.
    obtain ⟨_, _, is⟩ := works
    obtain ⟨_, _, rfl⟩ := Handler.opened.inj (opened.symm.trans is)
    exact absurd isNode (owns.isTimed opened item)
  | pipeFails opened _ =>
    obtain ⟨later, same, listeners, closed⟩ := owns.createHandleForFd_failed opened stepped
    refine iff_of_true (watching.withKernel later listeners (fun file member => .inl
      (same ▸ member)) fun other _ works => .inr ?_) trivial
    obtain ⟨_, _, is⟩ := works
    obtain ⟨_, _, rfl⟩ := Handler.opened.inj (opened.symm.trans is)
    exact closed
  | pipeOpens listens opened item _ _ _ =>
    exact Poker.watching_pipeOpens_iff watching owns listens opened (owns.isNode opened item)
  | timeoutRequest running item =>
    -- A timeout event closes a file that the looper thread has not opened itself.
    have there := (owns.timeout running item).1.there _ List.mem_cons_self
    refine iff_of_true (watching.withKernel (Kernel.later_close there _ _) rfl
      (fun file member => .inl ?_) (idle running fun _ _ _ => nofun)) trivial
    exact Kernel.opened_close _ _ _ _ ▸ member
  | delete deleting =>
    exact iff_of_true (watching.still rfl rfl (idle deleting fun _ _ _ => nofun)) trivial
  | pipeCloseCb => exact iff_of_true (watching.pipeCloseCb owns stepped) trivial
  | openElsewhere free =>
    refine iff_of_true (watching.withKernel (Kernel.later_open free _) rfl
      (fun file member => ?_) fun _ _ => .inl) trivial
    -- What other code opens is neither a client end nor a node.
    rcases List.mem_cons.mp member with rfl | member
    · exact .inr ⟨nofun, nofun⟩
    · exact .inl member
  | closeElsewhere there _ =>
    refine iff_of_true (watching.withKernel (Kernel.later_close there _ _) rfl
      (fun file member => .inl ?_) fun _ _ => .inl) trivial
    exact Kernel.opened_close _ _ _ _ ▸ member

end Watching

/--
In every run the files behind every handle are closed with it and once only, and no node is left
open without anyone to close it, precisely when the looper listens to every server end.
-/
theorem handlesOwned_always_iff (acts : List PokerAct) (final : Poker)
    (ran : run pokerStep .initial acts = some final) :
    Always pokerStep Poker.HandlesOwned .initial acts ↔
      Along pokerStep (fun _ act => act.Listens) .initial acts := by
  -- Which timeouts are left to come is not part of the state, so each step finds them anew.
  have kept : ∀ s act next, (∃ due, s.Owns due) → pokerStep s act = some next →
      ∃ due, next.Owns due := by
    rintro s act next ⟨due, owns⟩ stepped
    exact owns.taken stepped
  refine always_iff_along kept ?_ ⟨[], Poker.owns_initial⟩ ?_ ran
  · rintro s act next ⟨due, owns⟩ owned stepped
    obtain ⟨later, after⟩ := owns.taken stepped
    rw [after.handlesOwned_iff]
    exact Poker.watching_taken_iff (owns.handlesOwned_iff.mp owned) owns stepped
  · -- There are no handles before the first call.
    exact Poker.owns_initial.handlesOwned_iff.mpr ⟨List.forall_mem_nil _, List.forall_mem_nil _⟩

/-- A handle is asked for, with a looper that listens or not, and the caller closes it. -/
def handleCalls (listens : Bool) : List PokerAct :=
  let event : QueuedEvent := .pmQosOpenHandle "/dev/cpu_freq_min" (.default 1300000) 1
  [.createPmQosHandle 1 "/dev/cpu_freq_min" (.default 1300000), .pushEvent 1,
    .deliver ⟨0, 0, ⟨0, event⟩⟩, .removeEventByKey, .openPmQosNode (some 7),
    .createHandleForFd (.made 8 9 listens), .delete, .returns 1, .closeElsewhere 8]

/-- The run in which the looper listens, to its end. -/
def handleCallsClosed : List PokerAct :=
  handleCalls true ++ [.pipeCloseCb ⟨9, 7, ⟨2, .server⟩, ⟨0, .node⟩⟩]

/-- A client that closes its end of the pipe ends the listening. -/
theorem handlesOwned_always_iff_closed : ∃ final,
    run pokerStep .initial handleCallsClosed = some final ∧
      final.kernel.closings.map Closing.file = [⟨0, .node⟩, ⟨2, .server⟩, ⟨1, .client⟩] ∧
      (Always pokerStep Poker.HandlesOwned .initial handleCallsClosed ↔
        Along pokerStep (fun _ act => act.Listens) .initial handleCallsClosed) :=
  ⟨_, rfl, rfl, handlesOwned_always_iff handleCallsClosed _ rfl⟩

/-- Where `addFd` fails, the handle is returned and closed, and the node stays open for good. -/
theorem not_handlesOwned_unheard : ∃ final,
    run pokerStep .initial (handleCalls false) = some final ∧
      (∃ returned, run pokerStep .initial ((handleCalls false).take 7) = some returned ∧
        returned.callers 1 = .woken 8) ∧
      final.kernel.fds 7 = some ⟨0, .node⟩ ∧ final.listeners = [] ∧ final.messages = [] ∧
      ¬ final.HandlesOwned := by
  refine ⟨_, rfl, ⟨_, rfl, rfl⟩, rfl, rfl, rfl, fun owned => ?_⟩
  -- The node is in nobody's hands, has no listener and was never closed.
  rcases owned.nodes ⟨0, .node⟩ (by decide) rfl with ⟨event, fd, hand, _⟩ | ⟨_, watched⟩ | closed
  · cases hand
  · obtain ⟨_, listens, _⟩ := watched
    cases listens
  · have never : 0 = 1 := closed
    cases never

end Grouper.Power
