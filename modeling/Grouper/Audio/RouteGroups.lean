import Grouper.Audio.ActiveStreams

/-! With one stream a direction, running PCMs follow their routes and share a group of rates. -/

namespace Grouper.Audio

namespace Ctl

/-- At most one stream of each direction is open. -/
def Lone (c : Ctl) : Prop := ∀ s t, (c.stream s).isOpen = true → (c.stream t).isOpen = true →
  s.dir = t.dir → s = t

/-- A running stream holds the PCM its route asks for. -/
def OnRoute (c : Ctl) (s : StreamRef) : Prop :=
  (c.stream s).config = c.target s ∧
    ∃ pcm, (c.stream s).pcm = some pcm ∧ pcm.device = c.pcmDevice s.dir ∧
      pcm.config = (c.stream s).config

/-- What every run with one stream a direction keeps. -/
structure Consistent (c : Ctl) : Prop where
  settled : c.Settled
  exact_ : c.SlotsExact
  home : ∀ s, (c.stream s).isOpen = true → (c.stream s).home.rate = outSamplingRate
  onRoute : ∀ s, (c.stream s).standby = false → c.OnRoute s
  sameRate : ∀ s t, (c.stream s).standby = false → (c.stream t).standby = false →
    (c.stream s).config.rate = (c.stream t).config.rate

variable {c : Ctl}

/-- Whether a stream is on its route depends on the routes and on the stream. -/
theorem OnRoute.congr {d : Ctl} {s : StreamRef} (onRoute : c.OnRoute s)
    (device : d.device = c.device) (stream : d.stream s = c.stream s) : d.OnRoute s := by
  unfold OnRoute target pcmDevice sco at *
  rwa [device, stream]

/-- A running stream is open. -/
theorem Settled.isOpen (settled : c.Settled) {s : StreamRef}
    (running : (c.stream s).standby = false) : (c.stream s).isOpen = true := by
  -- A closed stream is in standby.
  cases isOpen : (c.stream s).isOpen with
  | true => rfl
  | false => exact absurd (settled.closed s isOpen) (by simp [running])

/-- A direction with an open stream in standby and no other open stream has an empty slot. -/
theorem Lone.slot_free (lone : c.Lone) (settled : c.Settled) (exact_ : c.SlotsExact)
    {s : StreamRef} (isOpen : (c.stream s).isOpen = true)
    (standby : (c.stream s).standby = true) : c.active s.dir = none := by
  cases slot : c.active s.dir with
  | none => rfl
  | some t =>
    -- The stream in the slot runs, so it is open and is no other than the one in standby.
    have sibling := settled.sorted _ t slot
    have running := (exact_ t).mpr (sibling ▸ slot)
    have same := lone t s (settled.isOpen running) isOpen sibling
    simp [same, standby] at running

/-- A stream is started at the rate of SCO or at the rate of its home configuration. -/
theorem target_rate {s : StreamRef} (home : (c.stream s).home.rate = outSamplingRate) :
    (c.target s).rate = scoSamplingRate ∨ (c.target s).rate = outSamplingRate := by
  -- The route decides between the two.
  unfold target
  split
  · exact Or.inl rfl
  · exact Or.inr home

/-- Between the two rates in use, not clashing is being equal. -/
theorem rate_eq_of_not_clash {starting running : Nat}
    (first : starting = scoSamplingRate ∨ starting = outSamplingRate)
    (second : running = scoSamplingRate ∨ running = outSamplingRate)
    (agree : rateClash starting running = false) : starting = running := by
  -- There are two rates, and they clash with each other.
  rcases first with rfl | rfl <;> rcases second with rfl | rfl
  · rfl
  · exact absurd agree (by decide)
  · exact absurd agree (by decide)
  · rfl

/-- Stopping a stream leaves everything about the streams that go on running. -/
theorem Consistent.stop (held : c.Consistent) (s : StreamRef) : (c.stop s).Consistent := by
  have going : ∀ t, ((c.stop s).stream t).standby = false → (c.stop s).stream t = c.stream t := by
    intro t running
    refine stop_stream_of_ne c s fun same => ?_
    simp [same] at running
  -- Stopping does not touch the configuration a stream was opened with.
  have homes : ∀ t, ((c.stop s).stream t).home = (c.stream t).home := by
    intro t
    by_cases same : t = s
    · subst same
      unfold Ctl.stop
      split <;> simp
    · rw [stop_stream_of_ne c s same]
  refine ⟨held.settled.stop s, held.exact_.stop s, fun t isOpen => ?_, fun t running => ?_,
    fun t u one two => ?_⟩
  · rw [homes]
    exact held.home t (by simpa using isOpen)
  · have same := going t running
    rw [same] at running
    exact (held.onRoute t running).congr (stop_device c s) same
  · rw [going t one, going u two]
    exact held.sameRate t u (going t one ▸ one) (going u two ▸ two)

/-- A stream in standby may change in every way that leaves it in standby. -/
theorem Consistent.modify (held : c.Consistent) (s : StreamRef)
    {change : StreamCtl → StreamCtl} (rested : (c.stream s).standby = true)
    (rests : (change (c.stream s)).standby = true)
    (home : (change (c.stream s)).isOpen = true →
      (change (c.stream s)).home.rate = outSamplingRate) : (c.modify s change).Consistent := by
  -- The stream that is changed does not run, so the running ones are as they were.
  have going : ∀ t, ((c.modify s change).stream t).standby = false →
      t ≠ s ∧ (c.modify s change).stream t = c.stream t := by
    intro t running
    have apart : t ≠ s := fun same => by
      subst same
      simp [rests] at running
    exact ⟨apart, modify_stream_of_ne c s apart change⟩
  refine ⟨held.settled.modify s change fun _ => rests,
    held.exact_.modify s (rests.trans rested.symm), fun t isOpen => ?_, fun t running => ?_,
    fun t u one two => ?_⟩
  · by_cases same : t = s
    · subst same
      simpa using home (by simpa using isOpen)
    · rw [modify_stream_of_ne c s same] at isOpen ⊢
      exact held.home t isOpen
  · obtain ⟨_, same⟩ := going t running
    rw [same] at running
    exact (held.onRoute t running).congr (by rfl) same
  · rw [(going t one).2, (going u two).2]
    exact held.sameRate t u ((going t one).2 ▸ one) ((going u two).2 ▸ two)

/-- Preparing a start of a stream in standby upsets nothing. -/
theorem Consistent.prepare (held : c.Consistent) {s : StreamRef}
    (rested : (c.stream s).standby = true) : (c.prepare s).Consistent := by
  -- The streams that clash are stopped behind the new configuration.
  have configured : (c.modify s fun x => { x with config := c.target s }).Consistent :=
    held.modify s rested rested (held.home s)
  exact stopClashing_preserves _ s Consistent configured fun t _ => configured.stop t

/-- After preparing a start, no stream of the other direction runs at a rate that clashes. -/
theorem Consistent.prepare_agrees (held : c.Consistent) {s t : StreamRef}
    (rested : (c.stream s).standby = true) (other : t.dir ≠ s.dir)
    (running : ((c.prepare s).stream t).standby = false) :
    rateClash ((c.prepare s).stream s).config.rate ((c.prepare s).stream t).config.rate =
      false := by
  -- The stream is configured while it is in standby, which upsets nothing.
  have configured : (c.modify s fun x => { x with config := c.target s }).Consistent :=
    held.modify s rested rested (held.home s)
  have turned : s.dir.other = t.dir := by
    revert other
    cases s <;> cases t <;> simp [StreamRef.dir, Dir.other]
  unfold Ctl.prepare at running ⊢
  generalize (c.modify s fun x => { x with config := c.target s }) = d at configured running ⊢
  unfold Ctl.stopClashing at running ⊢
  rw [turned] at running ⊢
  cases slot : d.active t.dir with
  | none =>
    -- Nothing of the other direction was running.
    simp only [slot] at running
    simp [(configured.exact_ t).mp running] at slot
  | some u =>
    simp only [slot] at running ⊢
    -- Slots are exact, so the stream in the slot is the only one that runs in its direction.
    have only : ∀ v, (d.stream v).standby = false → v.dir = t.dir → v = u := by
      intro v runs sibling
      have mine := (configured.exact_ v).mp runs
      rw [sibling, slot] at mine
      exact (Option.some.inj mine).symm
    split_ifs at running ⊢ with clash
    · -- The one stream that was running has been stopped.
      by_cases same : t = u
      · subst same
        simp at running
      · rw [stop_stream_of_ne d u same] at running
        exact absurd (only t running rfl) same
    · -- It goes on running because the rates were found to agree.
      rw [only t running rfl]
      simpa using clash

/-- A stream that starts into an empty slot runs on its route and at the rate of the other. -/
theorem Consistent.started (held : c.Consistent) {s : StreamRef}
    (rested : (c.stream s).standby = true) (isOpen : (c.stream s).isOpen = true)
    (free : c.active s.dir = none) (config : (c.stream s).config = c.target s)
    (agrees : ∀ t, t.dir ≠ s.dir → (c.stream t).standby = false →
      rateClash (c.stream s).config.rate (c.stream t).config.rate = false) :
    ((c.started s).wake s).Consistent := by
  have self : ((c.started s).wake s).stream s = { c.stream s with
      pcm := some (c.handle s)
      standby := false } := by simp [wake, Ctl.started]
  have others : ∀ t, t ≠ s → ((c.started s).wake s).stream t = c.stream t := fun t apart => by
    simp [wake, Ctl.started, Ctl.modify, apart]
  have settled : ((c.started s).wake s).Settled := by
    refine ⟨fun t closed => ?_, fun d t slot => ?_⟩
    · by_cases same : t = s
      · subst same
        simp [self, isOpen] at closed
      · rw [others t same] at closed ⊢
        exact held.settled.closed t closed
    · by_cases same : d = s.dir
      · subst same
        have it : s = t := by simpa [wake, Ctl.started] using slot
        rw [it]
      · exact held.settled.sorted d t (by simpa [wake, Ctl.started, same] using slot)
  -- Every stream that runs next to the new one is of the other direction.
  have crossing : ∀ t, (c.stream t).standby = false → t.dir ≠ s.dir := fun t running sibling => by
    have slot := (held.exact_ t).mp running
    simp [sibling, free] at slot
  have rate : ∀ t, (c.stream t).isOpen = true → (c.stream t).config = c.target t →
      (c.stream t).config.rate = scoSamplingRate ∨ (c.stream t).config.rate = outSamplingRate :=
    fun t opened set => by rw [set]; exact target_rate (held.home t opened)
  -- Both rates are among the two in use, and not clashing makes them equal.
  have equal : ∀ t, (c.stream t).standby = false →
      (c.stream s).config.rate = (c.stream t).config.rate := fun t running =>
    rate_eq_of_not_clash (rate s isOpen config)
      (rate t (held.settled.isOpen running) (held.onRoute t running).1)
      (agrees t (crossing t running) running)
  refine ⟨settled, (slotsExact_started held.settled held.exact_ rested).mpr free,
    fun t opened => ?_, fun t running => ?_, fun t u one two => ?_⟩
  · by_cases same : t = s
    · subst same
      rw [self]
      exact held.home t isOpen
    · rw [others t same] at opened ⊢
      exact held.home t opened
  · by_cases same : t = s
    · subst same
      have device : ((c.started t).wake t).device = c.device := rfl
      refine ⟨?_, c.handle t, by rw [self], rfl, by rw [self]; rfl⟩
      rw [self]
      simpa [target, sco, device, self] using config
    · rw [others t same] at running
      exact (held.onRoute t running).congr (by rfl) (others t same)
  · -- Of two running streams, none, one or both may be the new one.
    by_cases first : t = s <;> by_cases second : u = s
    · rw [first, second]
    · rw [others u second] at two
      rw [first, self, others u second]
      exact equal u two
    · rw [others t first] at one
      rw [second, self, others t first]
      exact (equal t one).symm
    · rw [others t first] at one
      rw [others u second] at two
      rw [others t first, others u second]
      exact held.sameRate t u one two

/-- Logs and counters have no part in the invariant. -/
theorem Consistent.congr {d : Ctl} (held : c.Consistent) (device : d.device = c.device)
    (active : d.active = c.active) (stream : d.stream = c.stream) : d.Consistent where
  settled := ⟨by rw [stream]; exact held.settled.closed, by rw [active]; exact held.settled.sorted⟩
  exact_ := held.exact_.congr (fun s => by rw [stream]) active
  home := by rw [stream]; exact held.home
  onRoute s running := by
    -- The device, the slots and the streams are all it looks at.
    rw [stream] at running
    exact (held.onRoute s running).congr device (by rw [stream])
  sameRate := by rw [stream]; exact held.sameRate

/-- A transfer of the only open stream of its direction keeps the invariant, however it ends. -/
theorem Consistent.transfer (held : c.Consistent) {s : StreamRef}
    (isOpen : (c.stream s).isOpen = true) (lone : c.Lone) (ready : Bool) (uses : Nat) :
    (c.transfer s ready uses).Consistent := by
  obtain ⟨standby, slot⟩ := held.settled.prepare_own s
  obtain ⟨config, opened, target⟩ := held.settled.prepare_config s
  unfold Ctl.transfer
  split_ifs with rested starts
  · have prepared := held.prepare rested
    -- Another stream in the slot would be a second open one.
    have free := lone.slot_free held.settled held.exact_ isOpen rested
    exact (prepared.started (standby.trans rested) (opened.trans isOpen) (slot.trans free)
      (config.trans target.symm) fun t other running =>
        held.prepare_agrees rested other running).congr (by rfl) (by rfl) (by rfl)
  · have prepared := held.prepare rested
    have kept : ((c.prepare s).modify s fun x => { x with
        pcm := some ((c.prepare s).handle s) }).Consistent :=
      prepared.modify s (standby.trans rested) (standby.trans rested) (prepared.home s)
    exact kept.congr (by rfl) (by rfl) (by rfl)
  · exact held.congr (by rfl) (by rfl) (by rfl)

/-- Devices may change while nothing of their direction runs, or within or outside SCO. -/
theorem Consistent.setDevice (held : c.Consistent) (d : Dir) (devices : Devices)
    (fits : ∀ s, s.dir = d → (c.stream s).standby = false →
      devices &&& d.allSco = c.device d &&& d.allSco) :
    Consistent { c with device := Function.update c.device d devices } where
  settled := ⟨held.settled.closed, held.settled.sorted⟩
  exact_ := held.exact_
  home := held.home
  onRoute s running := by
    have same : (Function.update c.device d devices) s.dir &&& s.dir.allSco =
        c.device s.dir &&& s.dir.allSco := by
      -- Only a running stream of the direction that is rerouted could notice.
      by_cases here : s.dir = d
      · rw [here, Function.update_self]
        exact fits s here running
      · rw [Function.update_of_ne here]
    have onRoute := held.onRoute s running
    unfold OnRoute target pcmDevice sco at onRoute ⊢
    dsimp only
    rwa [same]
  sameRate := held.sameRate

/-- With one stream a direction, a route change stops the running stream if SCO is involved. -/
theorem Consistent.route (held : c.Consistent) {s : StreamRef}
    (isOpen : (c.stream s).isOpen = true) (lone : c.Lone) (devices : Devices) :
    (c.route s devices).Consistent := by
  unfold Ctl.route
  dsimp only
  split_ifs with moves turns
  · refine (held.stop s).setDevice s.dir devices fun t sibling running => ?_
    -- The only stream of this direction that is open is the one that was stopped.
    have opened := (held.settled.stop s).isOpen running
    have same := lone t s (by simpa using opened) isOpen sibling
    simp [same] at running
  · refine held.setDevice s.dir devices fun t _ _ => ?_
    exact BitVec.xor_eq_zero_iff.mp (not_not.mp turns)
  · exact held

/-- With one stream in each direction every operation keeps the streams consistent. -/
theorem Consistent.apply (held : c.Consistent) (lone : c.Lone) {a : CtlAct}
    (allowed : a.Allowed c) : (c.apply a).Consistent := by
  -- By the operation; a transfer and a route change have a lemma each.
  cases a with
  | open_ s config home =>
    rw [Ctl.apply]
    exact held.modify s (held.settled.closed s allowed.1) (by rfl) fun _ => allowed.2
  | close s =>
    rw [Ctl.apply]
    exact (held.stop s).modify s (stop_stream_self c s) (stop_stream_self c s)
      fun opened => by simp at opened
  | stop s => exact held.stop s
  | transfer s ready uses => exact held.transfer allowed lone ready uses
  | route s devices => exact held.route allowed lone devices
  | query s => exact held.congr (by rfl) (by rfl) (by rfl)
  | idle => exact held

end Ctl

variable {ρ : Type}

/-- At most one output stream and at most one input stream are open. -/
def AtMostOneEach (w : World ρ) : Prop :=
  (∀ o p, w.outOpen o = true → w.outOpen p = true → o = p) ∧
    ∀ i j, w.inOpen i = true → w.inOpen j = true → i = j

/-- Two rates belong to the same group. -/
def SameGroup (one two : Nat) : Prop :=
  (one % 8000 = 0 ∧ two % 8000 = 0) ∨ (one % 11025 = 0 ∧ two % 11025 = 0)

/-- Running streams hold the PCM of their route, and two running PCMs share a group of rates. -/
structure RouteConsistent (w : World ρ) : Prop where
  output : ∀ o, w.outOpen o = true → (w.outs o).standby = false →
    ∃ pcm, (w.outs o).pcm = some pcm ∧
      pcm.device = (if outScoOn w.adev then pcmDeviceSco else pcmDevice) ∧
        (pcm.config = pcmConfigSco ↔ outScoOn w.adev = true)
  input : ∀ i, w.inOpen i = true → (w.ins i).standby = false →
    ∃ pcm, (w.ins i).pcm = some pcm ∧
      pcm.device = (if inScoOn w.adev then pcmDeviceSco else pcmDevice) ∧
        (pcm.config = pcmConfigSco ↔ inScoOn w.adev = true)
  group : ∀ o i, w.outOpen o = true → (w.outs o).standby = false →
    w.inOpen i = true → (w.ins i).standby = false →
    ∃ out in_, (w.outs o).pcm = some out ∧ (w.ins i).pcm = some in_ ∧
      SameGroup out.config.rate in_.config.rate

/-- One stream in each direction, seen from the control part and from the device. -/
theorem lone_iff {w : World ρ} : w.ctl.Lone ↔ AtMostOneEach w := by
  -- By the directions of the two streams, which must be the same.
  constructor
  · intro lone
    exact ⟨fun o p one two => StreamRef.output.inj (lone (.output o) (.output p) one two rfl),
      fun i j one two => StreamRef.input.inj (lone (.input i) (.input j) one two rfl)⟩
  · intro single s t one two sibling
    cases s with
    | output o =>
      cases t with
      | output p => exact congrArg _ (single.1 o p one two)
      | input j => simp [StreamRef.dir] at sibling
    | input i =>
      cases t with
      | output p => simp [StreamRef.dir] at sibling
      | input j => exact congrArg _ (single.2 i j one two)

/-- A fresh device runs no stream. -/
theorem consistent_initial (hardware : Settings) :
    (World.initial hardware : World ρ).ctl.Consistent where
  settled := settled_initial hardware
  exact_ := (activeExact_iff (settled_initial hardware)).mp (activeExact_initial hardware)
  home s opened := by
    -- No stream runs.
    cases s <;> simp [World.ctl, World.initial, StreamOut.ctl, StreamIn.ctl] at opened
  onRoute s running := by
    cases s <;> simp [World.ctl, World.initial, StreamOut.ctl, StreamIn.ctl, StreamOut.opened,
      StreamIn.opened] at running
  sameRate s t running _ := by
    cases s <;> simp [World.ctl, World.initial, StreamOut.ctl, StreamIn.ctl, StreamOut.opened,
      StreamIn.opened] at running

/-- A stream on its route holds the SCO configuration exactly on the SCO route. -/
theorem Ctl.Consistent.pcm {c : Ctl} (held : c.Consistent) {s : StreamRef}
    (running : (c.stream s).standby = false) : ∃ pcm, (c.stream s).pcm = some pcm ∧
      pcm.device = (if c.sco s.dir then pcmDeviceSco else Audio.pcmDevice) ∧
        (pcm.config = pcmConfigSco ↔ c.sco s.dir = true) ∧
          pcm.config.rate = (c.stream s).config.rate := by
  obtain ⟨config, pcm, holds, device, set⟩ := held.onRoute s running
  refine ⟨pcm, holds, device, ?_, by rw [set]⟩
  have home := held.home s (held.settled.isOpen running)
  rw [set, config, Ctl.target]
  split
  · -- The home configuration has the rate of the main PCM, which is not that of SCO.
    simp [*]
  · have apart : (c.stream s).home ≠ pcmConfigSco := fun same => by
      rw [same] at home
      exact absurd home (by decide)
    simp [*]

/-- The invariant says of the streams what the two parts of route consistency ask for. -/
theorem routeConsistent_of_consistent {w : World ρ} (held : w.ctl.Consistent) :
    RouteConsistent w where
  output o _ running := by
    obtain ⟨pcm, holds, device, config, _⟩ := held.pcm (s := .output o) running
    exact ⟨pcm, holds, device, config⟩
  input i _ running := by
    obtain ⟨pcm, holds, device, config, _⟩ := held.pcm (s := .input i) running
    exact ⟨pcm, holds, device, config⟩
  group o i _ outRuns _ inRuns := by
    obtain ⟨out, outHolds, _, _, outRate⟩ := held.pcm (s := .output o) outRuns
    obtain ⟨in_, inHolds, _, _, inRate⟩ := held.pcm (s := .input i) inRuns
    refine ⟨out, in_, outHolds, inHolds, ?_⟩
    have config := (held.onRoute (.output o) outRuns).1
    -- The two rates in use belong to a group each, and equal rates to the same one.
    have rate := Ctl.target_rate (held.home (.output o) (held.settled.isOpen outRuns))
    rw [outRate, inRate, ← held.sameRate (.output o) (.input i) outRuns inRuns, config]
    rcases rate with low | high
    · exact Or.inl (by rw [low]; decide)
    · exact Or.inr (by rw [high]; decide)

/-- While one stream of each direction is open at most, every state of a run is route consistent. -/
theorem routeConsistent_always (R : ResamplerLib ρ) (hardware : Settings) (acts : List Act)
    (single : Always (step R) AtMostOneEach (.initial hardware) acts) :
    Always (step R) RouteConsistent (.initial hardware) acts := by
  -- Seen through the control part, every call is an operation that keeps it.
  have kept : Always (step R) (fun w : World ρ => w.ctl.Consistent) (.initial hardware) acts := by
    refine always_of_along (fun w act next held lone stepped => ?_)
      (consistent_initial hardware) single.along
    obtain ⟨uses, allowed, ended⟩ := ctl_step R stepped
    rw [ended]
    exact held.apply (lone_iff.mpr lone) allowed
  exact kept.mono fun w held => routeConsistent_of_consistent held

/-- A stereo period of silence to which the hardware makes no objection. -/
def InReadEnv.fine : InReadEnv where
  start := { pcmIsReady := true, createResampler := true, malloc := some fun _ => 0 }
  pcmRead _ := { ret := 0, delivered := 0, data := fun _ => 0 }
  fuel := 1

/-- One stream of each direction, of which the output moves to SCO while the input is running. -/
def movesToSco : List Act :=
  [.openOutputStream 0 true ⟨outSamplingRate, audioChannelOutStereo⟩,
    .openInputStream 0 true ⟨inSamplingRate, audioChannelInMono⟩ false,
    .outWrite 0 (fun _ => 0) 2048 .fine, .inRead 0 ⟨fun _ => 0, 0⟩ 2048 .fine,
    .outSetParameters 0 ⟨0, 0x10⟩, .outWrite 0 (fun _ => 0) 2048 .fine]

/-- In that run one stream of each direction is open, and every state of it is consistent. -/
theorem routeConsistent_always_moving :
    Always (step .nearest) RouteConsistent (.initial fun _ => none) movesToSco := by
  -- No more than one stream is open in each direction at any of the calls.
  have none_ : ∀ o p : Nat, (fun _ => false) o = true → (fun _ => false) p = true → o = p :=
    fun o p one => by simp at one
  have one_ : ∀ o p : Nat, Function.update (fun _ => false) 0 true o = true →
      Function.update (fun _ => false) 0 true p = true → o = p := by
    intro o p one two
    simp only [Function.update_apply] at one two
    simp_all
  refine routeConsistent_always _ _ _ ?_
  refine ⟨⟨none_, none_⟩, fun w stepped => ?_⟩
  obtain rfl := Option.some.inj stepped
  refine ⟨⟨one_, none_⟩, fun w stepped => ?_⟩
  obtain rfl := Option.some.inj stepped
  refine ⟨⟨one_, one_⟩, fun w stepped => ?_⟩
  obtain rfl := Option.some.inj stepped
  refine ⟨⟨one_, one_⟩, fun w stepped => ?_⟩
  obtain rfl := Option.some.inj stepped
  refine ⟨⟨one_, one_⟩, fun w stepped => ?_⟩
  obtain rfl := Option.some.inj stepped
  refine ⟨⟨one_, one_⟩, fun w stepped => ?_⟩
  obtain rfl := Option.some.inj stepped
  exact ⟨one_, one_⟩

end Grouper.Audio
