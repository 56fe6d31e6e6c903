import Grouper.Audio.Governed
import Grouper.Audio.MixerState

/-! Threads that call the HAL at once leave all that is governed as if they had taken turns. -/

namespace Grouper.Audio

open Function (update)
open Prog (acquire release when)

variable {ρ : Type}

/-- Two devices are alike in what the device mutex governs. -/
structure AudioDevice.Alike (one two : AudioDevice) : Prop where
  routing : one.routing = two.routing
  activeOut : one.activeOut = two.activeOut
  activeIn : one.activeIn = two.activeIn

/-- Worlds that agree in what is governed have devices that are alike. -/
theorem governed_adev {v w : World ρ} (same : v.governed = w.governed) : v.adev.Alike w.adev :=
  ⟨governed_routing same, governed_activeOut same, governed_activeIn same⟩

/-- Alike changes of the device keep two worlds the same in what is governed. -/
theorem governed_setAdev {v w : World ρ} (same : v.governed = w.governed)
    {one two : AudioDevice} (alike : one.Alike two) :
    World.governed { v with adev := one } = World.governed { w with adev := two } := by
  -- What the device adds to what is governed is the routing and the two slots.
  have stream := governed_stream same
  have opened := governed_opened same
  have log := governed_log same
  refine governed_eq alike.routing (funext fun d => ?_) ?_ opened log
  · cases d with
    | playback => exact congrArg (Option.map StreamRef.output) alike.activeOut
    | capture => exact congrArg (Option.map StreamRef.input) alike.activeIn
  · exact stream

/-- The same call logged in both worlds is governed alike. -/
theorem governed_setCalls {v w : World ρ} (same : v.governed = w.governed) (call : Call)
    {before after : Nat} (count : before = after) :
    World.governed { v with opened := before, calls := call :: v.calls } =
      World.governed { w with opened := after, calls := call :: w.calls } := by
  -- The call adds the same event to both histories, or to neither.
  have routing := governed_routing same
  have active := governed_active same
  have stream := governed_stream same
  have log := governed_log same
  refine governed_eq routing active stream count ?_
  simp only [World.handleLog, List.filterMap_cons] at log ⊢
  split
  · exact log
  · simp [List.filter_cons, log]

section Pieces

/-- What the owner of the device mutex does goes as in the call made alone. -/
abbrev InTurn {α β : Type} (p : Hal ρ α) (q : Hal ρ β) (post : α → β → Prop) : Prop :=
  Prog.Follows Mutex.adev World.governed p q post

/-- Both runs read output streams that are alike. -/
theorem inTurn_getOut (o : Nat) :
    InTurn (getOut o : Hal ρ (StreamOut ρ)) (getOut o) StreamOut.Alike :=
  Prog.follows_state.bind fun _ _ same => Prog.follows_pure (governed_out same o).1

/-- Both runs read input streams that are alike. -/
theorem inTurn_getIn (i : Nat) :
    InTurn (getIn i : Hal ρ (StreamIn ρ)) (getIn i) StreamIn.Alike :=
  Prog.follows_state.bind fun _ _ same => Prog.follows_pure (governed_in same i).1

/-- Both runs read devices that are alike. -/
theorem inTurn_getAdev : InTurn (getAdev : Hal ρ AudioDevice) getAdev AudioDevice.Alike :=
  Prog.follows_state.bind fun _ _ same => Prog.follows_pure (governed_adev same)

/-- A change that keeps output streams alike goes as in the call made alone. -/
theorem inTurn_modifyOut (o : Nat) {f g : StreamOut ρ → StreamOut ρ}
    (alike : ∀ one two, one.Alike two → (f one).Alike (g two)) :
    InTurn (modifyOut o f) (modifyOut o g) fun _ _ => True :=
  Prog.follows_update fun _ _ same => governed_setOut same o (alike _ _ (governed_out same o).1)

/-- So does one that keeps input streams alike. -/
theorem inTurn_modifyIn (i : Nat) {f g : StreamIn ρ → StreamIn ρ}
    (alike : ∀ one two, one.Alike two → (f one).Alike (g two)) :
    InTurn (modifyIn i f) (modifyIn i g) fun _ _ => True :=
  Prog.follows_update fun _ _ same => governed_setIn same i (alike _ _ (governed_in same i).1)

/-- And one that keeps devices alike. -/
theorem inTurn_modifyAdev {f g : AudioDevice → AudioDevice}
    (alike : ∀ one two, one.Alike two → (f one).Alike (g two)) :
    InTurn (modifyAdev f : Hal ρ Unit) (modifyAdev g) fun _ _ => True :=
  Prog.follows_update fun _ _ same => governed_setAdev same (alike _ _ (governed_adev same))

/-- The same call of the kernel is made in both runs. -/
theorem inTurn_record (call : Call) :
    InTurn (record call : Hal ρ Unit) (record call) fun _ _ => True := by
  refine Prog.follows_update fun s t same => ?_
  exact governed_setCalls same call (governed_opened same)

/-- The next handle is the same, because the count of handles is governed. -/
theorem inTurn_pcmOpen (stream : StreamRef) (device : Nat) (config : PcmConfig) :
    InTurn (pcmOpen stream device config : Hal ρ Pcm) (pcmOpen stream device config) Eq := by
  -- Both worlds have opened as many handles, so the new one has the same number.
  refine Prog.follows_state.bind fun s t same => ?_
  have next := governed_opened same
  rw [next]
  refine (Prog.follows_update fun v w alike => ?_).bind fun _ _ _ => Prog.follows_pure rfl
  exact governed_setCalls alike _ (congrArg (· + 1) (governed_opened alike))

/-- Both runs find the stream in standby, or neither does. -/
theorem inTurn_doOutStandby (o : Nat) :
    InTurn (doOutStandby o : Hal ρ Unit) (doOutStandby o) fun _ _ => True := by
  refine .bind (inTurn_getOut o) fun one two alike => ?_
  refine .when (by rw [alike.standby]) ?_
  rw [alike.pcm]
  -- Each change is made of alike streams, or of alike devices, and leaves them alike.
  refine .bind (inTurn_record _) fun _ _ _ => ?_
  refine .bind (inTurn_modifyOut o fun _ _ was => ⟨was.standby, rfl, was.config⟩) fun _ _ _ => ?_
  refine .bind (inTurn_modifyAdev fun _ _ was => ⟨was.routing, rfl, was.activeIn⟩) fun _ _ _ => ?_
  refine .bind (inTurn_modifyOut o fun _ _ was => ⟨was.standby, was.pcm, was.config⟩)
    fun _ _ _ => ?_
  refine .bind (inTurn_modifyOut o fun _ _ was => ⟨was.standby, was.pcm, was.config⟩)
    fun _ _ _ => ?_
  exact inTurn_modifyOut o fun _ _ was => ⟨rfl, was.pcm, was.config⟩

/-- An input stream is put into standby in both runs, or in neither. -/
theorem inTurn_doInStandby (i : Nat) :
    InTurn (doInStandby i : Hal ρ Unit) (doInStandby i) fun _ _ => True := by
  -- Each change is made of alike streams, or of alike devices, and leaves them alike.
  refine .bind (inTurn_getIn i) fun one two alike => ?_
  refine .when (by rw [alike.standby]) ?_
  rw [alike.pcm]
  refine .bind (inTurn_record _) fun _ _ _ => ?_
  refine .bind (inTurn_modifyIn i fun _ _ was =>
    ⟨was.standby, rfl, was.pcmConfig, was.pcmConfigNonSco⟩) fun _ _ _ => ?_
  refine .bind (inTurn_modifyAdev fun _ _ was => ⟨was.routing, was.activeOut, rfl⟩) fun _ _ _ => ?_
  refine .bind (inTurn_modifyIn i fun _ _ was =>
    ⟨was.standby, was.pcm, was.pcmConfig, was.pcmConfigNonSco⟩) fun _ _ _ => ?_
  refine .bind (inTurn_modifyIn i fun _ _ was =>
    ⟨was.standby, was.pcm, was.pcmConfig, was.pcmConfigNonSco⟩) fun _ _ _ => ?_
  exact inTurn_modifyIn i fun _ _ was => ⟨rfl, was.pcm, was.pcmConfig, was.pcmConfigNonSco⟩

/-- A mutex other than the device's is taken, or released, in both runs. -/
theorem inTurn_acquire (mutex : Mutex) (other : mutex ≠ .adev) :
    InTurn (acquire mutex : Hal ρ Unit) (acquire mutex) fun _ _ => True :=
  (ungoverned_acquire mutex other).follows (ungoverned_acquire mutex other)

/-- The mutex of a stream is given back in both runs. -/
theorem inTurn_release (mutex : Mutex) (other : mutex ≠ .adev) :
    InTurn (release mutex : Hal ρ Unit) (release mutex) fun _ _ => True :=
  (ungoverned_release mutex other).follows (ungoverned_release mutex other)

/-- Whatever is called while the device mutex is held is stopped in both runs, or in neither. -/
theorem inTurn_stopClashingIn (o : Nat) :
    InTurn (stopClashingIn o : Hal ρ Unit) (stopClashingIn o) fun _ _ => True := by
  -- The slot is governed, and so are the two configurations that are compared.
  refine .bind inTurn_getAdev fun adev other alike => ?_
  rw [alike.activeIn]
  cases other.activeIn with
  | none => exact Prog.follows_pure trivial
  | some i =>
    refine .bind (inTurn_acquire (.in_ i) nofun) fun _ _ _ => ?_
    refine .bind (inTurn_getOut o) fun out _ outs => ?_
    refine .bind (inTurn_getIn i) fun in_ _ ins => ?_
    rw [outs.config, ins.pcmConfig]
    refine .bind (.when Iff.rfl (inTurn_doInStandby i)) fun _ _ _ => ?_
    exact inTurn_release (.in_ i) nofun

/-- And an output stream that clashes is stopped in both runs, or in neither. -/
theorem inTurn_stopClashingOut (i : Nat) :
    InTurn (stopClashingOut i : Hal ρ Unit) (stopClashingOut i) fun _ _ => True := by
  -- The slot is governed, and so are the two configurations that are compared.
  refine .bind inTurn_getAdev fun adev other alike => ?_
  rw [alike.activeOut]
  cases other.activeOut with
  | none => exact Prog.follows_pure trivial
  | some o =>
    refine .bind (inTurn_acquire (.out o) nofun) fun _ _ _ => ?_
    refine .bind (inTurn_getIn i) fun in_ _ ins => ?_
    refine .bind (inTurn_getOut o) fun out _ outs => ?_
    rw [outs.config, ins.pcmConfig]
    refine .bind (.when Iff.rfl (inTurn_doOutStandby o)) fun _ _ _ => ?_
    exact inTurn_release (.out o) nofun

/-- Opening a PCM comes to the same result, and leaves the stream with the same handle. -/
theorem inTurn_openOutputPcm (R : ResamplerLib ρ) (o device : Nat) (env : StartEnv) :
    InTurn (openOutputPcm R o device env) (openOutputPcm R o device env) Eq := by
  refine .bind (inTurn_getOut o) fun out other alike => ?_
  dsimp only
  rw [alike.config]
  refine .bind (inTurn_pcmOpen _ _ _) fun pcm _ same => ?_
  subst same
  refine .bind (inTurn_modifyOut o fun _ _ was => ⟨was.standby, rfl, was.config⟩) fun _ _ _ => ?_
  refine .bind (inTurn_record _) fun _ _ _ => ?_
  refine .ite Iff.rfl ?_ ?_
  · exact .bind (inTurn_record _) fun _ _ _ => Prog.follows_pure rfl
  · refine .bind (.when Iff.rfl ?_) fun _ _ _ => ?_
    · -- The resampler and its buffer are the stream's own.
      refine .bind (inTurn_modifyOut o fun _ _ was => ⟨was.standby, was.pcm, was.config⟩)
        fun _ _ _ => ?_
      refine .bind (inTurn_record _) fun _ _ _ => ?_
      exact inTurn_modifyOut o fun _ _ was => ⟨was.standby, was.pcm, was.config⟩
    · refine .bind (inTurn_modifyAdev fun _ _ was => ⟨was.routing, rfl, was.activeIn⟩)
        fun _ _ _ => Prog.follows_pure rfl

/-- Whether an input stream needs a resampler is not governed, and neither is the resampler. -/
theorem inTurn_openInputPcm (R : ResamplerLib ρ) (i device : Nat) (env : StartEnv) :
    InTurn (openInputPcm R i device env) (openInputPcm R i device env) Eq := by
  -- The fork at the check whether the PCM is ready is the environment's, so it is the same.
  refine .bind (inTurn_getIn i) fun in_ other alike => ?_
  dsimp only
  rw [alike.pcmConfig]
  refine .bind (inTurn_pcmOpen _ _ _) fun pcm _ same => ?_
  subst same
  refine .bind (inTurn_modifyIn i fun _ _ was =>
    ⟨was.standby, rfl, was.pcmConfig, was.pcmConfigNonSco⟩) fun _ _ _ => ?_
  refine .bind (inTurn_record _) fun _ _ _ => ?_
  refine .ite Iff.rfl ?_ ?_
  · exact .bind (inTurn_record _) fun _ _ _ => Prog.follows_pure rfl
  · have resampler : ∀ {f : StreamIn ρ → StreamIn ρ} (need : Prop) [Decidable need],
        (∀ in_, (f in_).Alike in_) → Ungoverned (when need (modifyIn i f)) :=
      fun need _ kept => .when (InServing.ungoverned (inServing_modifyIn kept))
    refine .bind (Prog.Aloof.follows (resampler _ fun _ => ⟨rfl, rfl, rfl, rfl⟩)
      (resampler _ fun _ => ⟨rfl, rfl, rfl, rfl⟩)) fun _ _ _ => ?_
    refine .bind (inTurn_record _) fun _ _ _ => ?_
    refine .bind
      (inTurn_modifyIn i fun _ _ was => ⟨was.standby, was.pcm, was.pcmConfig, was.pcmConfigNonSco⟩)
      fun _ _ _ => ?_
    exact .bind (inTurn_modifyAdev fun _ _ was => ⟨was.routing, was.activeOut, rfl⟩)
      fun _ _ _ => Prog.follows_pure rfl

/-- The route is governed, so both runs start the same PCM. -/
theorem inTurn_startOutIfStandby (R : ResamplerLib ρ) (o : Nat) (env : StartEnv) :
    InTurn (startOutIfStandby R o env) (startOutIfStandby R o env) Eq := by
  -- The flag decides whether there is a start, and it is governed.
  have start : InTurn (startOutputStream R o env) (startOutputStream R o env) Eq := by
    refine .bind inTurn_getAdev fun adev other alike => ?_
    have sco : outScoOn adev = outScoOn other := by
      have device := congrArg Routing.outDevice alike.routing
      simp only [AudioDevice.routing] at device
      rw [outScoOn, outScoOn, device]
    rw [sco]
    refine .bind (inTurn_modifyOut o fun _ _ was => ?_) fun _ _ _ => ?_
    · unfold StreamOut.configure
      split
      · exact ⟨was.standby, was.pcm, rfl⟩
      · exact ⟨was.standby, was.pcm, rfl⟩
    · exact .bind (inTurn_stopClashingIn o) fun _ _ _ => inTurn_openOutputPcm R o _ env
  refine .bind (inTurn_getOut o) fun out other alike => ?_
  refine .ite (by rw [alike.standby]) ?_ ?_
  · refine .bind start fun ret _ same => ?_
    subst same
    refine .bind (.when Iff.rfl ?_) fun _ _ _ => Prog.follows_pure rfl
    exact inTurn_modifyOut o fun _ _ was => ⟨rfl, was.pcm, was.config⟩
  · exact Prog.follows_pure rfl

/-- The route is governed, so both runs capture from the same PCM. -/
theorem inTurn_startInIfStandby (R : ResamplerLib ρ) (i : Nat) (env : StartEnv) :
    InTurn (startInIfStandby R i env) (startInIfStandby R i env) Eq := by
  -- The flag decides whether there is a start, and it is governed.
  have start : InTurn (startInputStream R i env) (startInputStream R i env) Eq := by
    refine .bind inTurn_getAdev fun adev other alike => ?_
    have sco : inScoOn adev = inScoOn other := by
      have device := congrArg Routing.inDevice alike.routing
      simp only [AudioDevice.routing] at device
      rw [inScoOn, inScoOn, device]
    rw [sco]
    refine .bind (inTurn_modifyIn i fun _ _ was => ?_) fun _ _ _ => ?_
    · unfold StreamIn.configure
      split
      · exact ⟨was.standby, was.pcm, rfl, was.pcmConfigNonSco⟩
      · exact ⟨was.standby, was.pcm, was.pcmConfigNonSco, was.pcmConfigNonSco⟩
    · exact .bind (inTurn_stopClashingOut i) fun _ _ _ => inTurn_openInputPcm R i _ env
  refine .bind (inTurn_getIn i) fun in_ other alike => ?_
  refine .ite (by rw [alike.standby]) ?_ ?_
  · refine .bind start fun ret _ same => ?_
    subst same
    refine .bind (.when Iff.rfl ?_) fun _ _ _ => Prog.follows_pure rfl
    exact inTurn_modifyIn i fun _ _ was => ⟨rfl, was.pcm, was.pcmConfig, was.pcmConfigNonSco⟩
  · exact Prog.follows_pure rfl

/-- The mixer follows the routes, which are governed, from whatever it was. -/
theorem inTurn_selectDevices :
    InTurn (modifyAdev selectDevices : Hal ρ Unit) (modifyAdev selectDevices)
      fun _ _ => True := by
  refine inTurn_modifyAdev fun one two alike => ⟨?_, alike.activeOut, alike.activeIn⟩
  rw [routing_selectDevices, routing_selectDevices, alike.routing]

/-- A change of a route goes the same way, with the standby in front of it and the mixer after. -/
theorem inTurn_changeRoute {stop : Hal ρ Unit} (stopped : InTurn stop stop fun _ _ => True)
    (isNew stops : AudioDevice → Prop) [DecidablePred isNew] [DecidablePred stops]
    (change : AudioDevice → AudioDevice)
    (alike : ∀ one two : AudioDevice, one.Alike two →
      (isNew one ↔ isNew two) ∧ (stops one ↔ stops two) ∧ (change one).Alike (change two)) :
    InTurn (do
        let adev ← getAdev
        when (isNew adev) do
          when (stops adev) stop
          modifyAdev change
          modifyAdev selectDevices : Hal ρ Unit)
      (do
        let adev ← getAdev
        when (isNew adev) do
          when (stops adev) stop
          modifyAdev change
          modifyAdev selectDevices) fun _ _ => True := by
  -- Both tests are made of what is governed, so they come out alike.
  refine .bind inTurn_getAdev fun one two same => ?_
  refine .when (alike one two same).1 ?_
  refine .bind (.when (alike one two same).2.1 stopped) fun _ _ _ => ?_
  refine .bind (inTurn_modifyAdev fun a b was => (alike a b was).2.2) fun _ _ _ => ?_
  exact inTurn_selectDevices

end Pieces

namespace Ctl

variable (c : Ctl) (s t : StreamRef)

/-- Of all that control does, only opening and closing change which streams are open. -/
theorem stopClashing_isOpen :
    ((c.stopClashing s).stream t).isOpen = (c.stream t).isOpen :=
  stopClashing_preserves c s (fun d => (d.stream t).isOpen = (c.stream t).isOpen) rfl
    fun u _ => stop_isOpen c u t

/-- A change that keeps it open leaves open what was open. -/
theorem modify_isOpen (change : StreamCtl → StreamCtl) (kept : ∀ x, (change x).isOpen = x.isOpen) :
    ((c.modify s change).stream t).isOpen = (c.stream t).isOpen := by
  -- The stream that is changed, and every other one.
  by_cases same : t = s
  · subst same
    rw [modify_stream_self, kept]
  · rw [modify_stream_of_ne c s same]

/-- A transfer opens and closes no stream. -/
theorem transfer_isOpen (ready : Bool) (uses : Nat) :
    ((c.transfer s ready uses).stream t).isOpen = (c.stream t).isOpen := by
  -- Preparing, handing a PCM over and clearing the flag keep what is open.
  have prepared : ((c.prepare s).stream t).isOpen = (c.stream t).isOpen := by
    rw [prepare, stopClashing_isOpen]
    exact modify_isOpen c s t _ fun _ => rfl
  have handed : ∀ pcm, (((c.prepare s).modify s fun x => { x with pcm := pcm }).stream t).isOpen =
      (c.stream t).isOpen := by
    intro pcm
    rw [modify_isOpen (c.prepare s) s t (fun x => { x with pcm := pcm }) fun _ => rfl, prepared]
  unfold transfer
  split_ifs
  · exact (modify_isOpen _ s t (fun x => { x with standby := false }) fun _ => rfl).trans
      (handed _)
  · exact handed _
  · rfl

/-- Nor does a change of a route. -/
theorem route_isOpen (devices : Devices) :
    ((c.route s devices).stream t).isOpen = (c.stream t).isOpen := by
  -- A new route may stop the stream, which leaves it open.
  unfold route
  dsimp only
  split_ifs
  · exact stop_isOpen c s t
  · rfl
  · rfl

end Ctl

/-- The call opens or closes a stream. -/
def Act.opensOrCloses : Act → Bool
  | .openOutputStream _ _ _ | .closeOutputStream _ => true
  | .openInputStream _ _ _ _ | .closeInputStream _ => true
  | _ => false

/-- The same streams are open. -/
def SameOpen (v w : World ρ) : Prop := v.outOpen = w.outOpen ∧ v.inOpen = w.inOpen

/-- Which streams are open shows in the control machine. -/
theorem sameOpen_of_ctl {v w : World ρ}
    (same : ∀ t, (v.ctl.stream t).isOpen = (w.ctl.stream t).isOpen) : SameOpen v w :=
  ⟨funext fun o => same (.output o), funext fun i => same (.input i)⟩

/-- Every other call leaves the same streams open. -/
theorem sameOpen_step (R : ResamplerLib ρ) {w next : World ρ} {act : Act}
    (serving : act.opensOrCloses = false) (stepped : step R w act = some next) :
    SameOpen next w := by
  -- The cases are those of the calls; only openings and closings open and close.
  obtain ⟨uses, _, ended⟩ := ctl_step R stepped
  refine sameOpen_of_ctl fun t => ?_
  rw [ended]
  cases act with
  | openOutputStream o calloc config => cases serving
  | closeOutputStream o => cases serving
  | openInputStream i calloc config fast => cases serving
  | closeInputStream i => cases serving
  | outWrite o buffer bytes env => exact Ctl.transfer_isOpen _ _ t _ _
  | inRead i buffer bytes env => exact Ctl.transfer_isOpen _ _ t _ _
  | outStandby o => exact Ctl.stop_isOpen _ _ t
  | inStandby i => exact Ctl.stop_isOpen _ _ t
  | outSetParameters o routing =>
    simp only [Act.ctl]
    split
    · exact Ctl.route_isOpen _ _ t _
    · rfl
  | inSetParameters i routing =>
    simp only [Act.ctl]
    split
    · exact Ctl.route_isOpen _ _ t _
    · rfl
  | outGetPresentationPosition o htimestamp => rfl
  | outGetLatency o => rfl
  | adevSetParameters orientation screenState => rfl
  | adevSetMicMute state => rfl

/-- Whether a call is enabled depends on which streams are open. -/
theorem enabled_of_sameOpen {v w : World ρ} (same : SameOpen v w) (act : Act) :
    act.enabled v = act.enabled w := by
  obtain ⟨outOpen, inOpen⟩ := same
  cases act <;> simp [Act.enabled, outOpen, inOpen]

/-- Calls on the streams that are open, none of which opens or closes one. -/
def OnOpen (w : World ρ) (made : Act → Prop) : Prop :=
  ∀ act, made act → act.opensOrCloses = false ∧ act.enabled w = true

section Turns

variable {R : ResamplerLib ρ} {made : Act → Prop} {w : World ρ} {act : Act}

/-- No call that is made changes which streams are open. -/
theorem sameOpen_kept (onOpen : OnOpen w made) (v : World ρ) (call : Act) (next : World ρ)
    (held : SameOpen v w) (here : made call) (stepped : step R v call = some next) :
    SameOpen next w := by
  have same := sameOpen_step R (onOpen call here).1 stepped
  exact ⟨same.1.trans held.1, same.2.trans held.2⟩

/-- The calls leave the same streams open from their first to their last. -/
theorem sameOpen_run (onOpen : OnOpen w made) {calls : List Act} {final : World ρ}
    (all : ∀ call ∈ calls, made call) (ran : run (step R) w calls = some final) :
    SameOpen final w :=
  run_invariant (sameOpen_kept onOpen) ⟨rfl, rfl⟩ (along_of_forall all w) ran

/-- What is governed is as the calls of the history, made one at a time from a world, leave it. -/
abbrev Turns (R : ResamplerLib ρ) (made : Act → Prop) (w : World ρ) :
    Governed × List Act → Prop := Serial (step R) World.governed made w

/-- After some calls, another one may be made. -/
theorem turns_snoc (onOpen : OnOpen w made) (here : made act) {past : List Act}
    {final : World ρ} (all : ∀ call ∈ past, made call)
    (ran : run (step R) w past = some final) :
    Turns R made w (((act.prog R).exec final).2.governed, past ++ [act]) := by
  -- The call can be made, since no call made before has opened or closed its stream.
  have enabled : act.enabled final = true := by
    rw [enabled_of_sameOpen (sameOpen_run onOpen all ran), (onOpen act here).2]
  exact serial_snoc all ran here (by rw [step, if_pos enabled])

/-- The judgement of a call: it enters itself in the history as its turn ends. -/
abbrev Turned {α : Type} (R : ResamplerLib ρ) (made : Act → Prop) (w : World ρ) (act : Act)
    (known : Option (Governed × List Act)) (p : Hal ρ α) : Prop :=
  (p.stamp Mutex.adev act).Guards Mutex.adev (Prog.dated World.governed) (Turns R made w) known
    fun _ left => left = none

/-- What leaves alone all that is governed may follow, or make up, a call. -/
theorem turned_ungoverned {α : Type} {p : Hal ρ α} (unseen : Ungoverned p) :
    Turned R made w act none p := unseen.stamp.guards fun _ => rfl

/-- What follows a call that has taken its turn is not seen, if it is not governed. -/
theorem turned_then {α β : Type} {p : Hal ρ α} {rest : α → Hal ρ β}
    (turned : Turned R made w act none p) (unseen : ∀ value, Ungoverned (rest value)) :
    Turned R made w act none (p >>= rest) := by
  -- The stamp of the call is passed on to what follows.
  unfold Turned
  rw [Prog.stamp_bind]
  refine .bind (turned.mono fun value left same => ?_)
  subst same
  exact turned_ungoverned (unseen value)

/-- The turn ends, and what is left of the call does not touch what is governed. -/
theorem turned_release {α : Type} {g : Governed} {past : List Act} {rest : Hal ρ α}
    (sound : Turns R made w (g, past ++ [act])) (unseen : Ungoverned rest) :
    Turned R made w act (some (g, past)) (do release .adev; rest) := by
  -- At the release the call is put behind those that took their turns before.
  unfold Turned
  rw [Prog.stamp_bind]
  exact .bind (Prog.guards_stamp_release sound (turned_ungoverned unseen))

/--
A call whose body has the device mutex takes its turn.

The body does in the hands of the owner what it does in the call made alone, and what comes after it
gives the mutex back as the body has left it.
-/
theorem turned_body {α β : Type} (onOpen : OnOpen w made) (here : made act) {body : Hal ρ α}
    {rest : α → Hal ρ β} (turn : InTurn body body fun _ _ => True)
    (whole : ∀ v, ((act.prog R).exec v).2.governed = ((body >>= rest).exec v).2.governed)
    (leaves : ∀ value v, ((rest value).exec v).2.governed = v.governed)
    (gives : ∀ value g past, Turns R made w (g, past ++ [act]) →
      Turned R made w act (some (g, past)) (rest value)) :
    Turned R made w act none (do acquire .adev; let value ← body; rest value) := by
  unfold Turned
  rw [Prog.stamp_bind, Prog.stamp_bind]
  refine .bind (Prog.guards_acquire fun seen sound => ?_)
  -- Whatever is found was left by some calls in a row, and this one is made after them.
  obtain ⟨g, past⟩ := seen
  obtain ⟨all, final, ran, found⟩ := sound
  obtain rfl : final.governed = g := found
  refine .bind ((turn final).stamp.mono fun value left reached => ?_)
  obtain ⟨after, rfl, rfl, _⟩ := reached
  refine gives _ _ _ ?_
  have next := turns_snoc onOpen here all ran
  rwa [whole, Prog.exec_bind, leaves] at next

/-- The turn ends right after the body. -/
theorem turned_section {α β : Type} (onOpen : OnOpen w made) (here : made act) {body : Hal ρ α}
    {rest : α → Hal ρ β} (turn : InTurn body body fun _ _ => True)
    (whole : ∀ v, ((act.prog R).exec v).2.governed =
      ((body >>= fun value => release .adev >>= fun _ => rest value).exec v).2.governed)
    (unseen : ∀ value, Ungoverned (rest value)) :
    Turned R made w act none (do acquire .adev; let value ← body; release .adev; rest value) :=
  turned_body onOpen here turn whole (fun value v => (unseen value).exec v)
    fun value _ _ sound => turned_release sound (unseen value)

/-- A call that drops a result leaves what the program with the result leaves. -/
theorem exec_discard {α : Type} (p : Hal ρ α) (v : World ρ) :
    ((do let _ ← p; pure () : Hal ρ Unit).exec v).2 = (p.exec v).2 := by
  rw [Prog.exec_bind, Prog.exec_pure]

/-- A stream is stopped with its mutex inside that of the device. -/
theorem inTurn_stop (mutex : Mutex) (other : mutex ≠ .adev) {body : Hal ρ Unit}
    (turn : InTurn body body fun _ _ => True) :
    InTurn (do acquire mutex; body; release mutex) (do acquire mutex; body; release mutex)
      fun _ _ => True := by
  refine .bind (inTurn_acquire mutex other) fun _ _ _ => ?_
  exact .bind turn fun _ _ _ => inTurn_release mutex other

/-- A standby takes its turn. -/
theorem turned_standby (onOpen : OnOpen w made) (here : made act) (mutex : Mutex)
    (other : mutex ≠ .adev) {body : Hal ρ Unit} (turn : InTurn body body fun _ _ => True)
    (whole : act.prog R = do acquire .adev; acquire mutex; body; release mutex; release .adev) :
    Turned R made w act none (act.prog R) := by
  -- The mutex of the stream is taken inside the section of the device mutex.
  have shape : act.prog R = (do
      acquire .adev
      (do acquire mutex; body; release mutex)
      release .adev
      pure ()) := by
    simp only [whole, Prog.bind_assoc]
    rfl
  rw [shape]
  refine turned_section onOpen here (inTurn_stop mutex other turn) (fun v => ?_)
    fun _ => Prog.aloof_pure _
  rw [shape]
  rfl

/-- The start of a stream takes its turn, with the mutex of the stream inside the device's. -/
theorem turned_start {α β : Type} (onOpen : OnOpen w made) (here : made act) (mutex : Mutex)
    (other : mutex ≠ .adev) {start : Hal ρ α} {rest : α → Hal ρ β}
    (turn : InTurn start start Eq)
    (whole : ∀ v, ((act.prog R).exec v).2.governed = ((start >>= rest).exec v).2.governed)
    (leaves : ∀ value v, ((rest value).exec v).2.governed = v.governed)
    (gives : ∀ value g past, Turns R made w (g, past ++ [act]) →
      Turned R made w act (some (g, past)) (rest value)) :
    Turned R made w act none
      (do acquire .adev; acquire mutex; let value ← start; rest value) := by
  -- The section ends somewhere in the rest, and what comes behind it is not governed.
  have both : InTurn (do acquire mutex; start) (do acquire mutex; start) fun _ _ => True :=
    .bind (inTurn_acquire mutex other) fun _ _ _ => turn.mono fun _ _ _ => trivial
  have turned : Turned R made w act none
      (acquire .adev >>= fun _ => (do acquire mutex; start) >>= rest) :=
    turned_body onOpen here both whole leaves gives
  exact turned

/-- A write takes its turn up to the release of the device mutex, and is not seen behind it. -/
theorem turned_outWrite (onOpen : OnOpen w made) {o : Nat} {buffer : Samples} {bytes : Nat}
    {env : OutWriteEnv} (here : made (.outWrite o buffer bytes env)) :
    Turned R made w (.outWrite o buffer bytes env) none (outWrite R o buffer bytes env) := by
  have start : InTurn _ _ Eq := inTurn_startOutIfStandby R o env.start
  -- The start is the whole turn: a running stream is written to after it.
  refine turned_start onOpen here (.out o) nofun start (fun v => ?_) (fun ret v => ?_)
    fun ret g past sound => ?_
  · rw [Act.prog, exec_discard]
    rfl
  · rw [Prog.exec_ite]
    split
    · exact (ungoverned_outWriteExit o bytes ret).exec v
    · exact (ungoverned_outWriteRunning R o buffer bytes env _ _).exec v
  · split
    · exact turned_release sound (ungoverned_outWriteExit o bytes ret)
    · have unseen : Ungoverned (getAdev : Hal ρ AudioDevice) := ungoverned_getAdev
      unfold Turned
      rw [Prog.stamp_bind]
      refine .bind (unseen.stamp.guards fun adev => ?_)
      exact turned_release sound (ungoverned_outWriteRunning R o buffer bytes env _ _)

/-- A read takes its turn at the start of the stream, and captures behind it. -/
theorem turned_inRead (onOpen : OnOpen w made) {i : Nat} {buffer : CallerBuffer} {bytes : Nat}
    {env : InReadEnv} (here : made (.inRead i buffer bytes env)) :
    Turned R made w (.inRead i buffer bytes env) none (inRead R i buffer bytes env) := by
  -- Behind the start only the stream's own capture path goes on, and then a sleep.
  have start : InTurn _ _ Eq := inTurn_startInIfStandby R i env.start
  have after : ∀ ret : Int, Ungoverned (do
      let result ← (if ret < 0 then pure (buffer, some ret) else inReadRunning R i buffer bytes env)
      let in_ ← getIn i
      when (result.2.any (· < 0)) do record (.usleep (inReadBackOff in_ bytes))
      release (.in_ i)
      return ({ bytes := bytes, buffer := result.1, returned := result.2.isSome } :
        InReadResult)) := by
    intro ret
    have running := ungoverned_inReadRunning R i buffer bytes env
    refine .bind (Prog.Aloof.ite (Prog.aloof_pure _) running) fun result => ?_
    refine .bind (ungoverned_getIn i) fun in_ => ?_
    refine .bind (.when (ungoverned_record rfl)) fun _ => ?_
    refine .bind (ungoverned_release (.in_ i) nofun) fun _ => ?_
    exact Prog.aloof_pure _
  refine turned_start onOpen here (.in_ i) nofun start (fun v => ?_) (fun ret v => ?_)
    fun ret g past sound => ?_
  · rw [Act.prog, exec_discard]
    rfl
  · exact (after ret).exec v
  · exact turned_release sound (after ret)

/-- A change of the output route takes its turn as a whole. -/
theorem turned_outSetParameters (onOpen : OnOpen w made) {o : Nat} {routing : Parm Devices}
    (here : made (.outSetParameters o routing)) :
    Turned R made w (.outSetParameters o routing) none
      (outSetParameters o routing : Hal ρ Int) := by
  -- The route is tested and changed in one section, with the standby in between.
  have stop : InTurn (do acquire (.out o); doOutStandby o; release (.out o) : Hal ρ Unit) _
      fun _ _ => True := inTurn_stop (.out o) nofun (inTurn_doOutStandby o)
  have route := inTurn_changeRoute stop
    (fun adev => adev.outDevice ≠ routing.value ∧ routing.value ≠ 0)
    (fun adev => (routing.value &&& audioDeviceOutAllSco) ^^^
      (adev.outDevice &&& audioDeviceOutAllSco) ≠ 0)
    (fun adev => { adev with outDevice := routing.value }) fun one two alike => by
      have device : one.outDevice = two.outDevice := congrArg Routing.outDevice alike.routing
      have changed := congrArg (fun r => { r with outDevice := routing.value }) alike.routing
      refine ⟨by simp only [device], by simp only [device], ?_⟩
      exact ⟨changed, alike.activeOut, alike.activeIn⟩
  refine turned_section onOpen here (.when Iff.rfl route) (fun v => ?_) fun _ => Prog.aloof_pure _
  rw [Act.prog, exec_discard]
  rfl

/-- And so does a change of the input route. -/
theorem turned_inSetParameters (onOpen : OnOpen w made) {i : Nat} {routing : Parm Devices}
    (here : made (.inSetParameters i routing)) :
    Turned R made w (.inSetParameters i routing) none
      (inSetParameters i routing : Hal ρ Int) := by
  have stop : InTurn (do acquire (.in_ i); doInStandby i; release (.in_ i) : Hal ρ Unit) _
      fun _ _ => True := inTurn_stop (.in_ i) nofun (inTurn_doInStandby i)
  -- The direction bit is dropped before the masks are compared.
  let val := routing.value &&& ~~~audioDeviceBitIn
  have route := inTurn_changeRoute stop (fun adev => adev.inDevice ≠ val ∧ val ≠ 0)
    (fun adev => (val &&& audioDeviceInAllSco) ^^^ (adev.inDevice &&& audioDeviceInAllSco) ≠ 0)
    (fun adev => { adev with inDevice := val }) fun one two alike => by
      have device : one.inDevice = two.inDevice := congrArg Routing.inDevice alike.routing
      have changed := congrArg (fun r => { r with inDevice := val }) alike.routing
      refine ⟨by simp only [device], by simp only [device], ?_⟩
      exact ⟨changed, alike.activeOut, alike.activeIn⟩
  refine turned_section onOpen here (.when Iff.rfl route) (fun v => ?_) fun _ => Prog.aloof_pure _
  rw [Act.prog, exec_discard]
  rfl

/-- What `adev_set_parameters` does under the mutex with an orientation it was given. -/
def turnTo (next : Orientation) : Hal ρ Unit := do
  let adev ← getAdev
  when (next ≠ adev.orientation) do
    modifyAdev fun adev => { adev with orientation := next }
    modifyAdev selectDevices

/-- What it does at the end, without the mutex. -/
def setScreen (screenState : Parm String) : Hal ρ Int := do
  when (screenState.ret ≥ 0) do
    modifyAdev fun adev => { adev with screenOff := screenState.value ≠ "on" }
  return screenState.ret

/-- An orientation that was given is turned to under the device mutex. -/
theorem adevSetParameters_of_ret {orientation : Parm String} (screenState : Parm String)
    (found : orientation.ret ≥ 0) :
    (adevSetParameters orientation screenState : Hal ρ Int) = (do
      acquire .adev
      turnTo (.ofString orientation.value)
      release .adev
      setScreen screenState) := by
  simp only [adevSetParameters, when, if_pos found, Prog.bind_assoc, turnTo, setScreen]

/-- Without the key only the screen state is left. -/
theorem adevSetParameters_of_not_ret {orientation : Parm String} (screenState : Parm String)
    (missing : ¬ orientation.ret ≥ 0) :
    (adevSetParameters orientation screenState : Hal ρ Int) = setScreen screenState := by
  simp only [adevSetParameters, when, if_neg missing, setScreen]
  rfl

/-- The orientation is governed, so both runs turn to the new one, or neither does. -/
theorem inTurn_turnTo (next : Orientation) :
    InTurn (turnTo next : Hal ρ Unit) (turnTo next) fun _ _ => True := by
  -- A new orientation is stored, and the mixer selected anew.
  refine .bind inTurn_getAdev fun one two alike => ?_
  have same : one.orientation = two.orientation := congrArg Routing.orientation alike.routing
  refine .when (by rw [same]) ?_
  refine .bind (inTurn_modifyAdev fun a b was => ?_) fun _ _ _ => ?_
  · have changed := congrArg (fun r => { r with orientation := next }) was.routing
    exact ⟨changed, was.activeOut, was.activeIn⟩
  · exact inTurn_selectDevices

/-- The screen state is stored without the mutex, and is not governed. -/
theorem ungoverned_setScreen (screenState : Parm String) :
    Ungoverned (setScreen screenState : Hal ρ Int) := by
  -- The screen is neither routing nor one of the active streams.
  refine .bind (.when ?_) fun _ => Prog.aloof_pure _
  exact Prog.aloof_update fun _ => governed_setAdev rfl ⟨rfl, rfl, rfl⟩

/-- The screen state is set behind the mutex and is not governed, unlike the orientation. -/
theorem turned_adevSetParameters (onOpen : OnOpen w made) {orientation screenState : Parm String}
    (here : made (.adevSetParameters orientation screenState)) :
    Turned R made w (.adevSetParameters orientation screenState) none
      (adevSetParameters orientation screenState : Hal ρ Int) := by
  -- Without an orientation the device mutex is not taken at all.
  by_cases found : orientation.ret ≥ 0
  · rw [adevSetParameters_of_ret screenState found]
    refine turned_section onOpen here (inTurn_turnTo _) (fun v => ?_)
      fun _ => ungoverned_setScreen screenState
    rw [Act.prog, exec_discard, adevSetParameters_of_ret screenState found]
    rfl
  · rw [adevSetParameters_of_not_ret screenState found]
    exact turned_ungoverned (ungoverned_setScreen screenState)

/-- Every call takes its turn. -/
theorem turned_prog (onOpen : OnOpen w made) (here : made act) :
    Turned R made w act none (act.prog R) := by
  -- Each call has a section of the device mutex, or it touches nothing that is governed.
  have ends : ∀ {α : Type} (_ : α), Ungoverned (pure () : Hal ρ Unit) :=
    fun _ => Prog.aloof_pure _
  cases act with
  | openOutputStream o calloc config => exact nomatch (onOpen _ here).1
  | closeOutputStream o => exact nomatch (onOpen _ here).1
  | openInputStream i calloc config fast => exact nomatch (onOpen _ here).1
  | closeInputStream i => exact nomatch (onOpen _ here).1
  | outWrite o buffer bytes env => exact turned_then (turned_outWrite onOpen here) ends
  | inRead i buffer bytes env => exact turned_then (turned_inRead onOpen here) ends
  | outStandby o => exact turned_standby onOpen here (.out o) nofun (inTurn_doOutStandby o) rfl
  | inStandby i => exact turned_standby onOpen here (.in_ i) nofun (inTurn_doInStandby i) rfl
  | outSetParameters o routing => exact turned_then (turned_outSetParameters onOpen here) ends
  | inSetParameters i routing => exact turned_then (turned_inSetParameters onOpen here) ends
  | outGetPresentationPosition o htimestamp =>
    have position :
        Ungoverned (outGetPresentationPosition o htimestamp : Hal ρ (Option Nat)) := by
      refine .bind (ungoverned_acquire (.out o) nofun) fun _ => ?_
      refine .bind (ungoverned_getOut o) fun out => ?_
      refine .bind (ungoverned_record rfl) fun _ => ?_
      refine .bind (ungoverned_release (.out o) nofun) fun _ => ?_
      exact Prog.aloof_pure _
    exact turned_then (turned_ungoverned position) ends
  | outGetLatency o =>
    refine turned_then (turned_section onOpen here ?_ (fun v => rfl) ?_) ends
    · exact inTurn_getAdev.mono fun _ _ _ => trivial
    · exact fun adev => Prog.aloof_pure _
  | adevSetParameters orientation screenState =>
    exact turned_then (turned_adevSetParameters onOpen here) ends
  | adevSetMicMute state =>
    have mute : Ungoverned (adevSetMicMute state : Hal ρ Int) :=
      .bind (Prog.aloof_update fun _ => governed_setAdev rfl ⟨rfl, rfl, rfl⟩) fun _ =>
        Prog.aloof_pure _
    exact turned_then (turned_ungoverned mute) ends

end Turns

end Grouper.Audio
