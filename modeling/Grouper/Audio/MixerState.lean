import Grouper.Audio.LockDiscipline

/-! While the device mutex is free, the mixer is what the devices and the orientation call for. -/

namespace Grouper.Audio

open Prog (Aloof acquire release when)

variable {ρ : Type}

/-- The mixer is what the routing calls for, over the settings the hardware started with. -/
def Routing.Follows (hardware : Settings) (r : Routing) : Prop :=
  r.ar.initial = hardware.override initialCtls ∧
    r.ar.mixer = routedMixer r.ar.initial r.outDevice r.inDevice r.orientation

/-- Wherever the routing came from, following it is sound if its initial settings are kept. -/
theorem Routing.follows_follow {hardware : Settings} {r : Routing}
    (kept : r.ar.initial = hardware.override initialCtls) : r.follow.Follows hardware :=
  ⟨kept, rfl⟩

/-- Opening the device selects devices for the first time. -/
theorem follows_initial (hardware : Settings) :
    (World.initial hardware : World ρ).routing.Follows hardware := by
  -- The device is built with its initial settings and then routed.
  show (adevOpen hardware).routing.Follows hardware
  unfold adevOpen
  rw [routing_selectDevices]
  exact Routing.follows_follow rfl

/-- The mutex is held, and what it guards is sound. -/
def SoundHeld (hardware : Settings) (known : Option Routing) : Prop :=
  ∃ r, known = some r ∧ r.Follows hardware

/-- The judgement of the mixer: the device mutex guards the routing. -/
abbrev Guarded {α : Type} (hardware : Settings) (known : Option Routing) (p : Hal ρ α)
    (post : α → Option Routing → Prop) : Prop :=
  p.Guards Mutex.adev World.routing (Routing.Follows hardware) known post

section Starts

/-- The mutexes of the streams are none of the routing's business. -/
theorem aloof_acquire (mutex : Mutex) (other : mutex ≠ .adev) :
    Aloof Mutex.adev World.routing (acquire mutex : Hal ρ Unit) := Prog.aloof_acquire other

/-- Nor does releasing another mutex. -/
theorem aloof_release (mutex : Mutex) (other : mutex ≠ .adev) :
    Aloof Mutex.adev World.routing (release mutex : Hal ρ Unit) := Prog.aloof_release other

/-- Stopping an input stream for an output stream does not touch the routing. -/
theorem aloof_stopClashingIn (o : Nat) :
    Aloof Mutex.adev World.routing (stopClashingIn o : Hal ρ Unit) := by
  -- The mutex taken is that of the input stream.
  refine .bind aloof_getAdev fun adev => ?_
  split
  · exact Prog.aloof_pure _
  · rename_i i _
    refine .bind (aloof_acquire (.in_ i) nofun) fun _ => ?_
    refine .bind (aloof_getOut o) fun out => ?_
    refine .bind (aloof_getIn i) fun in_ => ?_
    refine .bind (.when (aloof_doInStandby i)) fun _ => ?_
    exact aloof_release (.in_ i) nofun

/-- Nor does stopping an output stream for an input stream. -/
theorem aloof_stopClashingOut (i : Nat) :
    Aloof Mutex.adev World.routing (stopClashingOut i : Hal ρ Unit) := by
  -- The mutex taken is that of the output stream.
  refine .bind aloof_getAdev fun adev => ?_
  split
  · exact Prog.aloof_pure _
  · rename_i o _
    refine .bind (aloof_acquire (.out o) nofun) fun _ => ?_
    refine .bind (aloof_getIn i) fun in_ => ?_
    refine .bind (aloof_getOut o) fun out => ?_
    refine .bind (.when (aloof_doOutStandby o)) fun _ => ?_
    exact aloof_release (.out o) nofun

/-- Starting a stream reads the route and leaves it alone. -/
theorem aloof_startOutIfStandby (R : ResamplerLib ρ) (o : Nat) (env : StartEnv) :
    Aloof Mutex.adev World.routing (startOutIfStandby R o env) := by
  -- A start configures the stream, stops what clashes and opens the PCM.
  have start : Aloof Mutex.adev World.routing (startOutputStream R o env) := by
    refine .bind aloof_getAdev fun adev => ?_
    refine .bind (aloof_modifyOut o _) fun _ => ?_
    refine .bind (aloof_stopClashingIn o) fun _ => ?_
    exact aloof_openOutputPcm R o _ env
  refine .bind (aloof_getOut o) fun out => ?_
  refine .ite ?_ (Prog.aloof_pure _)
  refine .bind start fun ret => ?_
  exact .bind (.when (aloof_modifyOut o _)) fun _ => Prog.aloof_pure _

/-- Nor does starting an input stream. -/
theorem aloof_startInIfStandby (R : ResamplerLib ρ) (i : Nat) (env : StartEnv) :
    Aloof Mutex.adev World.routing (startInIfStandby R i env) := by
  -- A start configures the stream, stops what clashes and opens the PCM.
  have start : Aloof Mutex.adev World.routing (startInputStream R i env) := by
    refine .bind aloof_getAdev fun adev => ?_
    refine .bind (aloof_modifyIn i _) fun _ => ?_
    refine .bind (aloof_stopClashingOut i) fun _ => ?_
    exact aloof_openInputPcm R i _ env
  refine .bind (aloof_getIn i) fun in_ => ?_
  refine .ite ?_ (Prog.aloof_pure _)
  refine .bind start fun ret => ?_
  exact .bind (.when (aloof_modifyIn i _)) fun _ => Prog.aloof_pure _

/-- The exit of a write is past the device mutex. -/
theorem aloof_outWriteExit (o bytes : Nat) (ret : Int) :
    Aloof Mutex.adev World.routing (outWriteExit o bytes ret : Hal ρ Int) := by
  refine .bind (aloof_release (.out o) nofun) fun _ => ?_
  exact .bind (.when (aloof_record _)) fun _ => Prog.aloof_pure _

/-- Nor does the part of a write behind the device mutex. -/
theorem aloof_outWriteRunning (R : ResamplerLib ρ) (o : Nat) (buffer : Samples) (bytes : Nat)
    (env : OutWriteEnv) (bufferType : OutBufferType) (scoOn : Bool) :
    Aloof Mutex.adev World.routing (outWriteRunning R o buffer bytes env bufferType scoOn) := by
  -- What is left is the stream's own, up to the release of its mutex.
  refine .bind (aloof_prepareWrite R o buffer bytes env bufferType scoOn) fun frames => ?_
  refine .bind (aloof_getOut o) fun out => ?_
  refine .bind (aloof_record _) fun _ => ?_
  refine .ite ?_ ?_
  · exact .bind (aloof_release (.out o) nofun) fun _ => Prog.aloof_pure _
  · exact .bind (.when (aloof_modifyOut o _)) fun _ => aloof_outWriteExit o bytes _

end Starts

section EntryPoints

variable {hardware : Settings}

/-- A change of the routing, once the mixer has caught up with it, is sound. -/
theorem guarded_reroute (next : Routing → Routing) {change : AudioDevice → AudioDevice}
    (moves : ∀ adev, (change adev).routing = next adev.routing)
    (keeps : ∀ r, (next r).ar.initial = r.ar.initial) {r : Routing} (follows : r.Follows hardware) :
    Guarded hardware (some r)
      (do modifyAdev change; modifyAdev selectDevices : Hal ρ Unit)
      fun _ left => SoundHeld hardware left := by
  -- The new route is on its own for the time up to the next statement only.
  refine .bind (Prog.guards_update (next r) (fun w same => ?_) ?_)
  · show (change w.adev).routing = next r
    rw [moves, ← same]
    rfl
  · refine Prog.guards_update (next r).follow (fun w same => ?_) ?_
    · show (selectDevices w.adev).routing = (next r).follow
      rw [routing_selectDevices, ← same]
      rfl
    · exact ⟨_, rfl, Routing.follows_follow ((keeps r).trans follows.1)⟩

/-- The device mutex is released with a sound routing behind it. -/
theorem guarded_release {known : Option Routing} (sound : SoundHeld hardware known)
    {α : Type} (value : α) :
    Guarded hardware known (do release .adev; return value : Hal ρ α)
      fun _ left => left = none := by
  obtain ⟨r, rfl, follows⟩ := sound
  exact .bind (Prog.guards_release follows rfl)

/-- Two mutexes around a body that leaves the routing alone. -/
theorem guarded_standby (mutex : Mutex) (other : mutex ≠ .adev) {body : Hal ρ Unit}
    (aloof : Aloof Mutex.adev World.routing body) :
    Guarded hardware none
      (do acquire .adev; acquire mutex; body; release mutex; release .adev)
      fun _ left => left = none := by
  -- Between the two ends of the device mutex the routing is let alone.
  refine .bind (Prog.guards_acquire fun r follows => .bind ?_)
  refine (aloof_acquire mutex other).guards fun _ => .bind (aloof.guards fun _ => .bind ?_)
  exact (aloof_release mutex other).guards fun _ => Prog.guards_release follows rfl

/-- A write reads the routing under the device mutex and leaves it. -/
theorem guarded_outWrite (R : ResamplerLib ρ) (o : Nat) (buffer : Samples) (bytes : Nat)
    (env : OutWriteEnv) :
    Guarded hardware none (outWrite R o buffer bytes env) fun _ left => left = none := by
  -- A start that fails gives the device mutex back as one that succeeds.
  refine .bind (Prog.guards_acquire fun r follows => .bind ?_)
  refine (aloof_acquire (.out o) nofun).guards fun _ => .bind ?_
  refine (aloof_startOutIfStandby R o _).guards fun ret => .ite (fun _ => ?_) fun _ => ?_
  · refine .bind (Prog.guards_release follows ?_)
    exact (aloof_outWriteExit o bytes ret).guards fun _ => rfl
  · refine .bind (aloof_getAdev.guards fun adev => .bind (Prog.guards_release follows ?_))
    exact (aloof_outWriteRunning R o buffer bytes env _ _).guards fun _ => rfl

/-- A read leaves the routing. -/
theorem guarded_inRead (R : ResamplerLib ρ) (i : Nat) (buffer : CallerBuffer) (bytes : Nat)
    (env : InReadEnv) :
    Guarded hardware none (inRead R i buffer bytes env) fun _ left => left = none := by
  -- Only the start is under the device mutex.
  refine .bind (Prog.guards_acquire fun r follows => .bind ?_)
  refine (aloof_acquire (.in_ i) nofun).guards fun _ => .bind ?_
  refine (aloof_startInIfStandby R i _).guards fun ret => .bind (Prog.guards_release follows ?_)
  have running : Aloof Mutex.adev World.routing (inReadRunning R i buffer bytes env) := by
    refine .bind (aloof_capture R i env bytes _) fun _ => ?_
    refine .bind aloof_getAdev fun _ => ?_
    exact Prog.aloof_pure _
  refine .bind ((Aloof.ite (Prog.aloof_pure _) running).guards fun result => .bind ?_)
  refine (aloof_getIn i).guards fun in_ => .bind ?_
  refine (Aloof.when (aloof_record _)).guards fun _ => .bind ?_
  exact (aloof_release (.in_ i) nofun).guards fun _ => rfl

/-- A change of a route, if it is one, is made with the device mutex held, and so is the standby in
front of it. -/
theorem guarded_changeRoute {isNew stops : AudioDevice → Prop} [DecidablePred isNew]
    [DecidablePred stops] {stop : Hal ρ Unit} (aloof : Aloof Mutex.adev World.routing stop)
    (next : Routing → Routing) {change : AudioDevice → AudioDevice}
    (moves : ∀ adev, (change adev).routing = next adev.routing)
    (keeps : ∀ r, (next r).ar.initial = r.ar.initial) (ret : Int) :
    Guarded hardware none (do
      acquire .adev
      when (ret ≥ 0) do
        let adev ← getAdev
        when (isNew adev) do
          when (stops adev) stop
          modifyAdev change
          modifyAdev selectDevices
      release .adev
      return ret : Hal ρ Int) fun _ left => left = none := by
  refine .bind (Prog.guards_acquire fun r follows => .bind ?_)
  have unchanged : SoundHeld hardware (some r) := ⟨r, rfl, follows⟩
  refine Prog.Guards.mono ?_ fun _ left sound => guarded_release sound ret
  refine .when ?_ unchanged
  refine .bind (aloof_getAdev.guards fun adev => .when ?_ unchanged)
  -- The standby leaves the routing alone, and the mixer catches up with the change.
  exact .bind ((Aloof.when aloof).guards fun _ => guarded_reroute next moves keeps follows)

/-- An output stream's parameters move its route and apply it. -/
theorem guarded_outSetParameters (o : Nat) (routing : Parm Devices) :
    Guarded hardware none (outSetParameters o routing : Hal ρ Int)
      fun _ left => left = none := by
  -- Standing by, where it comes first, takes the mutex of the stream.
  have stop : Aloof Mutex.adev World.routing (do
      acquire (.out o); doOutStandby o; release (.out o) : Hal ρ Unit) := by
    refine .bind (aloof_acquire (.out o) nofun) fun _ => ?_
    refine .bind (aloof_doOutStandby o) fun _ => ?_
    exact aloof_release (.out o) nofun
  exact guarded_changeRoute stop (fun r => { r with outDevice := routing.value })
    (fun _ => rfl) (fun _ => rfl) routing.ret

/-- An input stream's parameters move its route and apply it. -/
theorem guarded_inSetParameters (i : Nat) (routing : Parm Devices) :
    Guarded hardware none (inSetParameters i routing : Hal ρ Int)
      fun _ left => left = none := by
  -- Standing by, where it comes first, takes the mutex of the stream.
  have stop : Aloof Mutex.adev World.routing (do
      acquire (.in_ i); doInStandby i; release (.in_ i) : Hal ρ Unit) := by
    refine .bind (aloof_acquire (.in_ i) nofun) fun _ => ?_
    refine .bind (aloof_doInStandby i) fun _ => ?_
    exact aloof_release (.in_ i) nofun
  exact guarded_changeRoute stop
    (fun r => { r with inDevice := routing.value &&& ~~~audioDeviceBitIn })
    (fun _ => rfl) (fun _ => rfl) routing.ret

/-- The screen state is set without the mutex, and is no part of what the mutex guards. -/
theorem guarded_adevSetParameters (orientation screenState : Parm String) :
    Guarded hardware none (adevSetParameters orientation screenState : Hal ρ Int)
      fun _ left => left = none := by
  -- The screen comes last, when the mutex has been released.
  have screen : Aloof Mutex.adev World.routing (do
      when (screenState.ret ≥ 0) do
        modifyAdev fun adev => { adev with screenOff := screenState.value ≠ "on" }
      return screenState.ret : Hal ρ Int) :=
    .bind (.when (aloof_modifyAdev fun _ => rfl)) fun _ => Prog.aloof_pure _
  refine .bind (Prog.Guards.when ?_ (screen.guards fun _ => rfl))
  refine .bind (Prog.guards_acquire fun r follows => .bind (aloof_getAdev.guards fun adev => ?_))
  -- Between the two changes the mixer does not follow the routing, but the mutex is held.
  have turn : Guarded hardware (some r)
      (when (Orientation.ofString orientation.value ≠ adev.orientation) (do
        modifyAdev fun adev => { adev with
          orientation := Orientation.ofString orientation.value }
        modifyAdev selectDevices) : Hal ρ Unit)
      fun _ left => SoundHeld hardware left :=
    .when (guarded_reroute (fun r => { r with
      orientation := Orientation.ofString orientation.value }) (fun _ => rfl) (fun _ => rfl)
      follows) ⟨r, rfl, follows⟩
  refine .bind (turn.mono fun _ left sound => ?_)
  obtain ⟨after, rfl, follows⟩ := sound
  exact Prog.guards_release follows (screen.guards fun _ => rfl)

/-- Whatever follows a call without the mutex may follow it here. -/
theorem guarded_then {α β : Type} {p : Hal ρ α} {after : α → Hal ρ β}
    (guarded : Guarded hardware none p fun _ left => left = none)
    (aloof : ∀ value, Aloof Mutex.adev World.routing (after value)) :
    Guarded hardware none (p >>= after) fun _ left => left = none := by
  -- Behind the call nothing of the routing is held or touched.
  refine .bind (guarded.mono fun value left same => ?_)
  subst same
  exact (aloof value).guards fun _ => rfl

/-- Called without the device mutex, every entry point respects what it guards. -/
theorem guarded_prog (R : ResamplerLib ρ) (act : Act) :
    Guarded hardware none (act.prog R) fun _ left => left = none := by
  -- By the call; those that take the device mutex have a lemma each.
  have ends : ∀ {α : Type} (_ : α), Aloof Mutex.adev World.routing (pure () : Hal ρ Unit) :=
    fun _ => Prog.aloof_pure _
  cases act with
  | openOutputStream o calloc config =>
    exact guarded_then ((aloof_adevOpenOutputStream o calloc config).guards fun _ => rfl) ends
  | closeOutputStream o =>
    exact guarded_then (guarded_standby (.out o) nofun (aloof_doOutStandby o)) fun _ =>
      Prog.aloof_update fun _ => rfl
  | openInputStream i calloc config fast =>
    exact guarded_then ((aloof_adevOpenInputStream i calloc config fast).guards fun _ => rfl) ends
  | closeInputStream i =>
    exact guarded_then (guarded_standby (.in_ i) nofun (aloof_doInStandby i)) fun _ =>
      Prog.aloof_update fun _ => rfl
  | outWrite o buffer bytes env => exact guarded_then (guarded_outWrite R o buffer bytes env) ends
  | inRead i buffer bytes env => exact guarded_then (guarded_inRead R i buffer bytes env) ends
  | outStandby o => exact guarded_standby (.out o) nofun (aloof_doOutStandby o)
  | inStandby i => exact guarded_standby (.in_ i) nofun (aloof_doInStandby i)
  | outSetParameters o routing => exact guarded_then (guarded_outSetParameters o routing) ends
  | inSetParameters i routing => exact guarded_then (guarded_inSetParameters i routing) ends
  | outGetPresentationPosition o htimestamp =>
    have position : Aloof Mutex.adev World.routing
        (outGetPresentationPosition o htimestamp : Hal ρ (Option Nat)) := by
      refine .bind (aloof_acquire (.out o) nofun) fun _ => ?_
      refine .bind (aloof_getOut o) fun out => ?_
      refine .bind (aloof_record _) fun _ => ?_
      refine .bind (aloof_release (.out o) nofun) fun _ => ?_
      exact Prog.aloof_pure _
    exact guarded_then (position.guards fun _ => rfl) ends
  | outGetLatency o =>
    refine guarded_then (.bind (Prog.guards_acquire fun r follows => .bind ?_)) ends
    exact aloof_getAdev.guards fun adev => .bind (Prog.guards_release follows rfl)
  | adevSetParameters orientation screenState =>
    exact guarded_then (guarded_adevSetParameters orientation screenState) ends
  | adevSetMicMute state =>
    have mute : Aloof Mutex.adev World.routing (adevSetMicMute state : Hal ρ Int) :=
      .bind (aloof_modifyAdev fun _ => rfl) fun _ => Prog.aloof_pure _
    exact guarded_then (mute.guards fun _ => rfl) ends

end EntryPoints

section HistoryIndependence

variable {τ : Type} [DecidableEq τ]

/-- A run of whole calls is one of the interleavings. -/
theorem reachable_of_run (R : ResamplerLib ρ) (t : τ) {start w final : World ρ} {acts : List Act}
    (reached : Config.Reachable (EntryPoint R) start (.initial w : Config τ (World ρ) Mutex))
    (ran : run (step R) w acts = some final) :
    Config.Reachable (EntryPoint R) start (.initial final : Config τ (World ρ) Mutex) := by
  -- The induction lets one thread make the calls one after the other.
  induction acts generalizing w with
  | nil => exact Option.some.inj ran ▸ reached
  | cons act rest ih =>
    obtain ⟨next, stepped, ran⟩ := run_cons.mp ran
    unfold step at stepped
    split at stepped
    · obtain rfl := Option.some.inj stepped
      exact ih (reached.alone (fun _ _ safe => safe.1) t ⟨act, rfl⟩ (holds_prog R act)) ran
    · cases stepped

/-- Whatever the threads do, the mixer is what the routes call for while the mutex is free. -/
theorem routed_of_reachable (R : ResamplerLib ρ) (hardware : Settings)
    {c : Config τ (World ρ) Mutex}
    (reached : Config.Reachable (EntryPoint R) (.initial hardware) c)
    (free : c.owner .adev = none) :
    c.shared.adev.ar.mixer = routedMixer (hardware.override initialCtls) c.shared.adev.outDevice
      c.shared.adev.inDevice c.shared.adev.orientation := by
  have entries : ∀ p, EntryPoint R p → Guarded hardware none p fun _ left => left = none := by
    intro p entry
    obtain ⟨act, rfl⟩ := entry
    exact guarded_prog R act
  -- What the mutex guards is sound whenever the mutex is free.
  have monitored := Config.Monitored.reachable entries (follows_initial hardware) reached
  obtain ⟨initial, mixer⟩ := monitored.free free
  rw [initial] at mixer
  exact mixer

/--
The mixer does not depend on the history.

Whatever calls the threads made and however they interleaved, while the device mutex is free the
mixer is what the devices and the orientation call for, it is the same in any two such moments with
the same devices and orientation, and with a headset or headphone the shared control has the value
of the headphone path.
-/
theorem mixer_of_reachable (R : ResamplerLib ρ) (hardware : Settings)
    {c d : Config τ (World ρ) Mutex}
    (reached : Config.Reachable (EntryPoint R) (.initial hardware) c)
    (free : c.owner .adev = none)
    (alsoReached : Config.Reachable (EntryPoint R) (.initial hardware) d)
    (alsoFree : d.owner .adev = none) :
    let adev := c.shared.adev
    let other := d.shared.adev
    adev.ar.mixer = routedMixer (hardware.override initialCtls) adev.outDevice adev.inDevice
        adev.orientation ∧
      (other.outDevice = adev.outDevice → other.inDevice = adev.inDevice →
        other.orientation = adev.orientation → other.ar.mixer = adev.ar.mixer) ∧
      (adev.outDevice &&& (audioDeviceOutWiredHeadset ||| audioDeviceOutWiredHeadphone) ≠ 0 →
        adev.ar.mixer sharedSwitch = some "Normal") := by
  -- At a free moment the mixer is a function of the two routes and the orientation.
  have here := routed_of_reachable R hardware reached free
  have there := routed_of_reachable R hardware alsoReached alsoFree
  refine ⟨here, fun sameOut sameIn sameOrientation => ?_, fun on => ?_⟩
  · rw [here, there, sameOut, sameIn, sameOrientation]
  · rw [here]
    exact routedMixer_sharedSwitch _ _ _ on

/-- Speaker and headphone are turned on together, or one after the other. -/
theorem mixer_of_reachable_twoWays :
    ∃ c d : Config Unit (World (Nat × Nat)) Mutex,
      Config.Reachable (EntryPoint .nearest) (.initial fun _ => none) c ∧
      Config.Reachable (EntryPoint .nearest) (.initial fun _ => none) d ∧
      d.shared.adev.ar.mixer = c.shared.adev.ar.mixer ∧
      c.shared.adev.ar.mixer sharedSwitch = some "Normal" := by
  have begins : Config.Reachable (EntryPoint .nearest) (.initial fun _ => none)
      (.initial (.initial fun _ => none) : Config Unit (World (Nat × Nat)) Mutex) := .refl
  obtain ⟨w, ran, out, in_, orientation⟩ : ∃ w, run (step .nearest) (.initial fun _ => none)
      [.openOutputStream 0 true ⟨44100, 3⟩, .outSetParameters 0 ⟨0, 0xA⟩] = some w ∧
        w.adev.outDevice = 0xA ∧ w.adev.inDevice = 0x4 ∧ w.adev.orientation = .undefined :=
    ⟨_, rfl, rfl, rfl, rfl⟩
  have together := reachable_of_run .nearest () begins ran
  obtain ⟨v, ran, alsoOut, alsoIn, alsoOrientation⟩ :
      ∃ w, run (step .nearest) (.initial fun _ => none)
        [.openOutputStream 0 true ⟨44100, 3⟩, .outSetParameters 0 ⟨0, 0x8⟩,
          .outSetParameters 0 ⟨0, 0xA⟩] = some w ∧
        w.adev.outDevice = 0xA ∧ w.adev.inDevice = 0x4 ∧ w.adev.orientation = .undefined :=
    ⟨_, rfl, rfl, rfl, rfl⟩
  -- Both runs end with the same devices, so they end with the same mixer.
  have inTurn := reachable_of_run .nearest () begins ran
  obtain ⟨_, same, normal⟩ := mixer_of_reachable .nearest (fun _ => none) together rfl inTurn rfl
  refine ⟨_, _, together, inTurn, same ?_ ?_ ?_, normal ?_⟩
  · exact alsoOut.trans out.symm
  · exact alsoIn.trans in_.symm
  · exact alsoOrientation.trans orientation.symm
  · show w.adev.outDevice &&& _ ≠ 0
    rw [out]
    decide

end HistoryIndependence

end Grouper.Audio
