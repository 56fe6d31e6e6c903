import Grouper.Audio.Starts

/-! Which streams a call changes, and what every stream keeps over whole runs. -/

namespace Grouper.Audio

open Function (update)
open Prog (Leads Keeps when)

variable {ρ : Type}

/-- An output stream is untouched, or it was running and is now in standby. -/
def StreamOut.Rests (before after : StreamOut ρ) : Prop :=
  after = before ∨ before.standby = false ∧ after = before.stopped

/-- An input stream is untouched, or it was running and is now in standby. -/
def StreamIn.Rests (before after : StreamIn ρ) : Prop :=
  after = before ∨ before.standby = false ∧ after = before.stopped

/-- All streams but perhaps one are untouched or were put into standby. -/
structure RestsBut (s : Option StreamRef) (before after : World ρ) : Prop where
  outs : ∀ o, s ≠ some (.output o) → (before.outs o).Rests (after.outs o)
  ins : ∀ i, s ≠ some (.input i) → (before.ins i).Rests (after.ins i)

/-- An output stream that is put into standby twice was put there once. -/
theorem StreamOut.Rests.trans {a b c : StreamOut ρ} (one : a.Rests b) (two : b.Rests c) :
    a.Rests c := by
  -- A stream in standby is not stopped again.
  rcases one with rfl | ⟨running, rfl⟩
  · exact two
  · rcases two with rfl | ⟨again, _⟩
    · exact Or.inr ⟨running, rfl⟩
    · cases again

/-- And so was an input stream. -/
theorem StreamIn.Rests.trans {a b c : StreamIn ρ} (one : a.Rests b) (two : b.Rests c) :
    a.Rests c := by
  -- Both are untouched unless one of the two steps stopped the stream.
  rcases one with rfl | ⟨running, rfl⟩
  · exact two
  · rcases two with rfl | ⟨again, _⟩
    · exact Or.inr ⟨running, rfl⟩
    · cases again

instance (s : Option StreamRef) : Std.Refl (RestsBut (ρ := ρ) s) where
  refl _ := ⟨fun _ _ => Or.inl rfl, fun _ _ => Or.inl rfl⟩

instance (s : Option StreamRef) : IsTrans (World ρ) (RestsBut s) where
  trans _ _ _ one two :=
    ⟨fun o other => (one.outs o other).trans (two.outs o other),
      fun i other => (one.ins i other).trans (two.ins i other)⟩

/-- A stream is what it was changed to. -/
theorem outs_modifyOut (w : World ρ) (o : Nat) (change : StreamOut ρ → StreamOut ρ) :
    ((modifyOut o change).exec w).2.outs o = change (w.outs o) := Function.update_self ..

/-- An input stream, too, is what it was changed to. -/
theorem ins_modifyIn (w : World ρ) (i : Nat) (change : StreamIn ρ → StreamIn ρ) :
    ((modifyIn i change).exec w).2.ins i = change (w.ins i) := Function.update_self ..

section Primitives

variable {s : Option StreamRef} (w : World ρ)

/-- What leaves all streams alone leaves all but one alone. -/
theorem restsBut_of_same {α : Type} {p : Hal ρ α} (outs : (p.exec w).2.outs = w.outs)
    (ins : (p.exec w).2.ins = w.ins) : Leads (RestsBut s) p w :=
  ⟨fun _ _ => Or.inl (by rw [outs]), fun _ _ => Or.inl (by rw [ins])⟩

/-- A call of the kernel is of no stream. -/
theorem restsBut_record (call : Call) : Leads (RestsBut s) (record call) w :=
  restsBut_of_same w rfl rfl

/-- A change of the device is of no stream. -/
theorem restsBut_modifyAdev (change : AudioDevice → AudioDevice) :
    Leads (RestsBut s) (modifyAdev change) w := restsBut_of_same w rfl rfl

/-- The record of one output stream is replaced. -/
theorem restsBut_setOut {before after : World ρ} {o : Nat} {out : StreamOut ρ}
    (outs : after.outs = update before.outs o out) (ins : after.ins = before.ins) :
    RestsBut (some (.output o)) before after := by
  -- Every other stream reads what it read before.
  refine ⟨fun p other => Or.inl ?_, fun _ _ => Or.inl (by rw [ins])⟩
  have apart : p ≠ o := fun same => other (by rw [same])
  rw [outs, Function.update_of_ne apart]

/-- A step that sets one input stream leaves all others alone. -/
theorem restsBut_setIn {before after : World ρ} {i : Nat} {in_ : StreamIn ρ}
    (ins : after.ins = update before.ins i in_) (outs : after.outs = before.outs) :
    RestsBut (some (.input i)) before after := by
  -- Another input stream is stored elsewhere.
  refine ⟨fun _ _ => Or.inl (by rw [outs]), fun j other => Or.inl ?_⟩
  have apart : j ≠ i := fun same => other (by rw [same])
  rw [ins, Function.update_of_ne apart]

/-- A change of an output stream is of that stream only. -/
theorem restsBut_modifyOut (o : Nat) (change : StreamOut ρ → StreamOut ρ) :
    Leads (RestsBut (some (.output o))) (modifyOut o change) w := restsBut_setOut rfl rfl

/-- A change of an input stream is of that stream only. -/
theorem restsBut_modifyIn (i : Nat) (change : StreamIn ρ → StreamIn ρ) :
    Leads (RestsBut (some (.input i))) (modifyIn i change) w := restsBut_setIn rfl rfl

/-- Standby is all that is done to a stream in passing. -/
theorem restsBut_doOutStandby (o : Nat) : Leads (RestsBut s) (doOutStandby o) w := by
  unfold Leads
  rw [exec_doOutStandby]
  split
  · rename_i running
    -- The stream is stopped if it was running, and no other stream is looked at.
    refine ⟨fun p _ => ?_, fun _ _ => Or.inl rfl⟩
    by_cases same : p = o
    · subst same
      exact Or.inr ⟨running, Function.update_self ..⟩
    · exact Or.inl (Function.update_of_ne same _ _)
  · exact Std.Refl.refl w

/-- Standby puts its input stream to rest. -/
theorem restsBut_doInStandby (i : Nat) : Leads (RestsBut s) (doInStandby i) w := by
  unfold Leads
  rw [exec_doInStandby]
  split
  · -- As for an output stream, only one that was running is stopped.
    rename_i running
    refine ⟨fun _ _ => Or.inl rfl, fun j _ => ?_⟩
    by_cases same : j = i
    · subst same
      exact Or.inr ⟨running, Function.update_self ..⟩
    · exact Or.inl (Function.update_of_ne same _ _)
  · exact Std.Refl.refl w

/-- What serves an input stream changes no other one. -/
theorem InFrame.restsBut {i : Nat} {before after : World ρ} (frame : InFrame i before after) :
    RestsBut (some (.input i)) before after :=
  ⟨fun o _ => Or.inl (by rw [frame.outs]),
    fun j other => Or.inl (frame.others j fun same => other (by rw [same]))⟩

/-- What serves an output stream changes no other one. -/
theorem OutFrame.restsBut {o : Nat} {before after : World ρ} (frame : OutFrame o before after) :
    RestsBut (some (.output o)) before after :=
  ⟨fun p other => Or.inl (frame.others p fun same => other (by rw [same])),
    fun i _ => Or.inl (by rw [frame.ins])⟩

/-- Looking at an output stream changes nothing. -/
theorem restsBut_getOut (o : Nat) : Leads (RestsBut s) (getOut o) w := Std.Refl.refl w

/-- Looking at an input stream changes nothing. -/
theorem restsBut_getIn (i : Nat) : Leads (RestsBut s) (getIn i) w := Std.Refl.refl w

/-- Looking at the device changes nothing. -/
theorem restsBut_getAdev : Leads (RestsBut s) (getAdev : Hal ρ AudioDevice) w := Std.Refl.refl w

end Primitives

section Programs

variable {s : Option StreamRef} (R : ResamplerLib ρ) (w : World ρ)

/-- An input stream that clashes is put to rest. -/
theorem restsBut_stopClashingIn (o : Nat) : Leads (RestsBut s) (stopClashingIn o) w := by
  -- The stream that clashes is the active one, if there is any, and it is stopped at most.
  refine .bind (restsBut_getAdev w) ?_
  split
  · exact .pure _
  · refine .bind (.acquire _) ?_
    refine .bind (restsBut_getOut _ _) ?_
    refine .bind (restsBut_getIn _ _) ?_
    exact .bind (.when fun _ => restsBut_doInStandby _ _) (.release _)

/-- An output stream that clashes is put to rest. -/
theorem restsBut_stopClashingOut (i : Nat) : Leads (RestsBut s) (stopClashingOut i) w := by
  -- Without an output stream that is active there is nothing to stop.
  refine .bind (restsBut_getAdev w) ?_
  split
  · exact .pure _
  · refine .bind (.acquire _) ?_
    refine .bind (restsBut_getIn _ _) ?_
    refine .bind (restsBut_getOut _ _) ?_
    exact .bind (.when fun _ => restsBut_doOutStandby _ _) (.release _)

/-- A start changes its own stream, and may stop one of the other direction. -/
theorem restsBut_startOutIfStandby (o : Nat) (env : StartEnv) :
    Leads (RestsBut (some (.output o))) (startOutIfStandby R o env) w := by
  -- Whether the PCM is ready or not, only the stream that asked for it changes.
  have opens : ∀ (device : Nat) (v : World ρ),
      Leads (RestsBut (some (.output o))) (openOutputPcm R o device env) v := by
    intro device v
    unfold Leads
    cases ready : env.pcmIsReady with
    | true =>
      rw [exec_openOutputPcm_ready R v env o device ready]
      exact restsBut_setOut rfl rfl
    | false =>
      rw [exec_openOutputPcm_failed R v env o device ready]
      exact restsBut_setOut rfl rfl
  refine .bind (restsBut_getOut w o) ?_
  refine .ite (fun _ => ?_) fun _ => .pure _
  refine .bind ?_ ?_
  · refine .bind (restsBut_getAdev w) ?_
    refine .bind (restsBut_modifyOut _ o _) ?_
    refine .bind (restsBut_stopClashingIn _ o) ?_
    exact opens _ _
  · refine .bind ?_ (.pure _)
    refine .when fun _ => ?_
    exact restsBut_modifyOut _ o _

/-- A start changes the input stream that is started, and may put an output one to rest. -/
theorem restsBut_startInIfStandby (i : Nat) (env : StartEnv) :
    Leads (RestsBut (some (.input i))) (startInIfStandby R i env) w := by
  -- Opening the PCM sets the stream that is started, whether or not the PCM is ready.
  have opens : ∀ (device : Nat) (v : World ρ),
      Leads (RestsBut (some (.input i))) (openInputPcm R i device env) v := by
    intro device v
    unfold Leads
    cases ready : env.pcmIsReady with
    | true =>
      rw [exec_openInputPcm_ready R v env i device ready]
      exact restsBut_setIn rfl rfl
    | false =>
      rw [exec_openInputPcm_failed R v env i device ready]
      exact restsBut_setIn rfl rfl
  refine .bind (restsBut_getIn w i) ?_
  refine .ite (fun _ => ?_) fun _ => .pure _
  refine .bind ?_ ?_
  · refine .bind (restsBut_getAdev w) ?_
    refine .bind (restsBut_modifyIn _ i _) ?_
    refine .bind (restsBut_stopClashingOut _ i) ?_
    exact opens _ _
  · refine .bind ?_ (.pure _)
    refine .when fun _ => ?_
    exact restsBut_modifyIn _ i _

/-- The way out of a write changes no stream. -/
theorem restsBut_outWriteExit (o bytes : Nat) (ret : Int) :
    Leads (RestsBut s) (outWriteExit o bytes ret) w := by
  refine .bind (.release _) ?_
  exact .bind (.when fun _ => restsBut_record _ _) (.pure _)

/-- A write changes its own stream, and may stop an input stream. -/
theorem restsBut_outWrite (o : Nat) (buffer : Samples) (bytes : Nat) (env : OutWriteEnv) :
    Leads (RestsBut (some (.output o))) (outWrite R o buffer bytes env) w := by
  refine .bind (.acquire _) ?_
  refine .bind (.acquire _) ?_
  refine .bind (restsBut_startOutIfStandby R _ o _) ?_
  -- Before the PCM is written to, a write may start its stream and prepares its frames.
  refine .ite (fun _ => ?_) fun _ => ?_
  · exact .bind (.release _) (restsBut_outWriteExit _ _ _ _)
  · refine .bind (restsBut_getAdev _) ?_
    refine .bind (.release _) ?_
    refine .bind ?_ ?_
    · exact (outFrame_prepareWrite R buffer bytes env _ _ _).restsBut
    · refine .bind (restsBut_getOut _ o) ?_
      refine .bind (restsBut_record _ _) ?_
      refine .ite (fun _ => ?_) fun _ => ?_
      · exact .bind (.release _) (.pure _)
      · exact .bind (.when fun _ => restsBut_modifyOut _ o _) (restsBut_outWriteExit _ _ _ _)

/-- A read changes its own stream, and may stop an output stream. -/
theorem restsBut_inRead (i : Nat) (buffer : CallerBuffer) (bytes : Nat) (env : InReadEnv) :
    Leads (RestsBut (some (.input i))) (inRead R i buffer bytes env) w := by
  refine .bind (.acquire _) ?_
  refine .bind (.acquire _) ?_
  refine .bind (restsBut_startInIfStandby R _ i _) ?_
  -- A read that could not be started is over, and any other captures into its own stream.
  refine .bind (.release _) ?_
  refine .bind ?_ ?_
  · refine .ite (fun _ => .pure _) fun _ => ?_
    exact (inFrame_inReadRunning R buffer bytes env _).restsBut
  · refine .bind (restsBut_getIn _ i) ?_
    refine .bind (.when fun _ => restsBut_record _ _) ?_
    exact .bind (.release _) (.pure _)

/-- Standby from outside puts its output stream to rest. -/
theorem restsBut_outStandby (o : Nat) : Leads (RestsBut s) (outStandby o) w := by
  -- The two mutexes are taken around the standby.
  refine .bind (.acquire _) ?_
  refine .bind (.acquire _) ?_
  refine .bind (restsBut_doOutStandby _ o) ?_
  exact .bind (.release _) (.release _)

/-- Standby from outside puts its input stream to rest. -/
theorem restsBut_inStandby (i : Nat) : Leads (RestsBut s) (inStandby i) w := by
  -- The two mutexes are taken around the standby.
  refine .bind (.acquire _) ?_
  refine .bind (.acquire _) ?_
  refine .bind (restsBut_doInStandby _ i) ?_
  exact .bind (.release _) (.release _)

/-- A change of the output route may put its stream to rest. -/
theorem restsBut_outSetParameters (o : Nat) (routing : Parm Devices) :
    Leads (RestsBut s) (outSetParameters o routing) w := by
  refine .bind (.acquire _) ?_
  refine .bind ?_ ?_
  · refine .when fun _ => ?_
    -- A stream in a changed direction is stopped, and then the route is selected.
    refine .bind (restsBut_getAdev _) ?_
    refine .when fun _ => ?_
    refine .bind ?_ ?_
    · refine .when fun _ => ?_
      refine .bind (.acquire _) ?_
      exact .bind (restsBut_doOutStandby _ o) (.release _)
    · exact .bind (restsBut_modifyAdev _ _) (restsBut_modifyAdev _ _)
  · exact .bind (.release _) (.pure _)

/-- A change of the input route may put its stream to rest. -/
theorem restsBut_inSetParameters (i : Nat) (routing : Parm Devices) :
    Leads (RestsBut s) (inSetParameters i routing) w := by
  -- The standby comes before the change of the route, and only if there is one.
  refine .bind (.acquire _) ?_
  refine .bind ?_ ?_
  · refine .when fun _ => ?_
    refine .bind (restsBut_getAdev _) ?_
    refine .when fun _ => ?_
    refine .bind ?_ ?_
    · refine .when fun _ => ?_
      refine .bind (.acquire _) ?_
      exact .bind (restsBut_doInStandby _ i) (.release _)
    · exact .bind (restsBut_modifyAdev _ _) (restsBut_modifyAdev _ _)
  · exact .bind (.release _) (.pure _)

/-- Orientation and screen state are of the device. -/
theorem restsBut_adevSetParameters (orientation screenState : Parm String) :
    Leads (RestsBut s) (adevSetParameters orientation screenState) w := by
  -- Under the mutex of the device, and only for a new orientation, the mixer is selected.
  refine .bind ?_ ?_
  · refine .when fun _ => ?_
    refine .bind (.acquire _) ?_
    refine .bind (restsBut_getAdev _) ?_
    refine .bind ?_ (.release _)
    refine .when fun _ => ?_
    exact .bind (restsBut_modifyAdev _ _) (restsBut_modifyAdev _ _)
  · exact .bind (.when fun _ => restsBut_modifyAdev _ _) (.pure _)

end Programs

/-- The stream a call is about, if it may do more to it than put it into standby. -/
def Act.subject : Act → Option StreamRef
  | .openOutputStream o _ _ | .outWrite o _ _ _ => some (.output o)
  | .openInputStream i _ _ _ | .inRead i _ _ _ => some (.input i)
  | _ => none

/-- Whatever the call, the streams it is not about are at most put into standby. -/
theorem restsBut_prog (R : ResamplerLib ρ) (w : World ρ) (act : Act) :
    Leads (RestsBut act.subject) (act.prog R) w := by
  -- Each entry point has a lemma of its own, or makes a single change itself.
  cases act with
  | openOutputStream o calloc config =>
    refine .bind ?_ (.pure _)
    refine .ite (fun _ => .pure _) fun _ => ?_
    refine .bind ?_ (.pure _)
    exact restsBut_setOut rfl rfl
  | closeOutputStream o => exact .bind (restsBut_outStandby w o) (restsBut_of_same _ rfl rfl)
  | openInputStream i calloc config fast =>
    refine .bind ?_ (.pure _)
    refine .ite (fun _ => .pure _) fun _ => ?_
    refine .ite (fun _ => .pure _) fun _ => ?_
    exact .bind (restsBut_setIn rfl rfl) (.pure _)
  | closeInputStream i => exact .bind (restsBut_inStandby w i) (restsBut_of_same _ rfl rfl)
  | outWrite o buffer bytes env => exact .bind (restsBut_outWrite R w o buffer bytes env) (.pure _)
  | inRead i buffer bytes env => exact .bind (restsBut_inRead R w i buffer bytes env) (.pure _)
  | outStandby o => exact restsBut_outStandby w o
  | inStandby i => exact restsBut_inStandby w i
  | outSetParameters o routing => exact .bind (restsBut_outSetParameters w o routing) (.pure _)
  | inSetParameters i routing => exact .bind (restsBut_inSetParameters w i routing) (.pure _)
  | outGetPresentationPosition o htimestamp =>
    refine .bind ?_ (.pure _)
    refine .bind (.acquire _) ?_
    refine .bind (restsBut_getOut _ o) ?_
    refine .bind (restsBut_record _ _) ?_
    exact .bind (.release _) (.pure _)
  | outGetLatency o =>
    refine .bind ?_ (.pure _)
    refine .bind (.acquire _) ?_
    refine .bind (restsBut_getAdev _) ?_
    exact .bind (.release _) (.pure _)
  | adevSetParameters orientation screenState =>
    exact .bind (restsBut_adevSetParameters w orientation screenState) (.pure _)
  | adevSetMicMute state =>
    refine .bind ?_ (.pure _)
    exact .bind (restsBut_modifyAdev _ _) (.pure _)

section Begin

variable (R : ResamplerLib ρ) (w : World ρ) (env : StartEnv)

/-- A write finds its stream running, starts it, or fails to start it. -/
theorem startOutIfStandby_cases (o : Nat) :
    let out := (w.outs o).configure (outScoOn w.adev)
    let device := if outScoOn w.adev then pcmDeviceSco else pcmDevice
    let result := (startOutIfStandby R o env).exec w
    ((w.outs o).standby = false ∧ result = (0, w)) ∨
      ((w.outs o).standby = true ∧ env.pcmIsReady = true ∧ result.1 = 0 ∧
        result.2.adev.outDevice = w.adev.outDevice ∧
        ∃ n, result.2.outs o =
          { out.begun R env ⟨n, device, out.config⟩ with standby := false }) ∨
      ((w.outs o).standby = true ∧ env.pcmIsReady = false ∧ result.1 = -enomem ∧
        ∃ n, result.2.outs o = { out with pcm := some ⟨n, device, out.config⟩ }) := by
  dsimp only
  unfold startOutIfStandby
  rw [exec_getOut_bind]
  cases standby : (w.outs o).standby with
  | false => exact Or.inl ⟨rfl, rfl⟩
  | true =>
    -- The start runs on a state that differs in the stopped stream and in the configured one.
    obtain ⟨v, outs, adev, run⟩ := startOutputStream_spec R w env o
    have mine : v.outs o = (w.outs o).configure (outScoOn w.adev) := by simp [outs]
    rw [if_pos rfl, Prog.exec_bind, run]
    cases ready : env.pcmIsReady with
    | true =>
      rw [exec_openOutputPcm_ready R v env o _ ready, Prog.exec_bind, Prog.exec_when, if_pos rfl]
      have routed : v.adev.outDevice = w.adev.outDevice := by rw [adev]
      refine Or.inr (Or.inl ⟨rfl, rfl, rfl, routed, v.opened, (Function.update_self ..).trans ?_⟩)
      show { update v.outs o ((v.outs o).begun R env _) o with standby := false } = _
      rw [Function.update_self, mine]
    | false =>
      rw [exec_openOutputPcm_failed R v env o _ ready, Prog.exec_bind, Prog.exec_when,
        if_neg (show ¬ -enomem = 0 by decide)]
      refine Or.inr (Or.inr ⟨rfl, rfl, rfl, v.opened, ?_⟩)
      show update v.outs o _ o = _
      rw [Function.update_self, mine]

/-- A read finds its stream running, starts it, or fails to start it. -/
theorem startInIfStandby_cases (i : Nat) :
    let in_ := (w.ins i).configure (inScoOn w.adev)
    let device := if inScoOn w.adev then pcmDeviceSco else pcmDevice
    let result := (startInIfStandby R i env).exec w
    ((w.ins i).standby = false ∧ result = (0, w)) ∨
      ((w.ins i).standby = true ∧ env.pcmIsReady = true ∧ result.1 = 0 ∧
        ∃ n, result.2.ins i =
          { in_.begun R env ⟨n, device, in_.pcmConfig⟩ with standby := false }) ∨
      ((w.ins i).standby = true ∧ env.pcmIsReady = false ∧ result.1 = -enomem ∧
        ∃ n, result.2.ins i = { in_ with pcm := some ⟨n, device, in_.pcmConfig⟩ }) := by
  dsimp only
  unfold startInIfStandby
  rw [exec_getIn_bind]
  cases standby : (w.ins i).standby with
  | false => exact Or.inl ⟨rfl, rfl⟩
  | true =>
    -- The same holds of a capturing stream, with the roles of the directions exchanged.
    obtain ⟨v, ins, adev, run⟩ := startInputStream_spec R w env i
    have mine : v.ins i = (w.ins i).configure (inScoOn w.adev) := by simp [ins]
    rw [if_pos rfl, Prog.exec_bind, run]
    cases ready : env.pcmIsReady with
    | true =>
      rw [exec_openInputPcm_ready R v env i _ ready, Prog.exec_bind, Prog.exec_when, if_pos rfl]
      refine Or.inr (Or.inl ⟨rfl, rfl, rfl, v.opened, (Function.update_self ..).trans ?_⟩)
      show { update v.ins i ((v.ins i).begun R env _) i with standby := false } = _
      rw [Function.update_self, mine]
    | false =>
      rw [exec_openInputPcm_failed R v env i _ ready, Prog.exec_bind, Prog.exec_when,
        if_neg (show ¬ -enomem = 0 by decide)]
      refine Or.inr (Or.inr ⟨rfl, rfl, rfl, v.opened, ?_⟩)
      show update v.ins i _ i = _
      rw [Function.update_self, mine]

end Begin

/-- The value of a 32-bit `int`. -/
def IsInt32 (value : Int) : Prop := -2 ^ 31 ≤ value ∧ value < 2 ^ 31

/-- What holds of an output stream between any two calls. -/
structure StreamOut.Fit (out : StreamOut ρ) : Prop where
  resting : out.standby = true → out.resampler = none ∧ out.buffer = none
  config : out.standby = false → out.config = pcmConfigOut ∨ out.config = pcmConfigSco
  /-- Room for one period of the main PCM at the rate of SCO, and one frame more. -/
  room : out.standby = false → out.config = pcmConfigSco → out.bufferFrames = 93
  /-- A target once set is at least two periods of the configuration. -/
  threshold : out.bufferType ≠ .unknown → (512 : Int) ≤ out.writeThreshold ∧
    (2 * out.config.periodSize : Int) ≤ out.writeThreshold ∧ out.writeThreshold ≤ 4096
  current : IsInt32 out.curWriteThreshold
  target : IsInt32 out.writeThreshold

/-- What holds of an input stream between any two calls. -/
structure StreamIn.Fit (in_ : StreamIn ρ) : Prop where
  resting : in_.standby = true → in_.resampler = none ∧ in_.buffer = none
  home : ∃ fast, in_.pcmConfigNonSco = inDefaultConfig in_.requestedRate fast
  config : in_.pcmConfig = in_.pcmConfigNonSco ∨ in_.pcmConfig = pcmConfigSco
  size : in_.standby = false →
    in_.bufferSize = in_.pcmConfig.periodSize * (in_.pcmConfig.channels * 2)

/-- Every stream is fit. -/
structure World.Fit (w : World ρ) : Prop where
  outs : ∀ o, (w.outs o).Fit
  ins : ∀ i, (w.ins i).Fit

section Keep

variable {out : StreamOut ρ} {in_ : StreamIn ρ}

/-- Zero is a number of 32 bits. -/
theorem isInt32_zero : IsInt32 0 := by
  unfold IsInt32
  omega

/-- A stream that was just opened is fit. -/
theorem StreamOut.fit_opened : (StreamOut.opened : StreamOut ρ).Fit :=
  ⟨fun _ => ⟨rfl, rfl⟩, nofun, nofun, fun known => absurd rfl known, isInt32_zero, isInt32_zero⟩

/-- Standby leaves an output stream fit. -/
theorem StreamOut.Fit.stopped (fit : out.Fit) : out.stopped.Fit :=
  ⟨fun _ => ⟨rfl, rfl⟩, nofun, nofun, fit.threshold, fit.current, fit.target⟩

/-- And so does whatever leaves it alone or puts it to rest. -/
theorem StreamOut.Fit.rests {after : StreamOut ρ} (fit : out.Fit) (rests : out.Rests after) :
    after.Fit := by
  -- A stream is as it was, or it holds nothing any more.
  rcases rests with rfl | ⟨_, rfl⟩
  · exact fit
  · exact fit.stopped

/-- Configuring for the main PCM forgets the target, and SCO has the shorter periods. -/
theorem StreamOut.Fit.configure (fit : out.Fit) (standby : out.standby = true) (scoOn : Bool) :
    (out.configure scoOn).Fit := by
  unfold StreamOut.configure
  split
  · refine ⟨fun _ => fit.resting standby, fun running => ?_, fun running => ?_, fun known => ?_,
      fit.current, fit.target⟩
    · -- A stream in standby has no configuration to speak of.
      exact absurd (standby.symm.trans running) (by decide)
    · exact absurd (standby.symm.trans running) (by decide)
    · -- The target was set for periods that were no shorter than those of SCO.
      obtain ⟨low, _, high⟩ := fit.threshold known
      exact ⟨low, low, high⟩
  · refine ⟨fun _ => fit.resting standby, fun running => ?_, fun running => ?_,
      fun known => absurd rfl known, fit.current, fit.target⟩
    · exact absurd (standby.symm.trans running) (by decide)
    · exact absurd (standby.symm.trans running) (by decide)

/-- The route decides which configuration is taken. -/
theorem StreamOut.config_configure (out : StreamOut ρ) (scoOn : Bool) :
    (out.configure scoOn).config = if scoOn then pcmConfigSco else pcmConfigOut := by
  unfold StreamOut.configure
  split <;> rfl

/-- A start keeps the configuration that was taken before it. -/
theorem StreamOut.config_begun (out : StreamOut ρ) (R : ResamplerLib ρ) (env : StartEnv)
    (pcm : Pcm) : (out.begun R env pcm).config = out.config := by
  unfold StreamOut.begun
  split <;> rfl

/-- A start leaves the thresholds and what they were last set for. -/
theorem StreamOut.threshold_begun (out : StreamOut ρ) (R : ResamplerLib ρ) (env : StartEnv)
    (pcm : Pcm) : (out.begun R env pcm).bufferType = out.bufferType ∧
      (out.begun R env pcm).writeThreshold = out.writeThreshold ∧
      (out.begun R env pcm).curWriteThreshold = out.curWriteThreshold := by
  unfold StreamOut.begun
  split <;> exact ⟨rfl, rfl, rfl⟩

/-- The SCO rate differs from the rate of the stream, and the main rate does not. -/
theorem StreamOut.Fit.begun (fit : out.Fit)
    (config : out.config = pcmConfigOut ∨ out.config = pcmConfigSco) (R : ResamplerLib ρ)
    (env : StartEnv) (pcm : Pcm) :
    ({ out.begun R env pcm with standby := false } : StreamOut ρ).Fit := by
  have same : ({ out.begun R env pcm with standby := false } : StreamOut ρ).config = out.config :=
    out.config_begun R env pcm
  obtain ⟨bufferType, target, current⟩ := out.threshold_begun R env pcm
  refine ⟨nofun, fun _ => by rw [same]; exact config, fun _ sco => ?_, fun known => ?_,
    -- A start touches neither the thresholds nor the configuration.
    show IsInt32 (out.begun R env pcm).curWriteThreshold by rw [current]; exact fit.current,
    show IsInt32 (out.begun R env pcm).writeThreshold by rw [target]; exact fit.target⟩
  · -- With the rates of SCO the resampler is given room for 93 frames.
    rw [same] at sco
    unfold StreamOut.begun
    rw [sco, if_pos (by decide)]
    rfl
  · have known : (out.begun R env pcm).bufferType ≠ .unknown := known
    rw [bufferType] at known
    rw [same]
    show (512 : Int) ≤ (out.begun R env pcm).writeThreshold ∧
      _ ≤ (out.begun R env pcm).writeThreshold ∧ (out.begun R env pcm).writeThreshold ≤ 4096
    rw [target]
    exact fit.threshold known

/-- What a running stream is used for keeps it fit, if the target stays within its bounds. -/
theorem StreamOut.Fit.kept {after : StreamOut ρ} (fit : out.Fit) (running : out.standby = false)
    (kept : out.Kept after)
    (threshold : after.bufferType ≠ .unknown → (512 : Int) ≤ after.writeThreshold ∧
      (2 * out.config.periodSize : Int) ≤ after.writeThreshold ∧ after.writeThreshold ≤ 4096)
    (current : IsInt32 after.curWriteThreshold) (target : IsInt32 after.writeThreshold) :
    after.Fit := by
  have config := kept.config
  -- The mode, the configuration and the room are those of the stream before.
  refine ⟨fun resting => ?_, fun _ => ?_, fun _ sco => ?_, fun known => ?_, current, target⟩
  · rw [kept.standby, running] at resting
    cases resting
  · rw [config]
    exact fit.config running
  · rw [kept.bufferFrames]
    exact fit.room running (config ▸ sco)
  · rw [config]
    exact threshold known

/-- A new target is two or eight periods of one of the two configurations. -/
theorem target_bounds {config : PcmConfig} (which : config = pcmConfigOut ∨ config = pcmConfigSco)
    (bufferType : OutBufferType) :
    let target := int32 (config.periodSize *
      (if bufferType = .long then outLongPeriodCount else outShortPeriodCount) : Nat)
    (512 : Int) ≤ target ∧ (2 * config.periodSize : Int) ≤ target ∧ target ≤ 4096 := by
  -- There are two configurations and three sizes to look at.
  rcases which with rfl | rfl <;> cases bufferType <;> decide

/-- What is cut to 32 bits is a number of 32 bits. -/
theorem isInt32_int32 (value : Int) : IsInt32 (int32 value) := by
  -- The balanced remainder lies between the two bounds.
  have low := Int.le_bmod (x := value) (m := 2 ^ 32) (by decide)
  have high := Int.bmod_lt (x := value) (m := 2 ^ 32) (by decide)
  unfold IsInt32 int32
  omega

/-- Moving the current threshold leaves the target, and both are numbers of 32 bits. -/
theorem StreamOut.moved_moveThreshold (out : StreamOut ρ) (kernelFrames : Int)
    (current : IsInt32 out.curWriteThreshold) (target : IsInt32 out.writeThreshold) :
    (out.moveThreshold kernelFrames).bufferType = out.bufferType ∧
      (out.moveThreshold kernelFrames).writeThreshold = out.writeThreshold ∧
      IsInt32 (out.moveThreshold kernelFrames).curWriteThreshold := by
  unfold StreamOut.moveThreshold
  dsimp only
  -- The new value is the target or is cut to 32 bits, and there are six ways to it.
  split_ifs
  · exact ⟨rfl, rfl, target⟩
  · exact ⟨rfl, rfl, isInt32_int32 _⟩
  · exact ⟨rfl, rfl, target⟩
  · exact ⟨rfl, rfl, isInt32_int32 _⟩
  · refine ⟨rfl, rfl, ?_⟩
    dsimp only
    exact isInt32_int32 _
  · exact ⟨rfl, rfl, current⟩

/-- A new target for the write threshold leaves a running stream fit. -/
theorem StreamOut.Fit.adaptBuffer (fit : out.Fit) (running : out.standby = false)
    (bufferType : OutBufferType) : (out.adaptBuffer bufferType).Fit := by
  have bounds := target_bounds (fit.config running) bufferType
  have word := isInt32_int32 (out.config.periodSize *
    (if bufferType = .long then outLongPeriodCount else outShortPeriodCount) : Nat)
  have kept := out.kept_adaptBuffer bufferType
  unfold StreamOut.adaptBuffer at kept ⊢
  dsimp only at bounds kept ⊢
  generalize int32 (out.config.periodSize *
    (if bufferType = .long then outLongPeriodCount else outShortPeriodCount) : Nat) = target
    at bounds word kept ⊢
  split at kept
  · -- The new target is also the current threshold, or that stays.
    rename_i changed
    rw [if_pos changed]
    refine fit.kept running kept (fun _ => bounds) ?_ word
    show IsInt32 (if out.bufferType = .unknown then _ else out.curWriteThreshold)
    split
    · exact word
    · exact fit.current
  · rename_i same
    rw [if_neg same]
    exact fit

/-- And so does a step of the threshold towards its target. -/
theorem StreamOut.Fit.moveThreshold (fit : out.Fit) (running : out.standby = false)
    (kernelFrames : Int) : (out.moveThreshold kernelFrames).Fit := by
  -- Only the current threshold moves, and it stays a number of 32 bits.
  obtain ⟨bufferType, target, current⟩ :=
    out.moved_moveThreshold kernelFrames fit.current fit.target
  refine fit.kept running (out.kept_moveThreshold kernelFrames) (fun known => ?_) current ?_
  · rw [target]
    exact fit.threshold (bufferType ▸ known)
  · rw [target]
    exact fit.target

/-- An input stream that was just opened is fit. -/
theorem StreamIn.fit_opened (sampleRate : Nat) (fast : Bool) :
    (StreamIn.opened sampleRate fast : StreamIn ρ).Fit :=
  ⟨fun _ => ⟨rfl, rfl⟩, ⟨fast, rfl⟩, Or.inl rfl, nofun⟩

/-- Standby leaves an input stream fit. -/
theorem StreamIn.Fit.stopped (fit : in_.Fit) : in_.stopped.Fit :=
  ⟨fun _ => ⟨rfl, rfl⟩, fit.home, fit.config, nofun⟩

/-- And so does whatever leaves it alone or puts it to rest. -/
theorem StreamIn.Fit.rests {after : StreamIn ρ} (fit : in_.Fit) (rests : in_.Rests after) :
    after.Fit := by
  -- Nothing that a stopped stream lost has any bearing on its fitness.
  rcases rests with rfl | ⟨_, rfl⟩
  · exact fit
  · exact fit.stopped

/-- Configuring a stream in standby for a route leaves it fit. -/
theorem StreamIn.Fit.configure (fit : in_.Fit) (standby : in_.standby = true) (scoOn : Bool) :
    (in_.configure scoOn).Fit := by
  -- The configuration is the one for SCO, or the stream's own.
  unfold StreamIn.configure
  split
  · exact ⟨fun _ => fit.resting standby, fit.home, Or.inr rfl,
      fun running => absurd (standby.symm.trans running) (by decide)⟩
  · exact ⟨fun _ => fit.resting standby, fit.home, Or.inl rfl,
      fun running => absurd (standby.symm.trans running) (by decide)⟩

/-- The capture buffer is sized by the configuration of the PCM. -/
theorem StreamIn.Fit.begun (fit : in_.Fit) (R : ResamplerLib ρ) (env : StartEnv) (pcm : Pcm)
    (same : pcm.config = in_.pcmConfig) :
    ({ in_.begun R env pcm with standby := false } : StreamIn ρ).Fit := by
  -- The buffer is as large as a period of the configuration.
  refine ⟨nofun, fit.home, fit.config, fun _ => ?_⟩
  show pcm.framesToBytes in_.pcmConfig.periodSize = _
  rw [Pcm.framesToBytes, same]
  rfl

/-- What serves a running input stream leaves it fit. -/
theorem StreamIn.Fit.kept {after : StreamIn ρ} (fit : in_.Fit) (running : in_.standby = false)
    (kept : in_.Kept after) : after.Fit := by
  -- Fitness is about the fields that capturing keeps.
  refine ⟨fun resting => ?_, ?_, ?_, fun _ => ?_⟩
  · rw [kept.standby, running] at resting
    cases resting
  · rw [kept.pcmConfigNonSco, kept.requestedRate]
    exact fit.home
  · rw [kept.pcmConfigNonSco, kept.pcmConfig]
    exact fit.config
  · rw [kept.bufferSize, kept.pcmConfig]
    exact fit.size running

end Keep

section Runs

variable (R : ResamplerLib ρ) (w : World ρ)

/-- An output stream is fit and running. -/
def OutRuns (o : Nat) (w : World ρ) : Prop := (w.outs o).Fit ∧ (w.outs o).standby = false

/-- A change of a running output stream that leaves its mode and its configuration alone. -/
theorem outRuns_modifyOut (o : Nat) (change : StreamOut ρ → StreamOut ρ)
    (keeps : (w.outs o).Fit → (w.outs o).standby = false →
      (change (w.outs o)).Fit ∧ (change (w.outs o)).standby = false) :
    Leads (Keeps (OutRuns o)) (modifyOut o change) w := by
  -- The stream is the one that is changed.
  intro runs
  unfold OutRuns
  rw [outs_modifyOut]
  exact keeps runs.1 runs.2

/-- What leaves the stream as it is leaves it fit and running. -/
theorem outRuns_of_same {α : Type} {p : Hal ρ α} {o : Nat}
    (same : (p.exec w).2.outs o = w.outs o) : Leads (Keeps (OutRuns o)) p w := by
  -- The step is seen by what it leaves of the stream.
  intro runs
  show ((p.exec w).2.outs o).Fit ∧ ((p.exec w).2.outs o).standby = false
  rw [same]
  exact runs

/-- The throttling loop looks at its stream and leaves it as it is. -/
theorem outs_throttle (o : Nat) (htimestamp : Nat → Option Nat) (fuel : Nat) :
    ∀ round kernelFrames total (w : World ρ),
      ((throttle o htimestamp fuel round kernelFrames total).exec w).2.outs = w.outs := by
  induction fuel with
  | zero => exact fun _ _ _ _ => rfl
  | succ fuel ih =>
    intro round kernelFrames total w
    unfold throttle
    -- A round only calls the kernel, and ends the loop or goes on with the next one.
    rw [exec_getOut_bind, Prog.exec_bind]
    split
    · rfl
    · rw [Prog.exec_bind, Prog.exec_ite]
      split
      · rw [Prog.exec_ite]
        split
        · rfl
        · rw [Prog.exec_bind, Prog.exec_ite]
          split
          · exact ih _ _ _ _
          · rfl
      · rfl

/-- Resampling changes the resampler only. -/
theorem outRuns_convert (o : Nat) (buffer : Samples) (inFrames : Nat) :
    Leads (Keeps (OutRuns o)) (convert R o buffer inFrames) w := by
  refine .bind (outRuns_of_same w rfl) ?_
  refine .ite (fun _ => ?_) fun _ => .pure _
  split
  · -- Converting works on the resampler and its buffer.
    refine .bind (outRuns_modifyOut _ o _ fun fit running => ⟨?_, running⟩) (.pure _)
    exact fit.kept running ⟨rfl, rfl, rfl, rfl, rfl⟩ fit.threshold fit.current fit.target
  · exact .bind (outRuns_of_same _ rfl) (.pure _)

/-- What comes before `pcm_write` moves the threshold, and does not stop the stream. -/
theorem outRuns_prepareWrite (o : Nat) (buffer : Samples) (bytes : Nat) (env : OutWriteEnv)
    (bufferType : OutBufferType) (scoOn : Bool) :
    Leads (Keeps (OutRuns o)) (prepareWrite R o buffer bytes env bufferType scoOn) w := by
  -- Each of the three parts keeps the stream fit and running.
  refine .bind ?_ ?_
  · refine .when fun _ => outRuns_modifyOut _ o _ fun fit running => ?_
    exact ⟨fit.adaptBuffer running bufferType,
      (StreamOut.kept_adaptBuffer _ bufferType).standby.trans running⟩
  · refine .bind (outRuns_convert R _ o _ _) ?_
    refine .bind ?_ (.pure _)
    refine .when fun _ => ?_
    refine .bind ?_ ?_
    · exact outRuns_of_same _ (by rw [outs_throttle])
    · refine outRuns_modifyOut _ o _ fun fit running => ?_
      exact ⟨fit.moveThreshold running _, (StreamOut.kept_moveThreshold _ _).standby.trans running⟩

/-- What follows `pcm_write` counts the frames, and does not stop the stream. -/
theorem outRuns_finishWrite (o bytes : Nat) (frames : OutFrames) (result : Int) :
    Leads (Keeps (OutRuns o)) (finishWrite o bytes frames result) w := by
  -- A broken pipe ends the write before anything is counted.
  refine .bind (outRuns_of_same w rfl) ?_
  refine .bind (outRuns_of_same _ rfl) ?_
  refine .ite (fun _ => ?_) fun _ => ?_
  · exact .bind (.release _) (.pure _)
  · refine .bind ?_ ?_
    · refine .when fun _ => outRuns_modifyOut _ o _ fun fit running => ⟨?_, running⟩
      exact ⟨fit.resting, fit.config, fit.room, fit.threshold, fit.current, fit.target⟩
    · refine .bind (.release _) ?_
      exact .bind (.when fun _ => outRuns_of_same _ rfl) (.pure _)

/-- A write that starts its stream starts a fit one, and leaves a fit one if it cannot. -/
theorem fit_startOutIfStandby (o : Nat) (env : StartEnv) (fit : (w.outs o).Fit) :
    (((startOutIfStandby R o env).exec w).2.outs o).Fit ∧
      (((startOutIfStandby R o env).exec w).1 = 0 →
        (((startOutIfStandby R o env).exec w).2.outs o).standby = false) := by
  rcases startOutIfStandby_cases R w env o with
    ⟨running, same⟩ | ⟨resting, _, _, _, n, own⟩ | ⟨resting, _, ret, n, own⟩
  · rw [same]
    exact ⟨fit, fun _ => running⟩
  · -- A configured stream becomes a running one of one of the two configurations.
    rw [own]
    refine ⟨(fit.configure resting _).begun ?_ R env _, fun _ => rfl⟩
    rw [StreamOut.config_configure]
    split
    · exact Or.inr rfl
    · exact Or.inl rfl
  · -- The closed handle stays behind, and fitness does not care.
    rw [own, ret]
    have configured := fit.configure resting (outScoOn w.adev)
    exact ⟨⟨configured.resting, configured.config, configured.room, configured.threshold,
      configured.current, configured.target⟩, fun zero => absurd zero (by decide)⟩

/-- A write leaves its own stream fit, whatever becomes of the write. -/
theorem fit_outWrite (o : Nat) (buffer : Samples) (bytes : Nat) (env : OutWriteEnv)
    (fit : (w.outs o).Fit) : (((outWrite R o buffer bytes env).exec w).2.outs o).Fit := by
  obtain ⟨begun, running⟩ := fit_startOutIfStandby R w o env.start fit
  unfold outWrite
  rw [Prog.exec_bind, Prog.exec_acquire, Prog.exec_bind, Prog.exec_acquire, Prog.exec_bind,
    Prog.exec_ite]
  -- A write that does not start its stream leaves it as the start did.
  split
  · rw [Prog.exec_bind, Prog.exec_release, outWriteExit, Prog.exec_bind, Prog.exec_release,
      Prog.exec_bind, Prog.exec_when]
    split <;> exact begun
  · -- A running stream is prepared for and finished with, which keeps it running.
    rename_i started
    have running := running (not_not.mp started)
    generalize ((startOutIfStandby R o env.start).exec w).2 = after at begun running
    rw [exec_getAdev_bind, Prog.exec_bind, Prog.exec_release, outWriteRunning, Prog.exec_bind]
    have prepared := outRuns_prepareWrite R after o buffer bytes env
      (if after.adev.screenOff ∧ after.adev.activeIn.isNone then .long else .short)
      (outScoOn after.adev) ⟨begun, running⟩
    exact (outRuns_finishWrite _ o bytes _ env.pcmWrite prepared).1

/-- A read that starts its stream starts a fit one, and leaves a fit one if it cannot. -/
theorem fit_startInIfStandby (i : Nat) (env : StartEnv) (fit : (w.ins i).Fit) :
    (((startInIfStandby R i env).exec w).2.ins i).Fit ∧
      (0 ≤ ((startInIfStandby R i env).exec w).1 →
        (((startInIfStandby R i env).exec w).2.ins i).standby = false) := by
  rcases startInIfStandby_cases R w env i with
    ⟨running, same⟩ | ⟨resting, _, _, n, own⟩ | ⟨resting, _, ret, n, own⟩
  · -- A running stream is left alone.
    rw [same]
    exact ⟨fit, fun _ => running⟩
  · rw [own]
    exact ⟨(fit.configure resting _).begun R env _ rfl, fun _ => rfl⟩
  · -- Here too the closed handle is no concern of fitness.
    rw [own, ret]
    have configured := fit.configure resting (inScoOn w.adev)
    exact ⟨⟨configured.resting, configured.home, configured.config, configured.size⟩,
      fun zero => absurd zero (by decide)⟩

/-- A read leaves its own stream fit, whatever becomes of the read. -/
theorem fit_inRead (i : Nat) (buffer : CallerBuffer) (bytes : Nat) (env : InReadEnv)
    (fit : (w.ins i).Fit) : (((inRead R i buffer bytes env).exec w).2.ins i).Fit := by
  obtain ⟨begun, running⟩ := fit_startInIfStandby R w i env.start fit
  have same : ∀ (call : Call) (v : World ρ),
      Leads (Keeps fun v => (v.ins i).Fit) (record call) v := fun _ _ => id
  suffices keeps : Leads (Keeps fun v => (v.ins i).Fit) (inRead R i buffer bytes env) w from
    keeps fit
  refine .bind (.acquire _) ?_
  refine .bind (.acquire _) ?_
  refine .bind (fun _ => begun) ?_
  refine .bind (.release _) ?_
  refine .bind ?_ ?_
  · refine .ite (fun _ => .pure _) fun started fit => ?_
    -- Capturing keeps everything that fitness is about, as the stream is running.
    exact fit.kept (running (Int.not_lt.mp started))
      (inFrame_inReadRunning R buffer bytes env _).kept
  · refine .bind (fun fit => fit) ?_
    refine .bind (.when fun _ => same _ _) ?_
    exact .bind (.release _) (.pure _)

end Runs

/-- Every stream is fit after a call if all were before it. -/
theorem fit_step (R : ResamplerLib ρ) (w : World ρ) (act : Act) (next : World ρ) (fit : w.Fit)
    (stepped : step R w act = some next) : next.Fit := by
  obtain ⟨_, rfl⟩ : act.enabled w = true ∧ ((act.prog R).exec w).2 = next := by
    simpa [step] using stepped
  have rests := restsBut_prog R w act
  refine ⟨fun o => ?_, fun i => ?_⟩
  · by_cases subject : act.subject = some (.output o)
    · -- The stream of the call is new, or was written to.
      cases act with
      | openOutputStream p calloc config =>
        obtain rfl : p = o := by simpa [Act.subject] using subject
        cases calloc with
        | false => exact fit.outs p
        | true =>
          show (update w.outs p .opened p).Fit
          rw [Function.update_self]
          exact StreamOut.fit_opened
      | outWrite p buffer bytes env =>
        obtain rfl : p = o := by simpa [Act.subject] using subject
        rw [Act.prog, Prog.exec_bind]
        exact fit_outWrite R w p buffer bytes env (fit.outs p)
      | _ => simp [Act.subject] at subject
    · -- Any other stream is at most put into standby.
      exact (fit.outs o).rests (rests.outs o subject)
  · by_cases subject : act.subject = some (.input i)
    · -- An input stream is new, or was read from.
      cases act with
      | openInputStream j calloc config fast =>
        obtain rfl : j = i := by simpa [Act.subject] using subject
        rw [Act.prog, Prog.exec_bind]
        show (((adevOpenInputStream j calloc config fast).exec w).2.ins j).Fit
        unfold adevOpenInputStream
        rw [Prog.exec_ite, Prog.exec_ite]
        split_ifs
        · exact fit.ins j
        · exact fit.ins j
        · show (update w.ins j (.opened config.sampleRate fast) j).Fit
          rw [Function.update_self]
          exact StreamIn.fit_opened _ _
      | inRead j buffer bytes env =>
        obtain rfl : j = i := by simpa [Act.subject] using subject
        rw [Act.prog, Prog.exec_bind]
        exact fit_inRead R w j buffer bytes env (fit.ins j)
      | _ => simp [Act.subject] at subject
    · exact (fit.ins i).rests (rests.ins i subject)

/-- Every stream is fit whatever calls were made. -/
theorem fit_run (R : ResamplerLib ρ) (hardware : Settings) (acts : List Act) (w : World ρ)
    (ran : run (step R) (.initial hardware) acts = some w) : w.Fit := by
  have start : (World.initial hardware : World ρ).Fit :=
    ⟨fun _ => StreamOut.fit_opened, fun _ => StreamIn.fit_opened 0 false⟩
  -- The streams of a fresh device are in standby, and every call keeps all of them fit.
  refine run_invariant' (fun before act after fit stepped => ?_) start ran
  exact fit_step R before act after fit stepped

end Grouper.Audio
