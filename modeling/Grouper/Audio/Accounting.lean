import Grouper.Audio.ActiveStreams

/-! How the frames counted in an output stream relate to the frames its client has written. -/

namespace Grouper.Audio

open Prog (Leads when)

variable {ρ : Type}

/-- A `pcm_write` that took its frames. -/
def Call.isAccepted : Call → Bool
  | pcmWrite _ _ result => result = 0
  | _ => false

/-- How many writes the kernel has accepted so far. -/
def World.accepted (w : World ρ) : Nat := w.calls.countP Call.isAccepted

/-- No frames are counted and no write is accepted. -/
structure Uncounted (before after : World ρ) : Prop where
  written : ∀ o, (after.outs o).written = (before.outs o).written
  accepted : after.accepted = before.accepted

instance : Std.Refl (Uncounted (ρ := ρ)) where
  refl _ := ⟨fun _ => rfl, rfl⟩

instance : IsTrans (World ρ) Uncounted where
  trans _ _ _ one two :=
    ⟨fun o => (two.written o).trans (one.written o), two.accepted.trans one.accepted⟩

section Primitives

variable (w : World ρ)

/-- No call of the kernel counts frames, and only an accepted `pcm_write` is accepted. -/
theorem uncounted_record (call : Call) (unaccepted : call.isAccepted = false) :
    Leads Uncounted (record call) w :=
  ⟨fun _ => rfl, by simp [World.accepted, unaccepted]⟩

/-- The counts are those of streams, not of the device. -/
theorem uncounted_modifyAdev (change : AudioDevice → AudioDevice) :
    Leads Uncounted (modifyAdev change) w := ⟨fun _ => rfl, rfl⟩

/-- Input streams have no such count. -/
theorem uncounted_modifyIn (i : Nat) (change : StreamIn ρ → StreamIn ρ) :
    Leads Uncounted (modifyIn i change) w := ⟨fun _ => rfl, rfl⟩

/-- A change of an output stream that keeps its count. -/
theorem uncounted_modifyOut (o : Nat) (change : StreamOut ρ → StreamOut ρ)
    (kept : (change (w.outs o)).written = (w.outs o).written) :
    Leads Uncounted (modifyOut o change) w := by
  -- The change is stored in the place of the stream, and all others keep theirs.
  refine ⟨fun p => ?_, rfl⟩
  by_cases same : p = o
  · subst same
    simpa using kept
  · simp [same]

/-- Opening a PCM writes nothing to it. -/
theorem uncounted_pcmOpen (stream : StreamRef) (device : Nat) (config : PcmConfig) :
    Leads Uncounted (pcmOpen stream device config) w :=
  ⟨fun _ => rfl, by simp [World.accepted, Call.isAccepted]⟩

/-- The capture path serves an input stream, and the playback path an output stream. -/
theorem accepted_of_serves {before after : World ρ} {pcm : Option Pcm}
    (calls : ∃ new, after.calls = new ++ before.calls ∧ ∀ call ∈ new, call.Serves pcm) :
    after.accepted = before.accepted := by
  obtain ⟨new, logged, serve⟩ := calls
  -- Serving a stream involves no `pcm_write`.
  have none_ : new.countP Call.isAccepted = 0 := List.countP_eq_zero.mpr fun call member => by
    have serves := serve call member
    cases call <;> simp_all [Call.isAccepted, Call.Serves]
  rw [World.accepted, logged, List.countP_append, none_, Nat.zero_add, World.accepted]

/-- The capture path counts nothing. -/
theorem InFrame.uncounted {i : Nat} {before after : World ρ} (frame : InFrame i before after) :
    Uncounted before after :=
  ⟨fun o => by rw [frame.outs], accepted_of_serves frame.calls⟩

/-- Nor does the playback path up to `pcm_write`. -/
theorem OutFrame.uncounted {o : Nat} {before after : World ρ} (frame : OutFrame o before after) :
    Uncounted before after := by
  -- The stream keeps its count, and all others are left alone.
  refine ⟨fun p => ?_, accepted_of_serves frame.calls⟩
  by_cases same : p = o
  · subst same
    exact frame.kept.written
  · rw [frame.others p same]

/-- Reading an output stream counts nothing. -/
theorem uncounted_getOut (o : Nat) : Leads Uncounted (getOut o) w := Std.Refl.refl w

/-- Reading an input stream counts nothing. -/
theorem uncounted_getIn (i : Nat) : Leads Uncounted (getIn i) w := Std.Refl.refl w

/-- Reading the device counts nothing. -/
theorem uncounted_getAdev : Leads Uncounted (getAdev : Hal ρ AudioDevice) w := Std.Refl.refl w

end Primitives

section Helpers

variable (w : World ρ)

/-- Standby keeps the count of its output stream, which is never reset. -/
theorem uncounted_doOutStandby (o : Nat) : Leads Uncounted (doOutStandby o) w := by
  -- The PCM is closed, the slot is cleared, and the resampler and its buffer are freed.
  refine .bind (uncounted_getOut w o) ?_
  refine .when fun _ => ?_
  refine .bind (uncounted_record _ _ rfl) ?_
  refine .bind (uncounted_modifyOut _ o _ rfl) ?_
  refine .bind (uncounted_modifyAdev _ _) ?_
  refine .bind (uncounted_modifyOut _ o _ rfl) ?_
  refine .bind (uncounted_modifyOut _ o _ rfl) ?_
  exact uncounted_modifyOut _ o _ rfl

/-- Standby of an input stream counts nothing. -/
theorem uncounted_doInStandby (i : Nat) : Leads Uncounted (doInStandby i) w := by
  -- The same steps on an input stream.
  refine .bind (uncounted_getIn w i) ?_
  refine .when fun _ => ?_
  refine .bind (uncounted_record _ _ rfl) ?_
  refine .bind (uncounted_modifyIn _ i _) ?_
  refine .bind (uncounted_modifyAdev _ _) ?_
  refine .bind (uncounted_modifyIn _ i _) ?_
  refine .bind (uncounted_modifyIn _ i _) ?_
  exact uncounted_modifyIn _ i _

/-- Stopping a clashing input stream counts nothing. -/
theorem uncounted_stopClashingIn (o : Nat) : Leads Uncounted (stopClashingIn o) w := by
  -- Without an active input stream there is nothing to stop.
  refine .bind (uncounted_getAdev w) ?_
  split
  · exact .pure _
  · refine .bind (.acquire _) ?_
    refine .bind (uncounted_getOut _ _) ?_
    refine .bind (uncounted_getIn _ _) ?_
    exact .bind (.when fun _ => uncounted_doInStandby _ _) (.release _)

/-- Stopping a clashing output stream counts nothing. -/
theorem uncounted_stopClashingOut (i : Nat) : Leads Uncounted (stopClashingOut i) w := by
  -- Without an active output stream there is nothing to stop.
  refine .bind (uncounted_getAdev w) ?_
  split
  · exact .pure _
  · refine .bind (.acquire _) ?_
    refine .bind (uncounted_getIn _ _) ?_
    refine .bind (uncounted_getOut _ _) ?_
    exact .bind (.when fun _ => uncounted_doOutStandby _ _) (.release _)

/-- A start sets up a stream, PCM and resampler included, and keeps its count. -/
theorem uncounted_startOutputStream (R : ResamplerLib ρ) (o : Nat) (env : StartEnv) :
    Leads Uncounted (startOutputStream R o env) w := by
  -- The steps are those of the source; they fork at the check whether the PCM is ready.
  refine .bind (uncounted_getAdev w) ?_
  refine .bind (uncounted_modifyOut _ o _ ?_) ?_
  · unfold StreamOut.configure
    split <;> rfl
  · refine .bind (uncounted_stopClashingIn _ o) ?_
    refine .bind (uncounted_getOut _ o) ?_
    refine .bind (uncounted_pcmOpen _ _ _ _) ?_
    refine .bind (uncounted_modifyOut _ o _ rfl) ?_
    refine .bind (uncounted_record _ _ rfl) ?_
    refine .ite (fun _ => ?_) fun _ => ?_
    · exact .bind (uncounted_record _ _ rfl) (.pure _)
    · refine .bind ?_ ?_
      · refine .when fun _ => ?_
        refine .bind (uncounted_modifyOut _ o _ rfl) ?_
        refine .bind (uncounted_record _ _ rfl) ?_
        exact uncounted_modifyOut _ o _ rfl
      · exact .bind (uncounted_modifyAdev _ _) (.pure _)

/-- Starting an input stream counts nothing. -/
theorem uncounted_startInputStream (R : ResamplerLib ρ) (i : Nat) (env : StartEnv) :
    Leads Uncounted (startInputStream R i env) w := by
  -- The steps are those of the source; they fork at the check whether the PCM is ready.
  refine .bind (uncounted_getAdev w) ?_
  refine .bind (uncounted_modifyIn _ i _) ?_
  refine .bind (uncounted_stopClashingOut _ i) ?_
  refine .bind (uncounted_getIn _ i) ?_
  refine .bind (uncounted_pcmOpen _ _ _ _) ?_
  refine .bind (uncounted_modifyIn _ i _) ?_
  refine .bind (uncounted_record _ _ rfl) ?_
  refine .ite (fun _ => ?_) fun _ => ?_
  · exact .bind (uncounted_record _ _ rfl) (.pure _)
  · refine .bind (.when fun _ => uncounted_modifyIn _ i _) ?_
    refine .bind (uncounted_record _ _ rfl) ?_
    refine .bind (uncounted_modifyIn _ i _) ?_
    exact .bind (uncounted_modifyAdev _ _) (.pure _)

/-- The start that a write begins with counts nothing. -/
theorem uncounted_startOutIfStandby (R : ResamplerLib ρ) (o : Nat) (env : StartEnv) :
    Leads Uncounted (startOutIfStandby R o env) w := by
  -- The standby flag is cleared if the start did not fail.
  refine .bind (uncounted_getOut w o) ?_
  refine .ite (fun _ => ?_) fun _ => .pure _
  refine .bind (uncounted_startOutputStream _ R o env) ?_
  refine .bind ?_ (.pure _)
  refine .when fun _ => ?_
  exact uncounted_modifyOut _ o _ rfl

/-- The start that a read begins with counts nothing. -/
theorem uncounted_startInIfStandby (R : ResamplerLib ρ) (i : Nat) (env : StartEnv) :
    Leads Uncounted (startInIfStandby R i env) w := by
  -- The standby flag is cleared if the start did not fail.
  refine .bind (uncounted_getIn w i) ?_
  refine .ite (fun _ => ?_) fun _ => .pure _
  refine .bind (uncounted_startInputStream _ R i env) ?_
  refine .bind ?_ (.pure _)
  refine .when fun _ => ?_
  exact uncounted_modifyIn _ i _

/-- The way out of a write comes after its count. -/
theorem uncounted_outWriteExit (o bytes : Nat) (ret : Int) :
    Leads Uncounted (outWriteExit o bytes ret) w := by
  refine .bind (.release _) ?_
  exact .bind (.when fun _ => uncounted_record _ _ rfl) (.pure _)

end Helpers

section EntryPoints

variable (w : World ρ)

/-- Standby from outside counts nothing. -/
theorem uncounted_outStandby (o : Nat) : Leads Uncounted (outStandby o) w := by
  -- The mutexes are taken and given back around the standby.
  refine .bind (.acquire _) ?_
  refine .bind (.acquire _) ?_
  refine .bind (uncounted_doOutStandby _ o) ?_
  exact .bind (.release _) (.release _)

/-- Standby of an input stream from outside counts nothing. -/
theorem uncounted_inStandby (i : Nat) : Leads Uncounted (inStandby i) w := by
  -- The mutexes are taken and given back around the standby.
  refine .bind (.acquire _) ?_
  refine .bind (.acquire _) ?_
  refine .bind (uncounted_doInStandby _ i) ?_
  exact .bind (.release _) (.release _)

/-- Reads count nothing. -/
theorem uncounted_inRead (R : ResamplerLib ρ) (i : Nat) (buffer : CallerBuffer) (bytes : Nat)
    (env : InReadEnv) : Leads Uncounted (inRead R i buffer bytes env) w := by
  -- A failed start ends the read, and a running stream is read on its capture path.
  refine .bind (.acquire _) ?_
  refine .bind (.acquire _) ?_
  refine .bind (uncounted_startInIfStandby _ R i _) ?_
  refine .bind (.release _) ?_
  refine .bind ?_ ?_
  · refine .ite (fun _ => .pure _) fun _ => ?_
    exact (inFrame_inReadRunning R buffer bytes env _).uncounted
  · refine .bind (uncounted_getIn _ i) ?_
    refine .bind (.when fun _ => uncounted_record _ _ rfl) ?_
    exact .bind (.release _) (.pure _)

/-- A change of the output route counts nothing, standby included. -/
theorem uncounted_outSetParameters (o : Nat) (routing : Parm Devices) :
    Leads Uncounted (outSetParameters o routing) w := by
  -- Only a route that was given, and is new, stops the stream and changes the device.
  refine .bind (.acquire _) ?_
  refine .bind ?_ ?_
  · refine .when fun _ => ?_
    refine .bind (uncounted_getAdev _) ?_
    refine .when fun _ => ?_
    refine .bind ?_ ?_
    · refine .when fun _ => ?_
      refine .bind (.acquire _) ?_
      exact .bind (uncounted_doOutStandby _ o) (.release _)
    · exact .bind (uncounted_modifyAdev _ _) (uncounted_modifyAdev _ _)
  · exact .bind (.release _) (.pure _)

/-- A change of the input route counts nothing, standby included. -/
theorem uncounted_inSetParameters (i : Nat) (routing : Parm Devices) :
    Leads Uncounted (inSetParameters i routing) w := by
  -- Only a route that was given, and is new, stops the stream and changes the device.
  refine .bind (.acquire _) ?_
  refine .bind ?_ ?_
  · refine .when fun _ => ?_
    refine .bind (uncounted_getAdev _) ?_
    refine .when fun _ => ?_
    refine .bind ?_ ?_
    · refine .when fun _ => ?_
      refine .bind (.acquire _) ?_
      exact .bind (uncounted_doInStandby _ i) (.release _)
    · exact .bind (uncounted_modifyAdev _ _) (uncounted_modifyAdev _ _)
  · exact .bind (.release _) (.pure _)

/-- Orientation and screen state have no part in any count. -/
theorem uncounted_adevSetParameters (orientation screenState : Parm String) :
    Leads Uncounted (adevSetParameters orientation screenState) w := by
  -- Under the mutex, a new orientation makes the mixer be selected anew.
  refine .bind ?_ ?_
  · refine .when fun _ => ?_
    refine .bind (.acquire _) ?_
    refine .bind (uncounted_getAdev _) ?_
    refine .bind ?_ (.release _)
    refine .when fun _ => ?_
    exact .bind (uncounted_modifyAdev _ _) (uncounted_modifyAdev _ _)
  · exact .bind (.when fun _ => uncounted_modifyAdev _ _) (.pure _)

/-- The frames that are written come from a conversion for the configuration of the stream. -/
theorem prepareWrite_converts (R : ResamplerLib ρ) (o : Nat) (buffer : Samples) (bytes : Nat)
    (env : OutWriteEnv) (bufferType : OutBufferType) (scoOn : Bool) :
    ∃ adapted : World ρ, (adapted.outs o).config = (w.outs o).config ∧
      ((prepareWrite R o buffer bytes env bufferType scoOn).exec w).1 =
        ((convert R o buffer (bytes / outFrameSize)).exec adapted).1 := by
  have adapted : OutFrame o w
      ((when (scoOn = false) do modifyOut o fun out => out.adaptBuffer bufferType).exec w).2 :=
    Leads.when fun _ => outFrame_modifyOut _ _ (StreamOut.kept_adaptBuffer _ _)
  refine ⟨_, adapted.kept.config, ?_⟩
  -- The throttling comes after the conversion, and does not change its frames.
  unfold prepareWrite
  rw [Prog.exec_bind, Prog.exec_bind, Prog.exec_bind, Prog.exec_pure]

/-- On a PCM of the stream's own rate, what is written is what the client handed over. -/
theorem frames_prepareWrite (R : ResamplerLib ρ) (o : Nat) (buffer : Samples) (bytes : Nat)
    (env : OutWriteEnv) (bufferType : OutBufferType) (scoOn : Bool)
    (main : (w.outs o).config.rate = outGetSampleRate) :
    ((prepareWrite R o buffer bytes env bufferType scoOn).exec w).1.frames =
      bytes / outFrameSize := by
  -- With the rate of the stream there is nothing to convert.
  obtain ⟨adapted, config, frames⟩ :=
    prepareWrite_converts w R o buffer bytes env bufferType scoOn
  rw [frames]
  unfold convert
  rw [exec_getOut_bind, config, main]
  rfl

/-- A write that is accepted ends with its `pcm_write`, and counts its frames. -/
theorem exec_finishWrite_accepted (o bytes : Nat) (frames : OutFrames) :
    ((finishWrite o bytes frames 0).exec w).2 = { w with
      outs := Function.update w.outs o { w.outs o with
        written := ((w.outs o).written + frames.frames) % 2 ^ 64 }
      calls := .pcmWrite (w.outs o).pcm
        ((List.range (frames.frames * frames.frameSize / 2)).map frames.data) 0 :: w.calls } := by
  simp [finishWrite, outWriteExit, epipe]

/-- A `pcm_write` that is accepted counts its frames, and no other changes any count. -/
theorem counted_finishWrite (o bytes : Nat) (frames : OutFrames) (result : Int) :
    (result ≠ 0 → Uncounted w ((finishWrite o bytes frames result).exec w).2) ∧
      (result = 0 → ((finishWrite o bytes frames result).exec w).2.accepted = w.accepted + 1 ∧
        (∀ p, p ≠ o → (((finishWrite o bytes frames result).exec w).2.outs p).written =
          (w.outs p).written) ∧
        (((finishWrite o bytes frames result).exec w).2.outs o).written =
          ((w.outs o).written + frames.frames) % 2 ^ 64) := by
  -- By the result, which alone decides whether anything is counted.
  constructor
  · intro failed
    have rejected : (Call.pcmWrite (w.outs o).pcm ((List.range (frames.frames *
        frames.frameSize / 2)).map frames.data) result).isAccepted = false := by
      simp [Call.isAccepted, failed]
    refine Leads.bind (uncounted_getOut w o) ?_
    refine .bind (uncounted_record _ _ rejected) ?_
    refine .ite (fun _ => ?_) fun _ => ?_
    · exact .bind (.release _) (.pure _)
    · refine .bind (.when fun taken => absurd taken failed) ?_
      exact uncounted_outWriteExit _ o _ _
  · intro taken
    subst taken
    rw [exec_finishWrite_accepted]
    refine ⟨by simp [World.accepted, Call.isAccepted], fun p other => ?_, ?_⟩
    · simp [other]
    · simp

/-- A write to the stream would go to the main PCM. -/
def OnMain (w : World ρ) (o : Nat) : Prop :=
  if (w.outs o).standby then outScoOn w.adev = false else (w.outs o).config = pcmConfigOut

/-- A stream that is on the main route when a write begins has the main configuration after it. -/
theorem config_of_begun (R : ResamplerLib ρ) (o : Nat) (env : StartEnv) (settled : w.ctl.Settled)
    (main : OnMain w o) (begun : ((startOutIfStandby R o env).exec w).1 = 0) :
    (((startOutIfStandby R o env).exec w).2.outs o).config = pcmConfigOut := by
  have start := begun_output R w env o
  change (((startOutIfStandby R o env).exec w).2.ctl.stream (.output o)).config = pcmConfigOut
  unfold OnMain at main
  unfold Begun at start
  -- A stream in standby is configured for its route now, and a running one was before.
  by_cases rested : (w.outs o).standby = true
  · rw [if_pos rested] at main
    rw [if_pos (show (w.ctl.stream (.output o)).standby = true from rested)] at start
    -- The start cannot have failed, since its result is zero.
    split_ifs at start
    · obtain ⟨_, uses, ended⟩ := start
      have config : ((w.ctl.prepare (.output o)).stream (.output o)).config = pcmConfigOut := by
        rw [(settled.prepare_config (.output o)).1, Ctl.target, if_neg (by
          simpa [StreamRef.dir] using main)]
        rfl
      rw [ended]
      simpa [Ctl.wake, Ctl.started] using config
    · rw [start.1] at begun
      exact absurd begun (by decide)
  · rw [if_neg rested] at main
    rw [if_neg (show ¬ (w.ctl.stream (.output o)).standby = true from rested)] at start
    rw [start.2]
    exact main

/-- A write to the stream is accepted: the stream runs or starts, and `pcm_write` returns 0. -/
def Accepts (w : World ρ) (o : Nat) (env : OutWriteEnv) : Prop :=
  env.pcmWrite = 0 ∧ ((w.outs o).standby = true → env.start.pcmIsReady = true)

/-- A stream whose start did not fail was running, or found its PCM ready. -/
theorem ready_of_begun (R : ResamplerLib ρ) (o : Nat) (env : StartEnv)
    (begun : ((startOutIfStandby R o env).exec w).1 = 0) (rested : (w.outs o).standby = true) :
    env.pcmIsReady = true := by
  -- Otherwise the start would have failed.
  have start := begun_output R w env o
  unfold Begun at start
  rw [if_pos (show (w.ctl.stream (.output o)).standby = true from rested)] at start
  split_ifs at start with ready
  · exact ready
  · rw [start.1] at begun
    exact absurd begun (by decide)

/-- What a write does to the counts: nothing, or it is accepted and its frames are counted. -/
theorem counted_outWrite (R : ResamplerLib ρ) (o : Nat) (buffer : Samples) (bytes : Nat)
    (env : OutWriteEnv) (settled : w.ctl.Settled) :
    Uncounted w ((outWrite R o buffer bytes env).exec w).2 ∨
      Accepts w o env ∧ ((outWrite R o buffer bytes env).exec w).2.accepted = w.accepted + 1 ∧
        (∀ p, p ≠ o → (((outWrite R o buffer bytes env).exec w).2.outs p).written =
          (w.outs p).written) ∧
        ∃ frames, (((outWrite R o buffer bytes env).exec w).2.outs o).written =
            ((w.outs o).written + frames) % 2 ^ 64 ∧
          (OnMain w o → frames = bytes / outFrameSize) := by
  have start := uncounted_startOutIfStandby w R o env.start
  have config := config_of_begun w R o env.start settled
  have running := ready_of_begun w R o env.start
  unfold Leads at start
  unfold outWrite
  simp only [Prog.exec_bind, Prog.exec_acquire]
  generalize (startOutIfStandby R o env.start).exec w = result at start config running ⊢
  obtain ⟨ret, after⟩ := result
  dsimp only at start config running ⊢
  rw [Prog.exec_ite, Prog.exec_bind, Prog.exec_release, exec_getAdev_bind, Prog.exec_bind,
    Prog.exec_release]
  -- What comes before the final `pcm_write` counts nothing, so that write alone decides.
  by_cases begun : ret = 0
  · rw [if_neg (not_not.mpr begun), outWriteRunning, Prog.exec_bind]
    have prepared := outFrame_prepareWrite R (o := o) buffer bytes env
      (if after.adev.screenOff ∧ after.adev.activeIn.isNone then .long else .short)
      (outScoOn after.adev) after
    have frames := frames_prepareWrite after R o buffer bytes env
      (if after.adev.screenOff ∧ after.adev.activeIn.isNone then .long else .short)
      (outScoOn after.adev)
    unfold Leads at prepared
    generalize (prepareWrite R o buffer bytes env
      (if after.adev.screenOff ∧ after.adev.activeIn.isNone then .long else .short)
      (outScoOn after.adev)).exec after = ready at prepared frames ⊢
    have quiet : Uncounted w ready.2 := IsTrans.trans _ _ _ start prepared.uncounted
    obtain ⟨refused, taken⟩ := counted_finishWrite ready.2 o bytes ready.1 env.pcmWrite
    by_cases accepted : env.pcmWrite = 0
    · obtain ⟨count, others, own⟩ := taken accepted
      refine Or.inr ⟨⟨accepted, running begun⟩, count.trans (by rw [quiet.accepted]),
        fun p apart => (others p apart).trans (quiet.written p), ready.1.frames, ?_, fun main => ?_⟩
      · exact own.trans (by rw [quiet.written])
      · exact frames (by rw [config main begun]; rfl)
    · exact Or.inl (IsTrans.trans _ _ _ quiet (refused accepted))
  · rw [if_pos begun]
    exact Or.inl (IsTrans.trans _ _ _ start (uncounted_outWriteExit after o bytes ret))

end EntryPoints

/-- The frames a client has had accepted since its stream was opened, after one more call. -/
def tally (o : Nat) (w next : World ρ) (total : Nat) : Act → Nat
  | .openOutputStream p true _ => if p = o then 0 else total
  | .outWrite p _ bytes _ =>
    if p = o ∧ w.accepted < next.accepted then total + bytes / outFrameSize else total
  | _ => total

/-- Calls, with the frames of one stream tallied on the side. -/
def tallied (R : ResamplerLib ρ) (o : Nat) (state : World ρ × Nat) (act : Act) :
    Option (World ρ × Nat) :=
  (step R state.1 act).map fun next => (next, tally o state.1 next state.2 act)

/-- Every write to the stream that is accepted goes to the main PCM. -/
def AcceptedOnMain (o : Nat) (state : World ρ × Nat) : Act → Prop
  | .outWrite p _ _ env => p = o → Accepts state.1 o env → OnMain state.1 o
  | _ => True

/-- What has been counted is what has been tallied, up to the width of the counter. -/
def Counted (o : Nat) (state : World ρ × Nat) : Prop :=
  state.1.ctl.Settled ∧ (state.1.outs o).written = state.2 % 2 ^ 64

/-- Calls other than an accepted write and an opening leave count and tally alone. -/
theorem Uncounted.counted {o : Nat} {w next : World ρ} {total : Nat} {act : Act}
    (same : Uncounted w next) (settled : next.ctl.Settled)
    (tallies : tally o w next total act = total) (counted : Counted o (w, total)) :
    Counted o (next, tally o w next total act) :=
  ⟨settled, by rw [tallies]; exact (same.written o).trans counted.2⟩

/-- Apart from opening and writing to output streams, no call counts anything. -/
theorem uncounted_prog (R : ResamplerLib ρ) (w : World ρ) (act : Act)
    (opens : ∀ o calloc config, act ≠ .openOutputStream o calloc config)
    (writes : ∀ o buffer bytes env, act ≠ .outWrite o buffer bytes env) :
    Leads Uncounted (act.prog R) w := by
  -- By the call; only opens and writes are left out.
  cases act with
  | openOutputStream o calloc config => exact absurd rfl (opens o calloc config)
  | outWrite o buffer bytes env => exact absurd rfl (writes o buffer bytes env)
  | closeOutputStream o => exact .bind (uncounted_outStandby w o) ⟨fun _ => rfl, rfl⟩
  | openInputStream i calloc config fast =>
    refine .bind ?_ (.pure _)
    refine .ite (fun _ => .pure _) fun _ => ?_
    refine .ite (fun _ => .pure _) fun _ => ?_
    exact ⟨fun _ => rfl, rfl⟩
  | closeInputStream i => exact .bind (uncounted_inStandby w i) ⟨fun _ => rfl, rfl⟩
  | inRead i buffer bytes env => exact .bind (uncounted_inRead w R i buffer bytes env) (.pure _)
  | outStandby o => exact uncounted_outStandby w o
  | inStandby i => exact uncounted_inStandby w i
  | outSetParameters o routing => exact .bind (uncounted_outSetParameters w o routing) (.pure _)
  | inSetParameters i routing => exact .bind (uncounted_inSetParameters w i routing) (.pure _)
  | outGetPresentationPosition o htimestamp => exact ⟨fun _ => rfl, rfl⟩
  | outGetLatency o => exact ⟨fun _ => rfl, rfl⟩
  | adevSetParameters orientation screenState =>
    exact .bind (uncounted_adevSetParameters w orientation screenState) (.pure _)
  | adevSetMicMute state => exact ⟨fun _ => rfl, rfl⟩

/-- An accepted write on the main PCM adds the same frames to the count and to the tally. -/
theorem counted_write (R : ResamplerLib ρ) {o p : Nat} {w : World ρ} {total : Nat}
    (buffer : Samples) (bytes : Nat) (env : OutWriteEnv) (counted : Counted o (w, total))
    (main : p = o → Accepts w o env → OnMain w o)
    (settled : ((outWrite R p buffer bytes env).exec w).2.ctl.Settled) :
    Counted o (((outWrite R p buffer bytes env).exec w).2, tally o w
      ((outWrite R p buffer bytes env).exec w).2 total (.outWrite p buffer bytes env)) := by
  -- The tally counts a write precisely when the log has one more accepted write.
  rcases counted_outWrite w R p buffer bytes env counted.1 with
    same | ⟨accepts, accepted, others, frames, own, fits⟩
  · refine same.counted settled (if_neg fun taken => ?_) counted
    exact absurd taken.2 (by rw [same.accepted]; exact Nat.lt_irrefl _)
  · refine ⟨settled, ?_⟩
    have before : (w.outs o).written = total % 2 ^ 64 := counted.2
    dsimp only [tally]
    by_cases same : p = o
    · subst same
      -- The counter wraps, and so does the tally once it is reduced.
      rw [own, fits (main rfl accepts), before, if_pos ⟨rfl, by omega⟩]
      omega
    · rw [others o (Ne.symm same), if_neg fun taken => same taken.1]
      exact before

/-- Every call keeps count and tally together, if what it has accepted goes to the main PCM. -/
theorem counted_step (R : ResamplerLib ρ) (o : Nat) (state : World ρ × Nat) (act : Act)
    (next : World ρ × Nat) (counted : Counted o state) (main : AcceptedOnMain o state act)
    (stepped : tallied R o state act = some next) : Counted o next := by
  obtain ⟨w, total⟩ := state
  obtain ⟨after, took, rfl⟩ := Option.map_eq_some_iff.mp stepped
  have settled := settled_step R w act after counted.1 took
  obtain ⟨_, ended⟩ : act.enabled w = true ∧ ((act.prog R).exec w).2 = after := by
    simpa [step] using took
  -- Only an opening and a write do anything to the count or to the tally.
  clear took stepped
  cases act with
  | openOutputStream p calloc config =>
    subst ended
    cases calloc with
    | false => exact Uncounted.counted ⟨fun _ => rfl, rfl⟩ settled (by rfl) counted
    | true =>
      -- A new stream starts both from zero, and another stream keeps both.
      refine ⟨settled, ?_⟩
      by_cases same : o = p
      · subst same
        simp [Act.prog, adevOpenOutputStream, tally, StreamOut.opened]
      · simpa [Act.prog, adevOpenOutputStream, tally, same, Ne.symm same] using counted.2
  | outWrite p buffer bytes env =>
    rw [Act.prog, Prog.exec_bind, Prog.exec_pure] at ended
    subst ended
    exact counted_write R buffer bytes env counted main settled
  | _ =>
    subst ended
    exact Uncounted.counted (uncounted_prog R w _ (by simp) (by simp)) settled (by rfl) counted

/-- The position of a stream on the main PCM, from what has been counted. -/
theorem position_of_written (o : Nat) (w : World ρ) (total avail : Nat)
    (config : (w.outs o).config = pcmConfigOut) (written : (w.outs o).written = total % 2 ^ 64)
    (few : total < 2 ^ 63) (room : avail ≤ outPeriodSize * outLongPeriodCount) :
    ((outGetPresentationPosition o (some avail)).exec w).1 =
      if total + avail < outPeriodSize * outLongPeriodCount then none
      else some (total + avail - outPeriodSize * outLongPeriodCount) := by
  have kernel : (w.outs o).config.periodSize * (w.outs o).config.periodCount = 4096 := by
    rw [config]
    rfl
  have size : outPeriodSize * outLongPeriodCount = 4096 := rfl
  have count : total % 2 ^ 64 = total := Nat.mod_eq_of_lt (by omega)
  rw [size] at room ⊢
  -- The difference fits a signed 64-bit number, so it is the position or it is negative.
  have fits : ((total : Int) - (4096 : Nat) + avail).bmod (2 ^ 64) =
      (total : Int) - 4096 + avail := Int.bmod_eq_of_le (by omega) (by omega)
  unfold outGetPresentationPosition
  rw [Prog.exec_bind, Prog.exec_acquire, exec_getOut_bind]
  simp only [Prog.exec_bind, exec_record, Prog.exec_release, Prog.exec_pure, Option.bind_some,
    kernel, written, count, fits]
  -- The source tests the difference for a sign, and the statement compares it before.
  split_ifs with negative early early
  · omega
  · exact congrArg some (by omega)
  · rfl
  · omega

/-- With the whole buffer of its PCM available, the position of a stream is all it has written. -/
theorem position_of_empty (o : Nat) (w : World ρ) (total : Nat)
    (written : (w.outs o).written = total % 2 ^ 64) (few : total < 2 ^ 63) :
    ((outGetPresentationPosition o (some ((w.outs o).config.periodSize *
      (w.outs o).config.periodCount))).exec w).1 = some total := by
  have count : total % 2 ^ 64 = total := Nat.mod_eq_of_lt (by omega)
  -- What is subtracted for the buffer of the PCM is added again for what is available in it.
  have cancels : ∀ size : Nat, ((total : Int) - size + size).bmod (2 ^ 64) = total := by
    intro size
    rw [Int.sub_add_cancel]
    exact Int.bmod_eq_of_le (by omega) (by omega)
  unfold outGetPresentationPosition
  rw [Prog.exec_bind, Prog.exec_acquire, exec_getOut_bind]
  simp only [Prog.exec_bind, exec_record, Prog.exec_release, Prog.exec_pure, Option.bind_some,
    written, count, cancels]
  rw [if_pos (Int.natCast_nonneg total), Int.toNat_natCast]

/--
While every accepted write goes to the main PCM, the frames counted are the client's.

The position that is derived from them is then a number of client frames as well: on the main PCM
the total less what its buffer still holds; and on any other one the total, since no write to it was
accepted and the whole of its buffer is available.
-/
theorem written_eq_clientFrames (R : ResamplerLib ρ) (hardware : Settings) (o : Nat)
    (acts : List Act) (final : World ρ) (total : Nat)
    (ran : run (tallied R o) (.initial hardware, 0) acts = some (final, total))
    (main : Along (tallied R o) (AcceptedOnMain o) (.initial hardware, 0) acts) :
    (final.outs o).written = total % 2 ^ 64 ∧
      (∀ avail, avail ≤ outPeriodSize * outLongPeriodCount → total < 2 ^ 63 →
        (final.outs o).config = pcmConfigOut →
        ((outGetPresentationPosition o (some avail)).exec final).1 =
          if total + avail < outPeriodSize * outLongPeriodCount then none
          else some (total + avail - outPeriodSize * outLongPeriodCount)) ∧
      (total < 2 ^ 63 →
        ((outGetPresentationPosition o (some ((final.outs o).config.periodSize *
          (final.outs o).config.periodCount))).exec final).1 = some total) := by
  -- The count is kept along the run, and both positions are read off it.
  have start : Counted o ((World.initial hardware : World ρ), 0) :=
    ⟨settled_initial hardware, rfl⟩
  have counted := run_invariant (counted_step R o) start main ran
  have onMain : ∀ avail, avail ≤ outPeriodSize * outLongPeriodCount → total < 2 ^ 63 →
      (final.outs o).config = pcmConfigOut →
        ((outGetPresentationPosition o (some avail)).exec final).1 =
          if total + avail < outPeriodSize * outLongPeriodCount then none
          else some (total + avail - outPeriodSize * outLongPeriodCount) :=
    fun avail room few config => position_of_written o final total avail config counted.2 few room
  exact ⟨counted.2, onMain, position_of_empty o final total counted.2⟩

/-- A stream is opened, routed to the given devices, and written to once. -/
def writesRoutedTo (devices : Devices) : List Act :=
  [.openOutputStream 0 true ⟨outSamplingRate, audioChannelOutStereo⟩,
    .outSetParameters 0 ⟨0, devices⟩, .outWrite 0 (fun _ => 0) 180 .fine]

/-- Of 45 frames written to the headset, ten are still in a buffer that has room for the rest. -/
theorem written_eq_clientFrames_headset : ∃ final : World (Nat × Nat),
    run (tallied .nearest 0) (.initial fun _ => none, 0)
      (writesRoutedTo audioDeviceOutWiredHeadset) = some (final, 45) ∧
      (final.outs 0).written = 45 ∧
        ((outGetPresentationPosition 0 (some 4086)).exec final).1 = some 35 ∧
          ((outGetPresentationPosition 0 (some ((final.outs 0).config.periodSize *
            (final.outs 0).config.periodCount))).exec final).1 = some 45 := by
  refine ⟨_, rfl, ?_⟩
  -- The write comes third, on a stream in standby and a route without SCO.
  have main : Along (tallied .nearest 0) (AcceptedOnMain 0)
      ((.initial fun _ => none : World (Nat × Nat)), 0)
      (writesRoutedTo audioDeviceOutWiredHeadset) := by
    refine ⟨trivial, fun _ opened => ⟨trivial, fun _ routed => ⟨fun _ _ => ?_, fun _ _ => trivial⟩⟩⟩
    obtain rfl := Option.some.inj opened
    obtain rfl := Option.some.inj routed
    exact rfl
  obtain ⟨written, onMain, onAny⟩ := written_eq_clientFrames .nearest (fun _ => none) 0
    (writesRoutedTo audioDeviceOutWiredHeadset) _ 45 rfl main
  exact ⟨written, onMain 4086 (by decide) (by decide) rfl, onAny (by decide)⟩

/-- On SCO 45 client frames are counted as the 8 frames they were resampled to. -/
theorem written_ne_clientFrames : ∃ final : World (Nat × Nat),
    run (tallied .nearest 0) (.initial fun _ => none, 0) (writesRoutedTo 0x10) =
      some (final, 45) ∧ (final.outs 0).written = 8 ∧ (final.outs 0).written ≠ 45 := by
  -- Fewer frames were counted than the client has written.
  refine ⟨_, rfl, rfl, fun same => ?_⟩
  have counted : 8 = 45 := same
  exact absurd counted (by decide)

end Grouper.Audio
