import Grouper.Audio.Control
import Grouper.Audio.Frames

/-! Every entry point does to routes, slots and handles what the control machine says. -/

namespace Grouper.Audio

open Function (update)
open Prog (when)

variable {ρ : Type}

/-- An output stream, as the control machine sees it. -/
def StreamOut.ctl (out : StreamOut ρ) (isOpen : Bool) : StreamCtl :=
  ⟨isOpen, out.standby, out.pcm, out.config, pcmConfigOut⟩

/-- An input stream, as the control machine sees it. -/
def StreamIn.ctl (in_ : StreamIn ρ) (isOpen : Bool) : StreamCtl :=
  ⟨isOpen, in_.standby, in_.pcm, in_.pcmConfig, in_.pcmConfigNonSco⟩

/-- The world, as the control machine sees it. -/
def World.ctl (w : World ρ) : Ctl where
  device
    | .playback => w.adev.outDevice
    | .capture => w.adev.inDevice
  active
    | .playback => w.adev.activeOut.map .output
    | .capture => w.adev.activeIn.map .input
  stream
    | .output o => (w.outs o).ctl (w.outOpen o)
    | .input i => (w.ins i).ctl (w.inOpen i)
  opened := w.opened
  log := w.handleLog

/-- What a call does as far as control is concerned, if it serves its stream that often. -/
def Act.ctl (uses : Nat) : Act → CtlAct
  | .openOutputStream o calloc _ =>
    if calloc = false then .idle else .open_ (.output o) default pcmConfigOut
  | .closeOutputStream o => .close (.output o)
  | .openInputStream i calloc config fast =>
    if config.channelMask ≠ audioChannelInMono then .idle
    else if calloc = false then .idle
    else
      let home := inDefaultConfig config.sampleRate fast
      .open_ (.input i) home home
  | .closeInputStream i => .close (.input i)
  | .outWrite o _ _ env => .transfer (.output o) env.start.pcmIsReady uses
  | .inRead i _ _ env => .transfer (.input i) env.start.pcmIsReady uses
  | .outStandby o => .stop (.output o)
  | .inStandby i => .stop (.input i)
  | .outSetParameters o routing =>
    if routing.ret ≥ 0 then .route (.output o) routing.value else .idle
  | .inSetParameters i routing =>
    if routing.ret ≥ 0 then .route (.input i) (routing.value &&& ~~~audioDeviceBitIn) else .idle
  | .outGetPresentationPosition o _ => .query (.output o)
  | .outGetLatency _ | .adevSetParameters _ _ | .adevSetMicMute _ => .idle

section View

variable (w : World ρ)

/-- A changed output stream shows in the control machine as itself and nothing else. -/
theorem stream_setOut (o : Nat) (out : StreamOut ρ) (adev : AudioDevice) (opened : Nat)
    (calls : List Call) :
    (World.ctl { w with
      adev := adev
      outs := update w.outs o out
      opened := opened
      calls := calls }).stream =
      update w.ctl.stream (.output o) (out.ctl (w.outOpen o)) := by
  -- The other streams are read off what was not changed.
  funext s
  cases s with
  | input i => simp [World.ctl]
  | output p =>
    by_cases same : p = o
    · subst same
      simp [World.ctl]
    · simp [World.ctl, same]

/-- A changed input stream shows there as itself and nothing else. -/
theorem stream_setIn (i : Nat) (in_ : StreamIn ρ) (adev : AudioDevice) (opened : Nat)
    (calls : List Call) :
    (World.ctl { w with
      adev := adev
      ins := update w.ins i in_
      opened := opened
      calls := calls }).stream =
      update w.ctl.stream (.input i) (in_.ctl (w.inOpen i)) := by
  -- The other streams are read off what was not changed.
  funext s
  cases s with
  | output o => simp [World.ctl]
  | input j =>
    by_cases same : j = i
    · subst same
      simp [World.ctl]
    · simp [World.ctl, same]

/-- The control of an output stream is read off that stream. -/
@[simp] theorem ctl_stream_output (o : Nat) :
    w.ctl.stream (.output o) = (w.outs o).ctl (w.outOpen o) := rfl

/-- The control of an input stream is read off that stream. -/
@[simp] theorem ctl_stream_input (i : Nat) :
    w.ctl.stream (.input i) = (w.ins i).ctl (w.inOpen i) := rfl

/-- Playback is on SCO when the output device is a SCO one. -/
@[simp] theorem ctl_sco_playback : w.ctl.sco .playback = outScoOn w.adev := rfl

/-- Capture is on SCO when the input device is a SCO one. -/
@[simp] theorem ctl_sco_capture : w.ctl.sco .capture = inScoOn w.adev := rfl

end View

/-- Calls that serve a running stream are uses of its handle in the log. -/
theorem handleLog_serves {pcm : Option Pcm} {calls : List Call}
    (serve : ∀ call ∈ calls, call.Serves pcm) :
    ∃ uses, calls.filterMap Call.handleEvent = List.replicate uses (.used pcm) := by
  induction calls with
  | nil => exact ⟨0, rfl⟩
  | cons call rest ih =>
    obtain ⟨uses, logged⟩ := ih fun other member => serve other (List.mem_cons_of_mem _ member)
    have here := serve call List.mem_cons_self
    -- A sleep and a null dereference leave no event, and the other calls leave a use.
    cases call with
    | usleep _ => exact ⟨uses, by simpa [List.filterMap_cons, Call.handleEvent] using logged⟩
    | nullDereference => exact ⟨uses, by simpa [List.filterMap_cons, Call.handleEvent] using logged⟩
    | pcmRead handle bytes =>
      exact ⟨uses + 1, by simp_all [Call.handleEvent, Call.Serves, List.replicate_succ]⟩
    | pcmGetHtimestamp handle =>
      exact ⟨uses + 1, by simp_all [Call.handleEvent, Call.Serves, List.replicate_succ]⟩
    | pcmGetBufferSize handle =>
      exact ⟨uses + 1, by simp_all [Call.handleEvent, Call.Serves, List.replicate_succ]⟩
    | pcmOpen _ _ => exact here.elim
    | pcmClose _ => exact here.elim
    | pcmIsReady _ => exact here.elim
    | pcmFramesToBytes _ => exact here.elim
    | pcmWrite _ _ _ => exact here.elim

/-- The capture path serves its stream and changes nothing else. -/
theorem InFrame.ctl {i : Nat} {before after : World ρ} (frame : InFrame i before after) :
    ∃ uses, after.ctl = before.ctl.serve (.input i) uses := by
  obtain ⟨new, logged, serve⟩ := frame.calls
  -- Routes and slots stay, and of the streams only the served one has changed, in other fields.
  obtain ⟨uses, events⟩ := handleLog_serves serve
  refine ⟨uses, Ctl.ext ?_ ?_ (funext fun s => ?_) frame.opened ?_⟩
  · simp [World.ctl, Ctl.serve, frame.adev]
  · simp [World.ctl, Ctl.serve, frame.adev]
  · cases s with
    | output o => simp [Ctl.serve, frame.outs, frame.outOpen]
    | input j =>
      by_cases same : j = i
      · subst same
        simp [Ctl.serve, StreamIn.ctl, frame.kept.pcm, frame.kept.pcmConfig,
          frame.kept.pcmConfigNonSco, frame.kept.standby, frame.inOpen]
      · simp [Ctl.serve, frame.others j same, frame.inOpen]
  · simp [World.ctl, World.handleLog, Ctl.serve, StreamIn.ctl, logged, events]

/-- The playback path serves its stream and changes nothing else. -/
theorem OutFrame.ctl {o : Nat} {before after : World ρ} (frame : OutFrame o before after) :
    ∃ uses, after.ctl = before.ctl.serve (.output o) uses := by
  -- The log of the playback path has nothing but uses of the stream's own handle.
  obtain ⟨new, logged, serve⟩ := frame.calls
  obtain ⟨uses, events⟩ := handleLog_serves serve
  refine ⟨uses, Ctl.ext ?_ ?_ (funext fun s => ?_) frame.opened ?_⟩
  · simp [World.ctl, Ctl.serve, frame.adev]
  · simp [World.ctl, Ctl.serve, frame.adev]
  · cases s with
    | input i => simp [Ctl.serve, frame.ins, frame.inOpen]
    | output p =>
      by_cases same : p = o
      · subst same
        simp [Ctl.serve, StreamOut.ctl, StreamOut.config, frame.kept.pcm, frame.kept.pcmConfig,
          frame.kept.standby, frame.outOpen]
      · simp [Ctl.serve, frame.others p same, frame.outOpen]
  · simp [World.ctl, World.handleLog, Ctl.serve, StreamOut.ctl, logged, events]

section Standby

variable (w : World ρ)

/-- What an output stream in the middle of playback is left with. -/
theorem exec_doOutStandby (o : Nat) : ((doOutStandby o).exec w).2 =
    if (w.outs o).standby = false then { w with
      adev := { w.adev with activeOut := none }
      outs := update w.outs o { w.outs o with
        pcm := none
        resampler := none
        buffer := none
        standby := true }
      calls := .pcmClose (w.outs o).pcm :: w.calls }
    else w := by
  simp [doOutStandby]

/--
What standby of an input stream leaves, if it was running, and that it leaves a stream in standby
alone.
-/
theorem exec_doInStandby (i : Nat) : ((doInStandby i).exec w).2 =
    if (w.ins i).standby = false then { w with
      adev := { w.adev with activeIn := none }
      ins := update w.ins i { w.ins i with
        pcm := none
        resampler := none
        buffer := none
        standby := true }
      calls := .pcmClose (w.ins i).pcm :: w.calls }
    else w := by
  simp [doInStandby]

/-- Emptying the slot of a direction is one update of the slots. -/
theorem active_setOut (active : Option StreamRef) :
    (fun d => match d with
      | .playback => active
      | .capture => w.adev.activeIn.map .input) = update w.ctl.active .playback active := by
  funext d
  cases d <;> rfl

/-- Setting the active input sets the slot of the capture direction. -/
theorem active_setIn (active : Option StreamRef) :
    (fun d => match d with
      | .playback => w.adev.activeOut.map .output
      | .capture => active) = update w.ctl.active .capture active := by
  funext d
  cases d <;> rfl

/-- Standby of an output stream is a stop of the control machine. -/
theorem ctl_doOutStandby (o : Nat) :
    ((doOutStandby o).exec w).2.ctl = w.ctl.stop (.output o) := by
  -- A stream in standby is left alone on both sides.
  rw [exec_doOutStandby]
  by_cases standby : (w.outs o).standby = false
  · have running : (w.ctl.stream (.output o)).standby = false := standby
    rw [if_pos standby, Ctl.stop, running]
    exact Ctl.ext rfl (active_setOut w none) (stream_setOut w ..) rfl rfl
  · rw [if_neg standby, Ctl.stop_of_standby _ _ (by simpa [StreamOut.ctl] using standby)]

/-- And so is standby of an input stream. -/
theorem ctl_doInStandby (i : Nat) : ((doInStandby i).exec w).2.ctl = w.ctl.stop (.input i) := by
  -- A stream in standby is left alone on both sides.
  rw [exec_doInStandby]
  by_cases standby : (w.ins i).standby = false
  · have running : (w.ctl.stream (.input i)).standby = false := standby
    rw [if_pos standby, Ctl.stop, running]
    exact Ctl.ext rfl (active_setIn w none) (stream_setIn w ..) rfl rfl
  · rw [if_neg standby, Ctl.stop_of_standby _ _ (by simpa [StreamIn.ctl] using standby)]

/-- The input stream is stopped if its rate clashes with that of the output stream. -/
theorem ctl_stopClashingIn (o : Nat) :
    ((stopClashingIn o).exec w).2.ctl = w.ctl.stopClashing (.output o) := by
  unfold stopClashingIn Ctl.stopClashing
  rw [exec_getAdev_bind]
  have slot : w.ctl.active (StreamRef.output o).dir.other = w.adev.activeIn.map .input := rfl
  rw [slot]
  cases w.adev.activeIn with
  | none => rfl
  | some i =>
    -- Both sides compare the rates of the same two streams.
    have same : rateClash (w.ctl.stream (.output o)).config.rate
        (w.ctl.stream (.input i)).config.rate =
          rateClash (w.outs o).config.rate (w.ins i).pcmConfig.rate := rfl
    dsimp only [Option.map_some]
    rw [same, Prog.exec_bind, Prog.exec_acquire, exec_getOut_bind, exec_getIn_bind, Prog.exec_bind,
      Prog.exec_when, Prog.exec_release]
    split
    · exact ctl_doInStandby w i
    · rfl

/-- And the output stream, if its rate clashes with that of the input stream. -/
theorem ctl_stopClashingOut (i : Nat) :
    ((stopClashingOut i).exec w).2.ctl = w.ctl.stopClashing (.input i) := by
  -- Both sides look at the same slot, and compare the same rates.
  unfold stopClashingOut Ctl.stopClashing
  rw [exec_getAdev_bind]
  have slot : w.ctl.active (StreamRef.input i).dir.other = w.adev.activeOut.map .output := rfl
  rw [slot]
  cases w.adev.activeOut with
  | none => rfl
  | some o =>
    have same : rateClash (w.ctl.stream (.input i)).config.rate
        (w.ctl.stream (.output o)).config.rate =
          rateClash (w.ins i).pcmConfig.rate (w.outs o).config.rate := rfl
    dsimp only [Option.map_some]
    rw [same, Prog.exec_bind, Prog.exec_acquire, exec_getIn_bind, exec_getOut_bind, Prog.exec_bind,
      Prog.exec_when, Prog.exec_release]
    split
    · exact ctl_doOutStandby w o
    · rfl

end Standby

section Start

variable (R : ResamplerLib ρ) (w : World ρ) (env : StartEnv)

/-- How a `pcm_open` ends: the stream is started and served, or it keeps the closed handle. -/
def Opened (c : Ctl) (s : StreamRef) (ready : Bool) (ret : Int) (after : Ctl) : Prop :=
  if ready then ret = 0 ∧ ∃ uses, after = (c.started s).serve s uses
  else ret = -enomem ∧ after = c.startFailed s

/-- Opening the PCM of an output stream ends as the control machine says. -/
theorem opened_output (o device : Nat) (routed : device = w.ctl.pcmDevice .playback) :
    Opened w.ctl (.output o) env.pcmIsReady ((openOutputPcm R o device env).exec w).1
      ((openOutputPcm R o device env).exec w).2.ctl := by
  -- What `pcm_open` returns is the handle that the control machine numbers next.
  have handle : (⟨w.opened, device, (w.outs o).config⟩ : Pcm) = w.ctl.handle (.output o) := by
    rw [routed]
    rfl
  unfold openOutputPcm
  rw [exec_getOut_bind]
  simp only [Prog.exec_bind, exec_pcmOpen, handle, exec_modifyOut, exec_record]
  cases ready : env.pcmIsReady with
  | false =>
    -- The handle is closed again, but the stream keeps it.
    simp only [if_true, Prog.exec_bind, exec_record, Prog.exec_pure]
    exact ⟨rfl, Ctl.ext rfl rfl (stream_setOut w ..) rfl rfl⟩
  | true =>
    rw [if_neg (by simp)]
    simp only [Prog.exec_bind, Prog.exec_when]
    refine ⟨rfl, ?_⟩
    -- The two rates differ on the SCO route, where the handle is asked for a buffer size.
    split
    · refine ⟨1, ?_⟩
      simp only [exec_modifyOut, exec_record, exec_modifyAdev, Prog.exec_pure,
        Function.update_idem, Function.update_self]
      refine Ctl.ext rfl (active_setOut w _) (stream_setOut w ..) rfl ?_
      simp [World.ctl, World.handleLog, Call.handleEvent, Ctl.serve, Ctl.started]
    · refine ⟨0, ?_⟩
      exact Ctl.ext rfl (active_setOut w _) (stream_setOut w ..) rfl rfl

/-- Opening the PCM of an input stream ends as the control machine says. -/
theorem opened_input (i device : Nat) (routed : device = w.ctl.pcmDevice .capture) :
    Opened w.ctl (.input i) env.pcmIsReady ((openInputPcm R i device env).exec w).1
      ((openInputPcm R i device env).exec w).2.ctl := by
  -- The handle is the one that the control machine gives out, and the PCM is ready or not.
  have handle : (⟨w.opened, device, (w.ins i).pcmConfig⟩ : Pcm) = w.ctl.handle (.input i) := by
    rw [routed]
    rfl
  unfold openInputPcm
  rw [exec_getIn_bind]
  simp only [Prog.exec_bind, exec_pcmOpen, handle, exec_modifyIn, exec_record]
  cases ready : env.pcmIsReady with
  | false =>
    simp only [if_true, Prog.exec_bind, exec_record, Prog.exec_pure]
    exact ⟨rfl, Ctl.ext rfl rfl (stream_setIn w ..) rfl rfl⟩
  | true =>
    rw [if_neg (by simp)]
    simp only [Prog.exec_bind, Prog.exec_when]
    refine ⟨rfl, 1, ?_⟩
    split
    all_goals
      simp only [exec_modifyIn, exec_record, exec_modifyAdev, Prog.exec_pure,
        Function.update_idem, Function.update_self]
      refine Ctl.ext rfl (active_setIn w _) (stream_setIn w ..) rfl ?_
      simp [World.ctl, World.handleLog, Call.handleEvent, Ctl.serve, Ctl.started]

/-- A start of an output stream configures it, stops what clashes, and opens its PCM. -/
theorem opened_start_output (o : Nat) :
    Opened (w.ctl.prepare (.output o)) (.output o) env.pcmIsReady
      ((startOutputStream R o env).exec w).1 ((startOutputStream R o env).exec w).2.ctl := by
  -- Configuring the stream and stopping the other one is what preparing a start is.
  have prepared : ((stopClashingIn o).exec
      ((modifyOut o (.configure (outScoOn w.adev))).exec w).2).2.ctl =
        w.ctl.prepare (.output o) := by
    rw [ctl_stopClashingIn, Ctl.prepare]
    refine congrArg (Ctl.stopClashing · _) ?_
    refine Ctl.ext rfl rfl ((stream_setOut w ..).trans (congrArg _ ?_)) rfl rfl
    unfold StreamOut.configure Ctl.target
    cases sco : outScoOn w.adev <;> simp [StreamRef.dir, sco, StreamOut.ctl, StreamOut.config]
  have opening := opened_output R ((stopClashingIn o).exec
    ((modifyOut o (.configure (outScoOn w.adev))).exec w).2).2 env o
    (if outScoOn w.adev then pcmDeviceSco else pcmDevice)
  rw [prepared, Ctl.prepare_pcmDevice] at opening
  unfold startOutputStream
  rw [exec_getAdev_bind, Prog.exec_bind, Prog.exec_bind]
  exact opening rfl

/-- A start of an input stream does the same. -/
theorem opened_start_input (i : Nat) :
    Opened (w.ctl.prepare (.input i)) (.input i) env.pcmIsReady
      ((startInputStream R i env).exec w).1 ((startInputStream R i env).exec w).2.ctl := by
  -- Configuring the stream and stopping what clashes is what the machine calls preparing.
  have prepared : ((stopClashingOut i).exec
      ((modifyIn i (.configure (inScoOn w.adev))).exec w).2).2.ctl =
        w.ctl.prepare (.input i) := by
    rw [ctl_stopClashingOut, Ctl.prepare]
    refine congrArg (Ctl.stopClashing · _) ?_
    refine Ctl.ext rfl rfl ((stream_setIn w ..).trans (congrArg _ ?_)) rfl rfl
    unfold StreamIn.configure Ctl.target
    cases sco : inScoOn w.adev <;> simp [StreamRef.dir, sco, StreamIn.ctl]
  have opening := opened_input R ((stopClashingOut i).exec
    ((modifyIn i (.configure (inScoOn w.adev))).exec w).2).2 env i
    (if inScoOn w.adev then pcmDeviceSco else pcmDevice)
  rw [prepared, Ctl.prepare_pcmDevice] at opening
  unfold startInputStream
  rw [exec_getAdev_bind, Prog.exec_bind, Prog.exec_bind]
  exact opening rfl

/-- How the start of a transfer ends for a stream that may or may not be in standby. -/
def Begun (c : Ctl) (s : StreamRef) (ready : Bool) (ret : Int) (after : Ctl) : Prop :=
  if (c.stream s).standby then
    if ready then ret = 0 ∧ ∃ uses, after = (((c.prepare s).started s).wake s).serve s uses
    else ret = -enomem ∧ after = (c.prepare s).startFailed s
  else ret = 0 ∧ after = c

/-- A failed start is the whole transfer, and after a successful one the stream is served. -/
theorem Begun.transfer {c after : Ctl} {s : StreamRef} {ready : Bool} {ret : Int}
    (begun : Begun c s ready ret after) :
    (ret = -enomem ∧ after = c.transfer s ready 0) ∨
      (ret = 0 ∧ ∀ uses, ∃ total, after.serve s uses = c.transfer s ready total) := by
  -- The stream was running, or it is started, and its PCM is ready or not.
  unfold Begun at begun
  unfold Ctl.transfer
  by_cases standby : (c.stream s).standby = true
  · simp only [if_pos standby] at begun ⊢
    cases ready with
    | false => exact Or.inl (by simpa using begun)
    | true =>
      simp only [if_true] at begun ⊢
      obtain ⟨rfl, early, ended⟩ := begun
      exact Or.inr ⟨rfl, fun uses => ⟨uses + early, by rw [ended, Ctl.serve_serve]⟩⟩
  · simp only [if_neg standby] at begun ⊢
    obtain ⟨rfl, ended⟩ := begun
    exact Or.inr ⟨rfl, fun uses => ⟨uses, by rw [ended]⟩⟩

/-- A stream that may be in standby is woken behind a start that succeeded. -/
theorem begun_of_opened {s : StreamRef} {start : Hal ρ Int} {wake : Hal ρ Unit} {ready : Bool}
    (wakes : ∀ v : World ρ, (wake.exec v).2.ctl = v.ctl.wake s)
    (opening : Opened (w.ctl.prepare s) s ready (start.exec w).1 (start.exec w).2.ctl) :
    let starting := (if (w.ctl.stream s).standby then do
        let ret ← start
        when (ret = 0) wake
        return ret
      else return 0 : Hal ρ Int)
    Begun w.ctl s ready (starting.exec w).1 (starting.exec w).2.ctl := by
  unfold Begun
  dsimp only
  by_cases standby : (w.ctl.stream s).standby = true
  · rw [if_pos standby, if_pos standby, Prog.exec_bind]
    generalize start.exec w = result at opening ⊢
    obtain ⟨ret, after⟩ := result
    unfold Opened at opening
    rw [Prog.exec_bind, Prog.exec_when, Prog.exec_pure]
    cases ready with
    | false =>
      rw [if_neg (by simp)] at opening
      obtain ⟨rfl, ended⟩ := opening
      exact ⟨rfl, ended⟩
    | true =>
      rw [if_pos rfl] at opening
      obtain ⟨rfl, uses, ended⟩ := opening
      refine ⟨rfl, uses, ?_⟩
      -- What the start has asked of the handle does not depend on the standby.
      rw [← Ctl.wake_serve, ← ended]
      exact wakes after
  · rw [if_neg standby, if_neg standby]
    exact ⟨rfl, rfl⟩

/-- What a write begins with is what the control machine calls a beginning. -/
theorem begun_output (o : Nat) :
    Begun w.ctl (.output o) env.pcmIsReady ((startOutIfStandby R o env).exec w).1
      ((startOutIfStandby R o env).exec w).2.ctl := by
  -- The flag that is cleared after the start is the stream's own.
  unfold startOutIfStandby
  rw [exec_getOut_bind]
  refine begun_of_opened w (fun v => ?_) (opened_start_output R w env o)
  exact Ctl.ext rfl rfl (stream_setOut v ..) rfl rfl

/-- And so is what a read begins with. -/
theorem begun_input (i : Nat) :
    Begun w.ctl (.input i) env.pcmIsReady ((startInIfStandby R i env).exec w).1
      ((startInIfStandby R i env).exec w).2.ctl := by
  -- The flag that is cleared after the start is the stream's own.
  unfold startInIfStandby
  rw [exec_getIn_bind]
  refine begun_of_opened w (fun v => ?_) (opened_start_input R w env i)
  exact Ctl.ext rfl rfl (stream_setIn v ..) rfl rfl

end Start

section Transfer

variable (R : ResamplerLib ρ) (w : World ρ)

/-- A call that leaves no handle event leaves no trace in the control machine. -/
theorem ctl_record_silent (call : Call) (silent : call.handleEvent = none) :
    ((record call).exec w).2.ctl = w.ctl := by
  refine Ctl.ext rfl rfl rfl rfl ?_
  simp [World.ctl, World.handleLog, silent]

/-- The way out of a write touches no control. -/
theorem ctl_outWriteExit (o bytes : Nat) (ret : Int) :
    ((outWriteExit o bytes ret).exec w).2.ctl = w.ctl := by
  -- A sleep leaves no event in the history.
  simp only [outWriteExit, Prog.exec_bind, Prog.exec_release, Prog.exec_when, Prog.exec_pure]
  split
  · exact ctl_record_silent w _ rfl
  · rfl

/-- The write itself is one more use of the handle. -/
theorem ctl_finishWrite (o bytes : Nat) (frames : OutFrames) (result : Int) :
    ((finishWrite o bytes frames result).exec w).2.ctl = w.ctl.serve (.output o) 1 := by
  simp only [finishWrite]
  rw [exec_getOut_bind, Prog.exec_bind, Prog.exec_ite]
  have used : ∀ data, ((record (.pcmWrite (w.outs o).pcm data result)).exec w).2.ctl =
      w.ctl.serve (.output o) 1 := fun data => Ctl.ext rfl rfl rfl rfl rfl
  split
  · exact used _
  · rw [Prog.exec_bind, ctl_outWriteExit, Prog.exec_when]
    split
    · -- The count of written frames is not part of what the control machine sees.
      refine Eq.trans ?_
        (used ((List.range (frames.frames * frames.frameSize / 2)).map frames.data))
      exact Ctl.ext rfl rfl ((stream_setOut _ ..).trans (Function.update_eq_self ..)) rfl rfl
    · exact used _

/-- A running output stream is served and written to through its handle. -/
theorem ctl_outWriteRunning (o : Nat) (buffer : Samples) (bytes : Nat) (env : OutWriteEnv)
    (bufferType : OutBufferType) (scoOn : Bool) : ∃ uses,
      ((outWriteRunning R o buffer bytes env bufferType scoOn).exec w).2.ctl =
        w.ctl.serve (.output o) uses := by
  -- The one use more is that of `pcm_write`.
  obtain ⟨uses, served⟩ := (outFrame_prepareWrite R buffer bytes env bufferType scoOn w).ctl
  refine ⟨1 + uses, ?_⟩
  rw [outWriteRunning, Prog.exec_bind, ctl_finishWrite, served, Ctl.serve_serve]

/-- A write is a transfer of the control machine. -/
theorem ctl_outWrite (o : Nat) (buffer : Samples) (bytes : Nat) (env : OutWriteEnv) : ∃ uses,
    ((outWrite R o buffer bytes env).exec w).2.ctl =
      w.ctl.transfer (.output o) env.start.pcmIsReady uses := by
  have begun := begun_output R w env.start o
  unfold outWrite
  simp only [Prog.exec_bind, Prog.exec_acquire]
  generalize (startOutIfStandby R o env.start).exec w = result at begun ⊢
  obtain ⟨ret, after⟩ := result
  dsimp only at begun ⊢
  rw [Prog.exec_ite, Prog.exec_bind, Prog.exec_release, exec_getAdev_bind, Prog.exec_bind,
    Prog.exec_release]
  -- A write whose start fails is over, and any other one goes on to serve its stream.
  rcases begun.transfer with ⟨rfl, ended⟩ | ⟨rfl, serves⟩
  · rw [if_pos (by decide), ctl_outWriteExit]
    exact ⟨0, ended⟩
  · obtain ⟨uses, ran⟩ := ctl_outWriteRunning R after o buffer bytes env
      (if after.adev.screenOff ∧ after.adev.activeIn.isNone then .long else .short)
      (outScoOn after.adev)
    obtain ⟨total, all⟩ := serves uses
    exact ⟨total, by rw [if_neg (by simp), ran, all]⟩

/-- A read is a transfer of the control machine. -/
theorem ctl_inRead (i : Nat) (buffer : CallerBuffer) (bytes : Nat) (env : InReadEnv) : ∃ uses,
    ((inRead R i buffer bytes env).exec w).2.ctl =
      w.ctl.transfer (.input i) env.start.pcmIsReady uses := by
  have begun := begun_input R w env.start i
  unfold inRead
  simp only [Prog.exec_bind, Prog.exec_acquire, Prog.exec_release]
  generalize (startInIfStandby R i env.start).exec w = result at begun ⊢
  obtain ⟨ret, after⟩ := result
  dsimp only at begun ⊢
  -- The error back-off at the end leaves no trace, however the read went.
  have rest : ∀ (read : CallerBuffer × Option Int) (middle : World ρ),
      ((Prog.when (read.2.any (· < 0))
        (record (.usleep (inReadBackOff (middle.ins i) bytes)))).exec middle).2.ctl =
          middle.ctl := by
    intro read middle
    rw [Prog.exec_when]
    split
    · exact ctl_record_silent middle _ rfl
    · rfl
  rcases begun.transfer with ⟨rfl, ended⟩ | ⟨rfl, serves⟩
  · refine ⟨0, (rest _ _).trans ?_⟩
    rw [if_pos (by decide)]
    exact ended
  · obtain ⟨uses, ran⟩ := (inFrame_inReadRunning R buffer bytes env after).ctl
    obtain ⟨total, all⟩ := serves uses
    refine ⟨total, (rest _ _).trans ?_⟩
    rw [if_neg (by decide)]
    exact ran.trans all

end Transfer

section Routes

variable (w : World ρ)

/-- Standby from outside is a stop. -/
theorem ctl_outStandby (o : Nat) : ((outStandby o).exec w).2.ctl = w.ctl.stop (.output o) := by
  simp [outStandby, ctl_doOutStandby]

/-- Standby of an input stream from outside is a stop. -/
theorem ctl_inStandby (i : Nat) : ((inStandby i).exec w).2.ctl = w.ctl.stop (.input i) := by
  simp [inStandby, ctl_doInStandby]

/-- A route shows in the control machine, and the mixer that follows it does not. -/
theorem ctl_setOutDevice (devices : Devices) :
    ((modifyAdev selectDevices).exec
      ((modifyAdev fun adev => { adev with outDevice := devices }).exec w).2).2.ctl =
      { w.ctl with device := update w.ctl.device .playback devices } := by
  refine Ctl.ext (funext fun d => ?_) rfl rfl rfl rfl
  cases d <;> rfl

/-- Storing a new input device changes the route of the capture direction. -/
theorem ctl_setInDevice (devices : Devices) :
    ((modifyAdev selectDevices).exec
      ((modifyAdev fun adev => { adev with inDevice := devices }).exec w).2).2.ctl =
      { w.ctl with device := update w.ctl.device .capture devices } := by
  refine Ctl.ext (funext fun d => ?_) rfl rfl rfl rfl
  cases d <;> rfl

/-- A change of the output route is one of the control machine, if a route is given. -/
theorem ctl_outSetParameters (o : Nat) (routing : Parm Devices) :
    ((outSetParameters o routing).exec w).2.ctl =
      if routing.ret ≥ 0 then w.ctl.route (.output o) routing.value else w.ctl := by
  have route : w.ctl.device (StreamRef.output o).dir = w.adev.outDevice := rfl
  have sco : (StreamRef.output o).dir.allSco = audioDeviceOutAllSco := rfl
  simp only [outSetParameters]
  rw [Prog.exec_bind, Prog.exec_acquire, Prog.exec_bind, Prog.exec_when, Prog.exec_bind,
    Prog.exec_release, Prog.exec_pure]
  dsimp only
  split
  · rw [exec_getAdev_bind, Prog.exec_when, Prog.exec_bind, Prog.exec_bind, Prog.exec_when,
      Prog.exec_bind, Prog.exec_acquire, Prog.exec_bind, Prog.exec_release, Ctl.route, route, sco]
    -- Only a new route that is not empty has any effect, here as in the control machine.
    by_cases moves : w.adev.outDevice ≠ routing.value ∧ routing.value ≠ 0
    · rw [if_pos moves, if_pos moves, ctl_setOutDevice]
      split
      · rw [ctl_doOutStandby]
        rfl
      · rfl
    · rw [if_neg moves, if_neg moves]
  · rfl

/-- A change of the input route is one of it, without the bit that marks inputs. -/
theorem ctl_inSetParameters (i : Nat) (routing : Parm Devices) :
    ((inSetParameters i routing).exec w).2.ctl =
      if routing.ret ≥ 0 then w.ctl.route (.input i) (routing.value &&& ~~~audioDeviceBitIn)
      else w.ctl := by
  -- The route is given or not, and what is given is new or not, on both sides alike.
  have route : w.ctl.device (StreamRef.input i).dir = w.adev.inDevice := rfl
  have sco : (StreamRef.input i).dir.allSco = audioDeviceInAllSco := rfl
  simp only [inSetParameters]
  rw [Prog.exec_bind, Prog.exec_acquire, Prog.exec_bind, Prog.exec_when, Prog.exec_bind,
    Prog.exec_release, Prog.exec_pure]
  dsimp only
  split
  · rw [exec_getAdev_bind, Prog.exec_when, Prog.exec_bind, Prog.exec_bind, Prog.exec_when,
      Prog.exec_bind, Prog.exec_acquire, Prog.exec_bind, Prog.exec_release, Ctl.route, route, sco]
    by_cases moves : w.adev.inDevice ≠ routing.value &&& ~~~audioDeviceBitIn ∧
        routing.value &&& ~~~audioDeviceBitIn ≠ 0
    · rw [if_pos moves, if_pos moves, ctl_setInDevice]
      split
      · rw [ctl_doInStandby]
        rfl
      · rfl
    · rw [if_neg moves, if_neg moves]
  · rfl

/-- Orientation and screen state are not part of the control machine. -/
theorem ctl_adevSetParameters (orientation screenState : Parm String) :
    ((adevSetParameters orientation screenState).exec w).2.ctl = w.ctl := by
  -- The screen state comes after the orientation, in whatever state that has left.
  have screen : ∀ middle : World ρ, ((when (screenState.ret ≥ 0) do
      modifyAdev fun adev => { adev with
        screenOff := screenState.value ≠ "on" }).exec middle).2.ctl = middle.ctl := by
    intro middle
    rw [Prog.exec_when]
    split <;> rfl
  simp only [adevSetParameters, Prog.exec_bind, Prog.exec_pure, screen]
  simp only [Prog.exec_when, Prog.exec_bind, Prog.exec_acquire, Prog.exec_release]
  split
  · split <;> rfl
  · rfl

end Routes

section OpenClose

variable (w : World ρ)

/-- Opening an output stream is an opening of the control machine, or nothing. -/
theorem ctl_adevOpenOutputStream (o : Nat) (calloc : Bool) (config : AudioConfig) (uses : Nat) :
    ((adevOpenOutputStream o calloc config).exec w).2.ctl =
      w.ctl.apply ((Act.openOutputStream o calloc config).ctl uses) := by
  -- The new stream is in standby, and the others are left alone.
  cases calloc with
  | false => rfl
  | true =>
    refine Ctl.ext rfl rfl (funext fun s => ?_) rfl rfl
    cases s with
    | input i => simp [adevOpenOutputStream, World.ctl, Act.ctl, Ctl.apply, Ctl.modify]
    | output p =>
      by_cases same : p = o
      · subst same
        simp [adevOpenOutputStream, World.ctl, Act.ctl, Ctl.apply, Ctl.modify, StreamOut.ctl,
          StreamOut.opened, StreamOut.config]
      · simp [adevOpenOutputStream, World.ctl, Act.ctl, Ctl.apply, Ctl.modify, same]

/-- Opening an input stream is one that gives it a configuration of its own. -/
theorem ctl_adevOpenInputStream (i : Nat) (calloc : Bool) (config : AudioConfig) (fast : Bool)
    (uses : Nat) : ((adevOpenInputStream i calloc config fast).exec w).2.ctl =
      w.ctl.apply ((Act.openInputStream i calloc config fast).ctl uses) := by
  -- The channel mask and the allocation decide on both sides; the new stream is in standby.
  unfold adevOpenInputStream Act.ctl
  dsimp only
  by_cases mono : config.channelMask ≠ audioChannelInMono
  · rw [if_pos mono, if_pos mono]
    rfl
  · rw [if_neg mono, if_neg mono]
    cases calloc with
    | false => rfl
    | true =>
      refine Ctl.ext rfl rfl (funext fun s => ?_) rfl rfl
      cases s with
      | output o => simp [World.ctl, Ctl.apply, Ctl.modify]
      | input j =>
        by_cases same : j = i
        · subst same
          simp [World.ctl, Ctl.apply, Ctl.modify, StreamIn.ctl, StreamIn.opened]
        · simp [World.ctl, Ctl.apply, Ctl.modify, same]

/-- An address given back shows as a stream that is not open. -/
theorem ctl_adevCloseOutputStream (o : Nat) :
    ((adevCloseOutputStream o).exec w).2.ctl = w.ctl.apply (.close (.output o)) := by
  -- Closing puts the stream into standby first, so the rest happens after that.
  rw [Ctl.apply, ← ctl_outStandby, adevCloseOutputStream, Prog.exec_bind, Prog.exec_update]
  generalize ((outStandby o).exec w).2 = after
  refine Ctl.ext rfl rfl (funext fun s => ?_) rfl rfl
  cases s with
  | input i => simp [World.ctl, Ctl.modify]
  | output p =>
    by_cases same : p = o
    · subst same
      simp [World.ctl, Ctl.modify, StreamOut.ctl]
    · simp [World.ctl, Ctl.modify, same]

/-- Closing an input stream stops it first. -/
theorem ctl_adevCloseInputStream (i : Nat) :
    ((adevCloseInputStream i).exec w).2.ctl = w.ctl.apply (.close (.input i)) := by
  -- What is closed is the flag of the one stream.
  rw [Ctl.apply, ← ctl_inStandby, adevCloseInputStream, Prog.exec_bind, Prog.exec_update]
  generalize ((inStandby i).exec w).2 = after
  refine Ctl.ext rfl rfl (funext fun s => ?_) rfl rfl
  cases s with
  | output o => simp [World.ctl, Ctl.modify]
  | input j =>
    by_cases same : j = i
    · subst same
      simp [World.ctl, Ctl.modify, StreamIn.ctl]
    · simp [World.ctl, Ctl.modify, same]

end OpenClose

/-- Dropping a result drops nothing else. -/
theorem ctl_discard {α : Type} (p : Hal ρ α) (w : World ρ) :
    ((do let _ ← p; pure ()).exec w).2.ctl = (p.exec w).2.ctl := by
  rw [Prog.exec_bind, Prog.exec_pure]

/-- An enabled call is allowed in the control machine, where input is opened at 44.1 kHz. -/
theorem allowed_of_enabled {w : World ρ} {act : Act} (enabled : act.enabled w = true)
    (uses : Nat) : (act.ctl uses).Allowed w.ctl := by
  -- The cases are those of the calls; a stream is opened if it was not open, and used if it was.
  cases act <;> simp only [Act.enabled, Act.ctl, Bool.not_eq_true'] at enabled ⊢
  case openOutputStream o calloc config =>
    split
    · trivial
    · exact ⟨enabled, rfl⟩
  case openInputStream i calloc config fast =>
    split_ifs
    · trivial
    · trivial
    · refine ⟨enabled, ?_⟩
      unfold inDefaultConfig
      split <;> rfl
  case outSetParameters o routing =>
    split
    · exact enabled
    · trivial
  case inSetParameters i routing =>
    split
    · exact enabled
    · trivial
  all_goals first | exact enabled | trivial

/-- Every entry point does to control what the control machine says it does. -/
theorem ctl_step (R : ResamplerLib ρ) {w next : World ρ} {act : Act}
    (stepped : step R w act = some next) :
    ∃ uses, (act.ctl uses).Allowed w.ctl ∧ next.ctl = w.ctl.apply (act.ctl uses) := by
  obtain ⟨enabled, rfl⟩ : act.enabled w = true ∧ ((act.prog R).exec w).2 = next := by
    simpa [step] using stepped
  -- That the call is allowed follows from its being enabled, so the effects are left to compare.
  suffices ends : ∃ uses, ((act.prog R).exec w).2.ctl = w.ctl.apply (act.ctl uses) from
    ends.imp fun uses ended => ⟨allowed_of_enabled enabled uses, ended⟩
  cases act with
  | openOutputStream o calloc config =>
    exact ⟨0, (ctl_discard _ w).trans (ctl_adevOpenOutputStream w o calloc config 0)⟩
  | closeOutputStream o => exact ⟨0, ctl_adevCloseOutputStream w o⟩
  | openInputStream i calloc config fast =>
    exact ⟨0, (ctl_discard _ w).trans (ctl_adevOpenInputStream w i calloc config fast 0)⟩
  | closeInputStream i => exact ⟨0, ctl_adevCloseInputStream w i⟩
  | outWrite o buffer bytes env =>
    obtain ⟨uses, ended⟩ := ctl_outWrite R w o buffer bytes env
    exact ⟨uses, (ctl_discard _ w).trans ended⟩
  | inRead i buffer bytes env =>
    obtain ⟨uses, ended⟩ := ctl_inRead R w i buffer bytes env
    exact ⟨uses, (ctl_discard _ w).trans ended⟩
  | outStandby o => exact ⟨0, ctl_outStandby w o⟩
  | inStandby i => exact ⟨0, ctl_inStandby w i⟩
  | outSetParameters o routing =>
    refine ⟨0, ?_⟩
    rw [Act.prog, ctl_discard, ctl_outSetParameters, Act.ctl]
    split <;> rfl
  | inSetParameters i routing =>
    refine ⟨0, ?_⟩
    rw [Act.prog, ctl_discard, ctl_inSetParameters, Act.ctl]
    split <;> rfl
  | outGetPresentationPosition o htimestamp => exact ⟨0, Ctl.ext rfl rfl rfl rfl rfl⟩
  | outGetLatency o => exact ⟨0, rfl⟩
  | adevSetParameters orientation screenState =>
    exact ⟨0, (ctl_discard _ w).trans (ctl_adevSetParameters w orientation screenState)⟩
  | adevSetMicMute state => exact ⟨0, Ctl.ext rfl rfl rfl rfl rfl⟩

end Grouper.Audio
