import Grouper.Audio.Refinement
import Grouper.Audio.Routing
import Grouper.Lib.Serial

/-! What the device mutex governs, and the writes of running streams that do not touch it. -/

namespace Grouper.Audio

open Function (update)
open Prog (Aloof Makes acquire release when)

variable {ρ : Type}

/-- The event opens or closes a handle. -/
def HandleMoves : HandleEvent StreamRef Pcm → Bool
  | .opened _ _ | .closed _ => true
  | .used _ => false

/-- The call neither opens nor closes a handle. -/
def Call.Plain (call : Call) : Prop := call.handleEvent.all (! HandleMoves ·) = true

/--
All that the device mutex governs.

The routes and the mixer; the slots; of every stream whether it is open and in standby, its PCM and
its configuration; and the handles opened and closed so far, in their order.
-/
structure Governed where
  routing : Routing
  ctl : Ctl

/-- The control machine without the uses of handles, which no mutex orders. -/
def Ctl.unused (c : Ctl) : Ctl := { c with log := c.log.filter HandleMoves }

def World.governed (w : World ρ) : Governed := ⟨w.routing, w.ctl.unused⟩

/-- Two worlds agree on all that is governed, field by field. -/
theorem governed_eq {v w : World ρ} (routing : v.routing = w.routing)
    (active : v.ctl.active = w.ctl.active) (stream : v.ctl.stream = w.ctl.stream)
    (opened : v.opened = w.opened)
    (log : v.handleLog.filter HandleMoves = w.handleLog.filter HandleMoves) :
    v.governed = w.governed := by
  -- Control is made of the device, the slots, the streams and the history, field by field.
  have device : v.ctl.device = w.ctl.device := by
    funext d
    cases d with
    | playback => exact congrArg Routing.outDevice routing
    | capture => exact congrArg Routing.inDevice routing
  have same : v.ctl.unused = w.ctl.unused := Ctl.ext device active stream opened log
  simp [World.governed, routing, same]

section Fields

variable {v w : World ρ} (same : v.governed = w.governed)

include same

/-- Routing is governed. -/
theorem governed_routing : v.routing = w.routing := congrArg Governed.routing same

/-- So are the active slots. -/
theorem governed_active : v.ctl.active = w.ctl.active :=
  congrArg (fun g => g.ctl.active) same

/-- So is what decides how a stream may run. -/
theorem governed_stream : v.ctl.stream = w.ctl.stream :=
  congrArg (fun g => g.ctl.stream) same

/-- So is how many handles were opened. -/
theorem governed_opened : v.opened = w.opened := congrArg (fun g => g.ctl.opened) same

/-- And so is the history of openings and closings. -/
theorem governed_log : v.handleLog.filter HandleMoves = w.handleLog.filter HandleMoves :=
  congrArg (fun g => g.ctl.log) same

/-- The slots of the device are governed. -/
theorem governed_activeOut : v.adev.activeOut = w.adev.activeOut := by
  have slots := congrFun (governed_active same) .playback
  exact Option.map_injective (fun _ _ => StreamRef.output.inj) slots

/-- Worlds that agree in what is governed have the same active input stream. -/
theorem governed_activeIn : v.adev.activeIn = w.adev.activeIn := by
  have slots := congrFun (governed_active same) .capture
  exact Option.map_injective (fun _ _ => StreamRef.input.inj) slots

end Fields

/-- Two output streams are alike in what is governed of them. -/
structure StreamOut.Alike (one two : StreamOut ρ) : Prop where
  standby : one.standby = two.standby
  pcm : one.pcm = two.pcm
  config : one.config = two.config

/-- Two input streams are alike in what is governed of them. -/
structure StreamIn.Alike (one two : StreamIn ρ) : Prop where
  standby : one.standby = two.standby
  pcm : one.pcm = two.pcm
  pcmConfig : one.pcmConfig = two.pcmConfig
  pcmConfigNonSco : one.pcmConfigNonSco = two.pcmConfigNonSco

/-- Alike streams are the same to the control machine. -/
theorem StreamOut.Alike.ctl {one two : StreamOut ρ} (alike : one.Alike two) (isOpen : Bool) :
    one.ctl isOpen = two.ctl isOpen := by
  simp [StreamOut.ctl, alike.standby, alike.pcm, alike.config]

/-- Input streams that are alike are under the same control. -/
theorem StreamIn.Alike.ctl {one two : StreamIn ρ} (alike : one.Alike two) (isOpen : Bool) :
    one.ctl isOpen = two.ctl isOpen := by
  simp [StreamIn.ctl, alike.standby, alike.pcm, alike.pcmConfig, alike.pcmConfigNonSco]

section Streams

variable {v w : World ρ}

/-- Worlds that agree in what is governed have output streams that are alike. -/
theorem governed_out (same : v.governed = w.governed) (o : Nat) :
    (v.outs o).Alike (w.outs o) ∧ v.outOpen o = w.outOpen o := by
  -- The stream's part of control has all its governed fields in it.
  have stream : (v.outs o).ctl (v.outOpen o) = (w.outs o).ctl (w.outOpen o) :=
    congrFun (governed_stream same) (.output o)
  simp only [StreamOut.ctl, StreamCtl.mk.injEq] at stream
  obtain ⟨isOpen, standby, pcm, config, _⟩ := stream
  exact ⟨⟨standby, pcm, config⟩, isOpen⟩

/-- And they have input streams that are alike. -/
theorem governed_in (same : v.governed = w.governed) (i : Nat) :
    (v.ins i).Alike (w.ins i) ∧ v.inOpen i = w.inOpen i := by
  -- The stream's part of control has all its governed fields in it.
  have stream : (v.ins i).ctl (v.inOpen i) = (w.ins i).ctl (w.inOpen i) :=
    congrFun (governed_stream same) (.input i)
  simp only [StreamIn.ctl, StreamCtl.mk.injEq] at stream
  obtain ⟨isOpen, standby, pcm, config, home⟩ := stream
  exact ⟨⟨standby, pcm, config, home⟩, isOpen⟩

/-- Alike changes of one stream keep two worlds the same in what is governed. -/
theorem governed_setOut (same : v.governed = w.governed) (o : Nat) {one two : StreamOut ρ}
    (alike : one.Alike two) :
    World.governed { v with outs := update v.outs o one } =
      World.governed { w with outs := update w.outs o two } := by
  have routing := governed_routing same
  have active := governed_active same
  have opened := governed_opened same
  have log := governed_log same
  refine governed_eq routing active ?_ opened log
  -- Of the streams, only the changed one could tell the two worlds apart.
  have changed := stream_setOut w o two w.adev w.opened w.calls
  rw [← governed_stream same, ← alike.ctl, ← (governed_out same o).2] at changed
  exact (stream_setOut v o one v.adev v.opened v.calls).trans changed.symm

/-- They go on agreeing when both store an input stream that is alike. -/
theorem governed_setIn (same : v.governed = w.governed) (i : Nat) {one two : StreamIn ρ}
    (alike : one.Alike two) :
    World.governed { v with ins := update v.ins i one } =
      World.governed { w with ins := update w.ins i two } := by
  have routing := governed_routing same
  have active := governed_active same
  have opened := governed_opened same
  have log := governed_log same
  refine governed_eq routing active ?_ opened log
  -- Of the streams, only the changed one could tell the two worlds apart.
  have changed := stream_setIn w i two w.adev w.opened w.calls
  rw [← governed_stream same, ← alike.ctl, ← (governed_in same i).2] at changed
  exact (stream_setIn v i one v.adev v.opened v.calls).trans changed.symm

/-- Calls that neither open nor close a handle are not governed. -/
theorem governed_plain (w : World ρ) {call : Call} (plain : call.Plain) :
    World.governed { w with calls := call :: w.calls } = w.governed := by
  -- The call is no opening and no closing, so the filtered history does not have it.
  refine governed_eq rfl rfl rfl rfl ?_
  simp only [World.handleLog, List.filterMap_cons]
  split
  · rfl
  · rename_i event is
    have used : HandleMoves event = false := by simpa [Call.Plain, is] using plain
    simp [used]

end Streams

/-- The writes that serve a running input stream: to the log of calls, and to the stream itself. -/
inductive InServing (i : Nat) : (World ρ → World ρ) → Prop
  | call (call : Call) (plain : call.Plain) :
    InServing i fun w => { w with calls := call :: w.calls }
  | stream (change : StreamIn ρ → StreamIn ρ) (kept : ∀ in_, (change in_).Alike in_) :
    InServing i fun w => { w with ins := update w.ins i (change (w.ins i)) }

inductive OutServing (o : Nat) : (World ρ → World ρ) → Prop
  | call (call : Call) (plain : call.Plain) :
    OutServing o fun w => { w with calls := call :: w.calls }
  | stream (change : StreamOut ρ → StreamOut ρ) (kept : ∀ out, (change out).Alike out) :
    OutServing o fun w => { w with outs := update w.outs o (change (w.outs o)) }

/-- Serving a running stream touches nothing that is governed. -/
theorem InServing.governed {i : Nat} {change : World ρ → World ρ} (serving : InServing i change)
    (w : World ρ) : (change w).governed = w.governed := by
  -- The two ways of serving a stream.
  cases serving with
  | call call plain => exact governed_plain w plain
  | stream change kept =>
    have same := governed_setIn (rfl : w.governed = w.governed) i (kept (w.ins i))
    rwa [Function.update_eq_self] at same

/-- What serves an output stream changes nothing that is governed. -/
theorem OutServing.governed {o : Nat} {change : World ρ → World ρ} (serving : OutServing o change)
    (w : World ρ) : (change w).governed = w.governed := by
  -- The two ways of serving a stream.
  cases serving with
  | call call plain => exact governed_plain w plain
  | stream change kept =>
    have same := governed_setOut (rfl : w.governed = w.governed) o (kept (w.outs o))
    rwa [Function.update_eq_self] at same

section Makes

variable {kind : (World ρ → World ρ) → Prop}

/-- Looking at an output stream makes no change of any kind. -/
theorem makes_getOut (o : Nat) : Makes kind (getOut o : Hal ρ (StreamOut ρ)) :=
  .bind Prog.makes_state fun _ => Prog.makes_pure _

/-- Looking at an input stream makes none. -/
theorem makes_getIn (i : Nat) : Makes kind (getIn i : Hal ρ (StreamIn ρ)) :=
  .bind Prog.makes_state fun _ => Prog.makes_pure _

/-- Looking at the device makes none. -/
theorem makes_getAdev : Makes kind (getAdev : Hal ρ AudioDevice) :=
  .bind Prog.makes_state fun _ => Prog.makes_pure _

end Makes

section Capture

variable {i : Nat}

/-- A call of the kernel other than an opening or a closing serves an input stream. -/
theorem inServing_record {call : Call} (plain : call.Plain) :
    Makes (InServing i) (record call : Hal ρ Unit) := Prog.makes_update (.call call plain)

/-- The capture path changes a stream without a look at what is governed of it. -/
theorem inServing_modifyIn {change : StreamIn ρ → StreamIn ρ}
    (kept : ∀ in_, (change in_).Alike in_) : Makes (InServing i) (modifyIn i change) :=
  Prog.makes_update (.stream change kept)

/-- Giving frames back serves the stream. -/
theorem inServing_releaseBuffer (frameCount : Nat) :
    Makes (InServing i) (releaseBuffer i frameCount : Hal ρ Unit) :=
  inServing_modifyIn fun _ => ⟨rfl, rfl, rfl, rfl⟩

/-- Handing frames out, and reading a period for it, serves the stream. -/
theorem inServing_getNextBuffer (outcomes : Nat → PcmRead) (reads frameCount : Nat) :
    Makes (InServing i)
      (getNextBuffer i outcomes reads frameCount : Hal ρ (Option Grant × Nat)) := by
  refine .bind (makes_getIn i) fun in_ => ?_
  refine .ite ?_ ?_
  · exact .bind (inServing_modifyIn fun _ => ⟨rfl, rfl, rfl, rfl⟩) fun _ => Prog.makes_pure _
  · refine .ite ?_ (Prog.makes_pure _)
    -- A read records itself, and moves the status and the buffer of the stream.
    refine .bind (inServing_record rfl) fun _ => ?_
    refine .bind (inServing_modifyIn fun _ => ⟨rfl, rfl, rfl, rfl⟩) fun _ => ?_
    refine .ite (Prog.makes_pure _) ?_
    refine .bind (inServing_modifyIn fun _ => ⟨rfl, rfl, rfl, rfl⟩) fun _ => ?_
    refine .bind ?_ fun _ => ?_
    · refine .when ?_
      refine .bind (.when (inServing_record rfl)) fun _ => ?_
      exact inServing_modifyIn fun _ => ⟨rfl, rfl, rfl, rfl⟩
    · exact .bind (makes_getIn i) fun _ => Prog.makes_pure _

/-- Copying what was handed out serves the stream. -/
theorem inServing_readGrant (grant : Grant) :
    Makes (InServing i) (readGrant i grant : Hal ρ (List Sample)) := by
  -- A stream without a buffer has nothing to copy.
  refine .bind (makes_getIn i) fun in_ => ?_
  split
  · exact .bind (inServing_record rfl) fun _ => Prog.makes_pure _
  · exact Prog.makes_pure _

/-- Whatever a resampler asks for, its provider serves the stream. -/
theorem inServing_runProvider (outcomes : Nat → PcmRead) (provider : Provider ρ) :
    ∀ reads, Makes (InServing i) (runProvider i outcomes provider reads) := by
  -- The induction follows the resampler's requests to its provider.
  induction provider with
  | finish state output =>
    intro reads
    unfold runProvider
    exact .bind (inServing_modifyIn fun _ => ⟨rfl, rfl, rfl, rfl⟩) fun _ => Prog.makes_pure _
  | getNextBuffer frameCount next ih =>
    intro reads
    unfold runProvider
    refine .bind (inServing_getNextBuffer outcomes reads frameCount) fun served => ?_
    split
    · exact ih none _
    · exact .bind (inServing_readGrant _) fun data => ih (some data) _
  | releaseBuffer frameCount next ih =>
    intro reads
    unfold runProvider
    exact .bind (inServing_releaseBuffer frameCount) fun _ => ih reads

/-- A round of resampling serves the stream. -/
theorem inServing_readFramesRound (R : ResamplerLib ρ) (outcomes : Nat → PcmRead)
    (buffer : Samples) (framesWr framesRd reads : Nat) :
    Makes (InServing i) (readFramesRound R i outcomes buffer framesWr framesRd reads) := by
  -- The frames come through the resampler, or straight from what was granted.
  refine .bind (makes_getIn i) fun in_ => ?_
  split
  · exact .bind (inServing_runProvider outcomes _ reads) fun _ => Prog.makes_pure _
  · refine .bind (inServing_getNextBuffer outcomes reads framesRd) fun served => ?_
    split
    · exact .bind (inServing_releaseBuffer 0) fun _ => Prog.makes_pure _
    · refine .bind (inServing_readGrant _) fun _ => ?_
      exact .bind (inServing_releaseBuffer _) fun _ => Prog.makes_pure _

/-- And so do all rounds of a read. -/
theorem inServing_readFrames (R : ResamplerLib ρ) (outcomes : Nat → PcmRead)
    (frames fuel : Nat) : ∀ framesWr reads buffer,
      Makes (InServing i) (readFrames R i outcomes frames fuel framesWr reads buffer) := by
  -- The induction spends one unit of fuel on each round of the loop.
  induction fuel with
  | zero => exact fun _ _ _ => Prog.makes_pure _
  | succ fuel ih =>
    intro framesWr reads buffer
    refine .ite ?_ (Prog.makes_pure _)
    refine .bind (inServing_readFramesRound R outcomes buffer framesWr _ reads) fun _ => ?_
    refine .bind (makes_getIn i) fun _ => ?_
    exact .ite (Prog.makes_pure _) (ih _ _ _)

/-- All three ways of capturing serve the stream. -/
theorem inServing_capture (R : ResamplerLib ρ) (env : InReadEnv) (bytes : Nat)
    (buffer : Samples) : Makes (InServing i) (capture R i env bytes buffer) := by
  -- The ways are a resampler, a buffer for both channels, and the client's own buffer.
  refine .bind (makes_getIn i) fun in_ => ?_
  refine .ite (inServing_readFrames R _ _ _ _ _ _) ?_
  refine .ite ?_ ?_
  · refine .bind (inServing_record rfl) fun _ => ?_
    refine .bind (inServing_modifyIn fun _ => ⟨rfl, rfl, rfl, rfl⟩) fun _ => ?_
    refine .bind (makes_getIn i) fun _ => ?_
    split
    · exact .bind (.when (inServing_record rfl)) fun _ => Prog.makes_pure _
    · exact Prog.makes_pure _
  · exact .bind (inServing_record rfl) fun _ => Prog.makes_pure _

/-- And so does a read of a running stream, muted or not. -/
theorem inServing_inReadRunning (R : ResamplerLib ρ) (buffer : CallerBuffer) (bytes : Nat)
    (env : InReadEnv) : Makes (InServing i) (inReadRunning R i buffer bytes env) := by
  refine .bind (inServing_capture R env bytes _) fun _ => ?_
  exact .bind makes_getAdev fun _ => Prog.makes_pure _

end Capture

section Playback

variable {o : Nat}

/-- A call of the kernel other than an opening or a closing serves an output stream. -/
theorem outServing_record {call : Call} (plain : call.Plain) :
    Makes (OutServing o) (record call : Hal ρ Unit) := Prog.makes_update (.call call plain)

/-- A change that leaves an output stream alike serves it. -/
theorem outServing_modifyOut {change : StreamOut ρ → StreamOut ρ}
    (kept : ∀ out, (change out).Alike out) : Makes (OutServing o) (modifyOut o change) :=
  Prog.makes_update (.stream change kept)

/-- Another buffer type moves thresholds, which only the stream's own mutex guards. -/
theorem alike_adaptBuffer (bufferType : OutBufferType) (out : StreamOut ρ) :
    (out.adaptBuffer bufferType).Alike out := by
  -- A new target for the threshold is stored, or the stream is left as it is.
  unfold StreamOut.adaptBuffer
  split
  · exact ⟨rfl, rfl, by simp only [StreamOut.config]⟩
  · exact ⟨rfl, rfl, rfl⟩

/-- The write threshold is not governed. -/
theorem alike_moveThreshold (kernelFrames : Int) (out : StreamOut ρ) :
    (out.moveThreshold kernelFrames).Alike out := by
  unfold StreamOut.moveThreshold
  dsimp only
  -- Whichever way the threshold moves, the PCM and its configuration stay.
  split_ifs
  all_goals exact ⟨rfl, rfl, by simp only [StreamOut.config]⟩

/-- Throttling serves the stream. -/
theorem outServing_throttle (htimestamp : Nat → Option Nat) (fuel : Nat) :
    ∀ round kernelFrames total, Makes (OutServing o)
      (throttle o htimestamp fuel round kernelFrames total : Hal ρ Int) := by
  -- The induction is on the rounds left, each of which asks the kernel and may sleep.
  induction fuel with
  | zero => exact fun _ _ _ => Prog.makes_pure _
  | succ fuel ih =>
    intro round kernelFrames total
    refine .bind (makes_getOut o) fun out => ?_
    refine .bind (outServing_record rfl) fun _ => ?_
    split
    · exact Prog.makes_pure _
    · refine .bind (outServing_record rfl) fun _ => ?_
      refine .ite ?_ (Prog.makes_pure _)
      refine .ite (Prog.makes_pure _) ?_
      refine .bind (outServing_record rfl) fun _ => ?_
      exact .ite (ih _ _ _) (Prog.makes_pure _)

/-- Resampling serves the stream. -/
theorem outServing_convert (R : ResamplerLib ρ) (buffer : Samples) (inFrames : Nat) :
    Makes (OutServing o) (convert R o buffer inFrames) := by
  -- Only a stream with a resampler is changed.
  refine .bind (makes_getOut o) fun out => ?_
  refine .ite ?_ (Prog.makes_pure _)
  split
  · exact .bind (outServing_modifyOut fun _ => ⟨rfl, rfl, rfl⟩) fun _ => Prog.makes_pure _
  · exact .bind (outServing_record rfl) fun _ => Prog.makes_pure _

/-- And so does all that comes before `pcm_write`. -/
theorem outServing_prepareWrite (R : ResamplerLib ρ) (buffer : Samples) (bytes : Nat)
    (env : OutWriteEnv) (bufferType : OutBufferType) (scoOn : Bool) :
    Makes (OutServing o) (prepareWrite R o buffer bytes env bufferType scoOn) := by
  -- The buffer is adapted, the frames are converted, and the write may be throttled.
  refine .bind (.when (outServing_modifyOut (alike_adaptBuffer bufferType))) fun _ => ?_
  refine .bind (outServing_convert R buffer _) fun _ => ?_
  refine .bind ?_ fun _ => Prog.makes_pure _
  refine .when ?_
  exact .bind (outServing_throttle _ _ _ _ _) fun kernelFrames =>
    outServing_modifyOut (alike_moveThreshold kernelFrames)

end Playback

section Rest

/-- The parts of a call behind the device mutex see and leave only what is not governed. -/
abbrev Ungoverned {α : Type} (p : Hal ρ α) : Prop := Aloof Mutex.adev World.governed p

/-- Looking at an output stream changes nothing that is governed. -/
theorem ungoverned_getOut (o : Nat) : Ungoverned (getOut o : Hal ρ (StreamOut ρ)) :=
  .bind Prog.aloof_state fun _ => Prog.aloof_pure _

/-- Looking at an input stream changes nothing that is governed. -/
theorem ungoverned_getIn (i : Nat) : Ungoverned (getIn i : Hal ρ (StreamIn ρ)) :=
  .bind Prog.aloof_state fun _ => Prog.aloof_pure _

/-- Looking at the device changes nothing that is governed. -/
theorem ungoverned_getAdev : Ungoverned (getAdev : Hal ρ AudioDevice) :=
  .bind Prog.aloof_state fun _ => Prog.aloof_pure _

/-- A call of the kernel other than an opening or a closing is not governed. -/
theorem ungoverned_record {call : Call} (plain : call.Plain) :
    Ungoverned (record call : Hal ρ Unit) := Prog.aloof_update fun w => governed_plain w plain

/-- Only the mutex of the device governs. -/
theorem ungoverned_acquire (mutex : Mutex) (other : mutex ≠ .adev) :
    Ungoverned (acquire mutex : Hal ρ Unit) := Prog.aloof_acquire other

/-- And only the release of that mutex ends a section of it. -/
theorem ungoverned_release (mutex : Mutex) (other : mutex ≠ .adev) :
    Ungoverned (release mutex : Hal ρ Unit) := Prog.aloof_release other

/-- What serves an input stream is not governed. -/
theorem InServing.ungoverned {i : Nat} {α : Type} {p : Hal ρ α}
    (makes : Makes (InServing i) p) : Ungoverned p :=
  makes.aloof fun _ serving w => serving.governed w

/-- What serves an output stream is not governed. -/
theorem OutServing.ungoverned {o : Nat} {α : Type} {p : Hal ρ α}
    (makes : Makes (OutServing o) p) : Ungoverned p :=
  makes.aloof fun _ serving w => serving.governed w

/-- The way out of a write releases the stream, and may sleep. -/
theorem ungoverned_outWriteExit (o bytes : Nat) (ret : Int) :
    Ungoverned (outWriteExit o bytes ret : Hal ρ Int) := by
  refine .bind (ungoverned_release (.out o) nofun) fun _ => ?_
  exact .bind (.when (ungoverned_record rfl)) fun _ => Prog.aloof_pure _

/-- A running stream is written to, and its frames are counted, with the stream mutex alone. -/
theorem ungoverned_outWriteRunning (R : ResamplerLib ρ) (o : Nat) (buffer : Samples) (bytes : Nat)
    (env : OutWriteEnv) (bufferType : OutBufferType) (scoOn : Bool) :
    Ungoverned (outWriteRunning R o buffer bytes env bufferType scoOn) := by
  -- All up to `pcm_write` serves the stream, and what follows counts its frames.
  have prepared := outServing_prepareWrite (o := o) R buffer bytes env bufferType scoOn
  refine .bind (OutServing.ungoverned prepared) fun frames => ?_
  unfold finishWrite
  refine .bind (ungoverned_getOut o) fun out => ?_
  refine .bind (ungoverned_record rfl) fun _ => ?_
  refine .ite ?_ ?_
  · exact .bind (ungoverned_release (.out o) nofun) fun _ => Prog.aloof_pure _
  · refine .bind ?_ fun _ => ?_
    · refine .when ?_
      exact OutServing.ungoverned (o := o) (outServing_modifyOut fun _ => ⟨rfl, rfl, rfl⟩)
    · exact ungoverned_outWriteExit o bytes _

/-- A running stream is read from, and its period is consumed, with the stream mutex alone. -/
theorem ungoverned_inReadRunning (R : ResamplerLib ρ) (i : Nat) (buffer : CallerBuffer)
    (bytes : Nat) (env : InReadEnv) : Ungoverned (inReadRunning R i buffer bytes env) :=
  InServing.ungoverned (inServing_inReadRunning (i := i) R buffer bytes env)

end Rest

end Grouper.Audio
