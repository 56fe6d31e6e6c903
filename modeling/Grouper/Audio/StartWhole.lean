import Grouper.Audio.HandleSafety
import Grouper.Audio.Writes

/-! A start acquires up to three resources, and the stream is usable only when it got them all. -/

namespace Grouper.Audio

open Function (update)
open Prog (Leads when)

variable {ρ : Type}

/-- A started output stream is fully usable. -/
structure OutUsable (R : ResamplerLib ρ) (w : World ρ) (o : Nat) : Prop where
  /-- The PCM was opened and is not closed, and it was opened as the stream is configured. -/
  held : HandleEvent.Valid w.handleLog (w.outs o).pcm
  fits : ∀ pcm, (w.outs o).pcm = some pcm → pcm.config = (w.outs o).config
  converts : outGetSampleRate ≠ (w.outs o).config.rate →
    (w.outs o).resampler.isSome ∧ (w.outs o).buffer.isSome
  active : w.adev.activeOut = some o
  /-- Whatever the write that goes on from here does, it does not dereference a null pointer. -/
  writes : ∀ buffer bytes env,
    let running := ((modifyOut o fun out => { out with standby := false }).exec w).2
    ((outWrite R o buffer bytes env).exec running).2.dereferences = running.dereferences

/-- A started input stream is fully usable. -/
structure InUsable (R : ResamplerLib ρ) (w : World ρ) (i : Nat) : Prop where
  held : HandleEvent.Valid w.handleLog (w.ins i).pcm
  fits : ∀ pcm, (w.ins i).pcm = some pcm → pcm.config = (w.ins i).pcmConfig
  /-- The capture path looks at the resampler to tell whether the rates differ. -/
  converts : (w.ins i).resampler.isSome ↔ inGetSampleRate (w.ins i) ≠ (w.ins i).pcmConfig.rate
  present : (w.ins i).buffer.isSome
  size : (w.ins i).bufferSize =
    (w.ins i).pcmConfig.periodSize * ((w.ins i).pcmConfig.channels * 2)
  active : w.adev.activeIn = some i
  reads : ∀ buffer bytes env,
    let running := ((modifyIn i fun in_ => { in_ with standby := false }).exec w).2
    ((inRead R i buffer bytes env).exec running).2.dereferences = running.dereferences

/-- An output stream holds nothing and plays nothing. -/
structure OutClean (w : World ρ) (o : Nat) : Prop where
  standby : (w.outs o).standby = true
  pcm : (w.outs o).pcm = none
  resampler : (w.outs o).resampler = none
  buffer : (w.outs o).buffer = none
  inactive : w.adev.activeOut ≠ some o

structure InClean (w : World ρ) (i : Nat) : Prop where
  standby : (w.ins i).standby = true
  pcm : (w.ins i).pcm = none
  resampler : (w.ins i).resampler = none
  buffer : (w.ins i).buffer = none
  inactive : w.adev.activeIn ≠ some i

/-- `start_output_stream` succeeds with a usable stream, or fails and leaves a clean one. -/
def OutWhole (R : ResamplerLib ρ) (w : World ρ) (o : Nat) (env : StartEnv) : Prop :=
  let result := (startOutputStream R o env).exec w
  (result.1 = 0 ∧ env.pcmIsReady = true ∧ OutUsable R result.2 o) ∨
    (result.1 < 0 ∧ OutClean result.2 o)

def InWhole (R : ResamplerLib ρ) (w : World ρ) (i : Nat) (env : StartEnv) : Prop :=
  let result := (startInputStream R i env).exec w
  (result.1 = 0 ∧ env.pcmIsReady = true ∧ InUsable R result.2 i) ∨
    (result.1 < 0 ∧ InClean result.2 i)

/-- Whatever a start needs is acquired: on SCO a resampler and its buffer as well. -/
def OutAcquires (w : World ρ) (env : StartEnv) : Prop :=
  env.pcmIsReady = true ∧
    (outScoOn w.adev = true → env.createResampler = true ∧ env.malloc.isSome)

/-- A capture buffer is always needed, and a resampler from a PCM of another rate. -/
def InAcquires (w : World ρ) (i : Nat) (env : StartEnv) : Prop :=
  env.pcmIsReady = true ∧ env.malloc.isSome ∧
    ((w.ins i).requestedRate ≠
      (if inScoOn w.adev then pcmConfigSco else (w.ins i).pcmConfigNonSco).rate →
        env.createResampler = true)

section Playback

/-- What the conversion of an output stream needs is there. -/
def StreamOut.Equipped (out : StreamOut ρ) : Prop :=
  outGetSampleRate ≠ out.config.rate → out.resampler.isSome ∧ out.buffer.isSome

/-- An equipped stream stays equipped, and no null pointer is dereferenced for it. -/
def OutSafe (o : Nat) (before after : World ρ) : Prop :=
  (before.outs o).Equipped → (after.outs o).Equipped ∧ after.dereferences = before.dereferences

instance (o : Nat) : Std.Refl (OutSafe (ρ := ρ) o) where
  refl _ equipped := ⟨equipped, rfl⟩

instance (o : Nat) : IsTrans (World ρ) (OutSafe o) where
  trans _ _ _ one two equipped :=
    have first := one equipped
    have second := two first.1
    ⟨second.1, second.2.trans first.2⟩

variable (R : ResamplerLib ρ) (w : World ρ) (o : Nat)

/-- A call that is no null dereference is safe. -/
theorem outSafe_record (call : Call) (other : call.isNullDereference = false) :
    Leads (OutSafe o) (record call) w := by
  -- Only a null dereference would count.
  refine fun equipped => ⟨equipped, ?_⟩
  rw [World.dereferences, made_record, other]
  rfl

/-- So is a change that keeps a stream equipped. -/
theorem outSafe_modifyOut (change : StreamOut ρ → StreamOut ρ)
    (keeps : (w.outs o).Equipped → (change (w.outs o)).Equipped) :
    Leads (OutSafe o) (modifyOut o change) w := by
  -- It makes no call.
  refine fun equipped => ⟨?_, rfl⟩
  rw [outs_modifyOut]
  exact keeps equipped

/-- The conversion finds the resampler and the buffer it needs. -/
theorem outSafe_convert (buffer : Samples) (inFrames : Nat) :
    Leads (OutSafe o) (convert R o buffer inFrames) w := by
  refine .bind (Std.Refl.refl w) ?_
  refine .ite (fun differ => ?_) fun _ => .pure _
  -- The rates differ where the conversion runs, so what it needs is there.
  split
  · exact .bind (outSafe_modifyOut _ o _ fun _ _ => ⟨rfl, rfl⟩) (.pure _)
  · rename_i missing
    intro equipped
    obtain ⟨resampler, memory⟩ := equipped differ
    obtain ⟨state, is⟩ := Option.isSome_iff_exists.mp resampler
    obtain ⟨samples, are⟩ := Option.isSome_iff_exists.mp memory
    exact (missing state samples is are).elim

/-- So are the rounds of throttling, however many. -/
theorem outSafe_throttle (htimestamp : Nat → Option Nat) (fuel : Nat) :
    ∀ round kernelFrames total (w : World ρ),
      Leads (OutSafe o) (throttle o htimestamp fuel round kernelFrames total) w := by
  -- The loop asks and sleeps, and never touches the stream.
  induction fuel with
  | zero => exact fun _ _ _ _ => .pure _
  | succ fuel ih =>
    intro round kernelFrames total w
    refine .bind (Std.Refl.refl w) ?_
    refine .bind (outSafe_record _ o _ rfl) ?_
    split
    · exact .pure _
    · refine .bind (outSafe_record _ o _ rfl) ?_
      refine .ite (fun _ => ?_) fun _ => .pure _
      refine .ite (fun _ => .pure _) fun _ => ?_
      refine .bind (outSafe_record _ o _ rfl) ?_
      exact .ite (fun _ => ih _ _ _ _) fun _ => .pure _

/-- Being equipped is a matter of the PCM configuration, the resampler and the buffer. -/
theorem StreamOut.Equipped.congr {out after : StreamOut ρ} (equipped : out.Equipped)
    (pcmConfig : after.pcmConfig = out.pcmConfig) (resampler : after.resampler = out.resampler)
    (buffer : after.buffer = out.buffer) : after.Equipped := by
  -- These three are all that it looks at.
  unfold Equipped StreamOut.config
  rw [pcmConfig, resampler, buffer]
  exact equipped

/-- Choosing another buffer type does not unequip a stream. -/
theorem StreamOut.Equipped.adaptBuffer {out : StreamOut ρ} (equipped : out.Equipped)
    (bufferType : OutBufferType) : (out.adaptBuffer bufferType).Equipped := by
  unfold StreamOut.adaptBuffer
  split <;> exact equipped.congr rfl rfl rfl

/-- Nor does moving its write threshold. -/
theorem StreamOut.Equipped.moveThreshold {out : StreamOut ρ} (equipped : out.Equipped)
    (kernelFrames : Int) : (out.moveThreshold kernelFrames).Equipped := by
  -- The branches differ in the threshold alone.
  unfold StreamOut.moveThreshold
  dsimp only
  split_ifs <;> exact equipped.congr rfl rfl rfl

/-- A write to a running stream that is equipped dereferences no null pointer. -/
theorem outSafe_outWrite (buffer : Samples) (bytes : Nat) (env : OutWriteEnv)
    (running : (w.outs o).standby = false) :
    Leads (OutSafe o) (outWrite R o buffer bytes env) w := by
  -- A running stream is not started again.
  have starts : Leads (OutSafe o) (startOutIfStandby R o env.start) w := by
    refine .bind (Std.Refl.refl w) ?_
    refine .ite (fun standby => ?_) fun _ => .pure _
    exact absurd (standby.symm.trans running) (by decide)
  have exits : ∀ (ret : Int) (v : World ρ), Leads (OutSafe o) (outWriteExit o bytes ret) v := by
    intro ret v
    refine .bind (.release _) ?_
    exact .bind (.when fun _ => outSafe_record _ o _ rfl) (.pure _)
  refine .bind (.acquire _) ?_
  refine .bind (.acquire _) ?_
  refine .bind starts ?_
  refine .ite (fun _ => ?_) fun _ => ?_
  · exact .bind (.release _) (exits _ _)
  · refine .bind (Std.Refl.refl _) ?_
    refine .bind (.release _) ?_
    refine .bind ?_ ?_
    · -- Before `pcm_write`: the buffer size, the conversion and the throttling.
      refine .bind (.when fun _ => outSafe_modifyOut _ o _ fun equipped => equipped.adaptBuffer _)
        ?_
      refine .bind (outSafe_convert R _ o buffer _) ?_
      refine .bind ?_ (.pure _)
      refine .when fun _ => ?_
      refine .bind (outSafe_throttle o _ _ _ _ _ _) ?_
      exact outSafe_modifyOut _ o _ fun equipped => equipped.moveThreshold _
    · refine .bind (Std.Refl.refl _) ?_
      refine .bind (outSafe_record _ o _ rfl) ?_
      refine .ite (fun _ => ?_) fun _ => ?_
      · exact .bind (.release _) (.pure _)
      · exact .bind (.when fun _ => outSafe_modifyOut _ o _ id) (exits _ _)

end Playback

section Capture

/-- A stream with a capture buffer keeps it, and no null pointer is dereferenced for it. -/
def InSafe (i : Nat) (before after : World ρ) : Prop :=
  (before.ins i).buffer.isSome →
    (after.ins i).buffer.isSome ∧ after.dereferences = before.dereferences

instance (i : Nat) : Std.Refl (InSafe (ρ := ρ) i) where
  refl _ present := ⟨present, rfl⟩

instance (i : Nat) : IsTrans (World ρ) (InSafe i) where
  trans _ _ _ one two present :=
    have first := one present
    have second := two first.1
    ⟨second.1, second.2.trans first.2⟩

variable (R : ResamplerLib ρ) (w : World ρ) (i : Nat)

/-- A call that is no null dereference is safe. -/
theorem inSafe_record (call : Call) (other : call.isNullDereference = false) :
    Leads (InSafe i) (record call) w := by
  -- Only null dereferences are counted.
  refine fun present => ⟨present, ?_⟩
  rw [World.dereferences, made_record, other]
  rfl

/-- So is a change that keeps the buffer. -/
theorem inSafe_modifyIn (change : StreamIn ρ → StreamIn ρ)
    (keeps : (w.ins i).buffer.isSome → (change (w.ins i)).buffer.isSome) :
    Leads (InSafe i) (modifyIn i change) w := by
  -- It makes no call.
  refine fun present => ⟨?_, rfl⟩
  rw [ins_modifyIn]
  exact keeps present

/-- What is safe for a stream with a buffer is safe, as nothing is asked without one. -/
theorem inSafe_of_present {α : Type} {p : Hal ρ α}
    (safe : (w.ins i).buffer.isSome → Leads (InSafe i) p w) : Leads (InSafe i) p w :=
  fun present => safe present present

/-- Serving a buffer is safe with a buffer in place. -/
theorem inSafe_getNextBuffer (outcomes : Nat → PcmRead) (reads frameCount : Nat) :
    Leads (InSafe i) (getNextBuffer i outcomes reads frameCount) w := by
  -- The branches that read or write through the buffer are taken with a buffer in place.
  refine inSafe_of_present w i fun present => ?_
  refine .bind (Std.Refl.refl w) ?_
  refine .ite (fun _ => ?_) fun _ => ?_
  · exact .bind (inSafe_modifyIn w i _ id) (.pure _)
  · refine .ite (fun _ => ?_) fun _ => .pure _
    refine .bind (inSafe_record _ i _ rfl) ?_
    refine .bind (inSafe_modifyIn _ i _ ?_) ?_
    · exact fun kept => by rwa [Option.isSome_map]
    · refine .ite (fun _ => .pure _) fun _ => ?_
      refine .bind (inSafe_modifyIn _ i _ id) ?_
      refine .bind ?_ ?_
      · -- The right channel is dropped in a buffer that is there.
        refine .when fun _ => ?_
        refine .bind ?_ (inSafe_modifyIn _ i _ ?_)
        · refine .when fun missing => ?_
          have absent : (w.ins i).buffer = none := Option.isNone_iff_eq_none.mp missing
          rw [absent] at present
          cases present
        · exact fun kept => by rwa [Option.isSome_map]
      · exact .bind (Std.Refl.refl _) (.pure _)

/-- Reading what was served only looks. -/
theorem inSafe_readGrant (grant : Grant) : Leads (InSafe i) (readGrant i grant) w := by
  -- A grant is read from a buffer that is there.
  refine inSafe_of_present w i fun present => .bind (Std.Refl.refl w) ?_
  split
  · rename_i missing
    rw [exec_getIn] at missing
    exact absurd present (by rw [missing]; decide)
  · exact .pure _

/-- So each step of a capture is safe. -/
theorem captureSteps_inSafe (i : Nat) : CaptureSteps (InSafe (ρ := ρ) i) i where
  state _ w := inSafe_modifyIn w i _ id
  getNextBuffer outcomes reads frameCount w := inSafe_getNextBuffer w i outcomes reads frameCount
  readGrant grant w := inSafe_readGrant w i grant
  releaseBuffer _ w := inSafe_modifyIn w i _ id

/-- A read from a running stream with a capture buffer dereferences no null pointer. -/
theorem inSafe_inRead (buffer : CallerBuffer) (bytes : Nat) (env : InReadEnv)
    (running : (w.ins i).standby = false) :
    Leads (InSafe i) (inRead R i buffer bytes env) w := by
  -- The stream has started, so what is left of a read is the capture and its ends.
  have starts : Leads (InSafe i) (startInIfStandby R i env.start) w := by
    refine .bind (Std.Refl.refl w) ?_
    refine .ite (fun standby => ?_) fun _ => .pure _
    exact absurd (standby.symm.trans running) (by decide)
  have captures : ∀ v : World ρ, Leads (InSafe i) (capture R i env bytes buffer.samples) v := by
    intro v
    have loop := (captureSteps_inSafe i).readFrames R
    refine .bind (Std.Refl.refl v) ?_
    refine .ite (fun _ => loop _ _ _ _ _ _ _) fun _ => ?_
    refine .ite (fun _ => ?_) fun _ => .bind (inSafe_record _ i _ rfl) (.pure _)
    refine .bind (inSafe_record _ i _ rfl) ?_
    refine .bind (inSafe_modifyIn _ i _ fun kept => ?_) ?_
    · rwa [Option.isSome_map]
    · refine inSafe_of_present _ i fun present => ?_
      refine .bind (Std.Refl.refl _) ?_
      split
      · rename_i missing
        rw [exec_getIn] at missing
        exact absurd present (by rw [missing]; decide)
      · exact .pure _
  refine .bind (.acquire _) ?_
  refine .bind (.acquire _) ?_
  refine .bind starts ?_
  refine .bind (.release _) ?_
  refine .bind ?_ ?_
  · refine .ite (fun _ => .pure _) fun _ => ?_
    refine .bind (captures _) ?_
    exact .bind (Std.Refl.refl _) (.pure _)
  · refine .bind (Std.Refl.refl _) ?_
    refine .bind (.when fun _ => inSafe_record _ i _ rfl) ?_
    exact .bind (.release _) (.pure _)

end Capture

section Exact

variable (R : ResamplerLib ρ) (w : World ρ) (env : StartEnv)

/-- The books are right whatever calls were made. -/
theorem ledgered_run (hardware : Settings) (acts : List Act)
    (ran : run (step R) (.initial hardware) acts = some w) : w.ctl.Ledgered :=
  run_invariant' (ledgered_step R) (ledgered_initial hardware) ran

/-- A stream that has just been started holds a live handle. -/
theorem valid_started {c : Ctl} (held : c.Ledgered) (s : StreamRef) (uses : Nat) :
    HandleEvent.Valid ((c.started s).serve s uses).log
      (((c.started s).serve s uses).stream s).pcm := by
  refine ⟨c.handle s, by simp [Ctl.started], ?_⟩
  have live : HandleEvent.Live (c.started s).log (c.handle s) := held.live_handle s
  -- Serving the stream uses the handle and does not close it.
  induction uses with
  | zero => exact live
  | succ uses ih => exact (HandleEvent.live_used _ _ _).mpr ih

/-- A start whose PCM is not ready fails, and leaves the closed handle in the stream. -/
theorem startOutputStream_failed (o : Nat) (failed : env.pcmIsReady = false) :
    ((startOutputStream R o env).exec w).1 = -enomem ∧
      (((startOutputStream R o env).exec w).2.outs o).pcm.isSome := by
  -- The PCM was assigned before it turned out not to be ready.
  obtain ⟨v, outs, adev, run⟩ := startOutputStream_spec R w env o
  rw [run, exec_openOutputPcm_failed R v env o _ failed]
  refine ⟨rfl, ?_⟩
  show (StreamOut.pcm (update v.outs o _ o)).isSome
  rw [Function.update_self]
  rfl

/-- An input stream whose start fails keeps its closed handle too. -/
theorem startInputStream_failed (i : Nat) (failed : env.pcmIsReady = false) :
    ((startInputStream R i env).exec w).1 = -enomem ∧
      (((startInputStream R i env).exec w).2.ins i).pcm.isSome := by
  -- The PCM was assigned before it turned out not to be ready.
  obtain ⟨v, ins, adev, run⟩ := startInputStream_spec R w env i
  rw [run, exec_openInputPcm_failed R v env i _ failed]
  refine ⟨rfl, ?_⟩
  show (StreamIn.pcm (update v.ins i _ i)).isSome
  rw [Function.update_self]
  rfl

/-- A start whose PCM is ready succeeds, and makes its stream the active one. -/
theorem startOutputStream_ready (o : Nat) (ready : env.pcmIsReady = true) : ∃ pcm,
    ((startOutputStream R o env).exec w).1 = 0 ∧
      ((startOutputStream R o env).exec w).2.adev.activeOut = some o ∧
      ((startOutputStream R o env).exec w).2.outs o =
        ((w.outs o).configure (outScoOn w.adev)).begun R env pcm ∧
      pcm.config = ((w.outs o).configure (outScoOn w.adev)).config := by
  -- The configuration of the PCM is the one the route has chosen.
  obtain ⟨v, outs, adev, run⟩ := startOutputStream_spec R w env o
  have mine : v.outs o = (w.outs o).configure (outScoOn w.adev) := by
    rw [outs, Function.update_self]
  rw [run, exec_openOutputPcm_ready R v env o _ ready, mine]
  exact ⟨_, rfl, rfl, Function.update_self .., rfl⟩

/-- So is an input stream whose PCM is ready. -/
theorem startInputStream_ready (i : Nat) (ready : env.pcmIsReady = true) : ∃ pcm,
    ((startInputStream R i env).exec w).1 = 0 ∧
      ((startInputStream R i env).exec w).2.adev.activeIn = some i ∧
      ((startInputStream R i env).exec w).2.ins i =
        ((w.ins i).configure (inScoOn w.adev)).begun R env pcm ∧
      pcm.config = ((w.ins i).configure (inScoOn w.adev)).pcmConfig := by
  -- The configuration of the PCM is the one the route has chosen.
  obtain ⟨v, ins, adev, run⟩ := startInputStream_spec R w env i
  have mine : v.ins i = (w.ins i).configure (inScoOn w.adev) := by rw [ins, Function.update_self]
  rw [run, exec_openInputPcm_ready R v env i _ ready, mine]
  exact ⟨_, rfl, rfl, Function.update_self .., rfl⟩

/-- The rates of an output stream differ on the SCO route only. -/
theorem rates_differ_iff (o : Nat) :
    outGetSampleRate ≠ ((w.outs o).configure (outScoOn w.adev)).config.rate ↔
      outScoOn w.adev = true := by
  rw [StreamOut.config_configure]
  cases outScoOn w.adev <;> decide

/-- Where the rates differ, a start asks for the resampler and for its buffer. -/
theorem StreamOut.begun_differ {out : StreamOut ρ} (pcm : Pcm)
    (differ : outGetSampleRate ≠ out.config.rate) :
    (out.begun R env pcm).resampler.isSome = env.createResampler ∧
      (out.begun R env pcm).buffer = env.malloc := by
  -- Rates that differ are the condition under which both are made.
  unfold StreamOut.begun
  rw [if_pos differ]
  refine ⟨?_, rfl⟩
  cases env.createResampler <;> rfl

/-- Starting an output stream is all or nothing exactly when everything is acquired. -/
theorem outWhole_iff (o : Nat) (held : w.ctl.Ledgered) :
    OutWhole R w o env ↔ OutAcquires w env := by
  unfold OutWhole
  cases ready : env.pcmIsReady with
  | false =>
    -- The dangling handle is neither usable nor clean.
    obtain ⟨ret, dangling⟩ := startOutputStream_failed R w env o ready
    constructor
    · rintro (⟨zero, _⟩ | ⟨_, clean⟩)
      · rw [ret] at zero
        exact absurd zero (by decide)
      · rw [clean.pcm] at dangling
        cases dangling
    · exact fun acquires => absurd (acquires.1.symm.trans ready) (by decide)
  | true =>
    obtain ⟨pcm, ret, active, own, config⟩ := startOutputStream_ready R w env o ready
    -- The stream is as it was configured, with what the start has acquired for it.
    have same := StreamOut.config_begun ((w.outs o).configure (outScoOn w.adev)) R env pcm
    have begun := fun sco : outScoOn w.adev = true =>
      StreamOut.begun_differ R env pcm ((rates_differ_iff w o).mpr sco)
    constructor
    · rintro (⟨_, _, usable⟩ | ⟨negative, _⟩)
      · refine ⟨ready, fun sco => ?_⟩
        have differ := (rates_differ_iff w o).mpr sco
        obtain ⟨resampler, buffer⟩ := usable.converts (by rwa [own, same])
        rw [own] at resampler buffer
        exact ⟨(begun sco).1 ▸ resampler, (begun sco).2 ▸ buffer⟩
      · rw [ret] at negative
        exact absurd negative (by decide)
    · rintro ⟨_, acquires⟩
      -- Everything was acquired, so the conversion has what it needs.
      have equipped : StreamOut.Equipped (((startOutputStream R o env).exec w).2.outs o) := by
        intro differ
        rw [own, same, rates_differ_iff] at differ
        rw [own, (begun differ).1, (begun differ).2]
        exact acquires differ
      have opening := opened_start_output R w env o
      rw [ready] at opening
      obtain ⟨_, uses, ended⟩ := opening
      refine Or.inl ⟨ret, rfl, ?_, fun it is => ?_, equipped, active, fun buffer bytes later => ?_⟩
      · have valid := valid_started (held.prepare (.output o)) (.output o) uses
        rw [← ended] at valid
        exact valid
      · rw [own] at is ⊢
        obtain rfl : pcm = it := by
          unfold StreamOut.begun at is
          split at is <;> exact Option.some.inj is
        rw [same]
        exact config
      · refine (outSafe_outWrite R _ o buffer bytes later ?_ ?_).2
        · rw [outs_modifyOut]
        · rw [outs_modifyOut]
          exact equipped

/-- Starting an input stream is all or nothing exactly when everything is acquired. -/
theorem inWhole_iff (i : Nat) (held : w.ctl.Ledgered) (fit : (w.ins i).Fit)
    (standby : (w.ins i).standby = true) : InWhole R w i env ↔ InAcquires w i env := by
  obtain ⟨target, left, rate, _⟩ := (w.ins i).configure_spec (inScoOn w.adev)
  have rested : ((w.ins i).configure (inScoOn w.adev)).resampler = none :=
    left.trans (fit.resting standby).1
  unfold InWhole
  cases ready : env.pcmIsReady with
  | false =>
    -- As for an output stream, the dangling handle is neither usable nor clean.
    obtain ⟨ret, dangling⟩ := startInputStream_failed R w env i ready
    constructor
    · rintro (⟨zero, _⟩ | ⟨_, clean⟩)
      · rw [ret] at zero
        exact absurd zero (by decide)
      · rw [clean.pcm] at dangling
        cases dangling
    · exact fun acquires => absurd (acquires.1.symm.trans ready) (by decide)
  | true =>
    obtain ⟨pcm, ret, active, own, config⟩ := startInputStream_ready R w env i ready
    have resampler : (((startInputStream R i env).exec w).2.ins i).resampler.isSome ↔
        (w.ins i).requestedRate ≠ ((w.ins i).configure (inScoOn w.adev)).pcmConfig.rate ∧
          env.createResampler = true := by
      rw [own, StreamIn.resampler_begun R env rested pcm, rate]
    have differs : inGetSampleRate (((startInputStream R i env).exec w).2.ins i) ≠
        (((startInputStream R i env).exec w).2.ins i).pcmConfig.rate ↔
          (w.ins i).requestedRate ≠ ((w.ins i).configure (inScoOn w.adev)).pcmConfig.rate := by
      rw [inGetSampleRate, own]
      show ((w.ins i).configure (inScoOn w.adev)).requestedRate ≠ _ ↔ _
      rw [rate]
      rfl
    have buffer : (((startInputStream R i env).exec w).2.ins i).buffer = env.malloc := by
      rw [own]
      rfl
    constructor
    · rintro (⟨_, _, usable⟩ | ⟨negative, _⟩)
      · refine ⟨ready, buffer ▸ usable.present, fun differ => ?_⟩
        rw [← target] at differ
        exact (resampler.mp (usable.converts.mpr (differs.mpr differ))).2
      · rw [ret] at negative
        exact absurd negative (by decide)
    · -- With a buffer, and with a resampler where one is needed, the capture is complete.
      rintro ⟨_, malloc, creates⟩
      rw [← target] at creates
      have present : (((startInputStream R i env).exec w).2.ins i).buffer.isSome := by
        rw [buffer]
        exact malloc
      have opening := opened_start_input R w env i
      rw [ready] at opening
      obtain ⟨_, uses, ended⟩ := opening
      refine Or.inl ⟨ret, rfl, ?_, fun it is => ?_, ?_, present, ?_, active,
        fun memory bytes later => ?_⟩
      · have valid := valid_started (held.prepare (.input i)) (.input i) uses
        rw [← ended] at valid
        exact valid
      · rw [own] at is ⊢
        obtain rfl : pcm = it := Option.some.inj is
        exact config
      · rw [resampler, differs]
        exact ⟨fun both => both.1, fun differ => ⟨differ, creates differ⟩⟩
      · rw [own]
        show pcm.framesToBytes _ = _
        rw [Pcm.framesToBytes, config]
        rfl
      · refine (inSafe_inRead R _ i memory bytes later ?_ ?_).2
        · rw [ins_modifyIn]
        · rw [ins_modifyIn]
          exact present

/--
A start is all or nothing exactly when it acquires whatever it needs.

A failing acquisition is either not noticed at all, or leaves the closed handle behind.
-/
theorem whole_iff (R : ResamplerLib ρ) (hardware : Settings) (acts : List Act) (w : World ρ)
    (ran : run (step R) (.initial hardware) acts = some w) (env : StartEnv) :
    (∀ o, (w.outs o).standby = true → (OutWhole R w o env ↔ OutAcquires w env)) ∧
      ∀ i, (w.ins i).standby = true → (InWhole R w i env ↔ InAcquires w i env) :=
  have held : w.ctl.Ledgered := ledgered_run R w hardware acts ran
  have fit : w.Fit := fit_run R hardware acts w ran
  ⟨fun o _ => outWhole_iff R w env o held, fun i => inWhole_iff R w env i held (fit.ins i)⟩

/-- A stream of either direction is opened, and neither is started. -/
def opensBoth : List Act :=
  [.openOutputStream 0 true ⟨outSamplingRate, audioChannelOutStereo⟩,
    .openInputStream 0 true ⟨8000, audioChannelInMono⟩ false]

/-- Two streams can be opened and started without a failure. -/
theorem whole_iff_fine : ∃ w : World (Nat × Nat),
    run (step .nearest) (.initial fun _ => none) opensBoth = some w ∧
      OutWhole .nearest w 0 ⟨true, true, some fun _ => 0⟩ ∧
      InWhole .nearest w 0 ⟨true, true, some fun _ => 0⟩ := by
  -- Neither of the two conditions that go wrong is met.
  refine ⟨_, rfl, ?_⟩
  obtain ⟨outs, ins⟩ := whole_iff .nearest (fun _ => none) opensBoth _ rfl
    ⟨true, true, some fun _ => 0⟩
  exact ⟨(outs 0 rfl).mpr ⟨rfl, fun _ => ⟨rfl, rfl⟩⟩, (ins 0 rfl).mpr ⟨rfl, rfl, fun _ => rfl⟩⟩

/-- Without memory for the capture buffer, a start succeeds with a stream that has none. -/
theorem not_whole_nomem : ∃ w : World (Nat × Nat),
    run (step .nearest) (.initial fun _ => none) opensBoth = some w ∧
      (w.ins 0).standby = true ∧ ¬ InWhole .nearest w 0 ⟨true, true, none⟩ := by
  -- The stream that was opened has no buffer, and the start has not failed.
  refine ⟨_, rfl, rfl, ?_⟩
  rintro (⟨_, _, usable⟩ | ⟨negative, _⟩)
  · cases usable.present
  · cases negative

end Exact

end Grouper.Audio
