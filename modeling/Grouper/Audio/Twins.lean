import Grouper.Audio.Device
import Grouper.Lib.Twin

/-! Captured samples decide nothing but samples: two runs that differ in them stay in step. -/

namespace Grouper.Audio

open Function (update)
open Prog (Twin Blind acquire release when)

variable {ρ : Type}

/-- Two courses of a resampler that ask its provider for the same and produce as many frames. -/
inductive Provider.Twin (same : ρ → ρ → Prop) : Provider ρ → Provider ρ → Prop
  | finish {s t : ρ} {one two : List Sample} (states : same s t)
      (lengths : one.length = two.length) : Twin same (.finish s one) (.finish t two)
  | getNextBuffer (frameCount : Nat) {f g : Option (List Sample) → Provider ρ}
      (rest : ∀ one two, one.map List.length = two.map List.length → Twin same (f one) (g two)) :
      Twin same (.getNextBuffer frameCount f) (.getNextBuffer frameCount g)
  | releaseBuffer (frameCount : Nat) {p q : Provider ρ} (rest : Twin same p q) :
      Twin same (.releaseBuffer frameCount p) (.releaseBuffer frameCount q)

/-- The frames a resampler asks for and produces depend on counts and rates, not on samples. -/
structure ResamplerLib.Oblivious (R : ResamplerLib ρ) (same : ρ → ρ → Prop) : Prop where
  create : ∀ inRate outRate channels,
    same (R.create inRate outRate channels) (R.create inRate outRate channels)
  provider : ∀ s t frames, same s t →
    Provider.Twin same (R.resampleFromProvider s frames) (R.resampleFromProvider t frames)

/-- Input streams that differ at most in the samples they hold. -/
structure StreamIn.Twin (same : ρ → ρ → Prop) (a b : StreamIn ρ) : Prop where
  pcm : a.pcm = b.pcm
  pcmConfig : a.pcmConfig = b.pcmConfig
  pcmConfigNonSco : a.pcmConfigNonSco = b.pcmConfigNonSco
  standby : a.standby = b.standby
  requestedRate : a.requestedRate = b.requestedRate
  resampler : Option.Rel same a.resampler b.resampler
  buffer : a.buffer.isSome = b.buffer.isSome
  bufferSize : a.bufferSize = b.bufferSize
  framesIn : a.framesIn = b.framesIn
  readStatus : a.readStatus = b.readStatus

/-- Worlds that differ at most in captured samples, and in the log of calls nobody reads. -/
structure World.Twin (same : ρ → ρ → Prop) (w v : World ρ) : Prop where
  adev : w.adev = v.adev
  outs : w.outs = v.outs
  ins : ∀ i, StreamIn.Twin same (w.ins i) (v.ins i)
  outOpen : w.outOpen = v.outOpen
  inOpen : w.inOpen = v.inOpen
  opened : w.opened = v.opened

variable {same : ρ → ρ → Prop}

/-- Outcomes of reads that agree in everything but the samples delivered. -/
structure PcmRead.Twin (one two : PcmRead) : Prop where
  ret : one.ret = two.ret
  delivered : one.delivered = two.delivered

/-- Surroundings of an `in_read` that agree in everything but the samples delivered. -/
structure InReadEnv.Twin (one two : InReadEnv) : Prop where
  start : one.start = two.start
  pcmRead : ∀ n, (one.pcmRead n).Twin (two.pcmRead n)
  fuel : one.fuel = two.fuel

/-- Calls that agree in everything but the samples delivered by `pcm_read`. -/
inductive Act.Twin : Act → Act → Prop
  | refl (act : Act) : Twin act act
  | inRead (i : Nat) (buffer : CallerBuffer) (bytes : Nat) {one two : InReadEnv}
      (envs : one.Twin two) : Twin (.inRead i buffer bytes one) (.inRead i buffer bytes two)

/-- What the kernel answers differs from itself in no sample. -/
theorem InReadEnv.Twin.refl (env : InReadEnv) : env.Twin env := ⟨rfl, fun _ => ⟨rfl, rfl⟩, rfl⟩

/-- The two logs may differ, since the samples of a write or a read are in them. -/
theorem twin_record (one two : Call) :
    Twin (World.Twin same) Eq (record one : Hal ρ Unit) (record two) :=
  Prog.twin_update fun _ _ twin =>
    ⟨twin.adev, twin.outs, twin.ins, twin.outOpen, twin.inOpen, twin.opened⟩

/-- Output streams are the same in both runs. -/
theorem blind_getOut (o : Nat) : Blind (World.Twin same) (getOut o : Hal ρ (StreamOut ρ)) :=
  Prog.twin_state.bind fun _ _ twin => Prog.twin_pure (congrFun twin.outs o)

/-- Of an input stream the runs get two that differ in samples only. -/
theorem twin_getIn (i : Nat) :
    Twin (World.Twin same) (StreamIn.Twin same) (getIn i : Hal ρ (StreamIn ρ)) (getIn i) :=
  Prog.twin_state.bind fun _ _ twin => Prog.twin_pure (twin.ins i)

/-- The device is the same in both runs. -/
theorem blind_getAdev : Blind (World.Twin same) (getAdev : Hal ρ AudioDevice) :=
  Prog.twin_state.bind fun _ _ twin => Prog.twin_pure twin.adev

/-- A change of the device is the same change in both runs. -/
theorem blind_modifyAdev (change : AudioDevice → AudioDevice) :
    Blind (World.Twin same) (modifyAdev change : Hal ρ Unit) :=
  Prog.twin_update fun _ _ twin => ⟨congrArg change twin.adev, twin.outs, twin.ins, twin.outOpen,
    twin.inOpen, twin.opened⟩

/-- And so is a change of an output stream. -/
theorem blind_modifyOut (o : Nat) (change : StreamOut ρ → StreamOut ρ) :
    Blind (World.Twin same) (modifyOut o change) :=
  Prog.twin_update fun _ _ twin => ⟨twin.adev, by simp only [twin.outs], twin.ins, twin.outOpen,
    twin.inOpen, twin.opened⟩

/-- Input streams stay twins under changes that keep twins. -/
theorem twin_modifyIn (i : Nat) {f g : StreamIn ρ → StreamIn ρ}
    (kept : ∀ a b, StreamIn.Twin same a b → StreamIn.Twin same (f a) (g b)) :
    Twin (World.Twin same) Eq (modifyIn i f) (modifyIn i g) := by
  refine Prog.twin_update fun w v twin =>
    ⟨twin.adev, twin.outs, fun j => ?_, twin.outOpen, twin.inOpen, twin.opened⟩
  show StreamIn.Twin same (update w.ins i (f (w.ins i)) j) (update v.ins i (g (v.ins i)) j)
  -- Only the stream that is changed needs the change to keep twins.
  by_cases at_ : j = i
  · subst at_
    simpa using kept _ _ (twin.ins j)
  · simpa [at_] using twin.ins j

/-- Both runs open a PCM under the same handle. -/
theorem blind_pcmOpen (stream : StreamRef) (device : Nat) (config : PcmConfig) :
    Blind (World.Twin same) (pcmOpen stream device config : Hal ρ Pcm) := by
  -- Handles are numbered in the order of their opening, which the runs share.
  refine Prog.twin_state.bind fun w v twin => ?_
  rw [twin.opened]
  refine .bindEq (Prog.twin_update fun _ _ later => ?_) fun _ => Prog.blind_pure _
  exact ⟨later.adev, later.outs, later.ins, later.outOpen, later.inOpen,
    congrArg (· + 1) later.opened⟩

/-- Standby of an output stream looks at nothing that differs. -/
theorem blind_doOutStandby (o : Nat) :
    Blind (World.Twin same) (doOutStandby o : Hal ρ Unit) := by
  -- Nothing but the output stream and the device is read, and both are the same.
  refine .bindEq (blind_getOut o) fun out => ?_
  refine .when Iff.rfl ?_
  refine .bindEq (twin_record _ _) fun _ => ?_
  refine .bindEq (blind_modifyOut o _) fun _ => ?_
  refine .bindEq (blind_modifyAdev _) fun _ => ?_
  refine .bindEq (blind_modifyOut o _) fun _ => ?_
  exact .bindEq (blind_modifyOut o _) fun _ => blind_modifyOut o _

/-- Nor does that of an input stream, which drops the buffer that may differ. -/
theorem blind_doInStandby (i : Nat) : Blind (World.Twin same) (doInStandby i : Hal ρ Unit) := by
  refine .bind (twin_getIn i) fun a b twin => ?_
  refine .when (by rw [twin.standby]) ?_
  -- Everything that standby stores is a constant, so it is the same in both runs.
  refine .bindEq (twin_record _ _) fun _ => ?_
  refine .bindEq (twin_modifyIn i fun _ _ twin => { twin with pcm := rfl }) fun _ => ?_
  refine .bindEq (blind_modifyAdev _) fun _ => ?_
  refine .bindEq (twin_modifyIn i fun _ _ twin => { twin with resampler := .none }) fun _ => ?_
  refine .bindEq (twin_modifyIn i fun _ _ twin => { twin with buffer := rfl }) fun _ => ?_
  exact twin_modifyIn i fun _ _ twin => { twin with standby := rfl }

/-- Whether an input stream clashes is decided by its configuration, which the runs share. -/
theorem blind_stopClashingIn (o : Nat) :
    Blind (World.Twin same) (stopClashingIn o : Hal ρ Unit) := by
  -- The configuration is among what twin streams share, so the test comes out alike.
  refine .bindEq blind_getAdev fun adev => ?_
  split
  · exact Prog.blind_pure ()
  · refine .bindEq (Prog.blind_acquire _) fun _ => ?_
    refine .bindEq (blind_getOut o) fun out => ?_
    refine .bind (twin_getIn _) fun a b twin => ?_
    refine .bindEq (.when (by rw [twin.pcmConfig]) (blind_doInStandby _)) fun _ => ?_
    exact Prog.blind_release _

/-- Whether an output stream clashes with an input one is decided alike. -/
theorem blind_stopClashingOut (i : Nat) :
    Blind (World.Twin same) (stopClashingOut i : Hal ρ Unit) := by
  -- The two locks are taken whatever the test says.
  refine .bindEq blind_getAdev fun adev => ?_
  split
  · exact Prog.blind_pure ()
  · refine .bindEq (Prog.blind_acquire _) fun _ => ?_
    refine .bind (twin_getIn i) fun a b twin => ?_
    refine .bindEq (blind_getOut _) fun out => ?_
    refine .bindEq (.when (by rw [twin.pcmConfig]) (blind_doOutStandby _)) fun _ => ?_
    exact Prog.blind_release _

/-- Opening the PCM of an output stream looks at no captured sample. -/
theorem blind_openOutputPcm (R : ResamplerLib ρ) (o device : Nat) (env : StartEnv) :
    Blind (World.Twin same) (openOutputPcm R o device env) := by
  -- The cases are those of `pcm_is_ready`, which the environment decides.
  refine .bindEq (blind_getOut o) fun out => ?_
  refine .bindEq (blind_pcmOpen _ _ _) fun pcm => ?_
  refine .bindEq (blind_modifyOut o _) fun _ => ?_
  refine .bindEq (twin_record _ _) fun _ => ?_
  refine .ite Iff.rfl (fun _ _ => ?_) fun _ _ => ?_
  · exact .bindEq (twin_record _ _) fun _ => Prog.blind_pure _
  · refine .bindEq ?_ fun _ => ?_
    · refine .when Iff.rfl ?_
      refine .bindEq (blind_modifyOut o _) fun _ => ?_
      refine .bindEq (twin_record _ _) fun _ => ?_
      exact blind_modifyOut o _
    · refine .bindEq (blind_modifyAdev _) fun _ => ?_
      exact Prog.blind_pure _

/-- An output stream starts in both runs or in neither, and in the same way. -/
theorem blind_startOutIfStandby (R : ResamplerLib ρ) (o : Nat) (env : StartEnv) :
    Blind (World.Twin same) (startOutIfStandby R o env) := by
  refine .bindEq (blind_getOut o) fun out => ?_
  refine .ite Iff.rfl (fun _ _ => ?_) fun _ _ => Prog.blind_pure _
  refine .bindEq ?_ fun ret => ?_
  · -- Stopping the input looks at its configuration, in which the runs agree.
    refine .bindEq blind_getAdev fun adev => ?_
    refine .bindEq (blind_modifyOut o _) fun _ => ?_
    exact .bindEq (blind_stopClashingIn o) fun _ => blind_openOutputPcm R o _ env
  · refine .bindEq (.when Iff.rfl (blind_modifyOut o _)) fun _ => ?_
    exact Prog.blind_pure _

/-- Streams that differ in samples are configured for a route alike. -/
theorem StreamIn.Twin.configure {a b : StreamIn ρ} (twin : StreamIn.Twin same a b) (scoOn : Bool) :
    StreamIn.Twin same (a.configure scoOn) (b.configure scoOn) := by
  cases scoOn with
  -- Without SCO the stream takes the configuration it was opened with.
  | false => exact { twin with pcmConfig := twin.pcmConfigNonSco }
  | true => exact { twin with pcmConfig := rfl }

/-- An input stream gets its PCM, and a resampler, in both runs or in neither. -/
theorem blind_openInputPcm {R : ResamplerLib ρ} (oblivious : R.Oblivious same) (i device : Nat)
    (env : StartEnv) : Blind (World.Twin same) (openInputPcm R i device env) := by
  refine .bind (twin_getIn i) fun a b twin => ?_
  have rate : inGetSampleRate a = inGetSampleRate b := twin.requestedRate
  simp only [twin.pcmConfig, rate]
  refine .bindEq (blind_pcmOpen _ _ _) fun pcm => ?_
  refine .bindEq (twin_modifyIn i fun _ _ twin => { twin with pcm := rfl }) fun _ => ?_
  refine .bindEq (twin_record _ _) fun _ => ?_
  refine .ite Iff.rfl (fun _ _ => ?_) fun _ _ => ?_
  · exact .bindEq (twin_record _ _) fun _ => Prog.blind_pure _
  · refine .bindEq ?_ fun _ => ?_
    · refine .when Iff.rfl (twin_modifyIn i fun a b twin => ?_)
      -- A new resampler starts from the same state in both runs.
      have rate : inGetSampleRate a = inGetSampleRate b := twin.requestedRate
      rw [rate]
      refine { twin with resampler := ?_ }
      split
      · exact .some (oblivious.create _ _ _)
      · exact .none
    · refine .bindEq (twin_record _ _) fun _ => ?_
      refine .bindEq (twin_modifyIn i fun _ _ twin =>
        { twin with bufferSize := rfl, buffer := rfl, framesIn := rfl }) fun _ => ?_
      exact .bindEq (blind_modifyAdev _) fun _ => Prog.blind_pure _

/-- And it starts in both runs or in neither. -/
theorem blind_startInIfStandby {R : ResamplerLib ρ} (oblivious : R.Oblivious same) (i : Nat)
    (env : StartEnv) : Blind (World.Twin same) (startInIfStandby R i env) := by
  -- The stream is in standby on both sides or on neither.
  refine .bind (twin_getIn i) fun a b twin => ?_
  refine .ite (by rw [twin.standby]) (fun _ _ => ?_) fun _ _ => Prog.blind_pure _
  refine .bindEq ?_ fun ret => ?_
  · refine .bindEq blind_getAdev fun adev => ?_
    refine .bindEq (twin_modifyIn i fun _ _ twin => twin.configure _) fun _ => ?_
    exact .bindEq (blind_stopClashingOut i) fun _ => blind_openInputPcm oblivious i _ env
  · refine .bindEq ?_ fun _ => Prog.blind_pure _
    refine .when Iff.rfl ?_
    exact twin_modifyIn i fun _ _ twin => { twin with standby := rfl }

section Capture

variable {one two : Nat → PcmRead} (alike : ∀ n, (one n).Twin (two n)) (i : Nat)

/-- How many frames are granted does not depend on the samples. -/
theorem StreamIn.Twin.grant {a b : StreamIn ρ} (twin : StreamIn.Twin same a b)
    (frameCount : Nat) : a.grant frameCount = b.grant frameCount := by
  unfold StreamIn.grant
  rw [twin.pcmConfig, twin.framesIn]

/-- A change of the samples in a buffer leaves it where it is. -/
theorem StreamIn.Twin.map_buffer {a b : StreamIn ρ} (twin : StreamIn.Twin same a b)
    (f g : Samples → Samples) : (a.buffer.map f).isSome = (b.buffer.map g).isSome := by
  rw [Option.isSome_map, Option.isSome_map, twin.buffer]

include alike in
/-- What a buffer provider grants depends on the codes of the reads, not on their samples. -/
theorem twin_getNextBuffer (reads frameCount : Nat) :
    Twin (World.Twin same) Eq (getNextBuffer i one reads frameCount)
      (getNextBuffer i two reads frameCount) := by
  refine .bind (twin_getIn i) fun a b twin => ?_
  refine .ite (by rw [twin.pcm]) (fun _ _ => ?_) fun _ _ => ?_
  · exact .bindEq (twin_modifyIn i fun _ _ twin => { twin with readStatus := rfl }) fun _ =>
      Prog.blind_pure _
  · refine .ite (by rw [twin.framesIn]) (fun _ _ => ?_) fun _ _ => ?_
    · -- The samples read go into the buffer, which is there in both runs or in none.
      refine .bindEq (twin_record _ _) fun _ => ?_
      refine .bindEq
        (twin_modifyIn i fun _ _ twin =>
        { twin with readStatus := (alike reads).ret, buffer := twin.map_buffer _ _ }) fun _ => ?_
      refine .ite (by rw [(alike reads).ret]) (fun _ _ => Prog.blind_pure _) fun _ _ => ?_
      refine .bindEq (twin_modifyIn i fun _ _ twin =>
        { twin with framesIn := congrArg PcmConfig.periodSize twin.pcmConfig }) fun _ => ?_
      refine .bindEq ?_ fun _ => ?_
      · refine .when (by rw [twin.pcmConfig]) ?_
        refine .bindEq
          (.when (by rw [← Option.not_isSome, ← Option.not_isSome, twin.buffer]) (twin_record _ _))
          fun _ => ?_
        exact twin_modifyIn i fun _ _ twin => { twin with buffer := twin.map_buffer _ _ }
      · exact .bind (twin_getIn i) fun _ _ later => Prog.twin_pure (by rw [later.grant])
    · exact Prog.twin_pure (by rw [twin.grant])

/-- Giving frames back counts them, and looks at none. -/
theorem blind_releaseBuffer (frameCount : Nat) :
    Blind (World.Twin same) (releaseBuffer i frameCount : Hal ρ Unit) := by
  exact twin_modifyIn i fun _ _ twin => { twin with framesIn := by rw [twin.framesIn] }

/-- As many samples are read from a grant in both runs. -/
theorem twin_readGrant (grant : Grant) :
    Twin (World.Twin same) (fun x y => x.length = y.length)
      (readGrant i grant : Hal ρ (List Sample)) (readGrant i grant) := by
  refine .bind (twin_getIn i) fun a b twin => ?_
  -- Without a buffer both runs dereference the null pointer.
  have there := twin.buffer
  cases left : a.buffer <;> cases right : b.buffer <;> simp only [left, right] at there ⊢
  · exact .bindEq (twin_record _ _) fun _ => Prog.twin_pure rfl
  · cases there
  · cases there
  · exact Prog.twin_pure (by simp)

include alike in
/-- An oblivious resampler asks for the same and produces as much in both runs. -/
theorem twin_runProvider {p q : Provider ρ} (twin : Provider.Twin same p q) (reads : Nat) :
    Twin (World.Twin same) (fun x y => x.1.length = y.1.length ∧ x.2 = y.2)
      (runProvider i one p reads) (runProvider i two q reads) := by
  -- The induction follows the two courses of the resampler side by side.
  induction twin generalizing reads with
  | finish states lengths =>
    unfold runProvider
    refine .bindEq (twin_modifyIn i fun _ _ twin => ?_) fun _ => Prog.twin_pure ⟨lengths, rfl⟩
    exact { twin with resampler := .some states }
  | getNextBuffer frameCount rest ih =>
    unfold runProvider
    refine .bindEq (twin_getNextBuffer alike i reads frameCount) fun served => ?_
    obtain ⟨grant, reads⟩ := served
    cases grant with
    -- Without a grant the resampler goes on with nothing in either run.
    | none => exact ih none none rfl reads
    | some grant =>
      refine .bind (twin_readGrant i grant) fun x y lengths => ih (some x) (some y) ?_ reads
      exact congrArg some lengths
  | releaseBuffer frameCount rest ih =>
    unfold runProvider
    exact .bindEq (blind_releaseBuffer i frameCount) fun _ => ih reads

include alike in
/-- A round of resampling takes and makes as many frames in both runs. -/
theorem twin_readFramesRound {R : ResamplerLib ρ} (oblivious : R.Oblivious same)
    (left right : Samples) (framesWr framesRd reads : Nat) :
    Twin (World.Twin same) (fun x y => x.2 = y.2)
      (readFramesRound R i one left framesWr framesRd reads)
      (readFramesRound R i two right framesWr framesRd reads) := by
  -- A stream has a resampler in both runs or in neither, and the two kinds of rounds differ.
  refine .bind (twin_getIn i) fun a b twin => ?_
  have states := twin.resampler
  cases here : a.resampler <;> cases there : b.resampler <;> rw [here, there] at states
  · refine .bindEq (twin_getNextBuffer alike i reads framesRd) fun served => ?_
    obtain ⟨grant, reads⟩ := served
    cases grant with
    | none => exact .bindEq (blind_releaseBuffer i 0) fun _ => Prog.twin_pure rfl
    | some grant =>
      refine .bind (twin_readGrant i grant) fun _ _ _ => ?_
      exact .bindEq (blind_releaseBuffer i _) fun _ => Prog.twin_pure rfl
  · cases states
  · cases states
  · obtain ⟨related⟩ := states
    refine .bind (twin_runProvider alike i (oblivious.provider _ _ _ related) reads)
      fun x y lengths => Prog.twin_pure ?_
    exact Prod.ext lengths.1 lengths.2

include alike in
/-- So do all the rounds of a read. -/
theorem twin_readFrames {R : ResamplerLib ρ} (oblivious : R.Oblivious same) (frames fuel : Nat) :
    ∀ framesWr reads left right, Twin (World.Twin same) (fun x y => x.2 = y.2)
      (readFrames R i one frames fuel framesWr reads left)
      (readFrames R i two frames fuel framesWr reads right) := by
  -- The induction is on the rounds left; each of them takes as many frames in both runs.
  induction fuel with
  | zero => exact fun _ _ _ _ => Prog.twin_pure rfl
  | succ fuel ih =>
    intro framesWr reads left right
    refine .ite Iff.rfl (fun _ _ => ?_) fun _ _ => Prog.twin_pure rfl
    refine .bind (twin_readFramesRound alike i oblivious left right framesWr _ reads) ?_
    rintro ⟨x, counts⟩ ⟨y, _⟩ rfl
    refine .bind (twin_getIn i) fun a b twin => ?_
    refine .ite (by rw [twin.readStatus]) (fun _ _ => ?_) fun _ _ => ih _ _ _ _
    exact Prog.twin_pure (by rw [twin.readStatus])

/-- Both runs capture with the same result, whatever samples they capture. -/
theorem twin_capture {R : ResamplerLib ρ} (oblivious : R.Oblivious same) {env other : InReadEnv}
    (envs : env.Twin other) (bytes : Nat) (left right : Samples) :
    Twin (World.Twin same) (fun x y => x.2 = y.2) (capture R i env bytes left)
      (capture R i other bytes right) := by
  refine .bind (twin_getIn i) fun a b twin => ?_
  refine .ite ?_ (fun _ _ => ?_) fun _ _ => ?_
  · -- Both streams have a resampler, or neither has one.
    have states := twin.resampler
    cases here : a.resampler <;> cases there : b.resampler <;> rw [here, there] at states
    all_goals first | exact Iff.rfl | cases states
  · rw [envs.fuel]
    exact twin_readFrames envs.pcmRead i oblivious _ _ 0 0 left right
  · refine .ite (by rw [twin.pcmConfig]) (fun _ _ => ?_) fun _ _ => ?_
    · refine .bindEq (twin_record _ _) fun _ => ?_
      refine .bindEq (twin_modifyIn i fun _ _ twin => { twin with buffer := twin.map_buffer _ _ })
        fun _ => ?_
      refine .bind (twin_getIn i) fun a b twin => ?_
      have there := twin.buffer
      cases left : a.buffer <;> cases right : b.buffer <;> simp only [left, right] at there ⊢
      · refine .bindEq (.when Iff.rfl (twin_record _ _)) fun _ => Prog.twin_pure ?_
        rw [(envs.pcmRead 0).ret]
      · cases there
      · cases there
      · exact Prog.twin_pure (by rw [(envs.pcmRead 0).ret])
    · exact .bindEq (twin_record _ _) fun _ => Prog.twin_pure (by rw [(envs.pcmRead 0).ret])

/-- A running stream is read with the same result in both runs, muted or not. -/
theorem twin_inReadRunning {R : ResamplerLib ρ} (oblivious : R.Oblivious same)
    {env other : InReadEnv} (envs : env.Twin other) (buffer : CallerBuffer) (bytes : Nat) :
    Twin (World.Twin same) (fun x y => x.2 = y.2) (inReadRunning R i buffer bytes env)
      (inReadRunning R i buffer bytes other) := by
  refine .bind (twin_capture i oblivious envs bytes _ _) ?_
  -- What follows the capture looks at its code and at the mute switch.
  rintro ⟨x, ret⟩ ⟨y, _⟩ rfl
  exact .bindEq blind_getAdev fun adev => Prog.twin_pure rfl

/-- Reads that differ in the samples delivered return alike and leave alike worlds. -/
theorem twin_inRead {R : ResamplerLib ρ} (oblivious : R.Oblivious same) {env other : InReadEnv}
    (envs : env.Twin other) (buffer : CallerBuffer) (bytes : Nat) :
    Twin (World.Twin same) (fun x y => x.returned = y.returned) (inRead R i buffer bytes env)
      (inRead R i buffer bytes other) := by
  refine .bindEq (Prog.blind_acquire _) fun _ => ?_
  refine .bindEq (Prog.blind_acquire _) fun _ => ?_
  rw [envs.start]
  refine .bindEq (blind_startInIfStandby oblivious i _) fun ret => ?_
  refine .bindEq (Prog.blind_release _) fun _ => ?_
  -- The start ends alike, so both runs capture or neither does.
  have read : Twin (World.Twin same) (fun x y => x.2 = y.2)
      (if ret < 0 then pure (buffer, some ret) else inReadRunning R i buffer bytes env)
      (if ret < 0 then pure (buffer, some ret) else inReadRunning R i buffer bytes other) :=
    .ite Iff.rfl (fun _ _ => Prog.twin_pure rfl) fun _ _ =>
      twin_inReadRunning i oblivious envs buffer bytes
  refine read.bind ?_
  rintro ⟨x, ret⟩ ⟨y, _⟩ rfl
  refine .bind (twin_getIn i) fun a b twin => ?_
  refine .bindEq (.when Iff.rfl (twin_record _ _)) fun _ => ?_
  exact .bindEq (Prog.blind_release _) fun _ => Prog.twin_pure rfl

end Capture

section Playback

variable (o : Nat)

/-- Throttling goes by the fill level of an output stream. -/
theorem blind_throttle (htimestamp : Nat → Option Nat) (fuel : Nat) :
    ∀ round kernelFrames total, Blind (World.Twin same)
      (throttle o htimestamp fuel round kernelFrames total : Hal ρ Int) := by
  induction fuel with
  | zero => exact fun _ _ _ => Prog.blind_pure _
  -- A round reads the output stream and the kernel's reports, which are the same in both runs.
  | succ fuel ih =>
    intro round kernelFrames total
    refine .bindEq (blind_getOut o) fun out => ?_
    refine .bindEq (twin_record _ _) fun _ => ?_
    split
    · exact Prog.blind_pure _
    · refine .bindEq (twin_record _ _) fun _ => ?_
      refine .ite Iff.rfl (fun _ _ => ?_) fun _ _ => Prog.blind_pure _
      refine .ite Iff.rfl (fun _ _ => Prog.blind_pure _) fun _ _ => ?_
      refine .bindEq (twin_record _ _) fun _ => ?_
      refine .ite Iff.rfl (fun _ _ => ih _ _ _) fun _ _ => ?_
      exact Prog.blind_pure _

/-- What is written is resampled in both runs or in neither. -/
theorem blind_convert (R : ResamplerLib ρ) (buffer : Samples) (inFrames : Nat) :
    Blind (World.Twin same) (convert R o buffer inFrames) := by
  -- The resampler is one of an output stream.
  refine .bindEq (blind_getOut o) fun out => ?_
  refine .ite Iff.rfl (fun _ _ => ?_) fun _ _ => Prog.blind_pure _
  split
  · exact .bindEq (blind_modifyOut o _) fun _ => Prog.blind_pure _
  · exact .bindEq (twin_record _ _) fun _ => Prog.blind_pure _

/-- What is prepared for a write is the same in both runs. -/
theorem blind_prepareWrite (R : ResamplerLib ρ) (buffer : Samples) (bytes : Nat)
    (env : OutWriteEnv) (bufferType : OutBufferType) (scoOn : Bool) :
    Blind (World.Twin same) (prepareWrite R o buffer bytes env bufferType scoOn) := by
  -- The buffer is adapted, the frames converted, and the write throttled.
  refine .bindEq (.when Iff.rfl (blind_modifyOut o _)) fun _ => ?_
  refine .bindEq (blind_convert o R buffer _) fun frames => ?_
  refine .bindEq ?_ fun _ => ?_
  · refine .when Iff.rfl ?_
    exact .bindEq (blind_throttle o _ _ _ _ _) fun _ => blind_modifyOut o _
  · exact Prog.blind_pure _

/-- The way out of a write goes by its result. -/
theorem blind_outWriteExit (bytes : Nat) (ret : Int) :
    Blind (World.Twin same) (outWriteExit o bytes ret : Hal ρ Int) := by
  refine .bindEq (Prog.blind_release _) fun _ => ?_
  exact .bindEq (.when Iff.rfl (twin_record _ _)) fun _ => Prog.blind_pure _

/-- And so does what follows `pcm_write`. -/
theorem blind_finishWrite (bytes : Nat) (frames : OutFrames) (result : Int) :
    Blind (World.Twin same) (finishWrite o bytes frames result : Hal ρ Int) := by
  -- A broken pipe is the one result after which the write returns at once.
  refine .bindEq (blind_getOut o) fun out => ?_
  refine .bindEq (twin_record _ _) fun _ => ?_
  refine .ite Iff.rfl (fun _ _ => ?_) fun _ _ => ?_
  · exact .bindEq (Prog.blind_release _) fun _ => Prog.blind_pure _
  · exact .bindEq (.when Iff.rfl (blind_modifyOut o _)) fun _ => blind_outWriteExit o bytes result

/-- Playback never looks at a captured sample. -/
theorem blind_outWrite (R : ResamplerLib ρ) (buffer : Samples) (bytes : Nat)
    (env : OutWriteEnv) : Blind (World.Twin same) (outWrite R o buffer bytes env) := by
  -- The two mutexes are taken, the stream is started, and the result decides.
  refine .bindEq (Prog.blind_acquire _) fun _ => ?_
  refine .bindEq (Prog.blind_acquire _) fun _ => ?_
  refine .bindEq (blind_startOutIfStandby R o _) fun ret => ?_
  refine .ite Iff.rfl (fun _ _ => ?_) ?_
  · exact .bindEq (Prog.blind_release _) fun _ => blind_outWriteExit o bytes ret
  · intro _ _
    refine .bindEq blind_getAdev fun adev => ?_
    refine .bindEq (Prog.blind_release _) fun _ => ?_
    refine .bindEq (blind_prepareWrite o R buffer bytes env _ _) fun frames => ?_
    exact blind_finishWrite o bytes frames _

end Playback

section EntryPoints

/-- Putting an output stream into standby from outside is the same in both runs. -/
theorem blind_outStandby (o : Nat) : Blind (World.Twin same) (outStandby o : Hal ρ Unit) := by
  -- Both mutexes are taken around the standby and given back.
  refine .bindEq (Prog.blind_acquire _) fun _ => ?_
  refine .bindEq (Prog.blind_acquire _) fun _ => ?_
  refine .bindEq (blind_doOutStandby o) fun _ => ?_
  refine .bindEq (Prog.blind_release _) fun _ => ?_
  exact Prog.blind_release _

/-- And so is putting an input stream into it. -/
theorem blind_inStandby (i : Nat) : Blind (World.Twin same) (inStandby i : Hal ρ Unit) := by
  -- Both mutexes are taken around the standby and given back.
  refine .bindEq (Prog.blind_acquire _) fun _ => ?_
  refine .bindEq (Prog.blind_acquire _) fun _ => ?_
  refine .bindEq (blind_doInStandby i) fun _ => ?_
  refine .bindEq (Prog.blind_release _) fun _ => ?_
  exact Prog.blind_release _

/-- A change of the output route is the same in both runs. -/
theorem blind_outSetParameters (o : Nat) (routing : Parm Devices) :
    Blind (World.Twin same) (outSetParameters o routing : Hal ρ Int) := by
  -- Standby and route are changed if the new route asks for it, which the device decides.
  refine .bindEq (Prog.blind_acquire _) fun _ => ?_
  refine .bindEq ?_ fun _ => ?_
  · refine .when Iff.rfl ?_
    refine .bindEq blind_getAdev fun adev => ?_
    refine .when Iff.rfl ?_
    refine .bindEq ?_ fun _ => ?_
    · refine .when Iff.rfl ?_
      refine .bindEq (Prog.blind_acquire _) fun _ => ?_
      refine .bindEq (blind_doOutStandby o) fun _ => ?_
      exact Prog.blind_release _
    · refine .bindEq (blind_modifyAdev _) fun _ => ?_
      exact blind_modifyAdev _
  · exact .bindEq (Prog.blind_release _) fun _ => Prog.blind_pure _

/-- A change of the input route is the same, standby included. -/
theorem blind_inSetParameters (i : Nat) (routing : Parm Devices) :
    Blind (World.Twin same) (inSetParameters i routing : Hal ρ Int) := by
  -- The same for an input stream.
  refine .bindEq (Prog.blind_acquire _) fun _ => ?_
  refine .bindEq ?_ fun _ => ?_
  · refine .when Iff.rfl ?_
    refine .bindEq blind_getAdev fun adev => ?_
    refine .when Iff.rfl ?_
    refine .bindEq ?_ fun _ => ?_
    · refine .when Iff.rfl ?_
      refine .bindEq (Prog.blind_acquire _) fun _ => ?_
      refine .bindEq (blind_doInStandby i) fun _ => ?_
      exact Prog.blind_release _
    · refine .bindEq (blind_modifyAdev _) fun _ => ?_
      exact blind_modifyAdev _
  · exact .bindEq (Prog.blind_release _) fun _ => Prog.blind_pure _

/-- Orientation and screen state are those of the device. -/
theorem blind_adevSetParameters (orientation screenState : Parm String) :
    Blind (World.Twin same) (adevSetParameters orientation screenState : Hal ρ Int) := by
  -- The mixer is selected anew for a new orientation.
  refine .bindEq ?_ fun _ => ?_
  · refine .when Iff.rfl ?_
    refine .bindEq (Prog.blind_acquire _) fun _ => ?_
    refine .bindEq blind_getAdev fun adev => ?_
    refine .bindEq ?_ fun _ => Prog.blind_release _
    refine .when Iff.rfl ?_
    exact .bindEq (blind_modifyAdev _) fun _ => blind_modifyAdev _
  · exact .bindEq (.when Iff.rfl (blind_modifyAdev _)) fun _ => Prog.blind_pure _

/-- The position of an output stream does not come from a capture. -/
theorem blind_outGetPresentationPosition (o : Nat) (htimestamp : Option Nat) :
    Blind (World.Twin same) (outGetPresentationPosition o htimestamp : Hal ρ (Option Nat)) := by
  -- What is read is the count of the stream and the kernel's report.
  refine .bindEq (Prog.blind_acquire _) fun _ => ?_
  refine .bindEq (blind_getOut o) fun out => ?_
  refine .bindEq (twin_record _ _) fun _ => ?_
  refine .bindEq (Prog.blind_release _) fun _ => ?_
  exact Prog.blind_pure _

/-- The latency goes by the screen and by whether there is an input stream. -/
theorem blind_outGetLatency : Blind (World.Twin same) (outGetLatency : Hal ρ Nat) := by
  -- The device decides, under its mutex.
  refine .bindEq (Prog.blind_acquire _) fun _ => ?_
  refine .bindEq blind_getAdev fun adev => ?_
  exact .bindEq (Prog.blind_release _) fun _ => Prog.blind_pure _

/-- Both runs mute the microphone, or neither does. -/
theorem blind_adevSetMicMute (state : Bool) :
    Blind (World.Twin same) (adevSetMicMute state : Hal ρ Int) :=
  .bindEq (blind_modifyAdev _) fun _ => Prog.blind_pure _

/-- A stream that was just opened has captured nothing. -/
theorem StreamIn.Twin.refl_opened (sampleRate : Nat) (fast : Bool) :
    StreamIn.Twin same (.opened sampleRate fast) (.opened sampleRate fast) :=
  ⟨rfl, rfl, rfl, rfl, rfl, .none, rfl, rfl, rfl, rfl⟩

/-- An output stream is opened in both runs or in neither. -/
theorem blind_openOutputStream (o : Nat) (calloc : Bool) (config : AudioConfig) :
    Blind (World.Twin same) (adevOpenOutputStream o calloc config : Hal ρ (Int × AudioConfig)) := by
  -- The allocation fails in both runs or in neither.
  refine .ite Iff.rfl (fun _ _ => Prog.blind_pure _) fun _ _ => ?_
  refine .bindEq ?_ fun _ => Prog.blind_pure _
  exact Prog.twin_update fun _ _ twin => ⟨twin.adev, by simp only [twin.outs], twin.ins,
    by simp only [twin.outOpen], twin.inOpen, twin.opened⟩

/-- And so is an input stream, which has no samples yet. -/
theorem blind_openInputStream (i : Nat) (calloc : Bool) (config : AudioConfig) (fast : Bool) :
    Blind (World.Twin same)
      (adevOpenInputStream i calloc config fast : Hal ρ (Int × AudioConfig)) := by
  refine .ite Iff.rfl (fun _ _ => Prog.blind_pure _) fun _ _ => ?_
  refine .ite Iff.rfl (fun _ _ => Prog.blind_pure _) fun _ _ => ?_
  refine .bindEq ?_ fun _ => Prog.blind_pure _
  refine Prog.twin_update fun w v twin => ⟨twin.adev, twin.outs, fun j => ?_, twin.outOpen,
    by simp only [twin.inOpen], twin.opened⟩
  -- The stream just opened is the same in both runs, and the others are as they were.
  show StreamIn.Twin same (update w.ins i _ j) (update v.ins i _ j)
  by_cases at_ : j = i
  · subst at_
    simpa using StreamIn.Twin.refl_opened _ _
  · simpa [at_] using twin.ins j

/-- Closing an output stream is the same in both runs. -/
theorem blind_closeOutputStream (o : Nat) :
    Blind (World.Twin same) (adevCloseOutputStream o : Hal ρ Unit) :=
  .bindEq (blind_outStandby o) fun _ => Prog.twin_update fun _ _ twin =>
    ⟨twin.adev, twin.outs, twin.ins, by simp only [twin.outOpen], twin.inOpen, twin.opened⟩

/-- Closing an input stream lets go of what may differ. -/
theorem blind_closeInputStream (i : Nat) :
    Blind (World.Twin same) (adevCloseInputStream i : Hal ρ Unit) :=
  .bindEq (blind_inStandby i) fun _ => Prog.twin_update fun _ _ twin =>
    ⟨twin.adev, twin.outs, twin.ins, twin.outOpen, by simp only [twin.inOpen], twin.opened⟩

/-- Calls that differ in captured samples keep worlds apart in nothing else. -/
theorem twin_prog {R : ResamplerLib ρ} (oblivious : R.Oblivious same) {one two : Act}
    (acts : one.Twin two) : Twin (World.Twin same) Eq (one.prog R) (two.prog R) := by
  cases acts with
  | inRead i buffer bytes envs => exact (twin_inRead i oblivious envs buffer bytes).discard
  | refl =>
    -- Given the same call, no entry point but `in_read` has anything captured in its hands.
    cases one with
    | openOutputStream o calloc config => exact (blind_openOutputStream o calloc config).discard
    | closeOutputStream o => exact blind_closeOutputStream o
    | openInputStream i calloc config fast =>
      exact (blind_openInputStream i calloc config fast).discard
    | closeInputStream i => exact blind_closeInputStream i
    | outWrite o buffer bytes env => exact (blind_outWrite o R buffer bytes env).discard
    | inRead i buffer bytes env => exact (twin_inRead i oblivious (.refl env) buffer bytes).discard
    | outStandby o => exact blind_outStandby o
    | inStandby i => exact blind_inStandby i
    | outSetParameters o routing => exact (blind_outSetParameters o routing).discard
    | inSetParameters i routing => exact (blind_inSetParameters i routing).discard
    | outGetPresentationPosition o htimestamp =>
      exact (blind_outGetPresentationPosition o htimestamp).discard
    | outGetLatency o => exact blind_outGetLatency.discard
    | adevSetParameters orientation screenState =>
      exact (blind_adevSetParameters orientation screenState).discard
    | adevSetMicMute state => exact (blind_adevSetMicMute state).discard

end EntryPoints

/-- Calls that differ in captured samples can be made in the same worlds. -/
theorem Act.Twin.enabled {one two : Act} (acts : one.Twin two) {w v : World ρ}
    (twin : World.Twin same w v) : one.enabled w = two.enabled v := by
  -- Whether a stream is open is the same in both worlds.
  cases acts with
  | inRead i buffer bytes envs => exact congrFun twin.inOpen i
  | refl => cases one <;> simp [Act.enabled, twin.outOpen, twin.inOpen]

/-- One step of two runs in step. -/
theorem twin_step {R : ResamplerLib ρ} (oblivious : R.Oblivious same) {one two : Act}
    (acts : one.Twin two) {w v next after : World ρ} (twin : World.Twin same w v)
    (left : step R w one = some next) (right : step R v two = some after) :
    World.Twin same next after := by
  unfold step at left right
  -- Twin worlds have the same streams open, so both calls are enabled or neither is.
  rw [← acts.enabled twin] at right
  split at left
  · rw [if_pos ‹_›] at right
    rw [← Option.some.inj left, ← Option.some.inj right]
    exact (twin_prog oblivious acts w v twin).1
  · cases left

/-- Two runs whose calls differ in captured samples only differ in nothing else at their ends. -/
theorem twin_run {R : ResamplerLib ρ} (oblivious : R.Oblivious same) {acts others : List Act}
    (alike : List.Forall₂ Act.Twin acts others) {w v final other : World ρ}
    (twin : World.Twin same w v) (left : run (step R) w acts = some final)
    (right : run (step R) v others = some other) : World.Twin same final other := by
  -- The runs are taken side by side, one call of each at a time.
  have kept : ∀ w v one two next after, World.Twin same w v → Act.Twin one two →
      step R w one = some next → step R v two = some after → World.Twin same next after :=
    fun _ _ _ _ _ _ twin acts => twin_step oblivious acts twin
  exact run_related kept twin alike left right

/-- Both runs begin in the same world. -/
theorem twin_initial (hardware : Settings) :
    World.Twin same (.initial hardware) (.initial hardware : World ρ) :=
  ⟨rfl, rfl, fun _ => .refl_opened _ _, rfl, rfl, rfl⟩

end Grouper.Audio
