import Grouper.Audio.Accounting
import Grouper.Audio.WriteThreshold

/-! The position of an output stream never goes back, as long as its frame counter does not wrap. -/

namespace Grouper.Audio

open Function (update)
open Prog (Leads)

variable {ρ : Type}

/-- How many frames a `pcm_write` hands to the kernel, which sees samples and a configuration. -/
def Call.frames : Call → Nat
  | pcmWrite (some pcm) data _ => data.length / pcm.config.channels
  | _ => 0

/-- The frames the kernel took during a write: an accepted `pcm_write` is the last call of one. -/
def World.taken (w next : World ρ) : Nat :=
  if w.accepted < next.accepted then (next.calls.head?.map Call.frames).getD 0 else 0

/-- A call opens an output stream at that address. -/
def Act.opensOut (o : Nat) : Act → Bool
  | .openOutputStream p calloc _ => p = o ∧ calloc = true
  | _ => false

/-- The world, and beside it what the kernel does with one output stream. -/
structure Playing (ρ : Type) where
  world : World ρ
  /-- The frames in the kernel's buffer: its size without what is available. -/
  queued : Nat
  /-- The frames that were successfully written since the stream was opened. -/
  total : Nat

/-- A fresh device plays nothing. -/
def Playing.initial (hardware : Settings) : Playing ρ where
  world := .initial hardware
  queued := 0
  total := 0

/--
A call, and how many frames of the stream the kernel has played by the end of it.

A PCM is opened with an empty buffer, by a write that finds its stream in standby. What a write
puts into the buffer is what the kernel took; otherwise the buffer only empties.
-/
def playing (R : ResamplerLib ρ) (o : Nat) (s : Playing ρ) (act : Act × Nat) :
    Option (Playing ρ) :=
  (step R s.world act.1).map fun next =>
    let taken := if act.1.writesTo o then s.world.taken next else 0
    { world := next
      queued := (if (s.world.outs o).standby then 0 else s.queued) + taken - act.2
      total := if act.1.opensOut o then 0 else s.total + taken }

/-- While the PCM is open, the stream reports so many frames for what the kernel has available. -/
def Reports (o : Nat) (s : Playing ρ) (frames : Nat) : Prop :=
  (s.world.outs o).standby = false ∧ ∃ pcm avail, (s.world.outs o).pcm = some pcm ∧
    avail + s.queued = pcm.bufferSize ∧
      ((outGetPresentationPosition o (some avail)).exec s.world).1 = some frames

section Write

variable (R : ResamplerLib ρ) (w : World ρ) (o : Nat) (buffer : Samples) (bytes : Nat)
  (env : OutWriteEnv)

/-- A running stream has a PCM, which was opened with the configuration the stream points to. -/
def StreamOut.Armed (out : StreamOut ρ) : Prop :=
  out.standby = false → ∃ pcm, out.pcm = some pcm ∧ pcm.config = out.config

/-- A stream that is at most put into standby stays armed. -/
theorem StreamOut.Armed.rests {before after : StreamOut ρ} (armed : before.Armed)
    (rests : before.Rests after) : after.Armed := by
  -- If it runs, it is the stream from before.
  intro running
  have same := rests.keeps.2 running
  rw [same] at running ⊢
  exact armed running

/-- A started stream has the PCM it was started with. -/
theorem StreamOut.pcm_begun (out : StreamOut ρ) (env : StartEnv) (pcm : Pcm) :
    (out.begun R env pcm).pcm = some pcm := by
  unfold StreamOut.begun
  split <;> rfl

/-- A write arms the stream it starts. -/
theorem armed_startOutIfStandby (env : StartEnv) (armed : (w.outs o).Armed) :
    (((startOutIfStandby R o env).exec w).2.outs o).Armed := by
  rcases startOutIfStandby_cases R w env o with
    ⟨_, same⟩ | ⟨_, _, _, _, n, own⟩ | ⟨resting, _, _, n, own⟩
  · rw [same]
    exact armed
  · -- The PCM was opened with what the stream had just been configured for.
    rw [own]
    intro _
    refine ⟨_, StreamOut.pcm_begun R _ env _, ?_⟩
    exact (StreamOut.config_begun _ R env _).symm
  · -- A stream that could not be started is still in standby.
    rw [own]
    intro running
    have configured : ((w.outs o).configure (outScoOn w.adev)).standby = false := running
    unfold StreamOut.configure at configured
    split at configured
    · exact absurd (resting.symm.trans configured) (by decide)
    · exact absurd (resting.symm.trans configured) (by decide)

/-- The conversion makes frames of as many channels as the PCM has. -/
theorem frameSize_prepareWrite (bufferType : OutBufferType) (scoOn : Bool) :
    ((prepareWrite R o buffer bytes env bufferType scoOn).exec w).1.frameSize =
      if 2 > (w.outs o).config.channels then outFrameSize / 2 else outFrameSize := by
  obtain ⟨adapted, config, frames⟩ :=
    prepareWrite_converts w R o buffer bytes env bufferType scoOn
  rw [frames, ← config]
  unfold convert
  -- Whether the frames are resampled or not, they have that size.
  rw [exec_getOut_bind, Prog.exec_ite]
  split
  · split
    · rfl
    · rfl
  · rfl

/-- What a write leaves behind of its stream, in terms of what the kernel took. -/
structure Wrote (next : World ρ) : Prop where
  counted : (next.outs o).written = ((w.outs o).written + w.taken next) % 2 ^ 64
  armed : (next.outs o).Armed
  /-- On the main route an accepted write hands over what it was given. -/
  main : OnMain w o → Accepts w o env → w.taken next = bytes / outFrameSize ∧
    (next.outs o).standby = false ∧ (next.outs o).config = pcmConfigOut

variable {w} in
/-- Where no write is accepted, nothing is taken. -/
theorem Uncounted.taken {next : World ρ} (same : Uncounted w next) : w.taken next = 0 := by
  rw [World.taken, same.accepted, if_neg (Nat.lt_irrefl _)]

/-- Frames of one or two channels are as many for the kernel as for the stream. -/
theorem frames_length {config : PcmConfig}
    (which : config = pcmConfigOut ∨ config = pcmConfigSco) (frames : Nat) :
    frames * (if 2 > config.channels then outFrameSize / 2 else outFrameSize) / 2 /
      config.channels = frames := by
  -- The two configurations differ in the channels, which cancel out.
  rcases which with rfl | rfl
  · show frames * 4 / 2 / 2 = frames
    omega
  · show frames * 2 / 2 / 1 = frames
    omega

variable {w} in
/-- An accepted write is the last call in the log, and the kernel took what it was handed. -/
theorem taken_finishWrite {before : World ρ} {pcm : Pcm} (frames : OutFrames)
    (same : w.accepted = before.accepted) (open_ : (w.outs o).pcm = some pcm) :
    before.taken ((finishWrite o bytes frames 0).exec w).2 =
      frames.frames * frames.frameSize / 2 / pcm.config.channels := by
  -- One more write was accepted than before.
  have more := ((counted_finishWrite w o bytes frames 0).2 rfl).1
  rw [World.taken, if_pos (by omega), exec_finishWrite_accepted, open_]
  simp [Call.frames]

/-- Leaving a write releases the mutex and touches no stream. -/
theorem outs_outWriteExit (ret : Int) :
    ((outWriteExit o bytes ret).exec w).2.outs = w.outs := by
  unfold outWriteExit
  rw [Prog.exec_bind, Prog.exec_release, Prog.exec_bind, Prog.exec_when]
  -- The sleep after a failure is no part of a stream.
  split
  · rfl
  · rfl

/-- A write counts exactly the frames the kernel took, which are none if it took no write. -/
theorem wrote_outWrite (settled : w.ctl.Settled) (fit : (w.outs o).Fit)
    (armed : (w.outs o).Armed) (within : (w.outs o).written < 2 ^ 64) :
    Wrote w o bytes env ((outWrite R o buffer bytes env).exec w).2 := by
  -- A start takes no frames, and arms and fits the stream it starts.
  have start := uncounted_startOutIfStandby w R o env.start
  have startArmed := armed_startOutIfStandby R w o env.start armed
  obtain ⟨startFit, running⟩ := fit_startOutIfStandby R w o env.start fit
  have startMain := config_of_begun w R o env.start settled
  unfold Leads at start
  -- Where nothing was taken, the count may stay as it is.
  have unwritten : ∀ {next : World ρ}, Uncounted w next →
      (next.outs o).written = ((w.outs o).written + w.taken next) % 2 ^ 64 := by
    intro next same
    rw [same.taken, Nat.add_zero, Nat.mod_eq_of_lt within, same.written]
  by_cases begun : ((startOutIfStandby R o env.start).exec w).1 = 0
  · have running := running begun
    have startMain := fun main => startMain main begun
    obtain ⟨after, result⟩ : ∃ after, (startOutIfStandby R o env.start).exec w = (0, after) :=
      ⟨_, Prod.ext begun rfl⟩
    rw [exec_outWrite_started R w o buffer bytes env result]
    rw [result] at start startArmed startFit startMain running
    have frame : OutFrame o after _ := outFrame_prepareWrite R buffer bytes env
      after.adev.bufferType (outScoOn after.adev) after
    have size := frameSize_prepareWrite R after o buffer bytes env after.adev.bufferType
      (outScoOn after.adev)
    have converted := frames_prepareWrite after R o buffer bytes env after.adev.bufferType
      (outScoOn after.adev)
    generalize (prepareWrite R o buffer bytes env after.adev.bufferType
      (outScoOn after.adev)).exec after = ready at frame size converted ⊢
    -- Preparing a write keeps the PCM of the stream, its configuration and its count.
    have quiet : Uncounted w ready.2 := IsTrans.trans _ _ _ start frame.uncounted
    have config := frame.kept.config
    obtain ⟨pcm, is, same⟩ := startArmed running
    have open_ : (ready.2.outs o).pcm = some pcm := frame.kept.pcm.trans is
    obtain ⟨refused, taken⟩ := counted_finishWrite ready.2 o bytes ready.1 env.pcmWrite
    obtain ⟨written, outs, _⟩ := outs_finishWrite ready.2 o bytes ready.1 env.pcmWrite
    -- What the kernel makes of the samples are the frames that the stream counts.
    have handed : w.taken ((finishWrite o bytes ready.1 0).exec ready.2).2 = ready.1.frames := by
      rw [taken_finishWrite o bytes ready.1 quiet.accepted open_, size, same,
        frames_length (startFit.config running)]
    refine ⟨?_, fun _ => ⟨pcm, ?_, ?_⟩, fun main accepts => ⟨?_, ?_, ?_⟩⟩
    · -- A refused write counts nothing, and an accepted one what it was handed.
      by_cases accepted : env.pcmWrite = 0
      · rw [(taken accepted).2.2, accepted, handed, quiet.written]
      · exact unwritten (IsTrans.trans _ _ _ quiet (refused accepted))
    · rw [outs]
      exact open_
    · rw [outs]
      exact same.trans config.symm
    · -- The main PCM has the rate of the stream.
      rw [accepts.1, handed]
      exact converted (by rw [startMain main]; rfl)
    · rw [outs]
      exact frame.kept.standby.trans running
    · rw [outs]
      exact config.trans (startMain main)
  · -- A stream that could not be started is not written to.
    rw [exec_outWrite_failed R w o buffer bytes env begun]
    refine ⟨unwritten (IsTrans.trans _ _ _ start (uncounted_outWriteExit _ o bytes _)), ?_,
      fun _ accepts => ?_⟩
    · rw [outs_outWriteExit]
      exact startArmed
    · -- On the main route an accepted write would have found its PCM ready.
      rcases startOutIfStandby_cases R w env.start o with
        ⟨_, same⟩ | ⟨_, _, ret, _⟩ | ⟨resting, failed, _⟩
      · exact absurd (congrArg Prod.fst same) begun
      · exact absurd ret begun
      · exact absurd (failed.symm.trans (accepts.2 resting)) (by decide)

end Write

section Runs

variable (R : ResamplerLib ρ) (o : Nat)

/-- Unless it writes to the stream or opens it, a call at most puts the stream into standby. -/
theorem rests_of_other {w next : World ρ} {act : Act} (other : act.writesTo o = false)
    (old : act.opensOut o = false) (stepped : step R w act = some next) :
    (w.outs o).Rests (next.outs o) := by
  rcases rests_of_step R o other stepped with rests | ⟨⟨calloc, config, rfl⟩, _⟩
  · exact rests
  · -- An opening that got no memory changes nothing.
    obtain rfl : calloc = false := by simpa [Act.opensOut] using old
    obtain ⟨_, rfl⟩ : w.outOpen o = false ∧ w = next := by
      simpa [step, Act.enabled, Act.prog, adevOpenOutputStream] using stepped
    exact Or.inl rfl

/-- Resting writes nothing. -/
theorem StreamOut.Rests.written {before after : StreamOut ρ} (rests : before.Rests after) :
    after.written = before.written := by
  -- The stream is as before, or has lost its handle.
  rcases rests with rfl | ⟨_, rfl⟩
  · rfl
  · rfl

/-- What holds of the stream after any run. -/
structure Playing.Sound (s : Playing ρ) : Prop where
  settled : s.world.ctl.Settled
  fit : s.world.Fit
  armed : (s.world.outs o).Armed
  /-- The count is what was written in all, but for the width of the counter. -/
  counted : (s.world.outs o).written = s.total % 2 ^ 64

variable {o} in
/-- The count is one of 64 bits. -/
theorem Playing.Sound.within {s : Playing ρ} (sound : s.Sound o) :
    (s.world.outs o).written < 2 ^ 64 := by
  rw [sound.counted]
  exact Nat.mod_lt _ (by decide)

/-- A fresh device has written nothing. -/
theorem Playing.sound_initial (hardware : Settings) :
    (Playing.initial hardware : Playing ρ).Sound o where
  settled := settled_initial hardware
  fit := ⟨fun _ => StreamOut.fit_opened, fun _ => StreamIn.fit_opened 0 false⟩
  armed := nofun
  counted := rfl

/-- Every call keeps the book of what was written. -/
theorem Playing.sound_step (s : Playing ρ) (act : Act × Nat) (next : Playing ρ)
    (sound : s.Sound o) (stepped : playing R o s act = some next) : next.Sound o := by
  obtain ⟨act, played⟩ := act
  obtain ⟨after, took, rfl⟩ := Option.map_eq_some_iff.mp stepped
  have settled : after.ctl.Settled := settled_step R s.world act after sound.settled took
  have fit : after.Fit := fit_step R s.world act after sound.fit took
  -- Only a write counts frames, and only an opening starts the count again.
  cases writes : act.writesTo o with
  | true =>
    obtain ⟨buffer, bytes, env, rfl, rfl⟩ := step_writesTo R o writes took
    obtain ⟨counted, armed, _⟩ := wrote_outWrite R s.world o buffer bytes env sound.settled
      (sound.fit.outs o) sound.armed sound.within
    refine ⟨settled, fit, armed, counted.trans ?_⟩
    -- The sum of the remainders is the remainder of the sum.
    rw [sound.counted, Nat.mod_add_mod]
    simp [Act.opensOut]
  | false =>
    cases opens : act.opensOut o with
    | true =>
      cases act with
      | openOutputStream p calloc config =>
        obtain ⟨rfl, rfl⟩ : p = o ∧ calloc = true := by simpa [Act.opensOut] using opens
        obtain ⟨_, rfl⟩ : s.world.outOpen p = false ∧ { s.world with
            outs := update s.world.outs p .opened
            outOpen := update s.world.outOpen p true } = after := by
          simpa [step, Act.prog, Act.enabled, adevOpenOutputStream] using took
        -- A stream that has just been opened is in standby, and has counted nothing.
        have fresh : update s.world.outs p .opened p = (.opened : StreamOut ρ) :=
          Function.update_self ..
        refine ⟨settled, fit, ?_, ?_⟩
        · show (update s.world.outs p .opened p).Armed
          rw [fresh]
          intro running
          cases running
        · show (update s.world.outs p .opened p).written = _
          rw [fresh]
          rfl
      | _ => simp [Act.opensOut] at opens
    | false =>
      have rests := rests_of_other R o writes opens took
      refine ⟨settled, fit, sound.armed.rests rests, rests.written.trans ?_⟩
      simpa [writes, opens] using sound.counted

variable {o}

/-- Within 64 bits, a difference that reads as a positive number is one. -/
theorem bmod_of_nonneg {difference : Int} (low : -2 ^ 63 ≤ difference)
    (high : difference < 2 ^ 64) (positive : 0 ≤ difference.bmod (2 ^ 64)) :
    difference.bmod (2 ^ 64) = difference := by
  unfold Int.bmod at positive ⊢
  dsimp only at positive ⊢
  -- The remainder is the difference itself, or one that lies 2^64 above or below it.
  split at positive
  · omega
  · omega

/-- The buffer of the PCM that a stream is configured for, in frames. -/
def StreamOut.bufferSize (out : StreamOut ρ) : Nat := out.config.periodSize * out.config.periodCount

/-- The position is the count without what the buffer holds, if that is a positive number. -/
theorem exec_outGetPresentationPosition (w : World ρ) (avail : Nat) :
    ((outGetPresentationPosition o (some avail)).exec w).1 =
      let signed := ((w.outs o).written - (w.outs o).bufferSize + avail : Int).bmod (2 ^ 64)
      if signed ≥ 0 then some signed.toNat else none := rfl

/-- What is reported and what is queued make up what was counted. -/
theorem Playing.Sound.reports_iff {s : Playing ρ} (sound : s.Sound o) (frames : Nat) :
    Reports o s frames ↔ (s.world.outs o).standby = false ∧
      s.queued ≤ (s.world.outs o).bufferSize ∧
      frames + s.queued = (s.world.outs o).written ∧ frames < 2 ^ 63 := by
  have within := sound.within
  unfold Reports
  refine and_congr_right fun running => ?_
  -- The PCM that is open has the buffer of the configuration.
  obtain ⟨pcm, is, same⟩ := sound.armed running
  have size : pcm.bufferSize = (s.world.outs o).bufferSize := by
    rw [Pcm.bufferSize, same]
    rfl
  -- Either PCM has a buffer far smaller than what the counter can hold.
  have small : (s.world.outs o).bufferSize ≤ 4096 := by
    unfold StreamOut.bufferSize
    rcases (sound.fit.outs o).config running with config | config
    · rw [config]
      decide
    · rw [config]
      decide
  constructor
  · rintro ⟨pcm', avail, is', split_, reported⟩
    obtain rfl : pcm = pcm' := Option.some.inj (is.symm.trans is')
    rw [exec_outGetPresentationPosition] at reported
    -- A negative difference is not reported, so what was queued had been counted.
    have held : ((s.world.outs o).written - (s.world.outs o).bufferSize + avail : Int) =
        (s.world.outs o).written - s.queued := by omega
    dsimp only at reported
    rw [held] at reported
    split at reported
    · rename_i positive
      have above := Int.bmod_lt (x := ((s.world.outs o).written - s.queued : Int)) (m := 2 ^ 64)
        (by decide)
      rw [bmod_of_nonneg (by omega) (by omega) positive] at reported above positive
      obtain rfl := Option.some.inj reported
      refine ⟨by omega, by omega, by omega⟩
    · cases reported
  · rintro ⟨room, sum, few⟩
    refine ⟨pcm, (s.world.outs o).bufferSize - s.queued, is, by omega, ?_⟩
    -- What is free and what is queued make up the buffer.
    have held : ((s.world.outs o).written - (s.world.outs o).bufferSize +
        ((s.world.outs o).bufferSize - s.queued : Nat) : Int) = frames := by omega
    rw [exec_outGetPresentationPosition, held, Int.bmod_eq_of_le (by omega) (by omega)]
    rfl

variable (o) in
/-- The frames of the stream that the kernel holds no more, because it played or dropped them. -/
def Playing.passed (s : Playing ρ) : Int :=
  s.total - (if (s.world.outs o).standby then 0 else s.queued : Nat)

variable {R}

/-- What a call adds to the buffer it adds to the total as well, so no frame comes back. -/
theorem Playing.passed_step (s : Playing ρ) (act : Act × Nat) (next : Playing ρ)
    (old : act.1.opensOut o = false) (stepped : playing R o s act = some next) :
    s.passed o ≤ next.passed o := by
  obtain ⟨after, _, rfl⟩ := Option.map_eq_some_iff.mp stepped
  unfold Playing.passed
  dsimp only
  rw [old, if_neg Bool.false_ne_true]
  generalize (if act.1.writesTo o then s.world.taken after else 0) = taken
  -- A PCM that is closed or opened in the call only takes frames out of the buffer.
  by_cases was : (s.world.outs o).standby = true
  · by_cases is : (after.outs o).standby = true
    · rw [if_pos was, if_pos is]
      omega
    · rw [if_pos was, if_neg is]
      omega
  · by_cases is : (after.outs o).standby = true
    · rw [if_neg was, if_pos is]
      omega
    · rw [if_neg was, if_neg is]
      omega

/-- Over a run, too, no frame comes back. -/
theorem Playing.passed_run {s t : Playing ρ} {acts : List (Act × Nat)}
    (same : ∀ act ∈ acts, act.1.opensOut o = false) (ran : run (playing R o) s acts = some t) :
    s.passed o ≤ t.passed o := by
  -- No call opens the stream, so every one of them leaves what had passed behind.
  have guarded : Along (playing R o) (fun _ act => act.1.opensOut o = false) s acts :=
    along_of_forall same s
  have kept : ∀ before act after, s.passed o ≤ before.passed o → act.1.opensOut o = false →
      playing R o before act = some after → s.passed o ≤ after.passed o :=
    fun before act after held old stepped =>
      Int.le_trans held (Playing.passed_step before act after old stepped)
  exact run_invariant kept (Int.le_refl _) guarded ran

end Runs

/--
The position of an output stream never exceeds its count, and goes back only if the count wraps.

The two positions are reported at any two points of any run in between which the stream is not
opened anew, whatever was written, put into standby, restarted and rerouted before and in between.
-/
theorem position_monotone (R : ResamplerLib ρ) (hardware : Settings) (o : Nat)
    (acts later : List (Act × Nat)) (s t : Playing ρ) (before after : Nat)
    (ran : run (playing R o) (.initial hardware) acts = some s)
    (onward : run (playing R o) s later = some t)
    (same : ∀ act ∈ later, act.1.opensOut o = false)
    (first : Reports o s before) (second : Reports o t after) :
    after ≤ (t.world.outs o).written ∧
      (s.total / 2 ^ 64 = t.total / 2 ^ 64 → before ≤ after) := by
  have sound : s.Sound o := run_invariant' (Playing.sound_step R o)
    (Playing.sound_initial o hardware) ran
  have soundOn : t.Sound o := run_invariant' (Playing.sound_step R o) sound onward
  -- At both points the position is the count without what is queued.
  obtain ⟨running, _, sum, _⟩ := (sound.reports_iff before).mp first
  obtain ⟨runningOn, _, sumOn, _⟩ := (soundOn.reports_iff after).mp second
  refine ⟨by omega, fun unwrapped => ?_⟩
  -- Unless the counter wraps in between, the positions are as far apart as the frames passed.
  have passed := Playing.passed_run same onward
  rw [sound.counted] at sum
  rw [soundOn.counted] at sumOn
  unfold Playing.passed at passed
  rw [running, runningOn] at passed
  simp only [Bool.false_eq_true, if_false] at passed
  omega

/-- A stream is opened and written to, and the kernel plays some of it. -/
def playsSome : List (Act × Nat) :=
  [(.openOutputStream 0 true ⟨outSamplingRate, audioChannelOutStereo⟩, 0),
    (.outWrite 0 (fun _ => 0) 180 .unstamped, 5)]

/-- What is left of it is dropped with the PCM, and the next write opens another one. -/
def startsAnew : List (Act × Nat) :=
  [(.outStandby 0, 0), (.outWrite 0 (fun _ => 0) 180 .unstamped, 0)]

/-- A position reported after a restart is not behind one from before it. -/
theorem position_monotone_restart : ∃ s t : Playing (Nat × Nat),
    run (playing .nearest 0) (.initial fun _ => none) playsSome = some s ∧
      run (playing .nearest 0) s startsAnew = some t ∧
      45 ≤ (t.world.outs 0).written ∧ (s.total / 2 ^ 64 = t.total / 2 ^ 64 → 5 ≤ 45) := by
  -- The first report is at 5 frames, and the second one at 45.
  refine ⟨_, _, rfl, rfl, ?_⟩
  exact position_monotone .nearest (fun _ => none) 0 playsSome startsAnew _ _ 5 45 rfl rfl
    (by decide) ⟨rfl, _, 4056, rfl, rfl, rfl⟩ ⟨rfl, _, 4051, rfl, rfl, rfl⟩

section Wrap

variable {R : ResamplerLib ρ} {s : Playing ρ} {total : Nat}

/-- A write of 2^20 frames, which the kernel has played by the end of it. -/
def longWrite : Act × Nat := (.outWrite 0 (fun _ => 0) (2 ^ 22) .unstamped, 2 ^ 20)

/-- A stream that plays on the main route, and whose buffer is empty between the writes. -/
structure Playing.Flows (s : Playing ρ) (total : Nat) : Prop where
  sound : s.Sound 0
  isOpen : s.world.outOpen 0 = true
  main : OnMain s.world 0
  total : s.total = total
  queued : s.queued = 0

/-- The stream flows on after a long write, and runs. -/
theorem Playing.Flows.longWrite (flows : s.Flows total) : ∃ next,
    playing R 0 s longWrite = some next ∧ next.Flows (total + 2 ^ 20) ∧
      (next.world.outs 0).standby = false := by
  obtain ⟨after, wrote⟩ : ∃ after,
      ((outWrite R 0 (fun _ => 0) (2 ^ 22) .unstamped).exec s.world).2 = after := ⟨_, rfl⟩
  -- The stream is open, so the write is a step.
  have stepped : step R s.world Audio.longWrite.1 = some after := by
    unfold step
    rw [if_pos (show Audio.longWrite.1.enabled s.world = true from flows.isOpen), ← wrote,
      Audio.longWrite, Act.prog, Prog.exec_bind]
    rfl
  obtain ⟨_, _, main⟩ := wrote ▸ wrote_outWrite R s.world 0 (fun _ => 0) (2 ^ 22) .unstamped
    flows.sound.settled (flows.sound.fit.outs 0) flows.sound.armed flows.sound.within
  obtain ⟨taken, running, config⟩ := main flows.main ⟨rfl, fun _ => rfl⟩
  have took : s.world.taken after = 2 ^ 20 := taken
  have played : playing R 0 s Audio.longWrite = some ⟨after, 0, total + 2 ^ 20⟩ := by
    have empty : (if (s.world.outs 0).standby then 0 else s.queued) = 0 := by
      rw [flows.queued, ite_self]
    unfold playing
    rw [stepped, Option.map_some, took, empty, flows.total]
    rfl
  have sound := Playing.sound_step R 0 s _ _ flows.sound played
  refine ⟨_, played, ⟨sound, ?_, ?_, rfl, rfl⟩, running⟩
  · -- A stream that runs is open.
    cases isOpen : after.outOpen 0 with
    | true => rfl
    | false =>
      have resting : (after.outs 0).standby = true := sound.settled.closed (.output 0) isOpen
      exact absurd (resting.symm.trans running) (by decide)
  · unfold OnMain
    rw [if_neg (by rw [running]; decide)]
    exact config

/-- So it does after any number of long writes. -/
theorem Playing.Flows.longWrites (n : Nat) (flows : s.Flows total)
    (running : (s.world.outs 0).standby = false) : ∃ final,
    run (playing R 0) s (List.replicate n Audio.longWrite) = some final ∧
      final.Flows (total + n * 2 ^ 20) ∧ (final.world.outs 0).standby = false := by
  -- The induction is on the number of writes.
  induction n generalizing s total with
  | zero => exact ⟨s, rfl, by simpa using flows, running⟩
  | succ n ih =>
    obtain ⟨next, stepped, flowsOn, runningOn⟩ := flows.longWrite (R := R)
    obtain ⟨final, ran, flowsOut, runningOut⟩ := ih flowsOn runningOn
    refine ⟨final, ?_, ?_, runningOut⟩
    · rw [List.replicate_succ]
      exact run_cons.mpr ⟨next, stepped, ran⟩
    · have sum : total + 2 ^ 20 + n * 2 ^ 20 = total + (n + 1) * 2 ^ 20 := by omega
      rw [← sum]
      exact flowsOut

/-- With an empty buffer the position is the count. -/
theorem Playing.Flows.reports (flows : s.Flows total)
    (running : (s.world.outs 0).standby = false) (few : total % 2 ^ 64 < 2 ^ 63) :
    Reports 0 s (total % 2 ^ 64) := by
  -- Nothing is queued, so all that was written is reported.
  refine (flows.sound.reports_iff _).mpr ⟨running, ?_, ?_, few⟩
  · rw [flows.queued]
    exact Nat.zero_le _
  · rw [flows.queued, flows.sound.counted, flows.total]
    rfl

end Wrap

/-- After 2^64 frames the count starts from zero, and so does the position. -/
theorem position_goes_back : ∃ s t : Playing (Nat × Nat),
    run (playing .nearest 0) (.initial fun _ => none)
        [(.openOutputStream 0 true ⟨outSamplingRate, audioChannelOutStereo⟩, 0), longWrite] =
      some s ∧
    run (playing .nearest 0) s (List.replicate (2 ^ 44 - 1) longWrite) = some t ∧
    (∀ act ∈ List.replicate (2 ^ 44 - 1) longWrite, act.1.opensOut 0 = false) ∧
    Reports 0 s (2 ^ 20) ∧ Reports 0 t 0 := by
  -- Long writes add up to the size of the counter, and the last report is of zero.
  obtain ⟨fresh, opened⟩ : ∃ fresh, playing ResamplerLib.nearest 0 (.initial fun _ => none)
      (.openOutputStream 0 true ⟨outSamplingRate, audioChannelOutStereo⟩, 0) = some fresh :=
    ⟨_, rfl⟩
  have sound := Playing.sound_step _ 0 _ _ _ (Playing.sound_initial 0 _) opened
  have flows : fresh.Flows 0 := by
    obtain rfl := Option.some.inj opened
    exact ⟨sound, rfl, rfl, rfl, rfl⟩
  obtain ⟨s, stepped, flowsOn, running⟩ := flows.longWrite (R := .nearest)
  obtain ⟨t, ran, flowsOut, runningOut⟩ := flowsOn.longWrites (R := .nearest) (2 ^ 44 - 1) running
  refine ⟨s, t, run_cons.mpr ⟨fresh, opened, run_cons.mpr ⟨s, stepped, rfl⟩⟩, ran, ?_, ?_, ?_⟩
  · intro act member
    obtain rfl := List.eq_of_mem_replicate member
    rfl
  · exact flowsOn.reports running (by decide)
  · exact flowsOut.reports runningOut (by decide)

end Grouper.Audio
