import Grouper.Audio.ActiveStreams
import Grouper.Audio.Writes

/-! What becomes of the frames a client writes on the SCO route, with its one buffer. -/

namespace Grouper.Audio

open Function (update)
open Prog (Leads when)

variable {ρ : Type}

/--
`resample_from_input` stops when the output it may produce is full.

The limit of a state is the number of input frames after which an output of some capacity is full.
-/
structure ResamplerLib.StopsWhenFull (R : ResamplerLib ρ) (limit : ρ → Nat → Nat) : Prop where
  consumed : ∀ state input capacity,
    (R.resampleFromInput state input capacity).2.1 = min input.length (limit state capacity)
  room : ∀ state input capacity,
    (R.resampleFromInput state input capacity).2.2.length ≤ capacity
  full : ∀ state input capacity, limit state capacity < input.length →
    (R.resampleFromInput state input capacity).2.2.length = capacity

/-- A resampler beside everything it has consumed from its input and produced from that. -/
structure Tape (ρ : Type) where
  state : ρ
  consumed : List Sample
  produced : List Sample

/-- The same requests to the provider, with the final state changed. -/
def Provider.map {σ : Type} (change : ρ → σ) : Provider ρ → Provider σ
  | .finish state output => .finish (change state) output
  | .getNextBuffer frameCount next => .getNextBuffer frameCount fun data => (next data).map change
  | .releaseBuffer frameCount next => .releaseBuffer frameCount (next.map change)

/-- A library that keeps on a tape what goes in and out of its resamplers. -/
def ResamplerLib.taped (R : ResamplerLib ρ) : ResamplerLib (Tape ρ) where
  create inRate outRate channels := ⟨R.create inRate outRate channels, [], []⟩
  resampleFromInput tape input capacity :=
    let (state, consumed, output) := R.resampleFromInput tape.state input capacity
    (⟨state, tape.consumed ++ input.take consumed, tape.produced ++ output⟩, consumed, output)
  resampleFromProvider tape frames :=
    (R.resampleFromProvider tape.state frames).map fun state =>
      ⟨state, tape.consumed, tape.produced⟩

/-- What the resampler of a stream has consumed so far. -/
def StreamOut.consumed (out : StreamOut (Tape ρ)) : List Sample :=
  (out.resampler.map Tape.consumed).getD []

/-- What the resampler of a stream has produced so far. -/
def StreamOut.produced (out : StreamOut (Tape ρ)) : List Sample :=
  (out.resampler.map Tape.produced).getD []

/-- The samples of the left channel of a number of frames. -/
def leftSamples (buffer : Samples) (frames : Nat) : List Sample :=
  (List.range frames).map fun n => buffer (2 * n)

/-- `pcm_write` is reached without dereferencing a null pointer, and returns zero. -/
def Written (R : ResamplerLib ρ) (w : World ρ) (o : Nat) (buffer : Samples) (bytes : Nat)
    (env : OutWriteEnv) : Prop :=
  let after := ((outWrite R o buffer bytes env).exec w).2
  after.dereferences = w.dereferences ∧
    ∃ pcm data, after.calls.head? = some (.pcmWrite pcm data 0)

/-- Every frame of the client is consumed, and everything produced is passed to `pcm_write`. -/
def Lossless (R : ResamplerLib ρ) (w : World (Tape ρ)) (o : Nat) (buffer : Samples) (bytes : Nat)
    (env : OutWriteEnv) : Prop :=
  let after := ((outWrite R.taped o buffer bytes env).exec w).2
  (after.outs o).consumed = (w.outs o).consumed ++ leftSamples buffer (bytes / outFrameSize) ∧
    ∃ pcm output, (after.outs o).produced = (w.outs o).produced ++ output ∧
      after.calls.head? = some (.pcmWrite pcm output 0)

/-- The room for what is produced: one period of the main PCM at the rate of SCO, and one more. -/
def scoBufferFrames : Nat := pcmConfigOut.periodSize * pcmConfigSco.rate / outGetSampleRate + 1

/-- The resampler a write to the SCO PCM uses: the one of the stream, or a new one. -/
def scoResampler (R : ResamplerLib ρ) (out : StreamOut (Tape ρ)) : ρ :=
  (out.resampler.map Tape.state).getD (R.create outGetSampleRate pcmConfigSco.rate 1)

/-- A write goes to the SCO PCM: it starts its stream, or the stream was started there. -/
def StreamOut.PlaysToSco (out : StreamOut ρ) : Prop :=
  out.standby = true ∨ out.config = pcmConfigSco

section Channels

/-- The loop moves every second sample down, and never reads what it has written. -/
theorem discardRightFrom_apply (remaining : Nat) :
    ∀ (index : Nat) (buffer : Samples) (n : Nat), 0 < index →
      discardRightFrom remaining index buffer n =
        if index ≤ n ∧ n < index + remaining then buffer (2 * n) else buffer n := by
  -- The induction is on the samples still to be moved, and the index moves on with them.
  induction remaining with
  | zero =>
    intro index buffer n _
    rw [if_neg (by omega)]
    rfl
  | succ remaining ih =>
    intro index buffer n positive
    rw [discardRightFrom, ih (index + 1) _ n (by omega)]
    -- The sample at twice a later index has not been overwritten yet.
    by_cases here : n = index
    · subst here
      rw [if_neg (by omega), if_pos (by omega), Function.update_self, Nat.mul_comm]
    · have later : index + 1 ≤ n → 2 * n ≠ index := by omega
      by_cases inside : index + 1 ≤ n ∧ n < index + 1 + remaining
      · rw [if_pos inside, if_pos (by omega), Function.update_of_ne (later inside.1)]
      · rw [if_neg inside, if_neg (by omega), Function.update_of_ne here]

/-- Dropping the right channel in place leaves the left one, in order. -/
theorem map_discardRight (frames : Nat) (buffer : Samples) :
    (List.range frames).map (discardRight frames buffer) = leftSamples buffer frames := by
  -- Position by position, the sample is the one at twice the index.
  refine List.map_congr_left fun n member => ?_
  have below : n < frames := List.mem_range.mp member
  rw [discardRight, discardRightFrom_apply _ _ _ _ (by decide)]
  -- The first sample stays where it is, and that is twice its index too.
  rcases Nat.eq_zero_or_pos n with rfl | positive
  · rw [if_neg (by omega)]
  · rw [if_pos (by omega)]

end Channels

section Parts

variable (R : ResamplerLib ρ) (w : World ρ) (o : Nat) (buffer : Samples)

/-- Samples stored at the start of the memory are read back from there. -/
theorem map_storeAt (memory : Samples) (data : List Sample) :
    (List.range data.length).map (storeAt memory 0 data) = data := by
  -- Every sample is read back from the position it was stored at.
  refine List.ext_getElem (by simp) fun n inRange inData => ?_
  rw [List.getElem_map, List.getElem_range, storeAt, if_pos (by omega), Nat.sub_zero,
    List.getD_eq_getElem?_getD, List.getElem?_eq_getElem inData, Option.getD_some]

/-- Finishing a write leaves the resampler alone. -/
theorem resampler_finishWrite (bytes : Nat) (frames : OutFrames) (result : Int) :
    (((finishWrite o bytes frames result).exec w).2.outs o).resampler =
      (w.outs o).resampler := by
  unfold finishWrite
  rw [exec_getOut_bind, Prog.exec_bind, Prog.exec_ite]
  split
  · rfl
  · rw [Prog.exec_bind, Prog.exec_when, outWriteExit, Prog.exec_bind, Prog.exec_bind,
      Prog.exec_when]
    -- Only the count of frames changes, and only after a success.
    by_cases zero : result = 0
    · rw [if_pos zero, if_neg (not_not.mpr zero), Prog.exec_pure, Prog.exec_release,
        outs_modifyOut]
      rfl
    · rw [if_neg zero, if_pos zero]
      rfl

/-- A write that ends with a successful `pcm_write` hands over what was prepared. -/
theorem finishWrite_written {bytes : Nat} {frames : OutFrames} {result : Int} {pcm : Option Pcm}
    {data : List Sample} :
    ((finishWrite o bytes frames result).exec w).2.calls.head? = some (.pcmWrite pcm data 0) ↔
      result = 0 ∧ (w.outs o).pcm = pcm ∧
        (List.range (frames.frames * frames.frameSize / 2)).map frames.data = data := by
  unfold finishWrite
  -- The call that was made last tells how the write came to its end.
  rw [exec_getOut_bind, Prog.exec_bind, Prog.exec_ite]
  split
  · -- An underrun is reported at once.
    rename_i underrun
    show some (Call.pcmWrite _ _ result) = _ ↔ _
    rw [underrun]
    constructor
    · intro same
      injection same with same
      injection same with _ _ zero
      exact absurd zero (by decide)
    · exact fun zero => absurd zero.1 (by decide)
  · rw [Prog.exec_bind, Prog.exec_when, outWriteExit, Prog.exec_bind, Prog.exec_bind,
      Prog.exec_when]
    by_cases zero : result = 0
    · subst zero
      rw [if_pos rfl, if_neg (not_not.mpr rfl)]
      show some (Call.pcmWrite _ _ 0) = _ ↔ _
      simp
    · -- A failed write sleeps before it returns.
      rw [if_neg zero, if_pos zero]
      show some (Call.usleep _) = _ ↔ _
      simp [zero]

/-- The conversion for the SCO PCM hands the left channel to the resampler. -/
theorem exec_convert_sco (inFrames : Nat) (sco : (w.outs o).config = pcmConfigSco) {state : ρ}
    {memory : Samples} (resampler : (w.outs o).resampler = some state)
    (present : (w.outs o).buffer = some memory) :
    let step := R.resampleFromInput state (leftSamples buffer inFrames) (w.outs o).bufferFrames
    (convert R o buffer inFrames).exec w =
      (⟨storeAt memory 0 step.2.2, step.2.2.length, 2⟩,
        { w with outs := update w.outs o { w.outs o with
            resampler := some step.1
            buffer := some (storeAt memory 0 step.2.2) } }) := by
  dsimp only
  unfold convert
  -- The first period is reduced to one channel before the resampler sees it.
  rw [exec_getOut_bind, sco, resampler, present, if_pos (by decide), ← map_discardRight]
  rfl

/-- Without a resampler or without its buffer the conversion does not survive. -/
theorem dereferences_convert (inFrames : Nat) (sco : (w.outs o).config = pcmConfigSco)
    (missing : (w.outs o).resampler = none ∨ (w.outs o).buffer = none) :
    ((convert R o buffer inFrames).exec w).2.dereferences = w.dereferences + 1 := by
  unfold convert
  -- The rates differ, so the conversion goes for the resampler and for the buffer.
  rw [exec_getOut_bind, sco, if_pos (by decide)]
  split
  · rename_i state memory resampler present
    rcases missing with none_ | none_
    · rw [none_] at resampler
      cases resampler
    · rw [none_] at present
      cases present
  · exact made_record w .nullDereference

end Parts

section Exact

variable {R : ResamplerLib ρ} {limit : ρ → Nat → Nat} {w : World (Tape ρ)} {o : Nat}
  {buffer : Samples} {bytes : Nat} {env : OutWriteEnv}

/-- Of each frame one sample is kept. -/
theorem length_leftSamples (frames : Nat) : (leftSamples buffer frames).length = frames := by
  rw [leftSamples, List.length_map, List.length_range]

/-- Starting a stream dereferences nothing. -/
theorem dereferences_startOutIfStandby (R : ResamplerLib ρ) (w : World ρ) (o : Nat)
    (env : StartEnv) : ((startOutIfStandby R o env).exec w).2.dereferences = w.dereferences := by
  -- A start manages the PCM, and none of its calls is a null dereference.
  have apart : ∀ call : Call, call.managesPcm = true → call.isNullDereference = false := by
    intro call manages
    cases call <;> first | rfl | cases manages
  exact unmade_startOutIfStandby w apart R o env

/-- The end of a write dereferences nothing. -/
theorem dereferences_finishWrite (w : World ρ) (o bytes : Nat) (frames : OutFrames)
    (result : Int) : ((finishWrite o bytes frames result).exec w).2.dereferences =
      w.dereferences :=
  unmade_finishWrite w o bytes frames result (fun _ _ _ => rfl) fun _ => rfl

/-- On a started stream, a write on the SCO route is the conversion and what finishes it. -/
theorem exec_outWrite_sco {R : ResamplerLib ρ} {w after : World ρ}
    (started : (startOutIfStandby R o env.start).exec w = (0, after))
    (routed : outScoOn after.adev = true) :
    let converted := (convert R o buffer (bytes / outFrameSize)).exec after
    (outWrite R o buffer bytes env).exec w =
      (finishWrite o bytes converted.1 env.pcmWrite).exec converted.2 := by
  dsimp only
  rw [exec_outWrite_started R w o buffer bytes env started, routed, exec_prepareWrite_sco]

/-- On the SCO PCM, nothing is lost exactly when the output is not full before the last frame. -/
theorem lossless_iff_of_sco (stops : R.StopsWhenFull limit) {after : World (Tape ρ)}
    (started : (startOutIfStandby R.taped o env.start).exec w = (0, after))
    (routed : outScoOn after.adev = true) (sco : (after.outs o).config = pcmConfigSco)
    (room : (after.outs o).bufferFrames = scoBufferFrames)
    (consumed : (after.outs o).consumed = (w.outs o).consumed)
    (produced : (after.outs o).produced = (w.outs o).produced)
    (written : Written R.taped w o buffer bytes env) :
    Lossless R w o buffer bytes env ↔
      bytes / outFrameSize ≤ limit (scoResampler R (after.outs o)) scoBufferFrames := by
  obtain ⟨safe, pcm, data, last⟩ := written
  rw [exec_outWrite_sco started routed] at safe last
  have begun := dereferences_startOutIfStandby R.taped w o env.start
  rw [started] at begun
  -- A missing resampler or buffer would have been dereferenced.
  have equipped : ¬ ((after.outs o).resampler = none ∨ (after.outs o).buffer = none) := by
    intro missing
    rw [dereferences_finishWrite, dereferences_convert R.taped after o buffer _ sco missing, begun]
      at safe
    omega
  obtain ⟨noResampler, noBuffer⟩ := not_or.mp equipped
  obtain ⟨tape, resampler⟩ := Option.ne_none_iff_exists'.mp noResampler
  obtain ⟨memory, present⟩ := Option.ne_none_iff_exists'.mp noBuffer
  unfold Lossless
  rw [exec_outWrite_sco started routed]
  rw [exec_convert_sco R.taped after o buffer _ sco resampler present, room] at last ⊢
  dsimp only at last ⊢
  obtain ⟨zero, handle, _⟩ := (finishWrite_written _ o).mp last
  have played := stops.consumed tape.state (leftSamples buffer (bytes / outFrameSize))
    scoBufferFrames
  rw [length_leftSamples] at played
  -- What the tape holds is what the stream consumed and produced before the write.
  have state : scoResampler R (after.outs o) = tape.state := by rw [scoResampler, resampler]; rfl
  have before : (after.outs o).consumed = tape.consumed ∧
      (after.outs o).produced = tape.produced := by
    rw [StreamOut.consumed, StreamOut.produced, resampler]
    exact ⟨rfl, rfl⟩
  rw [← consumed, ← produced, before.1, before.2, state]
  rw [StreamOut.consumed, StreamOut.produced, resampler_finishWrite]
  dsimp only
  rw [Function.update_self]
  show tape.consumed ++ List.take _ _ = _ ∧ _ ↔ _
  rw [played, List.append_cancel_left_eq]
  constructor
  · -- What was consumed is a beginning of the write, and it is all of it only if it is as long.
    rintro ⟨whole, _⟩
    have length := congrArg List.length whole
    rw [List.length_take, length_leftSamples] at length
    omega
  · -- With room enough everything is consumed, and what came out is what is written.
    intro fits
    refine ⟨List.take_of_length_le (by rw [length_leftSamples]; omega), pcm, _, rfl, ?_⟩
    refine (finishWrite_written _ o).mpr ⟨zero, handle, ?_⟩
    dsimp only
    rw [Nat.mul_div_cancel _ (by decide)]
    exact map_storeAt memory _

/-- On the main PCM the resampler takes no part, so only an empty write leaves nothing out. -/
theorem lossless_iff_of_main (running : (w.outs o).standby = false)
    (routed : outScoOn w.adev = true) (main : (w.outs o).config = pcmConfigOut)
    (written : Written R.taped w o buffer bytes env) :
    Lossless R w o buffer bytes env ↔ bytes / outFrameSize = 0 := by
  -- A running stream is not started again, and the main PCM needs no conversion.
  have started : (startOutIfStandby R.taped o env.start).exec w = (0, w) := by
    unfold startOutIfStandby
    rw [exec_getOut_bind, running]
    rfl
  have converted : (convert R.taped o buffer (bytes / outFrameSize)).exec w =
      (⟨buffer, bytes / outFrameSize, outFrameSize⟩, w) := by
    unfold convert
    rw [exec_getOut_bind, main, if_neg (by decide)]
    rfl
  obtain ⟨_, pcm, data, last⟩ := written
  unfold Lossless
  rw [exec_outWrite_sco started routed, converted] at last ⊢
  dsimp only at last ⊢
  obtain ⟨zero, handle, _⟩ := (finishWrite_written w o).mp last
  rw [StreamOut.consumed, StreamOut.produced, resampler_finishWrite]
  constructor
  · -- Nothing was consumed, so there was nothing to consume.
    rintro ⟨whole, _⟩
    have length := congrArg List.length whole
    rw [List.length_append, length_leftSamples, StreamOut.consumed] at length
    omega
  · intro empty
    rw [empty]
    refine ⟨(List.append_nil _).symm, pcm, [], (List.append_nil _).symm, ?_⟩
    exact (finishWrite_written w o).mpr ⟨zero, handle, by rw [Nat.zero_mul]; rfl⟩

/--
On the SCO route no audio is lost exactly when the buffer is not full before the last frame.

An empty write has nothing to lose, and any other must go to the SCO PCM at all.
-/
theorem lossless_iff (R : ResamplerLib ρ) (limit : ρ → Nat → Nat) (stops : R.StopsWhenFull limit)
    (hardware : Settings) (acts : List Act) (w : World (Tape ρ))
    (ran : run (step R.taped) (.initial hardware) acts = some w) (o : Nat)
    (routed : outScoOn w.adev = true) (buffer : Samples) (bytes : Nat) (env : OutWriteEnv)
    (written : Written R.taped w o buffer bytes env) :
    Lossless R w o buffer bytes env ↔ (0 < bytes / outFrameSize → (w.outs o).PlaysToSco ∧
      bytes / outFrameSize ≤ limit (scoResampler R (w.outs o)) scoBufferFrames) := by
  have fit := (fit_run R.taped hardware acts w ran).outs o
  obtain ⟨begun, runs⟩ := fit_startOutIfStandby R.taped w o env.start fit
  rcases startOutIfStandby_cases R.taped w env.start o with
    ⟨running, same⟩ | ⟨resting, ready, ret, route, n, own⟩ | ⟨_, _, ret, _⟩
  · rcases fit.config running with main | sco
    · -- A stream that runs on the main PCM does not play to SCO.
      rw [lossless_iff_of_main running routed main written]
      have elsewhere : ¬ (w.outs o).PlaysToSco := by
        rintro (resting | sco)
        · exact absurd (resting.symm.trans running) (by decide)
        · exact absurd (main.symm.trans sco) (by decide)
      constructor
      · exact fun empty positive => absurd empty (Nat.ne_of_gt positive)
      · intro exact_
        by_contra some_
        exact elsewhere (exact_ (Nat.pos_of_ne_zero some_)).1
    · -- On the SCO PCM the resampler has the room it was given at the start.
      rw [lossless_iff_of_sco stops same routed sco (fit.room running sco) rfl rfl written]
      constructor
      · exact fun fits _ => ⟨Or.inr sco, fits⟩
      · intro exact_
        rcases Nat.eq_zero_or_pos (bytes / outFrameSize) with empty | positive
        · omega
        · exact (exact_ positive).2
  · -- The write starts its stream, with a resampler that has consumed nothing yet.
    generalize result : (startOutIfStandby R.taped o env.start).exec w = started
      at begun runs ret route own
    obtain ⟨ret', after⟩ := started
    obtain rfl : ret' = 0 := ret
    have sco : outScoOn after.adev = true := by
      rw [← routed, outScoOn, outScoOn, route]
    have config : (after.outs o).config = pcmConfigSco := by
      dsimp only at own
      rw [own, routed]
      exact (StreamOut.config_begun _ _ _ _).trans (StreamOut.config_configure _ true)
    have resampler : (after.outs o).resampler = none ∨
        (after.outs o).resampler = some (R.taped.create outGetSampleRate pcmConfigSco.rate 1) := by
      dsimp only at own
      rw [own, routed]
      unfold StreamOut.begun
      rw [StreamOut.config_configure, if_pos (by decide)]
      cases env.start.createResampler
      · exact Or.inl rfl
      · exact Or.inr rfl
    -- Before the start there was no resampler, and a new one has an empty tape.
    have none_ := (fit.resting resting).1
    have fresh : (after.outs o).consumed = (w.outs o).consumed ∧
        (after.outs o).produced = (w.outs o).produced ∧
        scoResampler R (after.outs o) = scoResampler R (w.outs o) := by
      unfold StreamOut.consumed StreamOut.produced scoResampler
      rw [none_]
      rcases resampler with failed | created
      · rw [failed]
        exact ⟨rfl, rfl, rfl⟩
      · rw [created]
        exact ⟨rfl, rfl, rfl⟩
    rw [lossless_iff_of_sco stops result sco config (begun.room (runs rfl) config) fresh.1
      fresh.2.1 written, fresh.2.2]
    constructor
    · exact fun fits _ => ⟨Or.inl resting, fits⟩
    · intro exact_
      rcases Nat.eq_zero_or_pos (bytes / outFrameSize) with empty | positive
      · omega
      · exact (exact_ positive).2
  · -- A write that does not start its stream does not get to `pcm_write`.
    obtain ⟨_, pcm, data, last⟩ := written
    rw [exec_outWrite_failed R.taped w o buffer bytes env (by rw [ret]; decide), ret] at last
    cases last

/--
A resampler from 44100 to 8000 frames a second, which picks the nearest earlier frame.

It begins anew with each call, and takes in the frames up to the one it has no room to answer.
-/
def ResamplerLib.toSco : ResamplerLib Unit where
  create _ _ _ := ()
  resampleFromInput _ input capacity :=
    let consumed := min input.length (capacity * 441 / 80)
    ((), consumed,
      (List.range ((consumed * 80 + 440) / 441)).map fun k => input.getD (k * 441 / 80) 0)
  resampleFromProvider _ _ := .finish () []

/-- A resampler to the SCO rate takes what its output has room for. -/
theorem ResamplerLib.toSco_stopsWhenFull :
    toSco.StopsWhenFull fun _ capacity => capacity * 441 / 80 where
  consumed _ _ _ := rfl
  room _ input capacity := by
    -- The last frame picked is one of those consumed.
    simp only [toSco, List.length_map, List.length_range]
    omega
  full _ input capacity more := by
    simp only [toSco, List.length_map, List.length_range]
    omega

/-- A stream is opened and routed to SCO, and waits for its first write. -/
def opensOnSco : List Act :=
  [.openOutputStream 0 true ⟨outSamplingRate, audioChannelOutStereo⟩, .outSetParameters 0 ⟨0, 0x10⟩]

/-- One sample after the other, so that no two frames are alike. -/
def counting : Samples := fun n => .ofNat n

/-- The 45 frames of a short write fit into the buffer. -/
theorem lossless_iff_period : ∃ w : World (Tape Unit),
    run (step ResamplerLib.toSco.taped) (.initial fun _ => none) opensOnSco = some w ∧
      Lossless .toSco w 0 counting 180 .fine := by
  -- The second part of the condition is the one that can fail.
  refine ⟨_, rfl, ?_⟩
  refine (lossless_iff .toSco _ ResamplerLib.toSco_stopsWhenFull (fun _ => none) opensOnSco _ rfl 0
    rfl counting 180 .fine ⟨rfl, _, _, rfl⟩).mpr fun _ => ⟨Or.inl rfl, ?_⟩
  decide

/-- Of 600 frames the resampler takes 512, and the write returns as if it had taken them all. -/
theorem not_lossless_long : ∃ w : World (Tape Unit),
    run (step ResamplerLib.toSco.taped) (.initial fun _ => none) opensOnSco = some w ∧
      outScoOn w.adev = true ∧ Written ResamplerLib.toSco.taped w 0 counting 2400 .fine ∧
      ((outWrite ResamplerLib.toSco.taped 0 counting 2400 .fine).exec w).1 = 2400 ∧
      ¬ Lossless .toSco w 0 counting 2400 .fine := by
  -- Fewer samples come out than the frames of the write have.
  refine ⟨_, rfl, rfl, ⟨rfl, _, _, rfl⟩, rfl, fun lossless => ?_⟩
  have lengths := congrArg List.length lossless.1
  exact absurd lengths (by decide +kernel)

end Exact

end Grouper.Audio
