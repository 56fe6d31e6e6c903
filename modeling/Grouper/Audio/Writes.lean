import Grouper.Audio.Upkeep

/-! A write as the start of its stream and what follows it, and the calls that each part makes. -/

namespace Grouper.Audio

open Function (update)
open Prog (Leads when)

variable {ρ : Type}

/-- The buffer size `out_write` plays with: a long one while nobody looks or records. -/
def AudioDevice.bufferType (adev : AudioDevice) : OutBufferType :=
  if adev.screenOff ∧ adev.activeIn.isNone then .long else .short

section Calls

/-- How many calls of a kind were made. -/
def World.made (which : Call → Bool) (w : World ρ) : Nat := w.calls.countP which

/-- A null resampler or a null buffer is dereferenced. -/
def Call.isNullDereference : Call → Bool
  | nullDereference => true
  | _ => false

/-- How often that has happened. -/
def World.dereferences (w : World ρ) : Nat := w.made Call.isNullDereference

/-- No call of a kind is made on the way from one state to another. -/
def Unmade (which : Call → Bool) (before after : World ρ) : Prop :=
  after.made which = before.made which

/-- The calls that open, check and close a PCM. -/
def Call.managesPcm : Call → Bool
  | pcmOpen _ _ | pcmClose _ | pcmIsReady _ | pcmFramesToBytes _ => true
  | _ => false

instance (which : Call → Bool) : Std.Refl (Unmade (ρ := ρ) which) where
  refl _ := rfl

instance (which : Call → Bool) : IsTrans (World ρ) (Unmade which) where
  trans _ _ _ one two := Eq.trans two one

variable {which : Call → Bool} (w : World ρ)

/-- A call counts if it is of the kind. -/
theorem made_record (call : Call) :
    ((record call).exec w).2.made which = w.made which + if which call then 1 else 0 :=
  List.countP_cons

/-- A call of another kind does not count. -/
theorem unmade_record (call : Call) (other : which call = false) :
    Leads (Unmade which) (record call) w := by
  -- One more call is made, and none of the kind.
  unfold Leads Unmade
  rw [made_record, other]
  rfl

/-- A change of the device is no call. -/
theorem unmade_modifyAdev (change : AudioDevice → AudioDevice) :
    Leads (Unmade which) (modifyAdev change) w := rfl

/-- Nor is a change of a stream. -/
theorem unmade_modifyOut (o : Nat) (change : StreamOut ρ → StreamOut ρ) :
    Leads (Unmade which) (modifyOut o change) w := rfl

section Start

variable (apart : ∀ call : Call, call.managesPcm = true → which call = false)
include apart

/-- Standing by makes calls that manage the PCM. -/
theorem unmade_doInStandby (i : Nat) : Leads (Unmade which) (doInStandby i) w := by
  -- A standby closes the PCM of the stream, which is one of the calls of a start.
  unfold Leads
  rw [exec_doInStandby]
  split
  · exact unmade_record w (.pcmClose _) (apart _ rfl)
  · rfl

/-- So does stopping an input stream that clashes. -/
theorem unmade_stopClashingIn (o : Nat) : Leads (Unmade which) (stopClashingIn o) w := by
  unfold stopClashingIn
  -- The clashing input stream is stopped under its own mutex.
  refine .bind (Std.Refl.refl w) ?_
  split
  · exact .pure _
  · refine .bind (.acquire _) ?_
    refine .bind (Std.Refl.refl _) ?_
    refine .bind (Std.Refl.refl _) ?_
    exact .bind (.when fun _ => unmade_doInStandby _ apart _) (.release _)

/-- Starting opens and checks one PCM, closes perhaps another, and calls nothing else. -/
theorem unmade_startOutIfStandby (R : ResamplerLib ρ) (o : Nat) (env : StartEnv) :
    Leads (Unmade which) (startOutIfStandby R o env) w := by
  -- The stream is configured, what clashes is stopped, and one PCM is opened and checked.
  have start : Leads (Unmade which) (startOutputStream R o env) w := by
    refine .bind (Std.Refl.refl w) ?_
    refine .bind (unmade_modifyOut _ o _) ?_
    refine .bind (unmade_stopClashingIn _ apart o) ?_
    refine .bind (Std.Refl.refl _) ?_
    refine .bind (unmade_record _ (.pcmOpen _ _) (apart _ rfl)) ?_
    refine .bind (unmade_modifyOut _ o _) ?_
    refine .bind (unmade_record _ _ (apart _ rfl)) ?_
    refine .ite (fun _ => ?_) fun _ => ?_
    · exact .bind (unmade_record _ _ (apart _ rfl)) (.pure _)
    · refine .bind (.when fun _ => ?_) ?_
      · refine .bind (unmade_modifyOut _ o _) ?_
        refine .bind (unmade_record _ _ (apart _ rfl)) ?_
        exact unmade_modifyOut _ o _
      · exact .bind (unmade_modifyAdev _ _) (.pure _)
  refine .bind (Std.Refl.refl w) ?_
  refine .ite (fun _ => ?_) fun _ => .pure _
  refine .bind start ?_
  exact .bind (.when fun _ => unmade_modifyOut _ o _) (.pure _)

end Start

/-- Leaving a write may sleep, and makes no other call. -/
theorem unmade_outWriteExit (o bytes : Nat) (ret : Int) (awake : ∀ t, which (.usleep t) = false) :
    Leads (Unmade which) (outWriteExit o bytes ret) w := by
  refine .bind (.release _) ?_
  exact .bind (.when fun _ => unmade_record _ _ (awake _)) (.pure _)

/-- Finishing a write hands it to the PCM, and perhaps sleeps. -/
theorem unmade_finishWrite (o bytes : Nat) (frames : OutFrames) (result : Int)
    (silent : ∀ pcm data ret, which (.pcmWrite pcm data ret) = false)
    (awake : ∀ t, which (.usleep t) = false) :
    Leads (Unmade which) (finishWrite o bytes frames result) w := by
  -- An underrun returns at once, and anything else counts its frames and may sleep.
  refine .bind (Std.Refl.refl w) ?_
  refine .bind (unmade_record _ _ (silent _ _ _)) ?_
  refine .ite (fun _ => ?_) fun _ => ?_
  · exact .bind (.release _) (.pure _)
  · exact .bind (.when fun _ => unmade_modifyOut _ o _) (unmade_outWriteExit _ o bytes _ awake)

end Calls

section Parts

variable (R : ResamplerLib ρ) (w : World ρ) (o : Nat) (buffer : Samples) (bytes : Nat)
  (env : OutWriteEnv)

/-- A write whose stream does not start is over at once. -/
theorem exec_outWrite_failed (failed : ((startOutIfStandby R o env.start).exec w).1 ≠ 0) :
    (outWrite R o buffer bytes env).exec w =
      (outWriteExit o bytes ((startOutIfStandby R o env.start).exec w).1).exec
        ((startOutIfStandby R o env.start).exec w).2 := by
  -- The mutexes are no part of the state that is compared.
  unfold outWrite
  rw [Prog.exec_bind, Prog.exec_acquire, Prog.exec_bind, Prog.exec_acquire, Prog.exec_bind,
    if_pos failed]
  rfl

/-- A write to a running stream prepares its frames on it, and finishes with them. -/
theorem exec_outWrite_started {after : World ρ}
    (started : (startOutIfStandby R o env.start).exec w = (0, after)) :
    let prepared := (prepareWrite R o buffer bytes env after.adev.bufferType
      (outScoOn after.adev)).exec after
    (outWrite R o buffer bytes env).exec w =
      (finishWrite o bytes prepared.1 env.pcmWrite).exec prepared.2 := by
  dsimp only
  unfold outWrite
  rw [Prog.exec_bind, Prog.exec_acquire, Prog.exec_bind, Prog.exec_acquire, Prog.exec_bind, started,
    -- The start has succeeded, so the write goes on with the state the start has left.
    if_neg (not_not.mpr rfl)]
  rw [exec_getAdev_bind, Prog.exec_bind, Prog.exec_release, outWriteRunning, Prog.exec_bind]
  rfl

/-- On the SCO route the conversion is all there is to prepare. -/
theorem exec_prepareWrite_sco (bufferType : OutBufferType) :
    (prepareWrite R o buffer bytes env bufferType true).exec w =
      (convert R o buffer (bytes / outFrameSize)).exec w := by
  unfold prepareWrite
  -- Neither the buffer size nor the throttling concerns a stream that plays to SCO.
  rw [Prog.exec_bind, Prog.exec_bind, Prog.exec_bind, Prog.exec_pure, Prog.exec_when,
    Prog.exec_when, if_neg (by decide), if_neg (by decide)]

end Parts

end Grouper.Audio
