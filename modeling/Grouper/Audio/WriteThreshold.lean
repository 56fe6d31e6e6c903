import Grouper.Audio.ThrottleBound

/-! How the write threshold follows its target over a run of writes to the main PCM. -/

namespace Grouper.Audio

open Function (update)
open Prog (Leads)

variable {ρ : Type}

/-- The step by which the current threshold moves. -/
def quarterPeriod : Nat := outPeriodSize / 4

/-- The threshold is on its target, and the kernel holds less by more than the short buffer. -/
def Depleted (current target fill : Int) : Prop :=
  current = target ∧ fill + (outPeriodSize * outShortPeriodCount : Nat) < target

/-- Where the current threshold may be after a write that found it somewhere. -/
structure Follows (current target fill next : Int) : Prop where
  low : (5 * quarterPeriod : Nat) ≤ next
  high : next ≤ (outPeriodSize * outLongPeriodCount : Nat)
  /-- It moves towards the target, a quarter of a period at most, and not beyond it. -/
  towards : ¬ Depleted current target fill →
    (current ≤ next ∧ next ≤ target ∨ target ≤ next ∧ next ≤ current) ∧
      (next - current).natAbs ≤ quarterPeriod
  /-- It is set a little above the fill of a kernel that has run low. -/
  reset : Depleted current target fill → fill < next ∧ next ≤ fill + (5 * quarterPeriod : Nat)

section Moves

variable {current target fill : Int}

end Moves

section Write

/-- How many periods a buffer type stands for. -/
def OutBufferType.periods (bufferType : OutBufferType) : Nat :=
  if bufferType = .long then outLongPeriodCount else outShortPeriodCount

/-- What holds of a running stream that is only ever written to on the main route. -/
structure StreamOut.Controlled (out : StreamOut ρ) : Prop where
  config : out.config = pcmConfigOut
  size : out.kernelSize = outPeriodSize * outLongPeriodCount
  known : out.bufferType ≠ .unknown
  target : out.writeThreshold = (outPeriodSize * out.bufferType.periods : Nat)
  low : (5 * quarterPeriod : Nat) ≤ out.curWriteThreshold
  high : out.curWriteThreshold ≤ (outPeriodSize * outLongPeriodCount : Nat)

/-- The target is one of two. -/
theorem StreamOut.Controlled.two {out : StreamOut ρ} (controlled : out.Controlled) :
    out.writeThreshold = 1024 ∨ out.writeThreshold = 4096 := by
  rw [controlled.target]
  cases out.bufferType <;> decide

variable (R : ResamplerLib ρ) (w : World ρ) (o : Nat) (buffer : Samples) (bytes : Nat)
  (env : OutWriteEnv)

/-- Finishing a write counts its frames, and does nothing else to the stream or to the device. -/
theorem outs_finishWrite (frames : OutFrames) (result : Int) : ∃ written,
    ((finishWrite o bytes frames result).exec w).2.outs o = { w.outs o with written := written } ∧
      ((finishWrite o bytes frames result).exec w).2.adev = w.adev := by
  unfold finishWrite
  rw [exec_getOut_bind, Prog.exec_bind, exec_record, Prog.exec_ite]
  split
  · exact ⟨_, rfl, rfl⟩
  · rw [Prog.exec_bind, Prog.exec_when, outWriteExit, Prog.exec_bind, Prog.exec_release,
      Prog.exec_bind, Prog.exec_when, Prog.exec_pure]
    -- A write either counts or sleeps.
    by_cases taken : result = 0
    · rw [if_pos taken, if_neg (not_not.mpr taken)]
      exact ⟨_, Function.update_self .., rfl⟩
    · rw [if_neg taken, if_pos taken]
      exact ⟨_, rfl, rfl⟩

variable {R w o env}

end Write

section Runs

variable (R : ResamplerLib ρ) (o : Nat)

/-- A call is a write to the stream. -/
def Act.writesTo : Act → Bool
  | .outWrite p _ _ _ => p = o
  | _ => false

/-- A call that writes to the stream leaves what the write leaves. -/
theorem step_writesTo {w next : World ρ} {act : Act} (writes : act.writesTo o = true)
    (stepped : step R w act = some next) : ∃ buffer bytes env,
    act = .outWrite o buffer bytes env ∧ next = ((outWrite R o buffer bytes env).exec w).2 := by
  -- Only a write to the stream is one.
  cases act with
  | outWrite p buffer bytes env =>
    obtain rfl : p = o := by simpa [Act.writesTo] using writes
    obtain ⟨_, rfl⟩ : w.outOpen p = true ∧ ((outWrite R p buffer bytes env).exec w).2 = next := by
      simpa [step, Act.prog, Act.enabled] using stepped
    exact ⟨buffer, bytes, env, rfl, rfl⟩
  | _ => simp [Act.writesTo] at writes

/-- Unless it writes to the stream or opens it, a call at most puts the stream into standby. -/
theorem rests_of_step {w next : World ρ} {act : Act} (other : act.writesTo o = false)
    (stepped : step R w act = some next) :
    (w.outs o).Rests (next.outs o) ∨
      (∃ calloc config, act = .openOutputStream o calloc config) ∧
        (next.outs o).standby = true := by
  obtain ⟨_, rfl⟩ : act.enabled w = true ∧ ((act.prog R).exec w).2 = next := by
    simpa [step] using stepped
  have rests := (restsBut_prog R w act).outs o
  -- Only a write and an opening have the stream itself for a subject.
  by_cases subject : act.subject = some (.output o)
  · cases act with
    | outWrite p buffer bytes env =>
      obtain rfl : p = o := by simpa [Act.subject] using subject
      simp [Act.writesTo] at other
    | openOutputStream p calloc config =>
      obtain rfl : p = o := by simpa [Act.subject] using subject
      cases calloc with
      | false => exact Or.inl (Or.inl rfl)
      | true =>
        -- A stream that has just been opened is in standby.
        refine Or.inr ⟨⟨true, config, rfl⟩, ?_⟩
        show (update w.outs p .opened p).standby = true
        rw [Function.update_self]
        rfl
    | _ => simp [Act.subject] at subject
  · exact Or.inl (rests subject)

/-- A stream that at most rests keeps its threshold, and stays controlled if it keeps running. -/
theorem StreamOut.Rests.keeps {before after : StreamOut ρ} (rests : before.Rests after) :
    after.curWriteThreshold = before.curWriteThreshold ∧
      (after.standby = false → after = before) := by
  -- The stream is as before, or is in standby now.
  rcases rests with rfl | ⟨_, rfl⟩
  · exact ⟨rfl, fun _ => rfl⟩
  · exact ⟨rfl, fun running => by cases running⟩

end Runs

end Grouper.Audio
