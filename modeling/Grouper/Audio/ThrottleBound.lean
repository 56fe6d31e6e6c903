import Grouper.Audio.KernelFill
import Grouper.Lib.Ghost
import Mathlib.Algebra.Ring.Int.Defs

/-! How long `out_write` throttles: its rounds, its sleeps, and the values it computes for them. -/

namespace Grouper.Audio

open Prog (Erases note when)

variable {ρ : Type}

/-- The integer types the throttling loop computes in. -/
inductive IntType where
  | int
  | unsignedInt
  | int64
  deriving DecidableEq, Repr

/-- A value that is computed, and the type it is computed in or stored as. -/
structure Computed where
  type : IntType
  value : Int
  deriving DecidableEq, Repr

/-- The value is one of its type, so nothing wraps around. -/
def Computed.Fits (computed : Computed) : Prop :=
  match computed.type with
  | .int => -2 ^ 31 ≤ computed.value ∧ computed.value < 2 ^ 31
  | .unsignedInt => 0 ≤ computed.value ∧ computed.value < 2 ^ 32
  | .int64 => -2 ^ 63 ≤ computed.value ∧ computed.value < 2 ^ 63

/-- A program of the HAL beside the values it has computed so far. -/
abbrev Computing (ρ : Type) := Prog (World ρ × List Computed) Mutex

/-- Note values in the order they are computed in. -/
def computes (values : List Computed) : Computing ρ Unit :=
  note fun _ noted => values.reverse ++ noted

/-- The size of the buffer that the kernel has for a stream. -/
def StreamOut.kernelSize (out : StreamOut ρ) : Nat := (out.pcm.map Pcm.bufferSize).getD 0

/-- What finding the fill of the kernel computes. -/
def fillValues (size avail : Nat) : List Computed :=
  -- The available frames are stored in an `int` by a call that takes a pointer to an `unsigned`.
  [⟨.int, avail⟩, ⟨.unsignedInt, size - avail⟩, ⟨.int, size - avail⟩]

/-- What turning frames above the threshold into a time computes. -/
def sleepValues (kernelFrames threshold : Int) (rate : Nat) : List Computed :=
  let frames := int32 (kernelFrames - threshold)
  [⟨.int, kernelFrames - threshold⟩, ⟨.int64, frames * 1000000⟩,
    ⟨.int64, (frames * 1000000).tdiv rate⟩, ⟨.int, (frames * 1000000).tdiv rate⟩]

/-- What adding a time to the total and comparing it with the limit computes. -/
def totalValues (total sleep : Int) : List Computed :=
  [⟨.int, total + sleep⟩, ⟨.int, (outPeriodSize * outShortPeriodCount * 1000000 : Nat)⟩]

/-- What trimming the last sleep computes, from a total that includes it. -/
def trimValues (total sleep : Int) : List Computed :=
  [⟨.int, total - sleep⟩, ⟨.int, maxWriteSleepUs - int32 (total - sleep)⟩]

/-- The throttling loop beside the values it computes. -/
def throttleComputing (o : Nat) (htimestamp : Nat → Option Nat) :
    (fuel round : Nat) → (kernelFrames totalSleepTimeUs : Int) → Computing ρ Int
  | 0, _, kernelFrames, _ => return kernelFrames
  | fuel + 1, round, kernelFrames, total => do
    let out ← (getOut o).beside
    (record (.pcmGetHtimestamp out.pcm)).beside
    match htimestamp round with
    | none => return kernelFrames
    | some avail => do
      (record (.pcmGetBufferSize out.pcm)).beside
      computes (fillValues out.kernelSize avail)
      let kernelFrames := int32 (out.kernelSize - avail)
      if kernelFrames > out.curWriteThreshold then
        computes (sleepValues kernelFrames out.curWriteThreshold out.config.rate)
        let sleep := sleepTimeUs kernelFrames out.curWriteThreshold out.config.rate
        if sleep < minWriteSleepUs then
          return kernelFrames
        else
          computes (totalValues total sleep)
          let total := int32 (total + sleep)
          when (total > maxWriteSleepUs) do computes (trimValues total sleep)
          let sleep := if total > maxWriteSleepUs then int32 (maxWriteSleepUs - (total - sleep))
            else sleep
          -- `usleep` takes an unsigned number.
          computes [⟨.unsignedInt, sleep⟩]
          (record (.usleep sleep)).beside
          if total ≤ maxWriteSleepUs then
            throttleComputing o htimestamp fuel (round + 1) kernelFrames total
          else
            return kernelFrames
      else
        return kernelFrames

/-- How long a call has slept, if it has. -/
def Call.nap : Call → Option Int
  | usleep microseconds => some microseconds
  | _ => none

/-- What the loop is entered with: a threshold and reports that the kernel's buffer has room for. -/
structure StreamOut.Throttles (out : StreamOut ρ) (htimestamp : Nat → Option Nat) : Prop where
  config : out.config = pcmConfigOut ∨ out.config = pcmConfigSco
  periods : out.kernelSize ≤ 8 * out.config.periodSize
  positive : 0 ≤ out.curWriteThreshold
  threshold : out.curWriteThreshold ≤ out.kernelSize
  available : ∀ round avail, htimestamp round = some avail → avail ≤ out.kernelSize

/-- Noting what the loop computes changes nothing about it. -/
theorem erases_throttleComputing (o : Nat) (htimestamp : Nat → Option Nat) (fuel : Nat) :
    ∀ (round : Nat) (kernelFrames total : Int),
      Erases (throttleComputing (ρ := ρ) o htimestamp fuel round kernelFrames total)
        (throttle o htimestamp fuel round kernelFrames total) := by
  -- The induction follows the rounds, which end for the same reasons in both loops.
  induction fuel with
  | zero => exact fun _ _ _ => Prog.erases_pure _
  | succ fuel ih =>
    intro round kernelFrames total
    unfold throttleComputing throttle
    refine .bind (Prog.erases_beside _) fun out => ?_
    refine .bind (Prog.erases_beside _) fun _ => ?_
    cases htimestamp round with
    | none => exact Prog.erases_pure _
    | some avail =>
      refine .bind (Prog.erases_beside _) fun _ => .note _ (.ite (.note _ ?_) (Prog.erases_pure _))
      -- A sleep is trimmed in both loops before it is slept.
      refine .ite (Prog.erases_pure _) (.note _ (.noteWhen _ (.note _ ?_)))
      refine .bind (Prog.erases_beside _) fun _ => ?_
      exact .ite (ih _ _ _) (Prog.erases_pure _)

section Values

variable {out : StreamOut ρ} {htimestamp : Nat → Option Nat}

/-- The whole buffer of a stream plays for about a quarter of a second at most. -/
theorem StreamOut.Throttles.size (throttles : out.Throttles htimestamp) :
    out.kernelSize ≤ 4096 ∧
      (out.kernelSize : Int) * 1000000 ≤ 256000 * (out.config.rate : Int) := by
  have periods := throttles.periods
  -- The main PCM has eight periods of 512 frames, and SCO eight of 256 at a lower rate.
  rcases throttles.config with config | config
  · rw [config] at periods ⊢
    change out.kernelSize ≤ 4096 at periods
    change _ ∧ _ ≤ 256000 * 44100
    omega
  · rw [config] at periods ⊢
    change out.kernelSize ≤ 2048 at periods
    change _ ∧ _ ≤ 256000 * 8000
    omega

/-- The fill the kernel reports is found without wrapping around. -/
theorem StreamOut.Throttles.fill (throttles : out.Throttles htimestamp) {avail : Nat}
    (reported : avail ≤ out.kernelSize) :
    int32 (out.kernelSize - avail) = out.kernelSize - avail ∧
      ∀ computed ∈ fillValues out.kernelSize avail, computed.Fits := by
  have size := throttles.size.1
  refine ⟨int32_of_isInt32 ⟨by omega, by omega⟩, ?_⟩
  -- Each of the values is at most the size of the buffer.
  simp only [fillValues, List.mem_cons, List.not_mem_nil, or_false]
  rintro computed (rfl | rfl | rfl) <;> simp only [Computed.Fits] <;> omega

/-- The time above the threshold is found without wrapping around, and is not negative. -/
theorem StreamOut.Throttles.sleep (throttles : out.Throttles htimestamp) {fill : Int}
    (above : out.curWriteThreshold < fill) (within : fill ≤ out.kernelSize) :
    let sleep := sleepTimeUs fill out.curWriteThreshold out.config.rate
    (0 ≤ sleep ∧ sleep ≤ 256000) ∧
      ∀ computed ∈ sleepValues fill out.curWriteThreshold out.config.rate, computed.Fits := by
  obtain ⟨size, quarter⟩ := throttles.size
  have positive := throttles.positive
  have exact_ : int32 (fill - out.curWriteThreshold) = fill - out.curWriteThreshold :=
    int32_of_isInt32 ⟨by omega, by omega⟩
  -- The frames above the threshold are at most those of the whole buffer.
  have time : 0 ≤ (fill - out.curWriteThreshold) * 1000000 / (out.config.rate : Int) ∧
      (fill - out.curWriteThreshold) * 1000000 / (out.config.rate : Int) ≤ 256000 := by
    constructor
    · apply Int.ediv_nonneg <;> omega
    · apply Int.ediv_le_of_le_mul
      · rcases throttles.config with config | config <;> rw [config] <;> decide
      · omega
  dsimp only
  unfold sleepTimeUs sleepValues
  dsimp only
  rw [exact_, Int.tdiv_eq_ediv_of_nonneg (by omega)]
  generalize (fill - out.curWriteThreshold) * 1000000 / (out.config.rate : Int) = us at time ⊢
  -- A quarter of a second in microseconds fits easily, and so does the product it is found from.
  rw [int32_of_isInt32 ⟨by omega, by omega⟩]
  refine ⟨time, ?_⟩
  simp only [List.mem_cons, List.not_mem_nil, or_false]
  rintro computed (rfl | rfl | rfl | rfl) <;> simp only [Computed.Fits] <;> omega

/-- A time of a quarter of a second or less is one that `usleep` takes. -/
theorem fits_unsigned {sleep : Int} (positive : 0 ≤ sleep) (short : sleep ≤ 256000) :
    (⟨.unsignedInt, sleep⟩ : Computed).Fits := by
  simp only [Computed.Fits]
  omega

/-- A total within the limit takes one more sleep without wrapping around. -/
theorem fits_totalValues {total sleep : Int} (low : 0 ≤ total) (high : total ≤ maxWriteSleepUs)
    (positive : 0 ≤ sleep) (short : sleep ≤ 256000) :
    int32 (total + sleep) = total + sleep ∧
      ∀ computed ∈ totalValues total sleep, computed.Fits := by
  change total ≤ 23219 at high
  refine ⟨int32_of_isInt32 ⟨by omega, by omega⟩, ?_⟩
  simp only [totalValues, List.mem_cons, List.not_mem_nil, or_false]
  -- The sum is one value, and the constant it is compared with is the other.
  rintro computed (rfl | rfl)
  · simp only [Computed.Fits]
    omega
  · exact ⟨by decide, by decide⟩

/-- The last sleep is trimmed to what is left of the limit. -/
theorem fits_trimValues {total sleep : Int} (low : 0 ≤ total) (high : total ≤ maxWriteSleepUs) :
    int32 (maxWriteSleepUs - (total + sleep - sleep)) = maxWriteSleepUs - total ∧
      ∀ computed ∈ trimValues (total + sleep) sleep, computed.Fits := by
  -- The total before the last sleep was within the limit.
  change total ≤ 23219 at high
  have limit : maxWriteSleepUs = 23219 := by decide
  rw [limit, Int.add_sub_cancel]
  have exact_ : int32 total = total := int32_of_isInt32 ⟨by omega, by omega⟩
  refine ⟨int32_of_isInt32 ⟨by omega, by omega⟩, ?_⟩
  simp only [trimValues, List.mem_cons, List.not_mem_nil, or_false, Int.add_sub_cancel, exact_,
    limit]
  rintro computed (rfl | rfl) <;> simp only [Computed.Fits] <;> omega

end Values

section Rounds

variable (o : Nat) (htimestamp : Nat → Option Nat)

/-- What a round with a timestamp comes to, by the branch it takes. -/
theorem exec_throttleComputing_stamped (fuel round : Nat) (kernelFrames total : Int) (w : World ρ)
    (noted : List Computed) {avail : Nat} (stamped : htimestamp round = some avail) :
    let out := w.outs o
    let calls := [.pcmGetBufferSize out.pcm, .pcmGetHtimestamp out.pcm]
    let later (calls : List Call) : World ρ := { w with calls := calls ++ w.calls }
    let fill := int32 (out.kernelSize - avail)
    let sleep := sleepTimeUs fill out.curWriteThreshold out.config.rate
    let trimmed := int32 (maxWriteSleepUs - (int32 (total + sleep) - sleep))
    let fills := (fillValues out.kernelSize avail).reverse
    let sleeps := (sleepValues fill out.curWriteThreshold out.config.rate).reverse ++ fills
    let totals := (totalValues total sleep).reverse ++ sleeps
    (throttleComputing o htimestamp (fuel + 1) round kernelFrames total).exec (w, noted) =
      if out.curWriteThreshold < fill then
        if sleep < minWriteSleepUs then (fill, later calls, sleeps ++ noted)
        else if maxWriteSleepUs < int32 (total + sleep) then
          (fill, later (.usleep trimmed :: calls), [⟨.unsignedInt, trimmed⟩] ++
            (trimValues (int32 (total + sleep)) sleep).reverse ++ totals ++ noted)
        else (throttleComputing o htimestamp fuel (round + 1) fill (int32 (total + sleep))).exec
          (later (.usleep sleep :: calls), [⟨.unsignedInt, sleep⟩] ++ totals ++ noted)
      else (fill, later calls, fills ++ noted) := by
  dsimp only
  rw [throttleComputing]
  -- The fill is asked for and found whatever comes of it.
  simp only [Prog.exec_bind, Prog.exec_beside, exec_getOut, exec_record, stamped, computes,
    Prog.exec_note]
  generalize int32 ((w.outs o).kernelSize - avail) = fill
  generalize sleepTimeUs fill (w.outs o).curWriteThreshold (w.outs o).config.rate = sleep
  by_cases above : (w.outs o).curWriteThreshold < fill
  · rw [if_pos above, if_pos above]
    by_cases short : sleep < minWriteSleepUs
    · simp [short]
    · -- A sleep that is worth it is trimmed if it is the last one.
      rw [if_neg short, if_neg short]
      by_cases limit : maxWriteSleepUs < int32 (total + sleep)
      · simp [limit, Int.not_le.mpr limit]
      · simp [limit, Int.not_lt.mp limit]
  · simp [above]

/-- A round leaves the loop, or sleeps for two milliseconds or more and enters the next one. -/
theorem throttleComputing_round (round : Nat) (kernelFrames total : Int) (w : World ρ)
    (noted : List Computed) (throttles : (w.outs o).Throttles htimestamp) (low : 0 ≤ total)
    (high : total ≤ maxWriteSleepUs) :
    ∃ (values : List Computed) (calls : List Call) (fill : Int) (naps : List Int),
      let later := { w with calls := calls ++ w.calls }
      (∀ computed ∈ values, computed.Fits) ∧ calls.countP Call.asks = 1 ∧
        calls.filterMap Call.nap = naps ∧ (∀ nap ∈ naps, 0 ≤ nap) ∧
        total + naps.sum ≤ maxWriteSleepUs ∧
        ((∀ fuel, (throttleComputing o htimestamp (fuel + 1) round kernelFrames total).exec
            (w, noted) = (fill, later, values ++ noted)) ∨
          minWriteSleepUs ≤ naps.sum ∧
          ∀ fuel, (throttleComputing o htimestamp (fuel + 1) round kernelFrames total).exec
              (w, noted) =
            (throttleComputing o htimestamp fuel (round + 1) fill (total + naps.sum)).exec
              (later, values ++ noted)) := by
  cases stamped : htimestamp round with
  | none =>
    -- Without a timestamp the loop is left at once.
    refine ⟨[], [.pcmGetHtimestamp (w.outs o).pcm], kernelFrames, [], by simp, rfl, rfl, by simp,
      by simpa using high, Or.inl fun fuel => ?_⟩
    simp [throttleComputing, stamped]
  | some avail =>
    have taken := fun fuel => exec_throttleComputing_stamped o htimestamp fuel round kernelFrames
      total w noted stamped
    -- The fill is at most the buffer, so the sleep found from it is at most a quarter of a second.
    obtain ⟨filled, fillFits⟩ := throttles.fill (throttles.available round avail stamped)
    have within : ((w.outs o).kernelSize : Int) - avail ≤ (w.outs o).kernelSize := by omega
    dsimp only at taken
    rw [filled] at taken
    generalize ((w.outs o).kernelSize : Int) - avail = fill at within taken
    have limited : maxWriteSleepUs = 23219 := by decide
    by_cases above : (w.outs o).curWriteThreshold < fill
    · obtain ⟨⟨positive, least⟩, sleepFits⟩ := throttles.sleep above within
      generalize sleepTimeUs fill (w.outs o).curWriteThreshold (w.outs o).config.rate = sleep
        at positive least taken
      by_cases short : sleep < minWriteSleepUs
      · -- The time is too short to sleep for.
        simp only [if_pos above, if_pos short] at taken
        refine ⟨_, _, _, [], ?_, rfl, rfl, by simp, by simpa using high, Or.inl taken⟩
        simp only [List.forall_mem_append, List.mem_reverse]
        exact ⟨sleepFits, fillFits⟩
      · -- It is slept for, whole or trimmed to what is left of the limit.
        obtain ⟨summed, totalFits⟩ := fits_totalValues low high positive least
        obtain ⟨trimmed, trimFits⟩ := @fits_trimValues total sleep low high
        simp only [if_pos above, if_neg short, summed, trimmed] at taken
        by_cases limit : maxWriteSleepUs < total + sleep
        · -- What is left of the limit is slept, and the loop is left.
          simp only [if_pos limit] at taken
          refine ⟨_, _, _, [maxWriteSleepUs - total], ?_, rfl, rfl, by simpa using high, ?_,
            Or.inl taken⟩
          · simp only [List.forall_mem_append, List.mem_reverse, List.forall_mem_singleton]
            exact ⟨⟨fits_unsigned (by omega) (by omega), trimFits⟩, totalFits, sleepFits, fillFits⟩
          · rw [List.sum_singleton]
            omega
        · -- The whole time is slept, and there is some of the limit left.
          simp only [if_neg limit] at taken
          have summed : total + sleep = total + [sleep].sum := by rw [List.sum_singleton]
          rw [summed] at taken limit
          refine ⟨_, _, _, [sleep], ?_, rfl, rfl, by simpa using positive, Int.not_lt.mp limit,
            Or.inr ⟨by simpa using short, taken⟩⟩
          simp only [List.forall_mem_append, List.mem_reverse, List.forall_mem_singleton]
          exact ⟨fits_unsigned positive least, totalFits, sleepFits, fillFits⟩
    · -- The kernel holds no more than it should.
      simp only [if_neg above] at taken
      exact ⟨_, _, _, [], by simpa using fillFits, rfl, rfl, by simp, by simpa using high,
        Or.inl taken⟩

/-- Rounds of two milliseconds or more each use up the limit after twelve of them. -/
def throttleRounds : Nat := 12

/-- The loop computes values that fit, asks in every round, and sleeps within the limit. -/
theorem throttleComputing_run (fuel : Nat) :
    ∀ (round : Nat) (kernelFrames total : Int) (w : World ρ) (noted : List Computed),
      (w.outs o).Throttles htimestamp → 2000 * (round : Int) ≤ total →
      total ≤ maxWriteSleepUs →
      ∃ (values : List Computed) (calls : List Call),
        ((throttleComputing o htimestamp fuel round kernelFrames total).exec (w, noted)).2 =
            ({ w with calls := calls ++ w.calls }, values ++ noted) ∧
          (∀ computed ∈ values, computed.Fits) ∧
          round + calls.countP Call.asks ≤ throttleRounds ∧
          (∀ nap ∈ calls.filterMap Call.nap, 0 ≤ nap) ∧
          total + (calls.filterMap Call.nap).sum ≤ maxWriteSleepUs := by
  have limited : maxWriteSleepUs = 23219 ∧ throttleRounds = 12 := by decide
  have short : minWriteSleepUs = 2000 := by decide
  -- The induction follows the rounds, with what was slept before them in the total.
  induction fuel with
  | zero =>
    intro round kernelFrames total w noted throttles least most
    refine ⟨[], [], rfl, by simp, ?_, by simp, by simpa using most⟩
    -- So many rounds have slept for two milliseconds each, and the limit bounds them.
    rw [List.countP_nil]
    omega
  | succ fuel ih =>
    intro round kernelFrames total w noted throttles least most
    obtain ⟨values, calls, fill, naps, fits, once, slept, positive, limit, left | ⟨long, next⟩⟩ :=
      throttleComputing_round o htimestamp round kernelFrames total w noted throttles
        (by omega) most
    · -- The loop is left after this round.
      rw [left fuel]
      exact ⟨values, calls, rfl, fits, by omega, slept ▸ positive, slept ▸ limit⟩
    · -- What the later rounds do is added to what this one did.
      obtain ⟨values', calls', final, fits', asked, positive', limit'⟩ :=
        ih (round + 1) fill (total + naps.sum) { w with calls := calls ++ w.calls }
          (values ++ noted) throttles (by push_cast; omega) limit
      rw [next fuel, final]
      refine ⟨values' ++ values, calls' ++ calls, by simp, ?_, ?_, ?_, ?_⟩
      · simpa [or_imp, forall_and] using And.intro fits' fits
      · rw [List.countP_append]
        omega
      · rw [List.filterMap_append, slept, List.forall_mem_append]
        exact ⟨positive', positive⟩
      · rw [List.filterMap_append, slept, List.sum_append]
        omega

/-- More rounds than the limit leaves time for make no difference. -/
theorem throttleComputing_enough (fuel : Nat) :
    ∀ (more round : Nat) (kernelFrames total : Int) (w : World ρ) (noted : List Computed),
      (w.outs o).Throttles htimestamp → 2000 * (round : Int) ≤ total →
      total ≤ maxWriteSleepUs → throttleRounds ≤ round + fuel →
      (throttleComputing o htimestamp (fuel + more) round kernelFrames total).exec (w, noted) =
        (throttleComputing o htimestamp fuel round kernelFrames total).exec (w, noted) := by
  have limited : maxWriteSleepUs = 23219 ∧ throttleRounds = 12 := by decide
  have short : minWriteSleepUs = 2000 := by decide
  induction fuel with
  | zero =>
    -- There is not enough time for a twelfth round that sleeps.
    intro more round kernelFrames total w noted _ least most enough
    omega
  | succ fuel ih =>
    intro more round kernelFrames total w noted throttles least most enough
    obtain ⟨values, calls, fill, naps, _, _, _, _, limit, left | ⟨long, next⟩⟩ :=
      throttleComputing_round o htimestamp round kernelFrames total w noted throttles
        (by omega) most
    · -- A round that leaves the loop does so with any fuel left.
      rw [Nat.add_right_comm, left (fuel + more), left fuel]
    · rw [Nat.add_right_comm, next (fuel + more), next fuel]
      exact ih more (round + 1) fill (total + naps.sum) _ _ throttles (by push_cast; omega) limit
        (by omega)

end Rounds

/--
The throttling loop is left after at most twelve rounds, whatever the kernel reports.

It has then slept for the limit at most, never for a negative time, and no value wrapped around.
-/
theorem throttle_bounded (o : Nat) (htimestamp : Nat → Option Nat) (kernelFrames : Int)
    (w : World ρ) (throttles : (w.outs o).Throttles htimestamp) :
    let left fuel := (throttle o htimestamp fuel 0 kernelFrames 0).exec w
    let computing fuel := (throttleComputing o htimestamp fuel 0 kernelFrames 0).exec (w, [])
    (∀ fuel, throttleRounds ≤ fuel → left fuel = left throttleRounds) ∧
      ∀ fuel, ((computing fuel).1, (computing fuel).2.1) = left fuel ∧
        (∀ computed ∈ (computing fuel).2.2, computed.Fits) ∧
        ∃ calls, (left fuel).2 = { w with calls := calls ++ w.calls } ∧
          calls.countP Call.asks ≤ throttleRounds ∧
          (∀ nap ∈ calls.filterMap Call.nap, 0 ≤ nap) ∧
          (calls.filterMap Call.nap).sum ≤ maxWriteSleepUs := by
  dsimp only
  -- The loop does what the one does that notes its values.
  have erased : ∀ fuel,
      (((throttleComputing o htimestamp fuel 0 kernelFrames 0).exec (w, [])).1,
        ((throttleComputing o htimestamp fuel 0 kernelFrames 0).exec (w, [])).2.1) =
      (throttle o htimestamp fuel 0 kernelFrames 0).exec w := by
    intro fuel
    obtain ⟨value, after⟩ := erases_throttleComputing o htimestamp fuel 0 kernelFrames 0 w []
    rw [value, after]
  refine ⟨fun fuel enough => ?_, fun fuel => ⟨erased fuel, ?_⟩⟩
  · -- Both parts are about the loop that notes its values, entered with no time slept yet.
    obtain ⟨more, rfl⟩ := Nat.exists_eq_add_of_le enough
    rw [← erased, ← erased, throttleComputing_enough o htimestamp throttleRounds more 0
      kernelFrames 0 w [] throttles (by decide) (by decide) (by decide)]
  · obtain ⟨values, calls, final, fits, asked, positive, limit⟩ :=
      throttleComputing_run o htimestamp fuel 0 kernelFrames 0 w [] throttles (by decide)
        (by decide)
    rw [← erased, final, List.append_nil]
    exact ⟨fits, calls, rfl, by omega, positive, by omega⟩

/-- A stream whose kernel buffer is a hundred frames above its threshold, and stays there. -/
def World.overfull : World (Nat × Nat) :=
  { World.initial fun _ => none with
    outs := fun _ => { StreamOut.opened with
      pcm := some ⟨0, pcmDevice, pcmConfigOut⟩
      pcmConfig := some pcmConfigOut
      curWriteThreshold := 1024 } }

/-- A kernel buffer that stays overfull is waited for in vain, and not for long. -/
theorem throttle_bounded_overfull :
    let left fuel := (throttle 0 (fun _ => some 2972) fuel 0 0 0).exec World.overfull
    left 100 = left throttleRounds ∧
      ∃ calls, (left 100).2 = { World.overfull with calls := calls ++ World.overfull.calls } ∧
        (calls.filterMap Call.nap).sum ≤ maxWriteSleepUs := by
  -- The stream is in a state the bound is about, and a hundred rounds are enough.
  obtain ⟨enough, bounded⟩ := throttle_bounded 0 (fun _ => some 2972) 0 World.overfull
    { config := Or.inl rfl
      periods := by decide
      positive := by decide
      threshold := by decide
      available := fun _ avail reported => by cases reported; decide }
  obtain ⟨_, _, calls, final, _, _, limit⟩ := bounded 100
  exact ⟨enough 100 (by decide), calls, final, limit⟩

end Grouper.Audio
