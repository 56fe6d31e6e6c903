import Grouper.Audio.CaptureBounds

/-! Runs of the HAL in which every read asks for a size its stream has been given out. -/

namespace Grouper.Audio

open Function (update)

variable {ρ : Type}

/-- The HAL beside the sizes it has given out for each stream, and the accesses reads have made. -/
structure Watched (ρ : Type) where
  world : World ρ
  /-- What `in_get_buffer_size` has returned since the stream was opened. -/
  advertised : Nat → List Nat
  accesses : List Access

/-- A query of the size to read, or any other call. -/
inductive CaptureAct where
  | inGetBufferSize (i : Nat)
  | call (act : Act)

/-- A stream that is opened has been given out no size yet. -/
def Act.forget (act : Act) (advertised : Nat → List Nat) : Nat → List Nat :=
  match act with
  -- The address may have belonged to another stream, whose sizes are no longer good.
  | .openInputStream i _ _ _ => update advertised i []
  | _ => advertised

/-- One call. A read is taken only at a size that was given out for its stream. -/
def watched (R : ResamplerLib ρ) (s : Watched ρ) : CaptureAct → Option (Watched ρ)
  | .inGetBufferSize i =>
    if s.world.inOpen i then
      some { s with
        advertised := update s.advertised i
          (Audio.inGetBufferSize (s.world.ins i) :: s.advertised i) }
    else none
  | .call (.inRead i buffer bytes env) =>
    -- A client reads as many bytes as it was told to, at some time since the stream was opened.
    if s.world.inOpen i ∧ bytes ∈ s.advertised i then
      let after := ((inReadTraced R i bytes buffer env).exec (s.world, s.accesses)).2
      some { s with world := after.1, accesses := after.2 }
    else none
  | .call act => (step R s.world act).map fun world =>
    { s with world := world, advertised := act.forget s.advertised }

/-- A read keeps to its memory, and other calls touch none of it. -/
def CaptureAct.Suits (s : Watched ρ) : CaptureAct → Prop
  | .call (.inRead i _ bytes env) => s.world.FitsCapture i bytes env.start
  | _ => True

/-- No access was out of bounds. -/
def Watched.Bounded (s : Watched ρ) : Prop := ∀ access ∈ s.accesses, access.InBounds

/-- What every call keeps. -/
structure Watched.Sound (s : Watched ρ) : Prop where
  fit : s.world.Fit
  level : ∀ i, LevelIfRunning i s.world
  bounded : s.Bounded

def Watched.initial (hardware : Settings) : Watched ρ := ⟨.initial hardware, fun _ => [], []⟩

/-- Before the first call no buffer was accessed. -/
theorem Watched.sound_initial (hardware : Settings) :
    (Watched.initial hardware : Watched ρ).Sound where
  fit := ⟨fun _ => StreamOut.fit_opened, fun _ => StreamIn.fit_opened 0 false⟩
  level _ := nofun
  bounded := List.forall_mem_nil _

/-- A stream that is not read from stays level. -/
theorem LevelIfRunning.rests {before after : World ρ} {i : Nat} (level : LevelIfRunning i before)
    (rests : (before.ins i).Rests (after.ins i)) : LevelIfRunning i after := by
  unfold LevelIfRunning
  -- The stream is what it was, or it was stopped.
  rcases rests with same | ⟨_, stopped⟩
  · rw [same]
    exact level
  · -- A stopped stream is not running.
    rw [stopped]
    exact nofun

/-- A call other than a read leaves every running stream level. -/
theorem level_step {R : ResamplerLib ρ} {w next : World ρ} {act : Act} (i : Nat)
    (level : LevelIfRunning i w) (other : ∀ buffer bytes env, act ≠ .inRead i buffer bytes env)
    (stepped : step R w act = some next) : LevelIfRunning i next := by
  obtain ⟨_, rfl⟩ : act.enabled w = true ∧ ((act.prog R).exec w).2 = next := by
    simpa [step] using stepped
  by_cases subject : act.subject = some (.input i)
  · cases act with
    | openInputStream j calloc config fast =>
      obtain rfl : j = i := by simpa [Act.subject] using subject
      rw [Act.prog, Prog.exec_bind]
      show LevelIfRunning j ((adevOpenInputStream j calloc config fast).exec w).2
      unfold adevOpenInputStream
      -- Opening may be refused for the channels or for the memory, and then nothing happens.
      rw [Prog.exec_ite, Prog.exec_ite]
      split_ifs
      · exact level
      · exact level
      · -- The new stream is in standby.
        show (update w.ins j (.opened config.sampleRate fast) j).standby = false → _
        rw [Function.update_self]
        intro running
        cases running
    -- A read of this stream is what the call is not.
    | inRead j buffer bytes env =>
      obtain rfl : j = i := by simpa [Act.subject] using subject
      exact absurd rfl (other buffer bytes env)
    | _ => simp [Act.subject] at subject
  · exact level.rests ((restsBut_prog R w act).ins i subject)

/-- A read that keeps to its memory keeps every stream sound. -/
theorem Watched.Sound.read {R : ResamplerLib ρ} (sound : R.Sound) {s next : Watched ρ}
    (kept : s.Sound) {i bytes : Nat} {buffer : CallerBuffer} {env : InReadEnv}
    (fits : s.world.FitsCapture i bytes env.start)
    (stepped : watched R s (.call (.inRead i buffer bytes env)) = some next) : next.Sound := by
  dsimp only [watched] at stepped
  split at stepped
  · rename_i enabled
    obtain rfl := Option.some.inj stepped
    obtain ⟨level, bounded⟩ := within_inReadTraced i bytes R sound buffer env
      (s.world, s.accesses) ⟨⟨kept.fit.ins i, kept.level i, fits⟩, kept.bounded⟩
    -- The world is the one the plain call would have left.
    obtain ⟨_, same⟩ := erases_inReadTraced R i bytes buffer env s.world s.accesses
    have plain : step R s.world (.inRead i buffer bytes env) =
        some ((inRead R i buffer bytes env).exec s.world).2 := by
      have opened : (Act.inRead i buffer bytes env).enabled s.world = true := enabled.1
      unfold step
      rw [if_pos opened, Act.prog, Prog.exec_bind]
      rfl
    -- The stream that is read is level by its trace, and every other one rests.
    refine ⟨?_, fun j => ?_, bounded⟩
    · show World.Fit (((inReadTraced R i bytes buffer env).exec _).2.1)
      rw [same]
      exact fit_step R _ _ _ kept.fit plain
    · by_cases own : j = i
      · subst own
        exact level
      · show LevelIfRunning j (((inReadTraced R i bytes buffer env).exec _).2.1)
        rw [same]
        refine level_step j (kept.level j) (fun _ _ _ is => ?_) plain
        injection is with is
        exact own is.symm
  · cases stepped

/-- Every step that meets the condition keeps the streams sound. -/
theorem Watched.Sound.taken {R : ResamplerLib ρ} (sound : R.Sound) (s : Watched ρ)
    (act : CaptureAct) (next : Watched ρ) (kept : s.Sound) (suits : act.Suits s)
    (stepped : watched R s act = some next) : next.Sound := by
  cases act with
  | inGetBufferSize i =>
    dsimp only [watched] at stepped
    -- A query changes what was given out, and nothing else.
    split at stepped
    · obtain rfl := Option.some.inj stepped
      exact ⟨kept.fit, kept.level, kept.bounded⟩
    · cases stepped
  | call act =>
    by_cases reads : ∃ i buffer bytes env, act = .inRead i buffer bytes env
    · obtain ⟨i, buffer, bytes, env, rfl⟩ := reads
      exact kept.read sound suits stepped
    · -- No access is made by a call that is not a read.
      have plain : ∃ world, step R s.world act = some world ∧
          { s with world := world, advertised := act.forget s.advertised } = next := by
        cases act with
        | inRead i buffer bytes env => exact absurd ⟨i, buffer, bytes, env, rfl⟩ reads
        | _ => exact Option.map_eq_some_iff.mp stepped
      obtain ⟨world, taken, rfl⟩ := plain
      refine ⟨fit_step R _ _ _ kept.fit taken, fun i => ?_, kept.bounded⟩
      exact level_step i (kept.level i) (fun buffer bytes env is => reads ⟨_, _, _, _, is⟩) taken

/-- Off the SCO route and at its own rate, a stream gives out half the size of its buffer. -/
theorem inGetBufferSize_home {in_ : StreamIn ρ} (fit : in_.Fit)
    (home : in_.pcmConfig = in_.pcmConfigNonSco) (rate : inGetSampleRate in_ = in_.pcmConfig.rate) :
    inGetBufferSize in_ = 2 * in_.pcmConfig.periodSize := by
  obtain ⟨fast, own⟩ := fit.home
  unfold inGetBufferSize
  -- The rates cancel, and either configuration has a period that is a multiple of 16.
  rw [rate, home, own]
  unfold inDefaultConfig
  split <;> rfl

/--
In every run whose reads keep to their memory, no access is out of bounds.

A read is out of bounds when it captures stereo frames without conversion, and its size was given
out while the stream had the configuration of SCO.
-/
theorem bounded_of_suits (R : ResamplerLib ρ) (sound : R.Sound) (hardware : Settings)
    (acts : List CaptureAct)
    (suits : Along (watched R) CaptureAct.Suits (.initial hardware) acts) :
    Always (watched R) Watched.Bounded (.initial hardware) acts :=
  (always_of_along (Watched.Sound.taken sound) (Watched.sound_initial hardware) suits).mono
    fun _ kept => kept.bounded

/-- The nearest sample is taken from the buffer it was given. -/
theorem ResamplerLib.nearest_sound : nearest.Sound := by
  -- It makes as many frames as it has, and no more than it is asked for.
  refine fun rates frames => ⟨Nat.zero_le _, fun data _ => ⟨Nat.le_refl _, ?_⟩⟩
  show ((List.range _).map _).length ≤ frames
  rw [List.length_map, List.length_range]
  exact Nat.min_le_left _ _

/-- A read of silence, whose start may find the PCM not ready. -/
def InReadEnv.silence (pcmIsReady : Bool) : InReadEnv where
  start := { pcmIsReady := pcmIsReady, createResampler := true, malloc := some fun _ => 0 }
  pcmRead _ := { ret := 0, delivered := 0, data := fun _ => 0 }
  fuel := 1

def CallerBuffer.blank : CallerBuffer := ⟨fun _ => 0, 0⟩

/-- A stream at 44100 frames a second is opened, and asked for its size. -/
def asksForSize : List CaptureAct :=
  [.call (.openInputStream 0 true ⟨44100, audioChannelInMono⟩ false), .inGetBufferSize 0]

/-- The stream is then read from at that size. -/
def readsAtHomeSize : List CaptureAct :=
  asksForSize ++ [.call (.inRead 0 .blank 2048 (.silence true))]

/-- Reads of the advertised size stay in bounds off the SCO route. -/
theorem bounded_of_suits_home : ∃ final,
    run (watched .nearest) (.initial fun _ => none) readsAtHomeSize = some final ∧
      Always (watched .nearest) Watched.Bounded (.initial fun _ => none) readsAtHomeSize := by
  -- The route is not the one to SCO, and the sizes are those advertised.
  refine ⟨_, rfl, ?_⟩
  refine bounded_of_suits .nearest ResamplerLib.nearest_sound (fun _ => none) _
    ⟨trivial, fun _ opened => ⟨trivial, fun _ asked => ⟨?_, fun _ _ => trivial⟩⟩⟩
  obtain rfl := Option.some.inj opened
  obtain rfl := Option.some.inj asked
  refine Or.inr (Or.inr ⟨fun _ => ?_, fun _ _ => ?_⟩)
  · show (some fun _ => (0 : Sample) : Option Samples).isSome
    rfl
  · exact Nat.le_refl 2048

/--
A size given out for SCO is read off the SCO route.

The first read only tries to open the SCO PCM, and leaves the stream its configuration.
-/
def readsAtScoSize : List CaptureAct :=
  asksForSize ++
    [.call (.inSetParameters 0 ⟨0, 0x8⟩), .call (.inRead 0 .blank 2048 (.silence false)),
      .inGetBufferSize 0, .call (.inSetParameters 0 ⟨0, 0x4⟩),
      .call (.inRead 0 .blank 2848 (.silence true))]

/-- 5696 bytes are read into a capture buffer of 4096. -/
theorem not_bounded_readsAtScoSize : ∃ final : Watched (Nat × Nat),
    run (watched .nearest) (.initial fun _ => none) readsAtScoSize = some final ∧
      final.advertised 0 = [2848, 2048] ∧ ⟨.capture, 4096, 0, 5696⟩ ∈ final.accesses ∧
      ¬ Always (watched .nearest) Watched.Bounded (.initial fun _ => none) readsAtScoSize := by
  -- The read is of the size advertised on the SCO route, and the buffer of another.
  have ran : ∃ final : Watched (Nat × Nat),
      run (watched .nearest) (.initial fun _ => none) readsAtScoSize = some final ∧
        final.advertised 0 = [2848, 2048] ∧ ⟨.capture, 4096, 0, 5696⟩ ∈ final.accesses :=
    ⟨_, rfl, rfl, by decide +kernel⟩
  obtain ⟨final, ran, advertised, beyond⟩ := ran
  refine ⟨final, ran, advertised, beyond, fun always => ?_⟩
  exact absurd (always.last ran _ beyond) (by decide)

end Grouper.Audio
