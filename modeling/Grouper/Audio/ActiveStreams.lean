import Grouper.Audio.Refinement

/-! Which streams are out of standby, and how that relates to the slots of active streams. -/

namespace Grouper.Audio

namespace Ctl

/-- What no sequence of calls upsets about slots and closed streams. -/
structure Settled (c : Ctl) : Prop where
  /-- A stream that is not open is in standby. -/
  closed : ∀ s, (c.stream s).isOpen = false → (c.stream s).standby = true
  /-- A slot is for streams of its direction. -/
  sorted : ∀ d s, c.active d = some s → s.dir = d

/-- A stream is out of standby exactly while it is in the slot of its direction. -/
def SlotsExact (c : Ctl) : Prop := ∀ s, (c.stream s).standby = false ↔ c.active s.dir = some s

/-- Changing anything about a stream but its standby flag upsets nothing. -/
theorem Settled.modify {c : Ctl} (settled : c.Settled) (s : StreamRef)
    (change : StreamCtl → StreamCtl)
    (fits : (change (c.stream s)).isOpen = false → (change (c.stream s)).standby = true) :
    (c.modify s change).Settled where
  closed t closed := by
    -- The stream that is changed is asked for, and the others are as they were.
    by_cases same : t = s
    · subst same
      simpa using fits (by simpa using closed)
    · rw [modify_stream_of_ne c s same] at closed ⊢
      exact settled.closed t closed
  sorted := settled.sorted

/-- Stopping a stream keeps both. -/
theorem Settled.stop {c : Ctl} (settled : c.Settled) (s : StreamRef) : (c.stop s).Settled where
  closed t closed := by
    -- The stream that is stopped is in standby then, and its slot is empty.
    by_cases same : t = s
    · subst same
      exact stop_stream_self c t
    · rw [stop_stream_of_ne c s same] at closed ⊢
      exact settled.closed t closed
  sorted d t slot := by
    by_cases same : d = s.dir
    · subst same
      cases standby : (c.stream s).standby with
      | true => exact settled.sorted _ t (by rwa [stop_of_standby c s standby] at slot)
      | false => simp [stop_active_self c s standby] at slot
    · exact settled.sorted d t (by rwa [stop_active_of_ne c s same] at slot)

/-- So does making way for a start. -/
theorem Settled.prepare {c : Ctl} (settled : c.Settled) (s : StreamRef) :
    (c.prepare s).Settled := by
  have configured := settled.modify s (fun x => { x with config := c.target s }) (settled.closed s)
  exact stopClashing_preserves _ s Settled configured fun t _ => configured.stop t

/-- A transfer wakes no closed stream, because its own stream is open. -/
theorem Settled.transfer {c : Ctl} (settled : c.Settled) {s : StreamRef}
    (isOpen : (c.stream s).isOpen = true) (ready : Bool) (uses : Nat) :
    (c.transfer s ready uses).Settled := by
  have prepared := settled.prepare s
  have stillOpen : ((c.prepare s).stream s).isOpen = true :=
    stopClashing_preserves _ s (fun d => (d.stream s).isOpen = true) (by simpa) fun t _ => by simpa
  unfold Ctl.transfer
  split_ifs
  · -- The stream that starts takes the slot of its own direction.
    have woken := prepared.modify s (fun x => { x with
      pcm := some ((c.prepare s).handle s)
      standby := false }) fun closed => by simp [stillOpen] at closed
    refine ⟨fun t closed => ?_, fun d t slot => ?_⟩
    · have seen := woken.closed t
      simpa [wake, started, Ctl.modify] using
        seen (by simpa [wake, started, Ctl.modify] using closed)
    · by_cases same : d = s.dir
      · subst same
        have it : s = t := by simpa [wake, started] using slot
        rw [it]
      · exact prepared.sorted d t (by simpa [wake, started, same] using slot)
  · -- A failed start leaves a handle behind, and neither a flag nor a slot.
    have kept := prepared.modify s (fun x => { x with
      pcm := some ((c.prepare s).handle s) }) (prepared.closed s)
    exact ⟨kept.closed, kept.sorted⟩
  · exact ⟨settled.closed, settled.sorted⟩

/-- So does every operation. -/
theorem Settled.apply {c : Ctl} (settled : c.Settled) {a : CtlAct} (allowed : a.Allowed c) :
    (c.apply a).Settled := by
  cases a with
  | open_ s config home =>
    rw [Ctl.apply]
    exact settled.modify s _ fun _ => rfl
  | close s =>
    rw [Ctl.apply]
    exact (settled.stop s).modify s _ fun _ => stop_stream_self c s
  | stop s => exact settled.stop s
  | transfer s ready uses => exact settled.transfer allowed ready uses
  | route s devices =>
    unfold Ctl.apply Ctl.route
    dsimp only
    -- The devices are no part of what is settled, so only the stop counts.
    split_ifs
    · exact ⟨(settled.stop s).closed, (settled.stop s).sorted⟩
    · exact ⟨settled.closed, settled.sorted⟩
    · exact settled
  | query s => exact ⟨settled.closed, settled.sorted⟩
  | idle => exact settled

/-- The slots are exact or not by the standby flags and the slots alone. -/
theorem SlotsExact.congr {c d : Ctl} (exact_ : c.SlotsExact)
    (standby : ∀ s, (d.stream s).standby = (c.stream s).standby) (active : d.active = c.active) :
    d.SlotsExact := by
  -- The slots are compared with the standby flags and with nothing else.
  intro s
  rw [standby, active]
  exact exact_ s

/-- A change of one stream that keeps its standby flag keeps exact slots exact. -/
theorem SlotsExact.modify {c : Ctl} (exact_ : c.SlotsExact) (s : StreamRef)
    {change : StreamCtl → StreamCtl}
    (same : (change (c.stream s)).standby = (c.stream s).standby) :
    (c.modify s change).SlotsExact := by
  refine exact_.congr (fun t => ?_) (by rfl)
  -- The stream that was changed has the same flag, and the others are untouched.
  by_cases it : t = s
  · subst it
    simpa using same
  · rw [modify_stream_of_ne c s it]

/-- Stopping a stream keeps exact slots exact: only the stream in the slot is running. -/
theorem SlotsExact.stop {c : Ctl} (exact_ : c.SlotsExact) (s : StreamRef) :
    (c.stop s).SlotsExact := by
  cases standby : (c.stream s).standby with
  | true => rwa [stop_of_standby c s standby]
  | false =>
    -- It was running, so it is the one in the slot that is emptied.
    have slot := (exact_ s).mp standby
    intro t
    by_cases same : t = s
    · subst same
      simp [stop_active_self c t standby]
    · rw [stop_stream_of_ne c s same]
      -- Another stream of the same direction was not in the slot, and still is not.
      by_cases sibling : t.dir = s.dir
      · rw [sibling, stop_active_self c s standby, exact_ t, sibling, slot]
        simp [Ne.symm same]
      · rw [stop_active_of_ne c s sibling]
        exact exact_ t

/-- Making way for a start keeps the slots exact. -/
theorem SlotsExact.prepare {c : Ctl} (exact_ : c.SlotsExact) (s : StreamRef) :
    (c.prepare s).SlotsExact := by
  -- The streams that clash are stopped behind the new configuration.
  have configured : (c.modify s fun x => { x with config := c.target s }).SlotsExact :=
    exact_.modify s (by rfl)
  exact stopClashing_preserves _ s SlotsExact configured fun t _ => configured.stop t

/-- Preparing a start reaches neither the starting stream's flag nor the slot of its direction. -/
theorem Settled.prepare_own {c : Ctl} (settled : c.Settled) (s : StreamRef) :
    ((c.prepare s).stream s).standby = (c.stream s).standby ∧
      (c.prepare s).active s.dir = c.active s.dir := by
  refine stopClashing_preserves _ s (fun d =>
    (d.stream s).standby = (c.stream s).standby ∧ d.active s.dir = c.active s.dir)
      (by simp) fun t slot => ?_
  -- What is stopped is a stream of the other direction.
  have other := settled.sorted _ t slot
  have apart : s ≠ t := fun same => by simp [same] at other
  rw [stop_stream_of_ne _ t apart, stop_active_of_ne _ t (by simp [other])]
  simp

/-- The configuration a start settles on is the one its route asks for. -/
theorem Settled.prepare_config {c : Ctl} (settled : c.Settled) (s : StreamRef) :
    ((c.prepare s).stream s).config = c.target s ∧
      ((c.prepare s).stream s).isOpen = (c.stream s).isOpen ∧
      (c.prepare s).target s = c.target s := by
  -- What is stopped is a stream of the other direction.
  have kept : ((c.prepare s).stream s).config = c.target s ∧
      ((c.prepare s).stream s).isOpen = (c.stream s).isOpen ∧
      ((c.prepare s).stream s).home = (c.stream s).home := by
    refine stopClashing_preserves _ s (fun d => (d.stream s).config = c.target s ∧
      (d.stream s).isOpen = (c.stream s).isOpen ∧ (d.stream s).home = (c.stream s).home)
        (by simp) fun t slot => ?_
    have other := settled.sorted _ t slot
    have apart : s ≠ t := fun same => by simp [same] at other
    rw [stop_stream_of_ne _ t apart]
    simp
  exact ⟨kept.1, kept.2.1, by simp [target, sco, kept.2.2]⟩

/-- A stream that starts keeps the slots exact precisely when it finds the slot empty. -/
theorem slotsExact_started {c : Ctl} (settled : c.Settled) (exact_ : c.SlotsExact)
    {s : StreamRef} (standby : (c.stream s).standby = true) :
    ((c.started s).wake s).SlotsExact ↔ c.active s.dir = none := by
  have flags : ∀ t, t ≠ s → (((c.started s).wake s).stream t).standby = (c.stream t).standby :=
    fun t apart => by simp [wake, started, modify, apart]
  have slot : ((c.started s).wake s).active s.dir = some s := by simp [wake, started]
  constructor
  · intro after
    cases found : c.active s.dir with
    | none => rfl
    | some t =>
      -- The stream that was in the slot is still running, and no longer in the slot.
      have sibling := settled.sorted _ t found
      have running := (exact_ t).mpr (sibling ▸ found)
      have apart : t ≠ s := fun same => by simp [same, standby] at running
      have lost := (after t).mp ((flags t apart).trans running)
      rw [sibling, slot] at lost
      exact absurd (Option.some.inj lost).symm apart
  · intro empty t
    by_cases same : t = s
    · subst same
      simp [wake, started]
    · rw [flags t same, exact_ t]
      -- The slot was empty, so no sibling of the stream was running.
      by_cases sibling : t.dir = s.dir
      · simp [sibling, slot, empty, Ne.symm same]
      · simp [wake, started, sibling]

end Ctl

/-- A transfer starts no stream while the slot of its direction is taken. -/
def CtlAct.Fits (c : Ctl) : CtlAct → Prop
  | .transfer s ready _ =>
    ¬ ((c.stream s).standby = true ∧ ready = true ∧ c.active s.dir ≠ none)
  | _ => True

/-- Exact slots stay exact precisely when nothing starts into a taken slot. -/
theorem Ctl.slotsExact_apply {c : Ctl} (settled : c.Settled) (exact_ : c.SlotsExact) {a : CtlAct}
    (allowed : a.Allowed c) : (c.apply a).SlotsExact ↔ a.Fits c := by
  cases a with
  | transfer s ready uses =>
    obtain ⟨standby, slot⟩ := settled.prepare_own s
    change (c.transfer s ready uses).SlotsExact ↔
      ¬ ((c.stream s).standby = true ∧ ready = true ∧ c.active s.dir ≠ none)
    unfold Ctl.transfer
    -- The three outcomes of a transfer: a start, a failed start, and none.
    split_ifs with resting starts
    · have started := Ctl.slotsExact_started (settled.prepare s) (exact_.prepare s)
        (standby.trans resting)
      rw [slot] at started
      have served : ((((c.prepare s).started s).wake s).serve s uses).SlotsExact ↔
          (((c.prepare s).started s).wake s).SlotsExact := Iff.rfl
      rw [served, started]
      simp [resting, starts]
    · have kept : ((c.prepare s).modify s fun x => { x with
          pcm := some ((c.prepare s).handle s) }).SlotsExact := (exact_.prepare s).modify s (by rfl)
      exact iff_of_true kept (by simp [starts])
    · exact iff_of_true exact_ (by simp [resting])
  | open_ s config home =>
    -- A stream that was not open was in standby, and so it is when it is opened.
    rw [Ctl.apply]
    exact iff_of_true (exact_.modify s (settled.closed s allowed.1).symm) trivial
  | close s =>
    rw [Ctl.apply]
    exact iff_of_true ((exact_.stop s).modify s (by rfl)) trivial
  | stop s => exact iff_of_true (exact_.stop s) trivial
  | route s devices =>
    -- A change of route starts nothing, though it may stop its stream.
    refine iff_of_true ?_ trivial
    unfold Ctl.apply Ctl.route
    dsimp only
    split_ifs
    · exact exact_.stop s
    · exact exact_
    · exact exact_
  | query s => exact iff_of_true exact_ trivial
  | idle => exact iff_of_true exact_ trivial

variable {ρ : Type}

/-- The active streams are those out of standby, and they are open. -/
structure ActiveExact (w : World ρ) : Prop where
  output : ∀ o, w.outOpen o = true → ((w.outs o).standby = false ↔ w.adev.activeOut = some o)
  input : ∀ i, w.inOpen i = true → ((w.ins i).standby = false ↔ w.adev.activeIn = some i)
  outputOpen : ∀ o, w.adev.activeOut = some o → w.outOpen o = true
  inputOpen : ∀ i, w.adev.activeIn = some i → w.inOpen i = true

/-- No stream comes out of standby while another one of its direction is active. -/
def FindsSlotFree (w : World ρ) : Act → Prop
  | .outWrite o _ _ env => ¬ ((w.outs o).standby = true ∧ env.start.pcmIsReady = true ∧
      w.adev.activeOut ≠ none)
  | .inRead i _ _ env => ¬ ((w.ins i).standby = true ∧ env.start.pcmIsReady = true ∧
      w.adev.activeIn ≠ none)
  | _ => True

/-- A fresh device is settled: no stream is open, and no slot is taken. -/
theorem settled_initial (hardware : Settings) :
    (World.initial hardware : World ρ).ctl.Settled where
  closed s _ := by cases s <;> rfl
  sorted d s slot := by cases d <;> simp [World.ctl, World.initial, adevOpen, selectDevices] at slot

/-- A call of an entry point keeps a device settled. -/
theorem settled_step (R : ResamplerLib ρ) (w : World ρ) (act : Act) (next : World ρ)
    (settled : w.ctl.Settled) (stepped : step R w act = some next) : next.ctl.Settled := by
  -- Seen through the control part, a call is one of the operations.
  obtain ⟨uses, allowed, ended⟩ := ctl_step R stepped
  rw [ended]
  exact settled.apply allowed

/-- Closed streams being in standby, the slots are exact for open streams if they are for all. -/
theorem activeExact_iff {w : World ρ} (settled : w.ctl.Settled) :
    ActiveExact w ↔ w.ctl.SlotsExact := by
  constructor
  · intro exact_ s
    cases s with
    | output o =>
      have slot : w.ctl.active .playback = some (.output o) ↔ w.adev.activeOut = some o := by
        simp [World.ctl]
      cases isOpen : w.outOpen o with
      | true => exact (exact_.output o isOpen).trans slot.symm
      -- A closed stream is in standby, and an active one is open.
      | false =>
        have standby : (w.outs o).standby = true := settled.closed (.output o) isOpen
        have empty : w.adev.activeOut ≠ some o := fun active => by
          simp [exact_.outputOpen o active] at isOpen
        exact iff_of_false (by simp [StreamOut.ctl, standby]) (empty ∘ slot.mp)
    | input i =>
      have slot : w.ctl.active .capture = some (.input i) ↔ w.adev.activeIn = some i := by
        simp [World.ctl]
      cases isOpen : w.inOpen i with
      | true => exact (exact_.input i isOpen).trans slot.symm
      | false =>
        have standby : (w.ins i).standby = true := settled.closed (.input i) isOpen
        have empty : w.adev.activeIn ≠ some i := fun active => by
          simp [exact_.inputOpen i active] at isOpen
        exact iff_of_false (by simp [StreamIn.ctl, standby]) (empty ∘ slot.mp)
  · intro exact_
    have output : ∀ o, (w.outs o).standby = false ↔ w.adev.activeOut = some o := fun o =>
      (exact_ (.output o)).trans (by simp [World.ctl, StreamRef.dir])
    have input : ∀ i, (w.ins i).standby = false ↔ w.adev.activeIn = some i := fun i =>
      (exact_ (.input i)).trans (by simp [World.ctl, StreamRef.dir])
    -- A stream in a slot is running, so it cannot be closed.
    refine ⟨fun o _ => output o, fun i _ => input i, fun o active => ?_, fun i active => ?_⟩
    · by_contra closed
      have standby := settled.closed (.output o) (by simpa [StreamOut.ctl] using closed)
      have running := (output o).mpr active
      exact absurd (standby.symm.trans running) (by decide)
    · by_contra closed
      have standby := settled.closed (.input i) (by simpa [StreamIn.ctl] using closed)
      have running := (input i).mpr active
      exact absurd (standby.symm.trans running) (by decide)

/-- The slots of a fresh device are exact. -/
theorem activeExact_initial (hardware : Settings) :
    ActiveExact (World.initial hardware : World ρ) := by
  -- All streams are in standby and both slots are empty.
  refine (activeExact_iff (settled_initial hardware)).mpr fun s => ?_
  cases s <;> simp [World.ctl, World.initial, adevOpen, selectDevices, StreamRef.dir,
    StreamOut.ctl, StreamIn.ctl, StreamOut.opened, StreamIn.opened]

/-- The condition on a call is the one on its operation. -/
theorem fits_iff {w : World ρ} {act : Act} (uses : Nat) :
    (act.ctl uses).Fits w.ctl ↔ FindsSlotFree w act := by
  cases act with
  | outWrite o buffer bytes env =>
    simp [Act.ctl, CtlAct.Fits, FindsSlotFree, World.ctl, StreamRef.dir, StreamOut.ctl]
  | inRead i buffer bytes env =>
    simp [Act.ctl, CtlAct.Fits, FindsSlotFree, World.ctl, StreamRef.dir, StreamIn.ctl]
  -- Of the calls that may be refused, none is a transfer.
  | openOutputStream o calloc config =>
    unfold Act.ctl
    dsimp only
    split <;> exact Iff.rfl
  | openInputStream i calloc config fast =>
    unfold Act.ctl
    dsimp only
    split_ifs <;> exact Iff.rfl
  | outSetParameters o routing =>
    unfold Act.ctl
    dsimp only
    split <;> exact Iff.rfl
  | inSetParameters i routing =>
    unfold Act.ctl
    dsimp only
    split <;> exact Iff.rfl
  | _ => exact Iff.rfl

/-- A run keeps the active streams exact if and only if each start finds its slot free. -/
theorem activeExact_always_iff (R : ResamplerLib ρ) (hardware : Settings) (acts : List Act)
    (final : World ρ) (ran : run (step R) (.initial hardware) acts = some final) :
    Always (step R) ActiveExact (.initial hardware) acts ↔
      Along (step R) FindsSlotFree (.initial hardware) acts := by
  refine always_iff_along (settled_step R) (fun w act next settled good stepped => ?_)
    (settled_initial hardware) (activeExact_initial hardware) ran
  -- Both sides are statements about the control machine, where one step decides them.
  obtain ⟨uses, allowed, ended⟩ := ctl_step R stepped
  rw [activeExact_iff (settled_step R w act next settled stepped), ended,
    Ctl.slotsExact_apply settled ((activeExact_iff settled).mp good) allowed, fits_iff]

/-- A write of silence to which the hardware makes no objection. -/
def OutWriteEnv.fine : OutWriteEnv where
  start := { pcmIsReady := true, createResampler := true, malloc := some fun _ => 0 }
  kernelFrames := 0
  pcmGetHtimestamp _ := some 4096
  pcmWrite := 0
  fuel := 1

/-- Two output streams, of which the second is written to after its route has moved to SCO. -/
def writesOnTwoRoutes : List Act :=
  let config : AudioConfig := ⟨outSamplingRate, audioChannelOutStereo⟩
  [.openOutputStream 0 true config, .openOutputStream 1 true config,
    .outWrite 0 (fun _ => 0) 2048 .fine, .outSetParameters 1 ⟨0, 0x10⟩,
    .outWrite 1 (fun _ => 0) 2048 .fine]

/-- The condition is about runs that exist: this one goes wrong at its last step. -/
theorem activeExact_always_iff_twoRoutes : ∃ final,
    run (step .nearest) (.initial fun _ => none) writesOnTwoRoutes = some final ∧
      (Always (step .nearest) ActiveExact (.initial fun _ => none) writesOnTwoRoutes ↔
        Along (step .nearest) FindsSlotFree (.initial fun _ => none) writesOnTwoRoutes) :=
  ⟨_, rfl, activeExact_always_iff _ _ _ _ rfl⟩

/-- The main and the SCO PCM are open at the same time, and only one of their streams is active. -/
theorem activeExact_fails : ∃ final,
    run (step .nearest) (.initial fun _ => none) writesOnTwoRoutes = some final ∧
      (final.outs 0).standby = false ∧ (final.outs 1).standby = false ∧
      (final.outs 0).pcm.map Pcm.device = some pcmDevice ∧
      (final.outs 1).pcm.map Pcm.device = some pcmDeviceSco ∧ ¬ ActiveExact final := by
  -- The slot names the second stream, and the first one is running too.
  refine ⟨_, rfl, rfl, rfl, rfl, rfl, fun exact_ => ?_⟩
  have active := (exact_.output 0 rfl).mp rfl
  exact absurd active (by decide)

end Grouper.Audio
