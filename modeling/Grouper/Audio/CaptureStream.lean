import Grouper.Audio.CaptureRuns
import Grouper.Audio.ScoPlayback
import Mathlib.Data.List.Infix

/-! The frames that a capture stream hands out, and the periods they were read in. -/

namespace Grouper.Audio

open Function (update)

variable {ρ : Type}

/-- The frames of a period that are left in the capture buffer, in their order. -/
def StreamIn.unread (in_ : StreamIn ρ) : List Sample :=
  match in_.buffer with
  | none => []
  | some samples => (List.range in_.framesIn).map fun n =>
      samples (in_.pcmConfig.periodSize - in_.framesIn + n)

/-- The left channel of a period that was read, or the only one. -/
def PcmRead.leftChannel (outcome : PcmRead) (config : PcmConfig) : List Sample :=
  (List.range config.periodSize).map fun n => outcome.data (config.channels * n)

/-- An armed stream of one channel or of two. -/
structure StreamIn.Feeds (in_ : StreamIn ρ) : Prop where
  armed : in_.Armed
  channels : in_.pcmConfig.channels = 1 ∨ in_.pcmConfig.channels = 2

section Buffer

variable {in_ : StreamIn ρ}

/-- What is unread is at the end of the period. -/
theorem StreamIn.unread_of_present {samples : Samples} (present : in_.buffer = some samples) :
    in_.unread = (List.range in_.framesIn).map fun n =>
      samples (in_.pcmConfig.periodSize - in_.framesIn + n) := by
  unfold StreamIn.unread
  rw [present]

/-- As many frames are left as are counted. -/
theorem StreamIn.length_unread (present : in_.buffer.isSome) :
    in_.unread.length = in_.framesIn := by
  -- There is one sample for each frame that is left.
  obtain ⟨samples, present⟩ := Option.isSome_iff_exists.mp present
  rw [StreamIn.unread_of_present present]
  simp

/-- A whole period that was read leaves the left channel of its frames. -/
theorem map_store_left (outcome : PcmRead) (feeds : in_.Feeds) (taken : outcome.ret = 0)
    (samples : Samples) :
    (List.range in_.pcmConfig.periodSize).map
        (if in_.pcmConfig.channels = 2 then
          discardRight in_.pcmConfig.periodSize (outcome.store in_.bufferSize samples)
        else outcome.store in_.bufferSize samples) = outcome.leftChannel in_.pcmConfig := by
  have size := feeds.armed.size
  unfold PcmRead.leftChannel
  -- Every sample of the period was stored.
  have stored : ∀ n, n < in_.bufferSize / 2 →
      outcome.store in_.bufferSize samples n = outcome.data n := by
    intro n below
    unfold PcmRead.store
    simp [taken, below]
  rcases feeds.channels with mono | stereo
  · rw [if_neg (by omega), mono]
    rw [mono] at size
    refine List.map_congr_left fun n member => ?_
    have below : n < in_.pcmConfig.periodSize := List.mem_range.mp member
    rw [stored n (by omega), Nat.one_mul]
  · -- The left channel has moved to the front of the buffer.
    rw [if_pos stereo, map_discardRight, stereo]
    rw [stereo] at size
    refine List.map_congr_left fun n member => ?_
    have below : n < in_.pcmConfig.periodSize := List.mem_range.mp member
    rw [stored (2 * n) (by omega)]

/-- What is granted is the front of what is left. -/
theorem map_grant (feeds : in_.Feeds) (frameCount : Nat) {samples : Samples}
    (present : in_.buffer = some samples) :
    let grant := in_.grant frameCount
    ((List.range grant.frameCount).map fun n => samples (grant.offset + n)) =
      in_.unread.take frameCount := by
  -- The frames granted are the first of those that are left.
  dsimp only
  rw [StreamIn.unread_of_present present, ← List.map_take, List.take_range]
  unfold StreamIn.grant
  rw [sizeSub_of_le feeds.armed.framesIn feeds.armed.period]

/-- Frames that are given back leave the ones behind them. -/
theorem StreamIn.unread_release (feeds : in_.Feeds) {frameCount : Nat}
    (held : frameCount ≤ in_.framesIn) :
    ({ in_ with framesIn := in_.framesIn - frameCount } : StreamIn ρ).unread =
      in_.unread.drop frameCount := by
  have left := feeds.armed.framesIn
  obtain ⟨samples, present⟩ := Option.isSome_iff_exists.mp feeds.armed.present
  have after : ({ in_ with framesIn := in_.framesIn - frameCount } : StreamIn ρ).buffer =
      some samples := present
  rw [StreamIn.unread_of_present present, StreamIn.unread_of_present after]
  -- Both lists read the same places of the buffer.
  refine List.ext_getElem (by simp) fun n _ below => ?_
  simp only [List.length_drop, List.length_map, List.length_range] at below
  simp only [List.getElem_map, List.getElem_range, List.getElem_drop]
  congr 1
  omega

/-- A stream feeds whatever its buffer contains and however much of a period is left. -/
theorem StreamIn.Feeds.with (feeds : in_.Feeds) (status : Int) (samples : Samples) {framesIn : Nat}
    (level : framesIn ≤ in_.pcmConfig.periodSize) :
    ({ in_ with
      readStatus := status, buffer := some samples, framesIn := framesIn } : StreamIn ρ).Feeds :=
  ⟨⟨rfl, feeds.armed.size, feeds.armed.channels, level, feeds.armed.period⟩, feeds.channels⟩

/-- Giving back no more than is left does not wrap around. -/
theorem ins_releaseBuffer {i frameCount : Nat} {w : World ρ} (feeds : (w.ins i).Feeds)
    (held : frameCount ≤ (w.ins i).framesIn) :
    ((releaseBuffer i frameCount).exec w).2.ins i =
      { w.ins i with framesIn := (w.ins i).framesIn - frameCount } := by
  -- No more is released than there is, so the subtraction does not wrap.
  unfold releaseBuffer
  rw [ins_modifyIn, sizeSub_of_le held
    (Nat.lt_of_le_of_lt feeds.armed.framesIn feeds.armed.period)]

/-- A stream feeds on whatever was given back to it. -/
theorem StreamIn.Feeds.release (feeds : in_.Feeds) (frameCount : Nat) :
    ({ in_ with framesIn := in_.framesIn - frameCount } : StreamIn ρ).Feeds :=
  ⟨⟨feeds.armed.present, feeds.armed.size, feeds.armed.channels,
    Nat.le_trans (Nat.sub_le _ _) feeds.armed.framesIn, feeds.armed.period⟩, feeds.channels⟩

end Buffer

section Provider

variable (i : Nat) (outcomes : Nat → PcmRead) (reads frameCount : Nat) {w : World ρ}

/-- What `get_next_buffer` does to a stream that feeds, and what it grants. -/
theorem getNextBuffer_cases (feeds : (w.ins i).Feeds) :
    let in_ := w.ins i
    let result := (getNextBuffer i outcomes reads frameCount).exec w
    (in_.pcm = none ∧ result.1 = (none, reads) ∧
        result.2.ins i = { in_ with readStatus := -enodev }) ∨
      (in_.pcm.isSome ∧ in_.framesIn ≠ 0 ∧ result = ((some (in_.grant frameCount), reads), w)) ∨
      (in_.pcm.isSome ∧ in_.framesIn = 0 ∧ (outcomes reads).ret ≠ 0 ∧
        result.1 = (none, reads + 1) ∧ ∃ samples, result.2.ins i =
          { in_ with readStatus := (outcomes reads).ret, buffer := some samples }) ∨
      (in_.pcm.isSome ∧ in_.framesIn = 0 ∧ (outcomes reads).ret = 0 ∧ ∃ samples,
        (List.range in_.pcmConfig.periodSize).map samples =
            (outcomes reads).leftChannel in_.pcmConfig ∧
          result.2.ins i = { in_ with
            readStatus := 0
            buffer := some samples
            framesIn := in_.pcmConfig.periodSize } ∧
          result.1 = (some ((result.2.ins i).grant frameCount), reads + 1)) := by
  dsimp only
  obtain ⟨samples, present⟩ := Option.isSome_iff_exists.mp feeds.armed.present
  unfold getNextBuffer
  rw [exec_getIn_bind]
  cases pcm : (w.ins i).pcm with
  | none =>
    -- Without a PCM nothing is granted, and the status says so.
    exact Or.inl ⟨rfl, by simp [pcm]⟩
  | some handle =>
    refine Or.inr ?_
    by_cases empty : (w.ins i).framesIn = 0
    · refine Or.inr ?_
      by_cases taken : (outcomes reads).ret = 0
      · -- A whole period is read, and its right channel is dropped if it has one.
        refine Or.inr ⟨rfl, empty, taken, if (w.ins i).pcmConfig.channels = 2 then
          discardRight (w.ins i).pcmConfig.periodSize
            ((outcomes reads).store (w.ins i).bufferSize samples)
          else (outcomes reads).store (w.ins i).bufferSize samples,
          map_store_left (outcomes reads) feeds taken samples, ?_⟩
        by_cases stereo : (w.ins i).pcmConfig.channels = 2
        · simp [pcm, empty, taken, stereo, present]
        · simp [pcm, empty, taken, stereo, present]
      · -- A read that fails leaves the frames as they are counted.
        refine Or.inl ⟨rfl, empty, taken, ?_⟩
        simp [pcm, empty, taken, present]
    · -- Frames are left of an earlier period.
      exact Or.inl ⟨rfl, empty, by simp [empty]⟩

end Provider

section Consumer

/-- A call of the buffer provider, with what the read it may make comes to. -/
inductive ProviderCall where
  | getNextBuffer (frameCount : Nat) (outcome : PcmRead)
  | releaseBuffer (frameCount : Nat)

/-- What a consumer of the provider has seen of the stream. -/
structure Consumer where
  /-- The left channels of the periods that were read, one after the other. -/
  delivered : List Sample
  /-- The frames of the last grant that were not released yet, as read when they were granted. -/
  granted : List Sample
  released : List Sample

/-- A consumer that has not seen anything yet. -/
def Consumer.fresh : Consumer := ⟨[], [], []⟩

/-- A call is made on the stream, and no more frames are released than were granted. -/
def providerStep (i : Nat) : World ρ × Consumer → ProviderCall → Option (World ρ × Consumer)
  | (w, seen), .getNextBuffer frameCount outcome =>
    let result := (getNextBuffer i (fun _ => outcome) 0 frameCount).exec w
    -- A period was delivered if one was read, and reading it did not fail.
    let period := if result.1.2 = 1 ∧ outcome.ret = 0 then
        outcome.leftChannel (w.ins i).pcmConfig
      else []
    let granted := match result.1.1 with
      | none => []
      | some grant => ((readGrant i grant).exec result.2).1
    some (result.2, { seen with delivered := seen.delivered ++ period, granted := granted })
  | (w, seen), .releaseBuffer frameCount =>
    if frameCount ≤ seen.granted.length then
      some (((releaseBuffer i frameCount).exec w).2, { seen with
        granted := seen.granted.drop frameCount
        released := seen.released ++ seen.granted.take frameCount })
    else none

/-- What was delivered is what was released, followed by what is left in the buffer. -/
structure Agrees (i : Nat) (s : World ρ × Consumer) : Prop where
  feeds : (s.1.ins i).Feeds
  delivered : s.2.delivered = s.2.released ++ (s.1.ins i).unread
  granted : s.2.granted <+: (s.1.ins i).unread

/-- The frames that a grant is read as are the front of what is left. -/
theorem exec_readGrant_unread (i frameCount : Nat) {w : World ρ} (feeds : (w.ins i).Feeds) :
    ((readGrant i ((w.ins i).grant frameCount)).exec w).1 = (w.ins i).unread.take frameCount := by
  -- The samples are read from where the grant says.
  obtain ⟨samples, present⟩ := Option.isSome_iff_exists.mp feeds.armed.present
  rw [← map_grant feeds frameCount present]
  unfold readGrant
  rw [exec_getIn_bind, present]
  rfl

/-- With an empty buffer, everything that was delivered was released. -/
theorem StreamIn.unread_of_empty {in_ : StreamIn ρ} (empty : in_.framesIn = 0) :
    in_.unread = [] := by
  -- Without a buffer or without frames there is nothing.
  unfold StreamIn.unread
  split
  · rfl
  · rw [empty]
    rfl

/-- Serving the resampler keeps the stream and its consumer in agreement. -/
theorem agrees_getNextBuffer (i frameCount : Nat) (outcome : PcmRead) (s next : World ρ × Consumer)
    (agrees : Agrees i s)
    (stepped : providerStep i s (.getNextBuffer frameCount outcome) = some next) :
    Agrees i next := by
  obtain ⟨w, seen⟩ := s
  obtain ⟨feeds, delivered, granted⟩ := agrees
  dsimp only at feeds delivered granted
  obtain ⟨present, buffer⟩ := Option.isSome_iff_exists.mp feeds.armed.present
  -- The call ends in one of four ways, each with an amount delivered and one granted.
  have cases_ := getNextBuffer_cases i (fun _ => outcome) 0 frameCount feeds
  dsimp only at cases_
  unfold providerStep at stepped
  dsimp only at stepped
  generalize (getNextBuffer i (fun _ => outcome) 0 frameCount).exec w = result at cases_ stepped
  obtain ⟨⟨grant, reads⟩, after⟩ := result
  obtain rfl := Option.some.inj stepped
  dsimp only at cases_ ⊢
  rcases cases_ with ⟨_, is, own⟩ | ⟨_, _, is⟩ | ⟨_, empty, failed, is, samples, own⟩ |
    ⟨_, empty, taken, samples, left, own, is⟩
  · -- Nothing happens without a PCM.
    obtain ⟨rfl, rfl⟩ := Prod.mk.inj is
    refine ⟨?_, ?_, List.nil_prefix⟩
    · show (after.ins i).Feeds
      rw [own]
      exact ⟨⟨feeds.armed.present, feeds.armed.size, feeds.armed.channels, feeds.armed.framesIn,
        feeds.armed.period⟩, feeds.channels⟩
    · show seen.delivered ++ _ = seen.released ++ (after.ins i).unread
      rw [own, if_neg (by simp), List.append_nil]
      exact delivered
  · -- More of the same period is granted.
    obtain ⟨is, rfl⟩ := Prod.mk.inj is
    obtain ⟨rfl, rfl⟩ := Prod.mk.inj is
    refine ⟨feeds, ?_, ?_⟩
    · simpa using delivered
    · show ((readGrant i ((after.ins i).grant frameCount)).exec after).1 <+: _
      rw [exec_readGrant_unread i frameCount feeds]
      exact List.take_prefix _ _
  · -- A failed read delivers nothing, and nothing was left that it could have damaged.
    obtain ⟨rfl, rfl⟩ := Prod.mk.inj is
    rw [StreamIn.unread_of_empty empty] at delivered
    refine ⟨?_, ?_, List.nil_prefix⟩
    · show (after.ins i).Feeds
      rw [own]
      exact feeds.with _ samples feeds.armed.framesIn
    · show seen.delivered ++ _ = seen.released ++ (after.ins i).unread
      have nothing : (after.ins i).unread = [] :=
        StreamIn.unread_of_empty (by rw [own]; exact empty)
      rw [nothing, if_neg fun both => failed both.2, List.append_nil, delivered]
  · -- A new period is all that is left once it was read.
    have fresh : (after.ins i).Feeds := by
      rw [own]
      exact feeds.with 0 samples (Nat.le_refl _)
    have unread : (after.ins i).unread = outcome.leftChannel (w.ins i).pcmConfig := by
      rw [← left, own, StreamIn.unread_of_present rfl]
      dsimp only
      rw [Nat.sub_self]
      simp
    obtain ⟨rfl, rfl⟩ := Prod.mk.inj is
    rw [StreamIn.unread_of_empty empty, List.append_nil] at delivered
    -- Everything before it was released, so it stands behind what was delivered.
    refine ⟨fresh, ?_, ?_⟩
    · show seen.delivered ++ _ = seen.released ++ (after.ins i).unread
      rw [unread, if_pos ⟨rfl, taken⟩, delivered]
    · show ((readGrant i ((after.ins i).grant frameCount)).exec after).1 <+: _
      rw [exec_readGrant_unread i frameCount fresh]
      exact List.take_prefix _ _

/-- What is released is taken off the front of what is left. -/
theorem agrees_releaseBuffer (i frameCount : Nat) (s next : World ρ × Consumer)
    (agrees : Agrees i s) (stepped : providerStep i s (.releaseBuffer frameCount) = some next) :
    Agrees i next ∧ (next.1.ins i).framesIn + frameCount = (s.1.ins i).framesIn := by
  obtain ⟨w, seen⟩ := s
  obtain ⟨feeds, delivered, granted⟩ := agrees
  dsimp only at feeds delivered granted
  unfold providerStep at stepped
  dsimp only at stepped
  split at stepped
  · rename_i few
    obtain rfl := Option.some.inj stepped
    -- The consumer holds no more than is left, so the subtraction does not wrap around.
    have length := StreamIn.length_unread feeds.armed.present
    have held : frameCount ≤ (w.ins i).framesIn := by
      have shorter := granted.length_le
      omega
    have own := ins_releaseBuffer feeds held
    have unread := StreamIn.unread_release feeds held
    rw [← own] at unread
    refine ⟨⟨?_, ?_, ?_⟩, ?_⟩
    · show (((releaseBuffer i frameCount).exec w).2.ins i).Feeds
      rw [own]
      exact feeds.release frameCount
    · show seen.delivered = seen.released ++ seen.granted.take frameCount ++ _
      rw [unread, delivered, List.append_assoc]
      -- The consumer's copy of these frames is what the buffer has at its front.
      have front : seen.granted.take frameCount = (w.ins i).unread.take frameCount := by
        obtain ⟨rest, split⟩ := granted
        rw [← split, List.take_append_of_le_length few]
      rw [front, List.take_append_drop]
    · show seen.granted.drop frameCount <+: _
      rw [unread]
      exact List.IsPrefix.drop granted frameCount
    · show (((releaseBuffer i frameCount).exec w).2.ins i).framesIn + frameCount = _
      rw [own]
      exact Nat.sub_add_cancel held
  · cases stepped

/-- The frames left in the buffer count as delivered, and nothing was taken yet. -/
def Consumer.of (in_ : StreamIn ρ) : Consumer := ⟨in_.unread, [], []⟩

/-- Whatever calls are made, what was delivered is what was released and what is left. -/
theorem agrees_run (i : Nat) (w : World ρ) (calls : List ProviderCall)
    (final : World ρ × Consumer) (feeds : (w.ins i).Feeds)
    (ran : run (providerStep i) (w, .of (w.ins i)) calls = some final) : Agrees i final := by
  have start : Agrees i (w, .of (w.ins i)) := ⟨feeds, rfl, List.nil_prefix⟩
  -- Each kind of call keeps the two sequences together.
  refine run_invariant' (fun s call next agrees stepped => ?_) start ran
  cases call with
  | getNextBuffer frameCount outcome =>
    exact agrees_getNextBuffer i frameCount outcome s next agrees stepped
  | releaseBuffer frameCount => exact (agrees_releaseBuffer i frameCount s next agrees stepped).1

end Consumer

section ReadFrames

variable (R : ResamplerLib ρ) (i : Nat) (outcomes : Nat → PcmRead)

/-- A running stream that captures at the rate of its client, and has no error to report. -/
structure StreamIn.Direct (config : PcmConfig) (in_ : StreamIn ρ) : Prop where
  feeds : in_.Feeds
  configured : in_.pcmConfig = config
  period : 0 < config.periodSize
  pcm : in_.pcm.isSome
  resampler : in_.resampler = none
  status : in_.framesIn ≠ 0 → in_.readStatus = 0

/-- The left channels of the first periods that are read. -/
def periods (config : PcmConfig) (count : Nat) : List Sample :=
  (List.range count).flatMap fun n => (outcomes n).leftChannel config

/-- Samples stored behind others are read back behind them. -/
theorem map_storeAt_append (buffer : Samples) (offset : Nat) (data : List Sample) :
    (List.range (offset + data.length)).map (storeAt buffer offset data) =
      (List.range offset).map buffer ++ data := by
  rw [List.range_add, List.map_append, List.map_map]
  congr 1
  · -- What was stored before is not overwritten.
    refine List.map_congr_left fun n member => ?_
    have below : n < offset := List.mem_range.mp member
    unfold storeAt
    rw [if_neg (by omega)]
  · refine List.ext_getElem (by simp) fun n _ below => ?_
    simp [storeAt, below]

/-- What a round of the loop hands on, when no read fails. -/
theorem getNextBuffer_direct {w : World ρ} {config : PcmConfig}
    (direct : (w.ins i).Direct config) (taken : ∀ n, (outcomes n).ret = 0) (reads framesRd : Nat) :
    ∃ (reads' : Nat) (later : World ρ) (fresh : List Sample),
      (getNextBuffer i outcomes reads framesRd).exec w =
          ((some ((later.ins i).grant framesRd), reads'), later) ∧
        (later.ins i).Direct config ∧ (later.ins i).readStatus = 0 ∧
        0 < (later.ins i).framesIn ∧
        periods outcomes config reads' = periods outcomes config reads ++ fresh ∧
        (w.ins i).unread ++ fresh = (later.ins i).unread := by
  obtain ⟨feeds, rfl, period, pcm, resampler, status⟩ := direct
  -- Reads do not fail and there is a PCM, so two of the four ways are left.
  have cases_ := getNextBuffer_cases i outcomes reads framesRd feeds
  dsimp only at cases_
  generalize (getNextBuffer i outcomes reads framesRd).exec w = result at cases_ ⊢
  obtain ⟨⟨grant, reads'⟩, later⟩ := result
  dsimp only at cases_
  rcases cases_ with ⟨absent, _⟩ | ⟨_, some_, is⟩ | ⟨_, _, failed, _⟩ |
    ⟨_, empty, _, samples, left, own, is⟩
  · -- A running stream has a PCM.
    rw [absent] at pcm
    cases pcm
  · -- There are frames of an earlier period, so nothing is read.
    obtain ⟨is, rfl⟩ := Prod.mk.inj is
    obtain ⟨rfl, rfl⟩ := Prod.mk.inj is
    exact ⟨reads', later, [], rfl, ⟨feeds, rfl, period, pcm, resampler, status⟩, status some_,
      Nat.pos_of_ne_zero some_, (List.append_nil _).symm, List.append_nil _⟩
  · exact absurd (taken reads) failed
  · -- A period is read, and all of it is left.
    obtain ⟨rfl, rfl⟩ := Prod.mk.inj is
    refine ⟨reads + 1, later, (outcomes reads).leftChannel (w.ins i).pcmConfig, rfl, ?_, ?_, ?_,
      ?_, ?_⟩
    · rw [own]
      exact ⟨feeds.with 0 samples (Nat.le_refl _), rfl, period, pcm, resampler, fun _ => rfl⟩
    · rw [own]
    · rw [own]
      exact period
    · unfold periods
      rw [List.range_succ, List.flatMap_append, List.flatMap_singleton]
    · rw [StreamIn.unread_of_empty empty, List.nil_append, ← left, own,
        StreamIn.unread_of_present rfl]
      simp

/-- A round hands on at least one frame of those that are left or read next. -/
theorem readFramesRound_direct {w : World ρ} {config : PcmConfig}
    (direct : (w.ins i).Direct config) (taken : ∀ n, (outcomes n).ret = 0) (buffer : Samples)
    (framesWr framesRd reads : Nat) (wanted : 0 < framesRd) :
    ∃ (data : List Sample) (reads' : Nat) (later : World ρ) (fresh : List Sample),
      (readFramesRound R i outcomes buffer framesWr framesRd reads).exec w =
          ((storeAt buffer framesWr data, data.length, reads'), later) ∧
        0 < data.length ∧ data.length ≤ framesRd ∧ (later.ins i).Direct config ∧
        (later.ins i).readStatus = 0 ∧
        periods outcomes config reads' = periods outcomes config reads ++ fresh ∧
        (w.ins i).unread ++ fresh = data ++ (later.ins i).unread := by
  obtain ⟨reads', granted, fresh, got, ready, status, some_, more, unread⟩ :=
    getNextBuffer_direct i outcomes direct taken reads framesRd
  obtain ⟨count, same⟩ :=
    exec_readGrant i granted ((granted.ins i).grant framesRd) ready.feeds.armed
  have data := exec_readGrant_unread i framesRd ready.feeds
  rw [data] at count
  -- A grant is as long as was wanted, or as the buffer still is.
  have size : ((granted.ins i).grant framesRd).frameCount = min framesRd (granted.ins i).framesIn :=
    rfl
  have own := ins_releaseBuffer ready.feeds
    (show ((granted.ins i).grant framesRd).frameCount ≤ _ from Nat.min_le_right _ _)
  have rest := StreamIn.unread_release ready.feeds
    (show ((granted.ins i).grant framesRd).frameCount ≤ _ from Nat.min_le_right _ _)
  refine ⟨(granted.ins i).unread.take framesRd, reads',
    ((releaseBuffer i ((granted.ins i).grant framesRd).frameCount).exec granted).2, fresh, ?_,
    by omega, by omega, ?_, ?_, more, ?_⟩
  · -- The round copies what it was granted, and gives all of it back.
    unfold readFramesRound
    rw [exec_getIn_bind, direct.resampler]
    dsimp only
    rw [Prog.exec_bind, got]
    dsimp only
    rw [Prog.exec_bind, data, same, Prog.exec_bind, Prog.exec_pure, count]
  · rw [own]
    exact ⟨ready.feeds.release _, ready.configured, ready.period, ready.pcm, ready.resampler,
      fun _ => status⟩
  · rw [own]
    exact status
  · -- The frames copied and the frames left are those there were.
    rw [unread, own, rest, ← count, List.length_take, List.take_eq_take_min, List.take_append_drop]

/-- With fuel for the frames still wanted, the loop ends with as many as were asked for. -/
theorem readFrames_direct {config : PcmConfig} (taken : ∀ n, (outcomes n).ret = 0)
    (frames fuel : Nat) (stream : List Sample) :
    ∀ (framesWr reads : Nat) (buffer : Samples) (w : World ρ), (w.ins i).Direct config →
      framesWr ≤ frames → frames < framesWr + fuel →
      stream ++ periods outcomes config reads =
        (List.range framesWr).map buffer ++ (w.ins i).unread →
      ∃ (buffer' : Samples) (reads' : Nat) (final : World ρ),
        (readFrames R i outcomes frames fuel framesWr reads buffer).exec w =
            ((buffer', some (frames : Int)), final) ∧
          (final.ins i).Direct config ∧
          stream ++ periods outcomes config reads' =
            (List.range frames).map buffer' ++ (final.ins i).unread ∧
          ∀ n, frames ≤ n → buffer' n = buffer n := by
  -- What was handed on and what is left are, after each round, the stream as far as it was read.
  induction fuel with
  | zero =>
    intro framesWr reads buffer w _ most few
    omega
  | succ fuel ih =>
    intro framesWr reads buffer w direct most few split
    unfold readFrames
    by_cases wanted : framesWr < frames
    · obtain ⟨data, reads₁, later, fresh, round_, some_, within, ready, status, more, moved⟩ :=
        readFramesRound_direct R i outcomes direct taken buffer framesWr (frames - framesWr) reads
          (by omega)
      rw [if_pos wanted, Prog.exec_bind, round_, exec_getIn_bind, status, if_neg (by simp)]
      -- The copied frames come behind those that were there, and leave the front of what was left.
      have onward : stream ++ periods outcomes config reads₁ =
          (List.range (framesWr + data.length)).map (storeAt buffer framesWr data) ++
            (later.ins i).unread := by
        rw [more, ← List.append_assoc, split, map_storeAt_append, List.append_assoc, moved,
          List.append_assoc]
      obtain ⟨buffer', reads', final, exec_, done_, whole, beyond⟩ :=
        ih (framesWr + data.length) reads₁ _ later ready (by omega) (by omega) onward
      refine ⟨buffer', reads', final, exec_, done_, whole, fun n past => ?_⟩
      -- Nothing is stored behind the frames that were asked for.
      rw [beyond n past]
      unfold storeAt
      rw [if_neg (by omega)]
    · -- All frames were handed on.
      obtain rfl : framesWr = frames := by omega
      rw [if_neg wanted]
      exact ⟨buffer, reads, w, rfl, direct, split, fun _ _ => rfl⟩

end ReadFrames

/-- A running stream with a buffer feeds its consumer, in whatever state calls have left it. -/
theorem StreamIn.Fit.feeds {in_ : StreamIn ρ} (fit : in_.Fit) (running : in_.standby = false)
    (level : in_.Level) (present : in_.buffer.isSome) : in_.Feeds := by
  refine ⟨fit.armed running level present, ?_⟩
  obtain ⟨fast, home⟩ := fit.home
  rcases fit.config with own | sco
  · -- Both of the configurations off SCO are stereo.
    rw [own, home]
    unfold inDefaultConfig
    split
    · exact Or.inr rfl
    · exact Or.inr rfl
  · rw [sco]
    exact Or.inl rfl

/--
A capture stream hands out the left channels of the periods it has read, in order and once each.

The first part is about any sequence of calls of its buffer provider, failing reads among them; what
was delivered and not released is left in the buffer. The second one is about `read_frames` without
a resampler and without failing reads.
-/
theorem capture_integrity (R : ResamplerLib ρ) (i : Nat) (w : World ρ) (feeds : (w.ins i).Feeds) :
    (∀ calls final, run (providerStep i) (w, .of (w.ins i)) calls = some final →
      (final.1.ins i).framesIn ≤ (final.1.ins i).pcmConfig.periodSize ∧
        final.2.delivered = final.2.released ++ (final.1.ins i).unread ∧
        (∀ outcome frameCount grant,
          let result := (getNextBuffer i (fun _ => outcome) 0 frameCount).exec final.1
          result.1.1 = some grant → ((result.2.ins i).grantTouches grant).InBounds) ∧
        ∀ frameCount next, providerStep i final (.releaseBuffer frameCount) = some next →
          (next.1.ins i).framesIn + frameCount = (final.1.ins i).framesIn) ∧
      ∀ outcomes config, (w.ins i).Direct config → (∀ n, (outcomes n).ret = 0) →
        ∀ frames fuel buffer, frames < fuel → ∃ (buffer' : Samples) (reads : Nat) (final : World ρ),
          (readFrames R i outcomes frames fuel 0 0 buffer).exec w =
              ((buffer', some (frames : Int)), final) ∧
            (w.ins i).unread ++ periods outcomes config reads =
              (List.range frames).map buffer' ++ (final.ins i).unread ∧
            ∀ n, frames ≤ n → buffer' n = buffer n := by
  constructor
  · intro calls final ran
    have agrees := agrees_run i w calls final feeds ran
    refine ⟨agrees.feeds.armed.framesIn, agrees.delivered, ?_, ?_⟩
    · -- What is granted lies within the period, wherever that was read.
      intro outcome frameCount grant result is
      obtain ⟨armed, grants⟩ := armed_getNextBuffer i (fun _ => outcome) 0 frameCount final.1
        agrees.feeds.armed
      exact armed.grantTouches (grants grant is).1
    · intro frameCount next stepped
      exact (agrees_releaseBuffer i frameCount final next agrees stepped).2
  · intro outcomes config direct taken frames fuel buffer enough
    obtain ⟨buffer', reads, final, exec_, _, whole, beyond⟩ :=
      readFrames_direct R i outcomes taken frames fuel (w.ins i).unread 0 0 buffer w direct
        (Nat.zero_le _) (by omega) (by simp [periods])
    exact ⟨buffer', reads, final, exec_, whole, beyond⟩

/-- A stream is opened at the rate of the hardware, and started by a read of nothing. -/
def startsCapture : List Act :=
  [.openInputStream 0 true ⟨inSamplingRate, audioChannelInMono⟩ false,
    .inRead 0 .blank 0 (.silence true)]

/-- A request for a period and a half is met by two reads. -/
theorem capture_integrity_started : ∃ w : World (Nat × Nat),
    run (step .nearest) (.initial fun _ => none) startsCapture = some w ∧
      ∃ (buffer : Samples) (final : World (Nat × Nat)),
        (readFrames .nearest 0 (fun _ => ⟨0, 0, fun _ => 7⟩) 1536 1537 0 0 fun _ => 0).exec w =
          ((buffer, some ((1536 : Nat) : Int)), final) := by
  refine ⟨_, rfl, ?_⟩
  -- The read of nothing has started the stream, and given it its buffer.
  have fit := fit_run .nearest (fun _ => none) startsCapture _ rfl
  have feeds := (fit.ins 0).feeds rfl (Nat.zero_le _) rfl
  obtain ⟨buffer, _, final, exec_, _⟩ := (capture_integrity .nearest 0 _ feeds).2
    (fun _ => ⟨0, 0, fun _ => 7⟩) pcmConfigIn ⟨feeds, rfl, by decide, rfl, rfl, fun _ => rfl⟩
    (fun _ => rfl) 1536 1537 (fun _ => 0) (by decide)
  exact ⟨buffer, final, exec_⟩

end Grouper.Audio
