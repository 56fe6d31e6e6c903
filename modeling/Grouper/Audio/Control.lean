import Grouper.Audio.Device

/-! The audio HAL without its samples: routes, active streams, and who holds which PCM handle. -/

namespace Grouper.Audio

open Function (update)

/-- The two directions: each has a route and one slot for its active stream. -/
inductive Dir where
  | playback
  | capture
  deriving DecidableEq, Repr

def Dir.other : Dir → Dir
  | playback => capture
  | capture => playback

/-- The two directions are not the same. -/
@[simp] theorem Dir.other_ne (d : Dir) : d.other ≠ d := by cases d <;> simp [other]

/-- Nor are they the other way round. -/
@[simp] theorem Dir.ne_other (d : Dir) : d ≠ d.other := (other_ne d).symm

/-- The devices of a direction that are reached over SCO. -/
def Dir.allSco : Dir → Devices
  | playback => audioDeviceOutAllSco
  | capture => audioDeviceInAllSco

def StreamRef.dir : StreamRef → Dir
  | output _ => .playback
  | input _ => .capture

/-- What a stream is to the rest of the HAL. -/
structure StreamCtl where
  isOpen : Bool
  standby : Bool
  pcm : Option Pcm
  config : PcmConfig
  /-- The configuration the stream starts with off the SCO route. -/
  home : PcmConfig

/-- What the HAL decides by: routes, slots, streams, and the calls made on handles. -/
@[ext] structure Ctl where
  device : Dir → Devices
  active : Dir → Option StreamRef
  stream : StreamRef → StreamCtl
  opened : Nat
  log : List (HandleEvent StreamRef Pcm)

namespace Ctl

/-- A direction is routed to SCO. -/
def sco (c : Ctl) (d : Dir) : Bool := c.device d &&& d.allSco ≠ 0

/-- The PCM a direction plays to or captures from. -/
def pcmDevice (c : Ctl) (d : Dir) : Nat := if c.sco d then pcmDeviceSco else Audio.pcmDevice

/-- The configuration a stream is started with. -/
def target (c : Ctl) (s : StreamRef) : PcmConfig :=
  if c.sco s.dir then pcmConfigSco else (c.stream s).home

/-- Change one stream. -/
def modify (c : Ctl) (s : StreamRef) (change : StreamCtl → StreamCtl) : Ctl :=
  { c with stream := update c.stream s (change (c.stream s)) }

/-- A running stream gives up its handle and empties the slot of its direction. -/
def stop (c : Ctl) (s : StreamRef) : Ctl :=
  if (c.stream s).standby then c else
    -- The slot is emptied without a look at who is in it.
    { c.modify s fun x => { x with pcm := none, standby := true } with
      active := update c.active s.dir none
      log := .closed (c.stream s).pcm :: c.log }

/-- The stream in the slot of the other direction is stopped if the rates do not go together. -/
def stopClashing (c : Ctl) (s : StreamRef) : Ctl :=
  match c.active s.dir.other with
  | none => c
  | some t => if rateClash (c.stream s).config.rate (c.stream t).config.rate then c.stop t else c

/-- What comes before a stream's `pcm_open`. -/
def prepare (c : Ctl) (s : StreamRef) : Ctl :=
  (c.modify s fun x => { x with config := c.target s }).stopClashing s

/-- The handle `pcm_open` returns to a stream. -/
def handle (c : Ctl) (s : StreamRef) : Pcm := ⟨c.opened, c.pcmDevice s.dir, (c.stream s).config⟩

/-- `pcm_open` succeeds, and the stream takes the slot of its direction. -/
def started (c : Ctl) (s : StreamRef) : Ctl :=
  { c.modify s fun x => { x with pcm := some (c.handle s) } with
    active := update c.active s.dir (some s)
    opened := c.opened + 1
    log := .used (some (c.handle s)) :: .opened s (c.handle s) :: c.log }

/-- `pcm_open` fails: the handle is closed, but the stream keeps it. -/
def startFailed (c : Ctl) (s : StreamRef) : Ctl :=
  { c.modify s fun x => { x with pcm := some (c.handle s) } with
    opened := c.opened + 1
    -- No slot is taken, and the stream stays in standby.
    log := .closed (some (c.handle s)) :: .used (some (c.handle s)) ::
      .opened s (c.handle s) :: c.log }

/-- A stream comes out of standby. -/
def wake (c : Ctl) (s : StreamRef) : Ctl := c.modify s fun x => { x with standby := false }

/-- A stream is served through its handle a number of times. -/
def serve (c : Ctl) (s : StreamRef) (uses : Nat) : Ctl :=
  { c with log := List.replicate uses (.used (c.stream s).pcm) ++ c.log }

/-- A stream writes or reads, starting first if it is in standby. -/
def transfer (c : Ctl) (s : StreamRef) (ready : Bool) (uses : Nat) : Ctl :=
  if (c.stream s).standby then
    if ready then (((c.prepare s).started s).wake s).serve s uses
    else (c.prepare s).startFailed s
  else c.serve s uses

/-- A direction is routed to other devices; the stream it is done through may be stopped. -/
def route (c : Ctl) (s : StreamRef) (devices : Devices) : Ctl :=
  if c.device s.dir ≠ devices ∧ devices ≠ 0 then
    -- The stream stops only if the direction changes between SCO and the main PCM.
    let c := if (devices &&& s.dir.allSco) ^^^ (c.device s.dir &&& s.dir.allSco) ≠ 0
      then c.stop s else c
    { c with device := update c.device s.dir devices }
  else c

end Ctl

/-- What a call does as far as control is concerned. -/
inductive CtlAct where
  | open_ (s : StreamRef) (config home : PcmConfig)
  | close (s : StreamRef)
  | stop (s : StreamRef)
  | transfer (s : StreamRef) (ready : Bool) (uses : Nat)
  | route (s : StreamRef) (devices : Devices)
  /-- The handle of a stream is used, whatever state the stream is in. -/
  | query (s : StreamRef)
  | idle

/-- Streams are opened at free addresses, and every other call is on an open stream. -/
def CtlAct.Allowed (c : Ctl) : CtlAct → Prop
  | .open_ s _ home => (c.stream s).isOpen = false ∧ home.rate = outSamplingRate
  | .close s | .stop s | .transfer s _ _ | .route s _ | .query s => (c.stream s).isOpen = true
  | .idle => True

/-- One call. -/
def Ctl.apply (c : Ctl) : CtlAct → Ctl
  | .open_ s config home => c.modify s fun _ => {
      isOpen := true
      standby := true
      pcm := none
      config := config
      home := home }
  -- A stream is stopped before it is closed.
  | .close s => (c.stop s).modify s fun x => { x with isOpen := false }
  | .stop s => c.stop s
  | .transfer s ready uses => c.transfer s ready uses
  | .route s devices => c.route s devices
  | .query s => c.serve s 1
  | .idle => c

namespace Ctl

section Laws

variable (c : Ctl) (s : StreamRef)

/-- A change of a stream's control leaves the devices alone. -/
@[simp] theorem modify_device (change : StreamCtl → StreamCtl) :
    (c.modify s change).device = c.device := rfl

/-- It leaves the active slots alone. -/
@[simp] theorem modify_active (change : StreamCtl → StreamCtl) :
    (c.modify s change).active = c.active := rfl

/-- It opens nothing. -/
@[simp] theorem modify_opened (change : StreamCtl → StreamCtl) :
    (c.modify s change).opened = c.opened := rfl

/-- And it is no event of the history. -/
@[simp] theorem modify_log (change : StreamCtl → StreamCtl) :
    (c.modify s change).log = c.log := rfl

/-- The stream that is changed is what it was changed to. -/
@[simp] theorem modify_stream_self (change : StreamCtl → StreamCtl) :
    (c.modify s change).stream s = change (c.stream s) := by simp [modify]

/-- Every other stream stays as it is. -/
@[simp] theorem modify_stream_of_ne {t : StreamRef} (apart : t ≠ s)
    (change : StreamCtl → StreamCtl) : (c.modify s change).stream t = c.stream t := by
  simp [modify, apart]

/-- Serving in two portions is serving once. -/
theorem serve_serve (uses more : Nat) :
    (c.serve s uses).serve s more = c.serve s (more + uses) := by
  simp [serve, ← List.replicate_append_replicate]

/-- Waking a stream and serving it may be swapped. -/
theorem wake_serve (uses : Nat) : (c.serve s uses).wake s = (c.wake s).serve s uses := by
  simp [serve, wake, modify]

/-- To be served no times is to be left alone. -/
@[simp] theorem serve_zero : c.serve s 0 = c := rfl

/-- Serving a stream does not change it. -/
@[simp] theorem serve_stream (uses : Nat) : (c.serve s uses).stream = c.stream := rfl

/-- Nor does it change the active slots. -/
@[simp] theorem serve_active (uses : Nat) : (c.serve s uses).active = c.active := rfl

/-- Nor the devices. -/
@[simp] theorem serve_device (uses : Nat) : (c.serve s uses).device = c.device := rfl

/-- Stopping a stream leaves the devices alone. -/
@[simp] theorem stop_device : (c.stop s).device = c.device := by
  unfold stop
  split <;> rfl

/-- It opens nothing. -/
@[simp] theorem stop_opened : (c.stop s).opened = c.opened := by
  unfold stop
  split <;> rfl

/-- A stream in standby is not stopped again. -/
theorem stop_of_standby (standby : (c.stream s).standby = true) : c.stop s = c := by
  simp [stop, standby]

/-- A stopped stream is in standby, and the others are what they were. -/
@[simp] theorem stop_stream_self : ((c.stop s).stream s).standby = true := by
  -- A stream is in standby already, or it is put there.
  unfold stop
  split
  · assumption
  · simp

/-- Every other stream goes on. -/
@[simp] theorem stop_stream_of_ne {t : StreamRef} (apart : t ≠ s) :
    (c.stop s).stream t = c.stream t := by
  -- What is stored for the one is not seen for the other.
  unfold stop
  split
  · rfl
  · simp [apart]

/-- A stream that is stopped stays open. -/
@[simp] theorem stop_isOpen (t : StreamRef) :
    ((c.stop s).stream t).isOpen = (c.stream t).isOpen := by
  by_cases same : t = s
  · -- Stopping does not close the stream, and leaves the others alone.
    subst same
    unfold stop
    split <;> simp
  · rw [stop_stream_of_ne c s same]

/-- Stopping reaches the slot of the stream's own direction only. -/
theorem stop_active_of_ne {d : Dir} (apart : d ≠ s.dir) : (c.stop s).active d = c.active d := by
  -- Only the slot of the stream's own direction is cleared.
  unfold stop
  split
  · rfl
  · simp [apart]

/-- A running stream that is stopped leaves the slot of its direction. -/
theorem stop_active_self (running : (c.stream s).standby = false) :
    (c.stop s).active s.dir = none := by
  simp [stop, running]

/-- Whatever stopping any stream preserves, stopping a clashing stream preserves. -/
theorem stopClashing_preserves (property : Ctl → Prop) (held : property c)
    (preserved : ∀ t, c.active s.dir.other = some t → property (c.stop t)) :
    property (c.stopClashing s) := by
  unfold stopClashing
  split
  · exact held
  · rename_i t slot
    split
    · -- Whether or not it clashes, the stream is the one in the slot.
      exact preserved t slot
    · exact held

/-- Stopping what clashes leaves the devices alone. -/
@[simp] theorem stopClashing_device : (c.stopClashing s).device = c.device := by
  -- There is no active stream of the other direction, or it may clash and be stopped.
  unfold stopClashing
  split
  · rfl
  · split <;> simp

/-- It opens nothing. -/
@[simp] theorem stopClashing_opened : (c.stopClashing s).opened = c.opened := by
  -- There is no active stream of the other direction, or it may clash and be stopped.
  unfold stopClashing
  split
  · rfl
  · split <;> simp

/-- What comes before the opening of a PCM leaves the devices alone. -/
@[simp] theorem prepare_device : (c.prepare s).device = c.device := by simp [prepare]

/-- And it opens nothing itself. -/
@[simp] theorem prepare_opened : (c.prepare s).opened = c.opened := by simp [prepare]

/-- The route decides on the PCM, and preparing a start leaves the route alone. -/
theorem prepare_pcmDevice (d : Dir) : (c.prepare s).pcmDevice d = c.pcmDevice d := by
  simp [pcmDevice, sco]

end Laws

end Ctl

end Grouper.Audio
