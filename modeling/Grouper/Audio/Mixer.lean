import Mathlib.Logic.Function.Basic

/-! The mixer settings of the codec and the paths that `mixer_paths.xml` defines over them. -/

namespace Grouper.Audio

/-- The value of each mixer control, by the control's name. -/
abbrev Settings := String → Option String

/-- The named paths of `mixer_paths.xml`. -/
inductive MixerPath where
  | speaker
  | headphone
  | dock
  | mainMicTop
  | mainMicLeft
  | headsetMic
  deriving DecidableEq, Repr

/-- The controls a path sets, in the order of the file. -/
def MixerPath.ctls : MixerPath → List (String × String)
  | speaker => [("Speaker Playback Switch", "1"), ("Int Spk Switch", "1"),
      ("DAC IF1 SWITCH", "swap")]
  | headphone => [("HP Playback Switch", "1"), ("Headphone Jack Switch", "1"),
      ("DAC IF1 SWITCH", "Normal")]
  | dock => [("AUX Switch", "1"), ("OUT Playback Switch", "1"), ("OUT Channel Switch", "1")]
  | mainMicTop => [("Int Mic Switch", "1"), ("DMIC Switch", "DMIC1"),
      ("ADC IF1 SWITCH", "right copy to left")]
  | mainMicLeft => [("Int Mic Switch", "1"), ("DMIC Switch", "DMIC1"),
      ("ADC IF1 SWITCH", "left copy to right")]
  | headsetMic => [("Mic Jack Switch", "1")]

/-- The settings at the top of the file, made once when the card is opened. -/
def initialCtls : List (String × String) :=
  [("Speaker Playback Switch", "0"), ("Int Spk Switch", "0"), ("HP Playback Switch", "0"),
    ("Headphone Jack Switch", "0"), ("AUX Switch", "0"), ("OUT Playback Switch", "0"),
    ("OUT Channel Switch", "0"), ("OUT Playback Volume", "32"),
    ("LOUT MIX DAC L1 Switch", "0"), ("LOUT MIX DAC R1 Switch", "0"),
    ("LOUT MIX OUTVOL L Switch", "1"), ("LOUT MIX OUTVOL R Switch", "1"),
    ("Int Mic Switch", "0"), ("Mic Jack Switch", "0"), ("DMIC Switch", "Disable"),
    ("ADC Capture Volume", "119")]

/-- Settings overridden by a list of controls, later entries winning. -/
def Settings.override (settings : Settings) (ctls : List (String × String)) : Settings :=
  ctls.foldl (fun current ctl => Function.update current ctl.1 (some ctl.2)) settings

/-- A handle of the audio_route library: its initial, its staged, and the mixer's own settings. -/
structure AudioRoute where
  initial : Settings
  staged : Settings
  mixer : Settings

namespace AudioRoute

/-- `audio_route_init` over what the hardware had: the file's settings become current. -/
def init (hardware : Settings) : AudioRoute :=
  let initial := hardware.override initialCtls
  ⟨initial, initial, initial⟩

/-- `audio_route_reset` goes back to the initial settings, without touching the mixer yet. -/
def reset (ar : AudioRoute) : AudioRoute := { ar with staged := ar.initial }

/-- `audio_route_apply_path` stages the controls of one path. -/
def applyPath (ar : AudioRoute) (path : MixerPath) : AudioRoute :=
  { ar with staged := ar.staged.override path.ctls }

/-- `audio_route_update_mixer` makes the staged settings current. -/
def updateMixer (ar : AudioRoute) : AudioRoute := { ar with mixer := ar.staged }

end AudioRoute

end Grouper.Audio
