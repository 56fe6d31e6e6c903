import Grouper.Lib.Run
import Grouper.Lib.Prog
import Grouper.Lib.Threads
import Grouper.Audio.Mixer
import Grouper.Audio.Types
import Grouper.Audio.Streams
import Grouper.Audio.Capture
import Grouper.Audio.Playback
import Grouper.Audio.Device
import Grouper.Audio.LockDiscipline
import Grouper.Audio.Frames
import Grouper.Audio.Control
import Grouper.Audio.Refinement
import Grouper.Audio.ActiveStreams
import Grouper.Audio.RouteGroups
import Grouper.Audio.HandleSafety
import Grouper.Audio.Accounting
import Grouper.Audio.Twins
import Grouper.Audio.Mute
import Grouper.Keymaster.Blob
import Grouper.Keymaster.Operations
import Grouper.Keymaster.Token
import Grouper.Keymaster.SoftToken
import Grouper.Keymaster.Failure
import Grouper.Keymaster.Effects
import Grouper.Keymaster.Lifecycle
import Grouper.Keymaster.Acceptance
import Grouper.Keymaster.Balance
import Grouper.Keymaster.Partial
import Grouper.Keymaster.Retry
import Grouper.Keymaster.RoundTrip
import Grouper.Audio.Routing
import Grouper.Audio.MixerState
import Grouper.Audio.Upkeep
import Grouper.Audio.KernelFill
import Grouper.Audio.StartWhole
import Grouper.Audio.ScoPlayback
import Grouper.Lib.Ghost
import Grouper.Audio.CaptureAccess
import Grouper.Audio.CaptureBounds
import Grouper.Audio.CaptureRuns
import Grouper.Lib.Throttle
import Grouper.Power.HintThrottle
import Grouper.Lib.Mailbox
import Grouper.Lib.Slots
import Grouper.Power.Poker
import Grouper.Power.Descriptors
import Grouper.Power.PokerRuns
import Grouper.Lib.Decimal
import Grouper.Lib.Words
import Grouper.Power.Commands
import Grouper.Power.Boosts
import Grouper.Power.Continuity
import Grouper.Power.HandleRuns
import Grouper.Power.Sysfs
import Grouper.Power.Frequencies
import Grouper.Audio.ThrottleBound
import Grouper.Audio.WriteThreshold
import Grouper.Audio.CaptureStream
import Grouper.Audio.Position
import Grouper.Lib.FirstIndex
import Grouper.Power.InputDevices
import Grouper.Audio.Microphones
import Grouper.Lib.RoundUp
import Grouper.Audio.BufferSize
import Grouper.Audio.BackOff
import Grouper.Lib.Heap
import Grouper.Omx.Roles
import Grouper.Lib.Shell
import Grouper.Hwui.Script
import Grouper.Hwui.Display
import Grouper.Hwui.Parameters
import Grouper.Lib.Serial
import Grouper.Audio.Governed
import Grouper.Audio.Serial
import Grouper.Audio.Interleavings
import Grouper.Lib.Condition
import Grouper.Power.Barrier
import Grouper.Power.Handoff
import Grouper.Power.CallerView
import Grouper.Lib.Exponents
import Grouper.Keymaster.Signing
