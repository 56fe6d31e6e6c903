import Mathlib.Algebra.Group.Nat.Defs
import Mathlib.Logic.Function.Basic

/-! Power hints: the clock they are throttled by, and the boosts they ask for. -/

namespace Grouper.Power

open Function (update)

/-- A reading of `CLOCK_MONOTONIC`. -/
structure Timespec where
  tvSec : Nat
  tvNsec : Nat
  /-- `clock_gettime` carries whole seconds over. -/
  carried : tvNsec < 1000000000

/-- The whole microseconds of a reading, as a number without a width. -/
def Timespec.micros (ts : Timespec) : Nat := ts.tvSec * 1000000 + ts.tvNsec / 1000

/-- One reading is not after another. -/
def Timespec.le (earlier later : Timespec) : Bool :=
  decide (earlier.tvSec < later.tvSec ∨
    earlier.tvSec = later.tvSec ∧ earlier.tvNsec ≤ later.tvNsec)

/-- A `long` of 32 bits with some value modulo 2^32, converted to `uint64_t` by its sign. -/
def longToUint64 (value : Nat) : Nat :=
  if value % 2 ^ 32 < 2 ^ 31 then value % 2 ^ 32 else value % 2 ^ 32 + (2 ^ 64 - 2 ^ 32)

/-- The clock of `check_hint`, where `time_t` and `long` have 32 bits. -/
def clockMicros (ts : Timespec) : Nat := longToUint64 ts.micros

/-- Subtraction of `uint64_t`. -/
def sub64 (left right : Nat) : Nat := (left + (2 ^ 64 - right)) % 2 ^ 64

def maxPowerHintCount : Nat := 12

/-- Hints are numbered as in `hardware/power.h`. -/
def powerHintVsync : Nat := 1
def powerHintInteraction : Nat := 2
def powerHintLaunch : Nat := 8

def defaultMinOnlineCpus : Int := 2
def defaultMaxOnlineCpus : Int := 4

/-- `struct powerhal_info`, as far as hints are concerned. -/
structure PowerhalInfo where
  maxFrequency : Int
  /-- The clock when a hint was last accepted, in microseconds, or zero. -/
  hintTime : Nat → Nat
  hintInterval : Nat → Nat

/-- The arguments of `requestPmQosTimed`, with its timeout in nanoseconds. -/
structure PmQosRequest where
  filename : String
  val : Int
  timeout : Nat
  deriving DecidableEq, Repr

def ms2ns (milliseconds : Nat) : Nat := milliseconds * 1000000

def s2ns (seconds : Nat) : Nat := seconds * 1000000000

/-- `check_hint` on what the clock shows: the time to note for an accepted hint. -/
def checkHint (info : PowerhalInfo) (hint time : Nat) : Option Nat :=
  if maxPowerHintCount ≤ hint then none
  -- A note of zero stands for a hint that never came, and an interval of zero for no limit.
  else if info.hintTime hint ≠ 0 ∧ info.hintInterval hint ≠ 0 ∧
      sub64 time (info.hintTime hint) < info.hintInterval hint then none
  else some time

/-- The requests of one boost: the frequency, and the number of processors. -/
def boost (info : PowerhalInfo) (onlineCpus : Int) (timeout : Nat) : List PmQosRequest :=
  [⟨"/dev/cpu_freq_min", info.maxFrequency, timeout⟩, ⟨"/dev/min_online_cpus", onlineCpus, timeout⟩]

/-- What an accepted hint asks for. A hint to synchronise does so only with data. -/
def hintRequests (info : PowerhalInfo) (hint : Nat) (data : Bool) : List PmQosRequest :=
  if hint = powerHintVsync then
    if data then boost info defaultMaxOnlineCpus (ms2ns 100) else []
  else if hint = powerHintInteraction then boost info defaultMinOnlineCpus (ms2ns 100)
  else if hint = powerHintLaunch then boost info defaultMaxOnlineCpus (s2ns 2)
  else []

/-- `common_power_hint` on what the clock shows: the hint is noted whatever it asks for. -/
def commonPowerHint (info : PowerhalInfo) (hint : Nat) (data : Bool) (time : Nat) :
    PowerhalInfo × List PmQosRequest :=
  match checkHint info hint time with
  -- A rejected hint leaves the notes alone, and asks for nothing.
  | none => (info, [])
  | some t => ({ info with hintTime := update info.hintTime hint t }, hintRequests info hint data)

/-- The intervals `common_power_open` sets, in microseconds. -/
def PowerhalInfo.setHintIntervals (info : PowerhalInfo) : PowerhalInfo :=
  { info with
    -- The kinds without an interval keep the zero of the memory they were allocated in.
    hintInterval := update (update (update info.hintInterval powerHintVsync 100000)
      powerHintInteraction 100000) powerHintLaunch 2000000 }

/-- The memory `calloc` returns, once `common_power_open` has found the highest frequency. -/
def PowerhalInfo.opened (maxFrequency : Int) : PowerhalInfo :=
  PowerhalInfo.setHintIntervals ⟨maxFrequency, fun _ => 0, fun _ => 0⟩

end Grouper.Power
