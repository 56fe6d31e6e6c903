import Grouper.Lib.FirstIndex
import Grouper.Power.Hints
import Grouper.Power.Sysfs

/-! The discovery of input devices by name, and the switching of those that were discovered. -/

namespace Grouper.Power

/-- `MAX_CHARS`. -/
def maxChars : Nat := 32

/-- The greatest index that an `int` holds. -/
def maxIndex : Nat := 2 ^ 31 - 1

/-- `struct input_dev_map`. -/
structure InputDevMap where
  devId : Int
  /-- The characters in front of the NUL. -/
  devName : List UInt8
  deriving DecidableEq, Repr

/-- The contents of "/sys/class/input/input%d/name", for the indices that are present. -/
abbrev InputNodes := Nat → Option (List UInt8)

/-- Whether `strncmp` returns zero. -/
def strncmpEqual (left right : List UInt8) (n : Nat) : Bool :=
  (cString left).take n = (cString right).take n

/-- The buffer `name`, once it was cleared and a node was read into it. -/
def nameBuffer (contents : List UInt8) : List UInt8 :=
  sysfsRead (.read contents) (List.replicate maxChars 0) maxChars

/-- The inner loop of `find_input_device_ids`: how often `count` goes up, and the map. -/
def matchEntries (i : Nat) (name : List UInt8) : List InputDevMap → Nat × List InputDevMap
  | [] => (0, [])
  | dev :: devs =>
    let (count, after) := matchEntries i name devs
    let status := -1 = dev.devId && strncmpEqual name dev.devName maxChars
    if status then (count + 1, { dev with devId := i } :: after) else (count, dev :: after)

/-- The outer loop, with the number of times that `i` can still be incremented. -/
def findFrom (nodes : InputNodes) (inputCnt remaining i count : Nat) (devs : List InputDevMap) :
    Option (List InputDevMap) :=
  match nodes i with
  -- The scan ends where an index is missing.
  | none => some devs
  | some contents =>
    match remaining with
    -- An increment beyond the range of an `int` has no meaning.
    | 0 => none
    | remaining + 1 =>
      let (more, devs) := matchEntries i (nameBuffer contents) devs
      if count + more = inputCnt then some devs
      else findFrom nodes inputCnt remaining (i + 1) (count + more) devs

/-- `find_input_device_ids`, which leaves the map behind. -/
def findInputDeviceIds (nodes : InputNodes) (inputDevs : List InputDevMap) :
    Option (List InputDevMap) :=
  findFrom nodes inputDevs.length maxIndex 0 0 inputDevs

/-- `input_devs` and `input_cnt`. -/
inductive InputDevices where
  /-- Without a map, `get_input_count` says how many devices there are. -/
  | counted (inputCnt : Nat)
  /-- `tegra3_power_init` takes the count from the map. -/
  | mapped (inputDevs : List InputDevMap)
  deriving DecidableEq, Repr

/-- `struct powerhal_info`, as far as `common_power_set_interactive` reads it. -/
structure InteractiveInfo extends PowerhalInfo where
  inputs : InputDevices

/-- The nodes of `sysfs` that `common_power_set_interactive` writes. -/
inductive SysfsNode where
  /-- "/sys/devices/system/cpu/cpu0/cpufreq/scaling_governor". -/
  | scalingGovernor
  /-- "/sys/devices/system/cpu/cpuquiet/tegra_cpuquiet/no_lp". -/
  | noLp
  /-- "/sys/class/input/input%d/enabled". -/
  | inputEnabled (devId : Int)
  /-- "/sys/devices/system/cpu/cpufreq/intelliactive/io_is_busy". -/
  | ioIsBusy
  /-- "/sys/devices/system/cpu/cpufreq/intelliactive/boostpulse". -/
  | boostpulse
  deriving DecidableEq, Repr

/-- The arguments of `sysfs_write`. -/
structure SysfsWrite where
  node : SysfsNode
  s : String
  deriving DecidableEq, Repr

def sysfsWriteInt (node : SysfsNode) (value : Int) : SysfsWrite := ⟨node, toString value⟩

/-- The device of an entry of the map, unless none was found. -/
def InputDevMap.device (dev : InputDevMap) : Option Int :=
  if -1 = dev.devId then none else some dev.devId

/-- The devices that the loop of `common_power_set_interactive` comes to. -/
def InputDevices.ids : InputDevices → List Int
  | .counted inputCnt => (List.range inputCnt).map Int.ofNat
  | .mapped inputDevs => inputDevs.filterMap InputDevMap.device

/-- Whatever `common_power_set_interactive` does, in order of its kind. -/
structure Interactive where
  writes : List SysfsWrite
  requests : List PmQosRequest
  deriving DecidableEq, Repr

/-- The text that switches a device. -/
def enabledState (on : Int) : String := if 0 = on then "0" else "1"

/-- `common_power_set_interactive`, where `access` tells the nodes of devices that are writable. -/
def commonPowerSetInteractive (access : Int → Bool) (pInfo : Option InteractiveInfo) (on : Int) :
    Interactive :=
  let lpState := if on ≠ 0 then "1" else "0"
  let gov := if on = 0 then "intelliactive" else "intelliactive"
  let devices := match pInfo with
    | none => []
    | some pInfo => (pInfo.inputs.ids.filter access).map fun devId =>
      ⟨.inputEnabled devId, enabledState on⟩
  let pulse := if on ≠ 0 then [sysfsWriteInt .ioIsBusy 1, sysfsWriteInt .boostpulse 1] else []
  let requests := match pInfo with
    | none => []
    | some pInfo =>
      if on ≠ 0 then boost pInfo.toPowerhalInfo defaultMaxOnlineCpus (s2ns 5) else []
  ⟨⟨.scalingGovernor, gov⟩ :: ⟨.noLp, lpState⟩ :: (devices ++ pulse), requests⟩

/-- A map as the power module has it before the devices are looked for. -/
structure DeviceMap where
  devs : List InputDevMap
  unset : ∀ dev ∈ devs, dev.devId = -1
  text : ∀ dev ∈ devs, 0 ∉ dev.devName
  short : ∀ dev ∈ devs, dev.devName.length < maxChars
  distinct : (devs.map InputDevMap.devName).Nodup

/-- The bytes of a text in ASCII. -/
def asciiText (text : String) : List UInt8 := text.toList.map fun c => UInt8.ofNat c.toNat

/-- `input_devs` of the power module, whose names end with the newline of the node. -/
def inputDevs : DeviceMap where
  devs := [⟨-1, asciiText "atmel-maxtouch\n"⟩, ⟨-1, asciiText "elan-touchscreen\n"⟩,
    ⟨-1, asciiText "ft5x0x_ts\n"⟩]
  unset := by decide
  text := by decide
  short := by decide
  distinct := by decide

/-- A device is present with some name. -/
def named (nodes : InputNodes) (name : List UInt8) (index : Nat) : Bool :=
  (nodes index).any fun contents => cString contents = name

/-- The indices of the devices that have the name of an entry. -/
def InputDevMap.candidates (nodes : InputNodes) (dev : InputDevMap) : Set Nat :=
  {index | named nodes dev.devName index = true}

/-- Each entry holds the least index with its name, or -1 if there is none. -/
structure Discovered (nodes : InputNodes) (devs found : List InputDevMap) : Prop where
  names : found.map InputDevMap.devName = devs.map InputDevMap.devName
  ids : ∀ dev ∈ found, (∃ index : Nat, dev.devId = index ∧ IsLeast (dev.candidates nodes) index) ∨
    dev.devId = -1 ∧ dev.candidates nodes = ∅

/-- The writes to "enabled" nodes are those to the writable nodes of present devices of the map,
each once. -/
def SwitchesExactly (nodes : InputNodes) (devs : List InputDevMap) (access : Int → Bool) (on : Int)
    (writes : List SysfsWrite) : Prop :=
  writes.Nodup ∧ ∀ (devId : Int) (s : String), ⟨.inputEnabled devId, s⟩ ∈ writes ↔
    s = enabledState on ∧ access devId = true ∧
      ∃ dev ∈ devs, ∃ index : Nat, devId = index ∧ IsLeast (dev.candidates nodes) index

section Names

variable {nodes : InputNodes} {contents name : List UInt8} {index : Nat}

/-- A node has a name when the name is all that its text says. -/
theorem named_iff : named nodes name index = true ↔
    ∃ contents, nodes index = some contents ∧ cString contents = name := by
  unfold named
  cases nodes index <;> simp

/-- A device with a name is present. -/
theorem present_of_named (has : named nodes name index = true) : nodes index ≠ none := by
  obtain ⟨contents, present, -⟩ := named_iff.mp has
  simp [present]

/-- A text without a NUL is read to its end. -/
theorem cString_of_text (text : 0 ∉ name) : cString name = name := by
  -- No character of it ends it.
  unfold cString
  apply List.takeWhile_eq_self_iff.mpr
  intro c member
  have other : c ≠ 0 := fun zero => text (zero ▸ member)
  simpa using other

/-- Zeros behind a text do not belong to it. -/
theorem cString_append_zeros (contents : List UInt8) (count : Nat) :
    cString (contents ++ List.replicate count 0) = cString contents := by
  unfold cString
  rw [List.takeWhile_append]
  split
  · rename_i whole
    -- The text fills all that was read, and the first zero behind it ends it.
    have zeros : (List.replicate count (0 : UInt8)).takeWhile (· ≠ 0) = [] := by
      cases count <;> simp [List.replicate_succ]
    rw [zeros, List.append_nil]
    exact ((List.takeWhile_prefix _).eq_of_length whole).symm
  · rfl

/-- The buffer holds the text of the node, as far as it reaches. -/
theorem take_cString_nameBuffer (contents : List UInt8) :
    (cString (nameBuffer contents)).take maxChars = (cString contents).take maxChars := by
  -- The buffer is zero behind what was read, so the cut is the only difference.
  have cleared : nameBuffer contents =
      contents.take maxChars ++ List.replicate (maxChars - (contents.take maxChars).length) 0 := by
    simp [nameBuffer, sysfsRead, overwrite]
  rw [cleared, cString_append_zeros]
  unfold cString
  rw [List.take_takeWhile, List.take_takeWhile, List.take_take, Nat.min_self]

/-- A text that is cut is too long for a short name. -/
theorem take_eq_iff {whole : List UInt8} {size : Nat} (short : name.length < size) :
    whole.take size = name ↔ whole = name := by
  constructor
  · intro same
    -- The length of the cut text says that nothing was cut.
    have length := congrArg List.length same
    rw [List.length_take] at length
    have fits : whole.length ≤ size := by omega
    rwa [List.take_of_length_le fits] at same
  · intro same
    rw [same, List.take_of_length_le (Nat.le_of_lt short)]

/-- The comparison tells names that fit into the buffer from all others. -/
theorem strncmpEqual_nameBuffer (text : 0 ∉ name) (short : name.length < maxChars) :
    strncmpEqual (nameBuffer contents) name maxChars = decide (cString contents = name) := by
  -- The name is shorter than the buffer, so the cut does not hurt.
  unfold strncmpEqual
  rw [take_cString_nameBuffer, cString_of_text text, List.take_of_length_le (Nat.le_of_lt short)]
  simp [take_eq_iff short]

end Names

/-- What the scan has made of an entry once it has passed the indices below a bound. -/
def InputDevMap.scanned (nodes : InputNodes) (bound : Nat) (dev : InputDevMap) : InputDevMap :=
  match firstBelow (named nodes dev.devName) bound with
  | none => dev
  | some index => { dev with devId := index }

/-- The entries that were found below a bound. -/
def foundBelow (nodes : InputNodes) (bound : Nat) (devs : List InputDevMap) : Nat :=
  devs.countP fun dev => (firstBelow (named nodes dev.devName) bound).isSome

section Scan

variable {nodes : InputNodes} {devs found : List InputDevMap} {contents : List UInt8}
  {remaining i : Nat}

/-- Scanning finds a number and keeps the name. -/
@[simp] theorem devName_scanned (nodes : InputNodes) (bound : Nat) (dev : InputDevMap) :
    (dev.scanned nodes bound).devName = dev.devName := by
  unfold InputDevMap.scanned
  split <;> rfl

/-- One more index changes an entry that has none yet, if it has its name. -/
theorem scanned_succ {dev : InputDevMap} (unset : dev.devId = -1) (nodes : InputNodes) (i : Nat) :
    let status := -1 = (dev.scanned nodes i).devId && named nodes dev.devName i
    dev.scanned nodes (i + 1) =
        (if status then { dev.scanned nodes i with devId := i } else dev.scanned nodes i) ∧
      (firstBelow (named nodes dev.devName) (i + 1)).isSome =
        ((firstBelow (named nodes dev.devName) i).isSome || status) ∧
      (status = true → firstBelow (named nodes dev.devName) i = none) := by
  unfold InputDevMap.scanned
  rw [firstBelow_succ]
  cases firstBelow (named nodes dev.devName) i with
  | some index =>
    -- An index is no -1, so an entry that was found keeps it.
    have other : ¬ (-1 : Int) = index := by omega
    simp [other]
  -- An entry without an index still has -1, so the name decides.
  | none => cases named nodes dev.devName i <;> simp [unset]

/-- The inner loop takes the scan one index further, and counts what it adds. -/
theorem matchEntries_scanned (present : nodes i = some contents)
    (unset : ∀ dev ∈ devs, dev.devId = -1) (text : ∀ dev ∈ devs, 0 ∉ dev.devName)
    (short : ∀ dev ∈ devs, dev.devName.length < maxChars) :
    (matchEntries i (nameBuffer contents) (devs.map (·.scanned nodes i))).2 =
        devs.map (·.scanned nodes (i + 1)) ∧
      foundBelow nodes i devs +
          (matchEntries i (nameBuffer contents) (devs.map (·.scanned nodes i))).1 =
        foundBelow nodes (i + 1) devs := by
  -- The induction is on the entries, each of which is looked at on its own.
  induction devs with
  | nil => exact ⟨rfl, rfl⟩
  | cons dev rest ih =>
    simp only [List.forall_mem_cons] at unset text short
    -- The other entries are independent of this one.
    obtain ⟨entries, count⟩ := ih unset.2 text.2 short.2
    have compared : strncmpEqual (nameBuffer contents) dev.devName maxChars =
        named nodes dev.devName i := by
      rw [strncmpEqual_nameBuffer text.1 short.1]
      simp [named, present]
    obtain ⟨entry, isSome, fresh⟩ := scanned_succ unset.1 nodes i
    simp only [foundBelow, List.map_cons, List.countP_cons, matchEntries, devName_scanned,
      compared, entry, isSome] at count ⊢
    by_cases status :
        (decide (-1 = (dev.scanned nodes i).devId) && named nodes dev.devName i) = true
    · -- The entry is counted now, and was not before.
      have new := fresh status
      simp only [status, new, if_true, entries, Option.isSome_none, Bool.false_eq_true, if_false,
        Bool.false_or, true_and]
      omega
    · rw [if_neg status, if_neg status, Bool.eq_false_iff.mpr status, Bool.or_false]
      refine ⟨congrArg _ entries, ?_⟩
      omega

/-- All entries were counted, precisely when each was found below the bound. -/
theorem foundBelow_eq_length {bound : Nat} : foundBelow nodes bound devs = devs.length ↔
    ∀ dev ∈ devs, firstBelow (named nodes dev.devName) bound ≠ none := by
  -- All are found when each is.
  unfold foundBelow
  rw [List.countP_eq_length]
  simp [Option.isSome_iff_ne_none]

end Scan

section Loop

variable {nodes : InputNodes} {map : DeviceMap} {found : List InputDevMap} {contents : List UInt8}
  {remaining i : Nat}

/-- The scan is where it may stop before it looks at an index. -/
def StopsAt (nodes : InputNodes) (map : DeviceMap) (last : Nat) : Prop :=
  nodes last = none ∨ ∀ dev ∈ map.devs, firstBelow (named nodes dev.devName) last ≠ none

/-- One round at an index that is present either ends the scan behind it or goes on there. -/
theorem findFrom_present (present : nodes i = some contents) :
    findFrom nodes map.devs.length (remaining + 1) i (foundBelow nodes i map.devs)
        (map.devs.map (·.scanned nodes i)) =
      if foundBelow nodes (i + 1) map.devs = map.devs.length then
        some (map.devs.map (·.scanned nodes (i + 1)))
      else findFrom nodes map.devs.length remaining (i + 1) (foundBelow nodes (i + 1) map.devs)
        (map.devs.map (·.scanned nodes (i + 1))) := by
  -- A node that is present is compared with every name that is not found yet.
  obtain ⟨entries, count⟩ := matchEntries_scanned present map.unset map.text map.short
  rw [findFrom, present]
  simp only [entries, count]

/-- A scan that ends has passed present indices only, and was where it may stop. -/
theorem findFrom_eq_some
    (ends : findFrom nodes map.devs.length remaining i (foundBelow nodes i map.devs)
      (map.devs.map (·.scanned nodes i)) = some found) :
    ∃ last, last ≤ i + remaining ∧ found = map.devs.map (·.scanned nodes last) ∧
      (∀ index, i ≤ index → index < last → nodes index ≠ none) ∧ StopsAt nodes map last := by
  -- The induction is on the increments that are left.
  induction remaining generalizing i with
  | zero =>
    cases present : nodes i with
    | none =>
      simp only [findFrom, present, Option.some.injEq] at ends
      exact ⟨i, by omega, ends.symm, fun index _ _ => by omega, .inl present⟩
    | some contents => simp [findFrom, present] at ends
  | succ remaining ih =>
    cases present : nodes i with
    | none =>
      -- The first exit: an index is missing.
      rw [findFrom, present] at ends
      exact ⟨i, by omega, (Option.some.inj ends).symm, fun index _ _ => by omega, .inl present⟩
    | some contents =>
      rw [findFrom_present present] at ends
      split at ends
      · -- The second exit: every entry was found.
        rename_i all
        refine ⟨i + 1, by omega, (Option.some.inj ends).symm, fun index from_ before => ?_,
          .inr (foundBelow_eq_length.mp all)⟩
        have here : index = i := by omega
        simp [here, present]
      · -- The scan goes on, and what it passes includes this index.
        obtain ⟨last, bound, same, passed, stops⟩ := ih ends
        refine ⟨last, by omega, same, fun index from_ before => ?_, stops⟩
        rcases Nat.eq_or_lt_of_le from_ with here | later
        · simp [← here, present]
        · exact passed index later before

/-- A scan ends if it comes to where it may stop while the index can be incremented. -/
theorem exists_findFrom (begun : i = 0 ∨ foundBelow nodes i map.devs ≠ map.devs.length)
    (room : 0 < i + remaining)
    (stops : (∃ index, i ≤ index ∧ index ≤ i + remaining ∧ nodes index = none) ∨
      foundBelow nodes (i + remaining) map.devs = map.devs.length) :
    ∃ found, findFrom nodes map.devs.length remaining i (foundBelow nodes i map.devs)
      (map.devs.map (·.scanned nodes i)) = some found := by
  induction remaining generalizing i with
  | zero =>
    cases present : nodes i with
    | none => exact ⟨_, by rw [findFrom, present]⟩
    | some contents =>
      -- Neither exit could be ahead: this index is present, and not all entries were found.
      rcases stops with ⟨index, from_, upTo, missing⟩ | all
      · have here : index = i := by omega
        simp [here, present] at missing
      · exact absurd all (begun.resolve_left (by omega))
  | succ remaining ih =>
    cases present : nodes i with
    | none => exact ⟨_, by rw [findFrom, present]⟩
    | some contents =>
      rw [findFrom_present present]
      split
      · exact ⟨_, rfl⟩
      · -- The scan goes on with one increment less, and where it may stop is still ahead.
        rename_i more
        apply ih (.inr more) (by omega)
        rcases stops with ⟨index, from_, upTo, missing⟩ | all
        · -- The missing index is ahead of the present one.
          have ahead : index ≠ i := by
            rintro rfl
            simp [present] at missing
          exact .inl ⟨index, by omega, by omega, missing⟩
        · exact .inr (by rwa [Nat.add_right_comm])

end Loop

section Switching

variable {nodes : InputNodes} {devs found : List InputDevMap}

/-- A device that was found has an index that is named by the entry. -/
theorem device_eq_some {dev : InputDevMap} {devId : Int}
    (ids : (∃ index : Nat, dev.devId = index ∧ IsLeast (dev.candidates nodes) index) ∨
      dev.devId = -1 ∧ dev.candidates nodes = ∅) :
    dev.device = some devId ↔
      ∃ index : Nat, devId = index ∧ IsLeast (dev.candidates nodes) index := by
  unfold InputDevMap.device
  -- An index that was noted is no -1.
  rcases ids with ⟨index, noted, least⟩ | ⟨noted, none_⟩
  · have found : ¬ (-1 : Int) = index := by omega
    simp only [noted, found, if_false, Option.some.injEq]
    constructor
    · intro same
      exact ⟨index, same.symm, least⟩
    · intro ⟨other, same, leastOther⟩
      -- There is one least index only.
      rw [same, least.unique leastOther]
  · simp [noted, none_, IsLeast]

/-- The maps before and after the discovery have the same names. -/
theorem Discovered.exists_iff (discovered : Discovered nodes devs found) (index : Nat) :
    (∃ dev ∈ found, IsLeast (dev.candidates nodes) index) ↔
      ∃ dev ∈ devs, IsLeast (dev.candidates nodes) index := by
  -- Whether there is a least index is a matter of the names alone.
  have byName : ∀ entries : List InputDevMap,
      (∃ dev ∈ entries, IsLeast (dev.candidates nodes) index) ↔
        ∃ name ∈ entries.map InputDevMap.devName,
          IsLeast {index | named nodes name index = true} index := by
    intro entries
    simp [InputDevMap.candidates]
  rw [byName, byName, discovered.names]

/-- No device is found for two entries. -/
theorem Discovered.nodup (discovered : Discovered nodes devs found)
    (distinct : (devs.map InputDevMap.devName).Nodup) :
    (found.filterMap InputDevMap.device).Nodup := by
  -- Entries of a map differ by their names.
  have names : found.Pairwise fun left right => left.devName ≠ right.devName := by
    rw [← discovered.names] at distinct
    exact List.pairwise_map.mp distinct
  apply List.pairwise_filterMap.mpr
  apply names.imp_of_mem
  intro left right leftIn rightIn other devId leftFound devId' rightFound same
  subst same
  obtain ⟨index, noted, least⟩ := (device_eq_some (discovered.ids left leftIn)).mp leftFound
  obtain ⟨index', noted', least'⟩ := (device_eq_some (discovered.ids right rightIn)).mp rightFound
  -- One device has one name.
  have same : index = index' := by omega
  obtain ⟨contents, present, leftName⟩ := named_iff.mp least.1
  obtain ⟨contents', present', rightName⟩ := named_iff.mp least'.1
  rw [← same, present, Option.some.injEq] at present'
  exact other (leftName.symm.trans (present' ▸ rightName))

/-- What was discovered is what is switched. -/
theorem switchesExactly_of_discovered (discovered : Discovered nodes devs found)
    (distinct : (devs.map InputDevMap.devName).Nodup) (access : Int → Bool) (on : Int)
    (info : PowerhalInfo) :
    SwitchesExactly nodes devs access on
      (commonPowerSetInteractive access (some ⟨info, .mapped found⟩) on).writes := by
  have once := discovered.nodup distinct
  constructor
  · -- The nodes differ, and each device is written once.
    have switched : ((found.filterMap InputDevMap.device).filter access).Nodup := once.filter _
    have devices : (((found.filterMap InputDevMap.device).filter access).map fun devId =>
        (⟨.inputEnabled devId, enabledState on⟩ : SysfsWrite)).Nodup := by
      apply switched.map
      intro left right same
      simpa using same
    by_cases off : on = 0
    · subst off
      simp [commonPowerSetInteractive, InputDevices.ids, devices]
    · -- The governor is told about the screen behind all devices.
      have behind : ∀ write ∈ ((found.filterMap InputDevMap.device).filter access).map fun devId =>
          (⟨.inputEnabled devId, enabledState on⟩ : SysfsWrite),
          ∃ devId, write = ⟨.inputEnabled devId, enabledState on⟩ := by
        intro write member
        obtain ⟨devId, -, same⟩ := List.mem_map.mp member
        exact ⟨devId, same.symm⟩
      simp only [commonPowerSetInteractive, InputDevices.ids, off, sysfsWriteInt, ne_eq,
        not_false_eq_true, if_true, List.nodup_cons, List.nodup_append, devices]
      grind
  · intro devId s
    -- Only the devices of the map have nodes of this kind.
    have among : (⟨.inputEnabled devId, s⟩ : SysfsWrite) ∈
          (commonPowerSetInteractive access (some ⟨info, .mapped found⟩) on).writes ↔
        s = enabledState on ∧ access devId = true ∧
          ∃ dev ∈ found, dev.device = some devId := by
      by_cases off : on = 0 <;>
        simp [commonPowerSetInteractive, InputDevices.ids, off, sysfsWriteInt] <;> grind
    have noted : (∃ dev ∈ found, dev.device = some devId) ↔
        ∃ index : Nat, devId = index ∧ ∃ dev ∈ found, IsLeast (dev.candidates nodes) index := by
      constructor
      · intro ⟨dev, member, switched⟩
        obtain ⟨index, same, least⟩ :=
          (device_eq_some (discovered.ids dev member)).mp switched
        exact ⟨index, same, dev, member, least⟩
      · intro ⟨index, same, dev, member, least⟩
        exact ⟨dev, member, (device_eq_some (discovered.ids dev member)).mpr ⟨index, same, least⟩⟩
    rw [among, noted]
    simp only [discovered.exists_iff]
    grind

end Switching

/-- The discovery ends with a complete map, and what is switched afterwards are its devices. -/
def DiscoversAll (nodes : InputNodes) (devs : List InputDevMap) : Prop :=
  ∃ found, findInputDeviceIds nodes devs = some found ∧ Discovered nodes devs found ∧
    ∀ (access : Int → Bool) (info : PowerhalInfo) (on : Int),
      SwitchesExactly nodes devs access on
        (commonPowerSetInteractive access (some ⟨info, .mapped found⟩) on).writes

/-- No index is missing in front of a device of the map, and the indices end while an `int` can
be incremented, or all devices come before. -/
structure Reaches (nodes : InputNodes) (devs : List InputDevMap) : Prop where
  gapless : ∀ dev ∈ devs, ∀ index, IsLeast (dev.candidates nodes) index →
    ∀ before < index, nodes before ≠ none
  ends : (∃ index ≤ maxIndex, nodes index = none) ∨
    ∀ dev ∈ devs, ∃ index < maxIndex, named nodes dev.devName index = true

section Discovery

variable {nodes : InputNodes} {map : DeviceMap} {found : List InputDevMap}

/-- The scan begins with the map as it is. -/
theorem findInputDeviceIds_eq (nodes : InputNodes) (map : DeviceMap) :
    findInputDeviceIds nodes map.devs =
      findFrom nodes map.devs.length maxIndex 0 (foundBelow nodes 0 map.devs)
        (map.devs.map (·.scanned nodes 0)) := by
  simp [findInputDeviceIds, foundBelow, InputDevMap.scanned]

/-- A scan that ends has passed present indices only, and was where it may stop. -/
theorem findInputDeviceIds_eq_some (ends : findInputDeviceIds nodes map.devs = some found) :
    ∃ last, last ≤ maxIndex ∧ found = map.devs.map (·.scanned nodes last) ∧
      (∀ index < last, nodes index ≠ none) ∧ StopsAt nodes map last := by
  -- The loop from index zero.
  rw [findInputDeviceIds_eq] at ends
  obtain ⟨last, bound, same, passed, stops⟩ := findFrom_eq_some ends
  exact ⟨last, by omega, same, fun index before => passed index (Nat.zero_le index) before, stops⟩

/-- The scan ends, precisely when there is an index at which it may. -/
theorem exists_findInputDeviceIds_iff : (∃ found, findInputDeviceIds nodes map.devs = some found) ↔
    (∃ index ≤ maxIndex, nodes index = none) ∨
      ∀ dev ∈ map.devs, ∃ index < maxIndex, named nodes dev.devName index = true := by
  -- The loop ends at the first gap, or when all are found, and else not in range.
  constructor
  · intro ⟨found, ends⟩
    obtain ⟨last, bound, -, -, missing | all⟩ := findInputDeviceIds_eq_some ends
    · exact .inl ⟨last, bound, missing⟩
    · refine .inr fun dev member => ?_
      obtain ⟨index, before, has⟩ := firstBelow_ne_none.mp (all dev member)
      exact ⟨index, by omega, has⟩
  · intro stops
    rw [findInputDeviceIds_eq]
    apply exists_findFrom (.inl rfl) (by decide)
    rcases stops with ⟨index, upTo, missing⟩ | all
    · exact .inl ⟨index, Nat.zero_le index, by omega, missing⟩
    · rw [Nat.zero_add]
      refine .inr (foundBelow_eq_length.mpr fun dev member => ?_)
      exact firstBelow_ne_none.mpr (all dev member)

/-- Where the scan stops, each entry has the least index of its name, if nothing is missing in
front of that. -/
theorem discovered_of_stopsAt {last : Nat} (stops : StopsAt nodes map last)
    (gapless : ∀ dev ∈ map.devs, ∀ index, IsLeast (dev.candidates nodes) index →
      ∀ before < index, nodes before ≠ none) :
    Discovered nodes map.devs (map.devs.map (·.scanned nodes last)) := by
  constructor
  · simp
  · intro dev member
    obtain ⟨entry, among, rfl⟩ := List.mem_map.mp member
    unfold InputDevMap.candidates
    rw [devName_scanned]
    unfold InputDevMap.scanned
    cases below : firstBelow (named nodes entry.devName) last with
    | some index => exact .inl ⟨index, rfl, (firstBelow_eq_some.mp below).2⟩
    | none =>
      refine .inr ⟨map.unset entry among, Set.eq_empty_of_forall_notMem fun index has => ?_⟩
      -- The least index with the name is not below, so the scan stopped at a missing index.
      obtain ⟨least, isLeast⟩ := exists_isLeast has
      have missing : nodes last = none := stops.resolve_right fun all => all entry among below
      have beyond : last ≤ least := by
        by_contra before
        have fails := firstBelow_eq_none.mp below least (by omega)
        simp [show named nodes entry.devName least = true from isLeast.1] at fails
      rcases Nat.eq_or_lt_of_le beyond with here | after
      · exact absurd (here ▸ missing) (present_of_named isLeast.1)
      · exact absurd missing (gapless entry among least isLeast last after)

/-- The map is complete and its devices are switched, precisely when no index is missing in front
of a device and the scan ends in time. -/
theorem discoversAll_iff (nodes : InputNodes) (map : DeviceMap) :
    DiscoversAll nodes map.devs ↔ Reaches nodes map.devs := by
  constructor
  · intro ⟨found, ends, discovered, _⟩
    refine ⟨fun dev member index least before smaller => ?_,
      exists_findInputDeviceIds_iff.mp ⟨found, ends⟩⟩
    -- The entry of the device holds its index, so the scan has passed all smaller ones.
    obtain ⟨last, -, rfl, passed, -⟩ := findInputDeviceIds_eq_some ends
    apply passed
    rcases discovered.ids _ (List.mem_map_of_mem member) with ⟨other, noted, isLeast⟩ | ⟨-, empty⟩
    · unfold InputDevMap.candidates at isLeast least
      rw [devName_scanned] at isLeast
      have same : other = index := isLeast.unique least
      unfold InputDevMap.scanned at noted
      cases below : firstBelow (named nodes dev.devName) last with
      | none =>
        simp only [below, map.unset dev member] at noted
        omega
      | some scanned =>
        simp only [below] at noted
        have bound := (firstBelow_eq_some.mp below).1
        omega
    · have has : index ∈ (dev.scanned nodes last).candidates nodes := by
        unfold InputDevMap.candidates
        rw [devName_scanned]
        exact least.1
      rw [empty] at has
      cases has
  · intro reaches
    obtain ⟨found, ends⟩ := exists_findInputDeviceIds_iff.mpr reaches.ends
    obtain ⟨last, -, rfl, -, stops⟩ := findInputDeviceIds_eq_some ends
    have discovered := discovered_of_stopsAt stops reaches.gapless
    exact ⟨_, ends, discovered, fun access info on =>
      switchesExactly_of_discovered discovered map.distinct access on info⟩

/-- The touchscreen is the only device, and its index is 1. -/
def onlySecond : InputNodes := fun index =>
  if index = 1 then some (asciiText "elan-touchscreen\n") else none

/-- The touchscreen is not found behind an index that is missing. -/
theorem not_discoversAll_onlySecond : ¬ DiscoversAll onlySecond inputDevs.devs := by
  intro ⟨found, ends, discovered, _⟩
  have unchanged : findInputDeviceIds onlySecond inputDevs.devs = some inputDevs.devs := by rfl
  rw [unchanged, Option.some.injEq] at ends
  subst ends
  -- Its entry holds -1, and its name is there.
  have member : ⟨-1, asciiText "elan-touchscreen\n"⟩ ∈ inputDevs.devs := by simp [inputDevs]
  rcases discovered.ids _ member with ⟨index, noted, -⟩ | ⟨-, empty⟩
  · simp only at noted
    omega
  · have has : 1 ∈ InputDevMap.candidates onlySecond ⟨-1, asciiText "elan-touchscreen\n"⟩ := by
      change named onlySecond (asciiText "elan-touchscreen\n") 1 = true
      decide
    rw [empty] at has
    cases has

/-- Devices without a gap are found in any order. -/
example : findInputDeviceIds
    (fun index => [asciiText "gpio-keys\n", asciiText "elan-touchscreen\n"][index]?)
    inputDevs.devs = some [⟨-1, asciiText "atmel-maxtouch\n"⟩, ⟨1, asciiText "elan-touchscreen\n"⟩,
      ⟨-1, asciiText "ft5x0x_ts\n"⟩] := by decide

end Discovery

end Grouper.Power
