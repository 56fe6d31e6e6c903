import Grouper.Hwui.Display
import Mathlib.Data.List.Nodup

/-! The parameters after a run of the script, and the values that it overwrites. -/

namespace Grouper.Hwui

/-- The parameters for a display with so many pixels and a memory of so many kB. -/
def settings (pixels memory : Int) : List Setting :=
  let sizes :=
    if pixels ≤ 1000000 then firstSizes
    else if pixels ≤ 3000000 then secondSizes
    else if pixels ≤ 5000000 then thirdSizes
    else fourthSizes
  sizes ++ [if memory ≤ 1048576 then flushrate "0.6" else flushrate "0.4"]

/-- The script chooses by the pixels it counts, and by the memory in the width of the shell. -/
theorem chosenSettings_eq (shell : Shell) (display : Display) (meminfo : Meminfo) :
    chosenSettings shell ⟨some meminfo.contents, some display.contents⟩ =
      settings display.counted (shell.integer meminfo.total) := by
  -- The script compares numerals, and the right ones are small enough to be read.
  have compared : ∀ (left right : Nat) (text : String), text.toList = numeral right →
      right < 2 ^ 31 → shell.test [numeral left, ['-', 'l', 'e'], text.toList] =
        decide (shell.integer left ≤ right) := by
    intro left right text same small
    rw [same, shell.test_le, shell.integer_of_small right small]
  have first := compared display.counted 1000000 "1000000" (by rfl) (by omega)
  have second := compared display.counted 3000000 "3000000" (by rfl) (by omega)
  have third := compared display.counted 5000000 "5000000" (by rfl) (by omega)
  have memory := compared meminfo.total 1048576 "1048576" (by rfl) (by omega)
  rw [shell.integer_of_small _ (counted_lt display)] at first second third
  simp only [chosenSettings, settings, pixelCount_eq, totalSysMemsize_eq, first, second, third,
    memory, decide_eq_true_eq, Int.cast_ofNat_Int]

/-- The names of the parameters. -/
def parameterNames : List (List Char) :=
  ["ro.hwui.texture_cache_size", "ro.hwui.layer_cache_size", "ro.hwui.gradient_cache_size",
    "ro.hwui.path_cache_size", "ro.hwui.shape_cache_size", "ro.hwui.drop_shadow_cache_size",
    "ro.hwui.text_small_cache_width", "ro.hwui.text_small_cache_height",
    "ro.hwui.text_large_cache_width", "ro.hwui.text_large_cache_height",
    "ro.hwui.texture_cache_flushrate"].map String.toList

/-- Whether `property_set_if_none` sets a property that has some value. -/
def overwrites (shell : Shell) (value : List Char) : Bool :=
  let seen := substitute (shell.echo (shell.expand defaultIfs (substitute value)))
  shell.test (['-', 'n'] :: shell.expand defaultIfs seen) || shell.test [seen, ['=', '='], []]

section Properties

variable {shell : Shell} {store : Properties} {name value : List Char} {s : Setting}
  {chosen : List Setting}

/-- The second test adds nothing to the first one, which succeeds for no value as well. -/
theorem overwrites_eq (shell : Shell) (value : List Char) :
    overwrites shell value = shell.test (['-', 'n'] :: shell.expand defaultIfs
      (substitute (shell.echo (shell.expand defaultIfs (substitute value))))) := by
  unfold overwrites
  dsimp only
  generalize substitute (shell.echo (shell.expand defaultIfs (substitute value))) = seen
  cases seen with
  | nil =>
    -- Without a word behind it, `-n` is a text that is not empty.
    simp [shell.test_one]
  | cons c rest => simp [shell.test_equal]

/-- An empty value is overwritten. -/
theorem overwrites_nil (shell : Shell) : overwrites shell [] = true := by
  have newline : substitute ['\n'] = [] := by decide
  simp [overwrites_eq, shell.echo_nil, shell.test_one, newline]

/-- So is every value of one word, because the word is not empty. -/
theorem overwrites_of_plain (plain : Plain value) : overwrites shell value = true := by
  -- The text between the quotes is one word, which is not empty.
  rw [overwrites_eq, plain.substitute_eq, substitute_echo_plain shell plain (List.Subset.refl _),
    expand_plain shell plain (List.Subset.refl _), shell.test_nonempty]
  simp [plain.1]

/-- Setting a parameter is seen under its name only. -/
@[simp] theorem value_update (store : Properties) (name value other : List Char) :
    Properties.value (Function.update store name (some value)) other =
      if other = name then value else store.value other := by
  -- Under its name the new value is found, and under another the old one.
  unfold Properties.value
  rw [Function.update_apply]
  split <;> rfl

/-- Names and values of one word reach the commands as they are. -/
theorem propertySetIfNone_eq (plainName : Plain name) (plainValue : Plain value) :
    propertySetIfNone shell store [name, value] =
      if overwrites shell (store.value name) then Function.update store name (some value)
      else store := by
  -- Name and value are one word each, so they arrive as they are.
  have nameWord := expand_plain shell plainName (List.Subset.refl _)
  have valueWord := expand_plain shell plainValue (List.Subset.refl _)
  unfold propertySetIfNone propertyGet propertySet getprop setprop overwrites
  simp [nameWord, valueWord]

/-- Only the properties that are named change, and each by what it was before. -/
theorem value_foldl (plain : ∀ s ∈ chosen, Plain s.1 ∧ Plain s.2)
    (distinct : (chosen.map Prod.fst).Nodup) (store : Properties) :
    let after := chosen.foldl
      (fun store (name, value) => propertySetIfNone shell store [name, value]) store
    (∀ name ∉ chosen.map Prod.fst, after.value name = store.value name) ∧
      ∀ s ∈ chosen, after.value s.1 =
        if overwrites shell (store.value s.1) then s.2 else store.value s.1 := by
  -- The induction is on the calls, of which the first changes no other property.
  induction chosen generalizing store with
  | nil => simp
  | cons first rest ih =>
    obtain ⟨name, value⟩ := first
    simp only [List.map_cons, List.nodup_cons, List.forall_mem_cons] at plain distinct
    obtain ⟨frame, written⟩ := ih plain.2 distinct.2
      (propertySetIfNone shell store [name, value])
    have step : propertySetIfNone shell store [name, value] = _ :=
      propertySetIfNone_eq plain.1.1 plain.1.2
    have others : ∀ other, other ≠ name →
        (propertySetIfNone shell store [name, value]).value other = store.value other := by
      intro other differs
      rw [step]
      split
      · rw [value_update, if_neg differs]
      · rfl
    rw [List.foldl_cons]
    constructor
    · intro other notNamed
      simp only [List.map_cons, List.mem_cons, not_or] at notNamed
      rw [frame other notNamed.2, others other notNamed.1]
    · intro s member
      rcases List.mem_cons.mp member with rfl | member
      · -- It is not named again.
        rw [frame _ distinct.1, step]
        split
        · simp
        · rfl
      · have differs : s.1 ≠ name := fun same =>
          distinct.1 (same ▸ List.mem_map_of_mem member)
        rw [written s member, others _ differs]

end Properties

section Settings

variable {pixels memory : Int} {s : Setting}

/-- The properties of the renderer. -/
abbrev IsHwui (name : List Char) : Prop := "ro.hwui.".toList <+: name

/-- What is chosen is one of the lists of sizes, and one of the two rates. -/
theorem settings_cases (pixels memory : Int) :
    ∃ sizes ∈ [firstSizes, secondSizes, thirdSizes, fourthSizes],
      ∃ rate ∈ ["0.6", "0.4"], settings pixels memory = sizes ++ [flushrate rate] := by
  unfold settings
  -- The memory decides about the rate, and the pixels about the sizes.
  by_cases small : memory ≤ 1048576
  · refine ⟨_, ?_, "0.6", by simp, by rw [if_pos small]⟩
    split_ifs <;> simp
  · refine ⟨_, ?_, "0.4", by simp, by rw [if_neg small]⟩
    split_ifs <;> simp

/-- A table of sizes names all parameters in their order. -/
theorem map_fst_sizeSettings (a b c d e f g h i j rate : String) :
    (sizeSettings a b c d e f g h i j ++ [flushrate rate]).map Prod.fst = parameterNames := by
  rfl

/-- The names are the same whatever is chosen. -/
theorem map_fst_settings (pixels memory : Int) :
    (settings pixels memory).map Prod.fst = parameterNames := by
  -- All four lists have the same names in the same order.
  obtain ⟨sizes, among, rate, -, same⟩ := settings_cases pixels memory
  rw [same]
  simp only [List.mem_cons, List.not_mem_nil, or_false] at among
  rcases among with rfl | rfl | rfl | rfl <;> exact map_fst_sizeSettings ..

/-- A setting is of one of the parameters. -/
theorem mem_parameterNames (member : s ∈ settings pixels memory) : s.1 ∈ parameterNames := by
  rw [← map_fst_settings pixels memory]
  exact List.mem_map_of_mem member

/-- No parameter is set twice. -/
theorem nodup_settings (pixels memory : Int) :
    ((settings pixels memory).map Prod.fst).Nodup := by
  rw [map_fst_settings]
  decide

/-- All names and values are single words. -/
theorem plain_of_mem_settings (member : s ∈ settings pixels memory) :
    Plain s.1 ∧ Plain s.2 := by
  -- There are finitely many names and values, whatever is counted.
  have names : ∀ name ∈ parameterNames, Plain name := by decide
  have values : ∀ value ∈ ([firstSizes, secondSizes, thirdSizes, fourthSizes].flatten ++
      ["0.6", "0.4"].map flushrate).map Prod.snd, Plain value := by decide
  refine ⟨names _ (mem_parameterNames member), ?_⟩
  obtain ⟨sizes, among, rate, either, same⟩ := settings_cases pixels memory
  rw [same] at member
  apply values
  apply List.mem_map_of_mem
  rcases List.mem_append.mp member with ofSizes | ofRate
  · exact List.mem_append_left _ (List.mem_flatten.mpr ⟨sizes, among, ofSizes⟩)
  · rw [List.mem_singleton.mp ofRate]
    exact List.mem_append_right _ (List.mem_map_of_mem either)

/-- All names are names of properties of the renderer. -/
theorem isHwui_of_mem_settings (member : s ∈ settings pixels memory) : IsHwui s.1 := by
  have names : ∀ name ∈ parameterNames, "ro.hwui.".toList <+: name := by decide
  exact names _ (mem_parameterNames member)

/-- Each parameter is chosen for any display and memory. -/
theorem exists_mem_settings (member : s ∈ settings pixels memory) (pixels' memory' : Int) :
    ∃ value, (s.1, value) ∈ settings pixels' memory' := by
  -- All tables have the same names.
  have named : s.1 ∈ (settings pixels' memory').map Prod.fst := by
    rw [map_fst_settings]
    exact mem_parameterNames member
  simpa using named

end Settings

/-- No property of the renderer that has a value is changed, and those of the parameters that
have none get theirs. -/
structure SetsIfNone (expected : List Setting) (store after : Properties) : Prop where
  kept : ∀ name, IsHwui name → store.value name ≠ [] → after.value name = store.value name
  set : ∀ s ∈ expected, store.value s.1 = [] → after.value s.1 = s.2

/-- What is counted makes no difference to the parameters that have no value, and those that have
one are not overwritten, or have the same value already. -/
structure Spares (shell : Shell) (display : Display) (meminfo : Meminfo) (store : Properties) :
    Prop where
  unset : ∀ s ∈ settings display.counted (shell.integer meminfo.total), store.value s.1 = [] →
    s ∈ settings (display.width * display.height : Nat) meminfo.total
  present : ∀ s ∈ settings display.counted (shell.integer meminfo.total), store.value s.1 ≠ [] →
    overwrites shell (store.value s.1) = true → store.value s.1 = s.2

section Runs

variable (shell : Shell) (display : Display) (meminfo : Meminfo) (store : Properties)

/-- The script changes the parameters only. -/
theorem value_setHwuiParams_of_notMem {name : List Char}
    (other : name ∉ parameterNames) :
    (setHwuiParams shell ⟨some meminfo.contents, some display.contents⟩ store).value name =
      store.value name := by
  -- The script sets the names of its table and no others.
  unfold setHwuiParams
  rw [chosenSettings_eq]
  apply (value_foldl (fun s => plain_of_mem_settings) (nodup_settings _ _) store).1
  rwa [map_fst_settings]

/-- A parameter gets what is chosen for it, if the value it has is overwritten. -/
theorem value_setHwuiParams {s : Setting}
    (chosen : s ∈ settings display.counted (shell.integer meminfo.total)) :
    (setHwuiParams shell ⟨some meminfo.contents, some display.contents⟩ store).value s.1 =
      if overwrites shell (store.value s.1) then s.2 else store.value s.1 := by
  -- The settings are made one after the other, each under its own name.
  unfold setHwuiParams
  rw [chosenSettings_eq]
  exact (value_foldl (fun s => plain_of_mem_settings) (nodup_settings _ _) store).2 s chosen

/-- A script that does so has not overwritten anything with another value. -/
theorem spares_of_setsIfNone
    (sets : SetsIfNone (settings (display.width * display.height : Nat) meminfo.total) store
      (setHwuiParams shell ⟨some meminfo.contents, some display.contents⟩ store)) :
    Spares shell display meminfo store := by
  constructor
  · intro s chosen none_
    obtain ⟨value, expected⟩ := exists_mem_settings chosen
      (display.width * display.height : Nat) meminfo.total
    have written := value_setHwuiParams shell display meminfo store chosen
    rw [none_, overwrites_nil, if_pos rfl] at written
    -- The value that was written is the one that is expected under the same name.
    have same : s = (s.1, value) := Prod.ext rfl (written.symm.trans (sets.set _ expected none_))
    rw [same]
    exact expected
  · intro s chosen some_ overwritten
    have written := value_setHwuiParams shell display meminfo store chosen
    rw [overwritten, if_pos rfl, sets.kept _ (isHwui_of_mem_settings chosen) some_] at written
    exact written

/-- If the script spares what is set, it sets what is not. -/
theorem setsIfNone_of_spares (spares : Spares shell display meminfo store) :
    SetsIfNone (settings (display.width * display.height : Nat) meminfo.total) store
      (setHwuiParams shell ⟨some meminfo.contents, some display.contents⟩ store) := by
  constructor
  · intro name _ some_
    -- Other properties of the renderer are not touched, whatever they hold.
    by_cases named : name ∈ parameterNames
    · rw [← map_fst_settings display.counted (shell.integer meminfo.total)] at named
      obtain ⟨s, chosen, rfl⟩ := List.mem_map.mp named
      rw [value_setHwuiParams shell display meminfo store chosen]
      split
      · rename_i overwritten
        exact (spares.present s chosen some_ overwritten).symm
      · rfl
    · exact value_setHwuiParams_of_notMem shell display meminfo store named
  · intro s expected none_
    obtain ⟨value, chosen⟩ := exists_mem_settings expected display.counted
      (shell.integer meminfo.total)
    -- There is one parameter of a name only, so this is what was chosen.
    have among := spares.unset _ chosen none_
    have same := List.inj_on_of_nodup_map (nodup_settings _ _) among expected rfl
    have written := value_setHwuiParams shell display meminfo store chosen
    dsimp only at written
    rw [none_, overwrites_nil, if_pos rfl] at written
    rw [written, ← same]

/-- The script sets what has no value and keeps the rest, precisely when what it counts makes no
difference and what it overwrites is the same already. -/
theorem setsIfNone_iff :
    SetsIfNone (settings (display.width * display.height : Nat) meminfo.total) store
        (setHwuiParams shell ⟨some meminfo.contents, some display.contents⟩ store) ↔
      Spares shell display meminfo store :=
  ⟨spares_of_setsIfNone shell display meminfo store,
    setsIfNone_of_spares shell display meminfo store⟩

/-- Where no parameter has a value yet, all are set by the resolution and the memory. -/
theorem setsIfNone_of_unset (unset : ∀ name ∈ parameterNames, store.value name = [])
    (scan : (lookedAt display.first display.others).scan.char ≠ 'x')
    (small : meminfo.total < 2 ^ 31) :
    SetsIfNone (settings (display.width * display.height : Nat) meminfo.total) store
      (setHwuiParams shell ⟨some meminfo.contents, some display.contents⟩ store) := by
  -- No parameter is set, so none can be overwritten.
  have counted : display.counted = display.width * display.height := if_neg scan
  apply setsIfNone_of_spares
  constructor
  · intro s chosen _
    rwa [counted, shell.integer_of_small _ small] at chosen
  · intro s chosen some_
    exact absurd (unset _ (mem_parameterNames chosen)) some_

/-- A value of one word does not survive, whatever it is. -/
theorem value_setHwuiParams_of_plain {s : Setting} (plain : Plain (store.value s.1))
    (chosen : s ∈ settings display.counted (shell.integer meminfo.total)) :
    (setHwuiParams shell ⟨some meminfo.contents, some display.contents⟩ store).value s.1 = s.2 := by
  rw [value_setHwuiParams shell display meminfo store chosen, overwrites_of_plain plain,
    if_pos rfl]

end Runs

/-- A display with one mode, of 800 by 1280 pixels. -/
def panel : Display where
  width := 800
  height := 1280
  bounded := by decide
  first := ⟨⟨'U', by decide⟩, ⟨'p', by decide⟩, 60⟩
  others := []
  ending := ['\n']
  blank := by simp

/-- A memory of a bit less than 1 GB. -/
def smallMemory : Meminfo := ⟨998340, 8, []⟩

/-- A build that has set the size of the texture cache. -/
def preset : Properties := fun name =>
  if name = "ro.hwui.texture_cache_size".toList then some "72.0".toList else none

/-- The size that the build has set is overwritten. -/
theorem not_setsIfNone_preset :
    ¬ SetsIfNone (settings (panel.width * panel.height : Nat) smallMemory.total) preset
      (setHwuiParams .bare ⟨some smallMemory.contents, some panel.contents⟩ preset) := by
  intro ⟨kept, _⟩
  have value : preset.value "ro.hwui.texture_cache_size".toList = "72.0".toList := by decide
  have before := kept "ro.hwui.texture_cache_size".toList (by decide) (by decide)
  -- By the resolution the size is 48.
  have chosen : setting "ro.hwui.texture_cache_size" "48.0" ∈
      settings panel.counted (Shell.bare.integer smallMemory.total) := by decide
  have plain : Plain (preset.value (setting "ro.hwui.texture_cache_size" "48.0").1) := by decide
  have after := value_setHwuiParams_of_plain .bare panel smallMemory preset plain chosen
  rw [value] at before
  exact absurd (before.symm.trans after) (by decide)

end Grouper.Hwui
