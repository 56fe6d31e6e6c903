import Grouper.Lib.Shell

/-! The parameters of the renderer, which a script sets at boot time unless they are set. -/

namespace Grouper.Hwui

/-- The store of properties, some of which are unset. -/
abbrev Properties := List Char → Option (List Char)

/-- The value of a property, empty if it is unset. -/
def Properties.value (store : Properties) (name : List Char) : List Char := (store name).getD []

/-- The output of `getprop`, a lookup of its first argument. -/
def getprop (store : Properties) (arguments : List (List Char)) : List Char :=
  store.value (arguments.getD 0 []) ++ ['\n']

/-- `setprop`, which has no output. -/
def setprop (store : Properties) : List (List Char) → Properties
  | [name, value] => Function.update store name (some value)
  | _ => store

/-- The output of `property_get`. -/
def propertyGet (shell : Shell) (store : Properties) (arguments : List (List Char)) : List Char :=
  let value := substitute (getprop store (shell.expand defaultIfs (arguments.getD 0 [])))
  shell.echo (shell.expand defaultIfs value)

/-- `property_set`, whose output is a newline, so that no command takes its place. -/
def propertySet (shell : Shell) (store : Properties) (arguments : List (List Char)) : Properties :=
  setprop store (shell.expand defaultIfs (arguments.getD 0 []) ++
    shell.expand defaultIfs (arguments.getD 1 []))

/-- `property_set_if_none`. -/
def propertySetIfNone (shell : Shell) (store : Properties) (arguments : List (List Char)) :
    Properties :=
  let name := shell.expand defaultIfs (arguments.getD 0 [])
  let value := substitute (propertyGet shell store name)
  -- The operand of `-n` is not quoted.
  if shell.test (['-', 'n'] :: shell.expand defaultIfs value) ||
      shell.test [value, ['=', '='], []] then
    propertySet shell store (name ++ shell.expand defaultIfs (arguments.getD 1 []))
  else store

/-- The output of `get_total_system_memory`, by the contents of "/proc/meminfo". -/
def getTotalSystemMemory (shell : Shell) : Option (List Char) → List Char
  | some meminfo =>
    let meminfoStr := substitute meminfo
    let parameters := shell.set (shell.expand [' '] meminfoStr)
    shell.echo [parameters.getD 1 []]
  | none => shell.echo [['0']]

/-- The output of `get_default_display_pixel_count`, by the contents of
"/sys/class/graphics/fb0/modes". -/
def getDefaultDisplayPixelCount (shell : Shell) : Option (List Char) → List Char
  | some modes =>
    let modesStr := substitute modes
    let parameters := shell.set (shell.expand [' '] modesStr)
    let modesStr := parameters.getD 0 []
    let xres := removeLargestPrefix [.any, .char ':'] modesStr
    let xres := removeLargestSuffix [.char 'x', .any] xres
    let yres := removeLargestPrefix [.any, .char 'x'] modesStr
    let yres := removeSmallestSuffix [.char '-', .any] yres
    let yres := removeSmallestSuffix [.one] yres
    shell.echo (shell.expand [' '] (shell.times xres yres))
  | none => shell.echo [['0']]

/-- The name of a property and the value it is set to. -/
abbrev Setting := List Char × List Char

def setting (name value : String) : Setting := (name.toList, value.toList)

/-- The parameters that are chosen by the number of pixels, in order. -/
def sizeSettings (textureCacheSize layerCacheSize gradientCacheSize pathCacheSize shapeCacheSize
    dropShadowCacheSize textSmallCacheWidth textSmallCacheHeight textLargeCacheWidth
    textLargeCacheHeight : String) : List Setting :=
  [setting "ro.hwui.texture_cache_size" textureCacheSize,
    setting "ro.hwui.layer_cache_size" layerCacheSize,
    setting "ro.hwui.gradient_cache_size" gradientCacheSize,
    setting "ro.hwui.path_cache_size" pathCacheSize,
    setting "ro.hwui.shape_cache_size" shapeCacheSize,
    setting "ro.hwui.drop_shadow_cache_size" dropShadowCacheSize,
    setting "ro.hwui.text_small_cache_width" textSmallCacheWidth,
    setting "ro.hwui.text_small_cache_height" textSmallCacheHeight,
    setting "ro.hwui.text_large_cache_width" textLargeCacheWidth,
    setting "ro.hwui.text_large_cache_height" textLargeCacheHeight]

/-- Up to 1000000 pixels. -/
def firstSizes : List Setting :=
  sizeSettings "24.0" "16.0" "0.5" "8.0" "1.0" "2.0" "1024" "256" "2048" "512"

/-- Up to 3000000 pixels. -/
def secondSizes : List Setting :=
  sizeSettings "48.0" "32.0" "0.8" "24.0" "3.0" "4.0" "1024" "512" "2048" "1024"

/-- Up to 5000000 pixels. -/
def thirdSizes : List Setting :=
  sizeSettings "72.0" "48.0" "1.0" "40.0" "5.0" "6.0" "1024" "1024" "2048" "1024"

/-- For any more pixels. -/
def fourthSizes : List Setting :=
  sizeSettings "96.0" "64.0" "1.2" "60.0" "6.0" "8.0" "1024" "1024" "2048" "1024"

def flushrate (value : String) : Setting := setting "ro.hwui.texture_cache_flushrate" value

/-- What the script reads. -/
structure Files where
  meminfo : Option (List Char)
  fb0Modes : Option (List Char)

/-- The calls of `property_set_if_none` that the script comes to. -/
def chosenSettings (shell : Shell) (files : Files) : List Setting :=
  let pixelCount := substitute (getDefaultDisplayPixelCount shell files.fb0Modes)
  let totalSysMemsize := substitute (getTotalSystemMemory shell files.meminfo)
  let le (left : List Char) (right : String) := shell.test [left, ['-', 'l', 'e'], right.toList]
  let sizes :=
    if le pixelCount "1000000" then firstSizes
    else if le pixelCount "3000000" then secondSizes
    else if le pixelCount "5000000" then thirdSizes
    else fourthSizes
  sizes ++ [if le totalSysMemsize "1048576" then flushrate "0.6" else flushrate "0.4"]

/-- The whole of "set_hwui_params.sh". -/
def setHwuiParams (shell : Shell) (files : Files) (store : Properties) : Properties :=
  (chosenSettings shell files).foldl
    (fun store (name, value) => propertySetIfNone shell store [name, value]) store

end Grouper.Hwui
