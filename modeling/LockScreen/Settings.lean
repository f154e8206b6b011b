import LockScreen.Color
import LockScreen.FileTree
import LockScreen.Log
import LockScreen.Repeat
import LockScreen.Toml.Decode

/-!
The settings of the program, and where they come from: the first configuration file that is there,
or built-in values. A file with a fault stands for the built-in values; the next one is not tried.
-/

namespace LockScreen

open LockScreen.Toml

namespace Settings

structure Output where
  width : UInt32
  height : UInt32
  assetPath : String
  /-- Upper bound of one wait of the render loop, in ms. -/
  pollSlice : UInt64
  clearColor : String
deriving DecidableEq, Repr

/-- Key repeat, in ms, until the producer sends its own. -/
structure KeyRepeat where
  delay : Int
  rate : Int
deriving DecidableEq, Repr

end Settings

structure Settings where
  output : Settings.Output
  keyRepeat : Settings.KeyRepeat
  logLevel : String
deriving DecidableEq, Repr

namespace Settings

def Output.default : Output := ⟨1280, 720, "", 16, "#1e1e2e"⟩

def KeyRepeat.default : KeyRepeat := ⟨400, 30⟩

def default : Settings := ⟨.default, .default, "warn"⟩

def KeyRepeat.timing? (keyRepeat : KeyRepeat) : Option Repeat.Timing :=
  if 0 < keyRepeat.rate then some ⟨keyRepeat.rate, keyRepeat.delay⟩ else none

def background (settings : Settings) : Color :=
  .parse settings.output.clearColor

def word32 (item : Item) : Option UInt32 :=
  (item.nat? 4294967295).map UInt32.ofNat

def word64 (item : Item) : Option UInt64 :=
  (item.nat? 18446744073709551615).map UInt64.ofNat

def signed32 (item : Item) : Option Int :=
  item.integer? (-2147483648) 2147483647

def Output.ofItem (item : Item) : Option Output := do
  let fields ← Fields.ofItem item
  let width ← fields.field 0 "width" Output.default.width word32
  let height ← fields.field 1 "height" Output.default.height word32
  let assetPath ← fields.field 2 "asset_path" Output.default.assetPath Item.text?
  let pollSlice ← fields.field 3 "poll_slice_ms" Output.default.pollSlice word64
  let clearColor ← fields.field 4 "clear_color" Output.default.clearColor Item.text?
  return { width, height, assetPath, pollSlice, clearColor }

def KeyRepeat.ofItem (item : Item) : Option KeyRepeat := do
  let fields ← Fields.ofItem item
  let delay ← fields.field 0 "repeat_delay" KeyRepeat.default.delay signed32
  let rate ← fields.field 1 "repeat_rate" KeyRepeat.default.rate signed32
  return { delay, rate }

def logLevelOfItem (item : Item) : Option String := do
  let fields ← Fields.ofItem item
  fields.field 0 "level" default.logLevel Item.text?

def ofEntries (entries : Entries) : Option Settings := do
  let fields := Fields.named entries
  let output ← fields.field 0 "render" Output.default Output.ofItem
  let keyRepeat ← fields.field 1 "keyboard" KeyRepeat.default KeyRepeat.ofItem
  let logLevel ← fields.field 2 "log" default.logLevel logLevelOfItem
  return { output, keyRepeat, logLevel }

def parse (toml : Library) (document : String) : Option Settings :=
  (toml document).bind ofEntries

def ofFile (toml : Library) (path : String) (content : FileContent) : Except Report Settings :=
  match content.readText with
  | .error cause => .error ⟨s!"Failed to read config file: {path}", [cause]⟩
  | .ok document =>
    match parse toml document with
    | some settings => .ok settings
    | none => .error ⟨s!"Failed to parse config file: {path}", ["TOML parse error"]⟩

/-- Where a configuration file may be: where the environment says, in the directory of the user, and
in that of the system. -/
def places (named userDirectory : Option String) : List String :=
  named.toList ++ (userDirectory.map (· ++ "/lockbridge/config.toml")).toList ++
    ["/etc/lockbridge/config.toml"]

/-- The directory of a user, given what the environment says. A relative one does not count. -/
def userDirectory (configured home : Option String) : Option String :=
  match configured.filter fun path => path.startsWith "/" with
  | some path => some path
  | none => home.map (· ++ "/.config")

def logTarget : String := "lockbridge::config"

def firstThere (files : FileTree) : List String → Option String
  | [] => none
  | path :: rest => if (files path).isThere then some path else firstThere files rest

def search (toml : Library) (files : FileTree) (paths : List String) : Settings × List Log.Line :=
  let builtIn : Log.Line := ⟨.info, logTarget, "Using built-in default config"⟩
  match firstThere files paths with
  | none => (default, [builtIn])
  | some path =>
    match ofFile toml path (files path) with
    | .ok settings => (settings, [⟨.info, logTarget, s!"Loaded config: {path}"⟩])
    | .error fault =>
      (default, [⟨.warn, logTarget, s!"Failed to load config {path}: {fault.chain}"⟩, builtIn])

end Settings

end LockScreen
