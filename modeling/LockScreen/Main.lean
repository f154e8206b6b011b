import LockScreen.Graphics.Software
import LockScreen.Image.Png
import LockScreen.Keyboard.Table
import LockScreen.Pattern
import LockScreen.Session
import LockScreen.Toml.Document

namespace LockScreen.Main

open LockScreen.Graphics LockScreen.Session

/-- What stands under a path. A directory can be opened, and is refused only when it is read. -/
def inspect (path : String) : IO FileContent := do
  if path.toList.contains '\x00' then return .unnameable
  try
    let bytes ← IO.FS.readBinFile path
    return .regular bytes.toList
  catch
    | .inappropriateType none _ _ => return .directory
    | .inappropriateType (some _) _ _ => return .obstructed
    | .invalidArgument _ _ _ => return .overlong
    | _ => return .missing

def inspectAll (paths : List String) : IO (List (String × FileContent)) :=
  paths.mapM fun path => do return (path, ← inspect path)

def tree (seen : List (String × FileContent)) : FileTree := fun path =>
  (seen.lookup path).getD .missing

def configPaths : IO (List String) := do
  let named ← IO.getEnv "LOCKBRIDGE_CONFIG"
  let configured ← IO.getEnv "XDG_CONFIG_HOME"
  let home ← IO.getEnv "HOME"
  return Settings.places named (Settings.userDirectory configured home)

def touched (settings : Settings) (options : Options) : List String :=
  let snapshot :=
    match options.snapshot with
    | some path => [path, FileTree.parent path]
    | none => []
  settings.output.assetPath :: snapshot

def survey (options : Options) : IO (Surroundings Software) := do
  let places ← configPaths
  let seen ← inspectAll (options.config.toList ++ places)
  let around : Surroundings Software :=
    { files := tree seen
      toml := Toml.parse
      configPaths := places
      logSpecification := ← IO.getEnv "RUST_LOG"
      graphics := .ok (Software.device, .new [])
      keymap := none }
  match around.settings options with
  | .error _ => return around
  | .ok settings =>
    let more ← inspectAll (touched settings options)
    return { around with files := tree (seen ++ more) }

def surroundings (arguments : List String) : IO (Surroundings Software) :=
  match Request.ofArguments arguments with
  | .ok (.run options) => survey options
  | _ => survey .default

def write (written : Written) : IO Unit :=
  IO.FS.writeBinFile written.path ((written.image.map Image.encode).getD ByteArray.empty)

end LockScreen.Main

def main (arguments : List String) : IO UInt32 := do
  let around ← LockScreen.Main.surroundings arguments
  let outcome := LockScreen.Session.run (.ofTables []) LockScreen.Pattern.library around arguments
  outcome.output.forM IO.println
  match outcome.written with
  | some written => LockScreen.Main.write written
  | none => pure ()
  outcome.printed.forM IO.eprintln
  return UInt32.ofNat outcome.code
