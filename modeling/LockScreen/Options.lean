import LockScreen.Report
import LockScreen.Text.Numeral

namespace LockScreen

open LockScreen.Text

structure Options where
  config : Option String
  frames : Nat
  snapshot : Option String
deriving DecidableEq, Repr

inductive UsageError where
  | missingValue (option : String)
  | unknownArgument (argument : String)
  | badFrameCount (value : String) (fault : Numeral.Fault)
deriving DecidableEq, Repr

def UsageError.report : UsageError → Report
  | .missingValue option => .ofMessage s!"{option} requires a value"
  | .unknownArgument argument => .ofMessage s!"Unknown argument: {argument} (see --help)"
  | .badFrameCount value fault => ⟨s!"Invalid frame count: {value}", [fault.message]⟩

inductive OptionName where
  | config
  | frames
  | snapshot
deriving DecidableEq, Repr

def OptionName.ofArgument? (argument : String) : Option OptionName :=
  if argument = "--config" ∨ argument = "-c" then some .config
  else if argument = "--frames" ∨ argument = "-n" then some .frames
  else if argument = "--snapshot" ∨ argument = "-s" then some .snapshot
  else none

namespace Options

def default : Options := ⟨none, 1, none⟩

/-- Frame counts from here on are refused. -/
def frameLimit : Nat := 18446744073709551616

def set (options : Options) (name : OptionName) (value : String) : Except UsageError Options :=
  match name with
  | .config => .ok { options with config := some value }
  | .snapshot => .ok { options with snapshot := some value }
  | .frames =>
    match Numeral.unsigned 10 frameLimit value.toList with
    | .ok frames => .ok { options with frames }
    | .error fault => .error (.badFrameCount value fault)

def setAll : List String → Options → Except UsageError Options
  | [], options => .ok options
  | argument :: rest, options =>
    match OptionName.ofArgument? argument with
    | none => .error (.unknownArgument argument)
    | some name =>
      match rest with
      | [] => .error (.missingValue argument)
      | value :: rest =>
        match options.set name value with
        | .error fault => .error fault
        | .ok options => setAll rest options

def ofArguments (arguments : List String) : Except UsageError Options :=
  setAll arguments default

end Options

inductive Request where
  | help
  | version
  | run (options : Options)
deriving DecidableEq, Repr

namespace Request

def asksForHelp (argument : String) : Bool :=
  argument = "--help" || argument = "-h"

def asksForVersion (argument : String) : Bool :=
  argument = "--version" || argument = "-V"

def ofArguments (arguments : List String) : Except UsageError Request :=
  if arguments.any asksForHelp then .ok .help
  else if arguments.any asksForVersion then .ok .version
  else (Options.ofArguments arguments).map run

def versionLine : String := "lockbridge 0.1.0"

def helpLines : List String :=
  [versionLine ++ " - input/render bridge for a screen-lock renderer", "", "USAGE:",
    "    lockbridge [OPTIONS]", "", "OPTIONS:",
    "    -h, --help              Print this help message",
    "    -V, --version           Print version information",
    "    -c, --config PATH       Use this config file instead of the search path",
    "    -n, --frames N          Number of frames to collect (default: 1)",
    "    -s, --snapshot FILE     Save the last frame as PNG", "", "CONFIG FILE:",
    "    $LOCKBRIDGE_CONFIG", "    ~/.config/lockbridge/config.toml",
    "    /etc/lockbridge/config.toml", ""]

end Request

end LockScreen
