import LockScreen.Image
import LockScreen.Log.Filter
import LockScreen.Session.Producer
import LockScreen.Session.Surroundings
import LockScreen.Text.Printable

namespace LockScreen.Session

open LockScreen.Graphics LockScreen.Render LockScreen.Text

/-- A file that was written. An image without a file form leaves an empty file behind. -/
structure Written where
  path : String
  image : Option Image

structure Outcome where
  output : List String
  warnings : List String
  lines : List Log.Line
  failure : Option Report
  crashed : Bool
  written : Option Written

namespace Outcome

def silent : Outcome := ⟨[], [], [], none, false, none⟩

def saying (output : List String) : Outcome := { silent with output }

def failing (fault : Report) : Outcome := { silent with failure := some fault }

def code (outcome : Outcome) : Nat :=
  if outcome.crashed then 101 else if outcome.failure.isSome then 1 else 0

def reported (outcome : Outcome) : List String :=
  (outcome.failure.map Report.lines).getD []

def printed (outcome : Outcome) : List String :=
  outcome.warnings.flatMap rows ++ outcome.lines.flatMap Log.Line.printed ++ outcome.reported

def complaints (outcome : Outcome) : List String :=
  outcome.warnings.flatMap rows ++ outcome.lines.flatMap Log.Line.further ++ outcome.reported

end Outcome

variable {σ : Type}

def starting : Log.Line := line .info "lockbridge starting..."

def slotCount : Nat := 2

def buildScreen (around : Surroundings σ) (settings : Settings) :
    Except Report (Device σ × Screen σ) × List Log.Line :=
  match around.graphics with
  | .error fault => (.error fault.report, [])
  | .ok (device, state) =>
    match Screen.build device (.new settings.background) settings.output.width
      settings.output.height (.new state) with
    | (.error fault, rig) => (.error fault, rig.lines)
    | (.ok screen, _) =>
      let (screen, lines) := screen.takeLines
      (.ok (device, screen), lines)

def save (files : FileTree) (output : Settings.Output) (path : String) (last : Option ByteArray) :
    Outcome :=
  match last with
  | none => .failing (.ofMessage "No frame was produced")
  | some frame =>
    match files.refusal? path with
    | some cause => .failing ⟨s!"Failed to create {path}", [cause]⟩
    | none =>
      let image := Image.ofFrame output.width output.height frame
      match image.fault? with
      | some fault =>
        { Outcome.failing (.ofMessage fault.message) with written := some ⟨path, none⟩ }
      | none =>
        { Outcome.silent with
          written := some ⟨path, some image⟩
          lines := [line .info s!"Snapshot saved: {path}"] }

/-- Plays the input and collects the frames. The render thread had its first turn before. -/
def converse {x : Xkb} (api : Target (Screen σ)) (keymap : Option String) (frames : Nat)
    (talk : Conversation x σ) : Except Wire.Error Unit × Conversation x σ :=
  let (records, lines) := played keymap
  match (talk.log lines).send records with
  | (.error fault, talk) => (.error fault, talk)
  | (.ok (), talk) => talk.collect api (sharedFiles keymap) frames Conversation.lookLimit

def performIn (x : Xkb) (around : Surroundings σ) (settings : Settings) (options : Options)
    (pool : Frame.Pool) : Outcome :=
  let output := settings.output
  let size := s!"{output.width.toNat}x{output.height.toNat}"
  let asset := Escaped.quote output.assetPath
  let opening := [starting, Life.line .info s!"Render loop initialized: {size}, asset {asset}"]
  let (life, installed) := Life.new.setProvider (.pool 0)
  let (built, building) := buildScreen around settings
  match built with
  | .error fault =>
    let (started, _, failed) := life.start (.failed fault)
    { Outcome.silent with
      lines := opening ++ installed ++ building ++ failed
      failure :=
        match started with
        | .error fault => some fault
        | .ok () => none }
  | .ok (device, screen) =>
    let (_, life, running) := life.start .built
    let api := Screen.target device around.toml around.files output.assetPath
    let machine : Machine x (Screen σ) :=
      .new life settings.keyRepeat.timing? screen .new .new
        ⟨[pool], []⟩
    let talk : Conversation x σ :=
      ⟨machine, 0, none, opening ++ installed ++ building ++ running⟩
    let begun := talk.turn api (sharedFiles around.keymap) 0
    let (result, talk) := converse api around.keymap options.frames begun
    let lines := (talk.finish device).lines
    match result, options.snapshot with
    | .error fault, _ => { Outcome.failing (.ofMessage fault.message) with lines }
    | .ok (), none => { Outcome.silent with lines }
    | .ok (), some path =>
      let saved := save around.files output path talk.last
      { saved with lines := lines ++ saved.lines }

def perform (x : Xkb) (around : Surroundings σ) (settings : Settings) (options : Options) :
    Outcome :=
  match Frame.Pool.new? settings.output.width settings.output.height slotCount with
  | none => { Outcome.silent with lines := [starting], crashed := true }
  | some pool => performIn x around settings options pool

/-- A run with some arguments. Lines that the settings or the environment do not ask for are left
out. -/
def run (x : Xkb) (patterns : Log.Patterns) (around : Surroundings σ) (arguments : List String) :
    Outcome :=
  match Request.ofArguments arguments with
  | .error fault => .failing fault.report
  | .ok .help => .saying Request.helpLines
  | .ok .version => .saying [Request.versionLine]
  | .ok (.run options) =>
    match around.settings options with
    | .error fault => .failing fault
    | .ok settings =>
      let (filter, warnings) :=
        Log.Filter.parse patterns (around.logSpecification.getD settings.logLevel)
      let outcome := perform x around settings options
      { outcome with warnings, lines := outcome.lines.filter filter.admits }

end LockScreen.Session
