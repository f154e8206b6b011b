import LockScreen.FileTree
import LockScreen.Graphics.Command
import LockScreen.Outlet
import LockScreen.SceneEvent
import LockScreen.Toml.Decode

/-!
The built-in prompt: a background, a block for each character typed, and a bar that tells how
authentication goes. Return submits what was typed, Backspace takes back its last character and
Escape all of it.
-/

namespace LockScreen

open LockScreen.Graphics LockScreen.Toml

structure Prompt where
  background : Color
  accent : Color
  typed : List Char
  auth : Option AuthState
deriving DecidableEq, Repr

inductive AssetError where
  | unreadable (path cause : String)
  | malformed (path : String)
deriving DecidableEq, Repr

def AssetError.report : AssetError → Report
  | .unreadable path cause => ⟨s!"Failed to read scene asset: {path}", [cause]⟩
  | .malformed path => ⟨s!"Failed to parse scene asset: {path}", ["TOML parse error"]⟩

structure Reaction where
  prompt : Prompt
  changed : Bool
  submission : Option String
deriving DecidableEq, Repr

def isControl (c : Char) : Bool :=
  c.toNat < 0x20 || (0x7f ≤ c.toNat && c.toNat < 0xa0)

namespace Prompt

def logTarget : String := "lockbridge::scene"

def new (background : Color) : Prompt := ⟨background, .lavender, [], none⟩

def themeColor (entries : Entries) (name : String) (default : Color) : Option Color :=
  (Fields.named entries).field 0 name default fun item => item.text?.map Color.parse

def applyTheme (prompt : Prompt) (toml : Library) (document : String) : Option Prompt := do
  let entries ← toml document
  let background ← themeColor entries "background" prompt.background
  let accent ← themeColor entries "accent" prompt.accent
  return { prompt with background, accent }

def note (message : String) : Log.Line :=
  ⟨.info, logTarget, message⟩

/-- Loads the theme in a file. The empty path stands for the built-in colours. -/
def load (prompt : Prompt) (toml : Library) (files : FileTree) (path : String) :
    Except AssetError Unit × Prompt × List Log.Line :=
  if path.isEmpty then (.ok (), prompt, [note "No scene asset, using built-in prompt"])
  else
    match (files path).readText with
    | .error cause => (.error (.unreadable path cause), prompt, [])
    | .ok document =>
      match prompt.applyTheme toml document with
      | none => (.error (.malformed path), prompt, [])
      | some prompt => (.ok (), prompt, [note s!"Loaded scene asset: {path}"])

def forgive (auth : Option AuthState) : Option AuthState :=
  if auth = some .failed then none else auth

def press (prompt : Prompt) (event : KeyEvent) : Reaction :=
  if event.key = .returnKey ∨ event.key = .enter then
    if prompt.typed.isEmpty then ⟨prompt, false, none⟩
    else ⟨{ prompt with typed := [] }, true, some (String.ofList prompt.typed)⟩
  else if event.key = .backspace then
    ⟨{ prompt with typed := prompt.typed.dropLast }, !prompt.typed.isEmpty, none⟩
  else if event.key = .escape then
    ⟨{ prompt with typed := [] }, !prompt.typed.isEmpty, none⟩
  else
    let added := event.text.toList.filter fun c => !isControl c
    if added.isEmpty then ⟨prompt, false, none⟩
    else
      ⟨{ prompt with typed := prompt.typed ++ added, auth := forgive prompt.auth }, true, none⟩

/-- What an event does to the prompt. Releases and the pointer do nothing. -/
def react (prompt : Prompt) : SceneEvent → Reaction
  | .key event =>
    match event.action with
    | .press => prompt.press event
    | .release => ⟨prompt, false, none⟩
  | .pointer _ => ⟨prompt, false, none⟩
  | .auth state => ⟨{ prompt with auth := some state }, true, none⟩

/-- Lets the prompt react to an event, and submits what is to be submitted. A secret that could not
be sent is lost all the same. -/
def handle (prompt : Prompt) (outlet : Outlet) (event : SceneEvent) :
    Bool × Prompt × Outlet × List Log.Line :=
  let reaction := prompt.react event
  match reaction.submission with
  | none => (reaction.changed, reaction.prompt, outlet, [])
  | some secret =>
    match outlet.submit secret with
    | (.ok (), outlet, lines) => (reaction.changed, reaction.prompt, outlet, lines)
    | (.error fault, outlet, lines) =>
      (reaction.changed, reaction.prompt, outlet,
        lines ++ [⟨.error, logTarget, s!"Failed to submit: {fault.message}"⟩])

def statusColor (prompt : Prompt) : Color :=
  match prompt.auth with
  | none => prompt.accent
  | some .pending => .amber
  | some .failed => .scarlet
  | some .success => .emerald

def blockLimit : Nat := 32

def blockCount (prompt : Prompt) : Nat :=
  Nat.min prompt.typed.length blockLimit

def atLeast (least length : UInt32) : Int32 :=
  (if length < least then least else length).toInt32

def barHeight (height : UInt32) : Int32 :=
  atLeast 2 (height / 40)

def blockSize (height : UInt32) : Int32 :=
  atLeast 4 (height / 30)

def middle (height : UInt32) : Int32 :=
  (height / 2).toInt32

def signed? (value : Int) : Option Int32 :=
  if (Int32.ofInt value).toInt = value then some (.ofInt value) else none

def rowWidth? (count : Nat) (block : Int32) : Option Int32 := do
  let filled ← signed? (count * block.toInt)
  let free ← signed? ((count - 1 : Nat) * (block / 2).toInt)
  signed? (filled.toInt + free.toInt)

def firstColumn? (width : Int32) (count : Nat) (block : Int32) : Option Int32 := do
  let row ← rowWidth? count block
  let rest ← signed? (width.toInt - row.toInt)
  return rest / 2

/-- Commands to give, and whether there were numbers for all that were wanted. Otherwise whoever
gives them breaks off behind the last. -/
structure Drawing where
  commands : List Command
  whole : Bool

def blocks (y block : Int32) : Nat → Int32 → Drawing
  | 0, _ => ⟨[], true⟩
  | count + 1, x =>
    let square : List Command := [.scissor x y block block, .clear .color]
    match signed? (x.toInt + (block + block / 2).toInt) with
    | none => ⟨square, false⟩
    | some next =>
      let rest := blocks y block count next
      { rest with commands := square ++ rest.commands }

def ground (prompt : Prompt) (width height : UInt32) : List Command :=
  [.scissorTest false, .clearColor prompt.background, .clear .all, .scissorTest true,
    .scissor 0 (middle height - barHeight height * 4) width.toInt32 (barHeight height),
    .clearColor prompt.statusColor, .clear .color]

/-- The commands that draw the prompt: its ground, and the row of blocks above the bar, centred. -/
def draw (prompt : Prompt) (width height : UInt32) : Drawing :=
  let ground := prompt.ground width height
  match firstColumn? width.toInt32 prompt.blockCount (blockSize height) with
  | none => ⟨ground, false⟩
  | some x =>
    let row := blocks (middle height) (blockSize height) prompt.blockCount x
    ⟨ground ++ .clearColor prompt.accent :: row.commands ++
      (if row.whole then [.scissorTest false] else []), row.whole⟩

end Prompt

end LockScreen
