import LockScreen.Render.Loop
import LockScreen.Render.Screen

namespace LockScreen.Session

open LockScreen.Graphics LockScreen.Render LockScreen.Repeat LockScreen.Text LockScreen.Wire

def logTarget : String := "lockbridge"

def line (level : Log.Level) (message : String) : Log.Line :=
  ⟨level, logTarget, message⟩

def keyA : UInt64 := 30

def keyEnter : UInt64 := 28

def leftButton : UInt64 := 0x110

def keymapDescriptor : Nat := 3

def keymapFile (text : String) : List UInt8 :=
  Utf8.encode text ++ [0]

def sharedFiles (keymap : Option String) (descriptor : Nat) : SharedFile :=
  match keymap with
  | some text =>
    if descriptor = keymapDescriptor then .paged (keymapFile text)
    else .unmappable .badDescriptor
  | none => .unmappable .badDescriptor

def stroke (code : UInt64) : List Record :=
  [⟨.keyboardKey, code, 1⟩, ⟨.keyboardKey, code, 0⟩]

def typing (text : String) : List Record :=
  ⟨.keyboardKeymap, UInt64.ofNat keymapDescriptor, UInt64.ofNat (keymapFile text).length⟩ ::
    (stroke keyA ++ stroke keyA ++ stroke keyEnter)

def click : List Record :=
  [.motion 0x4029000000000000 0x4041000000000000, ⟨.pointerButton, leftButton, 1⟩,
    ⟨.pointerButton, leftButton, 0⟩]

def played (keymap : Option String) : List Record × List Log.Line :=
  match keymap with
  | some text =>
    (typing text ++ click, [line .debug s!"Keymap: {(keymapFile text).length} bytes"])
  | none =>
    (click,
      [line .warn
        "No system keymap, skipping keyboard input: Failed to compile default keymap"])

structure Conversation (x : Xkb) (σ : Type) where
  machine : Machine x (Screen σ)
  frames : Nat
  last : Option ByteArray
  lines : List Log.Line

namespace Conversation

variable {x : Xkb} {σ : Type}

def log (talk : Conversation x σ) (lines : List Log.Line) : Conversation x σ :=
  { talk with lines := talk.lines ++ lines }

/-- Sends records into the input pipe, up to the first that is refused. -/
def send (talk : Conversation x σ) : List Record → Except Wire.Error Unit × Conversation x σ
  | [] => (.ok (), talk)
  | record :: rest =>
    let (result, input, lines) := talk.machine.input.send record
    let sent := { talk with machine := { talk.machine with input } }.log lines
    match result with
    | .ok () => send sent rest
    | .error fault => (.error fault, sent)

def turn (api : Target (Screen σ)) (files : Nat → SharedFile) (now : Instant)
    (talk : Conversation x σ) : Conversation x σ :=
  match talk.machine.life.thread with
  | .serving =>
    let (machine, happenings) := talk.machine.iterate api files (fun _ => now) .answered now
    { talk with machine }.log (happenings.filterMap Happening.line?)
  | _ => talk

def collectFrame (talk : Conversation x σ) (handle : UInt64) : Conversation x σ :=
  let memory := talk.machine.memory
  let last := memory.pools.head?.bind fun pool => pool.frame? handle
  let memory := (Frame.Provider.pool 0).release memory handle
  let frames := talk.frames + 1
  { talk with machine := { talk.machine with memory }, frames, last }.log
    [line .info s!"Frame {frames} ready (slot {handle.toNat})"]

/-- Answers a secret that was submitted: it is looked at, and it is right. -/
def answer (talk : Conversation x σ) (secretLength : Nat) :
    Except Wire.Error Unit × Conversation x σ :=
  (talk.log [line .info s!"Auth submitted ({secretLength} bytes)"]).send
    [⟨.authPending, 0, 0⟩, ⟨.authSuccess, 0, 0⟩]

def take (talk : Conversation x σ) : Delivery → Except Wire.Error Unit × Conversation x σ
  | .secret bytes _ => talk.answer bytes.length
  | .record record =>
    match record.kind with
    | .renderer => (.ok (), talk.collectFrame record.first)
    | .authSubmit => talk.answer 0
    | kind => (.ok (), talk.log [line .debug s!"Ignoring {kind.name}"])

def look (talk : Conversation x σ) :
    Except Wire.Error (Option Delivery) × Conversation x σ :=
  let (found, outlet, lines) := talk.machine.outlet.receive
  (found, { talk with machine := { talk.machine with outlet } }.log lines)

def lookInterval : Instant := 5000000

def lookLimit : Nat := 1000

/-- Collects so many frames. Whenever there is nothing to take, the render thread has a turn. -/
def collect (api : Target (Screen σ)) (files : Nat → SharedFile) (wanted : Nat) :
    (looks : Nat) → Conversation x σ → Except Wire.Error Unit × Conversation x σ
  | 0, talk =>
    (.ok (),
      if talk.frames < wanted then
        talk.log [line .warn s!"Timed out after {talk.frames} of {wanted} frames"]
      else talk)
  | looks + 1, talk =>
    if wanted ≤ talk.frames then (.ok (), talk)
    else
      match talk.look with
      | (.error fault, talk) => (.error fault, talk)
      | (.ok none, talk) =>
        let now := lookInterval * Int.ofNat (lookLimit - looks)
        collect api files wanted looks (talk.turn api files now)
      | (.ok (some delivery), talk) =>
        match talk.take delivery with
        | (.error fault, talk) => (.error fault, talk)
        | (.ok (), talk) => collect api files wanted looks talk

def finish (device : Device σ) (talk : Conversation x σ) : Conversation x σ :=
  let (machine, left) := talk.machine.halt
  let (screen, _) := machine.target.takeLines
  let closed := screen.close device
  let (life, joined) := machine.life.join
  { talk with machine := { machine with life } }.log
    (left.filterMap Happening.line? ++ closed.lines ++ joined)

end Conversation

end LockScreen.Session
