import LockScreen.Effect
import LockScreen.Key.Keysym
import LockScreen.Keyboard.SharedFile
import LockScreen.SceneEvent

/-!
The keyboard: at most one compiled keymap with its live state, which turns key transitions into key
events. A keymap is replaced only by one that compiles; any failure keeps the old one.
-/

namespace LockScreen

open LockScreen.Text LockScreen.Wire

/-- What is needed of a keymap library: a compiler for keymap texts, and a state that follows the
keys of one keymap. -/
structure Xkb where
  Keymap : Type
  State : Type
  compile : String → Option Keymap
  fresh : Keymap → State
  press : State → UInt32 → State
  release : State → UInt32 → State
  setMasks : State → Masks → State
  keysym : State → UInt32 → UInt32
  text : State → UInt32 → String
  active : State → Modifier → Bool
  repeats : Keymap → UInt32 → Bool

inductive KeymapError where
  | map (fault : MapFault)
  | empty
  | invalidUtf8
  | compileFailed
deriving DecidableEq, Repr

def KeymapError.message : KeymapError → String
  | .map fault => s!"failed to map keymap: {fault.message}"
  | .empty => "keymap is empty"
  | .invalidUtf8 => "keymap is not valid UTF-8"
  | .compileFailed => "failed to compile keymap"

structure Layout (x : Xkb) where
  id : Nat
  keymap : x.Keymap
  state : x.State

structure Keyboard (x : Xkb) where
  layout : Option (Layout x)
  compiled : Nat

namespace Keyboard

variable {x : Xkb}

def logTarget : String := "lockbridge::keyboard"

def new : Keyboard x := ⟨none, 0⟩

def hasKeymap (keyboard : Keyboard x) : Bool :=
  keyboard.layout.isSome

/-- The keymap text in some bytes: what stands before the first NUL. -/
def keymapText (raw : List UInt8) : Except KeymapError String :=
  let bytes := raw.takeWhile (· ≠ 0)
  if bytes.isEmpty then .error .empty
  else
    match Utf8.decode? bytes with
    | none => .error .invalidUtf8
    | some text => .ok text

def Layout.released (layout : Layout x) : List Effect :=
  [.keymap (.stateReleased layout.id), .keymap (.keymapReleased layout.id)]

def warning (message : String) : Effect :=
  .log ⟨.warn, logTarget, message⟩

/-- Compiles a keymap and makes it current. The old layout is released once the new one exists. -/
def load (keyboard : Keyboard x) (raw : List UInt8) :
    Except KeymapError Unit × Keyboard x × List Effect :=
  match keymapText raw with
  | .error .empty => (.error .empty, keyboard, [warning "Refusing empty keymap"])
  | .error fault => (.error fault, keyboard, [])
  | .ok text =>
    match x.compile text with
    | none =>
      (.error .compileFailed, keyboard,
        [.keymap (.keymapRefused text),
          warning "Failed to compile XKB keymap, keeping previous one"])
    | some keymap =>
      let id := keyboard.compiled
      (.ok (), ⟨some ⟨id, keymap, x.fresh keymap⟩, id + 1⟩,
        [.keymap (.keymapNew id text), .keymap (.stateNew id)] ++
          (match keyboard.layout with
            | none => []
            | some layout => Layout.released layout) ++
          [.log ⟨.info, logTarget, "Loaded new XKB keymap"⟩])

/-- Maps `size` bytes of a shared object and loads them. The descriptor is taken over and closed on
every path. There is no result if the process does not survive the reading. -/
def loadShared (keyboard : Keyboard x) (descriptor : Nat) (file : SharedFile) (size : Nat) :
    Option (Except KeymapError Unit) × Keyboard x × List Effect :=
  if size = 0 then (some (.error .empty), keyboard, [.closed descriptor])
  else
    match file.map size with
    | .error fault =>
      (some (.error (.map fault)), keyboard,
        [warning s!"Failed to mmap keymap: {fault.message}", .closed descriptor])
    | .ok mapping =>
      match mapping.text? with
      | none => (none, keyboard, [.closed descriptor, .killed])
      | some text =>
        let (result, keyboard, effects) := keyboard.load text
        (some result, keyboard, effects ++ [.closed descriptor])

def setMasks (keyboard : Keyboard x) (masks : Masks) : Bool × Keyboard x × List Effect :=
  match keyboard.layout with
  | none =>
    (false, keyboard, [.log ⟨.debug, logTarget, "Modifiers before keymap, ignored"⟩])
  | some layout =>
    (true,
      { keyboard with
        layout := some { layout with state := x.setMasks layout.state masks } },
      [.keymap (.masks masks), .log ⟨.debug, logTarget, "Updated modifiers"⟩])

def modifiers (keyboard : Keyboard x) : Modifiers :=
  match keyboard.layout with
  | none => .none
  | some layout => .ofPredicate (x.active layout.state)

def codeOffset : UInt32 := 8

def xkbCode? (code : UInt32) : Option UInt32 :=
  if code.toNat + codeOffset.toNat < 4294967296 then some (code + codeOffset) else none

def textLimit : Nat := 63

/-- The state after a key transition. A key that the producer repeats is down already. -/
def transition (state : x.State) (code : UInt32) : KeyState → x.State
  | .pressed => x.press state code
  | .released => x.release state code
  | .repeated => state

def transitionEffects (code : UInt32) : KeyState → List Effect
  | .pressed => [.keymap (.key code true)]
  | .released => [.keymap (.key code false)]
  | .repeated => []

/-- Applies a key transition. The event tells the key, text and modifiers just after it. -/
def applyKey (keyboard : Keyboard x) (code : UInt32) (keyState : KeyState) :
    Option KeyEvent × Keyboard x × List Effect :=
  match keyboard.layout with
  | none =>
    (none, keyboard,
      [.log ⟨.debug, logTarget, s!"No XKB state available, key {code.toNat} dropped"⟩])
  | some layout =>
    match xkbCode? code with
    | none => (none, keyboard, [warning s!"Key code out of range: {code.toNat}"])
    | some xkbCode =>
      let state := transition layout.state xkbCode keyState
      let keyboard := { keyboard with layout := some { layout with state } }
      (some
        { action := if keyState = .released then .release else .press
          key := Key.ofKeysym (x.keysym state xkbCode)
          modifiers := keyboard.modifiers
          text := Utf8.truncate (x.text state xkbCode) textLimit
          code
          autoRepeat := keyState = .repeated },
        keyboard, transitionEffects xkbCode keyState)

def repeats (keyboard : Keyboard x) (code : UInt32) : Bool :=
  match keyboard.layout, xkbCode? code with
  | some layout, some xkbCode => x.repeats layout.keymap xkbCode
  | _, _ => false

def dropped (keyboard : Keyboard x) : List Effect :=
  match keyboard.layout with
  | none => []
  | some layout => Layout.released layout

end Keyboard

end LockScreen
