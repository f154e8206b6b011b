import LockScreen.Graphics.Call
import LockScreen.Log

/-!
Graphics devices. A device is any total answer to the calls of the graphics libraries over a state
of its own; nothing is assumed about the answers. A rig is a device in some state with the history
of the calls made on it, so that what was created and released can be read off.
-/

namespace LockScreen.Graphics

structure Device (σ : Type) where
  platformDisplay : σ → Option Handle × σ
  defaultDisplay : σ → Option Handle × σ
  openDisplay : Handle → σ → Except EglFault Unit × σ
  version : Handle → σ → Except EglFault String × σ
  bindApi : σ → Except EglFault Unit × σ
  chooseConfig : Handle → Version → σ → Except EglFault (Option Handle) × σ
  createContext : Handle → Handle → Version → σ → Except EglFault Handle × σ
  createSurface : Handle → Handle → σ → Except EglFault Handle × σ
  makeCurrent : Handle → Option Handle → Option Handle → σ → Except EglFault Unit × σ
  destroySurface : Handle → Handle → σ → Except EglFault Unit × σ
  destroyContext : Handle → Handle → σ → Except EglFault Unit × σ
  terminate : Handle → σ → Except EglFault Unit × σ
  libraryVersion : σ → String
  libraryRenderer : σ → String
  createRenderbuffer : σ → Option UInt32 × σ
  createFramebuffer : σ → Option UInt32 × σ
  framebufferStatus : σ → UInt32 × σ
  /-- The bytes of a row of the bound framebuffer, given its width and how many bytes are wanted. -/
  readPixels : UInt32 → UInt32 → Nat → σ → ByteArray × σ
  takeError : σ → UInt32 × σ
  perform : Command → σ → σ

structure Rig (σ : Type) where
  state : σ
  history : List Call
  lines : List Log.Line

namespace Rig

variable {σ α : Type}

def new (state : σ) : Rig σ := ⟨state, [], []⟩

def cleared (rig : Rig σ) : Rig σ :=
  { rig with history := [], lines := [] }

def trace (rig : Rig σ) : List Call :=
  rig.history.reverse

def ask (query : σ → α × σ) (call : α → Call) : StateM (Rig σ) α := fun rig =>
  let (answer, state) := query rig.state
  (answer, { rig with state, history := call answer :: rig.history })

def askEgl (query : σ → α × σ) (call : α → EglCall) : StateM (Rig σ) α :=
  ask query fun answer => .egl (call answer)

def perform (device : Device σ) (command : Command) : StateM (Rig σ) Unit :=
  ask (fun state => ((), device.perform command state)) fun _ => .command command

def performAll (device : Device σ) : List Command → StateM (Rig σ) Unit
  | [] => pure ()
  | command :: rest => do
    perform device command
    performAll device rest

def logLine (level : Log.Level) (target message : String) : StateM (Rig σ) Unit := fun rig =>
  ((), { rig with lines := rig.lines ++ [⟨level, target, message⟩] })

end Rig

def granted {ε α : Type} : Except ε α → Bool
  | .ok _ => true
  | .error _ => false

def logTarget : String := "lockbridge::gpu"

def inform {σ : Type} (message : String) : StateM (Rig σ) Unit :=
  Rig.logLine .info logTarget message

end LockScreen.Graphics
