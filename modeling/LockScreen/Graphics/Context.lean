import LockScreen.Graphics.Device
import LockScreen.Report

namespace LockScreen.Graphics

structure Context where
  display : Handle
  context : Handle
  surface : Option Handle
deriving DecidableEq, Repr

namespace Context

variable {σ : Type}

/-- Goes on with the value of a step; a failure ends the whole. -/
def andThen {α β : Type} (first : StateM (Rig σ) (Except Report α))
    (next : α → StateM (Rig σ) (Except Report β)) : StateM (Rig σ) (Except Report β) := do
  match ← first with
  | .ok value => next value
  | .error fault => return .error fault

def require {α : Type} (message : String) (request : StateM (Rig σ) (Except EglFault α)) :
    StateM (Rig σ) (Except Report α) := do
  match ← request with
  | .ok value => return .ok value
  | .error fault => return .error ⟨message, [fault.message]⟩

def findDisplay (device : Device σ) : StateM (Rig σ) (Except Report Handle) := do
  match ← Rig.askEgl device.platformDisplay .platformDisplay with
  | some display => return .ok display
  | none =>
    match ← Rig.askEgl device.defaultDisplay .defaultDisplay with
    | some display => return .ok display
    | none => return .error (.ofMessage "Failed to get EGL display")

def openDisplay (device : Device σ) (display : Handle) : StateM (Rig σ) (Except Report Unit) :=
  require "Failed to initialize EGL"
    (Rig.askEgl (device.openDisplay display) fun answer => .openDisplay display (granted answer))

def tellVersion (device : Device σ) (display : Handle) : StateM (Rig σ) Unit := do
  let answer ← Rig.askEgl (device.version display) fun answer =>
    .queryVersion display (granted answer)
  match answer with
  | .ok version => inform s!"EGL version: {version}"
  | .error _ => return

def bindApi (device : Device σ) : StateM (Rig σ) (Except Report Unit) :=
  require "Failed to bind OpenGL ES API"
    (Rig.askEgl device.bindApi fun answer => .bindApi (granted answer))

def chooseConfig (device : Device σ) (display : Handle) (version : Version) :
    StateM (Rig σ) (Except Report Handle) := do
  match ← Rig.askEgl (device.chooseConfig display version) (.chooseConfig display version) with
  | .error fault => return .error ⟨"choose_first_config failed", [fault.message]⟩
  | .ok none => return .error (.ofMessage "No suitable EGL config found")
  | .ok (some config) => return .ok config

def findConfig (device : Device σ) (display : Handle) : StateM (Rig σ) (Except Report Handle) := do
  match ← chooseConfig device display .three with
  | .ok config => return .ok config
  | .error _ =>
    match ← chooseConfig device display .two with
    | .ok config => return .ok config
    | .error fault => return .error (fault.within "Failed to choose EGL config")

def createContext (device : Device σ) (display config : Handle) (version : Version) :
    StateM (Rig σ) (Except EglFault Handle) :=
  Rig.askEgl (device.createContext display config version) fun answer =>
    .createContext display config version answer.toOption

def findContext (device : Device σ) (display config : Handle) :
    StateM (Rig σ) (Except Report Handle) := do
  match ← createContext device display config .three with
  | .ok context => return .ok context
  | .error _ =>
    require "Failed to create EGL context" (createContext device display config .two)

def findSurface (device : Device σ) (display config : Handle) :
    StateM (Rig σ) (Option Handle) := do
  let answer ← Rig.askEgl (device.createSurface display config) fun answer =>
    .createSurface display config answer.toOption
  match answer with
  | .ok surface => return some surface
  | .error fault =>
    Rig.logLine .warn logTarget
      s!"No pbuffer surface ({fault.message}), trying surfaceless context"
    return none

def bindCurrent (device : Device σ) (display : Handle) (surface context : Option Handle) :
    StateM (Rig σ) (Except EglFault Unit) :=
  Rig.askEgl (device.makeCurrent display surface context) fun answer =>
    .makeCurrent display surface context (granted answer)

def makeCurrent (device : Device σ) (current : Context) : StateM (Rig σ) (Except Report Unit) :=
  require "Failed to make EGL context current"
    (bindCurrent device current.display current.surface (some current.context))

def destroySurface (device : Device σ) (display surface : Handle) : StateM (Rig σ) Unit := do
  let _ ← Rig.askEgl (device.destroySurface display surface) fun answer =>
    .destroySurface display surface (granted answer)
  return

def destroyContext (device : Device σ) (display context : Handle) : StateM (Rig σ) Unit := do
  let _ ← Rig.askEgl (device.destroyContext display context) fun answer =>
    .destroyContext display context (granted answer)
  return

def terminate (device : Device σ) (display : Handle) : StateM (Rig σ) Unit := do
  let _ ← Rig.askEgl (device.terminate display) fun answer =>
    .terminate display (granted answer)
  return

/-- Lets go of the context, its surface and its display. Failures of single steps are ignored. -/
def release (device : Device σ) (current : Context) : StateM (Rig σ) Unit := do
  let _ ← bindCurrent device current.display none none
  match current.surface with
  | some surface => destroySurface device current.display surface
  | none => pure ()
  destroyContext device current.display current.context
  terminate device current.display

/-- Makes a context current on an open display. One that cannot be made current is released
again. -/
def establish (device : Device σ) (display : Handle) :
    StateM (Rig σ) (Except Report Context) :=
  andThen (findConfig device display) fun config =>
    andThen (findContext device display config) fun context => do
      let surface ← findSurface device display config
      let current : Context := { display, context, surface }
      match ← makeCurrent device current with
      | .ok () =>
        inform "EGL context created"
        return .ok current
      | .error fault =>
        release device current
        return .error fault

def openHeadless (device : Device σ) : StateM (Rig σ) (Except Report Context) :=
  andThen (findDisplay device) fun display =>
    andThen (openDisplay device display) fun () => do
      tellVersion device display
      andThen (bindApi device) fun () => establish device display

def introduce (device : Device σ) : StateM (Rig σ) Unit := do
  let rig ← get
  inform s!"OpenGL ES: {device.libraryVersion rig.state}"
  inform s!"Renderer: {device.libraryRenderer rig.state}"

end Context

end LockScreen.Graphics
