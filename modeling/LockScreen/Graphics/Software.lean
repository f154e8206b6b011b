import LockScreen.Graphics.Canvas
import LockScreen.Graphics.Device

namespace LockScreen.Graphics

/-- A scripted answer: one call of a function, or every call. -/
structure Fault where
  function : String
  call : Option Nat
  value : Nat
deriving DecidableEq, Repr

structure Software where
  faults : List Fault
  called : List String
  handles : Nat
  names : Nat
  canvas : Canvas

namespace Software

def new (faults : List Fault) : Software := ⟨faults, [], 0, 0, .new⟩

def scripted (faults : List Fault) (software : Software) : Software :=
  { software with faults, called := [] }

/-- Counts a call and looks up what the script says of it; the first entry that fits counts. -/
def consult (function : String) (software : Software) : Option Nat × Software :=
  let called := function :: software.called
  let number := called.count function
  let fits (fault : Fault) : Bool :=
    fault.function = function && (fault.call.isNone || fault.call = some number)
  ((software.faults.find? fits).map Fault.value, { software with called })

def refuse (function : String) (software : Software) : Option EglFault × Software :=
  let (value, software) := software.consult function
  (value.map fun code => (EglFault.ofCode? code).getD .badParameter, software)

def attempt (function : String) (software : Software) : Except EglFault Unit × Software :=
  match software.refuse function with
  | (some fault, software) => (.error fault, software)
  | (none, software) => (.ok (), software)

def obtain (function : String) (software : Software) : Except EglFault Handle × Software :=
  match software.refuse function with
  | (some fault, software) => (.error fault, software)
  | (none, software) =>
    (.ok (software.handles + 1), { software with handles := software.handles + 1 })

/-- A configuration. The value 0 in a script means that none was found. -/
def findConfig (software : Software) : Except EglFault (Option Handle) × Software :=
  match software.consult "eglChooseConfig" with
  | (some 0, software) => (.ok none, software)
  | (some code, software) =>
    (.error ((EglFault.ofCode? code).getD .badParameter), software)
  | (none, software) =>
    (.ok (some (software.handles + 1)), { software with handles := software.handles + 1 })

def name (software : Software) : Option UInt32 × Software :=
  (some (UInt32.ofNat (software.names + 1)), { software with names := software.names + 1 })

def number (function : String) (usual : UInt32) (software : Software) : UInt32 × Software :=
  let (value, software) := software.consult function
  ((value.map UInt32.ofNat).getD usual, software)

def versionText : String := "1.5 double"

def queryVersion (software : Software) : Except EglFault String × Software :=
  match software.attempt "eglQueryString" with
  | (.ok (), software) => (.ok versionText, software)
  | (.error fault, software) => (.error fault, software)

def optional (answer : Except EglFault Handle × Software) : Option Handle × Software :=
  (answer.1.toOption, answer.2)

def device : Device Software where
  platformDisplay software := optional (software.obtain "eglGetPlatformDisplay")
  defaultDisplay software := optional (software.obtain "eglGetDisplay")
  openDisplay _ := attempt "eglInitialize"
  version _ := queryVersion
  bindApi := attempt "eglBindAPI"
  chooseConfig _ _ := findConfig
  createContext _ _ _ := obtain "eglCreateContext"
  createSurface _ _ := obtain "eglCreatePbufferSurface"
  makeCurrent _ _ _ := attempt "eglMakeCurrent"
  destroySurface _ _ := attempt "eglDestroySurface"
  destroyContext _ _ := attempt "eglDestroyContext"
  terminate _ := attempt "eglTerminate"
  libraryVersion _ := "OpenGL ES 3.0 double"
  libraryRenderer _ := "software double"
  createRenderbuffer := name
  createFramebuffer := name
  framebufferStatus := number "glCheckFramebufferStatus" 0x8cd5
  readPixels row width _ software :=
    (software.canvas.rowBytes row.toNat width.toNat, software)
  takeError := number "glGetError" 0
  perform command software := { software with canvas := software.canvas.perform command }

def functions : List String :=
  ["glBindFramebuffer", "glBindRenderbuffer", "glCheckFramebufferStatus", "glClear",
    "glClearColor", "glDeleteFramebuffers", "glDeleteRenderbuffers", "glDisable", "glEnable",
    "glFinish", "glFramebufferRenderbuffer", "glGenFramebuffers", "glGenRenderbuffers",
    "glGetError", "glGetIntegerv", "glGetString", "glPixelStorei", "glReadPixels",
    "glRenderbufferStorage", "glScissor", "glViewport"]

def provides (function : String) : Bool :=
  functions.contains function

end Software

end LockScreen.Graphics
