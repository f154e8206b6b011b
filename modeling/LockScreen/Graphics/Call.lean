import LockScreen.Graphics.Command
import LockScreen.Graphics.EglFault

namespace LockScreen.Graphics

/-- A display, configuration, context or surface. 0 is none. -/
abbrev Handle := Nat

inductive Version where
  | three
  | two
deriving DecidableEq, Repr

def Version.number : Version → Nat
  | three => 3
  | two => 2

def Version.renderableBit : Version → Nat
  | three => 64
  | two => 4

inductive EglCall where
  | platformDisplay (display : Option Handle)
  | defaultDisplay (display : Option Handle)
  | openDisplay (display : Handle) (ok : Bool)
  | queryVersion (display : Handle) (ok : Bool)
  | bindApi (ok : Bool)
  | chooseConfig (display : Handle) (version : Version) (found : Except EglFault (Option Handle))
  | createContext (display config : Handle) (version : Version) (context : Option Handle)
  | createSurface (display config : Handle) (surface : Option Handle)
  | makeCurrent (display : Handle) (surface context : Option Handle) (ok : Bool)
  | destroySurface (display surface : Handle) (ok : Bool)
  | destroyContext (display context : Handle) (ok : Bool)
  | terminate (display : Handle) (ok : Bool)

inductive Call where
  | egl (call : EglCall)
  | command (command : Command)
  | createRenderbuffer (name : Option UInt32)
  | createFramebuffer (name : Option UInt32)
  | framebufferStatus (status : UInt32)
  | readPixels (row width : Int32)
  | takeError (code : UInt32)

def handleText (handle : Option Handle) : String :=
  toString (handle.getD 0)

def outcomeText (ok : Bool) : String :=
  if ok then "1" else "0"

def EglCall.text : EglCall → String
  | .platformDisplay display => s!"eglGetPlatformDisplay 0x31dd 0 [] -> {handleText display}"
  | .defaultDisplay display => s!"eglGetDisplay 0 -> {handleText display}"
  | .openDisplay display ok => s!"eglInitialize {display} -> {outcomeText ok}"
  | .queryVersion display ok => s!"eglQueryString {display} 0x3054 -> {outcomeText ok}"
  | .bindApi ok => s!"eglBindAPI 0x30a0 -> {outcomeText ok}"
  | .chooseConfig display version found =>
    let result :=
      match found with
      | .error _ => "fail"
      | .ok config => outcomeText config.isSome
    s!"eglChooseConfig {display} [0x3033=1 0x3024=8 0x3023=8 0x3022=8 0x3021=8 " ++
      s!"0x3040={version.renderableBit}] 1 -> {result}"
  | .createContext display config version context =>
    s!"eglCreateContext {display} {config} 0 [0x3098={version.number}] -> {handleText context}"
  | .createSurface display config surface =>
    s!"eglCreatePbufferSurface {display} {config} [0x3057=1 0x3056=1] -> {handleText surface}"
  | .makeCurrent display surface context ok =>
    s!"eglMakeCurrent {display} {handleText surface} {handleText surface} " ++
      s!"{handleText context} -> {outcomeText ok}"
  | .destroySurface display surface ok =>
    s!"eglDestroySurface {display} {surface} -> {outcomeText ok}"
  | .destroyContext display context ok =>
    s!"eglDestroyContext {display} {context} -> {outcomeText ok}"
  | .terminate display ok => s!"eglTerminate {display} -> {outcomeText ok}"

def Call.text : Call → String
  | .egl call => call.text
  | .command drawn => drawn.text
  | .createRenderbuffer name => s!"GenRenderbuffers 1 -> {nameText name}"
  | .createFramebuffer name => s!"GenFramebuffers 1 -> {nameText name}"
  | .framebufferStatus _ => "CheckFramebufferStatus 0x8d40"
  | .readPixels row width => s!"ReadPixels 0 {row.toInt} {width.toInt} 1 0x80e1 0x1401"
  | .takeError _ => "GetError"

end LockScreen.Graphics
