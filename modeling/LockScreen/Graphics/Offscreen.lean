import LockScreen.Frame.Readback
import LockScreen.Graphics.Device
import LockScreen.Report

namespace LockScreen.Graphics

structure Offscreen where
  framebuffer : UInt32
  color : UInt32
  depthStencil : UInt32
  width : UInt32
  height : UInt32
deriving DecidableEq, Repr

def completeStatus : UInt32 := 0x8cd5

namespace Offscreen

variable {σ : Type}

def renderbuffer (device : Device σ) (storage : Storage) (width height : UInt32) :
    StateM (Rig σ) (Option UInt32) := do
  match ← Rig.ask device.createRenderbuffer .createRenderbuffer with
  | none => return none
  | some name =>
    Rig.performAll device
      [.bindRenderbuffer (some name),
        .renderbufferStorage storage width.toInt32 height.toInt32]
    return some name

def releases (framebuffer color depthStencil : UInt32) : List Command :=
  [.deleteFramebuffer framebuffer, .deleteRenderbuffer color, .deleteRenderbuffer depthStencil]

def assemble (device : Device σ) (framebuffer color depthStencil width height : UInt32) :
    StateM (Rig σ) (Except Report Offscreen) := do
  Rig.performAll device
    [.bindFramebuffer (some framebuffer), .attach .color color,
      .attach .depthStencil depthStencil]
  let status ← Rig.ask device.framebufferStatus .framebufferStatus
  Rig.perform device (.bindFramebuffer none)
  if status = completeStatus then
    inform s!"FBO created: {width.toNat}x{height.toNat}"
    return .ok { framebuffer, color, depthStencil, width, height }
  else
    Rig.performAll device (releases framebuffer color depthStencil)
    return .error (.ofMessage s!"FBO incomplete: status={status.toNat}")

def noRenderbuffer : String := "Unable to create Renderbuffer object"

def noFramebuffer : String := "Unable to create Framebuffer object"

def create (device : Device σ) (width height : UInt32) :
    StateM (Rig σ) (Except Report Offscreen) := do
  match ← renderbuffer device .color width height with
  | none => return .error (.ofMessage s!"Failed to create FBO color buffer: {noRenderbuffer}")
  | some color =>
    match ← renderbuffer device .depthStencil width height with
    | none => return .error (.ofMessage s!"Failed to create FBO depth buffer: {noRenderbuffer}")
    | some depthStencil =>
      Rig.perform device (.bindRenderbuffer none)
      match ← Rig.ask device.createFramebuffer .createFramebuffer with
      | none => return .error (.ofMessage s!"Failed to create FBO: {noFramebuffer}")
      | some framebuffer => assemble device framebuffer color depthStencil width height

def bind (device : Device σ) (offscreen : Offscreen) : StateM (Rig σ) Unit :=
  Rig.performAll device
    [.bindFramebuffer (some offscreen.framebuffer),
      .viewport offscreen.width.toInt32 offscreen.height.toInt32]

def unbind (device : Device σ) : StateM (Rig σ) Unit :=
  Rig.perform device (.bindFramebuffer none)

def destroy (device : Device σ) (offscreen : Offscreen) : StateM (Rig σ) Unit :=
  Rig.performAll device
    (releases offscreen.framebuffer offscreen.color offscreen.depthStencil)

def bindForRead (device : Device σ) (offscreen : Offscreen) :
    StateM (Rig σ) (Except UInt32 Unit) := do
  Rig.perform device (.bindFramebuffer (some offscreen.framebuffer))
  let status ← Rig.ask device.framebufferStatus .framebufferStatus
  if status = completeStatus then
    Rig.perform device .packTightly
    return .ok ()
  else
    unbind device
    return .error status

def source (device : Device σ) (offscreen : Offscreen) : Frame.PixelSource (Rig σ) where
  width := offscreen.width
  height := offscreen.height
  bind := bindForRead device offscreen
  readRow rig row size :=
    Rig.ask (device.readPixels row offscreen.width size)
      (fun _ => .readPixels row.toInt32 offscreen.width.toInt32) rig
  takeError := Rig.ask device.takeError .takeError
  unbind rig := (unbind device rig).2

end Offscreen

end LockScreen.Graphics
