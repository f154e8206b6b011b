import LockScreen.Graphics.Context
import LockScreen.Graphics.Offscreen
import LockScreen.Render.Target

namespace LockScreen.Render

open LockScreen.Graphics

structure Screen (σ : Type) where
  prompt : Prompt
  offscreen : Offscreen
  context : Context
  rig : Rig σ

namespace Screen

variable {σ : Type}

def logTarget : String := "lockbridge::target"

/-- Opens the graphics. If the framebuffer cannot be made, the context is let go again. -/
def build (device : Device σ) (prompt : Prompt) (width height : UInt32) (rig : Rig σ) :
    Except Report (Screen σ) × Rig σ :=
  match Context.openHeadless device rig with
  | (.error fault, rig) => (.error fault, rig)
  | (.ok context, rig) =>
    let ((), rig) := Context.introduce device rig
    match Offscreen.create device width height rig with
    | (.ok offscreen, rig) => (.ok { prompt, offscreen, context, rig }, rig)
    | (.error fault, rig) => (.error fault, (context.release device rig).2)

def load (device : Device σ) (toml : Toml.Library) (files : FileTree) (path : String)
    (screen : Screen σ) : Except LoadError Unit × Screen σ :=
  match screen.context.makeCurrent device screen.rig with
  | (.error fault, rig) => (.error (.graphics fault), { screen with rig })
  | (.ok (), rig) =>
    let (result, prompt, lines) := screen.prompt.load toml files path
    (result.mapError .asset,
      { screen with prompt, rig := { rig with lines := rig.lines ++ lines } })

def paint (device : Device σ) (screen : Screen σ) : StateM (Rig σ) (Ending Report) := do
  let offscreen := screen.offscreen
  let drawing := screen.prompt.draw offscreen.width offscreen.height
  offscreen.bind device
  Rig.performAll device drawing.commands
  if drawing.whole then
    Rig.perform device .finish
    Offscreen.unbind device
    return .done
  else
    return .crashed

def draw (device : Device σ) (screen : Screen σ) : Ending Report × Screen σ :=
  match screen.context.makeCurrent device screen.rig with
  | (.error fault, rig) => (.failed fault, { screen with rig })
  | (.ok (), rig) =>
    let (ending, rig) := screen.paint device rig
    (ending, { screen with rig })

def read (device : Device σ) (screen : Screen σ) (pixels : ByteArray) :
    Ending Frame.ReadbackError × ByteArray × Screen σ :=
  let (result, pixels, rig) := Frame.read (screen.offscreen.source device) pixels screen.rig
  (result, pixels, { screen with rig })

/-- Closes the graphics. With the context gone, the framebuffer is left to the driver. -/
def close (device : Device σ) (screen : Screen σ) : Rig σ :=
  match screen.context.makeCurrent device screen.rig with
  | (.error fault, rig) =>
    let warned :=
      (Rig.logLine .warn logTarget s!"Leaking FBO, context lost: {fault.chain}" rig).2
    (screen.context.release device warned).2
  | (.ok (), rig) =>
    (screen.context.release device (screen.offscreen.destroy device rig).2).2

def takeLines (screen : Screen σ) : Screen σ × List Log.Line :=
  ({ screen with rig := { screen.rig with lines := [] } }, screen.rig.lines)

def target (device : Device σ) (toml : Toml.Library) (files : FileTree) (path : String) :
    Target (Screen σ) where
  load screen :=
    let (result, screen) := screen.load device toml files path
    (.ofExcept result, screen.takeLines)
  handle screen outlet event :=
    let (changed, prompt, outlet, lines) := screen.prompt.handle outlet event
    (some changed, { screen with prompt }, outlet, lines)
  draw screen :=
    let (ending, screen) := screen.draw device
    (ending, screen.takeLines)
  read screen pixels :=
    let (result, pixels, screen) := screen.read device pixels
    (result, pixels, screen.takeLines)

end Screen

end LockScreen.Render
