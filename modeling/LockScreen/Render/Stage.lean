import LockScreen.Render.Target

namespace LockScreen.Render

structure Stage (σ : Type) where
  prompt : Prompt
  source : Frame.PixelSource σ
  pixels : σ
  drawing : Ending Report
  readingCrashes : Bool

namespace Stage

variable {σ : Type}

def new (prompt : Prompt) (source : Frame.PixelSource σ) (pixels : σ) : Stage σ :=
  ⟨prompt, source, pixels, .done, false⟩

def load (toml : Toml.Library) (files : FileTree) (path : String) (stage : Stage σ) :
    Ending LoadError × Stage σ × List Log.Line :=
  let (result, prompt, lines) := stage.prompt.load toml files path
  (.ofExcept (result.mapError .asset), { stage with prompt }, lines)

def handle (stage : Stage σ) (outlet : Outlet) (event : SceneEvent) :
    Option Bool × Stage σ × Outlet × List Log.Line :=
  let (changed, prompt, outlet, lines) := stage.prompt.handle outlet event
  (some changed, { stage with prompt }, outlet, lines)

def draw (stage : Stage σ) : Ending Report × Stage σ × List Log.Line :=
  let drawing := stage.prompt.draw stage.source.width stage.source.height
  (if drawing.whole then stage.drawing else .crashed, stage, [])

def read (stage : Stage σ) (target : ByteArray) :
    Ending Frame.ReadbackError × ByteArray × Stage σ × List Log.Line :=
  if stage.readingCrashes then (.crashed, target, stage, [])
  else
    let (result, target, pixels) := Frame.read stage.source target stage.pixels
    (result, target, { stage with pixels }, [])

def target (toml : Toml.Library) (files : FileTree) (path : String) : Target (Stage σ) where
  load := load toml files path
  handle := handle
  draw := draw
  read := read

end Stage

end LockScreen.Render
