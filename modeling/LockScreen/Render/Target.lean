import LockScreen.Frame.Readback
import LockScreen.Outlet
import LockScreen.Prompt

namespace LockScreen.Render

inductive LoadError where
  | graphics (fault : Report)
  | asset (fault : AssetError)
deriving DecidableEq, Repr

def LoadError.report : LoadError → Report
  | .graphics fault => fault
  | .asset fault => fault.report

structure Target (τ : Type) where
  load : τ → Ending LoadError × τ × List Log.Line
  /-- Whether an event makes a new frame necessary, or nothing if the thread does not survive it. -/
  handle : τ → Outlet → SceneEvent → Option Bool × τ × Outlet × List Log.Line
  draw : τ → Ending Report × τ × List Log.Line
  read : τ → ByteArray → Ending Frame.ReadbackError × ByteArray × τ × List Log.Line

end LockScreen.Render
