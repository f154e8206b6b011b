import LockScreen.Frame.Pool

namespace LockScreen.Frame

structure Lender where
  frameLength : Nat
  block : ByteArray
  address : UInt64
  lends : Bool
  calls : Nat

namespace Lender

def fillNext {σ : Type} (lender : Lender) (fill : Filler σ) (state : σ) :
    Acquisition × Lender × σ × List Log.Line :=
  let asked := { lender with calls := lender.calls + 1 }
  if !lender.lends then
    (.refused, asked, state,
      [⟨.debug, logTarget, "Buffer callback returned NULL, dropping frame"⟩])
  else
    let (verdict, front, state) := fill (lender.block.extract 0 lender.frameLength) state
    let block := front ++ lender.block.extract lender.frameLength lender.block.size
    (match verdict with
      | .kept => .granted lender.address
      | .dropped => .refused
      | .crashed => .crashed,
      { asked with block }, state, [])

end Lender

end LockScreen.Frame
