import LockScreen.Frame.Lender

namespace LockScreen.Frame

structure Memory where
  pools : List Pool
  lenders : List Lender

namespace Memory

def inUse (memory : Memory) : Nat :=
  memory.pools.foldl (fun total pool => total + pool.inUse) 0

def calls (memory : Memory) : Nat :=
  memory.lenders.foldl (fun total lender => total + lender.calls) 0

end Memory

inductive Provider where
  | pool (index : Nat)
  | lender (index : Nat)
deriving DecidableEq, Repr

namespace Provider

def fillNext {σ : Type} (provider : Provider) (memory : Memory) (fill : Filler σ) (state : σ) :
    Acquisition × Memory × σ × List Log.Line :=
  match provider with
  | pool index =>
    match memory.pools[index]? with
    | none => (.refused, memory, state, [])
    | some asked =>
      let (acquired, filled, state, lines) := asked.fillNext fill state
      (acquired, { memory with pools := memory.pools.set index filled }, state, lines)
  | lender index =>
    match memory.lenders[index]? with
    | none => (.refused, memory, state, [])
    | some asked =>
      let (acquired, filled, state, lines) := asked.fillNext fill state
      (acquired, { memory with lenders := memory.lenders.set index filled }, state, lines)

/-- Takes back a buffer that was filled for nothing. A lender keeps account of its buffers
itself. -/
def release (provider : Provider) (memory : Memory) (handle : UInt64) : Memory :=
  match provider with
  | pool index => { memory with pools := memory.pools.modify index (·.release handle) }
  | lender _ => memory

end Provider

end LockScreen.Frame
