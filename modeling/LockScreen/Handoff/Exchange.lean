import LockScreen.Handoff

namespace LockScreen.Handoff

structure Exchange where
  heap : Heap
  owned : Option Buffer
  handle : Nat
deriving DecidableEq, Repr

inductive Step where
  | allocate (bytes : List UInt8)
  | expose
  | claim
  | discard
  | free
  | revise (change : Buffer → Buffer)

namespace Exchange

def new : Exchange := ⟨.new, none, 0⟩

/-- Takes the place of the owned buffer, which is released. -/
def own (exchange : Exchange) (next : Option Buffer × Heap) : Exchange :=
  let heap :=
    match exchange.owned with
    | some buffer => next.2.discard buffer
    | none => next.2
  { exchange with heap, owned := next.1 }

def apply (exchange : Exchange) : Step → Exchange
  | .allocate bytes =>
    match exchange.heap.allocate? bytes with
    | some (buffer, heap) => exchange.own (some buffer, heap)
    | none => exchange.own (none, exchange.heap)
  | .expose =>
    match exchange.owned with
    | some buffer =>
      let (handle, heap) := exchange.heap.expose buffer
      ⟨heap, none, handle⟩
    | none => exchange
  | .claim => { exchange.own (exchange.heap.claim exchange.handle) with handle := 0 }
  | .discard => exchange.own (none, exchange.heap)
  | .free => { exchange with heap := exchange.heap.free exchange.handle, handle := 0 }
  | .revise change => { exchange with heap := exchange.heap.revise exchange.handle change }

def waiting (exchange : Exchange) : Option Buffer :=
  exchange.heap.peek exchange.handle

def foreignCalls (exchange : Exchange) : Nat :=
  exchange.heap.freed.countP fun call => call.1 = .foreign

end Exchange

end LockScreen.Handoff
