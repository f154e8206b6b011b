import LockScreen.Wire.Transfer

/-!
A pipe: a queue of bytes with a non-blocking reading end. Room is given out in pages, and a page is
free again only when all its bytes are read; this decides when a writer that does not wait is
refused.
-/

namespace LockScreen.Wire

def pageSize : Nat := 4096

def pageLimit : Nat := 16

/-- A page of the buffer: the bytes written to it so far, and those of them not read yet. -/
structure Page where
  filled : Nat
  unread : Nat
deriving DecidableEq, Repr

namespace Page

def fresh : Nat → Nat → List Page
  | 0, _ => []
  | _ + 1, 0 => []
  | limit + 1, n =>
    let part := Nat.min n pageSize
    ⟨part, part⟩ :: fresh limit (n - part)

def topUp? (n : Nat) : List Page → Option (List Page)
  | [] => none
  | [page] =>
    if page.filled + n ≤ pageSize then some [⟨page.filled + n, page.unread + n⟩] else none
  | page :: rest => (topUp? n rest).map (page :: ·)

def consume : Nat → List Page → List Page
  | 0, pages => pages
  | _, [] => []
  | n, page :: rest =>
    if page.unread ≤ n then consume (n - page.unread) rest
    else ⟨page.filled, page.unread - n⟩ :: rest

def unreadTotal : List Page → Nat
  | [] => 0
  | page :: rest => page.unread + unreadTotal rest

end Page

structure Pipe where
  queue : List UInt8
  pages : List Page
  readerOpen : Bool
  writerOpen : Bool
  writerWaits : Bool
deriving DecidableEq, Repr

namespace Pipe

def new : Pipe := ⟨[], [], true, true, true⟩

/-- The pages after as much as possible of `n` bytes was placed: the odd part of a page goes to the
last page if it fits there whole, all else to new pages. -/
def place (pipe : Pipe) (n : Nat) : List Page :=
  let grow (pages : List Page) (n : Nat) :=
    pages ++ Page.fresh (if pipe.writerWaits then n else pageLimit - pages.length) n
  let odd := n % pageSize
  if odd = 0 then grow pipe.pages n
  else
    match Page.topUp? odd pipe.pages with
    | some pages => grow pages (n - odd)
    | none => grow pipe.pages n

def write (pipe : Pipe) (bytes : List UInt8) : Except Errno Nat × Pipe :=
  if bytes.isEmpty then (.ok 0, pipe)
  else if !pipe.readerOpen then (.error .brokenPipe, pipe)
  else
    let pages := pipe.place bytes.length
    let taken := Page.unreadTotal pages - Page.unreadTotal pipe.pages
    if taken = 0 then (.error .again, pipe)
    else (.ok taken, { pipe with queue := pipe.queue ++ bytes.take taken, pages })

def read (pipe : Pipe) (limit : Nat) : Except Errno (List UInt8) × Pipe :=
  if pipe.queue.isEmpty then
    (if pipe.writerOpen then .error .again else .ok [], pipe)
  else
    let bytes := pipe.queue.take limit
    (.ok bytes,
      { pipe with queue := pipe.queue.drop limit, pages := Page.consume bytes.length pipe.pages })

def receive (pipe : Pipe) : Except Error (Option Record) × Pipe × List Log.Line :=
  let (bytes, pipe) := pipe.read recordLength
  let (result, lines) := received bytes
  (result, pipe, lines)

def send (pipe : Pipe) (record : Record) : Except Error Unit × Pipe × List Log.Line :=
  let (written, pipe) := pipe.write record.encode
  let (result, lines) := sent record written
  (result, pipe, lines)

/-- Receives until there is nothing more to receive, and gives all outcomes, the last one included.
An unknown kind does not end it. -/
def receiveSome : (fuel : Nat) → Pipe → List (Except Error (Option Record)) × Pipe × List Log.Line
  | 0, pipe => ([], pipe, [])
  | fuel + 1, pipe =>
    match pipe.receive with
    | (.ok (some record), pipe, lines) =>
      let (outcomes, pipe, later) := receiveSome fuel pipe
      (.ok (some record) :: outcomes, pipe, lines ++ later)
    | (.error (.unknownKind tag), pipe, lines) =>
      let (outcomes, pipe, later) := receiveSome fuel pipe
      (.error (.unknownKind tag) :: outcomes, pipe, lines ++ later)
    | (outcome, pipe, lines) => ([outcome], pipe, lines)

def receiveAll (pipe : Pipe) : List (Except Error (Option Record)) × Pipe × List Log.Line :=
  receiveSome (pipe.queue.length + 1) pipe

def sendRepeatedly (record : Record) : (times : Nat) → Pipe → Except Error Unit × Pipe
  | 0, pipe => (.ok (), pipe)
  | times + 1, pipe =>
    match pipe.send record with
    | (.ok (), pipe, _) => sendRepeatedly record times pipe
    | (.error fault, pipe, _) => (.error fault, pipe)

def closeReader (pipe : Pipe) : Pipe :=
  { pipe with readerOpen := false }

def closeWriter (pipe : Pipe) : Pipe :=
  { pipe with writerOpen := false }

end Pipe

end LockScreen.Wire
