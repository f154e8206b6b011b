import LockScreen.Log
import LockScreen.Text.Numeral
import LockScreen.Wire.Record

namespace LockScreen.Wire

open LockScreen.Text

def logTarget : String := "lockbridge::channel"

/-- The result of reading one record, from the bytes a system read gave. No bytes are the end of the
stream; a descriptor that would block has no record yet. -/
def received (read : Except Errno (List UInt8)) : Except Error (Option Record) × List Log.Line :=
  match read with
  | .error .again => (.ok none, [])
  | .error errno =>
    (.error (.io errno), [⟨.error, logTarget, s!"Failed to read event: {errno.message}"⟩])
  | .ok [] => (.error .closed, [])
  | .ok bytes =>
    match Record.decode bytes with
    | .error fault => (.error fault, [⟨.error, logTarget, fault.message⟩])
    | .ok record =>
      let first := Numeral.hex record.first.toNat
      let second := Numeral.hex record.second.toNat
      (.ok (some record),
        [⟨.trace, logTarget,
          s!"Event: {record.kind.name}; param 1: 0x{first}; param 2: 0x{second}"⟩])

/-- The result of sending one record, from the number of bytes a system write took: all or
nothing. -/
def sent (record : Record) (write : Except Errno Nat) : Except Error Unit × List Log.Line :=
  match write with
  | .error errno => (.error (.io errno), [])
  | .ok written =>
    if written = recordLength then
      (.ok (), [⟨.debug, logTarget, s!"Sent {record.kind.name} event"⟩])
    else (.error (.partialWrite written), [])

end LockScreen.Wire
