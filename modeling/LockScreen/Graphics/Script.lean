import LockScreen.Graphics.Software
import LockScreen.Text.Numeral

namespace LockScreen.Graphics

open LockScreen.Text

namespace Fault

def valueOf (digits : String) : Nat :=
  match digits.toList with
  | '0' :: 'x' :: rest => (Numeral.digits? 16 0 rest).getD 0
  | digits => (Numeral.digits? 10 0 digits).getD 0

def callOf (digits : String) : Option Nat :=
  if digits.isEmpty then none else Numeral.digits? 10 0 digits.toList

def ofEntry? (entry : String) : Option Fault :=
  match entry.splitOn ":" with
  | [function, rest] =>
    match rest.splitOn "=" with
    | [call, value] => some ⟨function, callOf call, valueOf value⟩
    | _ => none
  | _ => none

def ofScript (script : String) : List Fault :=
  (script.splitOn ";").filterMap ofEntry?

end Fault

end LockScreen.Graphics
