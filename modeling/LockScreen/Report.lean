import LockScreen.Text.Lines

namespace LockScreen

open LockScreen.Text

inductive Ending (ε : Type) where
  | done
  | failed (fault : ε)
  | crashed
deriving DecidableEq, Repr

def Ending.ofExcept {ε : Type} : Except ε Unit → Ending ε
  | .ok () => .done
  | .error fault => .failed fault

structure Report where
  message : String
  /-- The immediate cause first. -/
  causes : List String
deriving DecidableEq, Repr

namespace Report

def ofMessage (message : String) : Report := ⟨message, []⟩

def within (report : Report) (message : String) : Report :=
  ⟨message, report.message :: report.causes⟩

def chain (report : Report) : String :=
  ": ".intercalate (report.message :: report.causes)

/-- A cause behind a margin. If it goes on on further lines, these stand below each other. -/
def behind (margin cause : String) : String :=
  let blank := String.ofList ('\n' :: List.replicate margin.length ' ')
  margin ++ blank.intercalate ((pieces '\n' cause.toList).map String.ofList)

def numbered (entry : String × Nat) : String :=
  let number := toString entry.2
  behind (String.ofList (List.replicate (5 - number.length) ' ') ++ number ++ ": ") entry.1

def lines (report : Report) : List String :=
  let causes :=
    match report.causes with
    | [] => []
    | [cause] => ["", "Caused by:", behind "    " cause]
    | causes => ["", "Caused by:"] ++ (causes.zip (List.range causes.length)).map numbered
  (s!"Error: {report.message}" :: causes).flatMap rows

end Report

end LockScreen
