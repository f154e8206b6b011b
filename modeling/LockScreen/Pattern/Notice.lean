import LockScreen.Pattern.Fault
import LockScreen.Text.Lines

namespace LockScreen.Pattern

open LockScreen.Text

def repeated (c : Char) (count : Nat) : String :=
  String.ofList (List.replicate count c)

namespace Fault

def spans (fault : Fault) : List Span :=
  match fault.other with
  | none => [fault.span]
  | some other => if other.before fault.span then [other, fault.span] else [fault.span, other]

/-- Carets under the stretches of a line, the first of which counts from a column on. An empty
stretch gets a caret too. -/
def carets (column : Nat) : List Span → String
  | [] => ""
  | span :: rest =>
    let length := Nat.max 1 (span.stop.column - span.start.column)
    let gap := span.start.column - 1 - column
    repeated ' ' gap ++ repeated '^' length ++ carets (column + gap + length) rest

def numberWidth (pattern : List Char) : Nat :=
  let count := (lines pattern).length + if pattern.getLast? = some '\n' then 1 else 0
  if count ≤ 1 then 0 else (toString count).length

def markedLine (width : Nat) (spans : List Span) (entry : List Char × Nat) : List String :=
  let number := toString (entry.2 + 1)
  let margin :=
    if width = 0 then "    " else repeated ' ' (width - number.length) ++ number ++ ": "
  let marks := spans.filter fun span => span.onOneLine && span.start.line = entry.2 + 1
  let under := if marks.isEmpty then [] else [repeated ' ' margin.length ++ carets 0 marks]
  (margin ++ String.ofList entry.1) :: under

def remark (span : Span) : String :=
  s!"on line {span.start.line} (column {span.start.column}) through line {span.stop.line} " ++
    s!"(column {span.stop.column - 1})"

def notice (fault : Fault) (pattern : List Char) : List String :=
  let all := lines pattern
  let marked :=
    (all.zip (List.range all.length)).flatMap (markedLine (numberWidth pattern) fault.spans)
  let divider := if pattern.contains '\n' then [repeated '~' 79] else []
  let remarks :=
    if pattern.contains '\n' then (fault.spans.filter (!·.onOneLine)).map remark else []
  "regex parse error:" :: divider ++ marked ++ divider ++ remarks ++
    [s!"error: {fault.reason.message}"]

end Fault

end LockScreen.Pattern
