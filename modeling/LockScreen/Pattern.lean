import LockScreen.Log.Filter
import LockScreen.Pattern.Footprint
import LockScreen.Pattern.Lead
import LockScreen.Pattern.Meaning
import LockScreen.Pattern.Notice
import LockScreen.Pattern.Reading
import LockScreen.Pattern.Search

namespace LockScreen

open LockScreen.Text

structure Pattern where
  expression : Pattern.Expression

namespace Pattern

inductive Refusal where
  | fault (pattern : List Char) (found : Fault)
  | tooLarge
  | unknownEdge

def roomLimit : Nat := 10485760

def Refusal.message : Refusal → String
  | fault pattern found => "\n".intercalate (found.notice pattern)
  | tooLarge => s!"Compiled regex exceeds size limit of {roomLimit} bytes."
  | unknownEdge => "error building NFA"

/-- An expression that there is room for. Few texts take no automaton. -/
def ofExpression (expression : Expression) : Except Refusal Pattern :=
  if expression.isFewTexts then .ok ⟨expression⟩
  else if roomLimit < expression.totalRoom .forwards then .error .tooLarge
  else if expression.isForeign then .error .unknownEdge
  else if roomLimit < expression.totalRoom .backwards then .error .tooLarge
  else .ok ⟨expression⟩

def ofText (text : List Char) : Except Refusal Pattern :=
  match (do Meaning.ofTree .usual (← Tree.ofPattern text)) with
  | .error fault => .error (.fault text fault)
  | .ok (expression, _) => ofExpression expression

/-- These patterns as a library for log filters. -/
def library : Log.Patterns where
  Pattern := Pattern
  read text := (ofText text).mapError Refusal.message
  occursIn pattern text := pattern.expression.occursIn text

end Pattern

end LockScreen
