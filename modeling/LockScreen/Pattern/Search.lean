import LockScreen.Pattern.Expression

/-!
Whether a text has a match. A match is followed from all places of the text at once: an expression
leads from a set of places to the set of those where a match of it can end. Sets of places are lists
of marks, one before each character and one at the end.
-/

namespace LockScreen.Pattern

abbrev Marks := List Bool

namespace Marks

def join (marks others : Marks) : Marks :=
  List.zipWith (· || ·) marks others

def meet (marks others : Marks) : Marks :=
  List.zipWith (· && ·) marks others

/-- Follows a step so many times. Where it leads no further, it has been followed often enough. -/
def times (step : Marks → Marks) : Nat → Marks → Marks
  | 0, marks => marks
  | count + 1, marks =>
    let next := step marks
    if next = marks then marks else times step count next

def upTo (step : Marks → Marks) : Nat → Marks → Marks
  | 0, marks => marks
  | count + 1, marks =>
    let next := marks.join (step marks)
    if next = marks then marks else upTo step count next

def behind (test : Char → Bool) (text : List Char) (marks : Marks) : Marks :=
  false :: List.zipWith (fun c mark => mark && test c) text marks

def behindAll (text : List Char) (chars : List Char) (marks : Marks) : Marks :=
  chars.foldl (fun marks c => marks.behind (· = c) text) marks

def wherever (look : Look) (before : Option Char) : List Char → Marks
  | [] => [look.holds before none]
  | c :: rest => look.holds before (some c) :: wherever look (some c) rest

def none (text : List Char) : Marks :=
  List.replicate (text.length + 1) false

def all (text : List Char) : Marks :=
  List.replicate (text.length + 1) true

end Marks

namespace Expression

mutual

/-- Where a match can end, if it starts in one of some places. -/
def follow (text : List Char) : Expression → Marks → Marks
  | .literal chars, marks => marks.behindAll text chars
  | .oneOf _ set, marks => marks.behind set.contains text
  | .look asked, marks => marks.meet (Marks.wherever asked none text)
  | .foreign _, _ => Marks.none text
  | .repetition least most _ inside, marks =>
    let further := (most.map (· - least)).getD (text.length + 1)
    Marks.upTo (follow text inside) further (Marks.times (follow text inside) least marks)
  | .captured inside, marks => follow text inside marks
  | .sequence parts, marks => followAll text parts marks
  | .choice branches, marks => followAny text branches marks

def followAll (text : List Char) : List Expression → Marks → Marks
  | [], marks => marks
  | part :: rest, marks => followAll text rest (follow text part marks)

def followAny (text : List Char) : List Expression → Marks → Marks
  | [], _ => Marks.none text
  | branch :: rest, marks => (follow text branch marks).join (followAny text rest marks)

end

def occursIn (expression : Expression) (text : List Char) : Bool :=
  (follow text expression (Marks.all text)).any id

end Expression

end LockScreen.Pattern
