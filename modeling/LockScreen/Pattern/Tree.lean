import LockScreen.Pattern.Span

namespace LockScreen.Pattern

structure Literal where
  char : Char
  span : Span
  byte : Bool
deriving DecidableEq, Repr

inductive AsciiClass where
  | alnum | alpha | ascii | blank | cntrl | digit | graph
  | lower | print | punct | space | upper | word | xdigit
deriving DecidableEq, Repr

inductive Shorthand where
  | digit
  | space
  | word
deriving DecidableEq, Repr

inductive Property where
  | named (name : List Char)
  | valued (name value : List Char)
deriving DecidableEq, Repr

inductive Assertion where
  | lineStart
  | lineEnd
  | textStart
  | textEnd
  | wordEdge
  | noWordEdge
  | wordStart
  | wordEnd
  | wordStartHalf
  | wordEndHalf
deriving DecidableEq, Repr

inductive Flag where
  | caseless
  | multiLine
  | dotAll
  | swapGreed
  | unicode
  | carriageReturns
  | spacious
deriving DecidableEq, Repr

/-- Flags that are turned on or off, from the left on. -/
abbrev FlagSettings := List (Flag × Bool)

inductive SetOperation where
  | intersection
  | difference
  | symmetricDifference
deriving DecidableEq, Repr

inductive ClassTree where
  | empty (span : Span)
  | literal (literal : Literal)
  | range (span : Span) (first last : Literal)
  | ascii (span : Span) (kind : AsciiClass) (negated : Bool)
  | property (span : Span) (property : Property) (negated : Bool)
  | shorthand (span : Span) (kind : Shorthand) (negated : Bool)
  | bracketed (span : Span) (negated : Bool) (inside : ClassTree)
  | union (span : Span) (items : List ClassTree)
  | operation (span : Span) (operation : SetOperation) (left right : ClassTree)

def ClassTree.span : ClassTree → Span
  | empty span | range span .. | ascii span .. | property span .. | shorthand span ..
  | bracketed span .. | union span _ | operation span .. => span
  | literal char => char.span

inductive Tree where
  | empty (span : Span)
  | flags (span : Span) (settings : FlagSettings)
  | literal (literal : Literal)
  | dot (span : Span)
  | assertion (span : Span) (assertion : Assertion)
  | property (span : Span) (property : Property) (negated : Bool)
  | shorthand (span : Span) (kind : Shorthand) (negated : Bool)
  | bracketed (span : Span) (negated : Bool) (inside : ClassTree)
  | repetition (span : Span) (least : Nat) (most : Option Nat) (greedy : Bool) (inside : Tree)
  | group (span : Span) (settings : Option FlagSettings) (inside : Tree)
  | sequence (span : Span) (parts : List Tree)
  | alternation (span : Span) (branches : List Tree)

def Tree.span : Tree → Span
  | empty span | flags span _ | dot span | assertion span _ | property span .. | shorthand span ..
  | bracketed span .. | repetition span .. | group span .. | sequence span _
  | alternation span _ => span
  | literal char => char.span

end LockScreen.Pattern
