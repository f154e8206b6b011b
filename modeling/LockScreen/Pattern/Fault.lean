import LockScreen.Pattern.Span

namespace LockScreen.Pattern

inductive Reason where
  | backreference
  | badClassEscape
  | badDecimal
  | badHexDigit
  | badNameCharacter
  | badProperty
  | badRange
  | badRepetitionRange
  | badScalar
  | caselessUnicode
  | danglingNegation
  | duplicateFlag
  | duplicateName
  | emptyHex
  | emptyName
  | emptyRepetitionCount
  | endInBoundary
  | endInEscape
  | endInFlags
  | endInName
  | invalidUtf8
  | lookAround
  | nothingToRepeat
  | rangeWithoutLiteral
  | repeatedNegation
  | tooDeep
  | unclosedBoundary
  | unclosedClass
  | unclosedCount
  | unclosedGroup
  | unicodeClass
  | unknownBoundary
  | unknownEscape
  | unknownFlag
  | unknownProperty
  | unknownPropertyValue
  | unknownShorthand
  | unopenedGroup
deriving DecidableEq, Repr

def depthLimit : Nat := 250

def Reason.message : Reason → String
  | backreference => "backreferences are not supported"
  | badClassEscape => "invalid escape sequence found in character class"
  | badDecimal => "decimal literal invalid"
  | badHexDigit => "invalid hexadecimal digit"
  | badNameCharacter => "invalid capture group character"
  | badProperty => "invalid Unicode character class"
  | badRange => "invalid character class range, the start must be <= the end"
  | badRepetitionRange => "invalid repetition count range, the start must be <= the end"
  | badScalar => "hexadecimal literal is not a Unicode scalar value"
  | caselessUnicode =>
    "Unicode-aware case insensitivity matching is not available " ++
      "(make sure the unicode-case feature is enabled)"
  | danglingNegation => "dangling flag negation operator"
  | duplicateFlag => "duplicate flag"
  | duplicateName => "duplicate capture group name"
  | emptyHex => "hexadecimal literal empty"
  | emptyName => "empty capture group name"
  | emptyRepetitionCount => "repetition quantifier expects a valid decimal"
  | endInBoundary =>
    "found either the beginning of a special word boundary or a bounded repetition on a \\b " ++
      "with an opening brace, but no closing brace"
  | endInEscape => "incomplete escape sequence, reached end of pattern prematurely"
  | endInFlags => "expected flag but got end of regex"
  | endInName => "unclosed capture group name"
  | invalidUtf8 => "pattern can match invalid UTF-8"
  | lookAround => "look-around, including look-ahead and look-behind, is not supported"
  | nothingToRepeat => "repetition operator missing expression"
  | rangeWithoutLiteral => "invalid range boundary, must be a literal"
  | repeatedNegation => "flag negation operator repeated"
  | tooDeep => s!"exceed the maximum number of nested parentheses/brackets ({depthLimit})"
  | unclosedBoundary =>
    "special word boundary assertion is either unclosed or contains an invalid character"
  | unclosedClass => "unclosed character class"
  | unclosedCount => "unclosed counted repetition"
  | unclosedGroup => "unclosed group"
  | unicodeClass => "Unicode not allowed here"
  | unknownBoundary =>
    "unrecognized special word boundary assertion, " ++
      "valid choices are: start, end, start-half or end-half"
  | unknownEscape => "unrecognized escape sequence"
  | unknownFlag => "unrecognized flag"
  | unknownProperty => "Unicode property not found"
  | unknownPropertyValue => "Unicode property value not found"
  | unknownShorthand =>
    "Unicode-aware Perl class not found (make sure the unicode-perl feature is enabled)"
  | unopenedGroup => "unopened group"

structure Fault where
  reason : Reason
  span : Span
  other : Option Span
deriving DecidableEq, Repr

end LockScreen.Pattern
