import CodeFormatting.Regex.Expression
import CodeFormatting.Text.Pieces
namespace CodeFormatting.Regex

/-! Why a pattern is refused. A message shows the pattern with marks under the part that is
meant, and under a second part that has to do with it. -/

inductive Cause
  | classEscapeInvalid
  | classRangeInvalid
  | classRangeLiteral
  | classUnclosed
  | decimalEmpty
  | decimalInvalid
  | hexadecimalEmpty
  | hexadecimalInvalid
  | hexadecimalDigit
  | escapeUnfinished
  | escapeUnrecognized
  | flagDanglingNegation
  | flagDuplicate
  | flagRepeatedNegation
  | flagUnfinished
  | flagUnrecognized
  | groupNameDuplicate
  | groupNameEmpty
  | groupNameInvalid
  | groupNameUnfinished
  | groupUnclosed
  | groupUnopened
  | nestingTooDeep (limit : Nat)
  | repetitionCountInvalid
  | repetitionCountEmpty
  | repetitionCountUnclosed
  | repetitionMissing
  | wordBoundaryUnclosed
  | wordBoundaryUnrecognized
  | wordBoundaryUnfinished
  | propertyInvalid
  | backreference
  | lookAround
  | propertyNotAllowed
  | notText
  | propertyNotFound
  | propertyValueNotFound
  | classNotAvailable
  | caseNotAvailable
  deriving DecidableEq, Repr

def Cause.message : Cause → String
  | .classEscapeInvalid => "invalid escape sequence found in character class"
  | .classRangeInvalid =>
    "invalid character class range, the start must be <= the end"
  | .classRangeLiteral => "invalid range boundary, must be a literal"
  | .classUnclosed => "unclosed character class"
  | .decimalEmpty => "decimal literal empty"
  | .decimalInvalid => "decimal literal invalid"
  | .hexadecimalEmpty => "hexadecimal literal empty"
  | .hexadecimalInvalid => "hexadecimal literal is not a Unicode scalar value"
  | .hexadecimalDigit => "invalid hexadecimal digit"
  | .escapeUnfinished => "incomplete escape sequence, reached end of pattern prematurely"
  | .escapeUnrecognized => "unrecognized escape sequence"
  | .flagDanglingNegation => "dangling flag negation operator"
  | .flagDuplicate => "duplicate flag"
  | .flagRepeatedNegation => "flag negation operator repeated"
  | .flagUnfinished => "expected flag but got end of regex"
  | .flagUnrecognized => "unrecognized flag"
  | .groupNameDuplicate => "duplicate capture group name"
  | .groupNameEmpty => "empty capture group name"
  | .groupNameInvalid => "invalid capture group character"
  | .groupNameUnfinished => "unclosed capture group name"
  | .groupUnclosed => "unclosed group"
  | .groupUnopened => "unopened group"
  | .nestingTooDeep limit =>
    "exceed the maximum number of nested parentheses/brackets (" ++ toString limit ++ ")"
  | .repetitionCountInvalid =>
    "invalid repetition count range, the start must be <= the end"
  | .repetitionCountEmpty => "repetition quantifier expects a valid decimal"
  | .repetitionCountUnclosed => "unclosed counted repetition"
  | .repetitionMissing => "repetition operator missing expression"
  | .wordBoundaryUnclosed =>
    "special word boundary assertion is either unclosed or contains an invalid character"
  | .wordBoundaryUnrecognized =>
    "unrecognized special word boundary assertion, valid choices are: start, end, start-half " ++
      "or end-half"
  | .wordBoundaryUnfinished =>
    "found either the beginning of a special word boundary or a bounded repetition on a \\b " ++
      "with an opening brace, but no closing brace"
  | .propertyInvalid => "invalid Unicode character class"
  | .backreference => "backreferences are not supported"
  | .lookAround => "look-around, including look-ahead and look-behind, is not supported"
  | .propertyNotAllowed => "Unicode not allowed here"
  | .notText => "pattern can match invalid UTF-8"
  | .propertyNotFound => "Unicode property not found"
  | .propertyValueNotFound => "Unicode property value not found"
  | .classNotAvailable =>
    "Unicode-aware Perl class not found (make sure the unicode-perl feature is enabled)"
  | .caseNotAvailable =>
    "Unicode-aware case insensitivity matching is not available (make sure the unicode-case " ++
      "feature is enabled)"

/-- A refusal with the part of the pattern that is meant and a part that it refers to. -/
structure Fault where
  cause : Cause
  span : Span
  other : Option Span := none
  deriving DecidableEq, Repr

inductive Error
  | fault (pattern : String) (found : Fault)
  | tooLarge (limit : Nat)
  | notAvailable
  deriving DecidableEq, Repr

namespace Span

def isOneLine (span : Span) : Bool :=
  span.start.line = span.stop.line

def isBefore (left right : Span) : Bool :=
  left.start.offset < right.start.offset ||
    (left.start.offset = right.start.offset && left.stop.offset ≤ right.stop.offset)

/-- The marks for spans of one line, from a column on. -/
def marks : Nat → List Span → String
  | _, [] => ""
  | column, span :: rest =>
    let blanks := span.start.column - 1 - column
    let count := max 1 (span.stop.column - span.start.column)
    String.ofList (List.replicate blanks ' ' ++ List.replicate count '^') ++
      marks (column + blanks + count) rest

end Span

namespace Fault

def spans (fault : Fault) : List Span :=
  (fault.span :: fault.other.toList).mergeSort Span.isBefore

/-- How many columns the numbers of so many lines take up; a single line has no number. -/
def numberWidth (lineCount : Nat) : Nat :=
  if lineCount ≤ 1 then 0 else (toString lineCount).length

def lineLabel (width number : Nat) : String :=
  if width = 0 then "    "
  else
    let digits := toString number
    String.ofList (List.replicate (width - digits.length) ' ') ++ digits ++ ": "

/-- The lines of a pattern, each with the marks that belong to it. -/
def annotated (spans : List Span) (width : Nat) : Nat → List String → String
  | _, [] => ""
  | number, line :: rest =>
    let here := spans.filter fun span => span.isOneLine && span.start.line == number
    let padding := String.ofList (List.replicate (if width = 0 then 4 else width + 2) ' ')
    lineLabel width number ++ line ++ "\n" ++
      (if here.isEmpty then "" else padding ++ Span.marks 0 here ++ "\n") ++
      annotated spans width (number + 1) rest

def remark (span : Span) : String :=
  "on line " ++ toString span.start.line ++ " (column " ++ toString span.start.column ++
    ") through line " ++ toString span.stop.line ++ " (column " ++
    toString (span.stop.column - 1) ++ ")"

def report (pattern : String) (fault : Fault) : String :=
  let lines := Text.lines pattern
  let count := lines.length + (if pattern.endsWith "\n" then 1 else 0)
  let noted := annotated fault.spans (numberWidth count) 1 lines
  let start := "regex parse error:\n"
  let finish := "error: " ++ fault.cause.message
  if Text.contains '\n' pattern then
    let divider := String.ofList (List.replicate 79 '~') ++ "\n"
    let remarks := (fault.spans.filter fun span => !span.isOneLine).map remark
    start ++ divider ++ noted ++ divider ++
      (if remarks.isEmpty then "" else "\n".intercalate remarks ++ "\n") ++ finish
  else start ++ noted ++ finish

end Fault

def Error.message : Error → String
  | .fault pattern found => found.report pattern
  | .tooLarge limit => "Compiled regex exceeds size limit of " ++ toString limit ++ " bytes."
  | .notAvailable => "error building NFA"

end CodeFormatting.Regex
