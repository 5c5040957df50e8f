import ShortcodeExpansion.Regex.Span

/-!
# Faults of a pattern

What can be wrong with the text of a regular expression, each with the place where it was found, and
the report that shows the pattern with the places marked.  In a pattern of several lines the lines
are numbered, and a place that covers several lines is described in words.
-/

set_option autoImplicit false

namespace ShortcodeExpansion.Regex

/-- The causes for which a pattern is refused. -/
inductive FaultKind where
  | classEscapeInvalid
  | classRangeInvalid
  | classRangeLiteral
  | classUnclosed
  | decimalEmpty
  | decimalInvalid
  | escapeHexEmpty
  | escapeHexInvalid
  | escapeHexInvalidDigit
  | escapeUnexpectedEnd
  | escapeUnrecognized
  | flagDanglingNegation
  | flagDuplicate (first : Span)
  | flagRepeatedNegation (first : Span)
  | flagUnexpectedEnd
  | flagUnrecognized
  | groupNameDuplicate (first : Span)
  | groupNameEmpty
  | groupNameInvalid
  | groupNameUnexpectedEnd
  | groupUnclosed
  | groupUnopened
  | nestingTooDeep (limit : Nat)
  | repetitionCountInvalid
  | repetitionCountEmpty
  | repetitionCountUnclosed
  | repetitionMissing
  | wordBoundaryUnclosed
  | wordBoundaryUnrecognized
  | wordBoundaryUnexpectedEnd
  | propertyInvalid
  | backreference
  | lookAround
  | unicodeNotAllowed
  | invalidUtf8
  | propertyNotFound
  | propertyValueNotFound
deriving DecidableEq, Repr, Inhabited

namespace FaultKind

def message : FaultKind → String
  | classEscapeInvalid => "invalid escape sequence found in character class"
  | classRangeInvalid => "invalid character class range, the start must be <= the end"
  | classRangeLiteral => "invalid range boundary, must be a literal"
  | classUnclosed => "unclosed character class"
  | decimalEmpty => "decimal literal empty"
  | decimalInvalid => "decimal literal invalid"
  | escapeHexEmpty => "hexadecimal literal empty"
  | escapeHexInvalid => "hexadecimal literal is not a Unicode scalar value"
  | escapeHexInvalidDigit => "invalid hexadecimal digit"
  | escapeUnexpectedEnd => "incomplete escape sequence, reached end of pattern prematurely"
  | escapeUnrecognized => "unrecognized escape sequence"
  | flagDanglingNegation => "dangling flag negation operator"
  | flagDuplicate _ => "duplicate flag"
  | flagRepeatedNegation _ => "flag negation operator repeated"
  | flagUnexpectedEnd => "expected flag but got end of regex"
  | flagUnrecognized => "unrecognized flag"
  | groupNameDuplicate _ => "duplicate capture group name"
  | groupNameEmpty => "empty capture group name"
  | groupNameInvalid => "invalid capture group character"
  | groupNameUnexpectedEnd => "unclosed capture group name"
  | groupUnclosed => "unclosed group"
  | groupUnopened => "unopened group"
  | nestingTooDeep limit =>
      s!"exceed the maximum number of nested parentheses/brackets ({limit})"
  | repetitionCountInvalid => "invalid repetition count range, the start must be <= the end"
  | repetitionCountEmpty => "repetition quantifier expects a valid decimal"
  | repetitionCountUnclosed => "unclosed counted repetition"
  | repetitionMissing => "repetition operator missing expression"
  | wordBoundaryUnclosed =>
      "special word boundary assertion is either unclosed or contains an invalid character"
  | wordBoundaryUnrecognized =>
      "unrecognized special word boundary assertion, " ++
        "valid choices are: start, end, start-half or end-half"
  | wordBoundaryUnexpectedEnd =>
      "found either the beginning of a special word boundary or a bounded repetition on a \\b " ++
        "with an opening brace, but no closing brace"
  | propertyInvalid => "invalid Unicode character class"
  | backreference => "backreferences are not supported"
  | lookAround => "look-around, including look-ahead and look-behind, is not supported"
  | unicodeNotAllowed => "Unicode not allowed here"
  | invalidUtf8 => "pattern can match invalid UTF-8"
  | propertyNotFound => "Unicode property not found"
  | propertyValueNotFound => "Unicode property value not found"

/-- The earlier place that a fault refers to. -/
def earlier? : FaultKind → Option Span
  | flagDuplicate first | flagRepeatedNegation first | groupNameDuplicate first => some first
  | _ => none

end FaultKind

/-- A cause with the place where it was found. -/
structure Fault where
  kind : FaultKind
  span : Span
deriving DecidableEq, Repr, Inhabited

namespace Fault

/-- The lines of a text.  A line feed ends a line, with the carriage return before it; a text that
ends in one has no further line. -/
def linesFrom (current : List Char) : List Char → List (List Char)
  | [] => if current.isEmpty then [] else [current.reverse]
  | '\n' :: rest =>
      let line := match current with
        | '\r' :: before => before
        | _ => current
      line.reverse :: linesFrom [] rest
  | c :: rest => linesFrom (c :: current) rest

def lines (text : String) : List String := (linesFrom [] text.toList).map String.ofList

def spaces (n : Nat) : List Char := List.replicate n ' '

/-- The marks under a line; `column` is the number of columns already written. -/
def marksFrom (column : Nat) : List Span → List Char
  | [] => []
  | span :: rest =>
      let gap := (span.start.column - 1) - column
      let width := max 1 (span.stop.column - span.start.column)
      spaces gap ++ List.replicate width '^' ++ marksFrom (column + gap + width) rest

/-- The pattern's lines from line `number` on, each with the marks of its spans below it; `width` is
the room for line numbers. -/
def notate (width : Nat) (spans : List Span) (number : Nat) : List String → String
  | [] => ""
  | line :: rest =>
      let shown := toString number
      let margin :=
        if width = 0 then String.ofList (spaces 4)
        else String.ofList (spaces (width - shown.length)) ++ shown ++ ": "
      let here := spans.filter fun span => span.start.line = number
      let marks :=
        if here.isEmpty then ""
        else
          let indent := if width = 0 then 4 else 2 + width
          String.ofList (spaces indent ++ marksFrom 0 here) ++ "\n"
      margin ++ line ++ "\n" ++ marks ++ notate width spans (number + 1) rest

/-- What is said of a span that covers several lines. -/
def describe (span : Span) : String :=
  s!"on line {span.start.line} (column {span.start.column}) " ++
    s!"through line {span.stop.line} (column {span.stop.column - 1})"

def report (pattern : String) (fault : Fault) : String :=
  let spans := (fault.span :: fault.kind.earlier?.toList).mergeSort Span.precedes
  let shownLines := lines pattern
  let lineCount := shownLines.length + (if pattern.toList.getLast? = some '\n' then 1 else 0)
  let width := if lineCount ≤ 1 then 0 else (toString lineCount).length
  let notated := notate width (spans.filter (·.isOneLine)) 1 shownLines
  let across := spans.filter fun span => !span.isOneLine
  if pattern.toList.contains '\n' then
    let divider := String.ofList (List.replicate 79 '~') ++ "\n"
    let notes :=
      if across.isEmpty then "" else "\n".intercalate (across.map describe) ++ "\n"
    "regex parse error:\n" ++ divider ++ notated ++ divider ++ notes ++
      "error: " ++ fault.kind.message
  else
    "regex parse error:\n" ++ notated ++ "error: " ++ fault.kind.message

end Fault

end ShortcodeExpansion.Regex
