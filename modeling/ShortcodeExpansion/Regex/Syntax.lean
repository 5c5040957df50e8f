import ShortcodeExpansion.Regex.Span

/-!
# The syntax of patterns

The tree that a pattern's text is read into.  Every node keeps its place in the text, since a fault
may be found only after the whole pattern has been read.
-/

set_option autoImplicit false

namespace ShortcodeExpansion.Regex

/-- A character of the pattern.  `isByte` marks one written as `\x` with two digits, which names a
byte where Unicode is switched off. -/
structure Literal where
  span : Span
  char : Char
  isByte : Bool := false
deriving DecidableEq, Repr, Inhabited

inductive ShorthandKind where
  | digit
  | space
  | word
deriving DecidableEq, Repr, Inhabited

/-- `\d`, `\s`, `\w` and their negations. -/
structure Shorthand where
  span : Span
  kind : ShorthandKind
  negated : Bool
deriving DecidableEq, Repr, Inhabited

/-- What stands after `\p`. -/
inductive PropertyQuery where
  | letter (c : Char)
  | named (name : String)
  | valued (name value : String)
deriving DecidableEq, Repr, Inhabited

structure PropertyClass where
  span : Span
  query : PropertyQuery
  negated : Bool
deriving DecidableEq, Repr, Inhabited

inductive AsciiKind where
  | alnum | alpha | ascii | blank | cntrl | digit | graph | lower | print | punct | space | upper
  | word | xdigit
deriving DecidableEq, Repr, Inhabited

inductive SetOperator where
  | intersection
  | difference
  | symmetricDifference
deriving DecidableEq, Repr, Inhabited

mutual

/-- The inside of a bracketed class. -/
inductive ClassSet where
  | item (item : ClassItem)
  | binary (span : Span) (operator : SetOperator) (left right : ClassSet)
deriving Repr

inductive ClassItem where
  | empty (span : Span)
  | literal (literal : Literal)
  | range (span : Span) (first last : Literal)
  | ascii (span : Span) (kind : AsciiKind) (negated : Bool)
  | property (property : PropertyClass)
  | shorthand (shorthand : Shorthand)
  | bracketed (span : Span) (negated : Bool) (set : ClassSet)
  | union (span : Span) (items : List ClassItem)
deriving Repr

end

def ClassItem.span : ClassItem → Span
  | .empty span => span
  | .literal l => l.span
  | .range span _ _ => span
  | .ascii span _ _ => span
  | .property p => p.span
  | .shorthand s => s.span
  | .bracketed span _ _ => span
  | .union span _ => span

def ClassSet.span : ClassSet → Span
  | .item i => i.span
  | .binary span _ _ _ => span

inductive AssertionKind where
  | startLine
  | endLine
  | startText
  | endText
  | wordBoundary
  | notWordBoundary
  | wordStart
  | wordEnd
  | wordStartHalf
  | wordEndHalf
deriving DecidableEq, Repr, Inhabited

inductive Flag where
  | caseInsensitive
  | multiLine
  | dotMatchesNewLine
  | swapGreed
  | unicode
  | crlf
  | ignoreWhitespace
deriving DecidableEq, Repr, Inhabited

/-- Flags to switch on, then flags to switch off. -/
structure FlagChange where
  on : List Flag
  off : List Flag
deriving DecidableEq, Repr, Inhabited

def FlagChange.state? (change : FlagChange) (flag : Flag) : Option Bool :=
  if flag ∈ change.on then some true else if flag ∈ change.off then some false else none

inductive GroupKind where
  | capture (index : Nat) (name : Option String)
  | plain (change : FlagChange)
deriving DecidableEq, Repr, Inhabited

/-- What stands alone in a sequence: it needs no other piece of syntax. -/
inductive Primitive where
  | literal (literal : Literal)
  | dot (span : Span)
  | assertion (span : Span) (kind : AssertionKind)
  | shorthand (shorthand : Shorthand)
  | property (property : PropertyClass)
deriving DecidableEq, Repr, Inhabited

def Primitive.span : Primitive → Span
  | .literal l => l.span
  | .dot span => span
  | .assertion span _ => span
  | .shorthand s => s.span
  | .property p => p.span

/-- A pattern, read. -/
inductive Ast where
  | empty (span : Span)
  | flags (span : Span) (change : FlagChange)
  | primitive (primitive : Primitive)
  | bracketed (span : Span) (negated : Bool) (set : ClassSet)
  | repetition (span : Span) (min : Nat) (max : Option Nat) (greedy : Bool) (body : Ast)
  | group (span : Span) (kind : GroupKind) (body : Ast)
  | alternation (span : Span) (branches : List Ast)
  | sequence (span : Span) (parts : List Ast)
deriving Repr, Inhabited

def Ast.span : Ast → Span
  | .empty span => span
  | .flags span _ => span
  | .primitive p => p.span
  | .bracketed span _ _ => span
  | .repetition span _ _ _ _ => span
  | .group span _ _ => span
  | .alternation span _ => span
  | .sequence span _ => span

end ShortcodeExpansion.Regex
