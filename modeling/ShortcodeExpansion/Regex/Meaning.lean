import ShortcodeExpansion.Regex.Expr
import ShortcodeExpansion.Regex.Property
import ShortcodeExpansion.Text.Blank
import ShortcodeExpansion.Text.CaseFolding
import ShortcodeExpansion.Text.DecimalDigit
import ShortcodeExpansion.Text.WordChar

/-!
# From syntax to meaning

The expression that a syntax tree stands for under the flags in force.  Flags set inside a group
hold up to its end.  Where Unicode is switched off, a class may hold ASCII characters only, since
any other byte alone is not UTF-8.
-/

set_option autoImplicit false

namespace ShortcodeExpansion.Regex

structure Flags where
  caseInsensitive : Bool := false
  multiLine : Bool := false
  dotMatchesNewLine : Bool := false
  swapGreed : Bool := false
  unicode : Bool := true
  crlf : Bool := false
deriving DecidableEq, Repr, Inhabited

def Flags.apply (flags : Flags) (change : FlagChange) : Flags :=
  let get (flag : Flag) (old : Bool) : Bool := (change.state? flag).getD old
  { caseInsensitive := get .caseInsensitive flags.caseInsensitive
    multiLine := get .multiLine flags.multiLine
    dotMatchesNewLine := get .dotMatchesNewLine flags.dotMatchesNewLine
    swapGreed := get .swapGreed flags.swapGreed
    unicode := get .unicode flags.unicode
    crlf := get .crlf flags.crlf }

/-- The members of an ASCII class. -/
def AsciiKind.pairs : AsciiKind → List (Nat × Nat)
  | .alnum => [(0x30, 0x39), (0x41, 0x5A), (0x61, 0x7A)]
  | .alpha => [(0x41, 0x5A), (0x61, 0x7A)]
  | .ascii => [(0, 0x7F)]
  | .blank => [(0x9, 0x9), (0x20, 0x20)]
  | .cntrl => [(0, 0x1F), (0x7F, 0x7F)]
  | .digit => [(0x30, 0x39)]
  | .graph => [(0x21, 0x7E)]
  | .lower => [(0x61, 0x7A)]
  | .print => [(0x20, 0x7E)]
  | .punct => [(0x21, 0x2F), (0x3A, 0x40), (0x5B, 0x60), (0x7B, 0x7E)]
  | .space => [(0x9, 0xD), (0x20, 0x20)]
  | .upper => [(0x41, 0x5A)]
  | .word => [(0x30, 0x39), (0x41, 0x5A), (0x5F, 0x5F), (0x61, 0x7A)]
  | .xdigit => [(0x30, 0x39), (0x41, 0x46), (0x61, 0x66)]

def ShorthandKind.asciiKind : ShorthandKind → AsciiKind
  | .digit => .digit
  | .space => .space
  | .word => .word

def ShorthandKind.unicodeSet : ShorthandKind → CharSet
  | .digit => decimalDigitSet
  | .space => blankSet
  | .word => wordSet

/-- A set of ASCII characters, with the other case of each letter. -/
def asciiCaseClosure (s : CharSet) : CharSet :=
  let upper := s.inter (.ofPairs [(0x41, 0x5A)])
  let lower := s.inter (.ofPairs [(0x61, 0x7A)])
  .ofRanges (s.ranges ++ (upper.ranges.map fun r => ⟨r.lo + 32, r.hi + 32⟩) ++
    lower.ranges.map fun r => ⟨r.lo - 32, r.hi - 32⟩)

/-- A set with the other cases of its members, if case is ignored. -/
def foldCase (flags : Flags) (s : CharSet) : CharSet :=
  if !flags.caseInsensitive then s
  else if flags.unicode then s.caseClosure
  else asciiCaseClosure s

/-- A set or its complement.  Without Unicode a complement holds bytes that are not ASCII. -/
def negateIf (flags : Flags) (span : Span) (negated : Bool) (s : CharSet) : Except Fault CharSet :=
  if !negated then .ok s
  else if flags.unicode then .ok s.complement
  else .error ⟨.invalidUtf8, span⟩

/-- The character a literal stands for, if it is one where Unicode is switched off. -/
def literalChar (flags : Flags) (l : Literal) : Except Fault Char :=
  if !flags.unicode && l.isByte && 0x7F < l.char.toNat then .error ⟨.invalidUtf8, l.span⟩
  else .ok l.char

def classCode (flags : Flags) (l : Literal) : Except Fault Nat := do
  let char ← literalChar flags l
  if !flags.unicode && 0x7F < char.toNat then .error ⟨.unicodeNotAllowed, l.span⟩
  else .ok char.toNat

def shorthandSet (flags : Flags) (s : Shorthand) : Except Fault CharSet :=
  let members := if flags.unicode then s.kind.unicodeSet else .ofPairs s.kind.asciiKind.pairs
  negateIf flags s.span s.negated members

def propertySet (flags : Flags) (p : PropertyClass) : Except Fault CharSet :=
  if !flags.unicode then .error ⟨.unicodeNotAllowed, p.span⟩
  else
    match p.query.resolve with
    | .error kind => .error ⟨kind, p.span⟩
    | .ok set => negateIf flags p.span p.negated (foldCase flags set)

def SetOperator.apply : SetOperator → CharSet → CharSet → CharSet
  | .intersection, a, b => a.inter b
  | .difference, a, b => a.diff b
  | .symmetricDifference, a, b => a.symmDiff b

mutual

def classSetMembers (flags : Flags) : ClassSet → Except Fault CharSet
  | .item item => classItemMembers flags item
  | .binary _ operator left right => do
      let left ← classSetMembers flags left
      let right ← classSetMembers flags right
      .ok (operator.apply (foldCase flags left) (foldCase flags right))

def classItemMembers (flags : Flags) : ClassItem → Except Fault CharSet
  | .empty _ => .ok .empty
  | .literal l => do
      let code ← classCode flags l
      .ok (.ofPairs [(code, code)])
  | .range _ first last => do
      let low ← classCode flags first
      let high ← classCode flags last
      .ok (.ofPairs [(low, high)])
  | .ascii span kind negated => negateIf flags span negated (foldCase flags (.ofPairs kind.pairs))
  | .property p => propertySet flags p
  | .shorthand s => shorthandSet flags s
  | .bracketed span negated set => do
      let members ← classSetMembers flags set
      negateIf flags span negated (foldCase flags members)
  | .union _ items => classItemsMembers flags items

def classItemsMembers (flags : Flags) : List ClassItem → Except Fault CharSet
  | [] => .ok .empty
  | item :: rest => do
      let members ← classItemMembers flags item
      let more ← classItemsMembers flags rest
      .ok (members.union more)

end

def AssertionKind.look (flags : Flags) : AssertionKind → Look
  | .startLine =>
      if !flags.multiLine then .textStart else if flags.crlf then .anyLineStart else .lineStart
  | .endLine => if !flags.multiLine then .textEnd else if flags.crlf then .anyLineEnd else .lineEnd
  | .startText => .textStart
  | .endText => .textEnd
  | .wordBoundary => .word .boundary (!flags.unicode)
  | .notWordBoundary => .word .inside (!flags.unicode)
  | .wordStart => .word .start (!flags.unicode)
  | .wordEnd => .word .stop (!flags.unicode)
  | .wordStartHalf => .word .startHalf (!flags.unicode)
  | .wordEndHalf => .word .stopHalf (!flags.unicode)

def dotSet (flags : Flags) : CharSet :=
  if flags.dotMatchesNewLine then .all
  else if flags.crlf then (CharSet.ofPairs [(0xA, 0xA), (0xD, 0xD)]).complement
  else (CharSet.ofPairs [(0xA, 0xA)]).complement

def primitiveExpr (flags : Flags) : Primitive → Except Fault Expr
  | .literal l => do
      let char ← literalChar flags l
      let single := CharSet.singleton char
      .ok (.set (if flags.unicode || char.toNat < 0x80 then foldCase flags single else single))
  | .dot span =>
      if flags.unicode then .ok (.set (dotSet flags)) else .error ⟨.invalidUtf8, span⟩
  | .assertion _ kind => .ok (.look (kind.look flags))
  | .shorthand s => (shorthandSet flags s).map .set
  | .property p => (propertySet flags p).map .set

mutual

/-- The expression of a tree under flags, and the flags that hold after it. -/
def exprOf (flags : Flags) : Ast → Except Fault (Expr × Flags)
  | .empty _ => .ok (.empty, flags)
  | .flags _ change => .ok (.empty, flags.apply change)
  | .primitive p => do
      let expr ← primitiveExpr flags p
      .ok (expr, flags)
  | .bracketed span negated set => do
      let members ← classSetMembers flags set
      let chars ← negateIf flags span negated (foldCase flags members)
      .ok (.set chars, flags)
  | .repetition _ min max greedy body => do
      let (expr, after) ← exprOf flags body
      .ok (Expr.repeated min max (greedy != after.swapGreed) expr, after)
  | .group _ (.capture index name) body => do
      let (expr, _) ← exprOf flags body
      .ok (.group index name expr, flags)
  | .group _ (.plain change) body => do
      let (expr, _) ← exprOf (flags.apply change) body
      .ok (expr, flags)
  | .alternation _ branches => exprOfBranches flags branches
  | .sequence _ parts => exprOfParts flags .empty parts

/-- The sequence of an expression and the parts after it. -/
def exprOfParts (flags : Flags) (before : Expr) : List Ast → Except Fault (Expr × Flags)
  | [] => .ok (before, flags)
  | part :: rest => do
      let (expr, flags) ← exprOf flags part
      exprOfParts flags (before.andThen expr) rest

/-- The alternatives, first to last. -/
def exprOfBranches (flags : Flags) : List Ast → Except Fault (Expr × Flags)
  | [] => .ok (.empty, flags)
  | [branch] => exprOf flags branch
  | branch :: rest => do
      let (first, flags) ← exprOf flags branch
      let (others, flags) ← exprOfBranches flags rest
      .ok (.alt first others, flags)

end

end ShortcodeExpansion.Regex
