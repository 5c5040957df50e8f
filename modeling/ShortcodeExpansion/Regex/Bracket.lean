import ShortcodeExpansion.Regex.Escape

/-!
# Bracketed classes

Reads a class in brackets.  Brackets nest, and two dots, signs or letters between brackets are
joined by operators of one precedence, so what is open is kept on a stack: a bracket with the items
read before it, or an operator with its left side.
-/

set_option autoImplicit false

namespace ShortcodeExpansion.Regex

open Cursor (fail)

/-- Items that lie side by side, last first. -/
structure ItemRun where
  span : Span
  items : List ClassItem := []

namespace ItemRun

def push (run : ItemRun) (item : ClassItem) : ItemRun :=
  let start := if run.items.isEmpty then item.span.start else run.span.start
  ⟨⟨start, item.span.stop⟩, item :: run.items⟩

def toItem (run : ItemRun) : ClassItem :=
  match run.items with
  | [] => .empty run.span
  | [item] => item
  | items => .union run.span items.reverse

end ItemRun

/-- What is open while a class is read. -/
inductive ClassFrame where
  /-- A bracket: the items before it, its place up to its first item, and whether it is negated. -/
  | bracket (before : ItemRun) (span : Span) (negated : Bool)
  | operator (operator : SetOperator) (left : ClassSet)

/-- The place of the innermost open bracket. -/
def innermostBracket (start : Position) : List ClassFrame → Span
  | [] => .point start
  | .bracket _ span _ :: _ => span
  | .operator _ _ :: rest => innermostBracket start rest

/-- Joins a right side to the operator that waits for it, if one does. -/
def closeOperator (frames : List ClassFrame) (right : ClassSet) : List ClassFrame × ClassSet :=
  match frames with
  | .operator op left :: rest =>
      (rest, .binary ⟨left.span.start, right.span.stop⟩ op left right)
  | _ => (frames, right)

/-- The hyphens at the start of a class stand for themselves. -/
def readHyphens (start : Position) (run : ItemRun) (c : Cursor) :
    Nat → Except Fault (ItemRun × Cursor)
  | 0 => .ok (run, c)
  | fuel + 1 =>
      if c.at? '-' then
        let run := run.push (.literal ⟨c.charSpan, '-', false⟩)
        let c := c.advance
        if c.isEnd then fail (.point start) .classUnclosed else readHyphens start run c fuel
      else .ok (run, c)

/-- Opens a class; the cursor stands on the bracket.  A closing bracket right after the opening is a
member. -/
def openBracket (before : ItemRun) (c : Cursor) :
    Except Fault (ClassFrame × ItemRun × Cursor) := do
  let start := c.pos
  let c := c.advance
  if c.isEnd then fail ⟨start, c.pos⟩ .classUnclosed
  else
    let negated := c.at? '^'
    let c := if negated then c.advance else c
    if c.isEnd then fail ⟨start, c.pos⟩ .classUnclosed
    else
      let (run, c) ← readHyphens start ⟨.point c.pos, []⟩ c c.rest.length
      if run.items.isEmpty && c.at? ']' then
        let run := run.push (.literal ⟨c.charSpan, ']', false⟩)
        let c := c.advance
        if c.isEnd then fail ⟨start, c.pos⟩ .classUnclosed
        else .ok (.bracket before ⟨start, c.pos⟩ negated, run, c)
      else .ok (.bracket before ⟨start, c.pos⟩ negated, run, c)

def asciiKind? (name : String) : Option AsciiKind :=
  match name with
  | "alnum" => some .alnum
  | "alpha" => some .alpha
  | "ascii" => some .ascii
  | "blank" => some .blank
  | "cntrl" => some .cntrl
  | "digit" => some .digit
  | "graph" => some .graph
  | "lower" => some .lower
  | "print" => some .print
  | "punct" => some .punct
  | "space" => some .space
  | "upper" => some .upper
  | "word" => some .word
  | "xdigit" => some .xdigit
  | _ => none

def takeToColon (name : List Char) (c : Cursor) : Nat → List Char × Cursor
  | 0 => (name.reverse, c)
  | fuel + 1 =>
      match c.rest with
      | [] => (name.reverse, c)
      | char :: _ =>
          if char = ':' then (name.reverse, c) else takeToColon (char :: name) c.bump fuel

/-- A class such as `[:alpha:]`, if one comes next; the cursor stands on its bracket. -/
def readAsciiClass? (c : Cursor) : Option (ClassItem × Cursor) :=
  let start := c.pos
  match c.bumpIf? ['[', ':'] with
  | none => none
  | some c =>
      let negated := c.at? '^'
      let c := if negated then c.bump else c
      let (name, c) := takeToColon [] c c.rest.length
      match c.bumpIf? [':', ']'] with
      | none => none
      | some c =>
          (asciiKind? (String.ofList name)).map fun kind => (.ascii ⟨start, c.pos⟩ kind negated, c)

/-- One member of a class, or an end of a range. -/
def readMember (c : Cursor) : Except Fault (Primitive × Cursor) :=
  match c.rest with
  | '\\' :: _ => readEscape c
  | char :: _ => .ok (.literal ⟨c.charSpan, char, false⟩, c.bump)
  | [] => fail (.point c.pos) .classUnclosed

def Primitive.toClassItem : Primitive → Except Fault ClassItem
  | .literal l => .ok (.literal l)
  | .shorthand s => .ok (.shorthand s)
  | .property p => .ok (.property p)
  | .dot span => fail span .classEscapeInvalid
  | .assertion span _ => fail span .classEscapeInvalid

/-- An end of a range has to be a single character. -/
def Primitive.toRangeEnd : Primitive → Except Fault Literal
  | .literal l => .ok l
  | other => fail other.span .classRangeLiteral

/-- A member, or a range of two; `unclosed` is the place to blame if the pattern ends. -/
def readRange (unclosed : Span) (c : Cursor) : Except Fault (ClassItem × Cursor) := do
  let (first, c) ← readMember c
  let c := c.bumpSpace
  if c.isEnd then fail unclosed .classUnclosed
  else if !c.at? '-' || c.peekSpace? = some ']' || c.peekSpace? = some '-' then
    let item ← first.toClassItem
    .ok (item, c)
  else
    let c := c.advance
    if c.isEnd then fail unclosed .classUnclosed
    else
      let (last, c) ← readMember c
      let low ← first.toRangeEnd
      let high ← last.toRangeEnd
      let span : Span := ⟨first.span.start, last.span.stop⟩
      if high.char < low.char then fail span .classRangeInvalid
      else .ok (.range span low high, c)

/-- The operator of two signs that comes next, if one does. -/
def setOperator? (c : Cursor) : Option SetOperator :=
  match c.rest with
  | '&' :: '&' :: _ => some .intersection
  | '-' :: '-' :: _ => some .difference
  | '~' :: '~' :: _ => some .symmetricDifference
  | _ => none

/-- Reads members until the outermost bracket is closed. -/
def readMembers (start : Position) (frames : List ClassFrame) (run : ItemRun) (c : Cursor) :
    Nat → Except Fault (Ast × Cursor)
  | 0 => fail (innermostBracket start frames) .classUnclosed
  | fuel + 1 =>
      let c := c.bumpSpace
      match c.rest with
      | [] => fail (innermostBracket start frames) .classUnclosed
      | '[' :: _ =>
          match readAsciiClass? c with
          | some (item, c) => readMembers start frames (run.push item) c fuel
          | none =>
              match openBracket run c with
              | .error fault => .error fault
              | .ok (frame, run, c) => readMembers start (frame :: frames) run c fuel
      | ']' :: _ =>
          match closeOperator frames (.item run.toItem) with
          | (.bracket before span negated :: outer, set) =>
              let c := c.bump
              let span : Span := ⟨span.start, c.pos⟩
              if outer.isEmpty then .ok (.bracketed span negated set, c)
              else readMembers start outer (before.push (.bracketed span negated set)) c fuel
          | _ => fail (innermostBracket start frames) .classUnclosed
      | _ =>
          match setOperator? c with
          | some op =>
              let c := c.bump.bump
              let (outer, left) := closeOperator frames (.item run.toItem)
              readMembers start (.operator op left :: outer) ⟨.point c.pos, []⟩ c fuel
          | none =>
              match readRange (innermostBracket start frames) c with
              | .error fault => .error fault
              | .ok (item, c) => readMembers start frames (run.push item) c fuel

/-- Reads a class; the cursor stands on its opening bracket. -/
def readBracketed (c : Cursor) : Except Fault (Ast × Cursor) := do
  let (frame, run, inner) ← openBracket ⟨.point c.pos, []⟩ c
  readMembers c.pos [frame] run inner (inner.rest.length + 1)

end ShortcodeExpansion.Regex
