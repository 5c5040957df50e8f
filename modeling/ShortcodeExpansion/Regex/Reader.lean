import ShortcodeExpansion.Regex.Bracket
import ShortcodeExpansion.Text.WordChar

/-!
# Reading patterns

Reads the text of a pattern into its syntax tree, or finds the first fault in it.  A pattern is read
from left to right in one loop; the groups that are open are kept on a stack, each with what was
read before it.
-/

set_option autoImplicit false

namespace ShortcodeExpansion.Regex

open Cursor (fail)

/-- How deep groups, repetitions, classes and sequences may lie in each other. -/
def nestingLimit : Nat := 250

/-- A sequence that is being read, after the finished branches of its alternation. -/
structure OpenSequence where
  /-- Where the first branch starts. -/
  start : Position
  /-- Branches that are finished, last first. -/
  branches : List Ast := []
  /-- Where the sequence starts. -/
  partStart : Position
  /-- Parts read so far, last first. -/
  parts : List Ast := []

namespace OpenSequence

def new (pos : Position) : OpenSequence := { start := pos, partStart := pos }

def push (seq : OpenSequence) (part : Ast) : OpenSequence := { seq with parts := part :: seq.parts }

/-- The branch being read, which ends here. -/
def branch (seq : OpenSequence) (stop : Position) : Ast :=
  match seq.parts with
  | [] => .empty ⟨seq.partStart, stop⟩
  | [part] => part
  | parts => .sequence ⟨seq.partStart, stop⟩ parts.reverse

/-- Ends a branch at a bar; the next starts after it. -/
def split (seq : OpenSequence) (stop next : Position) : OpenSequence :=
  { start := seq.start, branches := seq.branch stop :: seq.branches, partStart := next }

/-- All that was read, which ends here. -/
def finish (seq : OpenSequence) (stop : Position) : Ast :=
  match seq.branches with
  | [] => seq.branch stop
  | branches => .alternation ⟨seq.start, stop⟩ (branches.reverse ++ [seq.branch stop])

end OpenSequence

structure OpenGroup where
  outer : OpenSequence
  span : Span
  kind : GroupKind
  /-- Whether blanks were skipped before the group. -/
  extended : Bool

/-- What an opening parenthesis begins: a group, or a change of flags for the rest of the one it
stands in. -/
inductive Opening where
  | group (span : Span) (kind : GroupKind)
  | flags (span : Span) (change : FlagChange)

/-- Letters and the underscore start a group's name; digits, dots and brackets may follow. -/
def isGroupNameChar (first : Bool) (c : Char) : Bool :=
  if first then c = '_' || isAlphabetic c
  else c = '_' || c = '.' || c = '[' || c = ']' || isAlphanumeric c

/-- The characters of a group's name, up to the closing angle. -/
def readGroupNameChars (name : List Char) (c : Cursor) : Nat → Except Fault (List Char × Cursor)
  | 0 => .ok (name.reverse, c)
  | fuel + 1 =>
      match c.rest with
      | [] => fail (.point c.pos) .groupNameUnexpectedEnd
      | char :: _ =>
          if char = '>' then .ok (name.reverse, c)
          else if isGroupNameChar name.isEmpty char then
            readGroupNameChars (char :: name) c.bump fuel
          else fail c.charSpan .groupNameInvalid

/-- A group's name and the angle that closes it; no other group may have the name. -/
def readGroupName (c : Cursor) : Except Fault (String × Cursor) := do
  let start := c.pos
  let (name, c) ← readGroupNameChars [] c (c.rest.length + 1)
  let span : Span := ⟨start, c.pos⟩
  let c := c.bump
  if name.isEmpty then fail (.point start) .groupNameEmpty
  else
    let name := String.ofList name
    match c.names.find? fun entry => entry.1 = name with
    | some (_, first) => fail span (.groupNameDuplicate first)
    | none => .ok (name, { c with names := (name, span) :: c.names })

def flag? : Char → Option Flag
  | 'i' => some .caseInsensitive
  | 'm' => some .multiLine
  | 's' => some .dotMatchesNewLine
  | 'U' => some .swapGreed
  | 'u' => some .unicode
  | 'R' => some .crlf
  | 'x' => some .ignoreWhitespace
  | _ => none

/-- Flags that were read, in order, with their places, and the place of the minus sign among
them. -/
structure FlagRun where
  on : List (Flag × Span) := []
  off : List (Flag × Span) := []
  minus : Option Span := none

namespace FlagRun

def change (run : FlagRun) : FlagChange := ⟨run.on.map (·.1), run.off.map (·.1)⟩

def isEmpty (run : FlagRun) : Bool := run.on.isEmpty && run.off.isEmpty && run.minus.isNone

def push (run : FlagRun) (flag : Flag) (span : Span) : Except Fault FlagRun :=
  match (run.on ++ run.off).find? fun entry => entry.1 = flag with
  | some (_, first) => fail span (.flagDuplicate first)
  | none =>
      if run.minus.isSome then .ok { run with off := run.off ++ [(flag, span)] }
      else .ok { run with on := run.on ++ [(flag, span)] }

end FlagRun

/-- Reads flags up to a colon or a closing parenthesis. -/
def readFlags (run : FlagRun) (c : Cursor) : Nat → Except Fault (FlagRun × Cursor)
  | 0 => fail (.point c.pos) .flagUnexpectedEnd
  | fuel + 1 =>
      match c.rest with
      | [] => fail (.point c.pos) .flagUnexpectedEnd
      | char :: _ =>
          if char = ':' || char = ')' then
            match run.minus with
            | some span => if run.off.isEmpty then fail span .flagDanglingNegation else .ok (run, c)
            | none => .ok (run, c)
          else if char = '-' then
            match run.minus with
            | some first => fail c.charSpan (.flagRepeatedNegation first)
            | none => readFlags { run with minus := some c.charSpan } c.bump fuel
          else
            match flag? char with
            | none => fail c.charSpan .flagUnrecognized
            | some flag =>
                match run.push flag c.charSpan with
                | .error fault => .error fault
                | .ok run => readFlags run c.bump fuel

/-- The signs that would begin a look-around. -/
def lookAround? (c : Cursor) : Option Cursor :=
  ((c.bumpIf? ['?', '=']).or (c.bumpIf? ['?', '!'])).or
    ((c.bumpIf? ['?', '<', '=']).or (c.bumpIf? ['?', '<', '!']))

/-- What an opening parenthesis begins; the cursor stands on it. -/
def readOpening (c : Cursor) : Except Fault (Opening × Cursor) := do
  let openSpan := c.charSpan
  let c := c.advance
  match lookAround? c with
  | some after => fail ⟨openSpan.start, after.pos⟩ .lookAround
  | none =>
      match (c.bumpIf? ['?', 'P', '<']).or (c.bumpIf? ['?', '<']) with
      | some inner => do
          let index := c.groups + 1
          let (name, c) ← readGroupName { inner with groups := index }
          .ok (.group openSpan (.capture index (some name)), c)
      | none =>
          if c.at? '?' then
            let questionPos := c.pos
            let c := c.bump
            if c.isEnd then fail openSpan .groupUnclosed
            else
              let (run, c) ← readFlags {} c (c.rest.length + 1)
              let closes := c.at? ')'
              let c := c.bump
              if closes then
                if run.isEmpty then fail (.point questionPos) .repetitionMissing
                else .ok (.flags ⟨openSpan.start, c.pos⟩ run.change, c)
              else .ok (.group openSpan (.plain run.change), c)
          else
            let index := c.groups + 1
            .ok (.group openSpan (.capture index none), { c with groups := index })

/-- The part that a repetition operator applies to, and the parts before it. -/
def lastRepeatable? (seq : OpenSequence) : Option (Ast × OpenSequence) :=
  match seq.parts with
  | [] => none
  | .empty _ :: _ => none
  | .flags _ _ :: _ => none
  | part :: before => some (part, { seq with parts := before })

/-- Applies `?`, `*` or `+`; the cursor stands on it.  A question mark after it makes it lazy. -/
def readOperator (min : Nat) (max : Option Nat) (seq : OpenSequence) (c : Cursor) :
    Except Fault (OpenSequence × Cursor) :=
  match lastRepeatable? seq with
  | none => fail (.point c.pos) .repetitionMissing
  | some (body, seq) =>
      let c := c.bump
      let isLazy := c.at? '?'
      let c := if isLazy then c.bump else c
      .ok (seq.push (.repetition ⟨body.span.start, c.pos⟩ min max (!isLazy) body), c)

def skipBlankChars (c : Cursor) : Nat → Cursor
  | 0 => c
  | fuel + 1 =>
      match c.rest with
      | [] => c
      | char :: _ => if isBlankChar char then skipBlankChars c.advance fuel else c

def readCountDigits (digits : List Nat) (c : Cursor) : Nat → List Nat × Cursor
  | 0 => (digits, c)
  | fuel + 1 =>
      match c.rest with
      | [] => (digits, c)
      | char :: _ =>
          if char.isDigit then
            readCountDigits (digits ++ [char.toNat - '0'.toNat]) c.advance fuel
          else (digits, c)

/-- A count with blanks around it: a value below two to the 32nd, or what is wrong with it. -/
def readCount (c : Cursor) : Except Fault Nat × Cursor :=
  let c := skipBlankChars c c.rest.length
  let start := c.pos
  let (digits, c) := readCountDigits [] c c.rest.length
  let span : Span := ⟨start, c.pos⟩
  let after := skipBlankChars c c.rest.length
  if digits.isEmpty then (fail span .repetitionCountEmpty, after)
  else
    let value := digits.foldl (fun value digit => value * 10 + digit) 0
    if value < Nat.pow 2 32 then (.ok value, after) else (fail span .decimalInvalid, after)

/-- The least and the greatest count of a counted repetition, after its first count was read. -/
def readCountRange (start : Position) (first : Except Fault Nat) (c : Cursor) :
    Except Fault ((Nat × Option Nat) × Cursor) := do
  if c.at? ',' then
    let c := c.advance
    if c.isEnd then fail ⟨start, c.pos⟩ .repetitionCountUnclosed
    else if c.at? '\x7d' then
      let min ← first
      .ok ((min, none), c)
    else
      let min ← first
      let (second, c) := readCount c
      let max ← second
      .ok ((min, some max), c)
  else
    let min ← first
    .ok ((min, some min), c)

/-- Applies a counted repetition; the cursor stands on its opening brace. -/
def readCounted (seq : OpenSequence) (c : Cursor) : Except Fault (OpenSequence × Cursor) := do
  let start := c.pos
  match lastRepeatable? seq with
  | none => fail (.point start) .repetitionMissing
  | some (body, seq) =>
      let c := c.advance
      if c.isEnd then fail ⟨start, c.pos⟩ .repetitionCountUnclosed
      else
        let (first, c) := readCount c
        if c.isEnd then fail ⟨start, c.pos⟩ .repetitionCountUnclosed
        else
          let ((min, max), c) ← readCountRange start first c
          if !c.at? '\x7d' then fail ⟨start, c.pos⟩ .repetitionCountUnclosed
          else
            let c := c.advance
            let isLazy := c.at? '?'
            let c := if isLazy then c.bump else c
            if (max.map fun max => decide (max < min)).getD false then
              fail ⟨start, c.pos⟩ .repetitionCountInvalid
            else .ok (seq.push (.repetition ⟨body.span.start, c.pos⟩ min max (!isLazy) body), c)

/-- A part that needs no other: an escape, a dot, an anchor or a character. -/
def readPrimitive (c : Cursor) : Except Fault (Primitive × Cursor) :=
  match c.rest with
  | '\\' :: _ => readEscape c
  | '.' :: _ => .ok (.dot c.charSpan, c.bump)
  | '^' :: _ => .ok (.assertion c.charSpan .startLine, c.bump)
  | '$' :: _ => .ok (.assertion c.charSpan .endLine, c.bump)
  | char :: _ => .ok (.literal ⟨c.charSpan, char, false⟩, c.bump)
  | [] => fail (.point c.pos) .escapeUnexpectedEnd

/-- The tree of all that was read, when the pattern ends; no group may be open. -/
def finishPattern (groups : List OpenGroup) (seq : OpenSequence) (c : Cursor) :
    Except Fault (Ast × Cursor) :=
  match groups with
  | group :: _ => fail group.span .groupUnclosed
  | [] => .ok (seq.finish c.pos, c)

/-- Reads the parts of a pattern; each round takes at least one character. -/
def readParts (groups : List OpenGroup) (seq : OpenSequence) (c : Cursor) :
    Nat → Except Fault (Ast × Cursor)
  | 0 => finishPattern groups seq c
  | fuel + 1 =>
      let c := c.bumpSpace
      match c.rest with
      | [] => finishPattern groups seq c
      | '(' :: _ =>
          match readOpening c with
          | .error fault => .error fault
          | .ok (.flags span change, c) =>
              let extended := (change.state? .ignoreWhitespace).getD c.extended
              readParts groups (seq.push (.flags span change)) { c with extended } fuel
          | .ok (.group span kind, c) =>
              let extended := match kind with
                | .plain change => (change.state? .ignoreWhitespace).getD c.extended
                | .capture _ _ => c.extended
              readParts (⟨seq, span, kind, c.extended⟩ :: groups) (.new c.pos)
                { c with extended } fuel
      | ')' :: _ =>
          match groups with
          | [] => fail c.charSpan .groupUnopened
          | group :: outer =>
              let body := seq.finish c.pos
              let c := c.bump
              let ast := Ast.group ⟨group.span.start, c.pos⟩ group.kind body
              readParts outer (group.outer.push ast) { c with extended := group.extended } fuel
      | '|' :: _ => readParts groups (seq.split c.pos c.bump.pos) c.bump fuel
      | '[' :: _ =>
          match readBracketed c with
          | .error fault => .error fault
          | .ok (ast, c) => readParts groups (seq.push ast) c fuel
      | '?' :: _ =>
          match readOperator 0 (some 1) seq c with
          | .error fault => .error fault
          | .ok (seq, c) => readParts groups seq c fuel
      | '*' :: _ =>
          match readOperator 0 none seq c with
          | .error fault => .error fault
          | .ok (seq, c) => readParts groups seq c fuel
      | '+' :: _ =>
          match readOperator 1 none seq c with
          | .error fault => .error fault
          | .ok (seq, c) => readParts groups seq c fuel
      | '\x7b' :: _ =>
          match readCounted seq c with
          | .error fault => .error fault
          | .ok (seq, c) => readParts groups seq c fuel
      | _ =>
          match readPrimitive c with
          | .error fault => .error fault
          | .ok (primitive, c) => readParts groups (seq.push (.primitive primitive)) c fuel

/-- A fault if a node at a place lies deeper than the limit allows. -/
def checkDepth (depth : Nat) (span : Span) : Except Fault Unit :=
  if nestingLimit < depth then fail span (.nestingTooDeep nestingLimit) else .ok ()

mutual

/-- Checks the nesting of a class; `depth` is that of the node around it. -/
def checkClassSet (depth : Nat) : ClassSet → Except Fault Unit
  | .item item => checkClassItem depth item
  | .binary span _ left right => do
      checkDepth (depth + 1) span
      checkClassSet (depth + 1) left
      checkClassSet (depth + 1) right

def checkClassItem (depth : Nat) : ClassItem → Except Fault Unit
  | .bracketed span _ set => do
      checkDepth (depth + 1) span
      checkClassSet (depth + 1) set
  | .union span items => do
      checkDepth (depth + 1) span
      checkClassItems (depth + 1) items
  | _ => .ok ()

def checkClassItems (depth : Nat) : List ClassItem → Except Fault Unit
  | [] => .ok ()
  | item :: rest => do
      checkClassItem depth item
      checkClassItems depth rest

end

mutual

/-- Checks the nesting of a tree; `depth` is that of the node around it. -/
def checkNesting (depth : Nat) : Ast → Except Fault Unit
  | .bracketed span _ set => do
      checkDepth (depth + 1) span
      checkClassSet (depth + 1) set
  | .repetition span _ _ _ body => do
      checkDepth (depth + 1) span
      checkNesting (depth + 1) body
  | .group span _ body => do
      checkDepth (depth + 1) span
      checkNesting (depth + 1) body
  | .alternation span branches => do
      checkDepth (depth + 1) span
      checkAllNesting (depth + 1) branches
  | .sequence span parts => do
      checkDepth (depth + 1) span
      checkAllNesting (depth + 1) parts
  | .empty _ => .ok ()
  | .flags _ _ => .ok ()
  | .primitive _ => .ok ()

def checkAllNesting (depth : Nat) : List Ast → Except Fault Unit
  | [] => .ok ()
  | ast :: rest => do
      checkNesting depth ast
      checkAllNesting depth rest

end

/-- Reads a pattern into its tree. -/
def readPattern (pattern : String) : Except Fault Ast := do
  let chars := pattern.toList
  let (ast, _) ← readParts [] (.new {}) { rest := chars } (chars.length + 1)
  checkNesting 0 ast
  .ok ast

end ShortcodeExpansion.Regex
