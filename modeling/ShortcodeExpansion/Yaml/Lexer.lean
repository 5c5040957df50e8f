import ShortcodeExpansion.Yaml.BlockScalar
import ShortcodeExpansion.Yaml.Directive
import ShortcodeExpansion.Yaml.PlainScalar
import ShortcodeExpansion.Yaml.QuotedScalar

/-!
# Cutting a YAML text into tokens

A lexer goes through the text from left to right.  It keeps the margins of the blocks that are open,
and the place where a key may have begun: that a token was a key shows only at the colon after it,
and the sign for the key is then put in front of it.
-/

set_option autoImplicit false

namespace ShortcodeExpansion.Yaml

/-- A place where a key may have begun. -/
structure KeyStart where
  /-- The number of tokens before it. -/
  token : Nat
  /-- Whether nothing but a key may stand there. -/
  required : Bool
  place : Cursor

/-- A key stands on one line and has at most 1024 characters before its colon. -/
def KeyStart.inReach (start : KeyStart) (c : Cursor) : Bool :=
  start.place.line = c.line && c.index ≤ start.place.index + 1024

structure Lexer where
  cursor : Cursor
  tokens : Array Token := #[]
  /-- The least column at which the innermost block goes on. -/
  margin : Nat := 0
  /-- The margins of the blocks around it, inner ones first. -/
  outerMargins : List Nat := []
  /-- Where a key may have begun. -/
  keyStart : Option KeyStart := none
  /-- The same for what is around each flow collection that is open, inner ones first. -/
  outerKeyStarts : List (Option KeyStart) := []
  /-- Whether a key may begin here. -/
  keyAllowed : Bool := true

namespace Lexer

def inFlow (l : Lexer) : Bool := !l.outerKeyStarts.isEmpty

def push (l : Lexer) (token : Token) : Lexer := { l with tokens := l.tokens.push token }

def pushSign (l : Lexer) (token : Token) (width : Nat) : Lexer :=
  { l.push token with cursor := l.cursor.advance width }

def allowKey (l : Lexer) (allowed : Bool) : Lexer := { l with keyAllowed := allowed }

/-- Past spaces, comments and line breaks.  Where a key may begin a tab is not skipped.  A mark of
the byte order may start a line, and takes up its first column. -/
def skipGaps : Nat → Lexer → Lexer
  | 0, l => l
  | fuel + 1, l =>
      let c := l.cursor
      let c := if c.column = 0 && c.isNext '\ufeff' then c.skip else c
      let c := c.skipWhile fun char => char = ' ' || (l.inFlow || !l.keyAllowed) && char = '\t'
      let c := if c.isNext '#' then c.skipWhile (!isBreak ·) else c
      match c.takeBreak? with
      | some (_, next) =>
          skipGaps fuel { l with cursor := next, keyAllowed := l.keyAllowed || !l.inFlow }
      | none => { l with cursor := c }

/-- A start that a key cannot have any more; it is a fault if there has to be one. -/
def dropIfOut (c : Cursor) : Option KeyStart → Option (Option KeyStart)
  | none => some none
  | some start =>
      if start.inReach c then some (some start) else if start.required then none else some none

def dropOutOfReach (l : Lexer) : Option Lexer := do
  let keyStart ← dropIfOut l.cursor l.keyStart
  let outerKeyStarts ← l.outerKeyStarts.mapM (dropIfOut l.cursor)
  some { l with keyStart, outerKeyStarts }

/-- Drops the place where a key may have begun. -/
def dropKeyStart (l : Lexer) : Option Lexer :=
  if l.keyStart.any (·.required) then none else some { l with keyStart := none }

/-- Notes that a key may begin here, if one may. -/
def noteKeyStart (l : Lexer) : Option Lexer := do
  if !l.keyAllowed then some l
  else
    let l ← l.dropKeyStart
    let required := !l.inFlow && l.margin = l.cursor.column + 1
    some { l with keyStart := some ⟨l.tokens.size, required, l.cursor⟩ }

/-- Opens a block at a column, unless one is open there; its sign goes before a token. -/
def openBlock (l : Lexer) (column position : Nat) (token : Token) : Lexer :=
  if l.inFlow || column < l.margin then l
  else { l with
    margin := column + 1
    outerMargins := l.margin :: l.outerMargins
    tokens := l.tokens.insertIdxIfInBounds position token }

/-- Closes the blocks with margins over the given one. -/
def closeMargins (margin : Nat) (l : Lexer) : List Nat → Lexer
  | [] => l
  | outer :: rest =>
      if l.margin ≤ margin then l
      else closeMargins margin { l.push .blockEnd with margin := outer, outerMargins := rest } rest

/-- Closes the blocks that do not reach a margin; in a flow collection there are none. -/
def closeBlocks (l : Lexer) (margin : Nat) : Lexer :=
  if l.inFlow then l else closeMargins margin l l.outerMargins

/-- The end of the text. -/
def finish (l : Lexer) : Option Lexer := do
  let l ← (l.closeBlocks 0).dropKeyStart
  some (l.push .streamEnd)

def lexDirective (l : Lexer) : Option Lexer := do
  let l ← (l.closeBlocks 0).dropKeyStart
  let (token, cursor) ← readDirective l.cursor.skip
  some { (l.push token).allowKey false with cursor }

def lexMarker (l : Lexer) (token : Token) : Option Lexer := do
  let l ← (l.closeBlocks 0).dropKeyStart
  some ((l.pushSign token 3).allowKey false)

def lexFlowStart (l : Lexer) (token : Token) : Option Lexer := do
  let l ← l.noteKeyStart
  some { (l.pushSign token 1).allowKey true with
    keyStart := none
    outerKeyStarts := l.keyStart :: l.outerKeyStarts }

def lexFlowEnd (l : Lexer) (token : Token) : Option Lexer := do
  let l ← l.dropKeyStart
  let l := match l.outerKeyStarts with
    | [] => l
    | keyStart :: outerKeyStarts => { l with keyStart, outerKeyStarts }
  some ((l.pushSign token 1).allowKey false)

def lexFlowEntry (l : Lexer) : Option Lexer := do
  let l ← l.dropKeyStart
  some ((l.pushSign .flowEntry 1).allowKey true)

/-- Opens a block here, where a key may begin. -/
def openHere (l : Lexer) (token : Token) : Option Lexer :=
  if l.inFlow then some l
  else if l.keyAllowed then some (l.openBlock l.cursor.column l.tokens.size token)
  else none

def lexBlockEntry (l : Lexer) : Option Lexer := do
  let l ← (← l.openHere .blockSequenceStart).dropKeyStart
  some ((l.pushSign .blockEntry 1).allowKey true)

def lexKey (l : Lexer) : Option Lexer := do
  let l ← (← l.openHere .blockMappingStart).dropKeyStart
  some ((l.pushSign .key 1).allowKey (!l.inFlow))

def lexValue (l : Lexer) : Option Lexer := do
  match l.keyStart with
  | some start =>
      let l := { l with
        tokens := l.tokens.insertIdxIfInBounds start.token .key
        keyStart := none }
      let l := l.openBlock start.place.column start.token .blockMappingStart
      some ((l.pushSign .value 1).allowKey false)
  | none =>
      let l ← l.openHere .blockMappingStart
      some ((l.pushSign .value 1).allowKey (!l.inFlow))

def lexAlias (l : Lexer) : Option Lexer := do
  let l ← l.noteKeyStart
  let (name, cursor) ← readName l.cursor.skip
  some { (l.push (.alias name)).allowKey false with cursor }

def lexAnchor (l : Lexer) : Option Lexer := do
  let l ← l.noteKeyStart
  let (name, cursor) ← readName l.cursor.skip
  some { (l.push (.anchor name)).allowKey false with cursor }

def lexTag (l : Lexer) : Option Lexer := do
  let l ← l.noteKeyStart
  let (handle, suffix, cursor) ← readTag l.inFlow l.cursor
  some { (l.push (.tag handle suffix)).allowKey false with cursor }

def lexBlockScalar (l : Lexer) (folded : Bool) : Option Lexer := do
  let l ← l.dropKeyStart
  let (text, cursor) ← readBlock folded l.margin l.cursor.skip
  some { (l.push (.scalar .block text)).allowKey true with cursor }

def lexQuoted (l : Lexer) (quote : Quote) : Option Lexer := do
  let l ← l.noteKeyStart
  let (text, cursor) ← readQuoted quote l.cursor.skip
  some { (l.push (.scalar .quoted text)).allowKey false with cursor }

def lexPlain (l : Lexer) : Option Lexer := do
  let l ← l.noteKeyStart
  let plain ← readPlain l.inFlow l.margin l.cursor
  some { (l.push (.scalar .plain (String.ofList plain.text))).allowKey plain.endsLine with
    cursor := plain.after }

/-- The token that starts with a character. -/
def lexAt (l : Lexer) (char : Char) : Option Lexer :=
  let c := l.cursor
  if c.column = 0 && char = '%' then l.lexDirective
  else if c.atMarker '-' then l.lexMarker .documentStart
  else if c.atMarker '.' then l.lexMarker .documentEnd
  else match char with
  | '[' => l.lexFlowStart .flowSequenceStart
  | '\x7b' => l.lexFlowStart .flowMappingStart
  | ']' => l.lexFlowEnd .flowSequenceEnd
  | '\x7d' => l.lexFlowEnd .flowMappingEnd
  | ',' => l.lexFlowEntry
  | '*' => l.lexAlias
  | '&' => l.lexAnchor
  | '!' => l.lexTag
  | '\'' => l.lexQuoted .single
  | '"' => l.lexQuoted .double
  | '-' => if c.gapAt 1 then l.lexBlockEntry else l.lexPlain
  | '?' => if l.inFlow || c.gapAt 1 then l.lexKey else l.lexPlain
  | ':' => if l.inFlow || c.gapAt 1 then l.lexValue else l.lexPlain
  | '|' => if l.inFlow then none else l.lexBlockScalar false
  | '>' => if l.inFlow then none else l.lexBlockScalar true
  | _ => if isGap char || isIndicator char then none else l.lexPlain

/-- The next token, where there is nothing left to skip. -/
def lexNext (l : Lexer) : Option Lexer := do
  let l ← l.dropOutOfReach
  match l.cursor.char? with
  | none => l.finish
  | some char => (l.closeBlocks (l.cursor.column + 1)).lexAt char

/-- All tokens.  As each takes a character, what is left of the fuel will do for the gaps before
it. -/
def run : Nat → Lexer → Option (List Token)
  | 0, _ => none
  | fuel + 1, l => do
      let l := skipGaps (fuel + 1) l
      let next ← l.lexNext
      if l.cursor.atEnd then some next.tokens.toList else run fuel next

end Lexer

/-- The tokens of a text; none if it cannot be cut into tokens. -/
def tokens? (text : String) : Option (List Token) :=
  let chars := text.toList
  if chars.all isPermitted then Lexer.run (chars.length + 2) { cursor := { rest := chars } }
  else none

theorem tokens?_ofList (chars : List Char) :
    tokens? (.ofList chars) =
      if chars.all isPermitted then Lexer.run (chars.length + 2) { cursor := { rest := chars } }
      else none := by
  rw [tokens?, String.toList_ofList]

end ShortcodeExpansion.Yaml
