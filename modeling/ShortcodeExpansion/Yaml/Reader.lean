import ShortcodeExpansion.Yaml.Lexer
import ShortcodeExpansion.Yaml.Node

/-!
# Reading YAML documents

Builds the tree of nodes from the tokens of a text.  A text holds at most one document; one that
holds none reads as a document without content.
-/

set_option autoImplicit false

namespace ShortcodeExpansion.Yaml

/-- What is left to read, and what the nodes read so far have defined. -/
structure NodeReader where
  tokens : List Token
  /-- What tag handles stand for. -/
  handles : List (String × String)
  /-- The anchors' names with their numbers, the latest first. -/
  anchors : List (String × Nat) := []

namespace NodeReader

def having (r : NodeReader) (tokens : List Token) : NodeReader := { r with tokens }

def anchor? (r : NodeReader) (name : String) : Option Nat :=
  (r.anchors.find? fun entry => entry.1 = name).map (·.2)

/-- Defines an anchor.  Its number is the number of names defined so far; a name that is defined
again gets a new number, and is counted once. -/
def define (r : NodeReader) (name : String) : Nat × NodeReader :=
  let number := r.anchors.length
  let others := r.anchors.filter fun entry => entry.1 ≠ name
  (number, { r with anchors := (name, number) :: others })

/-- The tag that a handle and a suffix make.  Without a handle the suffix is the tag. -/
def tag? (r : NodeReader) (handle suffix : String) : Option String :=
  if handle.isEmpty then some suffix
  else (r.handles.find? fun entry => entry.1 = handle).map fun entry => entry.2 ++ suffix

/-- The names of the anchor and the tag that come next, in either order. -/
def readPropertyNames : List Token → Option String × Option (String × String) × List Token
  | .anchor name :: .tag handle suffix :: rest => (some name, some (handle, suffix), rest)
  | .tag handle suffix :: .anchor name :: rest => (some name, some (handle, suffix), rest)
  | .anchor name :: rest => (some name, none, rest)
  | .tag handle suffix :: rest => (none, some (handle, suffix), rest)
  | tokens => (none, none, tokens)

def readProperties (r : NodeReader) : Option (Properties × NodeReader) := do
  let (name, tagParts, rest) := readPropertyNames r.tokens
  let tag ← match tagParts with
    | none => some none
    | some (handle, suffix) => (r.tag? handle suffix).map some
  match name with
  | none => some ({ tag }, r.having rest)
  | some name =>
      let (number, r) := r.define name
      some ({ anchor := some number, tag }, r.having rest)

/-- Whether a token ends a block's entry that is left out. -/
def endsBlockEntry (indentless : Bool) : Token → Bool
  | .blockEntry | .blockEnd => true
  | .key | .value => indentless
  | _ => false

def endsBlockPart : Token → Bool
  | .key | .value | .blockEnd => true
  | _ => false

def endsFlowKey : Token → Bool
  | .value | .flowEntry | .flowMappingEnd => true
  | _ => false

def endsFlowValue : Token → Bool
  | .flowEntry | .flowMappingEnd => true
  | _ => false

def endsFlowPairValue : Token → Bool
  | .flowEntry | .flowSequenceEnd => true
  | _ => false

/-- A lone exclamation mark before a scalar means nothing. -/
def scalarProperties (p : Properties) : Properties :=
  if p.tag = some "!" then { p with tag := none } else p

/-- Past the comma before an item of a flow collection; there is none before the first. -/
def skipComma (first : Bool) (r : NodeReader) : Option NodeReader :=
  if first then some r
  else
    match r.tokens with
    | .flowEntry :: rest => some (r.having rest)
    | _ => none

mutual

/-- The node that comes next.  A block's collections may stand only where `block` holds, and one
whose entries are not indented only where `indentless` holds. -/
def readNode : Nat → Bool → Bool → NodeReader → Option (Node × NodeReader)
  | 0, _, _, _ => none
  | fuel + 1, block, indentless, r =>
      match r.tokens with
      | .alias name :: rest => (r.anchor? name).map fun target => (.alias target, r.having rest)
      | _ => do
          let (p, r) ← readProperties r
          match r.tokens with
          | .scalar style text :: rest =>
              some (.scalar (scalarProperties p) style text, r.having rest)
          | .flowSequenceStart :: rest =>
              let (items, r) ← readFlowSequence fuel true (r.having rest)
              some (.sequence p items, r)
          | .flowMappingStart :: rest =>
              let (pairs, r) ← readFlowMapping fuel true (r.having rest)
              some (.mapping p pairs, r)
          | token :: rest =>
              if indentless && token = .blockEntry then
                let (items, r) ← readBlockSequence fuel true r
                some (.sequence p items, r)
              else if block && token = .blockSequenceStart then
                let (items, r) ← readBlockSequence fuel false (r.having rest)
                some (.sequence p items, r)
              else if block && token = .blockMappingStart then
                let (pairs, r) ← readBlockMapping fuel (r.having rest)
                some (.mapping p pairs, r)
              else if p = {} then none
              else some (.scalar p .plain "", r)
          | [] => none

/-- The node that comes next, or an empty one before certain tokens. -/
def readOptional : Nat → (Token → Bool) → Bool → Bool → NodeReader → Option (Node × NodeReader)
  | 0, _, _, _, _ => none
  | fuel + 1, stops, block, indentless, r =>
      if r.tokens.head?.any stops then some (.empty, r) else readNode fuel block indentless r

/-- The value after a colon, or an empty one. -/
def readValue : Nat → (Token → Bool) → Bool → NodeReader → Option (Node × NodeReader)
  | 0, _, _, _ => none
  | fuel + 1, stops, block, r =>
      match r.tokens with
      | .value :: rest => readOptional fuel stops block block (r.having rest)
      | _ => some (.empty, r)

/-- The entries of a block sequence.  One that is not indented ends where no entry follows. -/
def readBlockSequence : Nat → Bool → NodeReader → Option (List Node × NodeReader)
  | 0, _, _ => none
  | fuel + 1, indentless, r =>
      match r.tokens with
      | .blockEntry :: rest => do
          let (item, r) ← readOptional fuel (endsBlockEntry indentless) true false (r.having rest)
          let (items, r) ← readBlockSequence fuel indentless r
          some (item :: items, r)
      | .blockEnd :: rest => some ([], if indentless then r else r.having rest)
      | _ => if indentless then some ([], r) else none

def readBlockMapping : Nat → NodeReader → Option (List (Node × Node) × NodeReader)
  | 0, _ => none
  | fuel + 1, r =>
      match r.tokens with
      | .key :: rest => do
          let (key, r) ← readOptional fuel endsBlockPart true true (r.having rest)
          let (value, r) ← readValue fuel endsBlockPart true r
          let (pairs, r) ← readBlockMapping fuel r
          some ((key, value) :: pairs, r)
      | .blockEnd :: rest => some ([], r.having rest)
      | _ => none

def readFlowSequence : Nat → Bool → NodeReader → Option (List Node × NodeReader)
  | 0, _, _ => none
  | fuel + 1, first, r =>
      match r.tokens with
      | .flowSequenceEnd :: rest => some ([], r.having rest)
      | _ => do
          let r ← skipComma first r
          match r.tokens with
          | .flowSequenceEnd :: rest => some ([], r.having rest)
          | .key :: rest =>
              let (pair, r) ← readFlowPair fuel (r.having rest)
              let (items, r) ← readFlowSequence fuel false r
              some (.mapping {} [pair] :: items, r)
          | _ =>
              let (item, r) ← readNode fuel false false r
              let (items, r) ← readFlowSequence fuel false r
              some (item :: items, r)

/-- A pair that is an item of a flow sequence.  Where its key is left out, the token that shows so
is skipped. -/
def readFlowPair : Nat → NodeReader → Option ((Node × Node) × NodeReader)
  | 0, _ => none
  | fuel + 1, r => do
      let (key, r) ← match r.tokens with
        | .value :: rest | .flowEntry :: rest | .flowSequenceEnd :: rest =>
            some (Node.empty, r.having rest)
        | _ => readNode fuel false false r
      let (value, r) ← readValue fuel endsFlowPairValue false r
      some ((key, value), r)

def readFlowMapping : Nat → Bool → NodeReader → Option (List (Node × Node) × NodeReader)
  | 0, _, _ => none
  | fuel + 1, first, r =>
      match r.tokens with
      | .flowMappingEnd :: rest => some ([], r.having rest)
      | _ => do
          let r ← skipComma first r
          match r.tokens with
          | .flowMappingEnd :: rest => some ([], r.having rest)
          | .key :: rest =>
              let (key, r) ← readOptional fuel endsFlowKey false false (r.having rest)
              let (value, r) ← readValue fuel endsFlowValue false r
              let (pairs, r) ← readFlowMapping fuel false r
              some ((key, value) :: pairs, r)
          | _ =>
              let (key, r) ← readNode fuel false false r
              let (pairs, r) ← readFlowMapping fuel false r
              some ((key, .empty) :: pairs, r)

end

end NodeReader

/-- What the directives before a document say. -/
structure Directives where
  versioned : Bool := false
  handles : List (String × String) := []

/-- Versions 1.1 and 1.2 are known.  There is one version at most, and one meaning for a handle. -/
def readDirectives (d : Directives) : List Token → Option (Directives × List Token)
  | .version major minor :: rest =>
      if d.versioned || major ≠ 1 || (minor ≠ 1 && minor ≠ 2) then none
      else readDirectives { d with versioned := true } rest
  | .handle name uri :: rest =>
      if d.handles.any fun entry => entry.1 = name then none
      else readDirectives { d with handles := (name, uri) :: d.handles } rest
  | tokens => some (d, tokens)

/-- What handles stand for unless a directive says otherwise. -/
def standardHandles : List (String × String) := [("!", "!"), ("!!", "tag:yaml.org,2002:")]

/-- Whether a document that has begun is left without content before a token. -/
def endsDocument : Token → Bool
  | .version _ _ | .handle _ _ | .documentStart | .documentEnd | .streamEnd => true
  | _ => false

/-- The root of a document that begins with directives or a marker, and what follows it. -/
def readMarkedRoot (fuel : Nat) (tokens : List Token) : Option (Node × NodeReader) := do
  let (d, tokens) ← readDirectives {} tokens
  match tokens with
  | .documentStart :: rest =>
      NodeReader.readOptional fuel endsDocument true false
        { tokens := rest, handles := d.handles ++ standardHandles }
  | _ => none

/-- The root of the first document, and the tokens after it.  Without a marker a document begins
with its content. -/
def readRoot (tokens : List Token) : Option (Node × List Token) := do
  let fuel := 4 * tokens.length + 4
  let (root, r) ← match tokens with
    | .version _ _ :: _ | .handle _ _ :: _ | .documentStart :: _ => readMarkedRoot fuel tokens
    | .streamEnd :: _ => some (.empty, { tokens, handles := [] })
    | _ => NodeReader.readNode fuel true false { tokens, handles := standardHandles }
  some (root, r.tokens)

/-- The document of a text; none if the text is not a YAML text or holds several documents. -/
def document? (text : String) : Option Document := do
  let (root, rest) ← readRoot (← tokens? text)
  if rest.dropWhile (· = .documentEnd) = [.streamEnd] then some (.ofRoot root) else none

end ShortcodeExpansion.Yaml
