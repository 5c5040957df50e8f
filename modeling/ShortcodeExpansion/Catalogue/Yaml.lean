import ShortcodeExpansion.Catalogue.Basic
import ShortcodeExpansion.Catalogue.Validation
import ShortcodeExpansion.Yaml.Reader
import ShortcodeExpansion.Yaml.Scalar

/-!
# Catalogues as YAML

A shortcode file is a mapping whose key `shortcodes` has a sequence of entries.  Each entry is read
as the first kind that fits: a record, then a mapping, then a pattern.  A record is a sequence of
its values in order, or a mapping whose keys are the names of its fields or their numbers.
-/

set_option autoImplicit false

namespace ShortcodeExpansion

open Yaml (Document Node Value)

/-- An entry of a shortcode file, with its aliases followed. -/
inductive EntryForm where
  | scalar (value : Value)
  | sequence (items : List Value)
  | mapping (pairs : List (Value × Value))
deriving DecidableEq, Repr

namespace EntryForm

def part? (d : Document) (node : Node) : Option Value := do Yaml.value? (← d.follow? node)

/-- Whether an entry carries a tag of the file's own, which no entry may. -/
def hasOwnTag (p : Yaml.Properties) : Bool := p.tag.any fun tag => tag.startsWith "!"

/-- The form of an entry; there is none where a collection lies inside. -/
def ofNode? (d : Document) (node : Node) : Option EntryForm := do
  match ← d.follow? node with
  | .sequence p items =>
      if hasOwnTag p then none else (items.mapM (part? d)).map .sequence
  | .mapping p pairs =>
      if hasOwnTag p then none
      else
        let pairs ← pairs.mapM fun (key, value) => do some (← part? d key, ← part? d value)
        some (.mapping pairs)
  | node => (Yaml.value? node).map .scalar

end EntryForm

inductive ShortcodeField where
  | pattern
  | replacement
  | raw
deriving DecidableEq, Repr

namespace ShortcodeField

/-- The field that a key stands for, by its name or its number. -/
def ofKey? : Value → Option ShortcodeField
  | .text "pattern" | .natural 0 => some .pattern
  | .text "replacement" | .natural 1 => some .replacement
  | .text "regex" | .natural 2 => some .raw
  | _ => none

end ShortcodeField

namespace Shortcode

/-- Sets a field, to a value of the field's type. -/
def setField? (s : Shortcode) : ShortcodeField → Value → Option Shortcode
  | .pattern, .text pattern => some { s with pattern }
  | .replacement, .text replacement => some { s with replacement }
  | .raw, .bool raw => some { s with raw }
  | _, _ => none

/-- The shortcode whose first fields have the values of a list. -/
def ofValues? (values : List Value) : Option Shortcode :=
  let fields : List ShortcodeField := [.pattern, .replacement, .raw]
  if fields.length < values.length then none
  else (fields.zip values).foldlM (fun s (field, value) => s.setField? field value) {}

/-- The shortcode with the fields that pairs name; no field may be named twice. -/
def ofPairs? (pairs : List (Value × Value)) : Option Shortcode := do
  let fields ← pairs.mapM fun (key, value) => (ShortcodeField.ofKey? key).map (·, value)
  if !decide (fields.map (·.1)).Nodup then none
  else fields.foldlM (fun s (field, value) => s.setField? field value) {}

end Shortcode

def textPairs? (pairs : List (Value × Value)) : Option (List (String × String)) :=
  pairs.mapM fun
    | (.text key, .text value) => some (key, value)
    | _ => none

namespace Entry

def ofForm? : EntryForm → Option Entry
  | .scalar (.text text) => some (.pattern text)
  | .scalar _ => none
  | .sequence items => (Shortcode.ofValues? items).map .record
  | .mapping pairs =>
      ((Shortcode.ofPairs? pairs).map .record).or
        ((textPairs? pairs).map fun pairs => .mapping (.ofPairs pairs))

def ofNode? (d : Document) (node : Node) : Option Entry := do
  ofForm? (← EntryForm.ofNode? d node)

end Entry

namespace Catalogue

def keyText? (d : Document) (key : Node) : Option String := do
  match ← d.follow? key with
  | .scalar _ _ text => some text
  | _ => none

/-- Whether a node is left empty. -/
def isLeftOut : Node → Bool
  | .scalar _ .plain "" => true
  | _ => false

def entriesOfNode? (d : Document) (node : Node) : Option (List Entry) := do
  match ← d.follow? node with
  | .sequence _ items => items.mapM (Entry.ofNode? d)
  | node => if isLeftOut node then some [] else none

/-- The values of the pairs whose key is `shortcodes`. -/
def shortcodeLists (keyed : List (String × Node)) : List Node :=
  (keyed.filter fun pair => pair.1 = "shortcodes").map (·.2)

/-- The catalogue of a document, which has one list of shortcodes at most.  Other keys mean
nothing. -/
def ofDocument? (d : Document) : Option Catalogue := do
  match ← d.follow? d.root with
  | .mapping _ pairs =>
      let keyed ← pairs.mapM fun (key, value) => (keyText? d key).map (·, value)
      match shortcodeLists keyed with
      | [] => some {}
      | [list] => (entriesOfNode? d list).map (⟨·⟩)
      | _ => none
  | node => if isLeftOut node then some {} else none

/-- Why a text is not a shortcode file. -/
inductive TextError where
  /-- It is not YAML, or not of the form of a shortcode file. -/
  | malformed
  | invalid (problems : List ShortcodeProblem)
deriving DecidableEq, Repr

/-- The catalogue that a YAML text holds, which has to be free of problems. -/
def ofYaml (text : String) : Except TextError Catalogue :=
  match (Yaml.document? text).bind ofDocument? with
  | none => .error .malformed
  | some c =>
      match c.problems with
      | [] => .ok c
      | problems => .error (.invalid problems)

end Catalogue

end ShortcodeExpansion
