import ShortcodeExpansion.Catalogue.Basic
import ShortcodeExpansion.Json.Basic
import ShortcodeExpansion.Json.Number
import ShortcodeExpansion.Text.Quoted

/-!
# Catalogues as JSON

Reads shortcodes, entries and catalogues from JSON values, and writes them.  An entry is read as the
first kind that fits: a record, then a mapping, then a pattern.  A record may be an object whose
keys are all known, or an array of its values in order; whatever is left out has its default.
-/

set_option autoImplicit false

namespace ShortcodeExpansion

/-- Why a JSON value does not have the form asked for. -/
inductive ShapeError where
  | wrongType (found : Json) (expected : String)
  | tooLong (length : Nat)
  | tooShort (length : Nat) (expected : String)
  | unknownField (name : String)
  | noEntry
deriving Repr

namespace ShapeError

/-- How a value is named in a complaint. -/
def describe : Json → String
  | .null => "null"
  | .bool true => "boolean `true`"
  | .bool false => "boolean `false`"
  | .integer n => s!"integer `{n}`"
  | .decimal d => "floating point `" ++ d.toText ++ "`"
  | .string s => "string " ++ quotedText s
  | .array _ => "sequence"
  | .object _ => "map"

def message : ShapeError → String
  | .wrongType found expected => "invalid type: " ++ describe found ++ ", expected " ++ expected
  | .tooLong length => s!"invalid length {length}, expected fewer elements in array"
  | .tooShort length expected => s!"invalid length {length}, expected {expected}"
  | .unknownField name =>
      "unknown field `" ++ name ++ "`, expected one of `pattern`, `replacement`, `regex`"
  | .noEntry => "data did not match any variant of untagged enum ShortcodeEntry"

end ShapeError

namespace Json

def asString : Json → Except ShapeError String
  | .string s => .ok s
  | other => .error (.wrongType other "a string")

def asBool : Json → Except ShapeError Bool
  | .bool b => .ok b
  | other => .error (.wrongType other "a boolean")

def asArray : Json → Except ShapeError (List Json)
  | .array items => .ok items
  | other => .error (.wrongType other "a sequence")

end Json

namespace Shortcode

/-- Sets the field that a key names. -/
def withMember (s : Shortcode) (member : String × Json) : Except ShapeError Shortcode :=
  match member.1 with
  | "pattern" => member.2.asString.map fun pattern => { s with pattern }
  | "replacement" => member.2.asString.map fun replacement => { s with replacement }
  | "regex" => member.2.asBool.map fun raw => { s with raw }
  | name => .error (.unknownField name)

/-- The shortcode whose fields are the values of a list, in order. -/
def ofItems (items : List Json) : Except ShapeError Shortcode := do
  let pattern ← match items[0]? with
    | some item => item.asString
    | none => .ok ""
  let replacement ← match items[1]? with
    | some item => item.asString
    | none => .ok ""
  let raw ← match items[2]? with
    | some item => item.asBool
    | none => .ok false
  if 3 < items.length then .error (.tooLong items.length)
  else .ok { pattern, replacement, raw }

def ofJson : Json → Except ShapeError Shortcode
  | .object members => members.foldlM withMember {}
  | .array items => ofItems items
  | other => .error (.wrongType other "struct ShortcodeSpec")

def toJson (s : Shortcode) : Json :=
  .object [("pattern", .string s.pattern), ("replacement", .string s.replacement),
    ("regex", .bool s.raw)]

end Shortcode

/-- The pairs of an object whose values are all strings. -/
def pairsOfJson : Json → Except ShapeError Mapping
  | .object members => do
      let pairs ← members.mapM fun member => member.2.asString.map fun value => (member.1, value)
      .ok (.ofPairs pairs)
  | other => .error (.wrongType other "a map")

namespace Entry

def ofJson (value : Json) : Except ShapeError Entry :=
  match Shortcode.ofJson value, pairsOfJson value, value.asString with
  | .ok s, _, _ => .ok (.record s)
  | .error _, .ok pairs, _ => .ok (.mapping pairs)
  | .error _, .error _, .ok text => .ok (.pattern text)
  | .error _, .error _, .error _ => .error .noEntry

def toJson : Entry → Json
  | .record s => s.toJson
  | .mapping pairs => .object (pairs.map fun pair => (pair.1, .string pair.2))
  | .pattern text => .string text

end Entry

namespace Catalogue

def ofEntries (value : Json) : Except ShapeError Catalogue := do
  let items ← value.asArray
  let entries ← items.mapM Entry.ofJson
  .ok ⟨entries⟩

def ofJson : Json → Except ShapeError Catalogue
  | .object members =>
      match (Json.object members).member? "shortcodes" with
      | some value => ofEntries value
      | none => .ok {}
  | .array [] => .ok {}
  | .array (value :: rest) => do
      let catalogue ← ofEntries value
      if rest.isEmpty then .ok catalogue else .error (.tooLong (rest.length + 1))
  | other => .error (.wrongType other "struct ShortcodeConfig")

def toJson (c : Catalogue) : Json := .object [("shortcodes", .array (c.entries.map Entry.toJson))]

end Catalogue

end ShortcodeExpansion
