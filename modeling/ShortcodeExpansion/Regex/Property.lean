import ShortcodeExpansion.Regex.Syntax
import ShortcodeExpansion.Regex.Fault
import ShortcodeExpansion.Text.Age
import ShortcodeExpansion.Text.BreakClass
import ShortcodeExpansion.Text.Category
import ShortcodeExpansion.Text.Script
import ShortcodeExpansion.Text.Property

/-!
# Classes by property

The set of characters that a property query asks for.  Names are compared in lower case, without
blanks, hyphens, underscores and a leading `is`.
-/

set_option autoImplicit false

namespace ShortcodeExpansion.Regex

/-- A name in the form in which names are compared.  A leading `is` is dropped, unless that would
turn the short name of ISO comments into that of a category. -/
def normalName (name : List Char) : String :=
  let (hasIs, body) :=
    match name with
    | a :: b :: rest => if a.toLower = 'i' && b.toLower = 's' then (true, rest) else (false, name)
    | _ => (false, name)
  let kept :=
    (body.filter fun c => c.toNat < 0x80 && c ≠ ' ' && c ≠ '_' && c ≠ '-').map Char.toLower
  if hasIs && kept = ['c'] then "isc" else String.ofList kept

/-- The set of a category or a script, by a name in normal form. -/
def categoryOrScript (name : String) : Except FaultKind CharSet :=
  if emptyCategories.contains name then .error .propertyValueNotFound
  else
    match categorySet? name with
    | some set => .ok set
    | none =>
        if emptyScripts.contains name then .error .propertyValueNotFound
        else
          match scriptSet? name with
          | some set => .ok set
          | none => .error .propertyNotFound

/-- The set of a property, a category or a script.  Names that both a property without characters
and a category have mean the category. -/
def namedSet (name : List Char) : Except FaultKind CharSet :=
  let normal := normalName name
  if normal = "cf" || normal = "sc" || normal = "lc" then categoryOrScript normal
  else
    match propertySet? normal with
    | some set => .ok set
    | none => categoryOrScript normal

/-- The sets of a property with values, by their names in normal form. -/
def valueSets? : String → Option (String → Option CharSet)
  | "gc" | "generalcategory" => some categorySet?
  | "sc" | "script" => some scriptSet?
  | "scx" | "scriptextensions" => some scriptExtensionSet?
  | "age" => some ageSet?
  | "gcb" | "graphemeclusterbreak" => some graphemeBreakSet?
  | "wb" | "wordbreak" => some wordBreakSet?
  | "sb" | "sentencebreak" => some sentenceBreakSet?
  | _ => none

/-- Names of properties whose values no query can ask for, besides those that have no values. -/
def otherProperties : List String :=
  ["bc", "bidiclass", "blk", "block", "bmg", "bidimirroringglyph", "bpb", "bidipairedbracket",
    "bpt", "bidipairedbrackettype", "ccc", "canonicalcombiningclass", "cf", "casefolding", "dm",
    "decompositionmapping", "dt", "decompositiontype", "ea", "eastasianwidth", "hst",
    "hangulsyllabletype", "incb", "indicconjunctbreak", "inpc", "indicpositionalcategory", "insc",
    "indicsyllabiccategory", "isc", "isocomment", "jg", "joininggroup", "jt", "joiningtype", "jsn",
    "jamoshortname", "lb", "linebreak", "lc", "lowercasemapping", "na", "name", "na1",
    "unicode1name", "namealias", "nfcqc", "nfcquickcheck", "nfdqc", "nfdquickcheck", "nfkccf",
    "nfkccasefold", "nfkcqc", "nfkcquickcheck", "nfkdqc", "nfkdquickcheck", "nt", "numerictype",
    "nv", "numericvalue", "scf", "sfc", "simplecasefolding", "slc", "simplelowercasemapping", "stc",
    "simpletitlecasemapping", "suc", "simpleuppercasemapping", "tc", "titlecasemapping", "uc",
    "uppercasemapping", "vo", "verticalorientation"]

/-- Whether a name is that of a property, with values or without. -/
def isProperty (name : String) : Bool :=
  otherProperties.contains name || (propertySet? name).isSome

def PropertyQuery.resolve : PropertyQuery → Except FaultKind CharSet
  | .letter c => namedSet [c]
  | .named name => namedSet name.toList
  | .valued name value =>
      let property := normalName name.toList
      match valueSets? property with
      | some sets => (sets (normalName value.toList)).elim (.error .propertyValueNotFound) .ok
      | none => .error (if isProperty property then .propertyValueNotFound else .propertyNotFound)

end ShortcodeExpansion.Regex
