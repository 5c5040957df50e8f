import ShortcodeExpansion.Shortcode

/-!
# Catalogues

A catalogue is an ordered list of entries, as a shortcode file holds them.  An entry is a full
record, a mapping from patterns to replacements, or a pattern alone.  The shortcodes of a mapping
come in the order of their patterns.
-/

set_option autoImplicit false

namespace ShortcodeExpansion

/-- Pairs of a key and a value that ascend by key, code point by code point. -/
structure Mapping where
  pairs : List (String × String)
  ascending : pairs.Pairwise fun a b => a.1 < b.1
deriving DecidableEq, Repr

namespace Mapping

instance : Inhabited Mapping := ⟨⟨[], .nil⟩⟩

/-- Puts a pair into pairs that ascend by their first part; a pair with the same first part is
replaced. -/
def insertPair (key value : String) : List (String × String) → List (String × String)
  | [] => [(key, value)]
  | pair :: rest =>
      if key < pair.1 then (key, value) :: pair :: rest
      else if key = pair.1 then (key, value) :: rest
      else pair :: insertPair key value rest

theorem mem_insertPair {key value : String} {pairs : List (String × String)}
    {pair : String × String} (member : pair ∈ insertPair key value pairs) :
    pair = (key, value) ∨ pair ∈ pairs := by
  induction pairs with
  | nil => exact .inl (List.mem_singleton.mp member)
  | cons first rest ih =>
      rw [insertPair] at member
      split at member
      · exact List.mem_cons.mp member
      · split at member
        · exact (List.mem_cons.mp member).imp_right (List.mem_cons_of_mem first)
        · rcases List.mem_cons.mp member with rfl | later
          · exact .inr List.mem_cons_self
          · exact (ih later).imp_right (List.mem_cons_of_mem first)

theorem insertPair_ascending {key value : String} {pairs : List (String × String)}
    (ascending : pairs.Pairwise fun a b => a.1 < b.1) :
    (insertPair key value pairs).Pairwise fun a b => a.1 < b.1 := by
  induction pairs with
  | nil => simp [insertPair]
  | cons first rest ih =>
      obtain ⟨below, above⟩ := List.pairwise_cons.mp ascending
      rw [insertPair]
      split
      · rename_i before
        refine List.pairwise_cons.mpr ⟨fun pair member => ?_, ascending⟩
        rcases List.mem_cons.mp member with rfl | later
        · exact before
        · exact String.lt_trans before (below pair later)
      · split
        · rename_i same
          exact List.pairwise_cons.mpr ⟨fun pair member => same ▸ below pair member, above⟩
        · rename_i notBefore different
          refine List.pairwise_cons.mpr ⟨fun pair member => ?_, ih above⟩
          rcases mem_insertPair member with rfl | old
          · refine Classical.byContradiction fun notAfter => different ?_
            exact String.le_antisymm (String.not_lt.mp notAfter) (String.not_lt.mp notBefore)
          · exact below pair old

/-- Puts in a pair, in the place of the one with its key if there is one. -/
def insert (m : Mapping) (key value : String) : Mapping :=
  ⟨insertPair key value m.pairs, insertPair_ascending m.ascending⟩

/-- The mapping with the pairs of a list; of two pairs with one key the last is kept. -/
def ofPairs (pairs : List (String × String)) : Mapping :=
  pairs.foldl (fun m pair => m.insert pair.1 pair.2) default

/-- What a function makes of the pairs, in order. -/
def map {α : Type} (m : Mapping) (f : String × String → α) : List α := m.pairs.map f

end Mapping

inductive Entry where
  | record (shortcode : Shortcode)
  /-- Pairs of pattern and replacement. -/
  | mapping (pairs : Mapping)
  | pattern (pattern : String)
deriving DecidableEq, Repr, Inhabited

def Entry.shortcodes : Entry → List Shortcode
  | .record s => [s]
  | .mapping pairs => pairs.map fun pair => { pattern := pair.1, replacement := pair.2 }
  | .pattern text => [{ pattern := text }]

structure Catalogue where
  entries : List Entry := []
deriving DecidableEq, Repr, Inhabited

namespace Catalogue

def shortcodes (c : Catalogue) : List Shortcode := c.entries.flatMap Entry.shortcodes

/-- The entries of a user's catalogue follow the built-in ones. -/
def merge (builtIn : Catalogue) (user : Option Catalogue) : Catalogue :=
  ⟨builtIn.entries ++ (user.map (·.entries)).getD []⟩

/-- The shortcodes that are always at hand. -/
def builtIn : Catalogue :=
  ⟨[.record { pattern := "[b]*[/b]", replacement := "<strong>*</strong>" },
    .record { pattern := "[i]*[/i]", replacement := "<em>*</em>" },
    .record { pattern := "[u]*[/u]", replacement := "<u>*</u>" },
    .record { pattern := "[url=*]*[/url]", replacement := "<a href=\"*\">*</a>" },
    .record { pattern := "\x7balert * *\x7d",
              replacement := "<div class=\"alert alert-*\">*</div>" }]⟩

/-- The lines of the shortcode file that holds them. -/
def builtInLines : List String :=
  ["# Built-in shortcodes shipped with shortcoder-core.",
    "# Order matters: rules run top to bottom, each on the previous rule's output.",
    "shortcodes:",
    "  - pattern: \"[b]*[/b]\"",
    "    replacement: \"<strong>*</strong>\"",
    "  - pattern: \"[i]*[/i]\"",
    "    replacement: \"<em>*</em>\"",
    "  - pattern: \"[u]*[/u]\"",
    "    replacement: \"<u>*</u>\"",
    "  - pattern: \"[url=*]*[/url]\"",
    "    replacement: \"<a href=\\\"*\\\">*</a>\"",
    "  - pattern: \"\x7balert * *\x7d\"",
    "    replacement: \"<div class=\\\"alert alert-*\\\">*</div>\""]

def builtInText : String :=
  String.ofList (builtInLines.flatMap fun line => line.toList ++ ['\n'])

end Catalogue

end ShortcodeExpansion
