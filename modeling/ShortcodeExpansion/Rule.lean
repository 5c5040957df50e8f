import ShortcodeExpansion.Regex.Compile
import ShortcodeExpansion.Shortcode
import ShortcodeExpansion.Template.Expansion
import ShortcodeExpansion.Template.Replacement
import ShortcodeExpansion.Text.Quoted

/-!
# Rules

A rule is the compiled form of a shortcode: the text of a regular expression and a replacement with
references to its groups.  A rule's pattern is compiled when the rule is first applied, and what
came of it is kept for the next time, a failure as well.  Rules are told apart by their texts alone.
-/

set_option autoImplicit false

namespace ShortcodeExpansion

/-- What is kept of the compiling of a pattern. -/
inductive Matcher where
  | untried
  | built (regex : Regex)
  | failed (cause : Regex.BuildError)
deriving DecidableEq, Repr, Inhabited

namespace Matcher

def ofResult : Except Regex.BuildError Regex → Matcher
  | .ok regex => .built regex
  | .error cause => .failed cause

/-- What came of the compiling of a pattern, which is compiled only if that was not tried yet. -/
def get (m : Matcher) (pattern : String) : Except Regex.BuildError Regex :=
  match m with
  | .untried => Regex.compile pattern
  | .built regex => .ok regex
  | .failed cause => .error cause

@[simp] theorem get_ofResult (result : Except Regex.BuildError Regex) (pattern : String) :
    (ofResult result).get pattern = result := by
  cases result <;> rfl

end Matcher

structure Rule where
  pattern : String
  replacement : String
  matcher : Matcher := .untried
deriving DecidableEq, Repr, Inhabited

namespace Shortcode

/-- The texts that a shortcode compiles to. -/
def texts (s : Shortcode) : String × String :=
  (Template.patternSource s.pattern s.raw, Template.replacementSource s.replacement s.raw)

theorem texts_of_raw {s : Shortcode} (raw : s.raw = true) :
    s.texts = (s.pattern, s.replacement) := by
  rw [texts, raw]
  rfl

theorem texts_of_wildcard {s : Shortcode} (wild : s.raw = false) :
    s.texts =
      (Template.patternSource s.pattern false, Template.replacementSource s.replacement false) := by
  rw [texts, wild]

/-- The rule that a shortcode makes unless it is blank. -/
def rule (s : Shortcode) : Rule := { pattern := s.texts.1, replacement := s.texts.2 }

end Shortcode

namespace Rule

/-- Whether the pattern has been compiled, with or without success. -/
def compiled (rule : Rule) : Bool := rule.matcher ≠ .untried

/-- A rule with its texts in quotes. -/
def describe (rule : Rule) : String :=
  "CompiledRule \x7b pattern: " ++ quotedText rule.pattern ++ ", replacement: " ++
    quotedText rule.replacement ++ ", compiled: " ++ toString rule.compiled ++ " \x7d"

/-- Rules are the same if their texts are. -/
def same (a b : Rule) : Bool := a.pattern = b.pattern && a.replacement = b.replacement

/-- The rule of a shortcode; a blank one has none. -/
def ofShortcode? (s : Shortcode) : Option Rule :=
  if s.isBlank then none
  else some {
    pattern := Template.patternSource s.pattern s.raw
    replacement := Template.replacementSource s.replacement s.raw }

theorem ofShortcode?_of_blank {s : Shortcode} (blank : s.isBlank = true) :
    ofShortcode? s = none := if_pos blank

theorem ofShortcode?_of_solid {s : Shortcode} (solid : s.isBlank = false) :
    ofShortcode? s = some s.rule := if_neg (by simp [solid])

theorem ofShortcode?_eq_some_iff {s : Shortcode} {rule : Rule} :
    ofShortcode? s = some rule ↔ s.isBlank = false ∧ s.rule = rule := by
  cases blank : s.isBlank with
  | true => simp [ofShortcode?_of_blank blank]
  | false => simp [ofShortcode?_of_solid blank]

/-- The compiled pattern: what is kept of it, or what compiling it gives now. -/
def regex (rule : Rule) : Except Regex.BuildError Regex := rule.matcher.get rule.pattern

/-- The rule of a shortcode has nothing kept yet. -/
theorem matcher_of_ofShortcode? {s : Shortcode} {rule : Rule} (made : ofShortcode? s = some rule) :
    rule.matcher = .untried := by
  obtain ⟨-, rfl⟩ := ofShortcode?_eq_some_iff.mp made
  rfl

/-- The rule once its pattern has been compiled; a pattern is not compiled twice. -/
def markCompiled (rule : Rule) : Rule := { rule with matcher := .ofResult rule.regex }

@[simp] theorem regex_markCompiled (rule : Rule) : rule.markCompiled.regex = rule.regex :=
  Matcher.get_ofResult rule.regex rule.pattern

@[simp] theorem compiled_markCompiled (rule : Rule) : rule.markCompiled.compiled = true := by
  cases found : rule.regex <;> simp [compiled, markCompiled, Matcher.ofResult, found]

/-- The text of a group of a match that starts `here`; empty if the group took no part. -/
def groupText (m : Regex.Match) (here : List Char) (index : Nat) : List Char :=
  match m.group? index with
  | some (start, stop) => (here.drop (start - m.start)).take (stop - start)
  | none => []

/-- The texts of the groups of a match that starts `here`. -/
def groupTexts (regex : Regex) (m : Regex.Match) (here : List Char) : Template.GroupTexts where
  numbered := groupText m here
  named name :=
    match regex.groupIndex? name with
    | some index => groupText m here index
    | none => []

/-- A text with its matches replaced; `pos` is the position at which the text starts. -/
def replaceMatches (regex : Regex) (pieces : List Template.Piece) (pos : Nat) (text : List Char) :
    List Regex.Match → List Char
  | [] => text
  | m :: rest =>
      let here := text.drop (m.start - pos)
      text.take (m.start - pos) ++ Template.fillPieces (groupTexts regex m here) pieces ++
        replaceMatches regex pieces m.stop (here.drop (m.stop - m.start)) rest

structure Applied where
  text : String
  /-- Whether nothing matched. -/
  untouched : Bool
deriving DecidableEq, Repr

/-- Replaces every match of a compiled pattern in a text. -/
def applyRegex (regex : Regex) (replacement text : String) : Applied :=
  let chars := text.toList
  match regex.matchesIn chars with
  | [] => ⟨text, true⟩
  | found =>
      let pieces := Template.expansionPieces (Template.expansion replacement)
      ⟨String.ofList (replaceMatches regex pieces 0 chars found), false⟩

/-- Replaces every match of a rule in a text. -/
def apply (rule : Rule) (text : String) : Except Regex.BuildError Applied :=
  rule.regex.map fun regex => applyRegex regex rule.replacement text

end Rule

end ShortcodeExpansion
