import ShortcodeExpansion.Text.Blank

/-!
# Pattern templates

A pattern template is read as a row of tokens: a wildcard for each `*`, one blank token for each
maximal run of blank characters, and a literal for every other character.  The tokens are written
out as the text of a regular expression: a literal escaped, a blank run as `\s+`, a wildcard as a
lazy group, or as a greedy group when it closes the template.  A raw template is taken as it stands.
-/

set_option autoImplicit false

namespace ShortcodeExpansion.Template

/-- The character that marks a wildcard, in patterns and in replacements. -/
def wildcard : Char := '*'

inductive PatternToken where
  /-- Captures any text. -/
  | wildcard
  /-- One or more blank characters. -/
  | blanks
  | literal (c : Char)
deriving DecidableEq, Repr

/-- Reads the tokens of a template; `afterBlank` tells that the character before was blank, so that
a further blank belongs to the same run. -/
def patternTokensFrom (afterBlank : Bool) : List Char → List PatternToken
  | [] => []
  | c :: rest =>
      if c = wildcard then .wildcard :: patternTokensFrom false rest
      else if isBlankChar c then
        if afterBlank then patternTokensFrom true rest
        else .blanks :: patternTokensFrom true rest
      else .literal c :: patternTokensFrom false rest

def patternTokens (template : List Char) : List PatternToken := patternTokensFrom false template

/-- The characters with a meaning of their own in a regular expression. -/
def metaCharacters : List Char :=
  ['\\', '.', '+', '*', '?', '(', ')', '|', '[', ']', '\x7b', '\x7d', '^', '$', '#', '&', '-', '~']

/-- A character as a regular expression that matches it alone. -/
def escapeChar (c : Char) : List Char := if c ∈ metaCharacters then ['\\', c] else [c]

def lazyGroup : List Char := ['(', '.', '*', '?', ')']

def greedyGroup : List Char := ['(', '.', '*', ')']

def blankRun : List Char := ['\\', 's', '+']

/-- Writes tokens as a regular expression; only a wildcard with nothing after it is greedy. -/
def tokensSource : List PatternToken → List Char
  | [] => []
  | [.wildcard] => greedyGroup
  | .wildcard :: rest => lazyGroup ++ tokensSource rest
  | .blanks :: rest => blankRun ++ tokensSource rest
  | .literal c :: rest => escapeChar c ++ tokensSource rest

/-! ## The end of the source -/

/-- A token as it is written where another follows. -/
def PatternToken.source : PatternToken → List Char
  | .wildcard => lazyGroup
  | .blanks => blankRun
  | .literal c => escapeChar c

/-- Makes a lazy group greedy if a source ends with it. -/
def closeGreedily (source : List Char) : List Char :=
  if lazyGroup <:+ source then source.take (source.length - lazyGroup.length) ++ greedyGroup
  else source

theorem tokensSource_concat (before : List PatternToken) (last : PatternToken) :
    tokensSource (before ++ [last]) =
      before.flatMap PatternToken.source ++ tokensSource [last] := by
  induction before with
  | nil => rfl
  | cons token rest ih =>
      obtain ⟨next, after, more⟩ : ∃ next after, rest ++ [last] = next :: after := by
        cases rest with
        | nil => exact ⟨last, [], rfl⟩
        | cons next rest => exact ⟨next, rest ++ [last], rfl⟩
      rw [List.flatMap_cons, List.append_assoc, ← ih, List.cons_append, more]
      cases token <;> rfl

/-- A source ends with a lazy group if its last token is a wildcard: a closing bracket that is a
literal has a backslash before it. -/
theorem lazyGroup_suffix_iff (source : List Char) (last : PatternToken) :
    lazyGroup <:+ source ++ last.source ↔ last = .wildcard := by
  rw [← List.reverse_prefix, List.reverse_append]
  cases last with
  | wildcard => simp [PatternToken.source]
  | blanks => simp [PatternToken.source, lazyGroup, blankRun, List.cons_prefix_cons]
  | literal c =>
      by_cases special : c ∈ metaCharacters
      · simp [PatternToken.source, escapeChar, special, lazyGroup, List.cons_prefix_cons]
      · have other : ')' ≠ c := by
          rintro rfl
          exact special (by decide)
        simp [PatternToken.source, escapeChar, special, lazyGroup, List.cons_prefix_cons, other]

theorem closeGreedily_append_source (source : List Char) (last : PatternToken) :
    closeGreedily (source ++ last.source) = source ++ tokensSource [last] := by
  by_cases wildcard : last = .wildcard
  · rw [closeGreedily, if_pos ((lazyGroup_suffix_iff source last).mpr wildcard), wildcard]
    simp [PatternToken.source, tokensSource]
  · rw [closeGreedily, if_neg (mt (lazyGroup_suffix_iff source last).mp wildcard)]
    cases last with
    | wildcard => exact absurd rfl wildcard
    | blanks => simp [PatternToken.source, tokensSource]
    | literal c => simp [PatternToken.source, tokensSource]

/-- The wildcard that is greedy can be told from what is written: all wildcards are written as lazy
groups, and then the source is closed. -/
theorem tokensSource_eq_closeGreedily (tokens : List PatternToken) :
    tokensSource tokens = closeGreedily (tokens.flatMap PatternToken.source) := by
  rcases List.eq_nil_or_concat tokens with rfl | ⟨before, last, rfl⟩
  · rfl
  · rw [List.concat_eq_append, tokensSource_concat, List.flatMap_append, List.flatMap_singleton,
      closeGreedily_append_source]

/-! ## The source of a template -/

/-- The flag that lets `.` match a line feed too. -/
def patternFlags : List Char := ['(', '?', 's', ')']

/-- The regular expression of a pattern template. -/
def patternSource (template : String) (raw : Bool) : String :=
  if raw then template
  else String.ofList (patternFlags ++ tokensSource (patternTokens template.toList))

end ShortcodeExpansion.Template
