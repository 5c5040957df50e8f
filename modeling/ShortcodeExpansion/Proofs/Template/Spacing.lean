import Mathlib.Data.List.SplitBy
import ShortcodeExpansion.Proofs.Template.TokenReading

/-!
# Templates up to their spacing

The regular expression of a pattern template tells the template but for the spelling of its blank
runs.  The expressions that tokens are written as stand side by side without a separator, and still
the first of them can be read off: an opening parenthesis that is not escaped starts a group, `s` is
never escaped as a literal, and any other character after a backslash is one.  Tokens in turn are a
template with one space for each maximal run of blank characters.
-/

set_option autoImplicit false

namespace ShortcodeExpansion.Template

/-! ## One space for a run -/

/-- Whether two neighbours belong to one run of blank characters. -/
def bothBlank (a b : Char) : Bool := isBlankChar a && isBlankChar b

/-- A text with one space in the place of each maximal run of blank characters. -/
def spaced (text : List Char) : List Char :=
  (text.splitBy bothBlank).flatMap fun run => if run.all isBlankChar then [' '] else run

theorem spaced_append {a b : List Char}
    (apart : ∀ x ∈ a.getLast?, ∀ y ∈ b.head?, bothBlank x y = false) :
    spaced (a ++ b) = spaced a ++ spaced b := by
  rw [spaced, List.splitBy_append apart, List.flatMap_append]
  rfl

theorem spaced_cons_of_solid {c : Char} (solid : isBlankChar c = false) (rest : List Char) :
    spaced (c :: rest) = c :: spaced rest := by
  have alone : spaced [c] = [c] := by
    rw [spaced, List.splitBy_of_isChain (by simp) (List.isChain_singleton c)]
    simp [solid]
  have split : spaced ([c] ++ rest) = spaced [c] ++ spaced rest :=
    spaced_append fun x last y _ => by simp_all [bothBlank]
  rwa [alone] at split

theorem spaced_of_blank {run : List Char} (some : run ≠ [])
    (blank : ∀ c ∈ run, isBlankChar c = true) : spaced run = [' '] := by
  have chain : run.IsChain fun a b => bothBlank a b = true :=
    (List.pairwise_of_forall_mem_list fun a first b second => by
      simp [bothBlank, blank a first, blank b second]).isChain
  have all : run.all isBlankChar = true := List.all_eq_true.mpr blank
  rw [spaced, List.splitBy_of_isChain some chain, List.flatMap_singleton, if_pos all]

theorem spaced_run {run rest : List Char} (some : run ≠ [])
    (blank : ∀ c ∈ run, isBlankChar c = true) (maximal : ∀ c ∈ rest.head?, isBlankChar c = false) :
    spaced (run ++ rest) = ' ' :: spaced rest := by
  rw [spaced_append fun x _ y first => by simp [bothBlank, maximal y first],
    spaced_of_blank some blank]
  rfl

/-! ## Tokens as characters -/

/-- The character that a token stands for, a space for a blank run. -/
def PatternToken.char : PatternToken → Char
  | .wildcard => Template.wildcard
  | .blanks => ' '
  | .literal c => c

/-- The token that a character makes by itself. -/
def PatternToken.ofChar (c : Char) : PatternToken :=
  if c = Template.wildcard then .wildcard else if isBlankChar c then .blanks else .literal c

theorem TokenReading.spaced_eq {template : List Char} {tokens : List PatternToken}
    (reads : TokenReading template tokens) : spaced template = tokens.map PatternToken.char := by
  induction reads with
  | nil => rfl
  | wildcard _ ih =>
      rw [spaced_cons_of_solid (by decide), ih]
      rfl
  | blanks some blank maximal _ ih =>
      rw [spaced_run some blank maximal, ih]
      rfl
  | literal _ solid _ ih =>
      rw [spaced_cons_of_solid solid, ih]
      rfl

theorem TokenReading.map_ofChar {template : List Char} {tokens : List PatternToken}
    (reads : TokenReading template tokens) :
    (tokens.map PatternToken.char).map PatternToken.ofChar = tokens := by
  induction reads with
  | nil => rfl
  | wildcard _ ih => rw [List.map_cons, List.map_cons, ih]; rfl
  | blanks _ _ _ _ ih =>
      have space : PatternToken.ofChar ' ' = .blanks := by decide
      rw [List.map_cons, List.map_cons, ih, PatternToken.char, space]
  | @literal c _ _ plain solid _ ih =>
      have itself : PatternToken.ofChar c = .literal c := by
        simp [PatternToken.ofChar, Template.wildcard, plain, solid]
      rw [List.map_cons, List.map_cons, ih, PatternToken.char, itself]

/-- Templates have the same tokens if they are the same but for the spelling of blank runs. -/
theorem patternTokens_eq_iff {a b : List Char} :
    patternTokens a = patternTokens b ↔ spaced a = spaced b := by
  have first := tokenReading_patternTokens a
  have second := tokenReading_patternTokens b
  rw [first.spaced_eq, second.spaced_eq]
  constructor
  · exact congrArg _
  · intro same
    rw [← first.map_ofChar, ← second.map_ofChar, same]

/-! ## Reading tokens off their source -/

/-- The first token of a source, and the source of those that follow. -/
def firstToken? : List Char → Option (PatternToken × List Char)
  | '(' :: '.' :: '*' :: '?' :: ')' :: rest => some (.wildcard, rest)
  | '(' :: '.' :: '*' :: ')' :: rest => some (.wildcard, rest)
  | '\\' :: 's' :: '+' :: rest => some (.blanks, rest)
  | '\\' :: c :: rest => some (.literal c, rest)
  | c :: rest => some (.literal c, rest)
  | [] => none

theorem firstToken?_escapeChar (c : Char) (rest : List Char) :
    firstToken? (escapeChar c ++ rest) = some (.literal c, rest) := by
  unfold escapeChar
  split
  · rename_i special
    have letter : c ≠ 's' := by
      rintro rfl
      exact absurd special (by decide)
    simp [firstToken?, letter]
  · rename_i plain
    have opening : c ≠ '(' := by
      rintro rfl
      exact plain (by decide)
    have backslash : c ≠ '\\' := by
      rintro rfl
      exact plain (by decide)
    simp [firstToken?, opening, backslash]

theorem firstToken?_tokensSource (token : PatternToken) (rest : List PatternToken) :
    firstToken? (tokensSource (token :: rest)) = some (token, tokensSource rest) := by
  cases token with
  | wildcard => cases rest <;> rfl
  | blanks => rfl
  | literal c => exact firstToken?_escapeChar c (tokensSource rest)

theorem tokensSource_injective : Function.Injective tokensSource := by
  intro a
  induction a with
  | nil =>
      intro b same
      cases b with
      | nil => rfl
      | cons token rest =>
          have read := firstToken?_tokensSource token rest
          simp [← same, tokensSource, firstToken?] at read
  | cons token rest ih =>
      intro b same
      have read := firstToken?_tokensSource token rest
      cases b with
      | nil => simp [same, tokensSource, firstToken?] at read
      | cons other more =>
          rw [same, firstToken?_tokensSource, Option.some.injEq, Prod.mk.injEq] at read
          rw [read.1, ih read.2.symm]

/-- The regular expression of a template tells the template but for the spelling of blank runs. -/
theorem patternSource_eq_iff {a b : String} :
    patternSource a false = patternSource b false ↔ spaced a.toList = spaced b.toList := by
  rw [← patternTokens_eq_iff, ← tokensSource_injective.eq_iff]
  simp [patternSource, String.ofList_inj]

end ShortcodeExpansion.Template
