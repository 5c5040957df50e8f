import ShortcodeExpansion.Proofs.Template.PatternMeaning
import ShortcodeExpansion.Proofs.Template.TokenReading

/-!
# The size of a template's pattern

The automata of a template's pattern take a fixed number of bytes and, for each token, as many more
as the token asks for.  The pattern is always valid, so its size alone decides whether it compiles:
a template of up to 10443 characters always does, and one with more wildcards than that never.
-/

set_option autoImplicit false

namespace ShortcodeExpansion

namespace Regex

/-- What an expression adds to the size of a sequence; an empty part is left out. -/
def Expr.partBytes (direction : Direction) : Expr → Nat
  | .empty => 0
  | e => e.bytes direction false

theorem Expr.partBytes_andThen (direction : Direction) (a b : Expr) :
    (a.andThen b).partBytes direction = a.partBytes direction + b.partBytes direction := by
  cases a <;> cases b <;> simp [andThen, partBytes, bytes]

theorem Expr.fits_sizeLimit_iff (e : Expr) :
    e.fits sizeLimit = true ↔ frameBytes .forward + e.partBytes .forward ≤ sizeLimit ∧
      frameBytes .backward + e.partBytes .backward ≤ sizeLimit := by
  cases e with
  | empty =>
      -- Its own state is no part of a sequence, but the limit has room for it.
      decide
  | _ => simp [fits, partBytes]

theorem setBytes_singleton (direction : Direction) (c : Char) :
    setBytes direction (.singleton c) = stateBytes * c.utf8Size := by
  simp [setBytes, CharSet.singleton, CharSet.single?]

end Regex

namespace Template

open Regex

/-- The bytes that a token adds to an automaton. -/
def PatternToken.bytes : Direction → PatternToken → Nat
  | _, .literal c => stateBytes * c.utf8Size
  | .forward, .blanks => 464
  | .backward, .blanks => 720
  | .forward, .wildcard => 520
  | .backward, .wildcard => 1004

theorem PatternToken.expr_partBytes (direction : Direction) (index : Nat) (last : Bool)
    (token : PatternToken) :
    (token.expr index last).partBytes direction = token.bytes direction := by
  cases token with
  | literal c => exact setBytes_singleton direction c
  | blanks => cases direction <;> rfl
  | wildcard => cases direction <;> rfl

theorem PatternToken.bytes_le (direction : Direction) (token : PatternToken) :
    token.bytes direction ≤ 1004 := by
  cases token with
  | literal c =>
      have length := c.utf8Size_le_four
      simp only [PatternToken.bytes, stateBytes]
      omega
  | blanks => cases direction <;> decide
  | wildcard => cases direction <;> decide

def tokensBytes (direction : Direction) : List PatternToken → Nat
  | [] => 0
  | token :: tokens => token.bytes direction + tokensBytes direction tokens

theorem joinTokens_partBytes (direction : Direction) (tokens : List PatternToken) :
    ∀ (before : Expr) (index : Nat), (joinTokens before index tokens).partBytes direction =
      before.partBytes direction + tokensBytes direction tokens := by
  induction tokens with
  | nil => intro before index; rfl
  | cons token tokens ih =>
      intro before index
      rw [joinTokens, ih, Expr.partBytes_andThen, token.expr_partBytes, tokensBytes, Nat.add_assoc]

theorem tokensExpr_partBytes (direction : Direction) (tokens : List PatternToken) :
    (tokensExpr tokens).partBytes direction = tokensBytes direction tokens :=
  (joinTokens_partBytes direction tokens .empty 1).trans (Nat.zero_add _)

/-! ## Templates within the limit -/

/-- The bytes of an automaton for the pattern of a template. -/
def patternBytes (direction : Direction) (template : String) : Nat :=
  Expr.frameBytes direction + tokensBytes direction (patternTokens template.toList)

def PatternFits (template : String) : Prop :=
  patternBytes .forward template ≤ sizeLimit ∧ patternBytes .backward template ≤ sizeLimit

instance : DecidablePred PatternFits := fun _ => inferInstanceAs (Decidable (_ ∧ _))

/-- Nothing but its size keeps the pattern of a template from compiling. -/
theorem compile_patternSource (template : String) :
    Regex.compile (patternSource template false) =
      if PatternFits template then .ok ⟨tokensExpr (patternTokens template.toList)⟩
      else .error (.tooLarge sizeLimit) := by
  have fits : (tokensExpr (patternTokens template.toList)).fits sizeLimit = true ↔
      PatternFits template := by
    rw [Expr.fits_sizeLimit_iff, tokensExpr_partBytes, tokensExpr_partBytes]
    rfl
  simp only [Regex.compile, readExpr_tokens, fits]

theorem tokensBytes_le (direction : Direction) (tokens : List PatternToken) :
    tokensBytes direction tokens ≤ 1004 * tokens.length := by
  induction tokens with
  | nil => exact Nat.le_refl 0
  | cons token tokens ih =>
      have here := token.bytes_le direction
      simp only [tokensBytes, List.length_cons]
      omega

theorem wildcards_le_tokensBytes (tokens : List PatternToken) :
    1004 * tokens.count .wildcard ≤ tokensBytes .backward tokens := by
  induction tokens with
  | nil => exact Nat.le_refl 0
  | cons token tokens ih =>
      have here : 1004 * token.groupCount ≤ token.bytes .backward := by
        cases token <;> simp [PatternToken.groupCount, PatternToken.bytes]
      simp only [tokensBytes, count_wildcard_cons]
      omega

theorem patternFits_of_length_le {template : String} (short : template.length ≤ 10443) :
    PatternFits template := by
  have tokens := (tokenReading_patternTokens template.toList).length_le
  have within : ∀ direction, patternBytes direction template ≤ sizeLimit := by
    intro direction
    -- A wildcard read backward is the dearest token.
    have bytes := tokensBytes_le direction (patternTokens template.toList)
    have frame : Expr.frameBytes direction ≤ 208 := by cases direction <;> decide
    rw [String.length_toList] at tokens
    simp only [patternBytes, sizeLimit]
    omega
  exact ⟨within .forward, within .backward⟩

theorem patternFits_of_blank {template : String} (blank : isBlankText template = true) :
    PatternFits template := by
  simp only [PatternFits, patternBytes]
  rcases patternTokens_of_blank (List.all_eq_true.mp blank) with none | one
  · rw [none]
    decide
  · rw [one]
    decide

theorem not_patternFits_of_count {template : String} (many : 10443 < template.toList.count '*') :
    ¬ PatternFits template := by
  rintro ⟨-, backward⟩
  have bytes := wildcards_le_tokensBytes (patternTokens template.toList)
  rw [(tokenReading_patternTokens template.toList).count_wildcard] at bytes
  simp only [patternBytes, Expr.frameBytes, rangesBytes, choiceBytes, stateBytes, sizeLimit]
    at backward
  omega

def wildcards (count : Nat) : String := String.ofList (List.replicate count '*')

/-- The bound on the length is sharp, since a template may be all wildcards. -/
theorem patternFits_wildcards_iff (count : Nat) :
    PatternFits (wildcards count) ↔ count ≤ 10443 := by
  constructor
  · intro fits
    refine Nat.le_of_not_lt fun many => not_patternFits_of_count ?_ fits
    rw [wildcards, String.toList_ofList, List.count_replicate_self]
    exact many
  · intro few
    refine patternFits_of_length_le ?_
    rw [wildcards, String.length_ofList, List.length_replicate]
    exact few

end Template

end ShortcodeExpansion
