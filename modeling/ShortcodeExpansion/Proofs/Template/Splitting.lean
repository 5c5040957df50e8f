import ShortcodeExpansion.Proofs.Template.Decomposition
import ShortcodeExpansion.Template.Expansion

/-!
# Splitting a text at a template's matches

A text splits into gaps and matches, each match the first one in what is left after the match before
it, and a last gap without a match.  A template that a wildcard closes matches at most once, up to
the end of the text.
-/

set_option autoImplicit false

namespace ShortcodeExpansion.Template

/-- A gap, and the pieces of the match after it. -/
structure Occurrence where
  gap : List Char
  pieces : List (List Char)

/-- How a text splits at the matches of a template; `after` tells that a match ends where the text
starts. -/
inductive Splits (tokens : List PatternToken) :
    (after : Bool) → List Char → List Occurrence → List Char → Prop where
  | last {after : Bool} {text : List Char} (none : ∀ pos, pos ≤ text.length → ∀ pieces,
      ¬ Decomposes tokens pieces (text.drop pos)) : Splits tokens after text [] text
  /-- The empty match at the end of a text does not count after another match. -/
  | closed (wildcards : ∀ token ∈ tokens, token = .wildcard) : Splits tokens true [] [] []
  | next {after : Bool} {gap rest final : List Char} {pieces : List (List Char)}
      {occurrences : List Occurrence}
      (first : ∀ pos, pos < gap.length → ∀ others,
        ¬ Decomposes tokens others ((gap ++ (pieces.flatten ++ rest)).drop pos))
      (preferred : IsPreferred tokens pieces (pieces.flatten ++ rest))
      (onward : after = true → gap ++ pieces.flatten ≠ [])
      (more : Splits tokens true rest occurrences final) :
      Splits tokens after (gap ++ (pieces.flatten ++ rest)) (⟨gap, pieces⟩ :: occurrences) final

/-- Gaps, each with what takes the place of the match after it, and the last gap. -/
def spliced (fill : List (List Char) → List Char) (occurrences : List Occurrence)
    (final : List Char) : List Char :=
  occurrences.flatMap (fun occurrence => occurrence.gap ++ fill occurrence.pieces) ++ final

theorem spliced_cons (fill : List (List Char) → List Char) (gap : List Char)
    (pieces : List (List Char)) (occurrences : List Occurrence) (final : List Char) :
    spliced fill (⟨gap, pieces⟩ :: occurrences) final =
      gap ++ fill pieces ++ spliced fill occurrences final := by
  simp [spliced]

section Splits

variable {tokens : List PatternToken} {after : Bool} {text final : List Char}
  {occurrences : List Occurrence}

/-- With every match put back, the text is as it was. -/
theorem Splits.eq_spliced (splits : Splits tokens after text occurrences final) :
    text = spliced List.flatten occurrences final := by
  induction splits with
  | last => rfl
  | closed => rfl
  | next _ _ _ _ ih => rw [spliced_cons, ← ih, List.append_assoc]

/-- No match follows one that took the text to its end. -/
theorem Splits.of_nil (splits : Splits tokens after text occurrences final) (here : after = true)
    (nothing : text = []) : occurrences = [] ∧ final = [] := by
  cases splits with
  | last => exact ⟨rfl, nothing⟩
  | closed => exact ⟨rfl, rfl⟩
  | next _ _ onward _ =>
      rw [← List.append_assoc] at nothing
      exact absurd (List.append_eq_nil_iff.mp nothing).1 (onward here)

theorem Splits.of_closed (splits : Splits tokens after text occurrences final)
    (wild : tokens.getLast? = some .wildcard) :
    occurrences.length ≤ 1 ∧ (occurrences ≠ [] → final = []) := by
  cases splits with
  | last => exact ⟨Nat.zero_le _, fun some => absurd rfl some⟩
  | closed => exact ⟨Nat.zero_le _, fun _ => rfl⟩
  | @next _ _ rest _ _ _ _ preferred _ more =>
      have whole := preferred.flatten_eq wild
      obtain ⟨rfl, rfl⟩ := more.of_nil rfl (by simpa using whole)
      exact ⟨Nat.le_refl _, fun _ => rfl⟩

end Splits

/-- The texts of the groups of a match: the match itself, and the pieces of the wildcards.  No group
has a name. -/
def matchGroups (tokens : List PatternToken) (pieces : List (List Char)) : GroupTexts where
  numbered
    | 0 => pieces.flatten
    | index + 1 => ((captures tokens pieces)[index]?).getD []
  named _ := []

end ShortcodeExpansion.Template
