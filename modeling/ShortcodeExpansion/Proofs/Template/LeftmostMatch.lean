import ShortcodeExpansion.Proofs.Regex.LeftToRight
import ShortcodeExpansion.Proofs.Template.PatternWays
import ShortcodeExpansion.Proofs.Template.TokenReading

/-!
# Matches of a template

The pattern that a template is written as is valid, has one group for each wildcard, and finds what
the template asks for when it is read as a row of tokens: the match starts at the first place where
the text can be decomposed, and is the preferred decomposition there.
-/

set_option autoImplicit false

namespace ShortcodeExpansion.Template

open Regex

/-- A match is the preferred decomposition of the text from where it starts, and its groups are the
places of the wildcards' pieces. -/
structure IsMatch (tokens : List PatternToken) (text : List Char) (m : Match)
    (pieces : List (List Char)) : Prop where
  preferred : IsPreferred tokens pieces (text.drop m.start)
  stop : m.stop = m.start + pieces.flatten.length
  groups : ∀ k : Nat, m.group? (k + 1) = (captureSpans m.start tokens pieces)[k]?

theorem decompositions_of_firstAt_eq_none {tokens : List PatternToken} {text : List Char}
    {pos : Nat} (none : firstAt (tokenItems 1 tokens) text pos = none)
    (pieces : List (List Char)) : ¬ Decomposes tokens pieces (text.drop pos) := by
  rw [firstAt, rowWays_tokenItems, List.head?_map] at none
  exact not_decomposes_of_head? (by simpa [place] using none) pieces

theorem isMatch_of_firstAt {tokens : List PatternToken} {text : List Char} {pos : Nat} {m : Match}
    (found : firstAt (tokenItems 1 tokens) text pos = some m) :
    ∃ pieces, IsMatch tokens text m pieces := by
  have start := firstAt_start found
  rw [firstAt, rowWays_tokenItems, List.head?_map, Option.map_map] at found
  obtain ⟨pieces, head, rfl⟩ := Option.map_eq_some_iff.mp found
  have preferred : IsPreferred tokens pieces (text.drop pos) := isPreferred_of_head? head
  refine ⟨pieces, preferred, pastAll_pos preferred.decomposes 1 (place text pos), fun k => ?_⟩
  obtain ⟨opened, closed⟩ := pastAll_slot? tokens 1 (place text pos) pieces (fun _ _ => rfl) k
  rw [Nat.add_comm 1 k] at opened closed
  simp only [Match.group?, Nat.add_one_ne_zero, if_false, Function.comp_apply, opened, closed,
    place_pos]
  cases (captureSpans pos tokens pieces)[k]? <;> rfl

/-- What a search from a position on has to find: the first match that starts there or later. -/
inductive Leftmost (tokens : List PatternToken) (text : List Char) (start : Nat) :
    Option Match → Prop where
  | absent (never : ∀ pos, start ≤ pos → pos ≤ text.length → ∀ pieces,
      ¬ Decomposes tokens pieces (text.drop pos)) : Leftmost tokens text start none
  | found {m : Match} {pieces : List (List Char)} (after : start ≤ m.start)
      (within : m.start ≤ text.length)
      (first : ∀ pos, start ≤ pos → pos < m.start → ∀ others,
        ¬ Decomposes tokens others (text.drop pos))
      (isMatch : IsMatch tokens text m pieces) : Leftmost tokens text start (some m)

/-- Of the matches that a scan gives, the first is the one looked for. -/
theorem leftmost_of_successive {tokens : List PatternToken} {text : List Char} {start : Nat}
    {found : List Match} (successive : Successive (tokenItems 1 tokens) text start none found) :
    Leftmost tokens text start found.head? := by
  have taken : ∀ pos, takenAt (tokenItems 1 tokens) text none pos =
      firstAt (tokenItems 1 tokens) text pos := by
    intro pos
    cases here : firstAt (tokenItems 1 tokens) text pos <;> simp [takenAt, here]
  cases successive with
  | done none =>
      refine .absent fun pos after within => ?_
      exact decompositions_of_firstAt_eq_none ((taken pos).symm.trans (none pos after within))
  | next after within none first _ =>
      obtain ⟨pieces, isMatch⟩ := isMatch_of_firstAt ((taken _).symm.trans first)
      refine .found after within (fun pos past before => ?_) isMatch
      exact decompositions_of_firstAt_eq_none ((taken pos).symm.trans (none pos past before))

/-- The pattern of a template finds exactly what the template's tokens ask for. -/
theorem patternSource_search (template : String) :
    ∃ tokens, (∀ others, TokenReading template.toList others ↔ others = tokens) ∧
      ∃ expr, readExpr (patternSource template false) = .ok expr ∧
        expr.groupIndices = List.range' 1 (template.toList.count '*') ∧
        expr.groupNames = [] ∧
        ∀ (text : List Char) (start : Nat),
          Leftmost tokens text start (searchFrom expr text start) := by
  have groups : (tokensExpr (patternTokens template.toList)).groupIndices =
      List.range' 1 (template.toList.count '*') := by
    rw [tokensExpr, joinTokens_groupIndices, (tokenReading_patternTokens _).count_wildcard]
    rfl
  refine ⟨patternTokens template.toList, fun others => tokenReading_iff,
    tokensExpr (patternTokens template.toList), readExpr_tokens template, groups,
    joinTokens_groupNames _ _ _, fun text start => ?_⟩
  rw [searchFrom, layout_tokensExpr]
  exact leftmost_of_successive (scan_text (tokenItems_plain _ 1) text start)

end ShortcodeExpansion.Template
