import Mathlib.Order.Interval.Finset.Nat
import ShortcodeExpansion.Proofs.Rule
import ShortcodeExpansion.Proofs.Template.WildcardPlaces

/-!
# Numbers within the groups of a pattern

A replacement may have more wildcards than its pattern has groups.  All of them refer to groups of
the pattern just if there are no more of them than groups that the replacement does not refer to
itself.
-/

set_option autoImplicit false

namespace ShortcodeExpansion

theorem Regex.Expr.maxGroup_le_iff (expr : Regex.Expr) (bound : Nat) :
    expr.maxGroup ≤ bound ↔ ∀ index ∈ expr.groupIndices, index ≤ bound := by
  induction expr with
  | empty => simp [maxGroup, groupIndices]
  | set chars => simp [maxGroup, groupIndices]
  | look look => simp [maxGroup, groupIndices]
  | group index name body ih => simp [maxGroup, groupIndices, ih]
  | seq a b first second => simp [maxGroup, groupIndices, first, second, or_imp, forall_and]
  | alt a b first second => simp [maxGroup, groupIndices, first, second, or_imp, forall_and]
  | rep min max greedy body ih => simp [maxGroup, groupIndices, ih]

namespace Template

theorem groupIndices_tokensExpr (template : String) :
    (tokensExpr (patternTokens template.toList)).groupIndices =
      List.range' 1 (template.toList.count '*') := by
  rw [tokensExpr, joinTokens_groupIndices, (tokenReading_patternTokens _).count_wildcard]
  rfl

/-- The pattern of a template has a group for each wildcard. -/
theorem maxGroup_tokensExpr (template : String) :
    (tokensExpr (patternTokens template.toList)).maxGroup = template.toList.count '*' := by
  refine eq_of_forall_ge_iff fun bound => ?_
  rw [Regex.Expr.maxGroup_le_iff, groupIndices_tokensExpr]
  constructor
  · intro all
    by_contra above
    have last := all (bound + 1) (List.mem_range'_1.mpr (by omega))
    omega
  · intro upTo index member
    have within := List.mem_range'_1.mp member
    omega

theorem isMatch_of_searchFrom {tokens : List PatternToken} {text : List Char} {start : Nat}
    {m : Regex.Match} (found : Regex.searchFrom (tokensExpr tokens) text start = some m) :
    ∃ pieces, IsMatch tokens text m pieces := by
  have leftmost : Leftmost tokens text start (some m) := by
    rw [← found, Regex.searchFrom, layout_tokensExpr]
    exact leftmost_of_successive (Regex.scan_text (tokenItems_plain tokens 1) text start)
  cases leftmost with
  | found _ _ _ isMatch => exact ⟨_, isMatch⟩

/-- The groups that a replacement template refers to itself. -/
def referredGroups (template : String) : Finset Nat :=
  (explicitReferences template).toFinset.filter (0 < ·)

theorem count_isFree (template : String) (bound : Nat) :
    Nat.count (IsFree template) (bound + 1) =
      bound - (referredGroups template ∩ Finset.Icc 1 bound).card := by
  -- All numbers up to the bound are free but those that are referred to.
  have free : (Finset.range (bound + 1)).filter (IsFree template) =
      Finset.Icc 1 bound \ referredGroups template := by
    ext index
    simp only [Finset.mem_filter, Finset.mem_range, Finset.mem_sdiff, Finset.mem_Icc,
      referredGroups, List.mem_toFinset, IsFree]
    constructor
    · rintro ⟨within, positive, apart⟩
      exact ⟨by omega, fun refers => apart refers.1⟩
    · rintro ⟨⟨positive, within⟩, apart⟩
      exact ⟨by omega, positive, fun refers => apart ⟨refers, positive⟩⟩
  rw [Nat.count_eq_card_filter_range, free, Finset.card_sdiff, Nat.card_Icc, Nat.add_sub_cancel]

theorem numbers_le_iff (template : String) (wildcards bound : Nat) :
    (∀ k, k < wildcards → freeNumber template k ≤ bound) ↔
      wildcards ≤ bound - (referredGroups template ∩ Finset.Icc 1 bound).card := by
  -- The number of the wildcard `k` is within the bound if more than `k` free numbers are.
  have within : ∀ k, freeNumber template k ≤ bound ↔
      k < Nat.count (IsFree template) (bound + 1) := by
    intro k
    rw [← freeNumber_lt_iff, Nat.lt_succ_iff]
  simp only [within, ← count_isFree]
  constructor
  · intro all
    by_contra more
    exact Nat.lt_irrefl _ (all _ (Nat.lt_of_not_le more))
  · intro few k before
    exact Nat.lt_of_lt_of_le before few

theorem freeNumber_of_no_groups {template : String} (none : referredGroups template = ∅) (k : Nat) :
    freeNumber template k = k + 1 := by
  refine freeNumber_of_all_free (fun index positive => ⟨positive, fun refers => ?_⟩) k
  have group : index ∈ referredGroups template := by simp [referredGroups, refers, positive]
  simp [none] at group

/-- The number that an allocation hands out after `k` others. -/
def allocated (template : String) (k : Nat) : Nat := (Allocation.afterGiving template k).next

theorem allocated_eq : allocated = freeNumber := by
  funext template k
  exact (Allocation.afterGiving_hasGiven template k).next_eq

/-- How the numbers that the wildcards of a replacement get, and the groups of its pattern, belong
together.  The groups are those of the expression that the pattern means, which also a pattern has
that is too large to compile. -/
structure NumbersGroups (s : Shortcode) (rule : Rule) (expr : Regex.Expr) : Prop where
  pattern : Regex.readExpr rule.pattern = .ok expr
  compiled : ∀ regex, Regex.compile rule.pattern = .ok regex → regex.groupCount = expr.maxGroup
  opened : expr.groupIndices = List.range' 1 (s.pattern.toList.count '*')
  groups : expr.maxGroup = s.pattern.toList.count '*'
  /-- The references that stand in the place of the wildcards. -/
  replacement : ∃ first rest, Cut s.replacement.toList first rest ∧
    rest.length = s.replacement.toList.count '*' ∧
    rule.replacement.toList = withReferences (allocated s.replacement) 0 first rest
  within_iff : (∀ k, k < s.replacement.toList.count '*' →
      allocated s.replacement k ≤ expr.maxGroup) ↔
    s.replacement.toList.count '*' ≤
      expr.maxGroup - (referredGroups s.replacement ∩ Finset.Icc 1 expr.maxGroup).card
  inOrder : referredGroups s.replacement = ∅ → ∀ k, allocated s.replacement k = k + 1
  /-- In every match the group of a wildcard's number is what the pattern's wildcard takes. -/
  captured : referredGroups s.replacement = ∅ → ∀ text start m,
    Regex.searchFrom expr text start = some m →
      ∃ pieces, IsMatch (patternTokens s.pattern.toList) text m pieces ∧
        ∀ k, m.group? (allocated s.replacement k) =
          (captureSpans m.start (patternTokens s.pattern.toList) pieces)[k]?

/-- The numbers of the wildcards of a replacement lie within the groups of its pattern just if there
are enough groups that the replacement does not refer to itself. -/
theorem wildcards_within_groups {s : Shortcode} (wild : s.raw = false) (solid : s.isBlank = false) :
    ∃ rule expr, Rule.ofShortcode? s = some rule ∧ NumbersGroups s rule expr := by
  obtain ⟨first, rest, cut, many, written, -⟩ := exists_withReferences s.replacement
  have inOrder : referredGroups s.replacement = ∅ → ∀ k, allocated s.replacement k = k + 1 := by
    rw [allocated_eq]
    exact freeNumber_of_no_groups
  refine ⟨⟨patternSource s.pattern false, replacementSource s.replacement false, .untried⟩,
    tokensExpr (patternTokens s.pattern.toList), ?_, readExpr_tokens s.pattern, ?_,
    groupIndices_tokensExpr s.pattern, maxGroup_tokensExpr s.pattern, ?_, ?_, inOrder, ?_⟩
  · rw [Rule.ofShortcode?_of_solid solid, Shortcode.rule, Shortcode.texts_of_wildcard wild]
  · intro regex builds
    rw [Regex.groupCount, Rule.expr_of_compile builds]
  · exact ⟨first, rest, cut, many, allocated_eq ▸ written⟩
  · rw [allocated_eq]
    exact numbers_le_iff _ _ _
  · intro none text start m found
    obtain ⟨pieces, isMatch⟩ := isMatch_of_searchFrom found
    exact ⟨pieces, isMatch, fun k => inOrder none k ▸ isMatch.groups k⟩

/-- Two wildcards where one group is left. -/
def crowdedShortcode : Shortcode := ⟨"[* *]", "*, $1 and *", false⟩

theorem wildcards_within_groups_crowded : crowdedShortcode.raw = false ∧
    crowdedShortcode.isBlank = false ∧
    ∃ rule expr, Rule.ofShortcode? crowdedShortcode = some rule ∧
      NumbersGroups crowdedShortcode rule expr := by
  have solid : crowdedShortcode.isBlank = false := by decide
  exact ⟨rfl, solid, wildcards_within_groups rfl solid⟩

end Template

end ShortcodeExpansion
