import ShortcodeExpansion.Proofs.Template.ReferencePlaces

/-!
# Numbers that are handed out and referred to

The numbers of a template's explicit references are reserved, so that no wildcard gets one of them.
The number of another reference can be handed out: of one written only in forms that the search for
explicit references passes over.
-/

set_option autoImplicit false

namespace ShortcodeExpansion.Template

/-- A template hands out the number of a reference of its own to one of its wildcards. -/
def TakesReferred (template : String) (index : Nat) : Prop :=
  (∃ k, k < template.toList.count '*' ∧ (Allocation.afterGiving template k).next = index) ∧
    .numbered index ∈ expansionPieces (expansion template)

/-- The numbers that are taken although the template refers to them are the positive ones up to the
last one handed out that it refers to in overlooked forms only. -/
theorem takesReferred_iff {template : String} {index : Nat} :
    TakesReferred template index ↔ 0 < index ∧ (∃ place, RefersAt template.toList index place) ∧
      (∀ place, RefersAt template.toList index place → Overlooked place) ∧
      ∃ k, k < template.toList.count '*' ∧ index ≤ (Allocation.afterGiving template k).next := by
  have free : IsFree template index ↔
      0 < index ∧ ∀ place, RefersAt template.toList index place → Overlooked place := by
    simp [IsFree, mem_explicitReferences_iff]
  have number : ∀ k, (Allocation.afterGiving template k).next = freeNumber template k :=
    fun k => (Allocation.afterGiving_hasGiven template k).next_eq
  rw [TakesReferred, numbered_mem_expansion_iff]
  constructor
  · rintro ⟨⟨k, within, rfl⟩, refers⟩
    obtain ⟨positive, overlooked⟩ :=
      free.mp (Allocation.afterGiving_hasGiven template k).next_isFree
    exact ⟨positive, refers, overlooked, k, within, Nat.le_refl _⟩
  · rintro ⟨positive, refers, overlooked, k, within, upTo⟩
    have some := free.mpr ⟨positive, overlooked⟩
    refine ⟨⟨Nat.count (IsFree template) index, ?_, ?_⟩, refers⟩
    · refine Nat.lt_of_le_of_lt (Nat.le_of_not_lt fun below => ?_) within
      have before : freeNumber template k < index := Nat.nth_lt_of_lt_count below
      rw [number] at upTo
      omega
    · rw [number]
      exact Nat.nth_count some

/-- No wildcard of a template gets a number that the template refers to itself, just if each
positive number that it refers to in overlooked forms only is greater than all that are handed
out. -/
theorem wildcards_apart_iff (template : String) :
    (∀ k, k < template.toList.count '*' →
        .numbered (Allocation.afterGiving template k).next ∉ expansionPieces (expansion template)) ↔
      ∀ index, 0 < index → (∃ place, RefersAt template.toList index place) →
        (∀ place, RefersAt template.toList index place → Overlooked place) →
        ∀ k, k < template.toList.count '*' → (Allocation.afterGiving template k).next < index := by
  constructor
  · intro apart index positive refers overlooked k within
    refine Nat.lt_of_not_le fun upTo => ?_
    obtain ⟨⟨j, inside, rfl⟩, referred⟩ :=
      takesReferred_iff.mpr ⟨positive, refers, overlooked, k, within, upTo⟩
    exact apart j inside referred
  · intro above k within referred
    obtain ⟨positive, refers, overlooked, -⟩ :=
      takesReferred_iff.mp ⟨⟨k, within, rfl⟩, referred⟩
    exact Nat.lt_irrefl _ (above _ positive refers overlooked k within)

/-- A wildcard after a reference with a backslash gets the number of the reference. -/
theorem backslash_reference_taken :
    0 < "\\1*".toList.count '*' ∧ (Allocation.afterGiving "\\1*" 0).next = 1 ∧
      .numbered 1 ∈ expansionPieces (expansion "\\1*") := by
  decide

end ShortcodeExpansion.Template
