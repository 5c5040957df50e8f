import Mathlib.Data.List.Induction
import ShortcodeExpansion.Catalogue.Argument

/-!
# Mappings

The pairs that a mapping keeps, and the shortcodes it stands for.
-/

set_option autoImplicit false

namespace ShortcodeExpansion

namespace Mapping

theorem mem_insertPair_iff {key value : String} {pairs : List (String × String)}
    (ascending : pairs.Pairwise fun a b => a.1 < b.1) {pair : String × String} :
    pair ∈ insertPair key value pairs ↔ pair = (key, value) ∨ pair.1 ≠ key ∧ pair ∈ pairs := by
  induction pairs with
  | nil => simp [insertPair]
  | cons first rest ih =>
      obtain ⟨below, above⟩ := List.pairwise_cons.mp ascending
      rw [insertPair]
      split
      · rename_i before
        have off : ∀ old ∈ first :: rest, old.1 ≠ key := by
          intro old member
          rcases List.mem_cons.mp member with rfl | later
          · exact (String.ne_of_lt before).symm
          · exact (String.ne_of_lt (String.lt_trans before (below old later))).symm
        constructor
        · intro member
          rcases List.mem_cons.mp member with new | old
          · exact .inl new
          · exact .inr ⟨off pair old, old⟩
        · rintro (new | ⟨_, old⟩)
          · exact List.mem_cons.mpr (.inl new)
          · exact List.mem_cons_of_mem _ old
      · split
        · rename_i same
          constructor
          · intro member
            rcases List.mem_cons.mp member with new | old
            · exact .inl new
            · have above : key < pair.1 := same ▸ below pair old
              exact .inr ⟨(String.ne_of_lt above).symm, List.mem_cons_of_mem _ old⟩
          · rintro (new | ⟨off, old⟩)
            · exact List.mem_cons.mpr (.inl new)
            · rcases List.mem_cons.mp old with rfl | later
              · exact absurd same.symm off
              · exact List.mem_cons_of_mem _ later
        · rename_i different
          rw [List.mem_cons, ih above, List.mem_cons]
          constructor
          · rintro (rfl | new | ⟨off, old⟩)
            · exact .inr ⟨fun same => different same.symm, .inl rfl⟩
            · exact .inl new
            · exact .inr ⟨off, .inr old⟩
          · rintro (new | ⟨off, rfl | old⟩)
            · exact .inr (.inl new)
            · exact .inl rfl
            · exact .inr (.inr ⟨off, old⟩)

/-- A pair is in the mapping of a list if it is the last one there with its key. -/
theorem mem_ofPairs {pairs : List (String × String)} {key value : String} :
    (key, value) ∈ (ofPairs pairs).pairs ↔ pairs.reverse.lookup key = some value := by
  induction pairs using List.reverseRecOn with
  | nil => simp [ofPairs, default]
  | append_singleton pairs pair ih =>
      obtain ⟨last, given⟩ := pair
      have step : ofPairs (pairs ++ [(last, given)]) = (ofPairs pairs).insert last given := by
        simp [ofPairs]
      rw [step, insert, mem_insertPair_iff (ofPairs pairs).ascending, ih, List.reverse_append]
      by_cases same : key = last
      · simp [same, eq_comm]
      · have other : (key == last) = false := beq_eq_false_iff_ne.mpr same
        simp [List.lookup_cons, other, same]

end Mapping

end ShortcodeExpansion
