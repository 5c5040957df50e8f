import Mathlib.Data.List.Perm.Subperm
import Mathlib.Data.Nat.Nth
import Mathlib.Logic.Function.Iterate
import ShortcodeExpansion.Template.Allocation

/-!
# The numbers that wildcards get

An allocation hands out the positive numbers that a template does not refer to, in ascending order
and without leaving one out: the number handed out after `k` others is the one that is greater than
exactly `k` of them.
-/

set_option autoImplicit false

namespace ShortcodeExpansion.Template

/-- A number that a template leaves free for a wildcard. -/
def IsFree (template : String) (index : Nat) : Prop :=
  0 < index ∧ index ∉ explicitReferences template

instance (template : String) : DecidablePred (IsFree template) :=
  fun index => inferInstanceAs (Decidable (0 < index ∧ index ∉ explicitReferences template))

/-- The free number with exactly `k` free numbers below it. -/
noncomputable def freeNumber (template : String) (k : Nat) : Nat := Nat.nth (IsFree template) k

/-- If every positive number is free, they are handed out from one on. -/
theorem freeNumber_of_all_free {template : String}
    (free : ∀ index, 0 < index → IsFree template index) (k : Nat) :
    freeNumber template k = k + 1 := by
  have notZero : ¬ IsFree template 0 := fun isFree => Nat.lt_irrefl 0 isFree.1
  have below : Nat.count (IsFree template) (k + 1) = k := by
    induction k with
    | zero => simp [Nat.count_succ, notZero]
    | succ k ih => rw [Nat.count_succ, ih, if_pos (free _ (Nat.succ_pos k))]
  rw [freeNumber]
  conv_lhs => rw [← below]
  exact Nat.nth_count (free _ (Nat.succ_pos k))

/-- A template without references of its own leaves every positive number free. -/
theorem freeNumber_of_no_references {template : String}
    (none : explicitReferences template = []) (k : Nat) : freeNumber template k = k + 1 :=
  freeNumber_of_all_free (fun index positive => ⟨positive, by simp [none]⟩) k

namespace Allocation

theorem le_firstFree (reserved : List Nat) :
    ∀ reach index : Nat, index ≤ firstFree reserved reach index := by
  intro reach
  induction reach with
  | zero => intro index; exact Nat.le_refl _
  | succ reach ih =>
      intro index
      have later := ih (index + 1)
      rw [firstFree]
      split <;> omega

/-- Everything that the search passes by is reserved. -/
theorem mem_of_lt_firstFree (reserved : List Nat) :
    ∀ {reach index i : Nat}, index ≤ i → i < firstFree reserved reach index → i ∈ reserved := by
  intro reach
  induction reach with
  | zero =>
      intro index i after before
      rw [firstFree] at before
      omega
  | succ reach ih =>
      intro index i after before
      rw [firstFree] at before
      split at before
      · rename_i taken
        rcases Nat.eq_or_lt_of_le after with rfl | later
        · simpa using taken
        · exact ih later before
      · omega

/-- The search ends at a free number or at the end of its reach. -/
theorem firstFree_stops (reserved : List Nat) :
    ∀ reach index : Nat, firstFree reserved reach index ∉ reserved ∨
      firstFree reserved reach index = index + reach := by
  intro reach
  induction reach with
  | zero => intro index; exact .inr rfl
  | succ reach ih =>
      intro index
      rw [firstFree]
      split
      · have later := ih (index + 1)
        rw [Nat.add_right_comm] at later
        exact later
      · rename_i free
        exact .inl (by simpa using free)

/-- Of more numbers in a row than are reserved, one is free. -/
theorem firstFree_not_mem (reserved : List Nat) (index : Nat) :
    firstFree reserved reserved.length index ∉ reserved := by
  intro taken
  rcases firstFree_stops reserved reserved.length index with free | last
  · exact free taken
  · have all : List.range' index (reserved.length + 1) ⊆ reserved := by
      intro i member
      obtain ⟨after, before⟩ := List.mem_range'_1.mp member
      by_cases passed : i < firstFree reserved reserved.length index
      · exact mem_of_lt_firstFree reserved after passed
      · have same : i = firstFree reserved reserved.length index := by omega
        rw [same]
        exact taken
    have length := (List.Nodup.subperm (List.nodup_range' 1) all).length_le
    simp at length

/-- An allocation has handed out the first `k` free numbers of a template. -/
structure HasGiven (a : Allocation) (template : String) (k : Nat) : Prop where
  positive : 0 < a.cursor
  explicit : ∀ index ∈ explicitReferences template, index ∈ a.reserved
  /-- What was handed out lies before the cursor. -/
  ahead : ∀ index ∈ a.reserved, a.cursor ≤ index → index ∈ explicitReferences template
  given : Nat.count (IsFree template) a.cursor = k

theorem ofTemplate_hasGiven (template : String) : (ofTemplate template).HasGiven template 0 where
  positive := Nat.one_pos
  explicit index member := List.mem_eraseDups.mpr member
  ahead index member _ := List.mem_eraseDups.mp member
  given := by simp [ofTemplate, Nat.count_succ, IsFree]

section Given

variable {a : Allocation} {template : String} {k : Nat}

theorem HasGiven.le_next (given : a.HasGiven template k) : a.cursor ≤ a.next := by
  have start : max a.cursor 1 = a.cursor := Nat.max_eq_left given.positive
  rw [next, start]
  exact le_firstFree _ _ _

theorem HasGiven.next_isFree (given : a.HasGiven template k) : IsFree template a.next := by
  have positive := given.positive
  have after := given.le_next
  refine ⟨by omega, fun member => ?_⟩
  exact firstFree_not_mem a.reserved (max a.cursor 1) (given.explicit _ member)

/-- No free number is left out. -/
theorem HasGiven.count_next (given : a.HasGiven template k) :
    Nat.count (IsFree template) a.next = k := by
  have start : max a.cursor 1 = a.cursor := Nat.max_eq_left given.positive
  obtain ⟨gap, equal⟩ := Nat.exists_eq_add_of_le given.le_next
  rw [equal, Nat.count_add, given.given, Nat.add_eq_left, Nat.count_iff_forall_not]
  intro i before free
  have before : a.cursor + i < firstFree a.reserved a.reserved.length a.cursor := by
    rw [next, start] at equal
    omega
  have passed := mem_of_lt_firstFree a.reserved (Nat.le_add_right _ _) before
  exact free.2 (given.ahead _ passed (by omega))

/-- The next number is the next free one. -/
theorem HasGiven.next_eq (given : a.HasGiven template k) : a.next = freeNumber template k := by
  rw [freeNumber, ← given.count_next, Nat.nth_count given.next_isFree]

theorem HasGiven.advance (given : a.HasGiven template k) : a.advance.HasGiven template (k + 1) where
  positive := Nat.succ_pos _
  explicit index member := List.mem_cons_of_mem _ (given.explicit index member)
  ahead index member after := by
    have near := given.le_next
    have after : a.next + 1 ≤ index := after
    rcases List.mem_cons.mp member with rfl | before
    · omega
    · exact given.ahead index before (by omega)
  given := by
    have free := given.next_isFree
    have count := given.count_next
    simp only [Allocation.advance, Nat.count_succ, count, if_pos free]

end Given

/-- The allocation of a template once it has handed out `k` numbers. -/
def afterGiving (template : String) (k : Nat) : Allocation := advance^[k] (ofTemplate template)

theorem afterGiving_succ (template : String) (k : Nat) :
    afterGiving template (k + 1) = (afterGiving template k).advance :=
  Function.iterate_succ_apply' advance k (ofTemplate template)

theorem afterGiving_hasGiven (template : String) (k : Nat) :
    (afterGiving template k).HasGiven template k := by
  induction k with
  | zero => exact ofTemplate_hasGiven template
  | succ k ih =>
      rw [afterGiving_succ]
      exact ih.advance

end Allocation

/-! ## The free numbers in order -/

section FreeNumber

variable (template : String) (k : Nat)

theorem freeNumber_isFree : IsFree template (freeNumber template k) := by
  have given := Allocation.afterGiving_hasGiven template k
  exact given.next_eq ▸ given.next_isFree

theorem count_freeNumber : Nat.count (IsFree template) (freeNumber template k) = k := by
  have given := Allocation.afterGiving_hasGiven template k
  exact given.next_eq ▸ given.count_next

/-- More than `k` free numbers lie below a bound just if the one with `k` below it does. -/
theorem freeNumber_lt_iff {bound : Nat} :
    freeNumber template k < bound ↔ k < Nat.count (IsFree template) bound := by
  constructor
  · intro below
    have upTo := Nat.count_strict_mono (freeNumber_isFree template k) below
    rwa [count_freeNumber] at upTo
  · exact Nat.nth_lt_of_lt_count

theorem freeNumber_strictMono : StrictMono (freeNumber template) := by
  intro j k before
  rwa [freeNumber_lt_iff, count_freeNumber]

end FreeNumber

end ShortcodeExpansion.Template
