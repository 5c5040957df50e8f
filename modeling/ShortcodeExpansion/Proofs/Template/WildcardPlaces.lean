import ShortcodeExpansion.Proofs.Template.WildcardReading

/-!
# The places of the wildcards in a replacement

The wildcards of a template cut it into pieces.  Numbering the wildcards keeps the pieces and puts a
reference in each place where two of them meet.
-/

set_option autoImplicit false

namespace ShortcodeExpansion.Template

/-- Pieces with an asterisk in front of each but the first. -/
def withAsterisks (first : List Char) (rest : List (List Char)) : List Char :=
  first ++ rest.flatMap fun piece => '*' :: piece

/-- A reference to a numbered group: its digits after a dollar sign, in braces if so asked. -/
def writtenReference (index : Nat) (braced : Bool) : List Char :=
  let digits := (toString index).toList
  if braced then bracedReference digits else '$' :: digits

/-- Pieces with a reference in front of each but the first, to one number after the other; it is in
braces if the piece starts with a digit. -/
def withReferences (number : Nat → Nat) (k : Nat) (first : List Char) (rest : List (List Char)) :
    List Char :=
  first ++ (rest.zipIdx k).flatMap fun (piece, k) =>
    writtenReference (number k) (digitFirst piece) ++ piece

section Pieces

variable {first piece : List Char} {rest : List (List Char)}

theorem withAsterisks_cons :
    withAsterisks first (piece :: rest) = first ++ '*' :: withAsterisks piece rest := by
  simp [withAsterisks]

theorem withReferences_cons (number : Nat → Nat) (k : Nat) :
    withReferences number k first (piece :: rest) =
      first ++ (writtenReference (number k) (digitFirst piece) ++
        withReferences number (k + 1) piece rest) := by
  simp [withReferences]

/-- What stands between the wildcards of a text. -/
structure Cut (text first : List Char) (rest : List (List Char)) : Prop where
  whole : text = withAsterisks first rest
  plain : ∀ piece ∈ first :: rest, '*' ∉ piece

theorem exists_cut (text : List Char) : ∃ first rest, Cut text first rest := by
  induction text with
  | nil => exact ⟨[], [], rfl, by simp⟩
  | cons c text ih =>
      obtain ⟨first, rest, whole, plain⟩ := ih
      by_cases star : c = '*'
      · refine ⟨[], first :: rest, by rw [star, whole, withAsterisks_cons, List.nil_append], ?_⟩
        simpa using plain
      · refine ⟨c :: first, rest, by rw [whole, withAsterisks, withAsterisks, List.cons_append], ?_⟩
        simpa [Ne.symm star] using plain

theorem count_withAsterisks (plain : ∀ piece ∈ first :: rest, '*' ∉ piece) :
    (withAsterisks first rest).count '*' = rest.length := by
  induction rest generalizing first with
  | nil => simpa [withAsterisks, List.count_eq_zero] using plain
  | cons piece rest ih =>
      have here : first.count '*' = 0 := List.count_eq_zero.mpr (plain first List.mem_cons_self)
      have later := ih fun other member => plain other (List.mem_cons_of_mem first member)
      rw [withAsterisks_cons, List.count_append, List.count_cons_self, here, later,
        List.length_cons, Nat.zero_add]

/-- Whether a digit follows a wildcard is seen in the next piece alone: if that is empty, another
asterisk follows or nothing. -/
theorem digitFirst_withAsterisks : digitFirst (withAsterisks first rest) = digitFirst first := by
  have noDigit : isAsciiDigit '*' = false := by decide
  cases first <;> cases rest <;> simp [withAsterisks, digitFirst, noDigit]

theorem numberWildcards_withAsterisks (template : String) (k : Nat)
    (plain : ∀ piece ∈ first :: rest, '*' ∉ piece) :
    numberWildcards (.afterGiving template k) (withAsterisks first rest) =
      withReferences (freeNumber template) k first rest := by
  induction rest generalizing first k with
  | nil =>
      have alone := plain first List.mem_cons_self
      have text := numberWildcards_append (.afterGiving template k) [] alone
      simpa [withAsterisks, withReferences, numberWildcards] using text
  | cons piece rest ih =>
      have alone := plain first List.mem_cons_self
      have later := ih (k + 1) fun other member => plain other (List.mem_cons_of_mem first member)
      have number := (Allocation.afterGiving_hasGiven template k).next_eq
      have marker : '*' = wildcard := rfl
      rw [withAsterisks_cons, withReferences_cons, numberWildcards_append _ _ alone,
        numberWildcards, if_pos marker, number, ← Allocation.afterGiving_succ, later,
        referenceBefore, ← digitFirst, digitFirst_withAsterisks]
      rfl

theorem not_mem_writtenReference (index : Nat) (braced : Bool) :
    '*' ∉ writtenReference index braced := by
  have apart : '*' ∉ (toString index).toList :=
    not_mem_of_all (digits_toString index).2.1 (by decide)
  rw [writtenReference]
  generalize (toString index).toList = digits at apart ⊢
  cases braced <;> simp [bracedReference, apart]

theorem not_mem_withReferences (number : Nat → Nat) (k : Nat)
    (plain : ∀ piece ∈ first :: rest, '*' ∉ piece) :
    '*' ∉ withReferences number k first rest := by
  induction rest generalizing first k with
  | nil => simpa [withReferences] using plain
  | cons piece rest ih =>
      have alone := plain first List.mem_cons_self
      have later := ih (k + 1) fun other member => plain other (List.mem_cons_of_mem first member)
      simp [withReferences_cons, alone, not_mem_writtenReference, later]

end Pieces

/-- The wildcards of a template are replaced in their places, and nothing else is. -/
theorem exists_withReferences (template : String) :
    ∃ first rest, Cut template.toList first rest ∧ rest.length = template.toList.count '*' ∧
      (replacementSource template false).toList =
        withReferences (freeNumber template) 0 first rest ∧
      '*' ∉ (replacementSource template false).toList := by
  obtain ⟨first, rest, cut⟩ := exists_cut template.toList
  have written : (replacementSource template false).toList =
      withReferences (freeNumber template) 0 first rest := by
    rw [← numberWildcards_withAsterisks template 0 cut.plain, ← cut.whole]
    simp [replacementSource, Allocation.afterGiving]
  have many : rest.length = template.toList.count '*' := by
    rw [cut.whole, count_withAsterisks cut.plain]
  exact ⟨first, rest, cut, many, written, written ▸ not_mem_withReferences _ 0 cut.plain⟩

end ShortcodeExpansion.Template
