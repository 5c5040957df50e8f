import Mathlib.Data.List.Infix
import ShortcodeExpansion.Proofs.Template.TemplateReading
import ShortcodeExpansion.Template.Reference

/-!
# References by their places

References never overlap: no sign that begins one lies inside another.  So the references of a text
are those that begin at some place in it, for the expansion and for the search for explicit
references alike.  The search passes over some forms that the expansion takes: a backslash in place
of the dollar sign, a single digit before a digit of another script, and more than two digits in
braces.
-/

set_option autoImplicit false

namespace ShortcodeExpansion.Template

/-- A text refers to a group at a place, given as what the text holds from there on. -/
def RefersAt (text : List Char) (index : Nat) (place : List Char) : Prop :=
  place <:+ text ∧ ∃ rest, Reference place (.numbered index) rest

/-- A reference has one sign, at its start. -/
theorem Reference.eq_cons_append {text rest : List Char} {piece : Piece}
    (refers : Reference text piece rest) : ∃ c body, text = c :: (body ++ rest) ∧
      ∀ d ∈ body, d ≠ '$' ∧ d ≠ '\\' := by
  cases refers with
  | @numeral sigil digits _ opens some few all longest =>
      refine ⟨sigil, digits, rfl, fun d member => ?_⟩
      have digit := all d member
      constructor <;> rintro rfl <;> exact absurd digit (by decide)
  | @braced name _ some all =>
      refine ⟨'$', '\x7b' :: (name ++ ['\x7d']), by simp, fun d member => ?_⟩
      have kind : d = '\x7b' ∨ isNameChar d = true ∨ d = '\x7d' := by
        simp only [List.mem_cons, List.mem_append, List.not_mem_nil, or_false] at member
        exact member.imp_right (.imp_left (all d))
      constructor <;> rintro rfl <;> exact absurd kind (by decide)

/-- Inside a reference no other begins. -/
theorem Reference.eq_or_suffix {text rest place after : List Char} {piece other : Piece}
    (refers : Reference text piece rest) (within : place <:+ text)
    (inner : Reference place other after) : place = text ∨ place <:+ rest := by
  obtain ⟨c, body, rfl, plain⟩ := refers.eq_cons_append
  rcases List.suffix_cons_iff.mp within with same | ⟨before, split⟩
  · exact .inl same
  · right
    rcases List.append_eq_append_iff.mp split with ⟨across, rfl, rfl⟩ | ⟨left, _, rfl⟩
    · cases across with
      | nil => exact List.suffix_refl _
      | cons d across =>
          obtain ⟨noDollar, noBackslash⟩ := plain d (by simp)
          exact absurd inner.begins (by simp [noDollar, noBackslash])
    · exact List.suffix_append left place

theorem Reference.piece_eq {text rest after : List Char} {piece other : Piece}
    (refers : Reference text piece rest) (again : Reference text other after) : piece = other := by
  obtain ⟨pieces, more⟩ := exists_reads rest
  obtain ⟨others, later⟩ := exists_reads after
  have here := (Reads.reference refers more).eq_pieces
  have there := (Reads.reference again later).eq_pieces
  exact (List.cons.inj (here.trans there.symm)).1

/-- A text reads with a reference to a group just if it refers to the group at some place. -/
theorem Reads.numbered_mem_iff {text : List Char} {pieces : List Piece} (reads : Reads text pieces)
    {index : Nat} : .numbered index ∈ pieces ↔ ∃ place, RefersAt text index place := by
  induction reads with
  | nil =>
      simp only [List.not_mem_nil, false_iff, not_exists]
      rintro place ⟨within, rest, refers⟩
      rw [List.suffix_nil.mp within] at refers
      cases refers
  | @reference text rest piece pieces refers _ ih =>
      rw [List.mem_cons, ih]
      constructor
      · rintro (rfl | ⟨place, within, there⟩)
        · exact ⟨text, List.suffix_refl text, rest, refers⟩
        · obtain ⟨written, rfl, -⟩ := refers.eq_append
          exact ⟨place, within.trans (List.suffix_append written rest), there⟩
      · rintro ⟨place, within, after, there⟩
        rcases refers.eq_or_suffix within there with rfl | later
        · exact .inl (there.piece_eq refers)
        · exact .inr ⟨place, later, after, there⟩
  | @char c rest pieces plain _ ih =>
      rw [List.mem_cons, ih]
      constructor
      · rintro (same | ⟨place, within, there⟩)
        · cases same
        · exact ⟨place, within.trans (List.suffix_cons c rest), there⟩
      · rintro ⟨place, within, after, there⟩
        rcases List.suffix_cons_iff.mp within with rfl | later
        · exact absurd there (plain _ after)
        · exact .inr ⟨place, later, after, there⟩

/-- The groups that an expansion refers to. -/
theorem numbered_mem_expansion_iff {text : String} {index : Nat} :
    .numbered index ∈ expansionPieces (expansion text) ↔
      ∃ place, RefersAt text.toList index place := by
  obtain ⟨pieces, reads⟩ := exists_reads text.toList
  have same : expansionPieces (expansion text) = pieces := by
    rw [reads.eq_pieces, expansionPieces, expansion, String.toList_ofList]
  rw [same, reads.numbered_mem_iff]

/-! ## Explicit references -/

/-- How an explicit reference is written after its dollar sign: the text, the digits, and how many
characters the reference takes of the text. -/
inductive ExplicitForm : List Char → List Char → Nat → Prop where
  /-- One or two digits, and not one if a second follows. -/
  | bare {digits rest : List Char} (some : digits ≠ []) (few : digits.length ≤ 2)
      (all : ∀ c ∈ digits, isDecimalDigit c = true)
      (longest : digits.length < 2 → ∀ c ∈ rest.head?, isDecimalDigit c = false) :
      ExplicitForm (digits ++ rest) digits digits.length
  | braced {digits rest : List Char} (some : digits ≠ []) (few : digits.length ≤ 2)
      (all : ∀ c ∈ digits, isDecimalDigit c = true) :
      ExplicitForm ('\x7b' :: (digits ++ '\x7d' :: rest)) digits (digits.length + 2)

theorem leadingDigits_append_drop (text : List Char) :
    leadingDigits text ++ text.drop (leadingDigits text).length = text :=
  List.prefix_iff_eq_append.mp (leadingRun_isPrefix text)

theorem all_leadingDigits (text : List Char) :
    ∀ c ∈ leadingDigits text, isDecimalDigit c = true :=
  List.all_eq_true.mp List.all_takeWhile

theorem explicitForm_of_referenceAfterDollar? {text digits : List Char} {length : Nat}
    (found : referenceAfterDollar? text = some (digits, length)) :
    ExplicitForm text digits length := by
  unfold referenceAfterDollar? at found
  split at found
  · rename_i digit more leading
    rw [← leading, Option.some.injEq, Prod.mk.injEq] at found
    obtain ⟨rfl, rfl⟩ := found
    have some : leadingDigits text ≠ [] := by simp [leading]
    have form : ExplicitForm (leadingDigits text ++ text.drop (leadingDigits text).length) _ _ :=
      .bare some (leadingRun_length text) (all_leadingDigits text) leadingRun_longest
    rwa [leadingDigits_append_drop] at form
  · split at found
    · rename_i inner _
      simp only [Option.ite_none_left_eq_some, Option.ite_none_right_eq_some, Option.some.injEq,
        Prod.mk.injEq, List.isEmpty_iff, List.head?_eq_some_iff] at found
      obtain ⟨some, ⟨rest, after⟩, rfl, rfl⟩ := found
      have form : ExplicitForm ('\x7b' :: (leadingDigits inner ++ '\x7d' :: rest)) _ _ :=
        .braced some (leadingRun_length inner) (all_leadingDigits inner)
      rwa [← after, leadingDigits_append_drop] at form
    · simp at found

theorem referenceAfterDollar?_eq_some_iff {text digits : List Char} {length : Nat} :
    referenceAfterDollar? text = some (digits, length) ↔ ExplicitForm text digits length := by
  refine ⟨explicitForm_of_referenceAfterDollar?, fun form => ?_⟩
  cases form with
  | @bare _ rest some few all longest =>
      have leading : leadingDigits (digits ++ rest) = digits := leadingRun_append few all longest
      unfold referenceAfterDollar?
      rw [leading]
      cases digits with
      | nil => exact absurd rfl some
      | cons digit more => rfl
  | @braced _ rest some few all =>
      have closes : ∀ c ∈ ('\x7d' :: rest).head?, isDecimalDigit c = false := by
        rintro c ⟨⟩
        decide
      have leading : leadingDigits (digits ++ '\x7d' :: rest) = digits :=
        leadingRun_append few all fun _ => closes
      have brace : leadingDigits ('\x7b' :: (digits ++ '\x7d' :: rest)) = [] := by
        have noDigit : isDecimalDigit '\x7b' = false := by decide
        simp [leadingDigits, noDigit]
      simp [referenceAfterDollar?, brace, leading, some]

/-- The number of the explicit reference that a text begins with. -/
def explicitNumber? : List Char → Option Nat
  | '$' :: rest => (referenceAfterDollar? rest).bind fun found => readNumeral? found.1
  | _ => none

theorem explicitNumber?_of_ne {c : Char} (other : c ≠ '$') (rest : List Char) :
    explicitNumber? (c :: rest) = none := by
  unfold explicitNumber?
  split
  · rename_i same
    exact absurd (List.cons.inj same).1 other
  · rfl

theorem referencesFrom_skip (text : List Char) :
    ∀ skip : Nat, referencesFrom skip text = referencesFrom 0 (text.drop skip) := by
  induction text with
  | nil => intro skip; cases skip <;> rfl
  | cons c text ih =>
      intro skip
      cases skip with
      | zero => rfl
      | succ skip => exact ih skip

/-- Where no dollar sign is passed, no reference is. -/
theorem filterMap_tails_append {passed : List Char} (plain : '$' ∉ passed) (rest : List Char) :
    (passed ++ rest).tails.filterMap explicitNumber? = rest.tails.filterMap explicitNumber? := by
  induction passed with
  | nil => rfl
  | cons c passed ih =>
      obtain ⟨other, later⟩ := List.ne_and_not_mem_of_not_mem_cons plain
      rw [List.cons_append, List.tails_cons,
        List.filterMap_cons_none (explicitNumber?_of_ne other.symm _), ih later]

theorem ExplicitForm.plain {text digits : List Char} {length : Nat}
    (form : ExplicitForm text digits length) : '$' ∉ text.take length := by
  have noDigit : isDecimalDigit '$' = false := by decide
  cases form with
  | bare some few all => simpa using not_mem_of_all all noDigit
  | @braced _ rest some few all =>
      have body := not_mem_of_all all noDigit
      have taken : ('\x7b' :: (digits ++ '\x7d' :: rest)).take (digits.length + 2) =
          '\x7b' :: (digits ++ ['\x7d']) := by simp [List.take_append]
      simp [taken, body]

/-- The explicit references of a text are those that begin at some place in it, in order. -/
theorem referencesFrom_eq_filterMap (text : List Char) :
    referencesFrom 0 text = text.tails.filterMap explicitNumber? := by
  -- By length, for the search goes on after the whole of a reference that it has found.
  induction length : text.length using Nat.strongRecOn generalizing text with
  | ind n ih =>
      cases text with
      | nil => rfl
      | cons c text =>
          simp only [List.length_cons] at length
          have onward := ih text.length (by omega) text rfl
          by_cases dollar : c = '$'
          · subst dollar
            rw [List.tails_cons]
            cases found : referenceAfterDollar? text with
            | none =>
                have none : explicitNumber? ('$' :: text) = none := by simp [explicitNumber?, found]
                rw [List.filterMap_cons_none none, ← onward]
                simp [referencesFrom, found]
            | some found' =>
                obtain ⟨digits, width⟩ := found'
                have plain := (explicitForm_of_referenceAfterDollar? found).plain
                have later := filterMap_tails_append plain (text.drop width)
                rw [List.take_append_drop, ← ih _ (by simp; omega) (text.drop width) rfl] at later
                have here : explicitNumber? ('$' :: text) = readNumeral? digits := by
                  simp [explicitNumber?, found]
                rw [List.filterMap_cons, here, later, ← referencesFrom_skip]
                cases number : readNumeral? digits <;> simp [referencesFrom, found, number]
          · rw [List.tails_cons, List.filterMap_cons_none (explicitNumber?_of_ne dollar text),
              ← onward]
            simp [referencesFrom, dollar]

/-- A reference in a form that the search for explicit references passes over. -/
inductive Overlooked : List Char → Prop where
  /-- A backslash stands in place of the dollar sign. -/
  | backslash (rest : List Char) : Overlooked ('\\' :: rest)
  /-- After a single digit comes a digit of another script. -/
  | foreign {digit other : Char} (rest : List Char) (ascii : isAsciiDigit digit = true)
      (decimal : isDecimalDigit other = true) (foreign : isAsciiDigit other = false) :
      Overlooked ('$' :: digit :: other :: rest)
  /-- More than two digits stand in braces. -/
  | long {digits : List Char} (rest : List Char) (many : 2 < digits.length)
      (all : ∀ c ∈ digits, isAsciiDigit c = true) :
      Overlooked ('$' :: '\x7b' :: (digits ++ '\x7d' :: rest))

theorem isDecimalDigit_of_isAsciiDigit {c : Char} (digit : isAsciiDigit c = true) :
    isDecimalDigit c = true := by
  simp only [isAsciiDigit, Bool.and_eq_true, decide_eq_true_eq] at digit
  have low : '0'.toNat ≤ c.toNat := digit.1
  have high : c.toNat ≤ '9'.toNat := digit.2
  simp only [Char.reduceToNat] at low high
  simp [isDecimalDigit, decimalDigitSet, CharSet.contains, CharSet.memRanges, Nat.not_lt.mpr low,
    high]

theorem all_isDecimalDigit {digits : List Char} (all : ∀ c ∈ digits, isAsciiDigit c = true) :
    ∀ c ∈ digits, isDecimalDigit c = true :=
  fun c member => isDecimalDigit_of_isAsciiDigit (all c member)

section Forms

variable {place text digits : List Char} {length index : Nat}

theorem explicitNumber?_eq_some_iff : explicitNumber? place = some index ↔
    ∃ text digits length, place = '$' :: text ∧ ExplicitForm text digits length ∧
      readNumeral? digits = some index := by
  constructor
  · intro found
    unfold explicitNumber? at found
    split at found
    · rename_i text
      obtain ⟨⟨digits, length⟩, found, number⟩ := Option.bind_eq_some_iff.mp found
      exact ⟨text, digits, length, rfl, explicitForm_of_referenceAfterDollar? found, number⟩
    · simp at found
  · rintro ⟨text, digits, length, rfl, form, number⟩
    simp [explicitNumber?, referenceAfterDollar?_eq_some_iff.mpr form, number]

theorem ExplicitForm.reference (form : ExplicitForm text digits length)
    (number : readNumeral? digits = some index) :
    ∃ rest, Reference ('$' :: text) (.numbered index) rest := by
  obtain ⟨some, ascii, rfl, -⟩ := readNumeral?_eq_some_iff.mp number
  cases form with
  | bare _ few all longest =>
      refine ⟨_, .numeral (.inl rfl) some few ascii fun short c first => ?_⟩
      rw [← Bool.not_eq_true]
      intro digit
      exact absurd (isDecimalDigit_of_isAsciiDigit digit) (by simp [longest short c first])
  | braced =>
      have named := all_isNameChar ascii
      rw [← (ofName_eq_numbered_iff named).mpr number]
      exact ⟨_, .braced some named⟩

theorem ExplicitForm.not_overlooked (form : ExplicitForm text digits length)
    (number : readNumeral? digits = some index) : ¬ Overlooked ('$' :: text) := by
  obtain ⟨_, ascii, -⟩ := readNumeral?_eq_some_iff.mp number
  intro overlooked
  generalize whole : '$' :: text = place at overlooked
  cases form with
  | @bare _ rest some few all longest =>
      cases overlooked with
      | backslash => exact absurd (List.cons.inj whole).1 (by decide)
      | @foreign digit other after _ decimal foreign =>
          match digits, (List.cons.inj whole).2 with
          | [], _ => exact some rfl
          | [d], same =>
              obtain ⟨-, rfl⟩ := List.cons.inj same
              exact absurd decimal (by simp [longest (by simp) other rfl])
          | d :: e :: more, same =>
              obtain ⟨rfl, -⟩ := List.cons.inj (List.cons.inj same).2
              exact absurd (ascii e (by simp)) (by simp [foreign])
      | long =>
          match digits, (List.cons.inj whole).2 with
          | [], _ => exact some rfl
          | d :: more, same =>
              obtain ⟨rfl, -⟩ := List.cons.inj same
              exact absurd (ascii _ List.mem_cons_self) (by decide)
  | @braced _ rest some few all =>
      cases overlooked with
      | backslash => exact absurd (List.cons.inj whole).1 (by decide)
      | foreign after digit =>
          obtain ⟨rfl, -⟩ := List.cons.inj (List.cons.inj whole).2
          exact absurd digit (by decide)
      | @long name after many all =>
          have same := (List.cons.inj (List.cons.inj whole).2).2
          have one := takeWhile_name (all_isNameChar ascii) rest
          have two := takeWhile_name (all_isNameChar all) after
          rw [same, two] at one
          subst one
          omega

/-- The search finds a reference that is in no overlooked form. -/
theorem Reference.explicitForm {rest : List Char} (refers : Reference place (.numbered index) rest)
    (seen : ¬ Overlooked place) : ∃ text digits length, place = '$' :: text ∧
      ExplicitForm text digits length ∧ readNumeral? digits = some index := by
  generalize same : Piece.numbered index = piece at refers
  cases refers with
  | @numeral sigil digits _ opens some few all longest =>
      have named : Piece.ofName digits = .numbered index :=
        (ofName_digits some few all).trans same.symm
      have number := (ofName_eq_numbered_iff (all_isNameChar all)).mp named
      have decimal := all_isDecimalDigit all
      rcases opens with rfl | rfl
      · refine ⟨_, digits, _, rfl, .bare some few decimal fun short c first => ?_, number⟩
        obtain ⟨d, rfl⟩ : ∃ d, digits = [d] := by
          have length := List.length_pos_iff.mpr some
          exact List.length_eq_one_iff.mp (by omega)
        obtain ⟨after, rfl⟩ := List.head?_eq_some_iff.mp first
        rw [← Bool.not_eq_true]
        intro foreign
        exact seen (.foreign after (all d List.mem_cons_self) foreign (longest short c first))
      · exact absurd (.backslash _) seen
  | @braced name _ some all =>
      have number := (ofName_eq_numbered_iff all).mp same.symm
      obtain ⟨-, ascii, -⟩ := readNumeral?_eq_some_iff.mp number
      have few : name.length ≤ 2 := by
        refine Classical.byContradiction fun many => seen (.long rest (by omega) ascii)
      exact ⟨_, name, _, rfl, .braced some few (all_isDecimalDigit ascii), number⟩

end Forms

/-- The explicit references of a template are those in no overlooked form. -/
theorem mem_explicitReferences_iff {template : String} {index : Nat} :
    index ∈ explicitReferences template ↔
      ∃ place, RefersAt template.toList index place ∧ ¬ Overlooked place := by
  rw [explicitReferences, referencesFrom_eq_filterMap, List.mem_filterMap]
  simp only [List.mem_tails, explicitNumber?_eq_some_iff, RefersAt, and_assoc]
  refine exists_congr fun place => and_congr_right fun _ => ⟨?_, ?_⟩
  · rintro ⟨text, digits, length, rfl, form, number⟩
    exact ⟨form.reference number, form.not_overlooked number⟩
  · rintro ⟨⟨rest, refers⟩, seen⟩
    exact refers.explicitForm seen

end ShortcodeExpansion.Template
