import ShortcodeExpansion.Proofs.Template.Numbering
import ShortcodeExpansion.Proofs.Template.ReplacementReading
import ShortcodeExpansion.Template.Replacement

/-!
# How a replacement template reads

A replacement template reads as a replacement does, except that its wildcards stand for the numbers
it leaves free, in order.  Writing the numbers out gives a text that reads as the same pieces, as
long as no number has more than two digits: neither does a number run into what follows it, nor does
a sign that stands before a wildcard begin a reference that was not there.
-/

set_option autoImplicit false

namespace ShortcodeExpansion.Template

/-- How a template reads as pieces; `k` wildcards come before it. -/
inductive TemplateReads (number : Nat → Nat) : Nat → List Char → List Piece → Prop where
  | nil (k : Nat) : TemplateReads number k [] []
  | wildcard {k : Nat} {rest : List Char} {pieces : List Piece}
      (more : TemplateReads number (k + 1) rest pieces) :
      TemplateReads number k ('*' :: rest) (.numbered (number k) :: pieces)
  | reference {k : Nat} {text rest : List Char} {piece : Piece} {pieces : List Piece}
      (refers : Reference text piece rest) (more : TemplateReads number k rest pieces) :
      TemplateReads number k text (piece :: pieces)
  | char {k : Nat} {c : Char} {rest : List Char} {pieces : List Piece} (ordinary : c ≠ '*')
      (plain : ∀ piece after, ¬ Reference (c :: rest) piece after)
      (more : TemplateReads number k rest pieces) :
      TemplateReads number k (c :: rest) (.char c :: pieces)

/-! ## Text around the wildcards -/

theorem numberWildcards_append (a : Allocation) {text : List Char} (rest : List Char)
    (plain : '*' ∉ text) : numberWildcards a (text ++ rest) = text ++ numberWildcards a rest := by
  induction text with
  | nil => rfl
  | cons c text ih =>
      obtain ⟨other, plain⟩ := List.ne_and_not_mem_of_not_mem_cons plain
      have other : c ≠ wildcard := other.symm
      rw [List.cons_append, numberWildcards, if_neg other, ih plain]
      rfl

theorem referenceBefore_head? (index : Nat) (rest : List Char) :
    ∃ more, referenceBefore index rest = '$' :: more := by
  unfold referenceBefore
  split <;> exact ⟨_, rfl⟩

/-- Text without a dollar sign was there before the wildcards were numbered. -/
theorem numberWildcards_eq_append {a : Allocation} {name after : List Char} (plain : '$' ∉ name) :
    ∀ {text : List Char}, numberWildcards a text = name ++ after →
      ∃ rest, text = name ++ rest ∧ numberWildcards a rest = after := by
  induction name with
  | nil => intro text equal; exact ⟨text, rfl, equal⟩
  | cons c name ih =>
      intro text equal
      obtain ⟨other, later⟩ := List.ne_and_not_mem_of_not_mem_cons plain
      cases text with
      | nil => simp [numberWildcards] at equal
      | cons d text =>
          rw [numberWildcards] at equal
          split at equal
          · obtain ⟨more, starts⟩ := referenceBefore_head? a.next text
            rw [starts] at equal
            exact absurd (List.cons.inj equal).1 other
          · obtain ⟨rfl, same⟩ := List.cons.inj equal
            obtain ⟨rest, rfl, numbered⟩ := ih later same
            exact ⟨rest, rfl, numbered⟩

/-- Numbering puts no digit where there was none. -/
theorem numberWildcards_head?_digit (a : Allocation) (text : List Char) :
    (∀ c ∈ (numberWildcards a text).head?, isAsciiDigit c = false) ↔
      ∀ c ∈ text.head?, isAsciiDigit c = false := by
  cases text with
  | nil => simp [numberWildcards]
  | cons c text =>
      rw [numberWildcards]
      split
      · rename_i star
        obtain ⟨more, starts⟩ := referenceBefore_head? a.next text
        have noDigit : isAsciiDigit wildcard = false := by decide
        have sign : isAsciiDigit '$' = false := by decide
        simp [starts, star, noDigit, sign]
      · simp

theorem not_mem_of_all {p : Char → Bool} {c : Char} {text : List Char}
    (all : ∀ d ∈ text, p d = true) (outside : p c = false) : c ∉ text := by
  intro member
  rw [all c member] at outside
  exact Bool.true_eq_false_eq_False outside

/-- A reference contains no wildcard, and is one before any text, unless a digit comes to stand
after it. -/
theorem Reference.eq_append {text rest : List Char} {piece : Piece}
    (refers : Reference text piece rest) :
    ∃ written, text = written ++ rest ∧ '*' ∉ written ∧
      ∀ other : List Char, ((∀ c ∈ rest.head?, isAsciiDigit c = false) →
        ∀ c ∈ other.head?, isAsciiDigit c = false) → Reference (written ++ other) piece other := by
  cases refers with
  | @numeral sigil digits _ opens some few all longest =>
      have digit := not_mem_of_all all (show isAsciiDigit '*' = false by decide)
      refine ⟨sigil :: digits, rfl, ?_, fun other apart => ?_⟩
      · rcases opens with rfl | rfl <;> simpa using digit
      · exact .numeral opens some few all fun short => apart (longest short)
  | @braced name _ some all =>
      have other := not_mem_of_all all (show isNameChar '*' = false by decide)
      refine ⟨'$' :: '\x7b' :: (name ++ ['\x7d']), by simp, by simpa using other, fun after _ => ?_⟩
      simpa using Reference.braced some all

theorem Reference.count_wildcard {text rest : List Char} {piece : Piece}
    (refers : Reference text piece rest) : text.count '*' = rest.count '*' := by
  obtain ⟨written, rfl, plain, _⟩ := refers.eq_append
  rw [List.count_append, List.count_eq_zero.mpr plain, Nat.zero_add]

/-- Numbering leaves references as they are. -/
theorem Reference.numberWildcards {text rest : List Char} {piece : Piece}
    (refers : Reference text piece rest) (a : Allocation) :
    Reference (numberWildcards a text) piece (numberWildcards a rest) := by
  obtain ⟨written, rfl, plain, before⟩ := refers.eq_append
  rw [numberWildcards_append a rest plain]
  exact before _ (numberWildcards_head?_digit a rest).mpr

/-- Numbering makes no reference out of a sign that begins none. -/
theorem Reference.of_numberWildcards {a : Allocation} {c : Char} {rest after : List Char}
    {piece : Piece} (refers : Reference (c :: Template.numberWildcards a rest) piece after) :
    ∃ before, Reference (c :: rest) piece before := by
  generalize numbered : Template.numberWildcards a rest = text at refers
  cases refers with
  | @numeral _ digits _ opens some few all longest =>
      obtain ⟨before, rfl, same⟩ := numberWildcards_eq_append
        (not_mem_of_all all (show isAsciiDigit '$' = false by decide)) numbered
      refine ⟨before, .numeral opens some few all fun short => ?_⟩
      rw [← numberWildcards_head?_digit a before, same]
      exact longest short
  | @braced name _ some all =>
      have plain : '$' ∉ '\x7b' :: (name ++ ['\x7d']) := by
        have other := not_mem_of_all all (show isNameChar '$' = false by decide)
        simpa using other
      have written :
          '\x7b' :: (name ++ '\x7d' :: after) = ('\x7b' :: (name ++ ['\x7d'])) ++ after := by
        simp
      rw [written] at numbered
      obtain ⟨before, rfl, _⟩ := numberWildcards_eq_append plain numbered
      refine ⟨before, ?_⟩
      simpa using Reference.braced some all

/-! ## Numbers in place of wildcards -/

/-- A number is written with digits that spell it. -/
theorem digits_toString (index : Nat) :
    (toString index).toList ≠ [] ∧ (∀ c ∈ (toString index).toList, isAsciiDigit c = true) ∧
      Nat.ofDigitChars 10 (toString index).toList 0 = index := by
  have digits : (toString index).toList = Nat.toDigits 10 index := by simp
  rw [digits]
  refine ⟨Nat.toDigits_ne_nil, fun c member => ?_, Nat.ofDigitChars_ten_toDigits⟩
  exact Nat.isDigit_of_mem_toDigits (by decide) (by decide) member

theorem length_toString_le_two {index : Nat} :
    (toString index).toList.length ≤ 2 ↔ index ≤ 99 := by
  have digits : (toString index).toList = Nat.toDigits 10 index := by simp
  rw [digits, Nat.length_toDigits_le_iff (by decide) (by decide)]
  omega

/-- A number written for a wildcard is a reference to that number, whatever follows. -/
theorem reference_referenceBefore {index : Nat} (small : index ≤ 99) (a : Allocation)
    (rest : List Char) :
    Reference (referenceBefore index rest ++ numberWildcards a rest) (.numbered index)
      (numberWildcards a rest) := by
  obtain ⟨some, all, value⟩ := digits_toString index
  have few := length_toString_le_two.mpr small
  unfold referenceBefore
  split
  · have spelled := ofName_digits some few all
    rw [value] at spelled
    rw [← spelled]
    have refers : Reference _ _ (numberWildcards a rest) := .braced some (all_isNameChar all)
    simpa using refers
  · rename_i apart
    have longest : ∀ c ∈ rest.head?, isAsciiDigit c = false := by
      intro c member
      rw [Option.mem_def.mp member] at apart
      simpa using apart
    have refers : Reference ('$' :: _) _ (numberWildcards a rest) :=
      .numeral (.inl rfl) some few all
        fun _ => (numberWildcards_head?_digit a rest).mpr longest
    rw [value] at refers
    exact refers

/-- With its wildcards numbered, a template reads as the pieces it read as before. -/
theorem TemplateReads.reads_numberWildcards {template : String} {k : Nat} {text : List Char}
    {pieces : List Piece} (reads : TemplateReads (freeNumber template) k text pieces) :
    ∀ {a : Allocation}, a.HasGiven template k →
      (∀ i, k ≤ i → i < k + text.count '*' → freeNumber template i ≤ 99) →
      Reads (numberWildcards a text) pieces := by
  induction reads with
  | nil => intro a given small; exact .nil
  | @wildcard k rest pieces _ ih =>
      intro a given small
      rw [List.count_cons_self] at small
      have here := small k (Nat.le_refl _) (by omega)
      rw [← given.next_eq] at here ⊢
      refine .reference (reference_referenceBefore here a.advance rest) (ih given.advance ?_)
      exact fun i after before => small i (by omega) (by omega)
  | @reference k text rest piece pieces refers _ ih =>
      intro a given small
      refine .reference (refers.numberWildcards a) (ih given fun i after before => ?_)
      have fewer := refers.count_wildcard
      exact small i after (by omega)
  | @char k c rest pieces ordinary plain _ ih =>
      intro a given small
      have other : c ≠ Template.wildcard := ordinary
      rw [List.count_cons_of_ne ordinary] at small
      rw [numberWildcards, if_neg other]
      refine .char (fun piece after refers => ?_) (ih given small)
      obtain ⟨before, old⟩ := refers.of_numberWildcards
      exact plain piece before old

/-! ## Every template reads in one way -/

theorem exists_templateReads (number : Nat → Nat) (text : List Char) :
    ∀ k : Nat, ∃ pieces, TemplateReads number k text pieces := by
  induction length : text.length using Nat.strongRecOn generalizing text with
  | ind n ih =>
      intro k
      by_cases refers : ∃ piece rest, Reference text piece rest
      · obtain ⟨piece, rest, refers⟩ := refers
        obtain ⟨pieces, more⟩ := ih rest.length (length ▸ refers.shorter) rest rfl k
        exact ⟨piece :: pieces, .reference refers more⟩
      · cases text with
        | nil => exact ⟨[], .nil k⟩
        | cons c rest =>
            have shorter : rest.length < n := by simp [← length]
            by_cases star : c = '*'
            · subst star
              obtain ⟨pieces, more⟩ := ih rest.length shorter rest rfl (k + 1)
              exact ⟨_, .wildcard more⟩
            · obtain ⟨pieces, more⟩ := ih rest.length shorter rest rfl k
              refine ⟨.char c :: pieces, .char star (fun piece after here => ?_) more⟩
              exact refers ⟨piece, after, here⟩

/-- The expansion of a template whose wildcards were numbered reads as the template does. -/
theorem expansionPieces_template {template : String} {pieces : List Piece}
    (small : ∀ k, k < template.toList.count '*' → freeNumber template k ≤ 99)
    (reads : TemplateReads (freeNumber template) 0 template.toList pieces) :
    expansionPieces (expansion (replacementSource template false)) = pieces := by
  have numbered := reads.reads_numberWildcards (Allocation.ofTemplate_hasGiven template)
    fun i _ before => small i (by omega)
  rw [numbered.eq_pieces]
  simp [expansionPieces, expansion, replacementSource]

example : expansionPieces (expansion (replacementSource "$*1 $2\\*" false)) =
    [.char '$', .numbered 1, .char '1', .char ' ', .numbered 2, .char '\\', .numbered 3] := by
  decide

end ShortcodeExpansion.Template
