import ShortcodeExpansion.Proofs.Template.TemplateReading

/-!
# What the number written for a wildcard reads as

The text written for a wildcard begins with a dollar sign, and no reference reaches over one.  So
the text reads in three parts: what stands before the wildcard, the number, and what follows.  In
braces the number is read whole.  Bare, no more than two of its digits are, so that a number of
three digits or more refers to another group.
-/

set_option autoImplicit false

namespace ShortcodeExpansion.Template

/-! ## Reading in parts -/

theorem Reads.append_ordinary {text rest : List Char} {pieces : List Piece}
    (ordinary : ∀ c ∈ text, c ≠ '$' ∧ c ≠ '\\') (reads : Reads rest pieces) :
    Reads (text ++ rest) (text.map .char ++ pieces) := by
  induction text with
  | nil => exact reads
  | cons c text ih =>
      obtain ⟨noDollar, noBackslash⟩ := ordinary c List.mem_cons_self
      refine .char (fun piece after refers => ?_) (ih fun d member => ?_)
      · exact refers.begins.elim noDollar noBackslash
      · exact ordinary d (List.mem_cons_of_mem c member)

/-- A name without a dollar sign in front of a text lies before the first dollar sign there. -/
theorem eq_append_of_append_dollar {name after rest later : List Char} (plain : '$' ∉ name)
    (same : name ++ after = rest ++ '$' :: later) :
    ∃ left, rest = name ++ left ∧ after = left ++ '$' :: later := by
  rcases List.append_eq_append_iff.mp same with ⟨left, here, there⟩ | ⟨across, here, there⟩
  · exact ⟨left, here, there⟩
  · cases across with
    | nil => exact ⟨[], by simpa using here.symm, by simpa using there.symm⟩
    | cons c across =>
        obtain ⟨rfl, _⟩ := List.cons.inj there
        simp [here] at plain

/-- No reference reaches over a dollar sign. -/
theorem Reference.of_append_dollar {c : Char} {rest later after : List Char} {piece : Piece}
    (refers : Reference (c :: (rest ++ '$' :: later)) piece after) :
    ∃ before, Reference (c :: rest) piece before := by
  generalize whole : rest ++ '$' :: later = text at refers
  cases refers with
  | @numeral _ digits _ opens some few all longest =>
      obtain ⟨left, rfl, rfl⟩ := eq_append_of_append_dollar
        (not_mem_of_all all (show isAsciiDigit '$' = false by decide)) whole.symm
      refine ⟨left, .numeral opens some few all fun short d first => ?_⟩
      cases left with
      | nil => simp at first
      | cons e left => exact longest short d (by simpa using first)
  | @braced name _ some all =>
      have plain : '$' ∉ '\x7b' :: (name ++ ['\x7d']) := by
        have other := not_mem_of_all all (show isNameChar '$' = false by decide)
        simpa using other
      have written : ('\x7b' :: (name ++ ['\x7d'])) ++ after = rest ++ '$' :: later := by
        simpa using whole.symm
      obtain ⟨left, rfl, -⟩ := eq_append_of_append_dollar plain written
      have refers : Reference _ _ left := .braced some all
      exact ⟨left, by simpa using refers⟩

/-- What stands before a dollar sign reads as it does alone. -/
theorem Reads.append_dollar {text later : List Char} {pieces others : List Piece}
    (reads : Reads text pieces) (more : Reads ('$' :: later) others) :
    Reads (text ++ '$' :: later) (pieces ++ others) := by
  induction reads with
  | nil => exact more
  | @reference text rest piece pieces refers _ ih =>
      obtain ⟨written, rfl, _, before⟩ := refers.eq_append
      rw [List.append_assoc]
      refine .reference (before _ fun apart c first => ?_) ih
      cases rest with
      | nil =>
          -- The reference ends the text, so what follows it is the dollar sign.
          obtain rfl : '$' = c := by simpa using first
          decide
      | cons d rest => exact apart c (by simpa using first)
  | @char c rest pieces plain _ ih =>
      refine .char (fun piece after refers => ?_) ih
      obtain ⟨before, alone⟩ := refers.of_append_dollar
      exact plain piece before alone

/-! ## The number of a wildcard -/

def digitFirst (text : List Char) : Bool := (text.head?.map isAsciiDigit).getD false

theorem digitFirst_eq_false_iff {text : List Char} :
    digitFirst text = false ↔ ∀ c ∈ text.head?, isAsciiDigit c = false := by
  cases text <;> simp [digitFirst]

/-- The pieces that the number written for a wildcard reads as: in braces it is read whole, and
bare no more than two of its digits are. -/
def wildcardPieces (index : Nat) (after : List Char) : List Piece :=
  let digits := (toString index).toList
  if digitFirst after then [.ofName digits]
  else .numbered (Nat.ofDigitChars 10 (digits.take 2) 0) :: (digits.drop 2).map .char

theorem reads_referenceBefore (index : Nat) (after : List Char) {rest : List Char}
    {pieces : List Piece} (apart : digitFirst after = false → digitFirst rest = false)
    (reads : Reads rest pieces) :
    Reads (referenceBefore index after ++ rest) (wildcardPieces index after ++ pieces) := by
  obtain ⟨some, all, -⟩ := digits_toString index
  rw [referenceBefore, wildcardPieces, ← digitFirst]
  generalize (toString index).toList = digits at some all ⊢
  cases digit : digitFirst after with
  | true =>
      simpa using Reads.reference (.braced some (all_isNameChar all)) reads
  | false =>
      have ordinary : ∀ c ∈ digits.drop 2, c ≠ '$' ∧ c ≠ '\\' := by
        intro c member
        have digit := all c (List.mem_of_mem_drop member)
        constructor <;> rintro rfl <;> exact absurd digit (by decide)
      -- A bare number of one digit must not run into a digit that follows.
      have longest : (digits.take 2).length < 2 →
          ∀ c ∈ (digits.drop 2 ++ rest).head?, isAsciiDigit c = false := by
        intro short
        rw [List.length_take] at short
        rw [List.drop_of_length_le (by omega), List.nil_append]
        exact digitFirst_eq_false_iff.mp (apart digit)
      have refers : Reference ('$' :: (digits.take 2 ++ (digits.drop 2 ++ rest))) _ _ :=
        .numeral (.inl rfl) (by simpa using some) (List.length_take_le 2 digits)
          (fun c member => all c (List.mem_of_mem_take member)) longest
      have whole := Reads.reference refers (reads.append_ordinary ordinary)
      rw [← List.append_assoc, List.take_append_drop] at whole
      simpa using whole

/-- A wildcard refers to its own group just if its number has at most two digits or stands in
braces; a number in braces still has to fit in 64 bits. -/
theorem wildcardPieces_eq_iff {index : Nat} {after : List Char} :
    wildcardPieces index after = [.numbered index] ↔
      index ≤ 99 ∨ digitFirst after = true ∧ index < 2 ^ 64 := by
  obtain ⟨some, all, value⟩ := digits_toString index
  have few : _ ↔ index ≤ 99 := length_toString_le_two
  rw [wildcardPieces]
  generalize (toString index).toList = digits at some all value few ⊢
  cases digitFirst after with
  | true =>
      have spelled : Piece.ofName digits = .numbered index ↔ index < 2 ^ 64 := by
        rw [ofName_eq_numbered_iff (all_isNameChar all), readNumeral?_eq_some_iff]
        exact ⟨fun spelled => spelled.2.2.2, fun small => ⟨some, all, value, small⟩⟩
      simp only [if_true, List.cons.injEq, and_true, spelled, true_and]
      omega
  | false =>
      simp only [Bool.false_eq_true, if_false, List.cons.injEq, Piece.numbered.injEq,
        List.map_eq_nil_iff, List.drop_eq_nil_iff, false_and, or_false, ← few]
      constructor
      · exact fun reads => reads.2
      · intro short
        rw [List.take_of_length_le short]
        exact ⟨value, short⟩

/-! ## The text written for a template -/

/-- Numbering works on what stands before a wildcard, on the wildcard, and on what follows. -/
theorem numberWildcards_around (template : String) (before after : List Char) :
    ∀ k : Nat, numberWildcards (.afterGiving template k) (before ++ '*' :: after) =
      numberWildcards (.afterGiving template k) before ++
        (referenceBefore (Allocation.afterGiving template (k + before.count '*')).next after ++
          numberWildcards (.afterGiving template (k + before.count '*' + 1)) after) := by
  induction before with
  | nil =>
      intro k
      simp [numberWildcards, wildcard, Allocation.afterGiving_succ]
  | cons c before ih =>
      intro k
      by_cases star : c = '*'
      · subst star
        have apart : ∀ index, referenceBefore index (before ++ '*' :: after) =
            referenceBefore index before := by
          intro index
          have noDigit : isAsciiDigit '*' = false := by decide
          cases before <;> simp [referenceBefore, noDigit]
        have count : k + ('*' :: before).count '*' = k + 1 + before.count '*' := by
          simp [Nat.add_assoc, Nat.add_comm 1]
        have marker : '*' = wildcard := rfl
        rw [List.cons_append, numberWildcards, if_pos marker, numberWildcards, if_pos marker, apart,
          ← Allocation.afterGiving_succ, ih, count, List.append_assoc]
      · have other : c ≠ wildcard := star
        rw [List.cons_append, numberWildcards, if_neg other, numberWildcards, if_neg other, ih,
          List.count_cons_of_ne star, List.cons_append]

/-- The pieces of a template whose wildcards were numbered are those of what stands before a
wildcard, those of the wildcard, and those of what follows. -/
theorem exists_pieces_around (template : String) {before after : List Char}
    (whole : template.toList = before ++ '*' :: after) :
    let k := before.count '*'
    ∃ left right, Reads (numberWildcards (.ofTemplate template) before) left ∧
      Reads (numberWildcards (.afterGiving template (k + 1)) after) right ∧
      expansionPieces (expansion (replacementSource template false)) =
        left ++ (wildcardPieces (Allocation.afterGiving template k).next after ++ right) := by
  intro k
  have written : numberWildcards (.ofTemplate template) template.toList = _ :=
    whole ▸ numberWildcards_around template before after 0
  rw [Nat.zero_add] at written
  generalize (Allocation.afterGiving template k).next = index at written ⊢
  obtain ⟨left, readsLeft⟩ := exists_reads (numberWildcards (.ofTemplate template) before)
  obtain ⟨right, readsRight⟩ :=
    exists_reads (numberWildcards (.afterGiving template (k + 1)) after)
  have apart : digitFirst after = false →
      digitFirst (numberWildcards (.afterGiving template (k + 1)) after) = false := by
    rw [digitFirst_eq_false_iff, digitFirst_eq_false_iff]
    exact (numberWildcards_head?_digit _ after).mpr
  have onward := reads_referenceBefore index after apart readsRight
  have reads : Reads (numberWildcards (.ofTemplate template) template.toList)
      (left ++ (wildcardPieces index after ++ right)) := by
    obtain ⟨more, starts⟩ := referenceBefore_head? index after
    rw [starts, List.cons_append] at onward written
    rw [written]
    exact readsLeft.append_dollar onward
  refine ⟨left, right, readsLeft, readsRight, ?_⟩
  rw [reads.eq_pieces]
  simp [expansionPieces, expansion, replacementSource]

/-- In the expansion of a template whose wildcards were numbered, each wildcard has pieces of its
own, between those of what stands before it and those of what follows.  They are a reference to the
number that the wildcard got, which is the next free one, just if that number has at most two
digits or a digit follows the wildcard. -/
theorem wildcard_refers_iff (before after : List Char) :
    let template := String.ofList (before ++ '*' :: after)
    let k := before.count '*'
    let index := (Allocation.afterGiving template k).next
    ∃ left own right,
      expansionPieces (expansion (replacementSource template false)) = left ++ (own ++ right) ∧
        Reads (numberWildcards (.ofTemplate template) before) left ∧
        Reads (referenceBefore index after) own ∧
        Reads (numberWildcards (.afterGiving template (k + 1)) after) right ∧
        index = freeNumber template k ∧
        (own = [.numbered index] ↔ index ≤ 99 ∨ digitFirst after = true ∧ index < 2 ^ 64) := by
  intro template k index
  obtain ⟨left, right, readsLeft, readsRight, around⟩ :=
    exists_pieces_around template String.toList_ofList
  have own : Reads (referenceBefore index after) (wildcardPieces index after) := by
    simpa using reads_referenceBefore index after (fun _ => rfl) .nil
  exact ⟨left, wildcardPieces index after, right, around, readsLeft, own, readsRight,
    (Allocation.afterGiving_hasGiven template k).next_eq, wildcardPieces_eq_iff⟩

def hundredWildcards : String := String.ofList (List.replicate 99 '*' ++ ['*'])

/-- The hundredth of a hundred wildcards gets the number 100, and refers to group 10. -/
theorem hundredth_wildcard_misses :
    (Allocation.afterGiving hundredWildcards 99).next = 100 ∧
      ∃ left, Reads (numberWildcards (.ofTemplate hundredWildcards) (List.replicate 99 '*')) left ∧
        expansionPieces (expansion (replacementSource hundredWildcards false)) =
          left ++ [.numbered 10, .char '0'] := by
  have none : explicitReferences hundredWildcards = [] := by decide
  have number : (Allocation.afterGiving hundredWildcards 99).next = 100 := by
    rw [(Allocation.afterGiving_hasGiven hundredWildcards 99).next_eq,
      freeNumber_of_no_references none]
  obtain ⟨left, right, readsLeft, readsRight, around⟩ :=
    exists_pieces_around hundredWildcards String.toList_ofList
  have count : (List.replicate 99 '*').count '*' = 99 := List.count_replicate_self
  have digits : wildcardPieces 100 [] = [.numbered 10, .char '0'] := by decide
  have last : right = [] := readsRight.eq_pieces
  rw [count, number, digits, last] at around
  exact ⟨number, left, readsLeft, around⟩

end ShortcodeExpansion.Template
