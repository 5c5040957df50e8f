import Mathlib.Algebra.Group.Nat.Defs
import ShortcodeExpansion.Template.Expansion

/-!
# How a replacement reads

A replacement is read from left to right in one pass: where a reference begins it is taken whole,
and every other character stands for itself.  The expansion of a replacement, which is written in
the language that matches are filled into, reads as the same pieces.
-/

set_option autoImplicit false

namespace ShortcodeExpansion.Template

/-- A text begins with a reference: the text, what the reference stands for, and the text after
it. -/
inductive Reference : List Char → Piece → List Char → Prop where
  /-- One or two digits, and not one if a second follows. -/
  | numeral {sigil : Char} {digits rest : List Char} (opens : sigil = '$' ∨ sigil = '\\')
      (some : digits ≠ []) (few : digits.length ≤ 2) (all : ∀ c ∈ digits, isAsciiDigit c = true)
      (longest : digits.length < 2 → ∀ c ∈ rest.head?, isAsciiDigit c = false) :
      Reference (sigil :: (digits ++ rest)) (.numbered (Nat.ofDigitChars 10 digits 0)) rest
  | braced {name rest : List Char} (some : name ≠ []) (all : ∀ c ∈ name, isNameChar c = true) :
      Reference ('$' :: '\x7b' :: (name ++ '\x7d' :: rest)) (.ofName name) rest

/-- How a replacement reads as pieces. -/
inductive Reads : List Char → List Piece → Prop where
  | nil : Reads [] []
  | reference {text rest : List Char} {piece : Piece} {pieces : List Piece}
      (refers : Reference text piece rest) (more : Reads rest pieces) : Reads text (piece :: pieces)
  | char {c : Char} {rest : List Char} {pieces : List Piece}
      (plain : ∀ piece after, ¬ Reference (c :: rest) piece after) (more : Reads rest pieces) :
      Reads (c :: rest) (.char c :: pieces)

/-! ## Skipped characters -/

theorem expansionFrom_skip (text : List Char) :
    ∀ skip : Nat, expansionFrom skip text = expansionFrom 0 (text.drop skip) := by
  induction text with
  | nil => intro skip; cases skip <;> rfl
  | cons c text ih =>
      intro skip
      cases skip with
      | zero => rfl
      | succ skip => exact ih skip

theorem piecesFrom_skip (text : List Char) :
    ∀ skip : Nat, piecesFrom skip text = piecesFrom 0 (text.drop skip) := by
  induction text with
  | nil => intro skip; cases skip <;> rfl
  | cons c text ih =>
      intro skip
      cases skip with
      | zero => rfl
      | succ skip => exact ih skip

/-! ## Names and digits -/

theorem ne_brace_of_isNameChar {c : Char} (name : isNameChar c = true) : c ≠ '\x7d' := by
  rintro rfl
  exact absurd name (by decide)

/-- A name in braces ends at the brace. -/
theorem takeWhile_name {name : List Char} (all : ∀ c ∈ name, isNameChar c = true)
    (rest : List Char) : (name ++ '\x7d' :: rest).takeWhile (· ≠ '\x7d') = name := by
  have inside : ∀ c ∈ name, decide (c ≠ '\x7d') = true := by
    intro c member
    simpa using ne_brace_of_isNameChar (all c member)
  rw [List.takeWhile_append_of_pos inside]
  simp

theorem isNameChar_of_isAsciiDigit {c : Char} (digit : isAsciiDigit c = true) :
    isNameChar c = true := by
  simp only [isAsciiDigit, Bool.and_eq_true, decide_eq_true_eq] at digit
  simp only [isNameChar, Char.isAlphanum, Char.isDigit, Bool.or_eq_true, Bool.and_eq_true,
    decide_eq_true_eq]
  exact .inl (.inr digit)

/-- A numeral is a name. -/
theorem all_isNameChar {digits : List Char} (all : ∀ c ∈ digits, isAsciiDigit c = true) :
    ∀ c ∈ digits, isNameChar c = true :=
  fun c member => isNameChar_of_isAsciiDigit (all c member)

section LeadingRun

variable {p : Char → Bool}

/-- Characters of a kind, of which there are at most two and no more than those follow, are the
leading ones of the kind. -/
theorem leadingRun_append {run rest : List Char} (few : run.length ≤ 2)
    (all : ∀ c ∈ run, p c = true) (longest : run.length < 2 → ∀ c ∈ rest.head?, p c = false) :
    ((run ++ rest).take 2).takeWhile p = run := by
  rw [List.take_append, List.take_of_length_le few, List.takeWhile_append_of_pos all]
  by_cases full : run.length = 2
  · simp [full]
  · have stop := longest (by omega)
    cases rest with
    | nil => simp
    | cons c rest =>
        obtain ⟨more, reach⟩ : ∃ n, 2 - run.length = n + 1 := ⟨1 - run.length, by omega⟩
        simp [reach, stop c rfl]

theorem leadingRun_length (text : List Char) : ((text.take 2).takeWhile p).length ≤ 2 :=
  Nat.le_trans (List.takeWhile_prefix p).length_le (List.length_take_le 2 text)

theorem leadingRun_isPrefix (text : List Char) : (text.take 2).takeWhile p <+: text :=
  (List.takeWhile_prefix p).trans (List.take_prefix 2 text)

theorem leadingRun_longest {text : List Char} (short : ((text.take 2).takeWhile p).length < 2) :
    ∀ c ∈ (text.drop ((text.take 2).takeWhile p).length).head?, p c = false := by
  match text with
  | [] => simp
  | [c] => cases digit : p c <;> simp [digit]
  | c :: d :: rest =>
      cases digit : p c with
      | false => simp [digit]
      | true =>
          cases second : p d with
          | false => simp [digit, second]
          | true => simp [digit, second] at short

end LeadingRun

theorem asciiDigit_le {c : Char} (digit : isAsciiDigit c = true) : c.toNat - '0'.toNat ≤ 9 := by
  simp only [isAsciiDigit, Bool.and_eq_true, decide_eq_true_eq] at digit
  have high : c.toNat ≤ '9'.toNat := digit.2
  simp only [Char.reduceToNat] at high ⊢
  omega

theorem ofDigitChars_lt {digits : List Char} (all : ∀ c ∈ digits, isAsciiDigit c = true) :
    ∀ value : Nat, Nat.ofDigitChars 10 digits value < (value + 1) * 10 ^ digits.length := by
  induction digits with
  | nil => intro value; simp
  | cons c digits ih =>
      intro value
      have digit := asciiDigit_le (all c List.mem_cons_self)
      have later := ih (fun d member => all d (List.mem_cons_of_mem c member))
        (10 * value + (c.toNat - '0'.toNat))
      rw [Nat.ofDigitChars_cons, List.length_cons, Nat.pow_succ']
      generalize c.toNat - '0'.toNat = d at digit later ⊢
      calc Nat.ofDigitChars 10 digits (10 * value + d)
          < (10 * value + d + 1) * 10 ^ digits.length := later
        _ ≤ ((value + 1) * 10) * 10 ^ digits.length := Nat.mul_le_mul_right _ (by omega)
        _ = (value + 1) * (10 * 10 ^ digits.length) := Nat.mul_assoc _ _ _

/-- A numeral is one or more digits, with a value that fits in 64 bits. -/
theorem readNumeral?_eq_some_iff {digits : List Char} {index : Nat} :
    readNumeral? digits = some index ↔ digits ≠ [] ∧ (∀ c ∈ digits, isAsciiDigit c = true) ∧
      Nat.ofDigitChars 10 digits 0 = index ∧ index < 2 ^ 64 := by
  unfold readNumeral?
  by_cases numeral : (digits.isEmpty || !digits.all isAsciiDigit) = true
  · have other : ¬ (digits ≠ [] ∧ ∀ c ∈ digits, isAsciiDigit c = true) := by
      rintro ⟨some, all⟩
      simp [some, List.all_eq_true.mpr all] at numeral
    simp only [if_pos numeral]
    constructor
    · intro none
      exact absurd none (by simp)
    · rintro ⟨some, all, -⟩
      exact absurd ⟨some, all⟩ other
  · simp only [if_neg numeral, Option.ite_none_right_eq_some, Option.some.injEq]
    simp only [Bool.not_eq_true, Bool.or_eq_false_iff, List.isEmpty_eq_false_iff,
      Bool.not_eq_false', List.all_eq_true] at numeral
    constructor
    · rintro ⟨small, rfl⟩
      exact ⟨numeral.1, numeral.2, rfl, small⟩
    · rintro ⟨-, -, rfl, small⟩
      exact ⟨small, rfl⟩

/-- No sign stands in front of a name that a replacement may refer to. -/
theorem groupNumber?_name {name : List Char} (all : ∀ c ∈ name, isNameChar c = true) :
    groupNumber? name = readNumeral? name := by
  unfold groupNumber?
  split
  · exact absurd (all '+' List.mem_cons_self) (by decide)
  · rfl

theorem ofName_eq_numbered_iff {name : List Char} (all : ∀ c ∈ name, isNameChar c = true)
    {index : Nat} : Piece.ofName name = .numbered index ↔ readNumeral? name = some index := by
  rw [Piece.ofName, groupNumber?_name all]
  cases readNumeral? name <;> simp

/-- Digits that are few spell a group number. -/
theorem ofName_digits {digits : List Char} (some : digits ≠ []) (few : digits.length ≤ 2)
    (all : ∀ c ∈ digits, isAsciiDigit c = true) :
    Piece.ofName digits = .numbered (Nat.ofDigitChars 10 digits 0) := by
  have bound := ofDigitChars_lt all 0
  have power : 10 ^ digits.length ≤ 10 ^ 2 := Nat.pow_le_pow_right (by decide) few
  rw [ofName_eq_numbered_iff (all_isNameChar all), readNumeral?_eq_some_iff]
  exact ⟨some, all, rfl, by omega⟩

/-! ## The expansion is read back -/

/-- A reference is written out in braces. -/
theorem Reference.expansion {text rest : List Char} {piece : Piece}
    (refers : Reference text piece rest) :
    ∃ name, (∀ c ∈ name, isNameChar c = true) ∧ Piece.ofName name = piece ∧
      expansionFrom 0 text = bracedReference name ++ expansionFrom 0 rest := by
  cases refers with
  | @numeral sigil digits _ opens some few all longest =>
      refine ⟨digits, all_isNameChar all, ofName_digits some few all, ?_⟩
      have leading : leadingAsciiDigits (digits ++ rest) = digits :=
        leadingRun_append few all longest
      have sign : (decide (sigil = '$') || decide (sigil = '\\')) = true := by simpa using opens
      simp only [expansionFrom, sign, if_true, leading]
      simp [some, expansionFrom_skip (digits ++ rest)]
  | @braced name _ some all =>
      refine ⟨name, all, rfl, ?_⟩
      have named : bracedName? ('\x7b' :: (name ++ '\x7d' :: rest)) = .some name := by
        have every : name.all isNameChar = true := List.all_eq_true.mpr all
        simp only [bracedName?, takeWhile_name all, every]
        simp [some]
      have digits : leadingAsciiDigits ('\x7b' :: (name ++ '\x7d' :: rest)) = [] := by
        simp [leadingAsciiDigits, isAsciiDigit]
      simp only [expansionFrom, digits, named]
      simp [expansionFrom_skip, List.drop_append]

/-- The leading digits of a text, if there are any, make a reference after a sign. -/
theorem reference_of_leadingAsciiDigits {sigil : Char} {rest : List Char}
    (opens : sigil = '$' ∨ sigil = '\\') (some : leadingAsciiDigits rest ≠ []) :
    ∃ piece after, Reference (sigil :: rest) piece after := by
  have all : ∀ c ∈ leadingAsciiDigits rest, isAsciiDigit c = true :=
    List.all_eq_true.mp List.all_takeWhile
  have refers := Reference.numeral opens some (leadingRun_length rest) all leadingRun_longest
  rw [← List.prefix_iff_eq_append.mp (leadingRun_isPrefix rest)]
  exact ⟨_, _, refers⟩

/-- A name in braces makes a reference after a dollar sign. -/
theorem reference_of_bracedName? {name rest : List Char} (named : bracedName? rest = some name) :
    ∃ piece after, Reference ('$' :: rest) piece after := by
  unfold bracedName? at named
  split at named
  · rename_i inner
    simp only [Option.ite_none_right_eq_some, Option.some.injEq, Bool.and_eq_true,
      decide_eq_true_eq, Bool.not_eq_true', List.isEmpty_eq_false_iff] at named
    obtain ⟨⟨⟨closed, some⟩, all⟩, rfl⟩ := named
    obtain ⟨after, split⟩ : ∃ after, inner = inner.takeWhile (· ≠ '\x7d') ++ '\x7d' :: after := by
      have ends := List.takeWhile_append_dropWhile (p := fun c => decide (c ≠ '\x7d')) (l := inner)
      cases left : inner.dropWhile (· ≠ '\x7d') with
      | nil =>
          rw [left, List.append_nil] at ends
          rw [ends] at closed
          exact absurd closed (Nat.lt_irrefl _)
      | cons c after =>
          have brace := List.head?_dropWhile_not (fun c => decide (c ≠ '\x7d')) inner
          rw [left] at brace
          have same : c = '\x7d' := by simpa using brace
          subst same
          refine ⟨after, ?_⟩
          rw [← left]
          exact ends.symm
    rw [split]
    exact ⟨_, _, .braced some (List.all_eq_true.mp all)⟩
  · simp at named

/-- Where no reference begins, a dollar sign is doubled and any other character is copied. -/
theorem expansionFrom_plain {c : Char} {rest : List Char}
    (plain : ∀ piece after, ¬ Reference (c :: rest) piece after) :
    expansionFrom 0 (c :: rest) =
      (if c = '$' then ['$', '$'] else [c]) ++ expansionFrom 0 rest := by
  by_cases opens : c = '$' ∨ c = '\\'
  · have digits : leadingAsciiDigits rest = [] := by
      refine Classical.byContradiction fun some => ?_
      obtain ⟨piece, after, refers⟩ := reference_of_leadingAsciiDigits opens some
      exact plain piece after refers
    rcases opens with rfl | rfl
    · have name : bracedName? rest = none := by
        refine Classical.byContradiction fun some => ?_
        obtain ⟨name, named⟩ := Option.ne_none_iff_exists'.mp some
        obtain ⟨piece, after, refers⟩ := reference_of_bracedName? named
        exact plain piece after refers
      simp [expansionFrom, digits, name]
    · simp [expansionFrom, digits]
  · obtain ⟨noDollar, noBackslash⟩ := not_or.mp opens
    simp [expansionFrom, noDollar, noBackslash]

theorem piecesFrom_bracedReference {name : List Char} (all : ∀ c ∈ name, isNameChar c = true)
    (rest : List Char) :
    piecesFrom 0 (bracedReference name ++ rest) = .ofName name :: piecesFrom 0 rest := by
  have written : bracedReference name ++ rest = '$' :: '\x7b' :: (name ++ '\x7d' :: rest) := by
    simp [bracedReference]
  have captured : capture? ('\x7b' :: (name ++ '\x7d' :: rest)) =
      some (.ofName name, name.length + 2) := by
    simp only [capture?, takeWhile_name all]
    simp
  rw [written]
  simp only [piecesFrom, captured]
  simp [piecesFrom_skip, List.drop_append]

/-- The expansion of a replacement reads as the replacement does. -/
theorem Reads.eq_pieces {text : List Char} {pieces : List Piece} (reads : Reads text pieces) :
    pieces = piecesFrom 0 (expansionFrom 0 text) := by
  induction reads with
  | nil => rfl
  | reference refers _ ih =>
      obtain ⟨name, all, rfl, written⟩ := refers.expansion
      rw [written, piecesFrom_bracedReference all, ih]
  | @char c rest pieces plain _ ih =>
      rw [expansionFrom_plain plain, ih]
      by_cases dollar : c = '$'
      · subst dollar
        rfl
      · simp [piecesFrom, dollar]

/-! ## Every replacement reads in one way -/

theorem Reference.begins {c : Char} {rest after : List Char} {piece : Piece}
    (refers : Reference (c :: rest) piece after) : c = '$' ∨ c = '\\' := by
  cases refers with
  | numeral opens => exact opens
  | braced => exact .inl rfl

theorem Reference.shorter {text rest : List Char} {piece : Piece}
    (refers : Reference text piece rest) : rest.length < text.length := by
  cases refers with
  | numeral =>
      simp only [List.length_cons, List.length_append]
      omega
  | braced =>
      simp only [List.length_cons, List.length_append]
      omega

theorem exists_reads (text : List Char) : ∃ pieces, Reads text pieces := by
  induction length : text.length using Nat.strongRecOn generalizing text with
  | ind n ih =>
      by_cases refers : ∃ piece rest, Reference text piece rest
      · obtain ⟨piece, rest, refers⟩ := refers
        obtain ⟨pieces, more⟩ := ih rest.length (length ▸ refers.shorter) rest rfl
        exact ⟨piece :: pieces, .reference refers more⟩
      · cases text with
        | nil => exact ⟨[], .nil⟩
        | cons c rest =>
            obtain ⟨pieces, more⟩ := ih rest.length (by simp [← length]) rest rfl
            refine ⟨.char c :: pieces, .char (fun piece after here => ?_) more⟩
            exact refers ⟨piece, after, here⟩

/-- A replacement reads in one way, and filling its expansion from the groups of a match gives what
that reading gives. -/
theorem expansion_fills_as_read (replacement : String) :
    ∃ pieces, (∀ others, Reads replacement.toList others ↔ others = pieces) ∧
      ∀ groups : GroupTexts,
        fillPieces groups (expansionPieces (expansion replacement)) = fillPieces groups pieces := by
  obtain ⟨pieces, reads⟩ := exists_reads replacement.toList
  have same : expansionPieces (expansion replacement) = pieces := by
    rw [reads.eq_pieces, expansionPieces, expansion, String.toList_ofList]
  refine ⟨pieces, fun others => ⟨fun other => ?_, ?_⟩, fun groups => by rw [same]⟩
  · rw [other.eq_pieces, reads.eq_pieces]
  · rintro rfl
    exact reads

end ShortcodeExpansion.Template
