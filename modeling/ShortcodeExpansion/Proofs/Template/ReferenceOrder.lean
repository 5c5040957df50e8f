import ShortcodeExpansion.Proofs.Template.ReferencePlaces

/-!
# References in their order

The references of a replacement in the order in which they are read, each with the text that it is
written as.  The search for explicit references finds those of them that are a dollar sign with one
or two digits, in braces or not, in the same order and as often.  It misses one of these only where
a digit of another script comes after a single digit: it takes both for the digits of the reference,
and they form no numeral.
-/

set_option autoImplicit false

namespace ShortcodeExpansion.Template

/-- A reference in a text, with what comes after it. -/
structure Mention where
  written : List Char
  after : List Char
  piece : Piece
deriving DecidableEq, Repr

/-- The references that a text is read with, in order. -/
inductive Mentions : List Char → List Mention → Prop where
  | nil : Mentions [] []
  | reference {written after : List Char} {piece : Piece} {found : List Mention}
      (refers : Reference (written ++ after) piece after) (more : Mentions after found) :
      Mentions (written ++ after) (⟨written, after, piece⟩ :: found)
  | char {c : Char} {rest : List Char} {found : List Mention}
      (plain : ∀ piece after, ¬ Reference (c :: rest) piece after) (more : Mentions rest found) :
      Mentions (c :: rest) found

def Piece.isReference : Piece → Bool
  | .char _ => false
  | .numbered _ | .named _ => true

namespace Mention

/-- Whether a reference is a dollar sign with one or two digits, in braces or not. -/
def isShort (m : Mention) : Bool :=
  let digits := m.written.filter isAsciiDigit
  digits.length ≤ 2 && (m.written = '$' :: digits || m.written = bracedReference digits)

/-- The group that a short reference is to. -/
def shortNumber? (m : Mention) : Option Nat :=
  match m.piece with
  | .numbered index => if m.isShort then some index else none
  | _ => none

/-- Whether a decimal digit comes after a short reference that is one digit without braces. -/
def isCutShort (m : Mention) : Bool :=
  m.shortNumber?.isSome && m.written.length = 2 && m.after.head?.any isDecimalDigit

end Mention

/-! ## A text has one row of references -/

/-- What comes after the reference that a text begins with. -/
def afterReference (text : List Char) : List Char :=
  match leadingAsciiDigits text.tail with
  | [] => ((text.drop 2).dropWhile (· ≠ '\x7d')).tail
  | digits => text.tail.drop digits.length

theorem Reference.after_eq {text rest : List Char} {piece : Piece}
    (refers : Reference text piece rest) : rest = afterReference text := by
  cases refers with
  | @numeral sigil digits _ _ some few all longest =>
      have leading : leadingAsciiDigits (digits ++ rest) = digits :=
        leadingRun_append few all longest
      rw [afterReference, List.tail_cons, leading]
      cases digits with
      | nil => exact absurd rfl some
      | cons digit digits => simp
  | @braced name _ _ all =>
      have noDigit : leadingAsciiDigits ('\x7b' :: (name ++ '\x7d' :: rest)) = [] := by
        simp [leadingAsciiDigits, isAsciiDigit]
      have inside : ∀ c ∈ name, decide (c ≠ '\x7d') = true := by
        simpa using fun c member => ne_brace_of_isNameChar (all c member)
      have ends : (name ++ '\x7d' :: rest).dropWhile (· ≠ '\x7d') = '\x7d' :: rest := by
        rw [List.dropWhile_append_of_pos inside]
        simp
      rw [afterReference, List.tail_cons, noDigit, List.drop_succ_cons, List.drop_succ_cons,
        List.drop_zero, ends, List.tail_cons]

theorem exists_mentions (text : List Char) : ∃ found, Mentions text found := by
  induction length : text.length using Nat.strongRecOn generalizing text with
  | ind n ih =>
      by_cases refers : ∃ piece rest, Reference text piece rest
      · obtain ⟨piece, rest, refers⟩ := refers
        obtain ⟨found, more⟩ := ih rest.length (length ▸ refers.shorter) rest rfl
        obtain ⟨written, rfl, -⟩ := refers.eq_append
        exact ⟨_, .reference refers more⟩
      · cases text with
        | nil => exact ⟨[], .nil⟩
        | cons c rest =>
            obtain ⟨found, more⟩ := ih rest.length (by simp [← length]) rest rfl
            exact ⟨found, .char (fun piece after here => refers ⟨piece, after, here⟩) more⟩

theorem Mentions.eq {text : List Char} {found others : List Mention}
    (mentions : Mentions text found) (again : Mentions text others) : others = found := by
  induction mentions generalizing others with
  | nil =>
      generalize empty : ([] : List Char) = text at again
      cases again with
      | nil => rfl
      | reference refers =>
          rw [← empty] at refers
          cases refers
      | char => simp at empty
  | @reference written after piece found refers more ih =>
      generalize whole : written ++ after = text at again
      cases again with
      | nil =>
          rw [whole] at refers
          cases refers
      | @reference writtenToo afterToo pieceToo others refersToo moreToo =>
          rw [whole] at refers
          obtain rfl : after = afterToo := refers.after_eq.trans refersToo.after_eq.symm
          rw [List.append_cancel_right whole, ih moreToo, refers.piece_eq refersToo]
      | char plain =>
          rw [whole] at refers
          exact absurd refers (plain _ _)
  | @char c rest found plain more ih =>
      generalize whole : c :: rest = text at again
      cases again with
      | nil => simp at whole
      | reference refers =>
          rw [← whole] at refers
          exact absurd refers (plain _ _)
      | char _ moreToo =>
          obtain ⟨-, rfl⟩ := List.cons.inj whole
          exact ih moreToo

theorem Reference.isReference {text rest : List Char} {piece : Piece}
    (refers : Reference text piece rest) : piece.isReference = true := by
  cases refers with
  | numeral => rfl
  | braced =>
      rw [Piece.ofName]
      split <;> rfl

/-- The references of a text are those among the pieces that it reads as. -/
theorem Mentions.exists_reads {text : List Char} {found : List Mention}
    (mentions : Mentions text found) :
    ∃ pieces, Reads text pieces ∧ found.map Mention.piece = pieces.filter Piece.isReference := by
  induction mentions with
  | nil => exact ⟨[], .nil, rfl⟩
  | @reference written after piece found refers _ ih =>
      obtain ⟨pieces, reads, same⟩ := ih
      exact ⟨piece :: pieces, .reference refers reads, by simp [refers.isReference, same]⟩
  | @char c rest found plain _ ih =>
      obtain ⟨pieces, reads, same⟩ := ih
      exact ⟨.char c :: pieces, .char plain reads, by simp [Piece.isReference, same]⟩

theorem Mentions.pieces_eq {text : String} {found : List Mention}
    (mentions : Mentions text.toList found) : found.map Mention.piece =
      (expansionPieces (expansion text)).filter Piece.isReference := by
  obtain ⟨pieces, reads, same⟩ := mentions.exists_reads
  rw [same, reads.eq_pieces, expansionPieces, expansion, String.toList_ofList]

/-! ## The search for explicit references -/

section Number

variable {text digits place rest : List Char} {length index : Nat} {piece : Piece}

theorem ExplicitForm.explicitNumber? (form : ExplicitForm text digits length)
    (number : readNumeral? digits = some index) :
    explicitNumber? ('$' :: text) = some index :=
  explicitNumber?_eq_some_iff.mpr ⟨text, digits, length, rfl, form, number⟩

theorem Overlooked.explicitNumber? (overlooked : Overlooked place) :
    explicitNumber? place = none := by
  refine Option.eq_none_iff_forall_not_mem.mpr fun index found => ?_
  obtain ⟨text, digits, length, rfl, form, number⟩ := explicitNumber?_eq_some_iff.mp found
  exact form.not_overlooked number overlooked

theorem reference_of_explicitNumber? (found : explicitNumber? place = some index) :
    ∃ rest, Reference place (.numbered index) rest := by
  obtain ⟨text, digits, length, rfl, form, number⟩ := explicitNumber?_eq_some_iff.mp found
  exact form.reference number

end Number

namespace Mention

section Short

variable {digits after : List Char} {piece : Piece}

theorem isShort_of_dollar (few : digits.length ≤ 2) (all : ∀ c ∈ digits, isAsciiDigit c = true) :
    isShort ⟨'$' :: digits, after, piece⟩ = true := by
  have sign : isAsciiDigit '$' = false := by decide
  have own : ('$' :: digits).filter isAsciiDigit = digits := by
    rw [List.filter_cons_of_neg (by simp [sign]), List.filter_eq_self.mpr all]
  simp [isShort, own, few]

theorem isShort_of_braces (all : ∀ c ∈ digits, isAsciiDigit c = true) :
    isShort ⟨bracedReference digits, after, piece⟩ = decide (digits.length ≤ 2) := by
  have own : (bracedReference digits).filter isAsciiDigit = digits := by
    have sign : isAsciiDigit '$' = false := by decide
    have opening : isAsciiDigit '\x7b' = false := by decide
    have closing : isAsciiDigit '\x7d' = false := by decide
    simp [bracedReference, sign, opening, closing, List.filter_eq_self.mpr all]
  simp [isShort, own]

end Short

theorem shortNumber?_of_not_short {m : Mention} (long : m.isShort = false) :
    m.shortNumber? = none := by
  unfold shortNumber?
  split
  · simp [long]
  · rfl

theorem shortNumber?_of_short {m : Mention} {index : Nat} (short : m.isShort = true)
    (numbered : m.piece = .numbered index) : m.shortNumber? = some index := by
  simp [shortNumber?, short, numbered]

/-- What the search makes of a reference. -/
def found? (m : Mention) : Option Nat := if m.isCutShort then none else m.shortNumber?

theorem found?_of_not_short {m : Mention} (long : m.isShort = false) : m.found? = none := by
  simp [found?, shortNumber?_of_not_short long]

end Mention

section Forms

variable {digits after : List Char} {index : Nat}

/-- After a bare reference the search takes a second digit of any script. -/
theorem explicitNumber?_dollar (few : digits.length ≤ 2)
    (longest : digits.length < 2 → ∀ c ∈ after.head?, isAsciiDigit c = false)
    (number : readNumeral? digits = some index) :
    explicitNumber? ('$' :: (digits ++ after)) =
      Mention.found? ⟨'$' :: digits, after, .numbered index⟩ := by
  obtain ⟨some, all, -⟩ := readNumeral?_eq_some_iff.mp number
  let m : Mention := ⟨'$' :: digits, after, .numbered index⟩
  have own : m.shortNumber? = .some index :=
    Mention.shortNumber?_of_short (Mention.isShort_of_dollar few all) rfl
  change _ = m.found?
  cases cut : m.isCutShort with
  | true =>
      rw [Mention.found?, if_pos cut]
      simp only [Mention.isCutShort, own, Option.isSome_some, Bool.true_and, Bool.and_eq_true,
        decide_eq_true_eq, Option.any_eq_true] at cut
      obtain ⟨one, other, first, decimal⟩ := cut
      have one : digits.length = 1 := Nat.succ.inj one
      have foreign := longest (by omega) other first
      obtain ⟨digit, rfl⟩ := List.length_eq_one_iff.mp one
      obtain ⟨rest, rfl⟩ := List.head?_eq_some_iff.mp first
      have overlooked : Overlooked ('$' :: digit :: other :: rest) :=
        .foreign rest (all digit List.mem_cons_self) decimal foreign
      exact overlooked.explicitNumber?
  | false =>
      have apart : digits.length < 2 → ∀ c ∈ after.head?, isDecimalDigit c = false := by
        intro fewer c first
        have one : m.written.length = 2 := by
          have length := List.length_pos_iff.mpr some
          simp only [m, List.length_cons]
          omega
        rw [← Bool.not_eq_true]
        intro decimal
        simp [Mention.isCutShort, own, one, m, Option.mem_def.mp first, decimal] at cut
      rw [Mention.found?, cut, own]
      exact (ExplicitForm.bare some few (all_isDecimalDigit all) apart).explicitNumber? number

theorem explicitNumber?_braces (number : readNumeral? digits = some index) :
    explicitNumber? (bracedReference digits ++ after) =
      Mention.found? ⟨bracedReference digits, after, .numbered index⟩ := by
  obtain ⟨some, all, -⟩ := readNumeral?_eq_some_iff.mp number
  let m : Mention := ⟨bracedReference digits, after, .numbered index⟩
  have short : m.isShort = decide (digits.length ≤ 2) := Mention.isShort_of_braces all
  have written : bracedReference digits ++ after =
      '$' :: '\x7b' :: (digits ++ '\x7d' :: after) := by simp [bracedReference]
  change _ = m.found?
  rw [written]
  by_cases few : digits.length ≤ 2
  · have whole : m.isCutShort = false := by
      simp [Mention.isCutShort, m, bracedReference]
    rw [Mention.found?, whole, Mention.shortNumber?_of_short (by simp [short, few]) rfl]
    exact (ExplicitForm.braced some few (all_isDecimalDigit all)).explicitNumber? number
  · rw [Mention.found?_of_not_short (by simpa [short] using few)]
    exact (Overlooked.long after (by omega) all).explicitNumber?

end Forms

/-- The search sees a short reference unless it is cut short, and no other. -/
theorem Reference.explicitNumber?_eq {written after : List Char} {piece : Piece}
    (refers : Reference (written ++ after) piece after) :
    explicitNumber? (written ++ after) = Mention.found? ⟨written, after, piece⟩ := by
  have whole := refers
  generalize same : written ++ after = text at whole
  cases whole with
  | @numeral sigil digits _ opens some few all longest =>
      obtain rfl : written = sigil :: digits := List.append_cancel_right same
      have number := (ofName_eq_numbered_iff (all_isNameChar all)).mp (ofName_digits some few all)
      rcases opens with rfl | rfl
      · exact explicitNumber?_dollar few longest number
      · rw [Mention.found?_of_not_short (by simp [Mention.isShort, bracedReference])]
        exact explicitNumber?_of_ne (by decide) _
  | @braced name _ some all =>
      obtain rfl : written = bracedReference name :=
        List.append_cancel_right (same.trans (by simp [bracedReference]))
      cases number : readNumeral? name with
      | some index =>
          rw [(ofName_eq_numbered_iff all).mpr number, ← same]
          exact explicitNumber?_braces number
      | none =>
          have named : Piece.ofName name = .named (String.ofList name) := by
            rw [Piece.ofName, groupNumber?_name all, number]
          have none : explicitNumber? (bracedReference name ++ after) = none := by
            refine Option.eq_none_iff_forall_not_mem.mpr fun index found => ?_
            obtain ⟨rest, other⟩ := reference_of_explicitNumber? found
            have numbered := refers.piece_eq other
            rw [named] at numbered
            cases numbered
          rw [← same, none, named]
          simp [Mention.found?, Mention.shortNumber?]

/-- The search finds the references in their order. -/
theorem Mentions.referencesFrom_eq {text : List Char} {found : List Mention}
    (mentions : Mentions text found) : referencesFrom 0 text = found.filterMap Mention.found? := by
  rw [referencesFrom_eq_filterMap]
  induction mentions with
  | nil => rfl
  | @reference written after piece found refers _ ih =>
      obtain ⟨c, body, whole, plain⟩ := refers.eq_cons_append
      obtain rfl : written = c :: body := List.append_cancel_right whole
      have here := refers.explicitNumber?_eq
      have later := filterMap_tails_append (fun dollar => (plain '$' dollar).1 rfl) after
      rw [List.cons_append] at here ⊢
      rw [List.tails_cons, List.filterMap_cons, List.filterMap_cons, here, later, ih]
  | @char c rest found plain _ ih =>
      have none : explicitNumber? (c :: rest) = none := by
        refine Option.eq_none_iff_forall_not_mem.mpr fun index seen => ?_
        obtain ⟨after, refers⟩ := reference_of_explicitNumber? seen
        exact plain _ _ refers
      rw [List.tails_cons, List.filterMap_cons_none none, ih]

namespace Mention

theorem filterMap_found? (found : List Mention) :
    found.filterMap found? = (found.filter (!·.isCutShort)).filterMap shortNumber? := by
  rw [List.filterMap_filter]
  refine List.filterMap_congr fun m _ => ?_
  cases cut : m.isCutShort <;> simp [found?, cut]

/-- A reference that is cut short is missed, and none comes in for it. -/
theorem filterMap_found?_eq_iff (found : List Mention) :
    found.filterMap found? = found.filterMap shortNumber? ↔
      ∀ m ∈ found, m.isCutShort = false := by
  constructor
  · intro same
    induction found with
    | nil => simp
    | cons m found ih =>
        cases cut : m.isCutShort with
        | true =>
            obtain ⟨index, number⟩ : ∃ index, m.shortNumber? = some index := by
              simp only [isCutShort, Bool.and_eq_true] at cut
              exact Option.isSome_iff_exists.mp cut.1.1
            have missed : m.found? = none := by simp [found?, cut]
            have fewer :
                (found.filterMap found?).length ≤ (found.filterMap shortNumber?).length := by
              rw [filterMap_found?]
              exact (List.filter_sublist.filterMap shortNumber?).length_le
            rw [List.filterMap_cons_none missed, List.filterMap_cons_some number] at same
            rw [same, List.length_cons] at fewer
            omega
        | false =>
            have here : m.found? = m.shortNumber? := by simp [found?, cut]
            rw [List.filterMap_cons, List.filterMap_cons, here] at same
            have later : found.filterMap found? = found.filterMap shortNumber? := by
              cases number : m.shortNumber? <;> simpa [number] using same
            simpa [cut] using ih later
  · intro whole
    exact List.filterMap_congr fun m member => by simp [found?, whole m member]

end Mention

/-- The explicit references of a text are the short ones among the references that it is read with,
in their order, but for those that are cut short. -/
theorem explicitReferences_in_order (text : String) :
    ∃ found, (∀ others, Mentions text.toList others ↔ others = found) ∧
      found.map Mention.piece =
        (expansionPieces (expansion text)).filter Piece.isReference ∧
      explicitReferences text =
        (found.filter (!·.isCutShort)).filterMap Mention.shortNumber? ∧
      (explicitReferences text = found.filterMap Mention.shortNumber? ↔
        ∀ m ∈ found, m.isCutShort = false) := by
  obtain ⟨found, mentions⟩ := exists_mentions text.toList
  have search : explicitReferences text = found.filterMap Mention.found? :=
    mentions.referencesFrom_eq
  refine ⟨found, fun others => ⟨mentions.eq, ?_⟩, mentions.pieces_eq, ?_, ?_⟩
  · rintro rfl
    exact mentions
  · rw [search, Mention.filterMap_found?]
  · rw [search, Mention.filterMap_found?_eq_iff]

/-- Before an Arabic-Indic digit a reference with one digit is read, and the search misses it. -/
theorem reference_cut_short :
    Mentions "$1\u0660".toList [⟨['$', '1'], ['\u0660'], .numbered 1⟩] ∧
      [Mention.mk ['$', '1'] ['\u0660'] (.numbered 1)].filterMap Mention.shortNumber? = [1] ∧
      explicitReferences "$1\u0660" = [] := by
  have digit : ∀ c ∈ ['1'], isAsciiDigit c = true := List.forall_mem_singleton.mpr (by decide)
  have foreign : ∀ c ∈ ['\u0660'].head?, isAsciiDigit c = false := by
    rintro c ⟨⟩
    decide
  have refers : Reference (['$', '1'] ++ ['\u0660']) (.numbered 1) ['\u0660'] :=
    .numeral (.inl rfl) (List.cons_ne_nil '1' []) (by decide) digit fun _ => foreign
  have plain : ∀ piece after, ¬ Reference ['\u0660'] piece after :=
    fun _ _ other => absurd other.begins (by decide)
  have mentions := Mentions.reference refers (.char plain .nil)
  exact ⟨mentions, by decide, by decide⟩

end ShortcodeExpansion.Template
