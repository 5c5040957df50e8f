import ShortcodeExpansion.Proofs.Regex.GroupSlots
import ShortcodeExpansion.Proofs.Regex.Groups
import ShortcodeExpansion.Proofs.Rule
import ShortcodeExpansion.Proofs.Template.WildcardReading

/-!
# References by name

A raw rule may refer to a named group of its pattern by the name in braces.  Wherever the name
stands in a replacement, what is around it reads as it does alone.  The reference is filled with the
text of the group if the name is made of ASCII letters, digits and underscores.  A group may have
other names: one with a dot, a square bracket or a letter that is not ASCII is not read as a
reference, and stays in the text as it is written.
-/

set_option autoImplicit false

namespace ShortcodeExpansion

open Regex (NamesGroup IsGroupName isGroupNameChar)

namespace Template

/-! ## Names of groups in a replacement -/

theorem not_isAlphabetic_of_isAsciiDigit {c : Char} (digit : isAsciiDigit c = true) :
    isAlphabetic c = false := by
  simp only [isAsciiDigit, Bool.and_eq_true, decide_eq_true_eq] at digit
  have low : '0'.toNat ≤ c.toNat := digit.1
  have high : c.toNat ≤ '9'.toNat := digit.2
  have digits : ∀ n < '9'.toNat + 1, '0'.toNat ≤ n → isAlphabetic (.ofNat n) = false := by decide
  rw [← Char.ofNat_toNat c]
  exact digits c.toNat (by omega) low

/-- Nothing that begins or ends a reference is in a group's name. -/
theorem ne_of_isGroupNameChar {first : Bool} {c : Char} (allowed : isGroupNameChar first c = true) :
    c ≠ '$' ∧ c ≠ '\\' ∧ c ≠ '\x7d' := by
  refine ⟨?_, ?_, ?_⟩ <;> rintro rfl <;> cases first <;> exact absurd allowed (by decide)

theorem bracedReference_append (name after : List Char) :
    bracedReference name ++ after = '$' :: '\x7b' :: (name ++ '\x7d' :: after) := by
  simp [bracedReference]

section Names

variable {name : String} {after : List Char} {right : List Piece}

theorem plain_of_isGroupName (allowed : IsGroupName name) :
    ∀ c ∈ name.toList, c ≠ '$' ∧ c ≠ '\\' ∧ c ≠ '\x7d' := by
  obtain ⟨-, chars⟩ := allowed
  cases letters : name.toList with
  | nil => simp
  | cons first rest =>
      rw [letters] at chars
      rintro c (_ | ⟨_, later⟩)
      · exact ne_of_isGroupNameChar chars.1
      · exact ne_of_isGroupNameChar (chars.2 c later)

/-- A name that the search for names takes is read as a reference by name. -/
theorem reads_named (allowed : IsGroupName name) (ascii : name.toList.all isNameChar = true)
    (more : Reads after right) :
    Reads ('$' :: '\x7b' :: (name.toList ++ '\x7d' :: after)) (.named name :: right) := by
  have all : ∀ c ∈ name.toList, isNameChar c = true := List.all_eq_true.mp ascii
  have noNumeral : readNumeral? name.toList = none := by
    refine Option.eq_none_iff_forall_not_mem.mpr fun number spelled => ?_
    obtain ⟨some, digits, -⟩ := readNumeral?_eq_some_iff.mp spelled
    obtain ⟨-, chars⟩ := allowed
    cases letters : name.toList with
    | nil => exact some letters
    | cons first rest =>
        rw [letters] at chars digits
        have digit := digits first List.mem_cons_self
        have letter := chars.1
        have underscore : first ≠ '_' := by
          rintro rfl
          exact absurd digit (by decide)
        simp [isGroupNameChar, underscore, not_isAlphabetic_of_isAsciiDigit digit] at letter
  have piece : Piece.ofName name.toList = .named name := by
    rw [Piece.ofName, groupNumber?_name all, noNumeral, String.ofList_toList]
  have whole := Reads.reference (.braced allowed.1 all) more
  rwa [piece] at whole

/-- Any other name is copied with its braces. -/
theorem reads_unnamed (allowed : IsGroupName name) (other : name.toList.all isNameChar = false)
    (more : Reads after right) :
    Reads ('$' :: '\x7b' :: (name.toList ++ '\x7d' :: after))
      ((bracedReference name.toList).map .char ++ right) := by
  have plain := plain_of_isGroupName allowed
  have inside : ∀ c ∈ '\x7b' :: (name.toList ++ ['\x7d']), c ≠ '$' ∧ c ≠ '\\' := by
    intro c member
    simp only [List.mem_cons, List.mem_append, List.not_mem_nil, or_false] at member
    rcases member with rfl | member | rfl
    · decide
    · exact ⟨(plain c member).1, (plain c member).2.1⟩
    · decide
  have copied := more.append_ordinary inside
  rw [List.cons_append, List.append_assoc] at copied
  refine .char (fun piece rest refers => ?_) copied
  generalize whole : '$' :: '\x7b' :: (name.toList ++ '\x7d' :: after) = text at refers
  cases refers with
  | @numeral _ digits _ _ some _ all =>
      cases digits with
      | nil => exact some rfl
      | cons digit digits =>
          obtain ⟨rfl, -⟩ := List.cons.inj (List.cons.inj whole).2
          exact absurd (all '\x7b' List.mem_cons_self) (by decide)
  | @braced found _ _ all =>
      -- Either name ends at the first closing brace.
      have same : name.toList ++ '\x7d' :: after = found ++ '\x7d' :: rest := by simpa using whole
      have first := takeWhile_name all rest
      have ends : ∀ c ∈ name.toList, decide (c ≠ '\x7d') = true := by
        simpa using fun c member => (plain c member).2.2
      rw [← same, List.takeWhile_append_of_pos ends] at first
      have found : name.toList = found := by simpa using first
      rw [found, List.all_eq_true.mpr all] at other
      exact Bool.noConfusion other

end Names

theorem fillPieces_append (groups : GroupTexts) (left right : List Piece) :
    fillPieces groups (left ++ right) = fillPieces groups left ++ fillPieces groups right :=
  List.flatMap_append

theorem fillPieces_char (groups : GroupTexts) (text : List Char) :
    fillPieces groups (text.map .char) = text := by
  induction text with
  | nil => rfl
  | cons c text ih => exact congrArg (c :: ·) ih

/-- What a reference by name comes to, whatever is around it. -/
theorem fillPieces_braced {name : String} {before after : List Char} (allowed : IsGroupName name) :
    ∃ left right, Reads before left ∧ Reads after right ∧ ∀ groups : GroupTexts,
      fillPieces groups (expansionPieces (expansion
          (String.ofList (before ++ bracedReference name.toList ++ after)))) =
        fillPieces groups left ++
          (if name.toList.all isNameChar then groups.named name else bracedReference name.toList) ++
          fillPieces groups right := by
  obtain ⟨left, readsLeft⟩ := exists_reads before
  obtain ⟨right, readsRight⟩ := exists_reads after
  refine ⟨left, right, readsLeft, readsRight, fun groups => ?_⟩
  rw [expansionPieces, expansion, String.toList_ofList, String.toList_ofList, List.append_assoc,
    bracedReference_append]
  cases ascii : name.toList.all isNameChar with
  | true =>
      have reads := readsLeft.append_dollar (reads_named allowed ascii readsRight)
      have pieces := reads.eq_pieces
      rw [← pieces, fillPieces_append, if_pos rfl, List.append_assoc]
      rfl
  | false =>
      have reads := readsLeft.append_dollar (reads_unnamed allowed ascii readsRight)
      have pieces := reads.eq_pieces
      rw [← pieces, fillPieces_append, fillPieces_append, fillPieces_char, if_neg (by simp),
        List.append_assoc]

end Template

namespace Rule

open Template

/-- A text with its matches replaced by what `fill` makes of them, given the text from the match
on. -/
def withMatches (fill : Regex.Match → List Char → List Char) (pos : Nat) (text : List Char) :
    List Regex.Match → List Char
  | [] => text
  | m :: rest =>
      let here := text.drop (m.start - pos)
      text.take (m.start - pos) ++ fill m here ++
        withMatches fill m.stop (here.drop (m.stop - m.start)) rest

theorem replaceMatches_eq_withMatches (regex : Regex) (pieces : List Piece)
    (found : List Regex.Match) : ∀ (pos : Nat) (text : List Char),
      replaceMatches regex pieces pos text found =
        withMatches (fun m here => fillPieces (groupTexts regex m here) pieces) pos text found := by
  induction found with
  | nil => intro pos text; rfl
  | cons m found ih =>
      intro pos text
      simp only [replaceMatches, withMatches, ih]

theorem withMatches_congr {fill other : Regex.Match → List Char → List Char}
    {found : List Regex.Match} (same : ∀ m ∈ found, fill m = other m) (pos : Nat)
    (text : List Char) : withMatches fill pos text found = withMatches other pos text found := by
  induction found generalizing pos text with
  | nil => rfl
  | cons m found ih =>
      obtain ⟨here, later⟩ := List.forall_mem_cons.mp same
      simp only [withMatches, here, ih later]

/-- In a match of a pattern a name stands for the text of the group that it was given to. -/
theorem groupTexts_named {pattern name : String} {index : Nat} {regex : Regex} {text : List Char}
    {m : Regex.Match} (names : NamesGroup pattern name index)
    (builds : Regex.compile pattern = .ok regex) (found : m ∈ regex.matchesIn text)
    (here : List Char) : (groupTexts regex m here).named name = groupText m here index := by
  simp only [groupTexts, names.groupIndex? builds]
  by_cases there : index ∈ regex.expr.groupIndices
  · rw [if_pos there]
  · rw [if_neg there, groupText, Regex.group?_eq_none found names.pos there]

/-- What a rule does with a reference to a group by name: the text before the reference and the text
after it read as they do alone, and in each match the name in braces becomes the text of the group,
or it is left as it is written. -/
structure FillsNamed (rule : Rule) (regex : Regex) (name : String) (index : Nat)
    (before after : List Char) (left right : List Piece) : Prop where
  before : Reads before left
  after : Reads after right
  result : ∀ text, ∃ applied, rule.apply text = .ok applied ∧
    applied.text.toList = withMatches (fun m here =>
      let groups := groupTexts regex m here
      fillPieces groups left ++
        (if name.toList.all isNameChar then groupText m here index
          else bracedReference name.toList) ++
        fillPieces groups right) 0 text.toList (regex.matchesIn text.toList)

theorem ofShortcode?_raw {s : Shortcode} {rule : Rule} (raw : s.raw = true)
    (made : ofShortcode? s = some rule) : rule = ⟨s.pattern, s.replacement, .untried⟩ := by
  obtain ⟨-, rfl⟩ := ofShortcode?_eq_some_iff.mp made
  rw [Shortcode.rule, Shortcode.texts_of_raw raw]

/-- A raw rule fills a reference to a named group of its pattern in each match if the name is made
of ASCII letters, digits and underscores, and leaves it in the text if not. -/
theorem apply_named_reference {s : Shortcode} {rule : Rule} {regex : Regex} {name : String}
    {index : Nat} {before after : List Char} (raw : s.raw = true)
    (made : ofShortcode? s = some rule) (builds : rule.regex = .ok regex)
    (names : NamesGroup s.pattern name index)
    (written : s.replacement.toList = before ++ bracedReference name.toList ++ after) :
    ∃ left right, FillsNamed rule regex name index before after left right := by
  obtain rfl := ofShortcode?_raw raw made
  obtain ⟨left, right, readsLeft, readsRight, filled⟩ := fillPieces_braced names.isGroupName
  refine ⟨left, right, readsLeft, readsRight, fun text =>
    ⟨applyRegex regex s.replacement text, by rw [Rule.apply, builds]; rfl, ?_⟩⟩
  have replacement : s.replacement =
      String.ofList (before ++ bracedReference name.toList ++ after) := by
    rw [← written, String.ofList_toList]
  rw [applyRegex_text, replaceMatches_eq_withMatches, replacement]
  refine withMatches_congr (fun m found => funext fun here => ?_) 0 text.toList
  rw [filled, groupTexts_named names builds found here]

/-- Two named groups, of which one takes part in a match. -/
def choiceShortcode : Shortcode := ⟨"(?P<key>k)|(?P<word>x)", "[$${word}]", true⟩

theorem apply_named_reference_choice : ∃ rule regex, choiceShortcode.raw = true ∧
    ofShortcode? choiceShortcode = some rule ∧ rule.regex = .ok regex ∧
    NamesGroup choiceShortcode.pattern "word" 2 ∧
    choiceShortcode.replacement.toList =
      "[$".toList ++ bracedReference "word".toList ++ "]".toList ∧
    ∃ left right, FillsNamed rule regex "word" 2 "[$".toList "]".toList left right := by
  have names : NamesGroup choiceShortcode.pattern "word" 2 := ⟨_, rfl, by decide⟩
  exact ⟨_, _, rfl, rfl, rfl, names, rfl, apply_named_reference rfl rfl rfl names rfl⟩

example : ((Rule.mk choiceShortcode.pattern choiceShortcode.replacement .untried).apply "kx").map
    Applied.text = .ok "[$][$x]" := by cbv

/-- A group with a dot in its name is found by it, and a reference to it is left in the text. -/
theorem dotted_name_left : ∃ rule regex, ofShortcode? ⟨"(?P<a.b>x)", "<${a.b}>", true⟩ = some rule ∧
    rule.regex = .ok regex ∧ NamesGroup rule.pattern "a.b" 1 ∧ regex.groupIndex? "a.b" = some 1 ∧
    (rule.apply "x").map Applied.text = .ok "<${a.b}>" :=
  ⟨_, _, rfl, rfl, ⟨_, rfl, by decide⟩, rfl, rfl⟩

end Rule

end ShortcodeExpansion
