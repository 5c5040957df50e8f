import ShortcodeExpansion.Proofs.Template.LeftmostMatch
import ShortcodeExpansion.Proofs.Template.Splitting
import ShortcodeExpansion.Proofs.Template.TemplateReading
import ShortcodeExpansion.Rule

/-!
# What a wildcard rule does to a text

A rule made from a template splits a text at the template's matches, copies the gaps, and puts in
the place of each match what the replacement template reads as, filled with the captures.
-/

set_option autoImplicit false

namespace ShortcodeExpansion

open Regex Template

namespace Rule

section Matches

variable {tokens : List PatternToken} {text : List Char} {lastEnd : Option Nat} {pos : Nat}

/-- The groups of a match are the pieces of the wildcards. -/
theorem groupTexts_of_isMatch {regex : Regex} {m : Match} {pieces : List (List Char)}
    (unnamed : regex.expr.groupNames = []) (isMatch : IsMatch tokens text m pieces) :
    groupTexts regex m (text.drop m.start) = matchGroups tokens pieces := by
  have captured := isMatch.preferred.decomposes.captures_eq (text.drop m.start) m.start m.start
    (Nat.le_refl _) (by simp)
  have numbered : groupText m (text.drop m.start) = (matchGroups tokens pieces).numbered := by
    funext index
    cases index with
    | zero =>
        obtain ⟨rest, split⟩ := isMatch.preferred.decomposes.eq_append
        have length : m.stop - m.start = pieces.flatten.length := by
          have stop := isMatch.stop
          omega
        simp only [groupText, Match.group?, if_true, Nat.sub_self, List.drop_zero, length,
          matchGroups]
        rw [split, List.take_left]
    | succ k =>
        simp only [groupText, isMatch.groups k, matchGroups, ← captured, List.getElem?_map]
        cases (captureSpans m.start tokens pieces)[k]? <;> rfl
  have named : ∀ name, regex.groupIndex? name = none := by
    intro name
    simp [groupIndex?, unnamed]
  simp only [groupTexts, numbered, named]
  rfl

/-- Before the end of a text a template that is not empty takes something wherever it matches, so
no match there is refused. -/
theorem not_decomposes_of_takenAt (some : tokens ≠ [])
    (none : takenAt (tokenItems 1 tokens) text lastEnd pos = none) (inside : pos < text.length) :
    ∀ pieces, ¬ Decomposes tokens pieces (text.drop pos) := by
  cases found : firstAt (tokenItems 1 tokens) text pos with
  | none => exact decompositions_of_firstAt_eq_none found
  | some m =>
      obtain ⟨pieces, isMatch⟩ := isMatch_of_firstAt found
      have start := firstAt_start found
      have left : text.drop m.start ≠ [] := by
        rw [start]
        simpa using inside
      have taken := List.length_pos_iff.mpr (isMatch.preferred.flatten_ne_nil some left)
      have stop := isMatch.stop
      have refused : ¬ m.stop = pos := by omega
      simp [takenAt, found, refused] at none

/-- At the end of a text only the empty match is refused. -/
theorem not_decomposes_or_wildcards
    (none : takenAt (tokenItems 1 tokens) text lastEnd text.length = none) :
    (∀ pieces, ¬ Decomposes tokens pieces []) ∨
      lastEnd = some text.length ∧ ∀ token ∈ tokens, token = .wildcard := by
  cases found : firstAt (tokenItems 1 tokens) text text.length with
  | none =>
      have never := decompositions_of_firstAt_eq_none found
      rw [List.drop_length] at never
      exact .inl never
  | some m =>
      obtain ⟨pieces, isMatch⟩ := isMatch_of_firstAt found
      have start := firstAt_start found
      have decomposes := isMatch.preferred.decomposes
      rw [start, List.drop_length] at decomposes
      obtain ⟨rest, nothing⟩ := decomposes.eq_append
      have empty : pieces.flatten = [] := (List.append_eq_nil_iff.mp nothing.symm).1
      have stop : m.stop = text.length := by
        rw [isMatch.stop, start, empty]
        rfl
      refine .inr ⟨?_, decomposes.wildcards_of_flatten_eq_nil empty⟩
      simpa [takenAt, found, Option.filter_some, stop] using none

/-- A text in which nothing more is taken has no match left. -/
theorem splits_of_none_taken (some : tokens ≠ []) {start : Nat} (within : start ≤ text.length)
    (last : ∀ stopped ∈ lastEnd, stopped = start)
    (none : ∀ pos, start ≤ pos → pos ≤ text.length →
      takenAt (tokenItems 1 tokens) text lastEnd pos = none) :
    Splits tokens lastEnd.isSome (text.drop start) [] (text.drop start) := by
  rcases not_decomposes_or_wildcards (none _ within (Nat.le_refl _)) with never | ⟨rfl, wild⟩
  · refine .last fun pos near => ?_
    rw [List.length_drop] at near
    rw [List.drop_drop]
    by_cases inside : start + pos < text.length
    · exact not_decomposes_of_takenAt some (none _ (by omega) (by omega)) inside
    · rw [List.drop_of_length_le (by omega)]
      exact never
  · rw [← last _ rfl, List.drop_length]
    exact .closed wild

/-- A match in a text from a position on: the gap before it, its pieces, and what is left. -/
structure Located (tokens : List PatternToken) (text : List Char) (start : Nat) (m : Match)
    (gap : List Char) (pieces : List (List Char)) (left : List Char) : Prop where
  isMatch : IsMatch tokens text m pieces
  width : gap.length = m.start - start
  whole : text.drop start = gap ++ (pieces.flatten ++ left)
  here : text.drop m.start = pieces.flatten ++ left
  later : text.drop m.stop = left

section Located

variable {start : Nat} {m : Match} {gap left : List Char} {pieces : List (List Char)}

theorem exists_located (after : start ≤ m.start) (within : m.start ≤ text.length)
    (taken : takenAt (tokenItems 1 tokens) text lastEnd m.start = some m) :
    ∃ gap pieces left, Located tokens text start m gap pieces left := by
  obtain ⟨found, _⟩ := takenAt_eq_some taken
  obtain ⟨pieces, isMatch⟩ := isMatch_of_firstAt found
  obtain ⟨left, here⟩ := isMatch.preferred.decomposes.eq_append
  have moved : (text.drop start).drop (m.start - start) = text.drop m.start := by
    rw [List.drop_drop]
    congr 1
    omega
  refine ⟨(text.drop start).take (m.start - start), pieces, left, isMatch, ?_, ?_, here, ?_⟩
  · rw [List.length_take, List.length_drop]
    omega
  · rw [← here, ← moved, List.take_append_drop]
  · rw [isMatch.stop, ← List.drop_drop, here, List.drop_left]

theorem Located.not_decomposes (located : Located tokens text start m gap pieces left)
    (some : tokens ≠ []) (within : m.start ≤ text.length)
    (none : ∀ pos, start ≤ pos → pos < m.start →
      takenAt (tokenItems 1 tokens) text lastEnd pos = none) :
    ∀ pos, pos < gap.length → ∀ others,
      ¬ Decomposes tokens others ((gap ++ (pieces.flatten ++ left)).drop pos) := by
  intro pos near
  have width := located.width
  rw [← located.whole, List.drop_drop]
  exact not_decomposes_of_takenAt some (none _ (by omega) (by omega)) (by omega)

/-- A match that is taken goes on from where the match before it ended. -/
theorem Located.onward (located : Located tokens text start m gap pieces left)
    (after : start ≤ m.start) (last : ∀ stopped ∈ lastEnd, stopped = start)
    (taken : takenAt (tokenItems 1 tokens) text lastEnd m.start = some m)
    (before : lastEnd.isSome = true) : gap ++ pieces.flatten ≠ [] := by
  intro nothing
  obtain ⟨rfl, empty⟩ := List.append_eq_nil_iff.mp nothing
  obtain ⟨stopped, rfl⟩ := Option.isSome_iff_exists.mp before
  have same : m.start = start := by
    have width := located.width
    rw [List.length_nil] at width
    omega
  have stays : m.stop = m.start := by simpa [empty] using located.isMatch.stop
  have allowed := (Option.filter_eq_some_iff.mp taken).2
  simp [stays, same, last] at allowed

/-- Only at the end of the text is a match empty. -/
theorem Located.of_empty (located : Located tokens text start m gap pieces left)
    (some : tokens ≠ []) (empty : pieces.flatten = []) :
    left = [] ∧ text.length ≤ m.start ∧ ∀ token ∈ tokens, token = .wildcard := by
  have ends : text.drop m.start = [] := Classical.byContradiction fun more =>
    located.isMatch.preferred.flatten_ne_nil some more empty
  have here := located.here
  rw [ends, empty] at here
  exact ⟨here.symm, List.drop_eq_nil_iff.mp ends,
    located.isMatch.preferred.decomposes.wildcards_of_flatten_eq_nil empty⟩

theorem Located.stop_le (located : Located tokens text start m gap pieces left)
    (within : m.start ≤ text.length) : m.stop ≤ text.length := by
  have length := congrArg List.length located.here
  have stop := located.isMatch.stop
  rw [List.length_drop, List.length_append] at length
  omega

/-- The gap is copied, the match replaced, and what is left worked on in the same way. -/
theorem Located.replaceMatches (located : Located tokens text start m gap pieces left)
    {regex : Regex} (unnamed : regex.expr.groupNames = []) (filled : List Piece)
    (remaining : List Match) :
    Rule.replaceMatches regex filled start (text.drop start) (m :: remaining) =
      gap ++ fillPieces (matchGroups tokens pieces) filled ++
        Rule.replaceMatches regex filled m.stop left remaining := by
  have groups := groupTexts_of_isMatch unnamed located.isMatch
  have taken : (pieces.flatten ++ left).drop (m.stop - m.start) = left := by
    have width : m.stop - m.start = pieces.flatten.length := by
      have stop := located.isMatch.stop
      omega
    rw [width, List.drop_left]
  rw [located.here] at groups
  rw [Rule.replaceMatches, located.whole, ← located.width, List.drop_left, List.take_left]
  simp only [groups, taken]

end Located

/-- What a rule makes of a text from a position on, where the match before it ended if there was
one. -/
theorem replaceMatches_splits (some : tokens ≠ []) {regex : Regex}
    (unnamed : regex.expr.groupNames = []) (filled : List Piece) {start : Nat} {found : List Match}
    (successive : Successive (tokenItems 1 tokens) text start lastEnd found) :
    start ≤ text.length → (∀ stopped ∈ lastEnd, stopped = start) →
      ∃ occurrences final, Splits tokens lastEnd.isSome (text.drop start) occurrences final ∧
        replaceMatches regex filled start (text.drop start) found =
          spliced (fun taken => fillPieces (matchGroups tokens taken) filled)
            occurrences final := by
  induction successive with
  | done none =>
      intro within last
      exact ⟨[], _, splits_of_none_taken some within last none, rfl⟩
  | @next start lastEnd m later after within none taken rest ih =>
      intro _ last
      obtain ⟨gap, pieces, left, located⟩ := exists_located after within taken
      obtain ⟨occurrences, final, splits, replaced⟩ : ∃ occurrences final,
          Splits tokens true left occurrences final ∧
            replaceMatches regex filled m.stop left later =
              spliced (fun taken => fillPieces (matchGroups tokens taken) filled)
                occurrences final := by
        have stop := located.isMatch.stop
        by_cases empty : pieces.flatten = []
        · obtain ⟨rfl, ends, wild⟩ := located.of_empty some empty
          cases rest with
          | done => exact ⟨[], [], .closed wild, rfl⟩
          | next beyond inside => omega
        · have some := List.length_pos_iff.mpr empty
          have forward : max (m.start + 1) m.stop = m.stop := by omega
          rw [forward, located.later] at ih
          exact ih (located.stop_le within) (by simp)
      refine ⟨⟨gap, pieces⟩ :: occurrences, final, ?_, ?_⟩
      · rw [located.whole]
        exact .next (located.not_decomposes some within none)
          (located.here ▸ located.isMatch.preferred) (located.onward after last taken) splits
      · rw [located.replaceMatches unnamed, replaced, spliced_cons]

end Matches

theorem applyRegex_text (regex : Regex) (replacement text : String) :
    (applyRegex regex replacement text).text.toList =
      replaceMatches regex (expansionPieces (expansion replacement)) 0 text.toList
        (regex.matchesIn text.toList) := by
  cases found : regex.matchesIn text.toList with
  | nil => simp [applyRegex, found, replaceMatches]
  | cons m later => simp [applyRegex, found]

/-- The rule of a template that is not raw has the template's pattern, which is not empty. -/
theorem ofShortcode?_wildcard {s : Shortcode} {rule : Rule} (wild : s.raw = false)
    (made : ofShortcode? s = some rule) :
    rule.pattern = patternSource s.pattern false ∧
      rule.replacement = replacementSource s.replacement false ∧
      patternTokens s.pattern.toList ≠ [] := by
  obtain ⟨solid, rfl⟩ := ofShortcode?_eq_some_iff.mp made
  rw [Shortcode.rule, Shortcode.texts_of_wildcard wild]
  refine ⟨rfl, rfl, fun none => ?_⟩
  have reads := tokenReading_patternTokens s.pattern.toList
  rw [none] at reads
  simp [Shortcode.isBlank, isBlankText, reads.eq_nil] at solid

theorem expr_of_compile {template : String} {regex : Regex}
    (builds : Regex.compile (patternSource template false) = .ok regex) :
    regex.expr = tokensExpr (patternTokens template.toList) := by
  simp only [Regex.compile, readExpr_tokens] at builds
  split at builds
  · obtain rfl := Except.ok.inj builds
    rfl
  · simp at builds

/-- What applying a shortcode to a text means, if its replacement is a template: how the pattern and
the replacement read, how the text splits, and what is put in the place of each match. -/
structure Rewrites (s : Shortcode) (text result : List Char) (tokens : List PatternToken)
    (pieces : List Piece) (occurrences : List Occurrence) (final : List Char) : Prop where
  pattern : ∀ others, TokenReading s.pattern.toList others ↔ others = tokens
  replacement : ∀ others,
    TemplateReads (freeNumber s.replacement) 0 s.replacement.toList others ↔ others = pieces
  splits : Splits tokens false text occurrences final
  whole : text = spliced List.flatten occurrences final
  result : result =
    spliced (fun taken => fillPieces (matchGroups tokens taken) pieces) occurrences final
  /-- An asterisk at the end takes the rest of the text. -/
  closed : s.pattern.toList.getLast? = some '*' →
    occurrences.length ≤ 1 ∧ (occurrences ≠ [] → final = [])

/-- A rule made of templates rewrites every text as the templates read, if its pattern is not too
large and no wildcard gets a number of three digits. -/
theorem apply_wildcard {s : Shortcode} {rule : Rule} {regex : Regex} (text : String)
    (wild : s.raw = false) (made : ofShortcode? s = some rule) (builds : rule.regex = .ok regex)
    (small : ∀ k, k < s.replacement.toList.count '*' → freeNumber s.replacement k ≤ 99) :
    ∃ applied tokens pieces occurrences final, rule.apply text = .ok applied ∧
      Rewrites s text.toList applied.text.toList tokens pieces occurrences final := by
  obtain ⟨pattern, replacement, some⟩ := ofShortcode?_wildcard wild made
  obtain ⟨pieces, reads⟩ := exists_templateReads (freeNumber s.replacement) s.replacement.toList 0
  have compiled : Regex.compile (patternSource s.pattern false) = .ok regex := by
    rw [Rule.regex, matcher_of_ofShortcode? made] at builds
    rw [← pattern]
    exact builds
  have expr := expr_of_compile compiled
  have unnamed : regex.expr.groupNames = [] := by
    rw [expr]
    exact joinTokens_groupNames _ _ _
  have successive : Successive (tokenItems 1 (patternTokens s.pattern.toList)) text.toList 0 none
      (regex.matchesIn text.toList) := by
    rw [matchesIn, allMatches, expr, layout_tokensExpr]
    exact scan_text (tokenItems_plain _ 1) text.toList 0
  obtain ⟨occurrences, final, splits, replaced⟩ :=
    replaceMatches_splits some unnamed pieces successive (Nat.zero_le _) (by simp)
  refine ⟨applyRegex regex rule.replacement text, patternTokens s.pattern.toList, pieces,
    occurrences, final, ?_, fun _ => tokenReading_iff, fun others => ?_, splits, splits.eq_spliced,
    ?_, fun closed => ?_⟩
  · rw [Rule.apply, builds]
    rfl
  · constructor
    · intro other
      rw [← expansionPieces_template small other, expansionPieces_template small reads]
    · rintro rfl
      exact reads
  · rw [applyRegex_text, replacement, expansionPieces_template small reads]
    exact replaced
  · exact splits.of_closed ((tokenReading_patternTokens _).getLast?_wildcard closed)

/-- Two captures, each with a digit after it. -/
def pairShortcode : Shortcode := ⟨"[* *]", "*2, *1", false⟩

theorem apply_wildcard_pair : ∃ rule regex, pairShortcode.raw = false ∧
    ofShortcode? pairShortcode = some rule ∧ rule.regex = .ok regex ∧
    (∀ k, k < pairShortcode.replacement.toList.count '*' →
      freeNumber pairShortcode.replacement k ≤ 99) ∧
    ∃ applied tokens pieces occurrences final, rule.apply "see [Jo Doe]" = .ok applied ∧
      Rewrites pairShortcode "see [Jo Doe]".toList applied.text.toList tokens pieces occurrences
        final := by
  have first : freeNumber pairShortcode.replacement 0 = 1 := by
    rw [← (Allocation.ofTemplate_hasGiven pairShortcode.replacement).next_eq]
    decide
  have second : freeNumber pairShortcode.replacement 1 = 2 := by
    rw [← (Allocation.ofTemplate_hasGiven pairShortcode.replacement).advance.next_eq]
    decide
  have small : ∀ k, k < pairShortcode.replacement.toList.count '*' →
      freeNumber pairShortcode.replacement k ≤ 99 := by
    intro k before
    have two : pairShortcode.replacement.toList.count '*' = 2 := by decide
    obtain rfl | rfl : k = 0 ∨ k = 1 := by omega
    · omega
    · omega
  exact ⟨_, _, rfl, rfl, rfl, small, apply_wildcard "see [Jo Doe]" rfl rfl rfl small⟩

end Rule

end ShortcodeExpansion
