import ShortcodeExpansion.Proofs.Stack.Outcome
import ShortcodeExpansion.Proofs.Template.PatternSize

/-!
# When shortcodes expand a text

Shortcodes expand every text if the patterns of their rules compile, and otherwise the first that
does not is reported, in the order of the shortcodes: a rule that is left out because it is there
already had its say before.  A pattern made from a template compiles unless it is over the size
limit.
-/

set_option autoImplicit false

namespace ShortcodeExpansion

open Regex Template

/-- The error of a shortcode whose rule does not compile. -/
def Shortcode.failure? (s : Shortcode) : Option RuleError :=
  (Rule.ofShortcode? s).bind fun rule => patternFailure? rule.pattern

section Failures

variable {s : Shortcode}

theorem Shortcode.failure?_of_blank (blank : s.isBlank = true) : s.failure? = none := by
  rw [failure?, Rule.ofShortcode?_of_blank blank]
  rfl

theorem Shortcode.failure?_of_solid (solid : s.isBlank = false) :
    s.failure? = patternFailure? s.texts.1 := by
  rw [failure?, Rule.ofShortcode?_of_solid solid]
  rfl

/-- A template fails only by its size; a blank one, which makes no rule, is never too large. -/
theorem Shortcode.failure?_wildcard (wild : s.raw = false) :
    s.failure? = if PatternFits s.pattern then none
      else some ⟨patternSource s.pattern false, .tooLarge sizeLimit⟩ := by
  cases blank : s.isBlank with
  | true => rw [failure?_of_blank blank, if_pos (patternFits_of_blank blank)]
  | false =>
      rw [failure?_of_solid blank, texts_of_wildcard wild, patternFailure?, compile_patternSource]
      by_cases fits : PatternFits s.pattern <;> simp [fits]

theorem Shortcode.failure?_eq_none_iff (wild : s.raw = false) :
    s.failure? = none ↔ PatternFits s.pattern := by
  rw [failure?_wildcard wild]
  by_cases fits : PatternFits s.pattern <;> simp [fits]

theorem Shortcode.failure?_eq_some_iff (wild : s.raw = false) {e : RuleError} :
    s.failure? = some e ↔
      ¬ PatternFits s.pattern ∧ e = ⟨patternSource s.pattern false, .tooLarge sizeLimit⟩ := by
  rw [failure?_wildcard wild]
  by_cases fits : PatternFits s.pattern <;> simp [fits, eq_comm]

end Failures

theorem findSome?_eraseDups {α β : Type} [BEq α] [LawfulBEq α] (f : α → Option β)
    (values : List α) : values.eraseDups.findSome? f = values.findSome? f := by
  induction values using List.reverseRecOn with
  | nil => rfl
  | append_singleton values value ih =>
      rw [eraseDups_concat, List.findSome?_append]
      split
      · rename_i known
        -- The value is dropped here, and had its say where it first occurred.
        cases found : values.findSome? f with
        | some result => rw [ih, found]; rfl
        | none =>
            have here := List.findSome?_eq_none_iff.mp found value known
            simp [ih, found, here]
      · rw [List.findSome?_append, ih]

namespace Stack

theorem firstFailure?_ofShortcodes (shortcodes : List Shortcode) :
    firstFailure? (ofShortcodes shortcodes).rules = shortcodes.findSome? Shortcode.failure? := by
  calc firstFailure? (ofShortcodes shortcodes).rules
    _ = (ofShortcodes shortcodes).texts.findSome? fun texts => patternFailure? texts.1 :=
        firstFailure?_eq_findSome?_texts _
    _ = (ruleTexts shortcodes).findSome? fun texts => patternFailure? texts.1 := by
        rw [holds_ofShortcodes, findSome?_eraseDups]
    _ = shortcodes.findSome? Shortcode.failure? := by
        rw [← map_texts_ofShortcode?, List.findSome?_map, ← List.head?_filterMap,
          List.filterMap_filterMap, List.head?_filterMap]
        rfl

section OfShortcodes

variable {shortcodes : List Shortcode} {text : String}

theorem expand_ofShortcodes_eq_error_iff {e : RuleError} :
    (ofShortcodes shortcodes).expand text = .error e ↔
      shortcodes.findSome? Shortcode.failure? = some e := by
  rw [expand_eq_error_iff (orderly_ofShortcodes shortcodes), firstFailure?_ofShortcodes]

theorem exists_expand_ofShortcodes_iff :
    (∃ result, (ofShortcodes shortcodes).expand text = .ok result) ↔
      ∀ shortcode ∈ shortcodes, shortcode.failure? = none := by
  rw [← List.findSome?_eq_none_iff, ← firstFailure?_ofShortcodes, firstFailure?_eq_none_iff]
  simp [expand_eq_ok_iff (orderly_ofShortcodes shortcodes)]

end OfShortcodes

/-- Shortcodes made of templates expand every text just if all patterns stay within the size limit;
otherwise every text is answered with the first pattern that does not. -/
theorem expand_wildcards_iff {shortcodes : List Shortcode}
    (wild : ∀ s ∈ shortcodes, s.raw = false) (text : String) :
    ((∃ result, (ofShortcodes shortcodes).expand text = .ok result) ↔
        ∀ s ∈ shortcodes, PatternFits s.pattern) ∧
      ∀ e, (ofShortcodes shortcodes).expand text = .error e ↔ ∃ before s after,
        shortcodes = before ++ s :: after ∧ (∀ earlier ∈ before, PatternFits earlier.pattern) ∧
          ¬ PatternFits s.pattern ∧ e = ⟨patternSource s.pattern false, .tooLarge sizeLimit⟩ := by
  constructor
  · rw [exists_expand_ofShortcodes_iff]
    exact forall₂_congr fun s member => Shortcode.failure?_eq_none_iff (wild s member)
  · intro e
    rw [expand_ofShortcodes_eq_error_iff, List.findSome?_eq_some_iff]
    refine exists₃_congr fun before s after => and_congr_right ?_
    rintro rfl
    have here := Shortcode.failure?_eq_some_iff (wild s (by simp)) (e := e)
    have earlier := forall₂_congr fun a (member : a ∈ before) =>
      Shortcode.failure?_eq_none_iff (wild a (by simp [member]))
    rw [here, earlier]
    exact and_comm

/-- Two templates, the second of which is blank and makes no rule. -/
def twoTemplates : List Shortcode := [⟨"[* *]", "*2, *1", false⟩, ⟨"  ", "x", false⟩]

theorem expand_two_templates : (∀ s ∈ twoTemplates, s.raw = false) ∧
    (∀ s ∈ twoTemplates, PatternFits s.pattern) ∧
      ∃ result, (ofShortcodes twoTemplates).expand "see [Jo Doe]" = .ok result := by
  have wild : ∀ s ∈ twoTemplates, s.raw = false := by decide
  have fits : ∀ s ∈ twoTemplates, PatternFits s.pattern := by
    have short : ∀ s ∈ twoTemplates, s.pattern.length ≤ 10443 := by decide
    exact fun s member => patternFits_of_length_le (short s member)
  exact ⟨wild, fits, (expand_wildcards_iff wild "see [Jo Doe]").1.mpr fits⟩

/-- A template with more wildcards than the limit has room for. -/
def manyWildcards : Shortcode := ⟨wildcards 30000, "x", false⟩

theorem many_wildcards_fail : manyWildcards.raw = false ∧
    (ofShortcodes [manyWildcards]).expand "a" =
      .error ⟨patternSource manyWildcards.pattern false, .tooLarge sizeLimit⟩ := by
  have large : ¬ PatternFits manyWildcards.pattern := by
    intro fits
    have few := (patternFits_wildcards_iff 30000).mp fits
    omega
  have failure := (Shortcode.failure?_eq_some_iff (s := manyWildcards) rfl).mpr ⟨large, rfl⟩
  refine ⟨rfl, expand_ofShortcodes_eq_error_iff.mpr ?_⟩
  rw [List.findSome?_cons, failure]

end Stack

end ShortcodeExpansion
