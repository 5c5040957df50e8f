import ShortcodeExpansion.Proofs.Stack.Addition
import ShortcodeExpansion.Proofs.Template.Spacing

/-!
# Shortcodes that repeat others

A shortcode adds nothing to a stack if it is blank, or if a shortcode that the stack was given has a
rule with the same texts.  Between templates that means patterns which differ in the spelling of
blank runs at most, and replacements that compile to one text.  A raw shortcode stands for itself,
so that it has to be written as the templates compile.
-/

set_option autoImplicit false

namespace ShortcodeExpansion

open Template (patternSource replacementSource spaced)

namespace Stack

theorem addShortcode_eq_self_iff (s : Stack) (shortcode : Shortcode) :
    s.addShortcode shortcode = s ↔
      shortcode.isBlank = true ∨ shortcode.texts ∈ s.texts := by
  cases blank : shortcode.isBlank with
  | true => simp [addShortcode, Rule.ofShortcode?_of_blank blank]
  | false =>
      have added : s.addShortcode shortcode =
          if s.contains shortcode.rule then s else ⟨s.rules ++ [shortcode.rule]⟩ := by
        simp [addShortcode, Rule.ofShortcode?_of_solid blank]
      have texts : shortcode.rule.texts = shortcode.texts := rfl
      rw [added, ← texts, ← contains_iff]
      cases s.contains shortcode.rule with
      | true => simp
      | false =>
          have longer : Stack.mk (s.rules ++ [shortcode.rule]) ≠ s := by
            intro same
            have rules := congrArg Stack.rules same
            simp at rules
          simp [longer]

/-- What a stack was given decides whether a shortcode adds to it. -/
theorem Holds.addShortcode_eq_self_iff {s : Stack} {given : List Shortcode} (holds : s.Holds given)
    (shortcode : Shortcode) :
    s.addShortcode shortcode = s ↔ shortcode.isBlank = true ∨
      ∃ earlier ∈ given, earlier.isBlank = false ∧ earlier.texts = shortcode.texts := by
  rw [s.addShortcode_eq_self_iff, ← mem_ruleTexts_iff, holds, List.mem_eraseDups]

end Stack

/-- Whether a shortcode makes the rule of a pattern template and a replacement template. -/
def Shortcode.Covers (earlier : Shortcode) (pattern replacement : String) : Prop :=
  if earlier.raw then
    earlier.pattern = patternSource pattern false ∧
      earlier.replacement = replacementSource replacement false
  else
    spaced earlier.pattern.toList = spaced pattern.toList ∧
      replacementSource earlier.replacement false = replacementSource replacement false

theorem Shortcode.covers_iff {earlier : Shortcode} {pattern replacement : String} :
    earlier.Covers pattern replacement ↔
      earlier.texts = (Shortcode.mk pattern replacement false).texts := by
  cases raw : earlier.raw with
  | true => simp [Covers, texts_of_raw raw, texts_of_wildcard, raw]
  | false => simp [Covers, texts_of_wildcard, raw, Template.patternSource_eq_iff]

/-- Compiling merges pattern templates that differ in the spelling of their blank runs and no
others; so of the templates with one compiled replacement, an addition drops those alone. -/
theorem templates_merged_iff :
    (∀ a b : String, patternSource a false = patternSource b false ↔
      spaced a.toList = spaced b.toList) ∧
    ∀ (steps : List Session.Step) (name : String) (before : List Shortcode)
      (pattern replacement : String),
      let s := (Session.run steps name).add before
      s.add [⟨pattern, replacement, false⟩] = s ↔
        isBlankText pattern = true ∨
          ∃ earlier ∈ Session.histories steps name ++ before,
            earlier.isBlank = false ∧ earlier.Covers pattern replacement := by
  refine ⟨fun a b => Template.patternSource_eq_iff, fun steps name before pattern replacement => ?_⟩
  have holds := (Session.run_holds steps name).add before
  simp only [Shortcode.covers_iff]
  exact holds.addShortcode_eq_self_iff ⟨pattern, replacement, false⟩

end ShortcodeExpansion
