import ShortcodeExpansion.Catalogue.Yaml
import ShortcodeExpansion.Proofs.Template.ReferencePlaces

/-!
# What the validation of a catalogue rules out

The raw shortcodes of an accepted catalogue have patterns that compile, and no explicit reference of
theirs goes beyond the groups of the pattern.  References in the forms that the search for explicit
references passes over are not checked.
-/

set_option autoImplicit false

namespace ShortcodeExpansion

open Template

/-- A raw shortcode has no problem just if its pattern compiles and has the groups that the explicit
references of its replacement name. -/
theorem Shortcode.problems_eq_nil_iff {s : Shortcode} (raw : s.raw = true)
    (solid : s.isBlank = false) :
    s.problems = [] ↔ ∃ regex, Regex.compile s.pattern = .ok regex ∧
      ∀ index ∈ explicitReferences s.replacement, index ≤ regex.groupCount := by
  have checked : (!s.raw || s.isBlank) = false := by simp [raw, solid]
  rw [Shortcode.problems, checked]
  cases Regex.compile s.pattern with
  | error cause => simp
  | ok regex => simp

namespace Catalogue

theorem ofYaml_eq_ok_iff {text : String} {c : Catalogue} :
    ofYaml text = .ok c ↔ (Yaml.document? text).bind ofDocument? = some c ∧ c.problems = [] := by
  unfold ofYaml
  cases (Yaml.document? text).bind ofDocument? with
  | none => simp
  | some d =>
      simp only [Option.some.injEq]
      split
      · rename_i sound
        simp only [Except.ok.injEq]
        exact ⟨fun same => ⟨same, same ▸ sound⟩, fun both => both.1⟩
      · rename_i unsound
        simp only [reduceCtorEq, false_iff, not_and]
        rintro rfl
        exact unsound

/-- The built-in shortcodes are those of their file. -/
theorem ofYaml_builtInText : ofYaml builtInText = .ok builtIn := by
  have read : (Yaml.document? builtInText).bind ofDocument? = some builtIn := by
    -- The characters are known without decoding the text, which would take long.
    rw [Yaml.document?, builtInText, Yaml.tokens?_ofList]
    decide +kernel
  exact ofYaml_eq_ok_iff.mpr ⟨read, by decide⟩

/-- In an accepted catalogue the pattern of a raw shortcode compiles, and has every group that a
reference of the replacement names, just if it has those that references in overlooked forms name;
all others are checked. -/
theorem ofYaml_references_iff {text : String} {c : Catalogue} {s : Shortcode}
    (accepted : ofYaml text = .ok c) (listed : s ∈ c.shortcodes) (raw : s.raw = true)
    (solid : s.isBlank = false) :
    ∃ regex, Regex.compile s.pattern = .ok regex ∧
      (∀ index place, RefersAt s.replacement.toList index place → ¬ Overlooked place →
        index ≤ regex.groupCount) ∧
      ((∀ index, .numbered index ∈ expansionPieces (expansion s.replacement) →
          index ≤ regex.groupCount) ↔
        ∀ index place, RefersAt s.replacement.toList index place → Overlooked place →
          index ≤ regex.groupCount) := by
  have sound : s.problems = [] :=
    List.flatMap_eq_nil_iff.mp (ofYaml_eq_ok_iff.mp accepted).2 s listed
  obtain ⟨regex, builds, checked⟩ := (Shortcode.problems_eq_nil_iff raw solid).mp sound
  have seen : ∀ index place, RefersAt s.replacement.toList index place → ¬ Overlooked place →
      index ≤ regex.groupCount := fun index place refers form =>
    checked index (mem_explicitReferences_iff.mpr ⟨place, refers, form⟩)
  refine ⟨regex, builds, seen, fun all index place refers _ => ?_, fun rest index referred => ?_⟩
  · exact all index (numbered_mem_expansion_iff.mpr ⟨place, refers⟩)
  · obtain ⟨place, refers⟩ := numbered_mem_expansion_iff.mp referred
    by_cases form : Overlooked place
    · exact rest index place refers form
    · exact seen index place refers form

/-- A shortcode that refers to the group of its pattern in a checked form and in two others. -/
def threeForms : Shortcode := ⟨"x(a)", "$1 \\1 $\x7b001\x7d", true⟩

def threeFormsText : String := "shortcodes: [[x(a), '$1 \\1 $\x7b001\x7d', true]]"

theorem ofYaml_references_three_forms :
    ofYaml threeFormsText = .ok ⟨[.record threeForms]⟩ ∧ threeForms.raw = true ∧
      threeForms.isBlank = false ∧ ∃ regex, Regex.compile threeForms.pattern = .ok regex ∧
        (∀ index place, RefersAt threeForms.replacement.toList index place → ¬ Overlooked place →
          index ≤ regex.groupCount) ∧
        ((∀ index, .numbered index ∈ expansionPieces (expansion threeForms.replacement) →
            index ≤ regex.groupCount) ↔
          ∀ index place, RefersAt threeForms.replacement.toList index place → Overlooked place →
            index ≤ regex.groupCount) := by
  have read : (Yaml.document? threeFormsText).bind ofDocument? = some ⟨[.record threeForms]⟩ := by
    decide +kernel
  have sound : Catalogue.problems ⟨[.record threeForms]⟩ = [] := by decide +kernel
  have accepted := ofYaml_eq_ok_iff.mpr ⟨read, sound⟩
  have solid : threeForms.isBlank = false := by decide
  exact ⟨accepted, rfl, solid,
    ofYaml_references_iff accepted (by simp [Catalogue.shortcodes, Entry.shortcodes]) rfl solid⟩

/-- A shortcode that refers to a group which its pattern does not have, with a backslash. -/
def beyondGroups : Shortcode := ⟨"(a)", "\\2", true⟩

def beyondGroupsText : String := "shortcodes: [[(a), \\2, true]]"

/-- It is accepted nevertheless. -/
theorem backslash_reference_unchecked :
    ofYaml beyondGroupsText = .ok ⟨[.record beyondGroups]⟩ ∧ beyondGroups.raw = true ∧
      beyondGroups.isBlank = false ∧
      .numbered 2 ∈ expansionPieces (expansion beyondGroups.replacement) ∧
      ∃ regex, Regex.compile beyondGroups.pattern = .ok regex ∧ regex.groupCount = 1 := by
  have read : (Yaml.document? beyondGroupsText).bind ofDocument? =
      some ⟨[.record beyondGroups]⟩ := by decide +kernel
  have sound : Catalogue.problems ⟨[.record beyondGroups]⟩ = [] := by decide +kernel
  exact ⟨ofYaml_eq_ok_iff.mpr ⟨read, sound⟩, rfl, by decide, by decide, _, rfl, rfl⟩

end Catalogue

end ShortcodeExpansion
