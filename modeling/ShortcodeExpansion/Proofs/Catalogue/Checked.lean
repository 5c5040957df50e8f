import ShortcodeExpansion.Catalogue.Validation
import ShortcodeExpansion.Proofs.Stack.Addition
import ShortcodeExpansion.Proofs.Stack.Expansion

/-!
# What the check of a catalogue says about its use

The check of a catalogue compiles the patterns of its raw shortcodes as they are given, long before
rules are made of them.  It tells how the catalogue will do: one without problems expands every
text, also behind the built-in shortcodes, and if bad patterns are reported, every text is answered
with the first of them.  The check leaves templates out, so they have to compile by themselves.
-/

set_option autoImplicit false

namespace ShortcodeExpansion

open Template

namespace Shortcode

variable {s : Shortcode}

theorem badPattern_mem_problems_iff {pattern : String} {cause : Regex.BuildError} :
    .badPattern pattern cause ∈ s.problems ↔
      s.raw = true ∧ s.isBlank = false ∧ s.pattern = pattern ∧
        Regex.compile s.pattern = .error cause := by
  cases raw : s.raw with
  | false => simp [problems, raw]
  | true =>
      cases blank : s.isBlank with
      | true => simp [problems, blank]
      | false =>
          cases built : Regex.compile s.pattern <;> simp [problems, raw, blank, built, eq_comm]

/-- The rule of a raw shortcode fails just if the check reports its pattern, for the same cause. -/
theorem failure?_raw_eq_some_iff (raw : s.raw = true) {e : RuleError} :
    s.failure? = some e ↔ .badPattern e.pattern e.cause ∈ s.problems := by
  rw [badPattern_mem_problems_iff]
  cases blank : s.isBlank with
  | true => simp [failure?_of_blank blank]
  | false =>
      rw [failure?_of_solid blank, texts_of_raw raw, patternFailure?_eq_some_iff]
      simp [raw]

theorem failure?_eq_none_iff_builds :
    s.failure? = none ↔ ∀ rule, Rule.ofShortcode? s = some rule → rule.Builds := by
  cases made : Rule.ofShortcode? s <;> simp [failure?, made, Rule.builds_iff]

end Shortcode

namespace Catalogue

variable {c : Catalogue}

/-- The catalogue's templates compile. -/
def TemplatesBuild (c : Catalogue) : Prop :=
  ∀ s ∈ c.shortcodes, s.raw = false → ∀ rule, Rule.ofShortcode? s = some rule → rule.Builds

/-- Templates that are not very long compile. -/
theorem templatesBuild_of_length_le
    (short : ∀ s ∈ c.shortcodes, s.raw = false → s.pattern.length ≤ 10443) : c.TemplatesBuild :=
  fun s member wild => Shortcode.failure?_eq_none_iff_builds.mp
    ((Shortcode.failure?_eq_none_iff wild).mpr (patternFits_of_length_le (short s member wild)))

theorem builtIn_failure? : ∀ s ∈ builtIn.shortcodes, s.failure? = none := by
  have wild : ∀ s ∈ builtIn.shortcodes, s.raw = false := by decide
  have builds : builtIn.TemplatesBuild := templatesBuild_of_length_le (by decide)
  exact fun s member =>
    Shortcode.failure?_eq_none_iff_builds.mpr (builds s member (wild s member))

/-- If the templates compile, a shortcode fails just if the check reports its pattern. -/
theorem TemplatesBuild.failure?_eq_some_iff (templates : c.TemplatesBuild) {s : Shortcode}
    (member : s ∈ c.shortcodes) {e : RuleError} :
    s.failure? = some e ↔ .badPattern e.pattern e.cause ∈ s.problems := by
  cases raw : s.raw with
  | true => exact Shortcode.failure?_raw_eq_some_iff raw
  | false =>
      have none := Shortcode.failure?_eq_none_iff_builds.mpr (templates s member raw)
      simp [none, Shortcode.badPattern_mem_problems_iff, raw]

theorem TemplatesBuild.failure?_eq_none_iff (templates : c.TemplatesBuild) {s : Shortcode}
    (member : s ∈ c.shortcodes) :
    s.failure? = none ↔ ∀ pattern cause, .badPattern pattern cause ∉ s.problems := by
  rw [Option.eq_none_iff_forall_ne_some]
  constructor
  · intro none pattern cause reported
    exact none ⟨pattern, cause⟩ ((templates.failure?_eq_some_iff member).mpr reported)
  · intro clean e failed
    exact clean e.pattern e.cause ((templates.failure?_eq_some_iff member).mp failed)

theorem problems_of_mem (accepted : c.problems = []) {s : Shortcode} (member : s ∈ c.shortcodes) :
    s.problems = [] :=
  List.flatMap_eq_nil_iff.mp accepted s member

/-- A catalogue whose templates compile expands every text if the check accepts it, alone and behind
the built-in shortcodes; if the check reports a bad pattern, every text is answered with the first
bad pattern. -/
theorem expand_of_checked (templates : c.TemplatesBuild) :
    (c.problems = [] → ∀ text, (∃ result, c.expand text = .ok result) ∧
      ∃ result, (builtIn.merge (some c)).expand text = .ok result) ∧
    ∀ pattern cause, .badPattern pattern cause ∈ c.problems →
      ∃ before s after first, c.shortcodes = before ++ s :: after ∧
        (∀ earlier ∈ before, ∀ pattern cause, .badPattern pattern cause ∉ earlier.problems) ∧
        .badPattern s.pattern first ∈ s.problems ∧
        ∀ text, c.expand text = .error ⟨s.pattern, first⟩ := by
  constructor
  · intro accepted text
    have own : ∀ s ∈ c.shortcodes, s.failure? = none := fun s member =>
      (templates.failure?_eq_none_iff member).mpr (by simp [problems_of_mem accepted member])
    refine ⟨Stack.exists_expand_ofShortcodes_iff.mpr own,
      Stack.exists_expand_ofShortcodes_iff.mpr fun s member => ?_⟩
    rw [shortcodes_merge, List.mem_append] at member
    exact member.elim (builtIn_failure? s) (own s)
  · intro pattern cause reported
    obtain ⟨bad, listed, here⟩ := List.mem_flatMap.mp reported
    have failed : bad.failure? = some ⟨pattern, cause⟩ :=
      (templates.failure?_eq_some_iff listed).mpr here
    have some : (c.shortcodes.findSome? Shortcode.failure?).isSome = true :=
      List.findSome?_isSome_iff.mpr ⟨bad, listed, by simp [failed]⟩
    obtain ⟨e, first⟩ := Option.isSome_iff_exists.mp some
    obtain ⟨before, s, after, split, fails, clean⟩ := List.findSome?_eq_some_iff.mp first
    have member : s ∈ c.shortcodes := by simp [split]
    have named := (templates.failure?_eq_some_iff member).mp fails
    have pattern : s.pattern = e.pattern :=
      (Shortcode.badPattern_mem_problems_iff.mp named).2.2.1
    refine ⟨before, s, after, e.cause, split, fun earlier old => ?_, pattern ▸ named,
      fun text => ?_⟩
    · have listed : earlier ∈ c.shortcodes := by simp [split, old]
      exact (templates.failure?_eq_none_iff listed).mp (clean earlier old)
    · rw [pattern]
      exact Stack.expand_ofShortcodes_eq_error_iff.mpr first

/-- A template, a blank shortcode, and a raw one with a pattern that compiles. -/
def soundCatalogue : Catalogue :=
  ⟨[.pattern "[*]", .record ⟨" ", "x", true⟩, .record ⟨"(a)+", "<$1>", true⟩]⟩

/-- A template and two raw shortcodes with bad patterns. -/
def brokenCatalogue : Catalogue :=
  ⟨[.pattern "[*]", .record ⟨"(b", "x", true⟩, .record ⟨"c)", "y", true⟩]⟩

theorem expand_of_checked_pair :
    soundCatalogue.TemplatesBuild ∧ brokenCatalogue.TemplatesBuild ∧
      soundCatalogue.problems = [] ∧
      (∃ result, soundCatalogue.expand "[b]aa" = .ok result) ∧
      (∃ result, (builtIn.merge (some soundCatalogue)).expand "[b]aa" = .ok result) ∧
      ∃ cause, .badPattern "c)" cause ∈ brokenCatalogue.problems ∧
        ∃ before s after first, brokenCatalogue.shortcodes = before ++ s :: after ∧
          (∀ earlier ∈ before, ∀ pattern cause, .badPattern pattern cause ∉ earlier.problems) ∧
          .badPattern s.pattern first ∈ s.problems ∧
          ∀ text, brokenCatalogue.expand text = .error ⟨s.pattern, first⟩ := by
  have sound : soundCatalogue.TemplatesBuild := templatesBuild_of_length_le (by decide)
  have broken : brokenCatalogue.TemplatesBuild := templatesBuild_of_length_le (by decide)
  have accepted : soundCatalogue.problems = [] := by decide +kernel
  have refused : ∃ cause, .badPattern "c)" cause ∈ Shortcode.problems ⟨"c)", "y", true⟩ :=
    ⟨_, List.mem_singleton_self _⟩
  obtain ⟨cause, reported⟩ := refused
  have listed : .badPattern "c)" cause ∈ brokenCatalogue.problems :=
    List.mem_flatMap.mpr ⟨⟨"c)", "y", true⟩, by decide, reported⟩
  obtain ⟨expands, merged⟩ := (expand_of_checked sound).1 accepted "[b]aa"
  exact ⟨sound, broken, accepted, expands, merged, cause, listed,
    (expand_of_checked broken).2 "c)" cause listed⟩

end Catalogue

end ShortcodeExpansion
