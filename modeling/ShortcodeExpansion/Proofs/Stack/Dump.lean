import ShortcodeExpansion.Catalogue.Json
import ShortcodeExpansion.Proofs.CommandLine.Stages
import ShortcodeExpansion.Proofs.Json.RoundTrip
import ShortcodeExpansion.Proofs.Results
import ShortcodeExpansion.Proofs.Stack.Tried

/-!
# Stacks written out and read again

The rules of a stack are printed as a list of objects with two texts each.  The rules were compiled
before, so that read again they make raw shortcodes.  These make the same stack: none of them is
blank, and no two of them have the same texts.
-/

set_option autoImplicit false

namespace ShortcodeExpansion

open CommandLine (FileReader RulesOptions rulesJson ruleJson)

/-- A rule as a raw shortcode. -/
def Rule.asShortcode (rule : Rule) : Shortcode := ⟨rule.pattern, rule.replacement, true⟩

namespace Stack

/-- What is printed for a stack when its rules are asked for as JSON. -/
def dump (s : Stack) : String := (rulesJson s).pretty ++ "\n"

/-- The shortcodes that a dump lists; each is raw. -/
def dumped? (text : String) : Option (List Shortcode) := do
  let .array items ← Json.read? text | none
  let shortcodes ← items.mapM fun item => (Shortcode.ofJson item).toOption
  some (shortcodes.map fun shortcode => { shortcode with raw := true })

end Stack

/-! ## Reading a dump -/

theorem plain_ruleJson (rule : Rule) : (ruleJson rule).Plain := by
  refine .object ?_ ?_
  · have before : "pattern" < "replacement" := by decide
    exact List.pairwise_pair.mpr before
  · simp [Json.Plain.string]

namespace Stack

theorem plain_rulesJson (s : Stack) : (rulesJson s).Plain := by
  refine .array fun item listed => ?_
  obtain ⟨rule, -, rfl⟩ := List.mem_map.mp listed
  exact plain_ruleJson rule

theorem dumped?_dump (s : Stack) : dumped? s.dump = some (s.rules.map Rule.asShortcode) := by
  have reads : Json.read? s.dump = some (.array (s.rules.map ruleJson)) :=
    s.plain_rulesJson.read?_pretty (by simp [Json.isSpace])
  have each : (s.rules.map ruleJson).mapM (fun item => (Shortcode.ofJson item).toOption) =
      some (s.rules.map fun rule => ⟨rule.pattern, rule.replacement, false⟩) := by
    rw [mapM_eq_some_iff, List.map_map, List.map_map]
    rfl
  simp [dumped?, reads, each, Rule.asShortcode, Function.comp_def]

end Stack

/-! ## Making the stack again -/

theorem isBlankText_patternSource (template : String) :
    isBlankText (Template.patternSource template false) = false := by
  have solid : isBlankChar '(' = false := by decide
  simp [isBlankText, Template.patternSource, Template.patternFlags, solid]

/-- The pattern of a rule is never blank, raw or not. -/
theorem Shortcode.solid_texts {s : Shortcode} (solid : s.isBlank = false) :
    isBlankText s.texts.1 = false := by
  cases raw : s.raw with
  | true => simpa [texts_of_raw raw, isBlank] using solid
  | false => simpa [texts_of_wildcard raw] using isBlankText_patternSource s.pattern

namespace Stack

/-- Every rule of a stack was made by a shortcode, so its pattern is not blank. -/
theorem Holds.solid {s : Stack} {given : List Shortcode} (holds : s.Holds given) :
    ∀ rule ∈ s.rules, isBlankText rule.pattern = false := by
  intro rule member
  have listed : rule.texts ∈ ruleTexts given := by
    rw [← List.mem_eraseDups, ← holds]
    exact List.mem_map_of_mem member
  obtain ⟨shortcode, -, solid, same⟩ := mem_ruleTexts_iff.mp listed
  have pattern : shortcode.texts.1 = rule.pattern := congrArg Prod.fst same
  rw [← pattern]
  exact Shortcode.solid_texts solid

theorem ruleTexts_asShortcode {rules : List Rule}
    (solid : ∀ rule ∈ rules, isBlankText rule.pattern = false) :
    ruleTexts (rules.map Rule.asShortcode) = rules.map Rule.texts := by
  have kept : (rules.map Rule.asShortcode).filter (fun s => !s.isBlank) =
      rules.map Rule.asShortcode := by
    refine List.filter_eq_self.mpr fun s member => ?_
    obtain ⟨rule, listed, rfl⟩ := List.mem_map.mp member
    simpa [Rule.asShortcode, Shortcode.isBlank] using solid rule listed
  rw [ruleTexts, kept, List.map_map]
  rfl

/-- Each rule of a stack makes itself again, behind those before it. -/
theorem Holds.texts_take_asShortcode {s : Stack} {given : List Shortcode} (holds : s.Holds given)
    (count : Nat) : (ofShortcodes ((s.rules.map Rule.asShortcode).take count)).texts =
      s.texts.take count := by
  have solid : ∀ rule ∈ s.rules.take count, isBlankText rule.pattern = false :=
    fun rule member => holds.solid rule (List.mem_of_mem_take member)
  have distinct : (s.texts.take count).Nodup := holds.nodup.sublist (List.take_sublist count _)
  rw [texts, ← List.map_take] at distinct
  rw [← List.map_take, holds_ofShortcodes, ruleTexts_asShortcode solid,
    eraseDups_of_nodup distinct, texts, List.map_take]

/-- What comes of a stack whose rules are printed and read again as raw shortcodes. -/
structure Reloads (s : Stack) (given : List Shortcode) : Prop where
  printed : ∀ (options : RulesOptions) (read : FileReader), options.json = true →
    (options.source.stack read).result = .ok s → (options.run read).result = .ok { text := s.dump }
  read : dumped? s.dump = some given
  raw : ∀ shortcode ∈ given, shortcode.raw = true
  length : given.length = s.size
  /-- However many of them have been added, each has made its rule. -/
  added : ∀ count, (ofShortcodes (given.take count)).texts = s.texts.take count
  same : (ofShortcodes given).same s = true
  expand : ∀ text, (ofShortcodes given).expand text = s.expand text

end Stack

/-- Any stack that a session makes is printed so that it can be read again. -/
theorem Session.run_reloads (steps : List Step) (name : String) :
    ∃ given, (run steps name).Reloads given := by
  have added := (run_holds steps name).texts_take_asShortcode
  have whole := added (run steps name).size
  rw [List.take_of_length_le (by simp [Stack.size]),
    List.take_of_length_le (by simp [Stack.texts, Stack.size])] at whole
  refine ⟨(run steps name).rules.map Rule.asShortcode, ?_, Stack.dumped?_dump _, ?_, ?_, added,
    ?_, ?_⟩
  · intro options read json built
    rw [RulesOptions.result_run, built, json]
    rfl
  · simp [Rule.asShortcode]
  · simp [Stack.size]
  · exact Stack.same_iff.mpr whole
  · intro text
    exact Stack.expand_of_texts (Stack.orderly_ofShortcodes _) (run_orderly steps name) whole

end ShortcodeExpansion
