import ShortcodeExpansion.Proofs.Catalogue.Mapping
import ShortcodeExpansion.Session

/-!
# Stacks and their history

Named stacks are made, filled, emptied, used and copied in any order.  What rules a stack holds
depends on one thing only: the shortcodes it was given since it was last made, set or flushed, in
the order in which they were given.  Each makes its rule unless it is blank, and of rules with the
same texts the first is kept.
-/

set_option autoImplicit false

namespace ShortcodeExpansion

/-- The texts that tell rules apart. -/
def Rule.texts (rule : Rule) : String × String := (rule.pattern, rule.replacement)

theorem Rule.same_iff {a b : Rule} : a.same b = true ↔ a.texts = b.texts := by
  simp [Rule.same, Rule.texts]

/-- The texts of the rules that shortcodes make: those of the shortcodes that are not blank. -/
def ruleTexts (shortcodes : List Shortcode) : List (String × String) :=
  (shortcodes.filter fun s => !s.isBlank).map Shortcode.texts

theorem map_texts_ofShortcode? (shortcodes : List Shortcode) :
    (shortcodes.filterMap Rule.ofShortcode?).map Rule.texts = ruleTexts shortcodes := by
  induction shortcodes with
  | nil => rfl
  | cons s rest ih =>
      rw [ruleTexts] at ih ⊢
      cases blank : s.isBlank with
      | true => simpa [Rule.ofShortcode?_of_blank blank, blank] using ih
      | false =>
          simpa [Rule.ofShortcode?_of_solid blank, blank, Shortcode.rule, Rule.texts] using ih

theorem mem_ruleTexts_iff {texts : String × String} {given : List Shortcode} :
    texts ∈ ruleTexts given ↔
      ∃ earlier ∈ given, earlier.isBlank = false ∧ earlier.texts = texts := by
  simp [ruleTexts, and_assoc]

/-- A value put at the end is kept if it is new. -/
theorem eraseDups_concat {α : Type} [BEq α] [LawfulBEq α] (values : List α) (value : α) :
    (values ++ [value]).eraseDups =
      if value ∈ values then values.eraseDups else values.eraseDups ++ [value] := by
  rw [List.eraseDups_append]
  by_cases present : value ∈ values
  · simp [List.removeAll, present]
  · simp [List.removeAll, present, List.eraseDups_cons]

theorem nodup_eraseDups {α : Type} [BEq α] [LawfulBEq α] (values : List α) :
    values.eraseDups.Nodup := by
  induction values using List.reverseRecOn with
  | nil => simp
  | append_singleton values value ih =>
      rw [eraseDups_concat]
      split
      · exact ih
      · rename_i absent
        refine List.nodup_append.mpr ⟨ih, by simp, fun a old b new same => absent ?_⟩
        rw [List.mem_singleton.mp new] at same
        exact same ▸ List.mem_eraseDups.mp old

theorem eraseDups_of_nodup {α : Type} [BEq α] [LawfulBEq α] {values : List α}
    (distinct : values.Nodup) : values.eraseDups = values := by
  induction values using List.reverseRecOn with
  | nil => simp
  | append_singleton values value ih =>
      obtain ⟨earlier, -, apart⟩ := List.nodup_append.mp distinct
      have new : value ∉ values := fun old => apart value old value (by simp) rfl
      rw [eraseDups_concat, if_neg new, ih earlier]

namespace Stack

/-- The texts of a stack's rules. -/
def texts (s : Stack) : List (String × String) := s.rules.map Rule.texts

theorem contains_iff {s : Stack} {rule : Rule} : s.contains rule = true ↔ rule.texts ∈ s.texts := by
  simp only [Stack.contains, Stack.texts, List.any_eq_true, List.mem_map, Rule.same_iff]
  exact exists_congr fun other => and_congr_right fun _ => eq_comm

section AddShortcode

variable {shortcode : Shortcode}

theorem addShortcode_of_blank (blank : Rule.ofShortcode? shortcode = none) (s : Stack) :
    s.addShortcode shortcode = s := by
  simp [addShortcode, blank]

theorem rules_addShortcode {rule : Rule} (made : Rule.ofShortcode? shortcode = some rule)
    (s : Stack) :
    (s.addShortcode shortcode).rules =
      if s.contains rule then s.rules else s.rules ++ [rule] := by
  simp only [addShortcode, made]
  split <;> rfl

/-- A shortcode adds nothing, or one new rule. -/
theorem addShortcode_cases (s : Stack) (shortcode : Shortcode) :
    s.addShortcode shortcode = s ∨ ∃ rule, Rule.ofShortcode? shortcode = some rule ∧
      s.contains rule = false ∧ (s.addShortcode shortcode).rules = s.rules ++ [rule] := by
  cases made : Rule.ofShortcode? shortcode with
  | none => exact .inl (addShortcode_of_blank made s)
  | some rule =>
      have rules := rules_addShortcode made s
      cases known : s.contains rule with
      | true => exact .inl (by simp [addShortcode, made, known])
      | false => exact .inr ⟨rule, rfl, known, by simpa [known] using rules⟩

end AddShortcode

/-- Shortcodes whose rules a stack has leave it as it is. -/
theorem add_of_known (s : Stack) (shortcodes : List Shortcode)
    (known : ∀ shortcode ∈ shortcodes, ∀ rule, Rule.ofShortcode? shortcode = some rule →
      s.contains rule = true) : s.add shortcodes = s := by
  induction shortcodes with
  | nil => rfl
  | cons shortcode rest ih =>
      have here : s.addShortcode shortcode = s := by
        rcases s.addShortcode_cases shortcode with same | ⟨rule, made, new, _⟩
        · exact same
        · exact absurd (known shortcode List.mem_cons_self rule made) (by simp [new])
      rw [add, List.foldl_cons, here]
      exact ih fun other member => known other (List.mem_cons_of_mem shortcode member)

/-! ## One stack -/

/-- A stack holds the rules of the shortcodes it was given. -/
def Holds (s : Stack) (given : List Shortcode) : Prop := s.texts = (ruleTexts given).eraseDups

theorem Holds.addShortcode {s : Stack} {given : List Shortcode} (holds : s.Holds given)
    (shortcode : Shortcode) : (s.addShortcode shortcode).Holds (given ++ [shortcode]) := by
  cases made : Rule.ofShortcode? shortcode with
  | none =>
      have same : ruleTexts (given ++ [shortcode]) = ruleTexts given := by
        simp [← map_texts_ofShortcode?, made]
      rw [Holds, same, addShortcode_of_blank made]
      exact holds
  | some rule =>
      have one : ruleTexts (given ++ [shortcode]) = ruleTexts given ++ [rule.texts] := by
        simp [← map_texts_ofShortcode?, made]
      have known : s.contains rule = true ↔ rule.texts ∈ ruleTexts given := by
        rw [contains_iff, holds, List.mem_eraseDups]
      rw [Holds, one, eraseDups_concat, texts, rules_addShortcode made]
      by_cases present : rule.texts ∈ ruleTexts given
      · rw [if_pos (known.mpr present), if_pos present]
        exact holds
      · rw [if_neg (known.not.mpr present), if_neg present, ← holds]
        simp [texts]

theorem Holds.add (shortcodes : List Shortcode) :
    ∀ {s : Stack} {given : List Shortcode}, s.Holds given →
      (s.add shortcodes).Holds (given ++ shortcodes) := by
  induction shortcodes with
  | nil => intro s given holds; simpa [Stack.add] using holds
  | cons shortcode shortcodes ih =>
      intro s given holds
      have later := ih (holds.addShortcode shortcode)
      rwa [List.append_assoc] at later

theorem holds_empty : Holds {} [] := rfl

theorem holds_ofShortcodes (shortcodes : List Shortcode) :
    (ofShortcodes shortcodes).Holds shortcodes :=
  holds_empty.add shortcodes

/-- An expansion leaves the texts of rules as they are. -/
theorem texts_expandWith (rules : List Rule) (text : String) :
    (expandWith rules text).2.map Rule.texts = rules.map Rule.texts := by
  induction rules generalizing text with
  | nil => rfl
  | cons rule rest ih =>
      cases found : rule.regex with
      | ok regex =>
          rw [expandWith_of_ok found, List.map_cons, List.map_cons, ih]
          rfl
      | error cause =>
          rw [expandWith_of_error found]
          rfl

theorem texts_afterExpand (s : Stack) {text : String} : (s.afterExpand text).texts = s.texts :=
  texts_expandWith s.rules text

theorem Holds.afterExpand {s : Stack} {given : List Shortcode} (holds : s.Holds given)
    {text : String} : (s.afterExpand text).Holds given :=
  (texts_afterExpand s).trans holds

theorem Holds.nodup {s : Stack} {given : List Shortcode} (holds : s.Holds given) :
    s.texts.Nodup := by
  rw [holds]
  exact nodup_eraseDups _

theorem Holds.distinct {s : Stack} {given : List Shortcode} (holds : s.Holds given) :
    s.rules.Pairwise fun a b => a.same b = false := by
  refine (List.pairwise_map.mp holds.nodup).imp fun different => ?_
  rw [← Bool.not_eq_true, Rule.same_iff]
  exact different

end Stack

namespace Session

/-! ## Named stacks -/

/-- The shortcodes given to a stack since it was last made, set or flushed, after an operation. -/
def Operation.given (histories : String → List Shortcode) (before : List Shortcode) :
    Operation → List Shortcode
  | .new => []
  | .make given => given.list
  | .makeFrom catalogue => catalogue.shortcodes
  | .add given => before ++ given.list
  | .set given => given.list
  | .flush => []
  | .parse _ => before
  | .clone source => histories source
  | .same _ => before

/-- The histories of the stacks after a step. -/
def Step.record (histories : String → List Shortcode) (step : Step) : String → List Shortcode :=
  let after := step.operation.given histories (histories step.name)
  fun name => if name = step.name then after else histories name

/-- The histories of the stacks after steps. -/
def histories (steps : List Step) : String → List Shortcode := steps.foldl Step.record fun _ => []

/-- An operation leaves a stack that holds what it was given. -/
theorem Operation.holds {named : String → Stack} {histories : String → List Shortcode}
    (holds : ∀ name, (named name).Holds (histories name)) {s : Stack} {before : List Shortcode}
    (here : s.Holds before) (operation : Operation) :
    (operation.result named s).Holds (operation.given histories before) := by
  cases operation with
  | new => exact Stack.holds_empty
  | make given => exact Stack.holds_ofShortcodes given.list
  | makeFrom catalogue => exact Stack.holds_ofShortcodes catalogue.shortcodes
  | add given => exact here.add given.list
  | set given => exact Stack.holds_ofShortcodes given.list
  | flush => exact Stack.holds_empty
  | parse text => exact here.afterExpand
  | clone source => exact holds source
  | same other => exact here

/-- A step leaves every stack holding what it was given. -/
theorem Step.holds {named : String → Stack} {histories : String → List Shortcode}
    (holds : ∀ name, (named name).Holds (histories name)) (step : Step) (name : String) :
    (step.apply named name).Holds (step.record histories name) := by
  unfold Step.apply Step.record
  by_cases here : name = step.name
  · simp only [if_pos here]
    exact step.operation.holds holds (holds step.name)
  · simp only [if_neg here]
    exact holds name

theorem run_concat (steps : List Step) (step : Step) :
    run (steps ++ [step]) = step.apply (run steps) := by simp [run]

theorem histories_concat (steps : List Step) (step : Step) :
    histories (steps ++ [step]) = step.record (histories steps) := by simp [histories]

theorem run_holds (steps : List Step) (name : String) :
    (run steps name).Holds (histories steps name) := by
  induction steps using List.reverseRecOn generalizing name with
  | nil => exact Stack.holds_empty
  | append_singleton steps step ih =>
      rw [run_concat, histories_concat]
      exact step.holds ih name

end Session

end ShortcodeExpansion
