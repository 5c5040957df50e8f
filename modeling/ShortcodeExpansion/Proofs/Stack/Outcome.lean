import ShortcodeExpansion.Proofs.Stack.Matchers

/-!
# How an expansion ends

How an expansion ends depends on the rules of the stack alone, and on their texts alone.  If the
patterns of all rules compile, the result is what the rules make of the text one after the other.
If not, the first pattern that does not compile is reported, whatever the text is, whatever was
expanded before and however often.
-/

set_option autoImplicit false

namespace ShortcodeExpansion

/-- The error of a pattern that does not compile. -/
def patternFailure? (pattern : String) : Option RuleError :=
  match Regex.compile pattern with
  | .ok _ => none
  | .error cause => some ⟨pattern, cause⟩

theorem patternFailure?_eq_some_iff {pattern : String} {e : RuleError} :
    patternFailure? pattern = some e ↔
      pattern = e.pattern ∧ Regex.compile pattern = .error e.cause := by
  obtain ⟨named, cause⟩ := e
  cases built : Regex.compile pattern <;> simp [patternFailure?, built]

namespace Rule

variable {rule : Rule}

theorem builds_iff : rule.Builds ↔ patternFailure? rule.pattern = none := by
  cases built : Regex.compile rule.pattern <;> simp [Builds, patternFailure?, built]

/-- What a rule makes of a text; one whose pattern does not compile makes nothing of it. -/
def rewrite (rule : Rule) (text : String) : String :=
  match Regex.compile rule.pattern with
  | .ok regex => (applyRegex regex rule.replacement text).text
  | .error _ => text

theorem Faithful.apply (faithful : rule.Faithful) (builds : rule.Builds) (text : String) :
    ∃ applied, rule.apply text = .ok applied ∧ applied.text = rule.rewrite text := by
  obtain ⟨regex, built⟩ := builds
  refine ⟨applyRegex regex rule.replacement text, ?_, ?_⟩
  · rw [Rule.apply, faithful, built]
    rfl
  · rw [rewrite, built]

end Rule

/-- What rules make of a text, one after the other. -/
def rewriteAll (rules : List Rule) (text : String) : String :=
  rules.foldl (fun made rule => rule.rewrite made) text

theorem rewriteAll_eq_foldl_texts (rules : List Rule) (text : String) :
    rewriteAll rules text = (rules.map Rule.texts).foldl
      (fun made texts => Rule.rewrite ⟨texts.1, texts.2, .untried⟩ made) text := by
  rw [List.foldl_map]
  rfl

/-- The error of the first rule whose pattern does not compile. -/
def firstFailure? (rules : List Rule) : Option RuleError :=
  rules.findSome? fun rule => patternFailure? rule.pattern

section FirstFailure

variable {rules : List Rule}

theorem firstFailure?_eq_none_iff : firstFailure? rules = none ↔ ∀ rule ∈ rules, rule.Builds := by
  rw [firstFailure?, List.findSome?_eq_none_iff]
  exact forall₂_congr fun rule _ => Rule.builds_iff.symm

theorem firstFailure?_eq_some_iff {e : RuleError} :
    firstFailure? rules = some e ↔ ∃ before rule after, rules = before ++ rule :: after ∧
      (∀ earlier ∈ before, earlier.Builds) ∧
        rule.pattern = e.pattern ∧ Regex.compile rule.pattern = .error e.cause := by
  rw [firstFailure?, List.findSome?_eq_some_iff]
  refine exists₃_congr fun before rule after => and_congr_right fun _ => ?_
  rw [patternFailure?_eq_some_iff, and_comm]
  exact and_congr_left fun _ => forall₂_congr fun earlier _ => Rule.builds_iff.symm

theorem firstFailure?_eq_findSome?_texts (rules : List Rule) :
    firstFailure? rules =
      (rules.map Rule.texts).findSome? fun texts => patternFailure? texts.1 := by
  rw [List.findSome?_map]
  rfl

end FirstFailure

namespace Stack

/-- An expansion by rules that keep what is right ends with the first failure, or with what the
rules make of the text. -/
theorem expandWith_result {rules : List Rule} (faithful : ∀ rule ∈ rules, rule.Faithful)
    (text : String) :
    (expandWith rules text).1 =
      match firstFailure? rules with
      | some e => .error e
      | none => .ok (rewriteAll rules text) := by
  -- The text changes from rule to rule, but no rule's pattern looks at it.
  induction rules generalizing text with
  | nil => rfl
  | cons rule rest ih =>
      have kept := faithful rule List.mem_cons_self
      have later := ih fun other member => faithful other (List.mem_cons_of_mem rule member)
      cases found : rule.regex with
      | ok regex =>
          have built : Regex.compile rule.pattern = .ok regex := kept.symm.trans found
          have passes : firstFailure? (rule :: rest) = firstFailure? rest := by
            simp [firstFailure?, patternFailure?, built]
          have made : rewriteAll (rule :: rest) text =
              rewriteAll rest (Rule.applyRegex regex rule.replacement text).text := by
            simp [rewriteAll, Rule.rewrite, built]
          rw [expandWith_of_ok found, passes, made]
          exact later _
      | error cause =>
          have failed : Regex.compile rule.pattern = .error cause := kept.symm.trans found
          have here : firstFailure? (rule :: rest) = some ⟨rule.pattern, cause⟩ := by
            simp [firstFailure?, patternFailure?, failed]
          rw [expandWith_of_error found, here]

section Expand

variable {s : Stack} {text : String}

theorem expand_eq_error_iff (orderly : Orderly s.rules) {e : RuleError} :
    s.expand text = .error e ↔ firstFailure? s.rules = some e := by
  rw [expand, expandWith_result orderly.faithful]
  cases firstFailure? s.rules <;> simp

theorem expand_eq_ok_iff (orderly : Orderly s.rules) {result : String} :
    s.expand text = .ok result ↔
      (∀ rule ∈ s.rules, rule.Builds) ∧ result = rewriteAll s.rules text := by
  rw [expand, expandWith_result orderly.faithful, ← firstFailure?_eq_none_iff]
  cases firstFailure? s.rules <;> simp [eq_comm]

/-- Stacks with the same texts expand alike. -/
theorem expand_of_texts {t : Stack} (orderly : Orderly s.rules) (other : Orderly t.rules)
    (same : s.texts = t.texts) : s.expand text = t.expand text := by
  have failures : firstFailure? s.rules = firstFailure? t.rules := by
    rw [firstFailure?_eq_findSome?_texts, firstFailure?_eq_findSome?_texts]
    exact congrArg _ same
  have results : rewriteAll s.rules text = rewriteAll t.rules text := by
    rw [rewriteAll_eq_foldl_texts, rewriteAll_eq_foldl_texts]
    exact congrArg _ same
  rw [expand, expand, expandWith_result orderly.faithful, expandWith_result other.faithful,
    failures, results]

end Expand

end Stack

namespace Session

/-- Operations that leave the rules of their stack where they are. -/
def Operation.Keeps : Operation → Prop
  | .add _ | .parse _ | .same _ => True
  | .new | .make _ | .makeFrom _ | .set _ | .flush | .clone _ => False

/-- Rules stay in front as long as nothing takes them away. -/
theorem texts_isPrefix_run (steps : List Step) (name : String) (later : List Step)
    (keeps : ∀ step ∈ later, step.name = name → step.operation.Keeps) :
    (run steps name).texts <+: (run (steps ++ later) name).texts := by
  induction later using List.reverseRecOn with
  | nil => simp
  | append_singleton later step ih =>
      have before := ih fun other member => keeps other (List.mem_append_left [step] member)
      refine before.trans ?_
      rw [← List.append_assoc, run_concat]
      by_cases here : step.name = name
      · have kept := keeps step (by simp) here
        rw [← here, Step.apply_here]
        cases operation : step.operation with
        | add given =>
            rw [Operation.result, Stack.texts, Stack.texts, Stack.rules_add, List.map_append]
            exact List.prefix_append _ _
        | parse text => simp [Operation.result, Stack.texts_afterExpand]
        | same other => exact List.prefix_rfl
        | new | make | makeFrom | set | flush | clone => simp [operation, Operation.Keeps] at kept
      · simp [Step.apply_elsewhere _ _ (Ne.symm here)]

/-- What settles the expansion of texts by a stack after a run. -/
structure Determined (steps : List Step) (name : String) : Prop where
  fails : ∀ text, (∃ e, (run steps name).expand text = .error e) ↔
    ∃ rule ∈ (run steps name).rules, ¬ rule.Builds
  /-- The error is that of the first rule whose pattern does not compile. -/
  first : ∀ text e, (run steps name).expand text = .error e ↔
    ∃ before rule after, (run steps name).rules = before ++ rule :: after ∧
      (∀ earlier ∈ before, earlier.Builds) ∧
        rule.pattern = e.pattern ∧ Regex.compile rule.pattern = .error e.cause
  /-- The same error comes for every text from then on, unless the rules are taken away. -/
  again : ∀ text e, (run steps name).expand text = .error e → ∀ later : List Step,
    (∀ step ∈ later, step.name = name → step.operation.Keeps) →
      ∀ other, (run (steps ++ later) name).expand other = .error e
  /-- There is a result only if every pattern compiles, and it is the work of all rules. -/
  result : ∀ text result, (run steps name).expand text = .ok result ↔
    (∀ rule ∈ (run steps name).rules, rule.Builds) ∧
      result = rewriteAll (run steps name).rules text
  applied : ∀ rule ∈ (run steps name).rules, rule.Builds → ∀ text, ∃ applied,
    rule.apply text = .ok applied ∧ applied.text = rule.rewrite text
  unchanged : ∀ text, (run (steps ++ [⟨name, .parse text⟩]) name).texts = (run steps name).texts

/-- Whether and how an expansion fails is settled by the stack, not by the text, nor by what was
expanded before. -/
theorem run_determined (steps : List Step) (name : String) : Determined steps name where
  fails text := by
    have orderly := run_orderly steps name
    constructor
    · rintro ⟨e, failed⟩
      obtain ⟨before, rule, after, split, _, _, cause⟩ :=
        firstFailure?_eq_some_iff.mp ((Stack.expand_eq_error_iff orderly).mp failed)
      refine ⟨rule, by simp [split], ?_⟩
      rintro ⟨regex, built⟩
      exact absurd (built.symm.trans cause) (by simp)
    · rintro ⟨rule, member, broken⟩
      cases done : (run steps name).expand text with
      | error e => exact ⟨e, rfl⟩
      | ok result => exact absurd (((Stack.expand_eq_ok_iff orderly).mp done).1 rule member) broken
  first text e := by
    rw [Stack.expand_eq_error_iff (run_orderly steps name), firstFailure?_eq_some_iff]
  again text e failed later keeps other := by
    have first := (Stack.expand_eq_error_iff (run_orderly steps name)).mp failed
    rw [Stack.expand_eq_error_iff (run_orderly (steps ++ later) name)]
    rw [firstFailure?_eq_findSome?_texts] at first ⊢
    exact (texts_isPrefix_run steps name later keeps).findSome?_eq_some first
  result text result := Stack.expand_eq_ok_iff (run_orderly steps name)
  applied rule member builds text :=
    ((run_orderly steps name).faithful rule member).apply builds text
  unchanged text := by
    rw [run_concat, Step.apply_here _ ⟨name, .parse text⟩]
    exact Stack.texts_afterExpand _

end Session

end ShortcodeExpansion
