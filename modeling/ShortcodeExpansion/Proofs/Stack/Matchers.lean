import ShortcodeExpansion.Proofs.Stack.Addition

/-!
# What a stack keeps of its patterns

A rule keeps what came of the compiling of its pattern.  However named stacks are made, filled,
emptied, used, copied and compared, what is kept is what compiling would give again, and the rules
that have been tried come first, all but the last of them with patterns that compile.  So what is
kept never shows in what a stack does.
-/

set_option autoImplicit false

namespace ShortcodeExpansion

namespace Rule

/-- The pattern of the rule compiles. -/
def Builds (rule : Rule) : Prop := ∃ regex, Regex.compile rule.pattern = .ok regex

/-- What is kept of the rule's pattern, if anything is, is what compiling it gives. -/
def Faithful (rule : Rule) : Prop := rule.regex = Regex.compile rule.pattern

variable {rule : Rule}

theorem faithful_of_untried (untried : rule.matcher = .untried) : rule.Faithful := by
  rw [Faithful, regex, untried]
  rfl

theorem compiled_of_untried (untried : rule.matcher = .untried) : rule.compiled = false := by
  simp [compiled, untried]

theorem Faithful.markCompiled (faithful : rule.Faithful) : rule.markCompiled.Faithful :=
  rule.regex_markCompiled.trans faithful

theorem Faithful.builds_iff (faithful : rule.Faithful) :
    rule.Builds ↔ ∃ regex, rule.regex = .ok regex := by
  rw [Builds, faithful]

end Rule

/-- Rules in the order in which they are tried: nothing is kept but what compiling gives, and before
a rule that has been tried there are only such that have been tried and compile. -/
structure Orderly (rules : List Rule) : Prop where
  faithful : ∀ rule ∈ rules, rule.Faithful
  tried : rules.Pairwise fun earlier later =>
    later.compiled = true → earlier.compiled = true ∧ earlier.Builds

namespace Orderly

variable {rule : Rule} {rules : List Rule}

theorem nil : Orderly [] := ⟨by simp, .nil⟩

theorem tail (orderly : Orderly (rule :: rules)) : Orderly rules :=
  ⟨fun other member => orderly.faithful other (List.mem_cons_of_mem rule member),
    (List.pairwise_cons.mp orderly.tried).2⟩

theorem head (orderly : Orderly (rule :: rules)) :
    ∀ later ∈ rules, later.compiled = true → rule.compiled = true ∧ rule.Builds :=
  (List.pairwise_cons.mp orderly.tried).1

/-- Rules that were not tried come last. -/
theorem append_untried (orderly : Orderly rules) {added : List Rule}
    (untried : ∀ rule ∈ added, rule.matcher = .untried) : Orderly (rules ++ added) where
  faithful other member := by
    rcases List.mem_append.mp member with old | new
    · exact orderly.faithful other old
    · exact Rule.faithful_of_untried (untried other new)
  tried := by
    have never : ∀ later ∈ added, ¬ later.compiled = true := fun later new => by
      simp [Rule.compiled_of_untried (untried later new)]
    refine List.pairwise_append.mpr ⟨orderly.tried, ?_, ?_⟩
    · exact List.pairwise_of_forall_mem_list fun _ _ later new done =>
        absurd done (never later new)
    · exact fun _ _ later new done => absurd done (never later new)

/-- The first rule may be tried if none behind it was, or if its pattern compiles. -/
theorem cons_markCompiled (faithful : rule.Faithful) (orderly : Orderly rules)
    (first : ∀ later ∈ rules, later.compiled = true → rule.Builds) :
    Orderly (rule.markCompiled :: rules) where
  faithful other member := by
    rcases List.mem_cons.mp member with rfl | later
    · exact faithful.markCompiled
    · exact orderly.faithful other later
  tried := List.pairwise_cons.mpr ⟨fun later member done =>
    ⟨rule.compiled_markCompiled, first later member done⟩, orderly.tried⟩

/-- An expansion tries the rules in their order, and none after one that fails. -/
theorem expandWith (orderly : Orderly rules) (text : String) :
    Orderly (Stack.expandWith rules text).2 := by
  induction rules generalizing text with
  | nil => exact .nil
  | cons rule rest ih =>
      have faithful := orderly.faithful rule List.mem_cons_self
      cases found : rule.regex with
      | ok regex =>
          have builds : rule.Builds := faithful.builds_iff.mpr ⟨regex, found⟩
          rw [Stack.expandWith_of_ok found]
          exact cons_markCompiled faithful (ih orderly.tail _) fun _ _ _ => builds
      | error cause =>
          rw [Stack.expandWith_of_error found]
          exact cons_markCompiled faithful orderly.tail fun later member done =>
            (orderly.head later member done).2

end Orderly

theorem Stack.orderly_ofShortcodes (shortcodes : List Shortcode) :
    Orderly (ofShortcodes shortcodes).rules := by
  simpa using Orderly.nil.append_untried fun rule member => untried_of_mem_ofShortcodes member

namespace Session

/-- What holds of an empty stack, and is kept by the addition of a shortcode and by an expansion,
holds of every stack after a run. -/
theorem run_invariant (Kept : Stack → Prop) (empty : Kept {})
    (grown : ∀ s shortcode, Kept s → Kept (s.addShortcode shortcode))
    (used : ∀ s text, Kept s → Kept (s.afterExpand text)) (steps : List Step) (name : String) :
    Kept (run steps name) := by
  have added := Stack.add_invariant Kept grown
  induction steps using List.reverseRecOn generalizing name with
  | nil => exact empty
  | append_singleton steps step ih =>
      rw [run_concat]
      by_cases here : name = step.name
      · rw [here, Step.apply_here]
        cases step.operation with
        | new => exact empty
        | make given => exact added _ _ empty
        | makeFrom catalogue => exact added _ _ empty
        | add given => exact added _ _ (ih step.name)
        | set given => exact added _ _ empty
        | flush => exact empty
        | parse text => exact used _ text (ih step.name)
        | clone source => exact ih source
        | same other => exact ih step.name
      · rw [Step.apply_elsewhere _ _ here]
        exact ih name

theorem run_orderly (steps : List Step) (name : String) : Orderly (run steps name).rules := by
  refine run_invariant (fun s => Orderly s.rules) .nil ?_ ?_ steps name
  · intro s shortcode orderly
    rcases s.addShortcode_cases shortcode with same | ⟨rule, made, _, rules⟩
    · exact same.symm ▸ orderly
    · rw [rules]
      refine orderly.append_untried fun new member => ?_
      rw [List.mem_singleton.mp member]
      exact Rule.matcher_of_ofShortcode? made
  · exact fun s text orderly => orderly.expandWith text

end Session

end ShortcodeExpansion
