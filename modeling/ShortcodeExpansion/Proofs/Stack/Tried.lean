import ShortcodeExpansion.Proofs.Stack.Outcome

/-!
# Which rules have been tried

The rules of a stack that have been tried are its first ones.  An expansion tries all of them, or
those up to the first whose pattern does not compile; an addition leaves the old rules as they are
and puts new ones behind them.  Stacks with the same rules expand every text alike, however many of
their rules have been tried.
-/

set_option autoImplicit false

namespace ShortcodeExpansion

/-- The first rules have been tried, a number of them, and no others. -/
def TriedUpTo (rules : List Rule) (count : Nat) : Prop :=
  rules.map Rule.compiled =
    List.replicate count true ++ List.replicate (rules.length - count) false

/-- How many rules an expansion tries. -/
def reach (rules : List Rule) : Nat :=
  match rules.findIdx? fun rule => (patternFailure? rule.pattern).isSome with
  | some i => i + 1
  | none => rules.length

section TriedUpTo

variable {rule : Rule} {rules : List Rule}

theorem triedUpTo_of_none (untried : ∀ rule ∈ rules, rule.compiled = false) :
    TriedUpTo rules 0 := by
  rw [TriedUpTo]
  simpa [List.eq_replicate_iff] using untried

theorem TriedUpTo.cons {count : Nat} (tried : TriedUpTo rules count)
    (here : rule.compiled = true) : TriedUpTo (rule :: rules) (count + 1) := by
  rw [TriedUpTo] at tried ⊢
  simp [tried, here, List.replicate_succ]

namespace Orderly

/-- Behind a rule that has not been tried, or that fails, none has been tried. -/
theorem none_behind (orderly : Orderly (rule :: rules))
    (stops : ¬ (rule.compiled = true ∧ rule.Builds)) : TriedUpTo rules 0 := by
  refine triedUpTo_of_none fun later member => ?_
  rw [← Bool.not_eq_true]
  exact fun done => stops (orderly.head later member done)

theorem exists_triedUpTo (orderly : Orderly rules) : ∃ count, TriedUpTo rules count := by
  induction rules with
  | nil => exact ⟨0, rfl⟩
  | cons rule rest ih =>
      cases here : rule.compiled with
      | true =>
          obtain ⟨count, tried⟩ := ih orderly.tail
          exact ⟨count + 1, tried.cons here⟩
      | false =>
          have behind := orderly.none_behind (by simp [here])
          refine ⟨0, ?_⟩
          rw [TriedUpTo] at behind ⊢
          simpa [here, List.replicate_succ] using behind

end Orderly

theorem reach_of_builds (builds : rule.Builds) : reach (rule :: rules) = reach rules + 1 := by
  rw [reach, reach, List.findIdx?_cons, Rule.builds_iff.mp builds]
  cases rules.findIdx? fun rule => (patternFailure? rule.pattern).isSome <;> simp

theorem reach_of_fails (fails : ¬ rule.Builds) : reach (rule :: rules) = 1 := by
  have failure : (patternFailure? rule.pattern).isSome = true := by
    rw [Option.isSome_iff_ne_none]
    exact Rule.builds_iff.not.mp fails
  rw [reach, List.findIdx?_cons, failure]
  rfl

theorem Orderly.triedUpTo_expandWith (orderly : Orderly rules) (text : String) :
    TriedUpTo (Stack.expandWith rules text).2 (reach rules) := by
  induction rules generalizing text with
  | nil => rfl
  | cons rule rest ih =>
      have faithful := orderly.faithful rule List.mem_cons_self
      cases found : rule.regex with
      | ok regex =>
          have builds : rule.Builds := faithful.builds_iff.mpr ⟨regex, found⟩
          rw [Stack.expandWith_of_ok found, reach_of_builds builds]
          exact (ih orderly.tail _).cons rule.compiled_markCompiled
      | error cause =>
          have fails : ¬ rule.Builds := by simp [faithful.builds_iff, found]
          rw [Stack.expandWith_of_error found, reach_of_fails fails]
          exact (orderly.none_behind fun both => fails both.2).cons rule.compiled_markCompiled

end TriedUpTo

namespace Stack

theorem map_texts_eq_iff {a b : List Rule} : a.map Rule.texts = b.map Rule.texts ↔
    a.length = b.length ∧ ∀ pair ∈ a.zip b, pair.1.same pair.2 = true := by
  induction a generalizing b with
  | nil => cases b <;> simp
  | cons rule rest ih =>
      cases b with
      | nil => simp
      | cons other later =>
          simp only [List.map_cons, List.cons.injEq, ih, List.length_cons, Nat.add_right_cancel_iff,
            List.zip_cons_cons, List.forall_mem_cons, Rule.same_iff]
          exact and_left_comm

theorem same_iff {a b : Stack} : a.same b = true ↔ a.texts = b.texts := by
  rw [same, Bool.and_eq_true, decide_eq_true_iff, List.all_eq_true]
  exact map_texts_eq_iff.symm

end Stack

namespace Session

/-- What can be known of the rules that have been tried after a run, and that it makes no
difference. -/
structure Lazy (steps : List Step) (name : String) : Prop where
  /-- The rules that have been tried are the first ones. -/
  front : ∃ count, TriedUpTo (run steps name).rules count
  /-- The patterns of rules before one that has been tried compile. -/
  earlier : ∀ before rule after, (run steps name).rules = before ++ rule :: after →
    rule.compiled = true → ∀ earlier ∈ before, earlier.Builds
  /-- An expansion tries all rules, or those up to the first whose pattern does not compile. -/
  parsed : ∀ text, TriedUpTo (run (steps ++ [⟨name, .parse text⟩]) name).rules
    (reach (run steps name).rules)
  /-- An addition keeps the old rules, with what is kept in them. -/
  added : ∀ given, ∃ fresh,
    (run (steps ++ [⟨name, .add given⟩]) name).rules = (run steps name).rules ++ fresh ∧
      ∀ rule ∈ fresh, rule.compiled = false
  /-- Rules that are there already change nothing at all. -/
  duplicate : ∀ given : Argument,
    (∀ shortcode ∈ given.list, ∀ rule, Rule.ofShortcode? shortcode = some rule →
      (run steps name).contains rule = true) →
    run (steps ++ [⟨name, .add given⟩]) = run steps
  /-- Stacks with the same rules expand every text alike. -/
  unseen : ∀ (others : List Step) (other : String),
    (run steps name).same (run others other) = true →
      ∀ text, (run steps name).expand text = (run others other).expand text

/-- Whatever is done to named stacks, their rules are tried in order, each once, and it cannot be
told from what the stacks do. -/
theorem run_lazy (steps : List Step) (name : String) : Lazy steps name where
  front := (run_orderly steps name).exists_triedUpTo
  earlier before rule after split done other member := by
    have tried := (run_orderly steps name).tried
    rw [split] at tried
    have ordered := (List.pairwise_append.mp tried).2.2 other member rule List.mem_cons_self
    exact (ordered done).2
  parsed text := by
    rw [run_concat, Step.apply_here _ ⟨name, .parse text⟩]
    exact (run_orderly steps name).triedUpTo_expandWith text
  added given := by
    have appends := Stack.add_appends (run steps name) given.list
    rw [run_concat, Step.apply_here _ ⟨name, .add given⟩]
    exact ⟨_, appends.rules, fun rule new => Rule.compiled_of_untried (appends.untried rule new)⟩
  duplicate given known := by
    rw [run_concat]
    funext other
    by_cases here : other = name
    · rw [here, Step.apply_here _ ⟨name, .add given⟩]
      exact Stack.add_of_known _ _ known
    · exact Step.apply_elsewhere _ _ here
  unseen others other same text :=
    Stack.expand_of_texts (run_orderly steps name) (run_orderly others other)
      (Stack.same_iff.mp same)

/-- A pattern that fails keeps the rules behind it from being tried, those that are there and those
that come later. -/
example : (run [⟨"a", .make (.shortcodes [⟨"x", "y", true⟩, ⟨"(", "", true⟩, ⟨"z", "", true⟩])⟩,
    ⟨"a", .parse "x"⟩, ⟨"a", .add (.pattern "w")⟩] "a").rules.map Rule.compiled =
      [true, true, false, false] := by
  decide +kernel

end Session

end ShortcodeExpansion
