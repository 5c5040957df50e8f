import ShortcodeExpansion.Proofs.Stack.History

/-!
# Adding to a stack

Shortcodes added to a stack put rules behind those it has: the rules that the shortcodes make on
their own, less those that the stack has already.  A text is then worked on by the old rules, and
what they make of it by the new ones.  A catalogue merged with a user's makes the stack of the first
with the second added to it, so a rule of both keeps its place among those of the first.
-/

set_option autoImplicit false

namespace ShortcodeExpansion

namespace Stack

/-- The rules that shortcodes add to those of a stack. -/
def newRules (s : Stack) (shortcodes : List Shortcode) : List Rule :=
  (ofShortcodes shortcodes).rules.filter fun rule => !s.contains rule

theorem add_concat (s : Stack) (shortcodes : List Shortcode) (shortcode : Shortcode) :
    s.add (shortcodes ++ [shortcode]) = (s.add shortcodes).addShortcode shortcode := by
  simp [add]

/-- What the addition of one shortcode keeps, the addition of several keeps. -/
theorem add_invariant (Kept : Stack → Prop)
    (grown : ∀ s shortcode, Kept s → Kept (s.addShortcode shortcode))
    (shortcodes : List Shortcode) : ∀ s, Kept s → Kept (s.add shortcodes) := by
  induction shortcodes with
  | nil => exact fun s kept => kept
  | cons shortcode rest ih => exact fun s kept => ih _ (grown s shortcode kept)

theorem contains_of_same {s : Stack} {a b : Rule} (same : a.same b = true) :
    s.contains b = s.contains a := by
  rw [Bool.eq_iff_iff, contains_iff, contains_iff, Rule.same_iff.mp same]

/-- A rule is among the new ones if the shortcodes make it and the stack does not have it. -/
theorem any_same_newRules (s : Stack) (shortcodes : List Shortcode) (rule : Rule) :
    (s.newRules shortcodes).any rule.same =
      (!s.contains rule && (ofShortcodes shortcodes).contains rule) := by
  have alone : (ofShortcodes shortcodes).contains rule =
      (ofShortcodes shortcodes).rules.any rule.same := rfl
  rw [Bool.eq_iff_iff, newRules, List.any_filter, alone]
  simp only [List.any_eq_true, Bool.and_eq_true]
  constructor
  · rintro ⟨other, listed, new, same⟩
    rw [contains_of_same same] at new
    exact ⟨new, other, listed, same⟩
  · rintro ⟨new, other, listed, same⟩
    refine ⟨other, listed, ?_, same⟩
    rw [contains_of_same same]
    exact new

theorem rules_add (s : Stack) (shortcodes : List Shortcode) :
    (s.add shortcodes).rules = s.rules ++ s.newRules shortcodes := by
  induction shortcodes using List.reverseRecOn with
  | nil => simp [add, newRules, ofShortcodes]
  | append_singleton shortcodes shortcode ih =>
      cases made : Rule.ofShortcode? shortcode with
      | none =>
          have still (t : Stack) : t.add (shortcodes ++ [shortcode]) = t.add shortcodes := by
            rw [add_concat, addShortcode_of_blank made]
          rw [still, ih, newRules, newRules, ofShortcodes, ofShortcodes, still]
      | some rule =>
          have known : (s.add shortcodes).contains rule =
              (s.contains rule || (ofShortcodes shortcodes).contains rule) := by
            rw [contains, ih, List.any_append, any_same_newRules, ← contains]
            cases s.contains rule <;> simp
          have made_alone : (ofShortcodes (shortcodes ++ [shortcode])).rules =
              if (ofShortcodes shortcodes).contains rule then (ofShortcodes shortcodes).rules
              else (ofShortcodes shortcodes).rules ++ [rule] := by
            rw [ofShortcodes, add_concat]
            exact rules_addShortcode made _
          rw [add_concat, rules_addShortcode made, known, ih, newRules, newRules, made_alone]
          -- The rule comes in at the end of both lists, or it is on one of them already.
          cases old : s.contains rule <;>
            cases again : (ofShortcodes shortcodes).contains rule <;> simp [old]

theorem untried_of_mem_ofShortcodes {shortcodes : List Shortcode} {rule : Rule}
    (member : rule ∈ (ofShortcodes shortcodes).rules) : rule.matcher = .untried := by
  refine add_invariant (fun s => ∀ rule ∈ s.rules, rule.matcher = .untried) ?_ shortcodes {}
    (by simp) rule member
  intro s shortcode untried rule member
  rcases s.addShortcode_cases shortcode with same | ⟨new, made, _, rules⟩
  · exact untried rule (same ▸ member)
  · rw [rules, List.mem_append] at member
    rcases member with old | last
    · exact untried rule old
    · rw [List.mem_singleton.mp last]
      exact Rule.matcher_of_ofShortcode? made

/-- Rules in two parts are applied part by part, as long as none fails. -/
theorem expandWith_append (front back : List Rule) (text : String) :
    (expandWith (front ++ back) text).1 =
      (expandWith front text).1.bind fun made => (expandWith back made).1 := by
  induction front generalizing text with
  | nil => rfl
  | cons rule rest ih =>
      rw [List.cons_append]
      cases found : rule.regex with
      | ok regex =>
          rw [expandWith_of_ok found, expandWith_of_ok found]
          exact ih _
      | error cause =>
          rw [expandWith_of_error found, expandWith_of_error found]
          rfl

/-- What a stack becomes by an addition: the rules added are new, no two of them are the same, none
has been tried, and they work on what the rules before them make of a text. -/
structure Appends (s t : Stack) (added : List Rule) : Prop where
  rules : t.rules = s.rules ++ added
  new : ∀ rule ∈ added, s.contains rule = false
  distinct : added.Pairwise fun a b => a.same b = false
  untried : ∀ rule ∈ added, rule.matcher = .untried
  expand : ∀ text, t.expand text =
    (s.expand text).bind fun made => (Stack.mk added).expand made

theorem add_appends (s : Stack) (shortcodes : List Shortcode) :
    Appends s (s.add shortcodes) (s.newRules shortcodes) where
  rules := rules_add s shortcodes
  new rule member := by simpa using (List.mem_filter.mp member).2
  distinct := (holds_ofShortcodes shortcodes).distinct.filter _
  untried rule member := untried_of_mem_ofShortcodes (List.mem_filter.mp member).1
  expand text := by
    rw [expand, rules_add]
    exact expandWith_append s.rules (s.newRules shortcodes) text

/-- A rule has one place in a stack. -/
theorem Holds.same_iff_place {s : Stack} {given : List Shortcode} (holds : s.Holds given)
    {i j : Nat} {a b : Rule} (here : s.rules[i]? = some a) (there : s.rules[j]? = some b) :
    a.same b = true ↔ j = i := by
  have first : s.texts[i]? = some a.texts := by simp [texts, here]
  have second : s.texts[j]? = some b.texts := by simp [texts, there]
  rw [Rule.same_iff]
  constructor
  · intro same
    obtain ⟨within, _⟩ := List.getElem?_eq_some_iff.mp second
    exact (List.getElem?_inj within holds.nodup).mp (by rw [first, second, same])
  · rintro rfl
    rw [Option.some.inj (here.symm.trans there)]

end Stack

namespace Catalogue

theorem shortcodes_merge (c user : Catalogue) :
    (c.merge (some user)).shortcodes = c.shortcodes ++ user.shortcodes := by
  simp [shortcodes, merge]

theorem ofCatalogue_merge (c user : Catalogue) :
    Stack.ofCatalogue (c.merge (some user)) = (Stack.ofCatalogue c).add user.shortcodes := by
  simp [Stack.ofCatalogue, Stack.ofShortcodes, Stack.add, shortcodes_merge]

/-- What merging a user's catalogue with another means for their rules. -/
structure Merges (c user : Catalogue) : Prop where
  stack : Stack.ofCatalogue (c.merge (some user)) =
    (Stack.ofCatalogue c).add (Argument.catalogue user).list
  /-- The user's rules, those apart that are there already, work in the user's order on what the
  first catalogue makes of a text. -/
  expand : ∀ text, (c.merge (some user)).expand text =
    (c.expand text).bind fun made =>
      (Stack.mk ((Stack.ofCatalogue user).rules.filter fun rule =>
        !(Stack.ofCatalogue c).contains rule)).expand made
  /-- A rule that the first catalogue makes, whether the user's makes it too or not, has its place
  there and no other. -/
  place : ∀ (rule own : Rule) (i : Nat), (Stack.ofCatalogue c).rules[i]? = some own →
    rule.same own = true → ∀ (j : Nat) (other : Rule),
      (Stack.ofCatalogue (c.merge (some user))).rules[j]? = some other →
        (rule.same other = true ↔ j = i)

theorem merges (c user : Catalogue) : Merges c user where
  stack := ofCatalogue_merge c user
  expand text := by
    have appends := Stack.add_appends (Stack.ofCatalogue c) user.shortcodes
    rw [Catalogue.expand, ofCatalogue_merge]
    exact appends.expand text
  place rule own i here same j other there := by
    have appends := Stack.add_appends (Stack.ofCatalogue c) user.shortcodes
    have holds := Stack.holds_ofShortcodes (c.merge (some user)).shortcodes
    have kept : (Stack.ofCatalogue (c.merge (some user))).rules[i]? = some own := by
      obtain ⟨within, _⟩ := List.getElem?_eq_some_iff.mp here
      rw [ofCatalogue_merge, appends.rules, List.getElem?_append_left within]
      exact here
    rw [← holds.same_iff_place kept there, Rule.same_iff, Rule.same_iff, Rule.same_iff.mp same]

end Catalogue

/-- Adding is expanding in turn: what a stack makes of a text after an addition is what the rules of
the new shortcodes, less those that it has, make of its result before; and to merge a user's
catalogue with another is to add it. -/
theorem add_in_turn :
    (∀ (s : Stack) (given : Argument),
      Stack.Appends s (s.add given.list) (s.newRules given.list)) ∧
      ∀ c user : Catalogue, Catalogue.Merges c user :=
  ⟨fun s given => s.add_appends given.list, Catalogue.merges⟩

end ShortcodeExpansion
