import ShortcodeExpansion.Regex.Compile
import ShortcodeExpansion.Template.Pattern

/-!
# The written pattern of a template is read back

The text that tokens are written as is read, token by token, into a part of the syntax tree for
each: an escaped character into a literal, a blank run into a repeated class, and a wildcard into a
group with the next number.  Nothing written for one token is read together with what is written for
the next, and the flag in front stays apart from all of them.
-/

set_option autoImplicit false

namespace ShortcodeExpansion.Template

open Regex

/-- The part of a syntax tree that a token becomes: `index` is the number of the next group, and
`last` tells that no token follows. -/
inductive TokenPart (index : Nat) (last : Bool) : PatternToken → Ast → Prop where
  | literal (c : Char) (span : Span) :
      TokenPart index last (.literal c) (.primitive (.literal ⟨span, c, false⟩))
  | blanks (span inner : Span) :
      TokenPart index last .blanks
        (.repetition span 1 none true (.primitive (.shorthand ⟨inner, .space, false⟩)))
  | wildcard (span inner dot : Span) :
      TokenPart index last .wildcard
        (.group span (.capture index none) (.repetition inner 0 none last (.primitive (.dot dot))))

/-- How many groups a token is written with. -/
def PatternToken.groupCount : PatternToken → Nat
  | .wildcard => 1
  | _ => 0

/-- The parts that tokens become, in order. -/
inductive TokenParts : Nat → List PatternToken → List Ast → Prop where
  | nil (index : Nat) : TokenParts index [] []
  | cons {index : Nat} {token : PatternToken} {tokens : List PatternToken} {part : Ast}
      {parts : List Ast} (first : TokenPart index tokens.isEmpty token part)
      (more : TokenParts (index + token.groupCount) tokens parts) :
      TokenParts index (token :: tokens) (part :: parts)

section Rounds

variable {groups : List OpenGroup} {seq : OpenSequence} {rest : List Char} {pos : Position}
  {count : Nat} {names : List (String × Span)} {fuel : Nat}

/-- A character without a meaning of its own is read as a literal. -/
theorem readParts_plain {c : Char} (plain : c ∉ metaCharacters) :
    readParts groups seq ⟨c :: rest, pos, false, count, names⟩ (fuel + 1) =
      readParts groups (seq.push (.primitive (.literal ⟨⟨pos, pos.after c⟩, c, false⟩)))
        ⟨rest, pos.after c, false, count, names⟩ fuel := by
  simp only [metaCharacters, List.mem_cons, List.not_mem_nil, or_false, not_or] at plain
  simp [readParts, readPrimitive, Cursor.bumpSpace, Cursor.charSpan, Cursor.bump, plain]

/-- The characters that are escaped stand for themselves after a backslash. -/
theorem readEscape_meta {c : Char} (special : c ∈ metaCharacters) :
    readEscape ⟨'\\' :: c :: rest, pos, false, count, names⟩ =
      .ok (.literal ⟨⟨pos, (pos.after '\\').after c⟩, c, false⟩,
        ⟨rest, (pos.after '\\').after c, false, count, names⟩) := by
  have facts : (metaCharacters.all fun c => decide (c.isDigit = false ∧
      (c = 'x' || c = 'u' || c = 'U') = false ∧ (c = 'p' || c = 'P') = false ∧
      shorthand? c = none ∧ isMeta c = true)) = true := by decide
  obtain ⟨noDigit, noHex, noProperty, noShorthand, isMeta⟩ :=
    of_decide_eq_true (List.all_eq_true.mp facts c special)
  simp only [readEscape, Cursor.bump, noDigit, noHex, noProperty, noShorthand, isMeta,
    Bool.true_or]
  rfl

theorem readParts_escaped {c : Char} (special : c ∈ metaCharacters) :
    readParts groups seq ⟨'\\' :: c :: rest, pos, false, count, names⟩ (fuel + 1) =
      readParts groups
        (seq.push (.primitive (.literal ⟨⟨pos, (pos.after '\\').after c⟩, c, false⟩)))
        ⟨rest, (pos.after '\\').after c, false, count, names⟩ fuel := by
  simp [readParts, readPrimitive, Cursor.bumpSpace, readEscape_meta special]

theorem readParts_space :
    readParts groups seq ⟨'\\' :: 's' :: rest, pos, false, count, names⟩ (fuel + 1) =
      readParts groups
        (seq.push (.primitive (.shorthand ⟨⟨pos, (pos.after '\\').after 's'⟩, .space, false⟩)))
        ⟨rest, (pos.after '\\').after 's', false, count, names⟩ fuel := by
  simp [readParts, readPrimitive, Cursor.bumpSpace, readEscape, Cursor.bump, Char.isDigit,
    shorthand?]

theorem readParts_dot :
    readParts groups seq ⟨'.' :: rest, pos, false, count, names⟩ (fuel + 1) =
      readParts groups (seq.push (.primitive (.dot ⟨pos, pos.after '.'⟩)))
        ⟨rest, pos.after '.', false, count, names⟩ fuel := by
  simp [readParts, readPrimitive, Cursor.bumpSpace, Cursor.charSpan, Cursor.bump]

/-- The signs that repeat the part before them, with the least number of repetitions. -/
def RepeatSign (sign : Char) (min : Nat) : Prop := sign = '*' ∧ min = 0 ∨ sign = '+' ∧ min = 1

/-- Without a question mark after it, a sign repeats as often as it can. -/
theorem readParts_repeat {sign : Char} {min : Nat} {body : Primitive}
    (repeats : RepeatSign sign min) (alone : rest.head? ≠ some '?') :
    readParts groups (seq.push (.primitive body)) ⟨sign :: rest, pos, false, count, names⟩
        (fuel + 1) =
      readParts groups
        (seq.push (.repetition ⟨body.span.start, pos.after sign⟩ min none true (.primitive body)))
        ⟨rest, pos.after sign, false, count, names⟩ fuel := by
  rcases repeats with ⟨rfl, rfl⟩ | ⟨rfl, rfl⟩ <;>
    simp [readParts, readOperator, lastRepeatable?, OpenSequence.push, Cursor.bumpSpace,
      Cursor.bump, Cursor.at?, alone, Ast.span]

/-- With a question mark after it, a sign repeats as seldom as it can. -/
theorem readParts_repeatLazily {sign : Char} {min : Nat} {body : Primitive}
    (repeats : RepeatSign sign min) :
    readParts groups (seq.push (.primitive body))
        ⟨sign :: '?' :: rest, pos, false, count, names⟩ (fuel + 1) =
      readParts groups
        (seq.push (.repetition ⟨body.span.start, (pos.after sign).after '?'⟩ min none false
          (.primitive body)))
        ⟨rest, (pos.after sign).after '?', false, count, names⟩ fuel := by
  rcases repeats with ⟨rfl, rfl⟩ | ⟨rfl, rfl⟩ <;>
    simp [readParts, readOperator, lastRepeatable?, OpenSequence.push, Cursor.bumpSpace,
      Cursor.bump, Cursor.at?, Ast.span]

/-- A parenthesis before a dot opens the group with the next number. -/
theorem readParts_open :
    readParts groups seq ⟨'(' :: '.' :: rest, pos, false, count, names⟩ (fuel + 1) =
      readParts (⟨seq, ⟨pos, pos.after '('⟩, .capture (count + 1) none, false⟩ :: groups)
        (.new (pos.after '(')) ⟨'.' :: rest, pos.after '(', false, count + 1, names⟩ fuel := by
  simp [readParts, readOpening, lookAround?, Cursor.bumpSpace, Cursor.bump, Cursor.bumpIf?,
    Cursor.advance, Cursor.isEnd, Cursor.at?, Cursor.charSpan]

theorem readParts_close {group : OpenGroup} {part : Ast} {start : Position}
    (plain : group.extended = false) :
    readParts (group :: groups) ((OpenSequence.new start).push part)
        ⟨')' :: rest, pos, false, count, names⟩ (fuel + 1) =
      readParts groups (group.outer.push
          (.group ⟨group.span.start, pos.after ')'⟩ group.kind part))
        ⟨rest, pos.after ')', false, count, names⟩ fuel := by
  simp [readParts, Cursor.bumpSpace, Cursor.bump, OpenSequence.finish, OpenSequence.branch,
    OpenSequence.push, OpenSequence.new, plain]

end Rounds

/-! ## Tokens -/

/-- What tokens are written as never starts with the mark of laziness. -/
theorem tokensSource_head? (tokens : List PatternToken) :
    (tokensSource tokens).head? ≠ some '?' := by
  cases tokens with
  | nil => simp [tokensSource]
  | cons token tokens =>
      cases token with
      | wildcard => cases tokens <;> simp [tokensSource, lazyGroup, greedyGroup]
      | blanks => simp [tokensSource, blankRun]
      | literal c =>
          by_cases special : c ∈ metaCharacters
          · simp [tokensSource, escapeChar, special]
          · have other : c ≠ '?' := by
              rintro rfl
              exact special (by decide)
            simp [tokensSource, escapeChar, special, other]

section Tokens

variable (names : List (String × Span))

/-- One token is read into its part, and reading goes on at the next token. -/
theorem readParts_token (groups : List OpenGroup) (seq : OpenSequence) (token : PatternToken)
    (tokens : List PatternToken) (pos : Position) (count fuel : Nat)
    (enough : (tokensSource (token :: tokens)).length < fuel) :
    ∃ part pos' fuel', TokenPart (count + 1) tokens.isEmpty token part ∧
      (tokensSource tokens).length < fuel' ∧
      readParts groups seq ⟨tokensSource (token :: tokens), pos, false, count, names⟩ fuel =
        readParts groups (seq.push part)
          ⟨tokensSource tokens, pos', false, count + token.groupCount, names⟩ fuel' := by
  have alone := tokensSource_head? tokens
  cases token with
  | literal c =>
      obtain ⟨fuel, rfl⟩ : ∃ n, fuel = n + 1 := ⟨fuel - 1, by omega⟩
      by_cases special : c ∈ metaCharacters
      · simp only [tokensSource, escapeChar, if_pos special, List.cons_append, List.nil_append,
          List.length_cons] at enough ⊢
        exact ⟨_, _, fuel, .literal c _, by omega, readParts_escaped special⟩
      · simp only [tokensSource, escapeChar, if_neg special, List.cons_append, List.nil_append,
          List.length_cons] at enough ⊢
        exact ⟨_, _, fuel, .literal c _, by omega, readParts_plain special⟩
  | blanks =>
      simp only [tokensSource, blankRun, List.cons_append, List.nil_append,
        List.length_cons] at enough ⊢
      obtain ⟨fuel, rfl⟩ : ∃ n, fuel = n + 2 := ⟨fuel - 2, by omega⟩
      exact ⟨_, _, fuel, .blanks _ _, by omega,
        readParts_space.trans (readParts_repeat (.inr ⟨rfl, rfl⟩) alone)⟩
  | wildcard =>
      cases tokens with
      | nil =>
          simp only [tokensSource, greedyGroup, List.length_cons, List.length_nil] at enough ⊢
          obtain ⟨fuel, rfl⟩ : ∃ n, fuel = n + 4 := ⟨fuel - 4, by omega⟩
          exact ⟨_, _, fuel, .wildcard _ _ _, by omega, readParts_open.trans (readParts_dot.trans
            ((readParts_repeat (.inl ⟨rfl, rfl⟩) (by simp)).trans (readParts_close rfl)))⟩
      | cons next tokens =>
          simp only [tokensSource, lazyGroup, List.cons_append, List.nil_append,
            List.length_cons] at enough ⊢
          obtain ⟨fuel, rfl⟩ : ∃ n, fuel = n + 4 := ⟨fuel - 4, by omega⟩
          exact ⟨_, _, fuel, .wildcard _ _ _, by omega, readParts_open.trans (readParts_dot.trans
            ((readParts_repeatLazily (.inl ⟨rfl, rfl⟩)).trans (readParts_close rfl)))⟩

/-- The parts of all tokens are read in order, and the pattern ends after them. -/
theorem readParts_tokens (tokens : List PatternToken) :
    ∀ (seq : OpenSequence) (pos : Position) (count fuel : Nat),
      (tokensSource tokens).length < fuel →
      ∃ parts stop after, TokenParts (count + 1) tokens parts ∧
        readParts [] seq ⟨tokensSource tokens, pos, false, count, names⟩ fuel =
          .ok (OpenSequence.finish { seq with parts := parts.reverse ++ seq.parts } stop,
            after) := by
  induction tokens with
  | nil =>
      intro seq pos count fuel enough
      obtain ⟨fuel, rfl⟩ : ∃ n, fuel = n + 1 := ⟨fuel - 1, by omega⟩
      exact ⟨[], pos, _, .nil _, rfl⟩
  | cons token tokens ih =>
      intro seq pos count fuel enough
      obtain ⟨part, next, less, first, still, step⟩ :=
        readParts_token names [] seq token tokens pos count fuel enough
      obtain ⟨parts, stop, after, more, run⟩ :=
        ih (seq.push part) next (count + token.groupCount) less still
      have index : count + token.groupCount + 1 = count + 1 + token.groupCount := by omega
      rw [index] at more
      refine ⟨part :: parts, stop, after, .cons first more, ?_⟩
      rw [step, run]
      simp [OpenSequence.push]

end Tokens

/-! ## Whole patterns -/

/-- The change of flags that a pattern starts with. -/
def dotAll : FlagChange := ⟨[.dotMatchesNewLine], []⟩

/-- The tree of the pattern that tokens are written as. -/
inductive PatternTree : List PatternToken → Ast → Prop where
  | bare (span : Span) : PatternTree [] (.flags span dotAll)
  | sequence {tokens : List PatternToken} {parts : List Ast} (outer span : Span)
      (some : tokens ≠ []) (read : TokenParts 1 tokens parts) :
      PatternTree tokens (.sequence outer (.flags span dotAll :: parts))

/-- A branch of two parts or more is a sequence. -/
theorem branch_of_two {seq : OpenSequence} (two : 2 ≤ seq.parts.length) (stop : Position) :
    seq.branch stop = .sequence ⟨seq.partStart, stop⟩ seq.parts.reverse := by
  rw [OpenSequence.branch]
  split
  · rename_i none
    simp [none] at two
  · rename_i one
    simp [one] at two
  · rfl

/-- The flags in front are read before anything else. -/
theorem readParts_flags (rest : List Char) (fuel : Nat) :
    ∃ span pos, readParts [] (.new {}) { rest := patternFlags ++ rest } (fuel + 1) =
      readParts [] ((OpenSequence.new {}).push (.flags span dotAll)) ⟨rest, pos, false, 0, []⟩
        fuel := by
  let stop : Position := (((({} : Position).after '(').after '?').after 's').after ')'
  refine ⟨⟨{}, stop⟩, stop, ?_⟩
  simp [patternFlags, readParts, readOpening, lookAround?, readFlags, flag?, FlagRun.push,
    FlagRun.isEmpty, FlagRun.change, FlagChange.state?, Cursor.bumpSpace, Cursor.bump,
    Cursor.bumpIf?, Cursor.advance, Cursor.isEnd, Cursor.at?, Cursor.charSpan, dotAll, stop, bind,
    Except.bind]

theorem checkAllNesting_tokens {index : Nat} {tokens : List PatternToken} {parts : List Ast}
    (read : TokenParts index tokens parts) : checkAllNesting 1 parts = .ok () := by
  induction read with
  | nil => rfl
  | cons first _ ih =>
      have flat : ∀ {token last index part}, TokenPart index last token part →
          checkNesting 1 part = .ok () := by
        intro token last index part here
        cases here <;> rfl
      rw [checkAllNesting, flat first]
      exact ih

theorem checkNesting_tree {tokens : List PatternToken} {ast : Ast} (tree : PatternTree tokens ast) :
    checkNesting 0 ast = .ok () := by
  cases tree with
  | bare => rfl
  | sequence outer span _ read =>
      have parts := checkAllNesting_tokens read
      simp only [checkNesting, checkAllNesting]
      exact parts

theorem readPattern_of_readParts {pattern : String} {ast : Ast} {after : Cursor}
    (read : readParts [] (.new {}) { rest := pattern.toList } (pattern.toList.length + 1) =
      .ok (ast, after)) (shallow : checkNesting 0 ast = .ok ()) :
    readPattern pattern = .ok ast := by
  simp [readPattern, read, shallow, bind, Except.bind]

/-- The pattern of a template that is not raw can be read, whatever the template. -/
theorem readPattern_patternSource (template : String) :
    ∃ ast, PatternTree (patternTokens template.toList) ast ∧
      readPattern (patternSource template false) = .ok ast := by
  have source : (patternSource template false).toList =
      patternFlags ++ tokensSource (patternTokens template.toList) := by simp [patternSource]
  generalize patternTokens template.toList = tokens at source ⊢
  obtain ⟨span, pos, flags⟩ :=
    readParts_flags (tokensSource tokens) (patternFlags ++ tokensSource tokens).length
  obtain ⟨parts, stop, after, read, run⟩ := readParts_tokens [] tokens
    ((OpenSequence.new {}).push (.flags span dotAll)) pos 0
    (patternFlags ++ tokensSource tokens).length (by simp [patternFlags]; omega)
  have tree : PatternTree tokens (OpenSequence.finish { (OpenSequence.new {}).push
      (.flags span dotAll) with parts := parts.reverse ++ [.flags span dotAll] } stop) := by
    cases read with
    | nil => exact .bare span
    | @cons _ token tokens part parts first more =>
        simp only [OpenSequence.finish, OpenSequence.push, OpenSequence.new]
        rw [branch_of_two (by simp)]
        simpa using .sequence _ span (by simp) (.cons first more)
  refine ⟨_, tree, readPattern_of_readParts (Eq.trans ?_ run) (checkNesting_tree tree)⟩
  rw [source, flags]

end ShortcodeExpansion.Template
