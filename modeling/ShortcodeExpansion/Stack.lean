import ShortcodeExpansion.Catalogue.Basic
import ShortcodeExpansion.Rule

/-!
# Rule stacks

A stack is an ordered list of rules without duplicates.  It grows by adding shortcodes and is
emptied by flushing.  Expanding a text applies the rules in order, each to the result of the one
before, up to the first whose pattern does not compile; what came of the compiling is kept in the
rules.
-/

set_option autoImplicit false

namespace ShortcodeExpansion

/-- A rule whose pattern does not compile. -/
structure RuleError where
  pattern : String
  cause : Regex.BuildError
deriving DecidableEq, Repr

def RuleError.message (e : RuleError) : String :=
  "Failed to compile shortcode pattern '" ++ e.pattern ++ "': " ++ e.cause.message

structure Stack where
  rules : List Rule := []
deriving DecidableEq, Repr, Inhabited

namespace Stack

def size (s : Stack) : Nat := s.rules.length

def isEmpty (s : Stack) : Bool := s.rules.isEmpty

def contains (s : Stack) (rule : Rule) : Bool := s.rules.any rule.same

/-- Adds the rule of one shortcode, unless the shortcode is blank or the rule is there already. -/
def addShortcode (s : Stack) (shortcode : Shortcode) : Stack :=
  match Rule.ofShortcode? shortcode with
  | none => s
  | some rule => if s.contains rule then s else ⟨s.rules ++ [rule]⟩

/-- Adds the rules of shortcodes, in order. -/
def add (s : Stack) (shortcodes : List Shortcode) : Stack := shortcodes.foldl addShortcode s

def flush (_ : Stack) : Stack := {}

/-- Replaces all rules by those of shortcodes. -/
def set (s : Stack) (shortcodes : List Shortcode) : Stack := s.flush.add shortcodes

def ofShortcodes (shortcodes : List Shortcode) : Stack := add {} shortcodes

def ofCatalogue (c : Catalogue) : Stack := ofShortcodes c.shortcodes

/-- Stacks are the same if they hold the same rules in the same order. -/
def same (a b : Stack) : Bool :=
  a.size = b.size && (a.rules.zip b.rules).all fun pair => pair.1.same pair.2

/-- Applies rules in order; one that fails ends it.  The rules come back with what is kept of their
patterns. -/
def expandWith : List Rule → String → Except RuleError String × List Rule
  | [], text => (.ok text, [])
  | rule :: rest, text =>
      let tried := rule.markCompiled
      match tried.apply text with
      | .error cause => (.error ⟨rule.pattern, cause⟩, tried :: rest)
      | .ok applied =>
          let (result, after) := expandWith rest applied.text
          (result, tried :: after)

section ExpandWith

variable {rule : Rule}

/-- A rule whose pattern compiles rewrites the text for the rules that follow. -/
theorem expandWith_of_ok {regex : Regex} (builds : rule.regex = .ok regex) (rest : List Rule)
    (text : String) :
    expandWith (rule :: rest) text =
      let later := expandWith rest (Rule.applyRegex regex rule.replacement text).text
      (later.1, rule.markCompiled :: later.2) := by
  have applied : rule.markCompiled.apply text =
      .ok (Rule.applyRegex regex rule.replacement text) := by
    rw [Rule.apply, Rule.regex_markCompiled, builds]
    rfl
  rw [expandWith, applied]

/-- A rule whose pattern does not compile leaves the rules that follow alone. -/
theorem expandWith_of_error {cause : Regex.BuildError} (fails : rule.regex = .error cause)
    (rest : List Rule) (text : String) :
    expandWith (rule :: rest) text =
      (.error ⟨rule.pattern, cause⟩, rule.markCompiled :: rest) := by
  have refused : rule.markCompiled.apply text = .error cause := by
    rw [Rule.apply, Rule.regex_markCompiled, fails]
    rfl
  rw [expandWith, refused]

end ExpandWith

/-- The result of applying a stack to a text. -/
def expand (s : Stack) (text : String) : Except RuleError String := (expandWith s.rules text).1

/-- The stack after it was applied to a text. -/
def afterExpand (s : Stack) (text : String) : Stack := ⟨(expandWith s.rules text).2⟩

end Stack

/-- The result of applying the shortcodes of a catalogue to a text. -/
def Catalogue.expand (c : Catalogue) (text : String) : Except RuleError String :=
  (Stack.ofCatalogue c).expand text

end ShortcodeExpansion
