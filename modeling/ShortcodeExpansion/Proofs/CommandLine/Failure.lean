import ShortcodeExpansion.Proofs.CommandLine.Endings
import ShortcodeExpansion.Proofs.Files
import ShortcodeExpansion.Proofs.Results
import ShortcodeExpansion.Proofs.Stack.Expansion

/-!
# Calls that fail

A call that fails leaves every file as it was and prints nothing to the standard output.  The parse
command has four stages that may fail, the last of which makes the file that its output goes to, and
reports the first of them that does.
-/

set_option autoImplicit false

namespace ShortcodeExpansion.CommandLine

/-! ## The stages of the parse command -/

inductive Stage where
  | loading
  | reading
  | expansion
  | creation
deriving DecidableEq, Repr

namespace Stage

def inOrder : List Stage := [.loading, .reading, .expansion, .creation]

/-- Why a stage fails, if it does.  The text has no part in why its expansion fails: some rule of
the shortcodes that were loaded does not compile. -/
def failure? (options : ParseOptions) (around : Surroundings) : Stage → Option CommandError
  | .loading => failureOf? (options.source.user around.files.read)
  | .reading => failureOf? (options.readInput around.files.read around.standardInput)
  | .expansion => do
      let user ← (options.source.user around.files.read).toOption
      let shortcodes := (options.source.builtIn.merge user).shortcodes
      return .expansion (← shortcodes.findSome? Shortcode.failure?)
  | .creation => do
      let path ← options.output
      return .output path (← failureOf? (around.files.target path))

/-- The failure of the first stage that fails. -/
def first? (options : ParseOptions) (around : Surroundings) : Option CommandError :=
  inOrder.findSome? (failure? options around)

end Stage

theorem failureOf?_expand (c : Catalogue) (text : String) :
    failureOf? (c.expand text) = c.shortcodes.findSome? Shortcode.failure? := by
  ext e
  rw [failureOf?_eq_some_iff, Catalogue.expand, Stack.ofCatalogue,
    Stack.expand_ofShortcodes_eq_error_iff]

section Stages

variable {options : ParseOptions} {around : Surroundings}

/-- The command makes its output in the first three stages. -/
theorem failureOf?_run :
    failureOf? (options.run around.files.read around.standardInput).result =
      [Stage.loading, .reading, .expansion].findSome? (Stage.failure? options around) := by
  rw [ParseOptions.result_run]
  cases loaded : options.source.user around.files.read with
  | error e => simp [Stage.failure?, loaded, failureOf?, bind, Except.bind]
  | ok user =>
      cases readIn : options.readInput around.files.read around.standardInput with
      | error e => simp [Stage.failure?, loaded, readIn, failureOf?, bind, Except.bind]
      | ok input =>
          -- Whether the expansion fails does not depend on the text.
          have settled := failureOf?_expand (options.source.builtIn.merge user) input
          cases expanded : (options.source.builtIn.merge user).expand input with
          | error cause =>
              rw [expanded] at settled
              simp [Stage.failure?, loaded, readIn, expanded, ← settled, failureOf?, bind,
                Except.bind, Except.toOption, Except.mapError]
          | ok text =>
              rw [expanded] at settled
              simp [Stage.failure?, loaded, readIn, expanded, ← settled, failureOf?, bind,
                Except.bind, Except.toOption, Except.mapError, pure, Except.pure]

theorem first?_eq_or : Stage.first? options around =
    (failureOf? (options.run around.files.read around.standardInput).result).or
      (Stage.failure? options around .creation) := by
  have inOrder : Stage.inOrder = [.loading, .reading, .expansion] ++ [.creation] := rfl
  rw [failureOf?_run, Stage.first?, inOrder, List.findSome?_append, List.findSome?_singleton]

end Stages

/-! ## What a failing call leaves -/

theorem Ends.unchanged {files : FileSystem} {done : Except CommandError Output} {outcome : Outcome}
    (ends : Ends files done outcome) (fails : outcome.ending.code ≠ 0) :
    outcome.files = files ∧ outcome.ending.standardOutput = "" := by
  cases ends with
  | failed e shown => exact ⟨rfl, rfl⟩
  | printed text closing shown => exact absurd rfl fails
  | written text closing shown target => exact absurd rfl fails
  | refused text closing shown target => exact ⟨rfl, rfl⟩

theorem run_unchanged {arguments : List String} {around : Surroundings}
    (fails : (run arguments around).ending.code ≠ 0) :
    (run arguments around).files = around.files ∧
      (run arguments around).ending.standardOutput = "" := by
  cases read : Call.ofArguments arguments around.catalogue with
  | error detour =>
      rw [run_of_detour read] at fails ⊢
      refine ⟨rfl, ?_⟩
      cases detour <;> simp [Detour.ending] at fails ⊢
  | ok call => exact (run_of_call read).unchanged fails

/-- A call that fails changes nothing, and the parse command reports its first stage that fails. -/
theorem run_failure (arguments : List String) (around : Surroundings) :
    let outcome := run arguments around
    (outcome.ending.code ≠ 0 →
        outcome.files = around.files ∧ outcome.ending.standardOutput = "") ∧
      ∀ call options, Call.ofArguments arguments around.catalogue = .ok call →
        call.command = .parse options →
        match Stage.first? options around with
        | some e => ∃ shown, outcome.ending = failure shown e
        | none => outcome.ending.code = 0 := by
  refine ⟨run_unchanged, fun call options read command => ?_⟩
  have ends := run_of_call read
  have stages := @first?_eq_or options around
  have ofRun := @ParseOptions.path_of_run options around
  rw [command, Command.run] at ends
  generalize (options.run around.files.read around.standardInput).result = done
    at ends stages ofRun
  rw [stages]
  generalize run arguments around = outcome at ends ⊢
  cases ends with
  | failed e shown => exact ⟨shown, rfl⟩
  | printed text closing shown =>
      have unnamed : none = options.output := ofRun rfl
      simp [Stage.failure?, ← unnamed, failureOf?]
  | written text closing shown target =>
      have named : some _ = options.output := ofRun rfl
      simp [Stage.failure?, ← named, failureOf?, target]
  | @refused text path closing shown cause target =>
      have named : some path = options.output := ofRun rfl
      have stage : Stage.failure? options around .creation = some (.output path cause) := by
        simp [Stage.failure?, ← named, failureOf?, target]
      rw [stage]
      exact ⟨shown, rfl⟩

/-- The output would go to the input file, which is not text. -/
def inPlace : List String := ["parse", "-i", "/a", "-o", "/a"]

def notText : Surroundings where
  files := { root := ⟨[(["a"], ⟨#[0xff]⟩)]⟩, here := ["home"] }

def inPlaceOptions : ParseOptions := { input := some "/a", output := some "/a" }

theorem run_failure_in_place :
    Call.ofArguments inPlace none = .ok { command := .parse inPlaceOptions } ∧
      Stage.first? inPlaceOptions notText = some (.input "/a" .notText) ∧
      (∃ shown, (run inPlace notText).ending = failure shown (.input "/a" .notText)) ∧
      (run inPlace notText).ending.code ≠ 0 ∧ (run inPlace notText).files = notText.files ∧
      (run inPlace notText).ending.standardOutput = "" := by
  have read : Call.ofArguments inPlace none = .ok { command := .parse inPlaceOptions } := by
    decide
  have bytes : notText.files.read "/a" = .ok ⟨#[0xff]⟩ := by
    rw [FileSystem.read, FileSystem.splitOn_short.1]
    rfl
  have stage : inPlaceOptions.readInput notText.files.read notText.standardInput =
      .error (.input "/a" .notText) := by
    rw [ParseOptions.readInput]
    dsimp only [inPlaceOptions]
    rw [bytes]
    rfl
  have first : Stage.first? inPlaceOptions notText = some (.input "/a" .notText) := by
    have loaded : Stage.failure? inPlaceOptions notText .loading = none := rfl
    rw [Stage.first?, Stage.inOrder, List.findSome?_cons, loaded, List.findSome?_cons,
      Stage.failure?, stage, failureOf?]
  obtain ⟨unchanged, reports⟩ := run_failure inPlace notText
  have reported := reports _ _ read rfl
  rw [first] at reported
  obtain ⟨shown, ending⟩ := reported
  have fails : (run inPlace notText).ending.code ≠ 0 := by
    rw [ending]
    exact Nat.one_ne_zero
  exact ⟨read, first, ⟨shown, ending⟩, fails, unchanged fails⟩

end ShortcodeExpansion.CommandLine
