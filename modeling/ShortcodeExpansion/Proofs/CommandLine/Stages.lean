import ShortcodeExpansion.CommandLine.Run

/-!
# The stages of a command

The result of a command, without what it logs.  The shortcodes are loaded first, then the input is
read, then it is expanded; the first of these stages that fails is the one reported.
-/

set_option autoImplicit false

namespace ShortcodeExpansion.CommandLine

section Stages

variable {read : FileReader} {standard : ByteArray}

namespace Source

/-- The shortcodes that a user adds, if a file of them is named. -/
def user (source : Source) (read : FileReader) : Except CommandError (Option Catalogue) :=
  match source.catalogue with
  | none => .ok none
  | some path => ((Catalogue.ofContent path (read path)).mapError (.loading path)).map some

def builtIn (source : Source) : Catalogue := if source.noDefaults then {} else Catalogue.builtIn

theorem result_stack (source : Source) :
    (source.stack read).result =
      (source.user read).map fun user => Stack.ofCatalogue (source.builtIn.merge user) := by
  rw [stack, user]
  cases source.catalogue with
  | none => rfl
  | some path =>
      simp only [Logged.result_bind, Logged.result_note, Logged.result_attempt]
      cases Catalogue.ofContent path (read path) <;> rfl

end Source

/-- What is written if the input was expanded. -/
def ParseOptions.made (options : ParseOptions) (input expanded : String) : Output where
  text := if options.diff then Diff.report input expanded false else expanded
  path := options.output
  closing := [⟨.info, parseTarget, "Parse completed."⟩]

theorem ParseOptions.result_run (options : ParseOptions) :
    (options.run read standard).result = do
      let user ← options.source.user read
      let input ← options.readInput read standard
      let expanded ← ((options.source.builtIn.merge user).expand input).mapError .expansion
      return options.made input expanded := by
  simp only [run, Logged.result_bind, Source.result_stack]
  cases options.source.user read with
  | error e => rfl
  | ok user =>
      simp only [Logged.result_attempt]
      cases options.readInput read standard with
      | error e => rfl
      | ok input => rfl

theorem RulesOptions.result_run (options : RulesOptions) :
    (options.run read).result = (options.source.stack read).result.map fun s =>
      let text := if options.json then (rulesJson s).pretty else (rulesTable s).render
      { text := text ++ "\n" } := by
  simp only [run, Logged.result_bind]
  cases (options.source.stack read).result <;> rfl

end Stages

/-! ## How a call ends -/

section Plan

variable {call : Call} {read : FileReader} {standard : ByteArray}

theorem Call.plan_of_error (logFilter : Option String) {e : CommandError}
    (failed : (call.command.run read standard).result = .error e) :
    ∃ shown, call.plan logFilter read standard = .finish (failure shown e) := by
  unfold plan
  simp only [failed]
  exact ⟨_, rfl⟩

theorem Call.plan_of_ok (logFilter : Option String) {output : Output}
    (done : (call.command.run read standard).result = .ok output) (unnamed : output.path = none) :
    ∃ shown, call.plan logFilter read standard =
      .finish { code := 0, standardOutput := output.text, standardError := shown } := by
  unfold plan
  simp only [done, unnamed]
  exact ⟨_, rfl⟩

end Plan

end ShortcodeExpansion.CommandLine
