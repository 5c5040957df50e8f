import ShortcodeExpansion.Proofs.CommandLine.Stages
import ShortcodeExpansion.Proofs.Results

/-!
# How a call ends

A call ends in one of a few ways, and leaves the files alone in all of them but one: when its
command has made its output, and that goes to a file which can be made.
-/

set_option autoImplicit false

namespace ShortcodeExpansion.CommandLine

/-- How a call ends when its command has come to a result. -/
inductive Ends (files : FileSystem) : Except CommandError Output → Outcome → Prop where
  | failed (e : CommandError) (shown : String) : Ends files (.error e) ⟨failure shown e, files⟩
  | printed (text : String) (closing : List LogRecord) (shown : String) :
      Ends files (.ok ⟨text, none, closing⟩)
        ⟨{ code := 0, standardOutput := text, standardError := shown }, files⟩
  | written (text : String) {path : String} (closing : List LogRecord) (shown : String)
      {names : List String} (target : files.target path = .ok names) :
      Ends files (.ok ⟨text, some path, closing⟩)
        ⟨{ code := 0, standardError := shown }, files.put names text.toUTF8⟩
  /-- The file that the output goes to cannot be made. -/
  | refused (text : String) {path : String} (closing : List LogRecord) (shown : String)
      {cause : FileError} (target : files.target path = .error cause) :
      Ends files (.ok ⟨text, some path, closing⟩) ⟨failure shown (.output path cause), files⟩

/-- The output goes where the options say. -/
theorem ParseOptions.path_of_run {options : ParseOptions} {around : Surroundings} {output : Output}
    (done : (options.run around.files.read around.standardInput).result = .ok output) :
    output.path = options.output := by
  rw [ParseOptions.result_run] at done
  obtain ⟨user, -, done⟩ := bind_eq_ok_iff.mp done
  obtain ⟨input, -, done⟩ := bind_eq_ok_iff.mp done
  obtain ⟨expanded, -, done⟩ := bind_eq_ok_iff.mp done
  exact Except.ok.inj done ▸ rfl

section Call

variable {call : Call} {read : FileReader} {standard : ByteArray}

theorem Call.plan_of_path (logFilter : Option String) {output : Output} {path : String}
    (done : (call.command.run read standard).result = .ok output)
    (named : output.path = some path) :
    ∃ ending, call.plan logFilter read standard = .write path output.text ending ∧
      (∃ shown, ending (.ok ()) = { code := 0, standardError := shown }) ∧
      ∃ shown, ∀ cause, ending (.error cause) = failure shown (.output path cause) := by
  unfold plan
  simp only [done, named]
  exact ⟨_, rfl, ⟨_, rfl⟩, _, fun cause => rfl⟩

theorem Call.ends (call : Call) (logFilter : Option String) (files : FileSystem)
    (standard : ByteArray) :
    Ends files (call.command.run files.read standard).result
      ((call.plan logFilter files.read standard).carryOut files) := by
  cases done : (call.command.run files.read standard).result with
  | error e =>
      obtain ⟨shown, plan⟩ := Call.plan_of_error logFilter done
      rw [plan]
      exact .failed e shown
  | ok output =>
      obtain ⟨text, path, closing⟩ := output
      cases path with
      | none =>
          obtain ⟨shown, plan⟩ := Call.plan_of_ok logFilter done rfl
          rw [plan]
          exact .printed text closing shown
      | some path =>
          obtain ⟨ending, plan, ⟨shown, fine⟩, announced, refused⟩ :=
            Call.plan_of_path logFilter done rfl
          rw [plan, Plan.carryOut, FileSystem.write]
          cases target : files.target path with
          | error cause =>
              simp only [Except.map, refused]
              exact .refused text closing announced target
          | ok names =>
              simp only [Except.map, fine]
              exact .written text closing shown target

end Call

section Run

variable {arguments : List String} {around : Surroundings}

/-- A call whose arguments make no sense, or ask for help, runs no command. -/
theorem run_of_detour {detour : Detour}
    (read : Call.ofArguments arguments around.catalogue = .error detour) :
    run arguments around = ⟨detour.ending, around.files⟩ := by
  simp only [run, plan, read, Plan.carryOut]

theorem run_of_call {call : Call}
    (read : Call.ofArguments arguments around.catalogue = .ok call) :
    Ends around.files (call.command.run around.files.read around.standardInput).result
      (run arguments around) := by
  have ends := call.ends around.logFilter around.files around.standardInput
  simpa only [run, plan, read] using ends

end Run

end ShortcodeExpansion.CommandLine
