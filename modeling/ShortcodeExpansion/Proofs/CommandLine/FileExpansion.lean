import ShortcodeExpansion.Proofs.CommandLine.ArgumentReading
import ShortcodeExpansion.Proofs.CommandLine.Stages
import ShortcodeExpansion.Proofs.Results
import ShortcodeExpansion.Proofs.Stack.Expansion

/-!
# Expanding a file by a call

A call of the parse command expands a file as `expandFile` does.  The two are made of the same
stages, each with errors of its own, so they fail at the same stage and for the same cause.
-/

set_option autoImplicit false

namespace ShortcodeExpansion

/-! ## What an expansion fails of -/

/-- The shortcodes of a file, if one is named. -/
def userCatalogue (files : FileSystem) (catalogue : Option String) :
    Except LoadError (Option Catalogue) :=
  match catalogue with
  | none => .ok none
  | some path => (Catalogue.load files path).map some

section ExpandFile

variable {files : FileSystem} {catalogue : Option String} {input : String}

theorem expandFile_eq_bind : expandFile files catalogue input =
    ((userCatalogue files catalogue).mapError .catalogue >>= fun user =>
      (files.readText input).mapError .input >>= fun text =>
        ((Catalogue.builtIn.merge user).expand text).mapError .rule) := by
  unfold expandFile userCatalogue
  cases catalogue with
  | none => rfl
  | some path =>
      dsimp only
      cases Catalogue.load files path <;> rfl

theorem userCatalogue_eq_error_iff {cause : LoadError} :
    userCatalogue files catalogue = .error cause ↔
      ∃ path, catalogue = some path ∧ Catalogue.load files path = .error cause := by
  cases catalogue with
  | none => simp [userCatalogue]
  | some path => cases found : Catalogue.load files path <;> simp [userCatalogue, found, Except.map]

theorem expandFile_eq_ok_iff {out : String} : expandFile files catalogue input = .ok out ↔
    ∃ user, userCatalogue files catalogue = .ok user ∧ ∃ text, files.readText input = .ok text ∧
      (Catalogue.builtIn.merge user).expand text = .ok out := by
  simp only [expandFile_eq_bind, bind_eq_ok_iff, mapError_eq_ok_iff]

theorem expandFile_eq_catalogue_error_iff {cause : LoadError} :
    expandFile files catalogue input = .error (.catalogue cause) ↔
      userCatalogue files catalogue = .error cause := by
  simp [expandFile_eq_bind, bind_eq_error_iff, mapError_eq_error_iff]

theorem expandFile_eq_input_error_iff {cause : FileError} :
    expandFile files catalogue input = .error (.input cause) ↔
      (∃ user, userCatalogue files catalogue = .ok user) ∧
        files.readText input = .error cause := by
  simp [expandFile_eq_bind, bind_eq_error_iff, mapError_eq_error_iff, mapError_eq_ok_iff]

theorem expandFile_eq_rule_error_iff {cause : RuleError} :
    expandFile files catalogue input = .error (.rule cause) ↔
      ∃ user, userCatalogue files catalogue = .ok user ∧ ∃ text, files.readText input = .ok text ∧
        (Catalogue.builtIn.merge user).expand text = .error cause := by
  simp [expandFile_eq_bind, bind_eq_error_iff, mapError_eq_error_iff, mapError_eq_ok_iff]

end ExpandFile

def LoadError.path : LoadError → String
  | .unreadable path _ | .unusable path _ => path

theorem LoadError.path_of_ofContent {path : String} {content : Except FileError ByteArray}
    {cause : LoadError} (failed : Catalogue.ofContent path content = .error cause) :
    cause.path = path := by
  rcases bind_eq_error_iff.mp failed with unread | ⟨text, -, unusable⟩
  · obtain ⟨_, -, rfl⟩ := mapError_eq_error_iff.mp unread
    rfl
  · obtain ⟨_, -, rfl⟩ := mapError_eq_error_iff.mp unusable
    rfl

namespace CommandLine

/-- The error of a call that corresponds to the one of an expansion. -/
def CommandError.ofExpansion (input : String) : ExpansionError → CommandError
  | .catalogue cause => .loading cause.path cause
  | .input cause => .input input cause
  | .rule cause => .expansion cause

section Run

variable {files : FileSystem} {catalogue : Option String} {input : String} {standard : ByteArray}

theorem user_eq_mapError : Source.user { catalogue } files.read =
    (userCatalogue files catalogue).mapError fun cause => .loading cause.path cause := by
  cases catalogue with
  | none => rfl
  | some path =>
      cases loaded : Catalogue.ofContent path (files.read path) with
      | ok c =>
          simp [Source.user, userCatalogue, Catalogue.load, loaded, Except.mapError, Except.map]
      | error cause =>
          have named := LoadError.path_of_ofContent loaded
          simp [Source.user, userCatalogue, Catalogue.load, loaded, Except.mapError, Except.map,
            named]

/-- The call does what the expansion does, stage by stage. -/
theorem result_run_eq_expandFile :
    (ParseOptions.run { input := some input, source := { catalogue } } files.read
      standard).result =
        ((expandFile files catalogue input).mapError (.ofExpansion input)).map fun out =>
          { text := out, closing := [⟨.info, parseTarget, "Parse completed."⟩] } := by
  have reads : ParseOptions.readInput { input := some input, source := { catalogue } } files.read
      standard = (files.readText input).mapError (.input input) := rfl
  have builtIn : Source.builtIn { catalogue } = Catalogue.builtIn := rfl
  rw [ParseOptions.result_run, expandFile_eq_bind, user_eq_mapError, reads, builtIn]
  cases userCatalogue files catalogue with
  | error cause => rfl
  | ok user =>
      cases files.readText input with
      | error cause => rfl
      | ok text =>
          dsimp only [bind, Except.bind, Except.mapError]
          cases (Catalogue.builtIn.merge user).expand text <;> rfl

/-- What comes of the three stages of an expansion; the first that fails ends it. -/
structure EndsAtFirst (files : FileSystem) (catalogue : Option String) (input : String) : Prop where
  done : ∀ out, expandFile files catalogue input = .ok out ↔
    ∃ user, userCatalogue files catalogue = .ok user ∧
      ∃ text, files.readText input = .ok text ∧
        (Catalogue.builtIn.merge user).expand text = .ok out
  loading : ∀ cause, expandFile files catalogue input = .error (.catalogue cause) ↔
    ∃ path, catalogue = some path ∧ Catalogue.load files path = .error cause
  reading : ∀ cause, expandFile files catalogue input = .error (.input cause) ↔
    (∃ user, userCatalogue files catalogue = .ok user) ∧ files.readText input = .error cause
  /-- The text does not matter if a rule does not compile. -/
  expanding : ∀ cause, expandFile files catalogue input = .error (.rule cause) ↔
    ∃ user, userCatalogue files catalogue = .ok user ∧
      (∃ text, files.readText input = .ok text) ∧
      (Catalogue.builtIn.merge user).shortcodes.findSome? Shortcode.failure? = some cause

theorem endsAtFirst : EndsAtFirst files catalogue input where
  done out := expandFile_eq_ok_iff
  loading cause := by rw [expandFile_eq_catalogue_error_iff, userCatalogue_eq_error_iff]
  reading cause := expandFile_eq_input_error_iff
  expanding cause := by
    simp only [expandFile_eq_rule_error_iff, Catalogue.expand, Stack.ofCatalogue,
      Stack.expand_ofShortcodes_eq_error_iff, exists_and_right]

/-- How a call ends, and what it leaves, if it agrees with the expansion of a file. -/
structure Agrees (files : FileSystem) (catalogue : Option String) (input : String) (outcome : Outcome) :
    Prop where
  ok_iff : ∀ out, expandFile files catalogue input = .ok out ↔
    outcome.ending.code = 0 ∧ outcome.ending.standardOutput = out
  error_iff : (∃ e, expandFile files catalogue input = .error e) ↔
    outcome.ending.code = 1 ∧ outcome.ending.standardOutput = ""
  /-- What is reported is the cause for which the expansion fails. -/
  report : ∀ e, expandFile files catalogue input = .error e →
    ∃ shown, outcome.ending = failure shown (.ofExpansion input e)
  files : outcome.files = files

theorem agrees_of_call {call : Call} {logFilter : Option String}
    (command : call.command = .parse { input := some input, source := { catalogue } }) :
    Agrees files catalogue input
      ((call.plan logFilter files.read standard).carryOut files) := by
  have result : (call.command.run files.read standard).result =
      ((expandFile files catalogue input).mapError (.ofExpansion input)).map fun out =>
        { text := out, closing := [⟨.info, parseTarget, "Parse completed."⟩] } := by
    rw [command]
    exact result_run_eq_expandFile
  cases ends : expandFile files catalogue input with
  | error e =>
      rw [ends] at result
      -- What was logged by then stands before the report; it depends on the filter.
      obtain ⟨shown, plan⟩ := Call.plan_of_error logFilter result
      rw [plan]
      refine ⟨by simp [Plan.carryOut, failure, ends], by simp [Plan.carryOut, failure, ends],
        fun reported same => ?_, rfl⟩
      obtain rfl := Except.error.inj (ends.symm.trans same)
      exact ⟨shown, rfl⟩
  | ok out =>
      rw [ends] at result
      obtain ⟨shown, plan⟩ := Call.plan_of_ok logFilter result rfl
      rw [plan]
      exact ⟨by simp [Plan.carryOut, ends], by simp [Plan.carryOut, ends],
        fun e failed => absurd (ends.symm.trans failed) (by simp), rfl⟩

/-- Expanding a file is the same by a call and by `expandFile`: both succeed with the same text, or
both fail at the same stage and for the same cause. -/
theorem run_agrees {arguments : List String} (expands : ExpandsFile input catalogue arguments)
    (isInput : IsValue input) (isCatalogue : ∀ path ∈ catalogue, IsValue path)
    (logFilter : Option String) :
    Agrees files catalogue input (run arguments ⟨none, logFilter, standard, files⟩) ∧
      EndsAtFirst files catalogue input := by
  refine ⟨?_, endsAtFirst⟩
  rw [run, plan, expands.call isInput isCatalogue]
  exact agrees_of_call rfl

end Run

/-- A shortcode file and an input, the latter in the working directory. -/
def twoFiles : FileSystem where
  root := ⟨[(["etc", "c.yaml"], "shortcodes: [[hr, <hr>, true]]".toUTF8),
    (["home", "in.txt"], "[b]x[/b] hr".toUTF8)]⟩
  here := ["home"]

theorem run_agrees_on_two_files :
    ExpandsFile "in.txt" (some "/etc/c.yaml")
      ["parse", "-i", "in.txt", "--config", "/etc/c.yaml"] ∧
    IsValue "in.txt" ∧ (∀ path ∈ some "/etc/c.yaml", IsValue path) ∧
    Agrees twoFiles (some "/etc/c.yaml") "in.txt"
      (run ["parse", "-i", "in.txt", "--config", "/etc/c.yaml"] ⟨none, none, .empty, twoFiles⟩) ∧
    EndsAtFirst twoFiles (some "/etc/c.yaml") "in.txt" := by
  have expands : ExpandsFile "in.txt" (some "/etc/c.yaml")
      ["parse", "-i", "in.txt", "--config", "/etc/c.yaml"] := .configBehind "/etc/c.yaml"
  have isInput : IsValue "in.txt" := ⟨by decide, by decide⟩
  have isCatalogue : ∀ path ∈ some "/etc/c.yaml", IsValue path := by
    rintro _ ⟨⟩
    exact ⟨by decide, by decide⟩
  exact ⟨expands, isInput, isCatalogue, run_agrees expands isInput isCatalogue none⟩

end CommandLine

end ShortcodeExpansion
