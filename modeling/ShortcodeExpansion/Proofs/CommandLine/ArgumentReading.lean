import ShortcodeExpansion.CommandLine.Arguments

/-!
# Options with values

An option that takes a value has the argument behind it, as long as that does not look like an
option itself.  The value is looked at when the next option comes.
-/

set_option autoImplicit false

namespace ShortcodeExpansion.CommandLine

/-- An argument that an option takes as its value. -/
structure IsValue (argument : String) : Prop where
  filled : argument ≠ ""
  undashed : argument.toList.head? ≠ some '-'

theorem IsValue.shape {argument : String} (value : IsValue argument) :
    Shape.of argument = .word := by
  have undashed := value.undashed
  unfold Shape.of
  cases chars : argument.toList with
  | nil => rfl
  | cons c rest =>
      have other : c ≠ '-' := by simpa [chars] using undashed
      split <;> simp_all

/-- A name that stands for an option, alone in its argument. -/
def Names (level : Level) (name : String) (field : Field) : Prop :=
  (∃ letter, Shape.of name = .short [letter] ∧ level.short? letter = some (.field field)) ∨
    ∃ long, Shape.of name = .long long none ∧ level.long? long = some (.field field)

section Options

variable {level : Level} {name value : String} {field : Field} {rest : List String}

theorem readCommand_option (names : Names level name field) (isValue : IsValue value)
    (r : Reading) : readCommand level r (name :: value :: rest) =
      r.settle >>= fun settled =>
        readCommand level { settled with pending := some (field, some value) } rest := by
  have taken : ∀ settled : Reading,
      readCommand level { settled with pending := some (field, none) } (value :: rest) =
        readCommand level { settled with pending := some (field, some value) } rest := by
    intro settled
    rw [readCommand, isValue.shape]
    rfl
  rcases names with ⟨letter, shape, known⟩ | ⟨long, shape, known⟩
  · rw [readCommand, shape]
    simp only [Reading.readShort, known, Reading.act]
    cases r.settle with
    | error detour => rfl
    | ok settled => exact taken settled
  · rw [readCommand, shape]
    simp only [Reading.readLong, known, Reading.act]
    cases r.settle with
    | error detour => rfl
    | ok settled => exact taken settled

theorem settle_value (fields : List (Field × String)) (isValue : IsValue value)
    (unset : Reading.field? { fields } field = none) :
    Reading.settle { fields, pending := some (field, some value) } =
      .ok { fields := (field, value) :: fields } := by
  have filled : value.isEmpty = false := by simpa using isValue.filled
  simp [Reading.settle, Reading.setField, unset, filled]

end Options

/-- A call of the parse command without switches. -/
theorem ofArguments_parse {arguments : List String} {r : Reading}
    (read : readCommand .parse {} arguments = .ok r) (plain : r.switches = []) :
    Call.ofArguments ("parse" :: arguments) none = .ok { command := .parse {
      input := r.field? .input
      output := r.field? .output
      source := { catalogue := r.field? .catalogue } } } := by
  have top : readTop {} ("parse" :: arguments) = .ok ({}, .parse, arguments) := rfl
  have source : r.source none = .ok { catalogue := r.field? .catalogue } := by
    unfold Reading.source
    rw [plain]
    cases r.field? .catalogue <;> rfl
  rw [Call.ofArguments, top]
  simp only [bind, Except.bind, read, source, plain]
  rfl

/-- The arguments of a call that expands a file and writes the result to the standard output. -/
inductive ExpandsFile (input : String) : Option String → List String → Prop where
  | plain : ExpandsFile input none ["parse", "-i", input]
  | configBehind (path : String) :
      ExpandsFile input (some path) ["parse", "-i", input, "--config", path]
  | configBefore (path : String) :
      ExpandsFile input (some path) ["parse", "--config", path, "-i", input]

theorem ExpandsFile.call {input : String} {catalogue : Option String} {arguments : List String}
    (expands : ExpandsFile input catalogue arguments) (isInput : IsValue input)
    (isCatalogue : ∀ path ∈ catalogue, IsValue path) :
    Call.ofArguments arguments none =
      .ok { command := .parse { input := some input, source := { catalogue } } } := by
  have asInput : Names .parse "-i" .input := .inl ⟨'i', by decide, by decide⟩
  have asCatalogue : Names .parse "--config" .catalogue := .inr ⟨"config", by decide, by decide⟩
  cases expands with
  | plain =>
      have read : readCommand .parse {} ["-i", input] = .ok { fields := [(.input, input)] } := by
        rw [readCommand_option asInput isInput]
        exact settle_value [] isInput rfl
      exact ofArguments_parse read rfl
  | configBehind path =>
      have isPath : IsValue path := isCatalogue path rfl
      have read : readCommand .parse {} ["-i", input, "--config", path] =
          .ok { fields := [(.catalogue, path), (.input, input)] } := by
        calc readCommand .parse {} ["-i", input, "--config", path]
          _ = readCommand .parse { pending := some (.input, some input) } ["--config", path] :=
              readCommand_option asInput isInput {}
          _ = Reading.settle {
                fields := [(.input, input)], pending := some (.catalogue, some path) } := by
              rw [readCommand_option asCatalogue isPath, settle_value [] isInput rfl]
              rfl
          _ = .ok { fields := [(.catalogue, path), (.input, input)] } :=
              settle_value [(.input, input)] isPath rfl
      exact ofArguments_parse read rfl
  | configBefore path =>
      have isPath : IsValue path := isCatalogue path rfl
      have read : readCommand .parse {} ["--config", path, "-i", input] =
          .ok { fields := [(.input, input), (.catalogue, path)] } := by
        calc readCommand .parse {} ["--config", path, "-i", input]
          _ = readCommand .parse { pending := some (.catalogue, some path) } ["-i", input] :=
              readCommand_option asCatalogue isPath {}
          _ = Reading.settle {
                fields := [(.catalogue, path)], pending := some (.input, some input) } := by
              rw [readCommand_option asInput isInput, settle_value [] isPath rfl]
              rfl
          _ = .ok { fields := [(.input, input), (.catalogue, path)] } :=
              settle_value [(.catalogue, path)] isInput rfl
      exact ofArguments_parse read rfl

end ShortcodeExpansion.CommandLine
