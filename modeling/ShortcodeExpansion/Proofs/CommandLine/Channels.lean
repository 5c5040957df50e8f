import ShortcodeExpansion.Proofs.Catalogue.Validation
import ShortcodeExpansion.Proofs.CommandLine.Endings
import ShortcodeExpansion.Proofs.Files

/-!
# Where the input comes from and where the output goes

What the parse command makes depends on the shortcodes, on the text and on whether a diff is asked
for.  It does not matter whether the text comes from the standard input or from a file, and whether
the result goes to the standard output or to a file, which may be the input file itself or the
shortcode file.
-/

set_option autoImplicit false

namespace ShortcodeExpansion.CommandLine

/-! ## The bytes that a call makes -/

/-- What the parse command makes of a text. -/
def Source.product (source : Source) (diff : Bool) (read : FileReader) (content : String) :
    Except CommandError ByteArray := do
  let user ← source.user read
  let expanded ← ((source.builtIn.merge user).expand content).mapError .expansion
  return (if diff then Diff.report content expanded false else expanded).toUTF8

/-- A product depends on no other file than the one of the shortcodes. -/
theorem Source.product_congr {source : Source} {diff : Bool} {read other : FileReader}
    {content : String} (same : ∀ path ∈ source.catalogue, read path = other path) :
    source.product diff read content = source.product diff other content := by
  have user : source.user read = source.user other := by
    unfold Source.user
    cases named : source.catalogue with
    | none => rfl
    | some path =>
        dsimp only
        rw [same path named]
  rw [product, product, user]

/-- Arguments that ask for the parse command, with a text that comes in by the channel they name and
an output that can go where they say. -/
structure Parses (options : ParseOptions) (content : String) (arguments : List String)
    (around : Surroundings) : Prop where
  asks : ∃ call, Call.ofArguments arguments around.catalogue = .ok call ∧
    call.command = .parse options
  receives : match options.input with
    | none => around.standardInput = content.toUTF8
    | some path => around.files.read path = .ok content.toUTF8
  creatable : ∀ path ∈ options.output, ∃ names, around.files.target path = .ok names

/-- Bytes go to the standard output, or to a file and nowhere else. -/
def Delivers (output : Option String) (files : FileSystem) (bytes : ByteArray) (outcome : Outcome) :
    Prop :=
  outcome.ending.code = 0 ∧
    match output with
    | none => outcome.ending.standardOutput.toUTF8 = bytes ∧ outcome.files = files
    | some path =>
        outcome.ending.standardOutput = "" ∧ outcome.files.read path = .ok bytes ∧
          outcome.files.here = files.here ∧ ∃ names, files.target path = .ok names ∧
            ∀ other, other ≠ names → outcome.files.content? other = files.content? other

/-- An error is reported, and nothing else is done. -/
def Refuses (files : FileSystem) (e : CommandError) (outcome : Outcome) : Prop :=
  (∃ shown, outcome.ending = failure shown e) ∧ outcome.files = files

section Run

variable {options : ParseOptions} {content : String} {arguments : List String}
  {around : Surroundings}

theorem Parses.readInput (parses : Parses options content arguments around) :
    options.readInput around.files.read around.standardInput = .ok content := by
  have receives := parses.receives
  unfold ParseOptions.readInput
  cases named : options.input with
  | none =>
      rw [named] at receives
      dsimp only at receives ⊢
      rw [receives]
      exact mapError_eq_ok_iff.mpr (decodeText_toUTF8 content)
  | some path =>
      rw [named] at receives
      dsimp only at receives ⊢
      rw [receives]
      exact mapError_eq_ok_iff.mpr (decodeText_toUTF8 content)

theorem Parses.product (parses : Parses options content arguments around) :
    options.source.product options.diff around.files.read content =
      (options.run around.files.read around.standardInput).result.map fun output =>
        output.text.toUTF8 := by
  rw [ParseOptions.result_run, Source.product, parses.readInput]
  cases options.source.user around.files.read with
  | error e => rfl
  | ok user =>
      dsimp only [bind, Except.bind]
      cases (options.source.builtIn.merge user).expand content <;> rfl

/-- A call that can read its input and make its output file delivers what it makes of the text. -/
theorem Parses.ends (parses : Parses options content arguments around) :
    match options.source.product options.diff around.files.read content with
    | .ok bytes => Delivers options.output around.files bytes (run arguments around)
    | .error e => Refuses around.files e (run arguments around) := by
  obtain ⟨call, read, command⟩ := parses.asks
  have ends := run_of_call read
  have ofRun := @ParseOptions.path_of_run options around
  rw [parses.product]
  rw [command, Command.run] at ends
  generalize (options.run around.files.read around.standardInput).result = done at ends ofRun ⊢
  generalize run arguments around = outcome at ends ⊢
  cases ends with
  | failed e shown => exact ⟨⟨shown, rfl⟩, rfl⟩
  | printed text closing shown =>
      have unnamed : none = options.output := ofRun rfl
      rw [← unnamed]
      exact ⟨rfl, rfl, rfl⟩
  | @written text path closing shown names target =>
      have named : some path = options.output := ofRun rfl
      rw [← named]
      refine ⟨rfl, rfl, FileSystem.read_put_target target, rfl, names, target, ?_⟩
      intro other apart
      rw [FileSystem.content?_put, if_neg apart]
  | @refused text path closing shown cause target =>
      have named : some path = options.output := ofRun rfl
      -- The output file can be made, so this ending does not come.
      obtain ⟨names, found⟩ := parses.creatable path named.symm
      rw [target] at found
      cases found

end Run

/-- Two calls with the same shortcodes and the same text deliver the same bytes, by whichever
channels, or are refused for the same reason. -/
theorem run_channels {options others : ParseOptions} {content : String}
    {arguments words : List String} {around beside : Surroundings}
    (parses : Parses options content arguments around)
    (alike : Parses others content words beside)
    (source : options.source = others.source) (diff : options.diff = others.diff)
    (shortcodes : ∀ path ∈ options.source.catalogue,
      around.files.read path = beside.files.read path) :
    (run arguments around).ending.code = (run words beside).ending.code ∧
      match options.source.product options.diff around.files.read content with
      | .ok bytes =>
          Delivers options.output around.files bytes (run arguments around) ∧
            Delivers others.output beside.files bytes (run words beside)
      | .error e =>
          Refuses around.files e (run arguments around) ∧
            Refuses beside.files e (run words beside) := by
  have first := parses.ends
  have second := alike.ends
  rw [← source, ← diff, ← Source.product_congr shortcodes] at second
  generalize options.source.product options.diff around.files.read content = made
    at first second ⊢
  cases made with
  | ok bytes => exact ⟨first.1.trans second.1.symm, first, second⟩
  | error e =>
      obtain ⟨⟨shown, ending⟩, unchanged⟩ := first
      obtain ⟨⟨announced, other⟩, kept⟩ := second
      refine ⟨?_, ⟨⟨shown, ending⟩, unchanged⟩, ⟨announced, other⟩, kept⟩
      rw [ending, other]
      rfl

/-- A shortcode file with one raw shortcode, and a text that is both in the standard input and in a
file.  The files are not below the working directory. -/
def bothChannels : Surroundings where
  catalogue := some "/c"
  standardInput := "x hr".toUTF8
  files :=
    { root := ⟨[(["a"], "x hr".toUTF8), (["c"], "shortcodes: [[hr, <hr>, true]]".toUTF8)]⟩
      here := ["home"] }

def fileSource : Source := { catalogue := some "/c", noDefaults := true }

theorem product_fileSource : fileSource.product false bothChannels.files.read "x hr" =
    .ok "x <hr>".toUTF8 := by
  have content : bothChannels.files.read "/c" =
      .ok "shortcodes: [[hr, <hr>, true]]".toUTF8 := by
    rw [FileSystem.read, FileSystem.splitOn_short.2]
    rfl
  have read : Catalogue.ofYaml "shortcodes: [[hr, <hr>, true]]" =
      .ok ⟨[.record ⟨"hr", "<hr>", true⟩]⟩ :=
    Catalogue.ofYaml_eq_ok_iff.mpr ⟨by decide +kernel, by decide +kernel⟩
  have user : fileSource.user bothChannels.files.read =
      .ok (some ⟨[.record ⟨"hr", "<hr>", true⟩]⟩) := by
    rw [Source.user, fileSource]
    dsimp only
    rw [Catalogue.ofContent, content]
    simp only [bind, Except.bind, decodeText_toUTF8, Except.mapError, read, Except.map]
  rw [Source.product, user]
  rfl

/-- One call uses the standard channels, the other rewrites a file in its place. -/
theorem run_channels_in_place :
    Parses { source := fileSource } "x hr" ["parse", "--no-defaults"] bothChannels ∧
      Parses { input := some "/a", output := some "/a", source := fileSource } "x hr"
        ["parse", "--no-defaults", "-i", "/a", "-o", "/a"] bothChannels ∧
      Delivers none bothChannels.files "x <hr>".toUTF8
        (run ["parse", "--no-defaults"] bothChannels) ∧
      Delivers (some "/a") bothChannels.files "x <hr>".toUTF8
        (run ["parse", "--no-defaults", "-i", "/a", "-o", "/a"] bothChannels) := by
  have content : bothChannels.files.read "/a" = .ok "x hr".toUTF8 := by
    rw [FileSystem.read, FileSystem.splitOn_short.1]
    rfl
  have target : bothChannels.files.target "/a" = .ok ["a"] := by
    rw [FileSystem.target, FileSystem.splitOn_short.1]
    rfl
  have direct : Parses { source := fileSource } "x hr" ["parse", "--no-defaults"] bothChannels :=
    ⟨⟨_, rfl, rfl⟩, rfl, fun path named => by simp at named⟩
  have inPlace : Parses { input := some "/a", output := some "/a", source := fileSource } "x hr"
      ["parse", "--no-defaults", "-i", "/a", "-o", "/a"] bothChannels := by
    refine ⟨⟨_, rfl, rfl⟩, content, fun path named => ⟨["a"], ?_⟩⟩
    obtain rfl : "/a" = path := by simpa using named
    exact target
  have delivered := (run_channels direct inPlace rfl rfl fun _ _ => rfl).2
  dsimp only at delivered
  rw [product_fileSource] at delivered
  exact ⟨direct, inPlace, delivered⟩

end ShortcodeExpansion.CommandLine
