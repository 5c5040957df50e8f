import ShortcodeExpansion.CommandLine.Arguments
import ShortcodeExpansion.CommandLine.Logged
import ShortcodeExpansion.Diff.Report
import ShortcodeExpansion.Json.Printer
import ShortcodeExpansion.Terminal.Table

/-!
# Running a command

A command first does all that may fail but for opening the file it writes to: it loads shortcodes,
reads its input and makes its output.  Only then does it write, so that a command that fails has
written nothing.
-/

set_option autoImplicit false

namespace ShortcodeExpansion.CommandLine

/-- What a call finds around it. -/
structure Surroundings where
  /-- The shortcode file that the environment names. -/
  catalogue : Option String := none
  /-- The text of the log filter that the environment gives. -/
  logFilter : Option String := none
  standardInput : ByteArray := .empty
  files : FileSystem := {}

/-- Gives the content of a file. -/
abbrev FileReader := String → Except FileError ByteArray

/-! ## Records of the steps -/

def catalogueTarget : String := "shortcoder_core::config"

def ruleTarget : String := "shortcoder_core::compiler"

def stackTarget : String := "shortcoder_core::shortcoder"

def commandTarget : String := "shortcoder::commands"

def parseTarget : String := "shortcoder::commands::parse"

def builtInRecords : List LogRecord :=
  [⟨.debug, catalogueTarget, "Loading default shortcodes from embedded string..."⟩,
    ⟨.debug, catalogueTarget, s!"Loaded {Catalogue.builtIn.entries.length} default shortcodes."⟩]

def loadRecord (path : String) : LogRecord :=
  ⟨.info, catalogueTarget, "Loading custom shortcodes from: " ++ path⟩

def loadedRecord (path : String) (c : Catalogue) : LogRecord :=
  ⟨.info, catalogueTarget, s!"Loaded {c.entries.length} shortcode entries from file {path}."⟩

def mergeRecords (builtIn : Catalogue) (user : Option Catalogue) : List LogRecord :=
  let start : LogRecord :=
    ⟨.debug, catalogueTarget,
      s!"merge_shortcodes called. Default entries: {builtIn.entries.length}"⟩
  start :: user.toList.map fun c =>
    ⟨.debug, catalogueTarget, s!"Merging {c.entries.length} user entries."⟩

def addRecords (s : Stack) (shortcode : Shortcode) : List LogRecord :=
  match Rule.ofShortcode? shortcode with
  | none => [⟨.debug, ruleTarget, "Skipping shortcode with blank pattern."⟩]
  | some rule =>
      let made : LogRecord :=
        ⟨.debug, ruleTarget,
          "Compiled shortcode '" ++ shortcode.pattern ++ "' into pattern '" ++ rule.pattern ++
            "' with replacement '" ++ rule.replacement ++ "'."⟩
      let skipped : LogRecord :=
        ⟨.debug, stackTarget,
          "Rule for '" ++ shortcode.pattern ++ "' already on the stack, skipping."⟩
      if s.contains rule then [made, skipped] else [made]

/-- The records of adding shortcodes, in order. -/
def addAllRecords (s : Stack) : List Shortcode → List LogRecord
  | [] => []
  | shortcode :: rest => addRecords s shortcode ++ addAllRecords (s.addShortcode shortcode) rest

/-- The rules that are compiled when a text is expanded: all of them, or if one fails, those up to
the first with its pattern. -/
def compiledRules (rules : List Rule) (result : Except RuleError String) : List Rule :=
  match result with
  | .ok _ => rules
  | .error e =>
      let before := rules.takeWhile fun rule => rule.pattern ≠ e.pattern
      before ++ (rules.drop before.length).take 1

def compileRecord (rule : Rule) : LogRecord :=
  ⟨.debug, ruleTarget, "Compiling pattern '" ++ rule.pattern ++ "'."⟩

/-! ## Commands -/

/-- Loads shortcodes and makes their stack. -/
def Source.stack (source : Source) (read : FileReader) : Logged Stack := do
  let builtIn := if source.noDefaults then {} else Catalogue.builtIn
  Logged.note (if source.noDefaults then [] else builtInRecords)
  let user ← match source.catalogue with
    | none => Logged.pure none
    | some path => do
        Logged.note [loadRecord path]
        let c ← Logged.attempt ((Catalogue.ofContent path (read path)).mapError (.loading path))
        Logged.note [loadedRecord path c]
        Logged.pure (some c)
  let shortcodes := (builtIn.merge user).shortcodes
  let s := Stack.ofShortcodes shortcodes
  Logged.note (mergeRecords builtIn user ++ addAllRecords {} shortcodes)
  Logged.note [⟨.debug, commandTarget, s!"Shortcoder ready with {s.size} rules."⟩]
  Logged.pure s

structure Output where
  text : String
  /-- The file it goes to, if not to the standard output. -/
  path : Option String := none
  /-- What is noted after writing. -/
  closing : List LogRecord := []
deriving DecidableEq, Repr

def ParseOptions.readInput (options : ParseOptions) (read : FileReader) (standard : ByteArray) :
    Except CommandError String :=
  match options.input with
  | some path => (read path >>= decodeText).mapError (.input path)
  | none => (decodeText standard).mapError .standardInput

def expandLogged (s : Stack) (text : String) : Logged String :=
  let result := s.expand text
  ⟨(compiledRules s.rules result).map compileRecord, result.mapError .expansion⟩

def ParseOptions.run (options : ParseOptions) (read : FileReader) (standard : ByteArray) :
    Logged Output := do
  let s ← options.source.stack read
  let input ← Logged.attempt (options.readInput read standard)
  let expanded ← expandLogged s input
  Logged.note [⟨.debug, parseTarget,
    "Input expanded. Original length: " ++ toString input.utf8ByteSize ++
      ", expanded length: " ++ toString expanded.utf8ByteSize⟩]
  Logged.pure {
    text := if options.diff then Diff.report input expanded false else expanded
    path := options.output
    closing := [⟨.info, parseTarget, "Parse completed."⟩] }

/-- The rules in a table, numbered in the order in which they apply. -/
def rulesTable (s : Stack) : Table where
  heading := ["#", "Pattern", "Replacement"]
  rows := s.rules.zipIdx.map fun (rule, i) => [toString (i + 1), rule.pattern, rule.replacement]

def ruleJson (rule : Rule) : Json :=
  .object [("pattern", .string rule.pattern), ("replacement", .string rule.replacement)]

def rulesJson (s : Stack) : Json := .array (s.rules.map ruleJson)

def RulesOptions.run (options : RulesOptions) (read : FileReader) : Logged Output := do
  let s ← options.source.stack read
  let text := if options.json then (rulesJson s).pretty else (rulesTable s).render
  Logged.pure { text := text ++ "\n" }

def Command.run (command : Command) (read : FileReader) (standard : ByteArray) : Logged Output :=
  match command with
  | .parse options => options.run read standard
  | .rules options => options.run read

/-! ## Calls -/

/-- How a call ends that writes no file, or has written it. -/
structure Ending where
  code : Nat
  standardOutput : String := ""
  standardError : String := ""
deriving DecidableEq, Repr

/-- What is left to do after a command has made its output. -/
inductive Plan where
  | finish (ending : Ending)
  /-- A file is written, and the call ends as it succeeds or not. -/
  | write (path text : String) (ending : Except FileError Unit → Ending)

/-- The log filter of a call; the switches overrule what it says for all targets. -/
def Call.filter (call : Call) (filter : LogFilter) : LogFilter :=
  if call.quiet then filter.withDirective ⟨none, .off⟩
  else if call.debug then filter.withDirective ⟨none, .debug⟩
  else filter

def failure (shown : String) (e : CommandError) : Ending :=
  { code := 1, standardError := shown ++ "Error: " ++ e.chain.report ++ "\n" }

/-- Runs a command up to the point where a file is written. -/
def Call.plan (call : Call) (logFilter : Option String) (read : FileReader)
    (standard : ByteArray) : Plan :=
  let reading := FilterReading.ofText (logFilter.getD "warn")
  let filter := call.filter reading.filter
  let done := call.command.run read standard
  let shown := reading.print ++ filter.print done.records
  match done.result with
  | .error e => .finish (failure shown e)
  | .ok output =>
      let closing := filter.print output.closing
      match output.path with
      | none =>
          .finish { code := 0, standardOutput := output.text, standardError := shown ++ closing }
      | some path =>
          let announced :=
            if call.quiet then shown
            else shown ++ messageLine ("Writing output to file: " ++ path) false
          .write path output.text fun
            | .ok () => { code := 0, standardError := announced ++ closing }
            | .error cause => failure announced (.output path cause)

def programName : String := "shortcoder"

def programVersion : String := "0.1.0"

/-- How the program is called. -/
def usage : String :=
  "Usage: " ++ programName ++ " [OPTIONS] <COMMAND>\n\n" ++
    "Commands:\n" ++
    "  parse  Expands shortcodes in an input file or stdin.\n" ++
    "  rules  Prints the compiled rule stack in application order.\n" ++
    "  help   Print this message or the help of the given subcommand(s)\n\n" ++
    "Options:\n" ++
    "  -q, --quiet    Suppress all informational and debug messages.\n" ++
    "  -d, --debug    Enable debug logging.\n" ++
    "  -h, --help     Print help\n" ++
    "  -V, --version  Print version\n"

/-- How a call ends that runs no command.  Only the exit code and the channel are those of each
case.  The help text of each command and the message about each wrong call are left out, and the
usage text stands in their place. -/
def Detour.ending : Detour → Ending
  | .help => { code := 0, standardOutput := usage }
  | .version => { code := 0, standardOutput := programName ++ " " ++ programVersion ++ "\n" }
  | .helpForNothing | .missingCommand | .unknownCommand | .unknownArgument | .missingValue
  | .unneededValue | .repeated => { code := 2, standardError := usage }

/-- What is left to do for a call with given arguments. -/
def plan (arguments : List String) (catalogue logFilter : Option String) (read : FileReader)
    (standard : ByteArray) : Plan :=
  match Call.ofArguments arguments catalogue with
  | .error detour => .finish detour.ending
  | .ok call => call.plan logFilter read standard

structure Outcome where
  ending : Ending
  /-- The files after the call. -/
  files : FileSystem
deriving DecidableEq

def Plan.carryOut (files : FileSystem) : Plan → Outcome
  | .finish ending => ⟨ending, files⟩
  | .write path text ending =>
      match files.write path text with
      | .ok written => ⟨ending (.ok ()), written⟩
      | .error cause => ⟨ending (.error cause), files⟩

/-- Runs a call. -/
def run (arguments : List String) (around : Surroundings) : Outcome :=
  (plan arguments around.catalogue around.logFilter around.files.read
    around.standardInput).carryOut around.files

end ShortcodeExpansion.CommandLine
