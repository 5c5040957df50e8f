import ShortcodeExpansion.Regex.Compile
import ShortcodeExpansion.Text.Blank

/-!
# Log records and their filter

A record has a level, a target that says where it comes from, and a message.  A filter is made of
directives, each a limit for the targets that start with a name; the directive with the longest name
decides.  A filter may also ask that messages match a pattern.
-/

set_option autoImplicit false

namespace ShortcodeExpansion.CommandLine

/-- How much is logged: nothing, or records up to a level. -/
inductive LogLevel where
  | off
  | error
  | warn
  | info
  | debug
  | trace
deriving DecidableEq, Repr

namespace LogLevel

def rank : LogLevel → Nat
  | .off => 0
  | .error => 1
  | .warn => 2
  | .info => 3
  | .debug => 4
  | .trace => 5

def all : List LogLevel := [.off, .error, .warn, .info, .debug, .trace]

def name : LogLevel → String
  | .off => "OFF"
  | .error => "ERROR"
  | .warn => "WARN"
  | .info => "INFO"
  | .debug => "DEBUG"
  | .trace => "TRACE"

/-- The level with a name, in letters of either case. -/
def ofName? (text : String) : Option LogLevel := all.find? fun level => level.name = text.toUpper

end LogLevel

structure LogRecord where
  level : LogLevel
  target : String
  message : String
deriving DecidableEq, Repr

/-- A record as it is printed; further lines of its message are indented. -/
def LogRecord.line (r : LogRecord) : String :=
  let label := r.level.name ++ "".pushn ' ' (5 - r.level.name.length)
  "[" ++ label ++ " " ++ r.target ++ "] " ++ r.message.replace "\n" "\n    " ++ "\n"

/-- A limit for targets that start with a name, or for all that no name fits. -/
structure LogDirective where
  name : Option String
  limit : LogLevel
deriving DecidableEq, Repr

structure LogFilter where
  directives : List LogDirective := []
  pattern : Option Regex := none

namespace LogFilter

/-- Puts a directive in the place of the one with the same name, or behind the others. -/
def withDirective (f : LogFilter) (d : LogDirective) : LogFilter :=
  let known := f.directives.any fun other => other.name = d.name
  { f with directives :=
      if known then f.directives.map fun other => if other.name = d.name then d else other
      else f.directives ++ [d] }

/-- Whether a directive is about a target. -/
def applies (target : String) (d : LogDirective) : Bool :=
  match d.name with
  | some name => target.startsWith name
  | none => true

def nameSize (d : LogDirective) : Nat := (d.name.map String.utf8ByteSize).getD 0

/-- Of two directives the one with the longer name, and of equally long names the later. -/
def stronger (best : Option LogDirective) (d : LogDirective) : Option LogDirective :=
  match best with
  | some b => if nameSize d < nameSize b then some b else some d
  | none => some d

/-- The limit for a target.  Without any directives errors are let through. -/
def limit (f : LogFilter) (target : String) : LogLevel :=
  if f.directives.isEmpty then .error
  else (((f.directives.filter (applies target)).foldl stronger none).map (·.limit)).getD .off

def passes (f : LogFilter) (r : LogRecord) : Bool :=
  r.level.rank ≤ (f.limit r.target).rank &&
    f.pattern.all fun pattern => !(pattern.matchesIn r.message.toList).isEmpty

/-- The records that pass, as they are printed. -/
def print (f : LogFilter) (records : List LogRecord) : String :=
  String.join ((records.filter f.passes).map LogRecord.line)

end LogFilter

/-- A text without the blanks at its ends. -/
def trimmed (text : String) : String :=
  let rest := text.toList.dropWhile isBlankChar
  String.ofList (rest.reverse.dropWhile isBlankChar).reverse

/-- A directive: a level, a name, or a name with a level; or what is wrong with it. -/
def readDirective (text : String) : Except String LogDirective :=
  match text.splitOn "=" with
  | [name] =>
      match LogLevel.ofName? (trimmed name) with
      | some limit => .ok ⟨none, limit⟩
      | none => .ok ⟨some name, .trace⟩
  | [name, level] =>
      let level := trimmed level
      if level.isEmpty then .ok ⟨some name, .trace⟩
      else
        match LogLevel.ofName? level with
        | some limit => .ok ⟨some (trimmed name), limit⟩
        | none => .error ("invalid logging spec '" ++ level ++ "'")
  | _ => .error ("invalid logging spec '" ++ text ++ "'")

/-- A filter, with the warnings about parts of its text that mean nothing. -/
structure FilterReading where
  filter : LogFilter := {}
  warnings : List String := []

namespace FilterReading

def addDirective (r : FilterReading) (text : String) : FilterReading :=
  if text.isEmpty then r
  else
    match readDirective text with
    | .ok d => { r with filter := r.filter.withDirective d }
    | .error warning => { r with warnings := r.warnings ++ [warning] }

def addPattern (r : FilterReading) (text : String) : FilterReading :=
  match Regex.compile text with
  | .ok pattern => { r with filter := { r.filter with pattern := some pattern } }
  | .error cause =>
      { r with warnings := r.warnings ++ ["invalid regex filter - " ++ cause.message] }

/-- Reads directives with commas between them, and a pattern after a slash. -/
def ofText (text : String) : FilterReading :=
  let addAll := fun (directives : String) =>
    ((directives.splitOn ",").map trimmed).foldl addDirective {}
  match text.splitOn "/" with
  | [directives] => addAll directives
  | [directives, pattern] => (addAll directives).addPattern pattern
  | _ => { warnings := ["invalid logging spec '" ++ text ++ "' (too many '/'s)"] }

/-- The warnings as they are printed. -/
def print (r : FilterReading) : String :=
  String.join (r.warnings.map fun warning => "warning: " ++ warning ++ ", ignoring it\n")

end FilterReading

end ShortcodeExpansion.CommandLine
