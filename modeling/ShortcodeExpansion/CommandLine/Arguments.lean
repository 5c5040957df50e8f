/-!
# Arguments of the command line

Reads the arguments of a call.  The switches for quiet and for debugging may stand before the
command and after it.  An option that waits for its value takes the next argument, unless that looks
like a switch; whether the value will do is seen when the next option comes, or at the end.
-/

set_option autoImplicit false

namespace ShortcodeExpansion.CommandLine

structure Source where
  catalogue : Option String := none
  noDefaults : Bool := false
deriving DecidableEq, Repr

structure ParseOptions where
  input : Option String := none
  output : Option String := none
  diff : Bool := false
  source : Source := {}
deriving DecidableEq, Repr

structure RulesOptions where
  json : Bool := false
  source : Source := {}
deriving DecidableEq, Repr

inductive Command where
  | parse (options : ParseOptions)
  | rules (options : RulesOptions)
deriving DecidableEq, Repr

structure Call where
  quiet : Bool := false
  debug : Bool := false
  command : Command
deriving DecidableEq, Repr

/-- What is done instead of a command. -/
inductive Detour where
  | help
  | version
  /-- Help, since there is nothing else to do. -/
  | helpForNothing
  | missingCommand
  | unknownCommand
  | unknownArgument
  /-- An option has no value, or an empty one. -/
  | missingValue
  /-- A switch has a value. -/
  | unneededValue
  /-- A switch or an option is given twice. -/
  | repeated
deriving DecidableEq, Repr

inductive Switch where
  | quiet
  | debug
  | diff
  | json
  | noDefaults
deriving DecidableEq, Repr

inductive Field where
  | catalogue
  | input
  | output
deriving DecidableEq, Repr

/-- What the name of an argument stands for. -/
inductive Meaning where
  | help
  | version
  | switch (switch : Switch)
  | field (field : Field)
deriving DecidableEq, Repr

/-- What is being read: the arguments before the command, or those of a command. -/
inductive Level where
  | top
  | parse
  | rules
deriving DecidableEq, Repr

namespace Level

def ofName? : String → Option Level
  | "parse" => some .parse
  | "rules" => some .rules
  | _ => none

/-- What every level knows. -/
def sharedLong? : String → Option Meaning
  | "help" => some .help
  | "quiet" => some (.switch .quiet)
  | "debug" => some (.switch .debug)
  | _ => none

def long? (level : Level) (name : String) : Option Meaning :=
  (sharedLong? name).or <|
    match level, name with
    | .top, "version" => some .version
    | .parse, "input-file" => some (.field .input)
    | .parse, "output" => some (.field .output)
    | .parse, "diff" => some (.switch .diff)
    | .rules, "json" => some (.switch .json)
    | .parse, "config" | .rules, "config" => some (.field .catalogue)
    | .parse, "no-defaults" | .rules, "no-defaults" => some (.switch .noDefaults)
    | _, _ => none

def sharedShort? : Char → Option Meaning
  | 'h' => some .help
  | 'q' => some (.switch .quiet)
  | 'd' => some (.switch .debug)
  | _ => none

def short? (level : Level) (letter : Char) : Option Meaning :=
  (sharedShort? letter).or <|
    match level, letter with
    | .top, 'V' => some .version
    | .parse, 'i' => some (.field .input)
    | .parse, 'o' => some (.field .output)
    | .parse, 'D' => some (.switch .diff)
    | .parse, 'c' | .rules, 'c' => some (.field .catalogue)
    | _, _ => none

end Level

/-- What was read at a level. -/
structure Reading where
  switches : List Switch := []
  fields : List (Field × String) := []
  /-- An option that waits for its value, or has one that was not looked at yet. -/
  pending : Option (Field × Option String) := none
deriving DecidableEq, Repr

namespace Reading

def isEmpty (r : Reading) : Bool := r.switches.isEmpty && r.fields.isEmpty

def field? (r : Reading) (field : Field) : Option String :=
  (r.fields.find? fun entry => entry.1 = field).map (·.2)

/-- Sets an option. -/
def setField (r : Reading) (field : Field) (value : String) : Except Detour Reading :=
  if (r.field? field).isSome then .error .repeated
  else if value.isEmpty then .error .missingValue
  else .ok { r with fields := (field, value) :: r.fields }

/-- Sets the option that is pending. -/
def settle (r : Reading) : Except Detour Reading :=
  match r.pending with
  | none => .ok r
  | some (_, none) => .error .missingValue
  | some (field, some value) => { r with pending := none }.setField field value

/-- Sets a switch, or gives what is asked for instead. -/
def act (r : Reading) : Meaning → Except Detour Reading
  | .help => do let _ ← r.settle; .error .help
  | .version => do let _ ← r.settle; .error .version
  | .switch switch => do
      let r ← r.settle
      if switch ∈ r.switches then .error .repeated
      else .ok { r with switches := switch :: r.switches }
  | .field field => do
      let r ← r.settle
      .ok { r with pending := some (field, none) }

def setAttached (r : Reading) (field : Field) (value : String) : Except Detour Reading := do
  let r ← r.settle
  r.setField field value

def readLong (level : Level) (r : Reading) (name : String) (value : Option String) :
    Except Detour Reading :=
  match level.long? name, value with
  | none, _ => .error .unknownArgument
  | some (.field field), some value => r.setAttached field value
  | some _, some _ => .error .unneededValue
  | some meaning, none => r.act meaning

/-- Arguments of one letter, written together.  An option takes the rest as its value, with or
without an equals sign. -/
def readShort (level : Level) (r : Reading) : List Char → Except Detour Reading
  | [] => .ok r
  | letter :: rest =>
      match level.short? letter with
      | none => .error .unknownArgument
      | some (.field field) =>
          match rest with
          | [] => r.act (.field field)
          | '=' :: value => r.setAttached field (String.ofList value)
          | value => r.setAttached field (String.ofList value)
      | some meaning => do readShort level (← r.act meaning) rest

/-- The pending option takes an argument as its value. -/
def giveValue (r : Reading) (value : String) : Reading :=
  match r.pending with
  | some (field, none) => { r with pending := some (field, some value) }
  | _ => r

def isWaiting (r : Reading) : Bool :=
  match r.pending with
  | some (_, none) => true
  | _ => false

end Reading

/-- How an argument looks. -/
inductive Shape where
  | escape
  | long (name : String) (value : Option String)
  | short (letters : List Char)
  | word
deriving DecidableEq, Repr

/-- A name, and what follows the first equals sign. -/
def splitValue (chars : List Char) : String × Option String :=
  let name := chars.takeWhile (· ≠ '=')
  let rest := chars.drop name.length
  (String.ofList name, rest.tail?.map String.ofList)

def Shape.of (argument : String) : Shape :=
  match argument.toList with
  | ['-', '-'] => .escape
  | '-' :: '-' :: rest => let (name, value) := splitValue rest; .long name value
  | '-' :: letter :: rest => .short (letter :: rest)
  | _ => .word

/-- The command that `help` is asked for; commands have none below them. -/
def readHelp : List String → Detour
  | [] => .help
  | name :: rest =>
      if rest.isEmpty && (name ∈ ["parse", "rules", "help"]) then .help else .unknownCommand

/-- What the arguments before the command say, and the command with its arguments. -/
def readTop (r : Reading) : List String → Except Detour (Reading × Level × List String)
  | [] => .error (if r.isEmpty then .helpForNothing else .missingCommand)
  | argument :: rest =>
      match Level.ofName? argument with
      | some level => .ok (r, level, rest)
      | none =>
          if argument = "help" then .error (readHelp rest)
          else
            match Shape.of argument with
            | .escape =>
                match rest with
                | [] => .error (if r.isEmpty then .helpForNothing else .missingCommand)
                | name :: _ =>
                    let known := (Level.ofName? name).isSome || name = "help"
                    .error (if known then .unknownArgument else .unknownCommand)
            | .long name value => do readTop (← r.readLong .top name value) rest
            | .short letters => do readTop (← r.readShort .top letters) rest
            | .word => .error .unknownCommand

def readCommand (level : Level) (r : Reading) : List String → Except Detour Reading
  | [] => r.settle
  | argument :: rest =>
      match Shape.of argument with
      | .escape => if rest.isEmpty then r.settle else .error .unknownArgument
      | .long name value => do readCommand level (← r.readLong level name value) rest
      | .short letters => do readCommand level (← r.readShort level letters) rest
      | .word =>
          if r.isWaiting then readCommand level (r.giveValue argument) rest
          else .error .unknownArgument

/-- Where shortcodes come from; the environment may name a shortcode file too, for want of an
argument. -/
def Reading.source (r : Reading) (fromEnvironment : Option String) : Except Detour Source := do
  let noDefaults := decide (Switch.noDefaults ∈ r.switches)
  match r.field? .catalogue, fromEnvironment with
  | some path, _ => .ok { catalogue := some path, noDefaults }
  | none, some path =>
      if path.isEmpty then .error .missingValue else .ok { catalogue := some path, noDefaults }
  | none, none => .ok { noDefaults }

def Call.ofArguments (arguments : List String) (fromEnvironment : Option String) :
    Except Detour Call := do
  let (top, level, rest) ← readTop {} arguments
  let r ← readCommand level {} rest
  let source ← r.source fromEnvironment
  let has := fun (switch : Switch) => decide (switch ∈ r.switches)
  let command : Command := match level with
    | .rules => .rules { json := has .json, source }
    | .parse | .top =>
        .parse { input := r.field? .input, output := r.field? .output, diff := has .diff, source }
  .ok {
    quiet := has .quiet || decide (Switch.quiet ∈ top.switches)
    debug := has .debug || decide (Switch.debug ∈ top.switches)
    command }

end ShortcodeExpansion.CommandLine
