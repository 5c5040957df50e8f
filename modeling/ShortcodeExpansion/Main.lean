import ShortcodeExpansion.CommandLine.Run

/-!
# The program

Takes the arguments, the environment, the standard input and the files that a call names from the
system, and does what the plan for the call says.
-/

set_option autoImplicit false

namespace ShortcodeExpansion.CommandLine

/-- The code and the wording of an error of the system. -/
def systemError? : IO.Error → Option (UInt32 × String)
  | .alreadyExists _ code details | .interrupted _ code details
  | .noFileOrDirectory _ code details | .invalidArgument _ code details
  | .permissionDenied _ code details | .resourceExhausted _ code details
  | .inappropriateType _ code details | .noSuchThing _ code details
  | .otherError code details | .resourceBusy code details | .resourceVanished code details
  | .unsupportedOperation code details | .hardwareFault code details
  | .unsatisfiedConstraints code details | .illegalOperation code details
  | .protocolError code details | .timeExpired code details => some (code, details)
  | .unexpectedEof | .userError _ => none

def fileErrorOf (e : IO.Error) : FileError :=
  match systemError? e with
  | some (2, _) => .notFound
  | some (20, _) => .notDirectory
  | some (21, _) => .isDirectory
  | some (36, _) => .nameTooLong
  | some (code, details) => .other (details ++ " (os error " ++ toString code ++ ")")
  | none => .other (toString e)

/-- Does something with a file, unless its path is not one that the system takes. -/
def attempt {α : Type} (path : String) (action : IO α) : IO (Except FileError α) := do
  match pathFault? path with
  | some fault => return .error fault
  | none =>
      try
        return .ok (← action)
      catch e =>
        return .error (fileErrorOf e)

def readFile (path : String) : IO (Except FileError ByteArray) :=
  attempt path (IO.FS.withFile path .read fun handle => handle.readBinToEnd)

def writeFile (path text : String) : IO (Except FileError Unit) :=
  attempt path (IO.FS.writeFile path text)

/-- The paths of the files that a call reads. -/
def Call.reads (call : Call) : List String :=
  match call.command with
  | .parse options => options.source.catalogue.toList ++ options.input.toList
  | .rules options => options.source.catalogue.toList

def Call.readsStandardInput (call : Call) : Bool :=
  match call.command with
  | .parse options => options.input.isNone
  | .rules _ => false

/-- What is in the standard input from here on. -/
partial def readAll (stream : IO.FS.Stream) (before : ByteArray) : IO ByteArray := do
  let more ← stream.read 65536
  if more.isEmpty then return before else readAll stream (before ++ more)

def Ending.finish (ending : Ending) : IO UInt32 := do
  (← IO.getStderr).putStr ending.standardError
  (← IO.getStdout).putStr ending.standardOutput
  return ending.code.toUInt32

def Plan.perform : Plan → IO UInt32
  | .finish ending => ending.finish
  | .write path text ending => do (ending (← writeFile path text)).finish

def Call.perform (call : Call) (logFilter : Option String) : IO UInt32 := do
  let contents ← call.reads.mapM fun path => return (path, ← readFile path)
  let read : FileReader := fun path =>
    ((contents.find? fun entry => entry.1 = path).map (·.2)).getD (.error .notFound)
  let standard ← if call.readsStandardInput then readAll (← IO.getStdin) .empty else pure .empty
  (call.plan logFilter read standard).perform

/-- Runs a call with the arguments that were given. -/
def perform (arguments : List String) : IO UInt32 := do
  match Call.ofArguments arguments (← IO.getEnv "SHORTCODER_CONFIG") with
  | .error detour => detour.ending.finish
  | .ok call => call.perform (← IO.getEnv "RUST_LOG")

end ShortcodeExpansion.CommandLine

def main (arguments : List String) : IO UInt32 :=
  ShortcodeExpansion.CommandLine.perform arguments
