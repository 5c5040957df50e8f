import ShortcodeExpansion.CommandLine.Log
import ShortcodeExpansion.Files.Expansion

/-!
# Steps that are logged

A step gives a result or fails, and in either case leaves records of what it did.
-/

set_option autoImplicit false

namespace ShortcodeExpansion.CommandLine

/-- Why a command fails. -/
inductive CommandError where
  | loading (path : String) (cause : LoadError)
  | standardInput (cause : FileError)
  | input (path : String) (cause : FileError)
  | expansion (cause : RuleError)
  | output (path : String) (cause : FileError)
deriving DecidableEq, Repr

def CommandError.chain : CommandError → ErrorChain
  | .loading path cause => cause.chain.within ("Failed to load shortcodes from " ++ path)
  | .standardInput cause => ⟨["Failed to read from stdin"], cause.message⟩
  | .input path cause => ⟨["Failed to read input file: " ++ path], cause.message⟩
  | .expansion cause => ⟨["Shortcode expansion failed"], cause.message⟩
  | .output path cause => ⟨["Failed to create output file: " ++ path], cause.message⟩

structure Logged (α : Type) where
  records : List LogRecord
  result : Except CommandError α

namespace Logged

variable {α β : Type}

def pure (value : α) : Logged α := ⟨[], .ok value⟩

/-- One step after another; after a failure there are no more. -/
def bind (step : Logged α) (next : α → Logged β) : Logged β :=
  match step.result with
  | .ok value =>
      let rest := next value
      ⟨step.records ++ rest.records, rest.result⟩
  | .error e => ⟨step.records, .error e⟩

instance : Monad Logged where
  pure := Logged.pure
  bind := Logged.bind

/-- A step that may fail and leaves no record. -/
def attempt (result : Except CommandError α) : Logged α := ⟨[], result⟩

/-- A step that leaves records and does nothing else. -/
def note (records : List LogRecord) : Logged Unit := ⟨records, .ok ()⟩

section Result

/-! What is logged has no part in the result of a step. -/

@[simp] theorem result_pure (value : α) : (Logged.pure value).result = .ok value := rfl

@[simp] theorem result_attempt (result : Except CommandError α) :
    (attempt result).result = result := rfl

@[simp] theorem result_note (records : List LogRecord) : (note records).result = .ok () := rfl

@[simp] theorem result_bind (step : Logged α) (next : α → Logged β) :
    (step >>= next).result = step.result >>= fun value => (next value).result := by
  change (Logged.bind step next).result = _
  cases found : step.result <;> simp [Logged.bind, found, Bind.bind, Except.bind]

end Result

end Logged

end ShortcodeExpansion.CommandLine
