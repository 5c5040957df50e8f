/-!
# Coloured text

A colour is set before a text and reset after it, by control sequences of the terminal.
-/

set_option autoImplicit false

namespace ShortcodeExpansion

inductive Colour where
  | red
  | green
  | yellow
  | cyan
deriving DecidableEq, Repr

def Colour.code : Colour → String
  | .red => "31"
  | .green => "32"
  | .yellow => "33"
  | .cyan => "36"

/-- A control sequence that sets how text is shown. -/
def controlSequence (code : String) : String := "\x1b[" ++ code ++ "m"

def coloured (colour : Colour) (text : String) : String :=
  controlSequence colour.code ++ text ++ controlSequence "39"

def bold (text : String) : String := controlSequence "1" ++ text ++ controlSequence "0"

def messageLine (message : String) (useColour : Bool) : String :=
  (if useColour then coloured .cyan message else message) ++ "\n"

end ShortcodeExpansion
