/-!
# Error chains

An error is told from the outside in: what was to be done, step by step, and last why it could not
be done.
-/

set_option autoImplicit false

namespace ShortcodeExpansion

structure ErrorChain where
  /-- What was to be done, the outermost step first. -/
  contexts : List String
  cause : String
deriving DecidableEq, Repr

namespace ErrorChain

/-- A chain with a step around it. -/
def within (context : String) (chain : ErrorChain) : ErrorChain :=
  { chain with contexts := context :: chain.contexts }

def messages (chain : ErrorChain) : List String := chain.contexts ++ [chain.cause]

/-- The chain in one line, as far as its messages are. -/
def inline (chain : ErrorChain) : String := ": ".intercalate chain.messages

/-- A message behind a label; its further lines are indented as deep as the label is long. -/
def labelled (label message : String) : String :=
  label ++ message.replace "\n" ("\n" ++ "".pushn ' ' label.length)

/-- The messages under a heading, with numbers if there are several. -/
def causeLines : List String → List String
  | [only] => [labelled "    " only]
  | causes => causes.zipIdx.map fun (message, i) =>
      let number := toString i
      labelled ("".pushn ' ' (5 - number.length) ++ number ++ ": ") message

/-- The first message, and below it those that explain it. -/
def report (chain : ErrorChain) : String :=
  match chain.messages with
  | [] => ""
  | [only] => only
  | first :: causes => first ++ "\n\nCaused by:\n" ++ "\n".intercalate (causeLines causes)

end ErrorChain

end ShortcodeExpansion
