import ShortcodeExpansion.Catalogue.Yaml
import ShortcodeExpansion.ErrorChain
import ShortcodeExpansion.Files.Basic

/-!
# Loading catalogues from files
-/

set_option autoImplicit false

namespace ShortcodeExpansion

/-- Why a shortcode file cannot be used. -/
inductive LoadError where
  | unreadable (path : String) (cause : FileError)
  | unusable (path : String) (cause : Catalogue.TextError)
deriving DecidableEq, Repr

def Catalogue.TextError.message : Catalogue.TextError → String
  | .malformed => "not a YAML mapping with a list of shortcodes"
  | .invalid problems => validationReport problems

def LoadError.chain : LoadError → ErrorChain
  | .unreadable path cause => ⟨["Failed to read shortcode file " ++ path], cause.message⟩
  | .unusable path cause => ⟨["Failed to parse shortcode file " ++ path], cause.message⟩

def Catalogue.ofContent (path : String) (content : Except FileError ByteArray) :
    Except LoadError Catalogue := do
  let text ← (content >>= decodeText).mapError (.unreadable path)
  (Catalogue.ofYaml text).mapError (.unusable path)

def Catalogue.load (files : FileSystem) (path : String) : Except LoadError Catalogue :=
  Catalogue.ofContent path (files.read path)

end ShortcodeExpansion
