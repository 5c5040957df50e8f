/-!
# Files

The files of a system, as a value, and the directory in which a program runs.  A path is walked name
by name, from the root if it starts with a slash and from the working directory if it does not.
-/

set_option autoImplicit false

namespace ShortcodeExpansion

/-- Why a file cannot be read or made. -/
inductive FileError where
  | notFound
  | notDirectory
  | isDirectory
  | nameTooLong
  | nulInPath
  /-- What was read is not text in UTF-8. -/
  | notText
  /-- Any other error, as the system words it. -/
  | other (message : String)
deriving DecidableEq, Repr

def FileError.message : FileError → String
  | .notFound => "No such file or directory (os error 2)"
  | .notDirectory => "Not a directory (os error 20)"
  | .isDirectory => "Is a directory (os error 21)"
  | .nameTooLong => "File name too long (os error 36)"
  | .nulInPath => "file name contained an unexpected NUL byte"
  | .notText => "stream did not contain valid UTF-8"
  | .other message => message

def decodeText (bytes : ByteArray) : Except FileError String :=
  match String.fromUTF8? bytes with
  | some text => .ok text
  | none => .error .notText

instance decEqBytes : DecidableEq ByteArray := ByteArray.instDecidableEq

/-- Files below a directory, with their contents.  A file is named by the names on the way to it. -/
structure Files where
  entries : List (List String × ByteArray) := []
deriving DecidableEq, Inhabited

namespace Files

def content? (files : Files) (names : List String) : Option ByteArray :=
  (files.entries.find? fun entry => entry.1 = names).map (·.2)

/-- Whether a file lies below a directory. -/
def hasDirectory (files : Files) (names : List String) : Bool :=
  files.entries.any fun entry => names.length < entry.1.length && names.isPrefixOf entry.1

/-- Puts a content into a file, which is made if it is not there. -/
def put (files : Files) (names : List String) (content : ByteArray) : Files :=
  if (files.content? names).isSome then
    ⟨files.entries.map fun entry => if entry.1 = names then (names, content) else entry⟩
  else ⟨files.entries ++ [(names, content)]⟩

/-- Files as they are named from further up. -/
def below (files : Files) (directory : List String) : Files :=
  ⟨files.entries.map fun entry => (directory ++ entry.1, entry.2)⟩

end Files

/-- The files of a system, as they are named from its root. -/
structure FileSystem where
  root : Files := {}
  /-- The names on the way from the root to the working directory. -/
  here : List String := []
deriving DecidableEq, Inhabited

/-- Where a walk along a path has come. -/
inductive Place where
  | file (names : List String)
  | directory (names : List String)
deriving DecidableEq, Repr

/-- The name of a file has at most 255 bytes. -/
def isLongName (name : String) : Bool := 255 < name.utf8ByteSize

/-- A path that no walk can be made along. -/
def pathFault? (path : String) : Option FileError :=
  if path.toList.contains '\x00' then some .nulInPath
  else if path.isEmpty then some .notFound
  else if 4096 ≤ path.utf8ByteSize then some .nameTooLong
  else none

namespace FileSystem

def content? (files : FileSystem) (names : List String) : Option ByteArray :=
  files.root.content? names

/-- The directories are those with files below them, and the working directory with those above
it. -/
def isDirectory (files : FileSystem) (names : List String) : Bool :=
  names.isPrefixOf files.here || files.root.hasDirectory names

/-- One name further along a path.  The root has no directory above it and takes its place. -/
def step (files : FileSystem) (place : Place) (name : String) : Except FileError Place :=
  match place with
  | .file _ => .error .notDirectory
  | .directory names =>
      if name = "" || name = "." then .ok place
      else if name = ".." then .ok (.directory names.dropLast)
      else if isLongName name then .error .nameTooLong
      else if (files.content? (names ++ [name])).isSome then .ok (.file (names ++ [name]))
      else if files.isDirectory (names ++ [name]) then .ok (.directory (names ++ [name]))
      else .error .notFound

/-- The directory from which names are walked along.  The part of a path before a slash at its start
is empty. -/
def start (files : FileSystem) (names : List String) : List String :=
  if names.head? = some "" then [] else files.here

def walk (files : FileSystem) (names : List String) : Except FileError Place :=
  names.foldlM files.step (.directory (files.start names))

def read (files : FileSystem) (path : String) : Except FileError ByteArray := do
  match pathFault? path with
  | some fault => .error fault
  | none =>
      match ← files.walk (path.splitOn "/") with
      | .file names => .ok ((files.content? names).getD .empty)
      | .directory _ => .error .isDirectory

def readText (files : FileSystem) (path : String) : Except FileError String :=
  files.read path >>= decodeText

/-- The file that is made when the one at a path is opened to be written. -/
def target (files : FileSystem) (path : String) : Except FileError (List String) := do
  match pathFault? path with
  | some fault => .error fault
  | none =>
      let names := path.splitOn "/"
      let backwards := names.reverse.dropWhile (· = "")
      match backwards with
      | [] => .error .isDirectory
      | last :: rest =>
          match ← files.walk rest.reverse with
          | .file _ => .error .notDirectory
          | .directory parent =>
              if backwards.length < names.length && names.getLast? = some "" then
                .error .isDirectory
              else if last = "." || last = ".." then .error .isDirectory
              else if isLongName last then .error .nameTooLong
              else if files.isDirectory (parent ++ [last]) then .error .isDirectory
              else .ok (parent ++ [last])

def put (files : FileSystem) (names : List String) (content : ByteArray) : FileSystem :=
  { files with root := files.root.put names content }

/-- Writes a text to the file at a path, in place of what it held. -/
def write (files : FileSystem) (path text : String) : Except FileError FileSystem :=
  (files.target path).map fun names => files.put names text.toUTF8

/-- The files below the working directory that others do not have with the same content, named from
there. -/
def changedFrom (files before : FileSystem) : List (List String × ByteArray) :=
  files.root.entries.filterMap fun entry =>
    if before.content? entry.1 = some entry.2 then none
    else (files.here.isPrefixOf? entry.1).map (·, entry.2)

end FileSystem

/-- A system that has no other files than those of its working directory. -/
def Files.system (files : Files) : FileSystem := ⟨files.below ["work"], ["work"]⟩

instance : Coe Files FileSystem := ⟨Files.system⟩

def Files.read (files : Files) (path : String) : Except FileError ByteArray :=
  files.system.read path

end ShortcodeExpansion
