import ShortcodeExpansion.Files.Basic
import ShortcodeExpansion.Proofs.Results

/-!
# Writing a file and reading it

A file that was written has the content that was written to it, under the path by which it was
written, and every other file is as it was.  A file is read by its path from the root, and by its
path from the working directory if it lies below.
-/

set_option autoImplicit false

namespace ShortcodeExpansion

theorem decodeText_toUTF8 (text : String) : decodeText text.toUTF8 = .ok text := by
  have decoded : String.fromUTF8? text.toUTF8 = some text := by
    simp only [String.fromUTF8?, String.toUTF8_eq_toByteArray, dif_pos text.isValidUTF8]
    rfl
  rw [decodeText, decoded]

namespace Files

variable {files : Files} {names : List String} {content : ByteArray}

/-! ## The files after a write -/

/-- A file that is there keeps its place, and another is put behind the others. -/
theorem content?_put (other : List String) :
    (files.put names content).content? other =
      if other = names then some content else files.content? other := by
  have rename : ∀ entry : List String × ByteArray,
      (if entry.1 = names then (names, content) else entry).1 = entry.1 := by
    intro entry
    split
    · rename_i same
      exact same.symm
    · rfl
  unfold put
  split
  · rename_i there
    simp only [content?, List.find?_map, Function.comp_def, rename, Option.map_map]
    cases found : files.entries.find? fun entry => entry.1 = other with
    | none =>
        have absent : other ≠ names := by
          rintro rfl
          simp [content?, found] at there
        simp [absent]
    | some entry =>
        have named : entry.1 = other := by simpa using List.find?_some found
        by_cases same : other = names <;> simp [named, same]
  · rename_i new
    have absent : files.content? names = none := by simpa using new
    simp only [content?, List.find?_append, Option.map_eq_none_iff] at absent ⊢
    by_cases same : other = names
    · simp [same, absent]
    · simp [same, Ne.symm same]

theorem hasDirectory_put (directory : files.hasDirectory names = true) (written : List String)
    (content : ByteArray) : (files.put written content).hasDirectory names = true := by
  obtain ⟨entry, member, below⟩ := List.any_eq_true.mp directory
  refine List.any_eq_true.mpr ?_
  unfold put
  split
  · by_cases same : entry.1 = written
    · exact ⟨(written, content), List.mem_map.mpr ⟨entry, member, if_pos same⟩, same ▸ below⟩
    · exact ⟨entry, List.mem_map.mpr ⟨entry, member, if_neg same⟩, below⟩
  · exact ⟨entry, List.mem_append_left _ member, below⟩

theorem hasDirectory_of_content? {directory : List String}
    (there : files.content? (directory ++ names) = some content) (further : names ≠ []) :
    files.hasDirectory directory = true := by
  obtain ⟨entry, found, -⟩ := Option.map_eq_some_iff.mp there
  have named : entry.1 = directory ++ names := by simpa using List.find?_some found
  refine List.any_eq_true.mpr ⟨entry, List.mem_of_find?_eq_some found, ?_⟩
  have longer : 0 < names.length := List.length_pos_iff.mpr further
  simp [named, longer]

theorem content?_below (files : Files) (directory names : List String) :
    (files.below directory).content? (directory ++ names) = files.content? names := by
  simp [content?, below, List.find?_map, Function.comp_def]

end Files

namespace FileSystem

variable {files : FileSystem} {names : List String} {content : ByteArray}

theorem content?_put (other : List String) :
    (files.put names content).content? other =
      if other = names then some content else files.content? other :=
  Files.content?_put other

theorem isDirectory_iff : files.isDirectory names = true ↔
    names <+: files.here ∨ files.root.hasDirectory names = true := by
  simp [isDirectory]

theorem isDirectory_put (directory : files.isDirectory names = true) (written : List String)
    (content : ByteArray) : (files.put written content).isDirectory names = true := by
  rw [isDirectory_iff] at directory ⊢
  exact directory.imp_right fun below => Files.hasDirectory_put below written content

/-! ## Walks -/

/-- A name that stands for something in a directory. -/
structure IsName (name : String) : Prop where
  other : name ≠ "" ∧ name ≠ "." ∧ name ≠ ".."
  short : isLongName name = false

theorem step_name {name : String} (isName : IsName name) (before : List String) :
    files.step (.directory before) name =
      if (files.content? (before ++ [name])).isSome then .ok (.file (before ++ [name]))
      else if files.isDirectory (before ++ [name]) then .ok (.directory (before ++ [name]))
      else .error .notFound := by
  obtain ⟨⟨filled, notHere, notUp⟩, short⟩ := isName
  simp [step, filled, notHere, notUp, short]

theorem step_not_name {name : String} (noName : ¬ IsName name) (other : FileSystem)
    (before : List String) :
    files.step (.directory before) name = other.step (.directory before) name := by
  by_cases dots : name = "" ∨ name = "." ∨ name = ".."
  · rcases dots with rfl | rfl | rfl <;> rfl
  · have long : isLongName name = true := by
      by_contra short
      exact noName ⟨by simpa [not_or] using dots, by simpa using short⟩
    have filled : name ≠ "" ∧ name ≠ "." ∧ name ≠ ".." := by simpa [not_or] using dots
    simp [step, filled, long]

theorem step_put (free : files.isDirectory names = false) {before : List String} {name : String}
    {directory : List String}
    (reached : files.step (.directory before) name = .ok (.directory directory)) :
    (files.put names content).step (.directory before) name = .ok (.directory directory) := by
  by_cases isName : IsName name
  · rw [step_name isName] at reached
    split at reached
    · simp at reached
    · rename_i noFile
      split at reached
      · rename_i isDirectory
        -- A directory has not the place of the file, so the write does not hide it.
        have apart : before ++ [name] ≠ names := by
          rintro rfl
          simp [free] at isDirectory
        rw [step_name isName, content?_put, if_neg apart, if_neg noFile,
          if_pos (isDirectory_put isDirectory names content)]
        exact reached
      · simp at reached
  · rw [step_not_name isName files]
    exact reached

/-- A walk that ends in a directory has stayed in directories. -/
theorem foldlM_step_cases {place : Place} {path directory : List String}
    (reached : path.foldlM files.step place = .ok (.directory directory)) :
    ∃ before, place = .directory before := by
  induction path generalizing place with
  | nil => exact ⟨directory, Except.ok.inj reached⟩
  | cons name path ih =>
      rw [List.foldlM_cons, bind_eq_ok_iff] at reached
      obtain ⟨next, stepped, later⟩ := reached
      obtain ⟨before, rfl⟩ := ih later
      cases place with
      | file _ => simp [step] at stepped
      | directory before => exact ⟨before, rfl⟩

theorem foldlM_step_put (free : files.isDirectory names = false) {path directory : List String} :
    ∀ {before : List String},
      path.foldlM files.step (.directory before) = .ok (.directory directory) →
        path.foldlM (files.put names content).step (.directory before) =
          .ok (.directory directory) := by
  induction path with
  | nil => intro before reached; exact reached
  | cons name path ih =>
      intro before reached
      rw [List.foldlM_cons, bind_eq_ok_iff] at reached
      obtain ⟨next, stepped, later⟩ := reached
      obtain ⟨after, rfl⟩ := foldlM_step_cases later
      rw [List.foldlM_cons, step_put free stepped]
      exact ih later

/-- The path of a directory leads nowhere else once a file was written. -/
theorem walk_put (free : files.isDirectory names = false) {path directory : List String}
    (reached : files.walk path = .ok (.directory directory)) (content : ByteArray) :
    (files.put names content).walk path = .ok (.directory directory) :=
  foldlM_step_put free reached

/-- A walk goes on from where it has come. -/
theorem walk_concat (files : FileSystem) (path : List String) {name : String} (filled : name ≠ "") :
    files.walk (path ++ [name]) = files.walk path >>= (files.step · name) := by
  have start : files.start (path ++ [name]) = files.start path := by
    cases path with
    | nil => simp [FileSystem.start, filled]
    | cons first rest => rfl
  rw [walk, start, List.foldlM_append, walk]
  simp

/-! ## Reading a file by its path -/

/-- A file below a directory, with no other file on the way to it. -/
structure Lies (files : Files) (directory names : List String) (content : ByteArray) : Prop where
  named : ∀ name ∈ names, IsName name
  further : names ≠ []
  way : ∀ front back, names = front ++ back → front ≠ [] → back ≠ [] →
    files.content? (directory ++ front) = none
  there : files.content? (directory ++ names) = some content

theorem Lies.foldlM_step {directory : List String}
    (lies : Lies files.root directory names content) :
    names.foldlM files.step (.directory directory) = .ok (.file (directory ++ names)) := by
  induction names generalizing directory with
  | nil => exact absurd rfl lies.further
  | cons name rest ih =>
      have isName := lies.named name List.mem_cons_self
      have there : files.content? (directory ++ name :: rest) = some content := lies.there
      rw [List.foldlM_cons, step_name isName]
      cases rest with
      | nil => simp [there, bind, Except.bind, pure, Except.pure]
      | cons next rest =>
          have noFile : files.content? (directory ++ [name]) = none :=
            lies.way [name] (next :: rest) rfl (by simp) (by simp)
          rw [List.append_cons directory name (next :: rest)] at there ⊢
          have isDirectory : files.isDirectory (directory ++ [name]) = true :=
            isDirectory_iff.mpr (.inr (Files.hasDirectory_of_content? there (by simp)))
          simp only [noFile, isDirectory, Option.isSome_none, Bool.false_eq_true, if_false, if_true]
          refine ih ⟨fun other member => lies.named other (.tail name member), by simp, ?_, there⟩
          intro front back split _ last
          have later := lies.way (name :: front) back (by simp [split]) (by simp) last
          rwa [List.append_cons] at later

section Read

variable {path : String}

theorem read_of_walk (sound : pathFault? path = none)
    (reached : files.walk (path.splitOn "/") = .ok (.file names))
    (there : files.content? names = some content) : files.read path = .ok content := by
  simp [read, sound, reached, there, bind, Except.bind]

/-- A path that starts with a slash names a file from the root, wherever a program runs. -/
theorem read_from_root (sound : pathFault? path = none) (split : path.splitOn "/" = "" :: names)
    (lies : Lies files.root [] names content) : files.read path = .ok content := by
  refine read_of_walk sound ?_ lies.there
  rw [split]
  exact lies.foldlM_step

theorem read_from_here (sound : pathFault? path = none) (split : path.splitOn "/" = names)
    (lies : Lies files.root files.here names content) : files.read path = .ok content := by
  refine read_of_walk sound ?_ lies.there
  have start : files.start names = files.here := by
    refine if_neg fun empty => ?_
    exact (lies.named "" (List.mem_of_head? empty)).other.1 rfl
  rw [split, walk, start]
  exact lies.foldlM_step

/-- Files that are given as those of a working directory are read by their own names. -/
theorem read_alone {files : Files} (sound : pathFault? path = none)
    (split : path.splitOn "/" = names) (lies : Lies files [] names content) :
    files.read path = .ok content := by
  refine read_from_here sound split ⟨lies.named, lies.further, ?_, ?_⟩
  · intro front back whole first last
    exact (files.content?_below ["work"] front).trans (lies.way front back whole first last)
  · exact (files.content?_below ["work"] names).trans lies.there

end Read

/-- The way up ends at the root. -/
example : (FileSystem.mk ⟨[(["etc", "a"], .empty)]⟩ ["home"]).walk ["..", "..", "etc", "a"] =
    .ok (.file ["etc", "a"]) := rfl

/-! ## Reading what was written -/

/-- The file with a name in a directory, as far as it can be made. -/
def fileIn (files : FileSystem) (last : String) : Place → Except FileError (List String)
  | .file _ => .error .notDirectory
  | .directory parent =>
      if last = "." ∨ last = ".." then .error .isDirectory
      else if isLongName last then .error .nameTooLong
      else if files.isDirectory (parent ++ [last]) then .error .isDirectory
      else .ok (parent ++ [last])

section Target

variable {path last : String} {before : List String}

theorem target_of_split (sound : pathFault? path = none)
    (split : path.splitOn "/" = before ++ [last]) (filled : last ≠ "") :
    files.target path = files.walk before >>= files.fileIn last := by
  have backwards : (before ++ [last]).reverse.dropWhile (· = "") = last :: before.reverse := by
    rw [List.reverse_append, List.reverse_singleton, List.singleton_append,
      List.dropWhile_cons_of_neg (by simpa using filled)]
  rw [target, sound]
  dsimp only
  rw [split, backwards]
  dsimp only
  rw [List.reverse_reverse]
  refine congrArg (files.walk before >>= ·) (funext fun place => ?_)
  cases place <;> simp [fileIn]

/-- A path with a slash at its end is not the path of a file. -/
theorem target_of_slash (split : path.splitOn "/" = before ++ [""]) :
    files.target path ≠ .ok names := by
  intro found
  rw [target] at found
  cases fault : pathFault? path with
  | some cause => simp [fault] at found
  | none =>
      rw [fault] at found
      dsimp only at found
      rw [split, List.reverse_append, List.reverse_singleton, List.singleton_append,
        List.dropWhile_cons_of_pos (by simp)] at found
      cases cut : before.reverse.dropWhile (· = "") with
      | nil => simp [cut] at found
      | cons last rest =>
          have shorter : (last :: rest).length ≤ before.reverse.length :=
            cut ▸ (List.dropWhile_suffix _).length_le
          have less : rest.length < before.length := Nat.lt_of_succ_le (by simpa using shorter)
          rw [cut] at found
          dsimp only at found
          obtain ⟨place, reached, found⟩ := bind_eq_ok_iff.mp found
          cases place <;> simp [less] at found

/-- What is known of a file that can be made at a path. -/
structure Creatable (files : FileSystem) (path : String) (names : List String) : Prop where
  sound : pathFault? path = none
  /-- The path leads to a directory, and from there to a name. -/
  place : ∃ before parent last, path.splitOn "/" = before ++ [last] ∧ IsName last ∧
    files.walk before = .ok (.directory parent) ∧ names = parent ++ [last]
  free : files.isDirectory names = false

theorem creatable_of_target (found : files.target path = .ok names) :
    Creatable files path names := by
  have sound : pathFault? path = none := by
    cases fault : pathFault? path with
    | some cause => simp [target, fault] at found
    | none => rfl
  obtain ⟨before, last, split⟩ : ∃ before last, path.splitOn "/" = before ++ [last] := by
    rcases List.eq_nil_or_concat (path.splitOn "/") with none | ⟨before, last, split⟩
    · simp [target, sound, none] at found
    · exact ⟨before, last, by simpa using split⟩
  have filled : last ≠ "" := by
    rintro rfl
    exact target_of_slash split found
  rw [target_of_split sound split filled, bind_eq_ok_iff] at found
  obtain ⟨place, reached, found⟩ := found
  cases place with
  | file _ => simp [fileIn] at found
  | directory parent =>
      simp only [fileIn] at found
      split_ifs at found with dots long taken
      obtain rfl := Except.ok.inj found
      exact ⟨sound, ⟨before, parent, last, split, ⟨⟨filled, not_or.mp dots⟩, by simpa using long⟩,
        reached, rfl⟩, by simpa using taken⟩

theorem read_put_target (found : files.target path = .ok names) :
    (files.put names content).read path = .ok content := by
  obtain ⟨sound, ⟨before, parent, last, split, isName, reached, rfl⟩, free⟩ :=
    creatable_of_target found
  have walked : (files.put (parent ++ [last]) content).walk (path.splitOn "/") =
      .ok (.file (parent ++ [last])) := by
    rw [split, walk_concat _ before isName.other.1, walk_put free reached content]
    simp [bind, Except.bind, step_name isName, content?_put]
  exact read_of_walk sound walked (by simp [content?_put])

end Target

/-- Two of the shortest paths to a file. -/
theorem splitOn_short : "/a".splitOn "/" = ["", "a"] ∧ "/c".splitOn "/" = ["", "c"] := by
  constructor
  all_goals
    rw [String.splitOn, if_neg (by decide), String.splitOnAux, if_neg (by decide),
      if_pos (by decide), if_pos (by decide), String.splitOnAux, if_neg (by decide),
      if_neg (by decide), String.splitOnAux, if_pos (by decide)]
    decide

end FileSystem

end ShortcodeExpansion
