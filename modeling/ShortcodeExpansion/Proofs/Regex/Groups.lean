import Mathlib.Data.List.Nodup
import Mathlib.Data.List.Pairwise
import ShortcodeExpansion.Proofs.Regex.Gathered
import ShortcodeExpansion.Proofs.Template.PatternMeaning

/-!
# The groups of a pattern

The groups of a pattern, as they stand in its tree.  They are numbered from one on in the order in
which they open, no two have the same name, and a name is one that the syntax allows: a letter or an
underscore, then letters, numbers, underscores, dots and square brackets.  What a tree means has the
groups of the tree, in the same order, but for those in what is repeated no times.
-/

set_option autoImplicit false

namespace ShortcodeExpansion.Regex

/-- A group of this kind, with its number and its name, if it takes a number. -/
def GroupKind.entry? : GroupKind → Option (Nat × Option String)
  | .capture index name => some (index, name)
  | .plain _ => none

mutual

/-- The groups of a tree in the order in which they open. -/
def Ast.groups : Ast → List (Nat × Option String)
  | .empty _ | .flags _ _ | .primitive _ | .bracketed _ _ _ => []
  | .repetition _ _ _ _ body => body.groups
  | .group _ kind body => kind.entry?.toList ++ body.groups
  | .alternation _ branches => groupsOf branches
  | .sequence _ parts => groupsOf parts

def groupsOf : List Ast → List (Nat × Option String)
  | [] => []
  | ast :: rest => ast.groups ++ groupsOf rest

end

theorem groupsOf_append (asts others : List Ast) :
    groupsOf (asts ++ others) = groupsOf asts ++ groupsOf others := by
  induction asts with
  | nil => rfl
  | cons ast asts ih => rw [List.cons_append, groupsOf, groupsOf, ih, List.append_assoc]

theorem groupsOf_singleton (ast : Ast) : groupsOf [ast] = ast.groups := by simp [groupsOf]

/-! ## Names -/

/-- The characters of a group's name, or of its beginning. -/
def NameChars : List Char → Prop
  | [] => True
  | first :: rest => isGroupNameChar true first = true ∧ ∀ c ∈ rest, isGroupNameChar false c = true

/-- A name that the syntax allows for a group. -/
def IsGroupName (name : String) : Prop := name.toList ≠ [] ∧ NameChars name.toList

theorem NameChars.concat {chars : List Char} (valid : NameChars chars) {c : Char}
    (next : isGroupNameChar chars.isEmpty c = true) : NameChars (chars ++ [c]) := by
  cases chars with
  | nil => exact ⟨next, by simp⟩
  | cons first rest =>
      refine ⟨valid.1, fun d member => ?_⟩
      rcases List.mem_append.mp member with old | new
      · exact valid.2 d old
      · exact List.mem_singleton.mp new ▸ next

theorem readGroupNameChars_valid {fuel : Nat} {name chars : List Char} {c after : Cursor}
    (valid : NameChars name.reverse) (read : readGroupNameChars name c fuel = .ok (chars, after)) :
    NameChars chars := by
  induction fuel generalizing name c with
  | zero =>
      simp only [readGroupNameChars, Except.ok.injEq, Prod.mk.injEq] at read
      exact read.1 ▸ valid
  | succ fuel ih =>
      rw [readGroupNameChars] at read
      split at read
      · simp [Cursor.fail] at read
      · split at read
        · simp only [Except.ok.injEq, Prod.mk.injEq] at read
          exact read.1 ▸ valid
        · split at read
          · rename_i next
            refine ih ?_ read
            rw [List.reverse_cons]
            exact valid.concat (by simpa using next)
          · simp [Cursor.fail] at read

/-- A new name is noted. -/
structure NotesName (c : Cursor) (name : String) (after : Cursor) : Prop where
  allowed : IsGroupName name
  fresh : name ∉ c.names.map (·.1)
  names : after.names.map (·.1) = name :: c.names.map (·.1)
  groups : after.groups = c.groups

theorem readGroupName_notes {name : String} {c after : Cursor}
    (read : readGroupName c = .ok (name, after)) : NotesName c name after := by
  unfold readGroupName at read
  obtain ⟨⟨chars, later⟩, chosen, read⟩ := bind_eq_ok_iff.mp read
  have nothing : NameChars ([] : List Char).reverse := trivial
  have valid := readGroupNameChars_valid nothing chosen
  have same : later.bump.gathered = c.gathered :=
    later.gathered_bump.trans (readGroupNameChars_keeps _ _ _ chars later chosen)
  obtain ⟨groups, names⟩ := Prod.mk.inj same
  simp only at read
  split at read
  · simp [Cursor.fail] at read
  · rename_i some
    split at read
    · simp [Cursor.fail] at read
    · rename_i none
      simp only [Except.ok.injEq, Prod.mk.injEq] at read
      obtain ⟨rfl, rfl⟩ := read
      refine ⟨⟨by simpa using some, by simpa using valid⟩, ?_, by simp [names], groups⟩
      intro listed
      obtain ⟨entry, member, same⟩ := List.mem_map.mp listed
      exact absurd same (by simpa using List.find?_eq_none.mp none entry (names ▸ member))

/-! ## The tally of groups -/

/-- Groups in the order in which they open: their numbers count up from one, and their names are
distinct and allowed. -/
structure WellGrouped (entries : List (Nat × Option String)) : Prop where
  numbers : entries.map (·.1) = List.range' 1 entries.length
  distinct : (entries.filterMap (·.2)).Nodup
  allowed : ∀ name ∈ entries.filterMap (·.2), IsGroupName name

namespace WellGrouped

variable {entries : List (Nat × Option String)} {name : String} {index : Nat}

theorem allowed_of_mem (grouped : WellGrouped entries) (member : (index, some name) ∈ entries) :
    IsGroupName name :=
  grouped.allowed name (List.mem_filterMap.mpr ⟨_, member, rfl⟩)

theorem pos_of_mem (grouped : WellGrouped entries) {given : Option String}
    (member : (index, given) ∈ entries) : 0 < index := by
  have listed : index ∈ entries.map (·.1) := List.mem_map_of_mem member
  rw [grouped.numbers] at listed
  exact (List.mem_range'_1.mp listed).1

/-- A number has one group. -/
theorem entry_unique (grouped : WellGrouped entries) {given other : Option String}
    (member : (index, given) ∈ entries) (also : (index, other) ∈ entries) : given = other := by
  have distinct : (entries.map (·.1)).Nodup := grouped.numbers ▸ List.nodup_range'
  exact (Prod.mk.inj (List.inj_on_of_nodup_map distinct member also rfl)).2

theorem index_unique (grouped : WellGrouped entries) {other : Nat}
    (member : (index, some name) ∈ entries) (also : (other, some name) ∈ entries) :
    other = index := by
  by_contra apart
  have distinct := List.pairwise_filterMap.mp grouped.distinct
  have symmetric : Std.Symm fun entry other : Nat × Option String =>
      ∀ n, entry.2 = some n → ∀ m, other.2 = some m → n ≠ m :=
    ⟨fun _ _ differ n own m given => (differ m given n own).symm⟩
  have differ := distinct.forall member also fun same => apart (Prod.mk.inj same).1.symm
  exact differ name rfl name rfl rfl

end WellGrouped

/-- A cursor has gathered these groups. -/
structure Tally (entries : List (Nat × Option String)) (c : Cursor) : Prop where
  grouped : WellGrouped entries
  groups : c.groups = entries.length
  names : c.names.map (·.1) = (entries.filterMap (·.2)).reverse

namespace Tally

variable {entries : List (Nat × Option String)} {c d : Cursor}

theorem of_gathered (tally : Tally entries c) (same : d.gathered = c.gathered) :
    Tally entries d := by
  obtain ⟨groups, names⟩ := Prod.mk.inj same
  exact ⟨tally.grouped, groups.trans tally.groups, names ▸ tally.names⟩

theorem bump (tally : Tally entries c) : Tally entries c.bump :=
  tally.of_gathered c.gathered_bump

theorem bumpSpace (tally : Tally entries c) : Tally entries c.bumpSpace :=
  tally.of_gathered c.gathered_bumpSpace

theorem withExtended (tally : Tally entries c) (extended : Bool) :
    Tally entries { c with extended } :=
  tally.of_gathered rfl

theorem read (tally : Tally entries c) {α : Type} {result : Except Fault (α × Cursor)} {value : α}
    (keeps : Keeps c result) (read : result = .ok (value, d)) : Tally entries d :=
  tally.of_gathered (keeps value d read)

theorem numbers_concat (tally : Tally entries c) (name : Option String) :
    (entries ++ [(c.groups + 1, name)]).map (·.1) =
      List.range' 1 (entries ++ [(c.groups + 1, name)]).length := by
  rw [List.map_append, tally.grouped.numbers, List.length_append, List.length_singleton,
    ← List.range'_append_1, tally.groups]
  simp [Nat.add_comm]

theorem unnamed (tally : Tally entries c) (opens : d.groups = c.groups + 1)
    (same : d.names = c.names) : Tally (entries ++ [(c.groups + 1, none)]) d where
  grouped := ⟨tally.numbers_concat none, by simpa using tally.grouped.distinct,
    by simpa using tally.grouped.allowed⟩
  groups := by simp [opens, tally.groups]
  names := by simpa [same] using tally.names

theorem named (tally : Tally entries c) {name : String} {inner : Cursor}
    (opens : inner.groups = c.groups + 1) (same : inner.names = c.names)
    (notes : NotesName inner name d) : Tally (entries ++ [(c.groups + 1, some name)]) d := by
  have names : (entries ++ [(c.groups + 1, some name)]).filterMap (·.2) =
      entries.filterMap (·.2) ++ [name] := by simp
  have fresh : name ∉ entries.filterMap (·.2) := by
    have fresh := notes.fresh
    rwa [same, tally.names, List.mem_reverse] at fresh
  refine ⟨⟨tally.numbers_concat _, ?_, ?_⟩, ?_, ?_⟩
  · rw [names, List.nodup_append]
    refine ⟨tally.grouped.distinct, by simp, fun other member => ?_⟩
    exact List.forall_mem_singleton.mpr (ne_of_mem_of_not_mem member fresh)
  · rw [names]
    exact List.forall_mem_append.mpr ⟨tally.grouped.allowed, by simpa using notes.allowed⟩
  · rw [notes.groups, opens, tally.groups, List.length_append, List.length_singleton]
  · rw [notes.names, same, tally.names, names, List.reverse_append, List.reverse_singleton]
    rfl

end Tally

def Opening.entry? : Opening → Option (Nat × Option String)
  | .group _ kind => kind.entry?
  | .flags _ _ => none

/-- An opening parenthesis adds the group that it opens. -/
theorem readOpening_tally {entries : List (Nat × Option String)} {c after : Cursor}
    {opening : Opening} (tally : Tally entries c)
    (read : readOpening c = .ok (opening, after)) :
    Tally (entries ++ opening.entry?.toList) after := by
  unfold readOpening at read
  simp only at read
  generalize starts : c.advance = start at read
  replace tally : Tally entries start := tally.of_gathered (by simp [← starts])
  split at read
  · simp [Cursor.fail] at read
  · split at read
    · rename_i inner bumped
      obtain ⟨⟨name, later⟩, named, read⟩ := bind_eq_ok_iff.mp read
      simp only [Except.ok.injEq, Prod.mk.injEq] at read
      obtain ⟨rfl, rfl⟩ := read
      have same : inner.gathered = start.gathered := by
        rcases Option.or_eq_some_iff.mp bumped with long | ⟨-, short⟩
        · exact Cursor.gathered_of_bumpIf? long
        · exact Cursor.gathered_of_bumpIf? short
      let opened : Cursor := { inner with groups := start.groups + 1 }
      have opens : opened.groups = start.groups + 1 := rfl
      exact tally.named opens (Prod.mk.inj same).2 (readGroupName_notes named)
    · split at read
      · split at read
        · simp [Cursor.fail] at read
        · obtain ⟨⟨run, later⟩, flags, read⟩ := bind_eq_ok_iff.mp read
          have same : later.bump.gathered = start.gathered :=
            later.gathered_bump.trans
              ((readFlags_keeps _ _ _ run later flags).trans start.gathered_bump)
          simp only at read
          split at read
          · split at read
            · simp [Cursor.fail] at read
            · simp only [Except.ok.injEq, Prod.mk.injEq] at read
              obtain ⟨rfl, rfl⟩ := read
              simpa [Opening.entry?] using tally.of_gathered same
          · simp only [Except.ok.injEq, Prod.mk.injEq] at read
            obtain ⟨rfl, rfl⟩ := read
            simpa [Opening.entry?, GroupKind.entry?] using tally.of_gathered same
      · simp only [Except.ok.injEq, Prod.mk.injEq] at read
        obtain ⟨rfl, rfl⟩ := read
        exact tally.unnamed rfl rfl

/-! ## The reading loop -/

namespace OpenSequence

def groups (seq : OpenSequence) : List (Nat × Option String) :=
  groupsOf seq.branches.reverse ++ groupsOf seq.parts.reverse

@[simp] theorem groups_new (pos : Position) : (new pos).groups = [] := rfl

@[simp] theorem groups_push (seq : OpenSequence) (part : Ast) :
    (seq.push part).groups = seq.groups ++ part.groups := by
  simp [groups, push, groupsOf_append, groupsOf_singleton]

theorem groups_branch (seq : OpenSequence) (stop : Position) :
    (seq.branch stop).groups = groupsOf seq.parts.reverse := by
  unfold branch
  split
  · rename_i none
    rw [none]
    rfl
  · rename_i part only
    rw [only]
    exact (groupsOf_singleton part).symm
  · rw [Ast.groups]

@[simp] theorem groups_split (seq : OpenSequence) (stop next : Position) :
    (seq.split stop next).groups = seq.groups := by
  simp [split, groups, groupsOf_append, groups_branch, groupsOf]

@[simp] theorem groups_finish (seq : OpenSequence) (stop : Position) :
    (seq.finish stop).groups = seq.groups := by
  unfold finish
  split
  · rename_i none
    rw [groups_branch, groups, none]
    rfl
  · rw [Ast.groups, groupsOf_append, groupsOf_singleton, groups_branch, groups]

theorem groups_of_lastRepeatable? {seq before : OpenSequence} {part : Ast}
    (last : lastRepeatable? seq = some (part, before)) :
    seq.groups = before.groups ++ part.groups := by
  unfold lastRepeatable? at last
  split at last
  · simp at last
  · simp at last
  · simp at last
  · rename_i part rest _ _ listed
    simp only [Option.some.injEq, Prod.mk.injEq] at last
    obtain ⟨rfl, rfl⟩ := last
    simp [groups, listed, groupsOf_append, groupsOf_singleton]

end OpenSequence

theorem readOperator_groups {min : Nat} {max : Option Nat} {seq after : OpenSequence}
    {c later : Cursor} (read : readOperator min max seq c = .ok (after, later)) :
    after.groups = seq.groups := by
  unfold readOperator at read
  split at read
  · simp [Cursor.fail] at read
  · rename_i body before last
    simp only [Except.ok.injEq, Prod.mk.injEq] at read
    rw [← read.1, OpenSequence.groups_push, Ast.groups, OpenSequence.groups_of_lastRepeatable? last]

theorem readCounted_groups {seq after : OpenSequence} {c later : Cursor}
    (read : readCounted seq c = .ok (after, later)) : after.groups = seq.groups := by
  unfold readCounted at read
  simp only at read
  split at read
  · simp [Cursor.fail] at read
  · rename_i body before last
    split at read
    · simp [Cursor.fail] at read
    · split at read
      · simp [Cursor.fail] at read
      · obtain ⟨⟨⟨least, most⟩, closed⟩, counts, read⟩ := bind_eq_ok_iff.mp read
        simp only at read
        split at read
        · simp [Cursor.fail] at read
        · split at read
          · simp [Cursor.fail] at read
          · simp only [Except.ok.injEq, Prod.mk.injEq] at read
            rw [← read.1, OpenSequence.groups_push, Ast.groups,
              OpenSequence.groups_of_lastRepeatable? last]

theorem readMembers_groups {start : Position} {fuel : Nat} {frames : List ClassFrame}
    {run : ItemRun} {c after : Cursor} {ast : Ast}
    (read : readMembers start frames run c fuel = .ok (ast, after)) : ast.groups = [] := by
  fun_induction readMembers start frames run c fuel with
  | case1 | case2 | case4 | case8 | case10 => cases read
  | case3 | case5 | case7 | case9 | case11 =>
      rename_i ih
      exact ih read
  | case6 =>
      simp only [Except.ok.injEq, Prod.mk.injEq] at read
      rw [← read.1, Ast.groups]

theorem readBracketed_groups {c after : Cursor} {ast : Ast}
    (read : readBracketed c = .ok (ast, after)) : ast.groups = [] := by
  obtain ⟨⟨frame, run, inner⟩, -, read⟩ := bind_eq_ok_iff.mp read
  exact readMembers_groups read

/-- The groups before what is read now, of groups that are open and in front of them. -/
def groupsBefore : List OpenGroup → List (Nat × Option String)
  | [] => []
  | group :: outer => groupsBefore outer ++ group.outer.groups ++ group.kind.entry?.toList

theorem finishPattern_tally {groups : List OpenGroup} {seq : OpenSequence} {c after : Cursor}
    {ast : Ast} (tally : Tally (groupsBefore groups ++ seq.groups) c)
    (read : finishPattern groups seq c = .ok (ast, after)) : Tally ast.groups after := by
  unfold finishPattern at read
  split at read
  · simp [Cursor.fail] at read
  · simp only [Except.ok.injEq, Prod.mk.injEq] at read
    obtain ⟨rfl, rfl⟩ := read
    simpa [groupsBefore] using tally

/-- A cursor that has gathered the groups read so far gathers those of the whole pattern. -/
theorem readParts_tally {fuel : Nat} {groups : List OpenGroup} {seq : OpenSequence}
    {c after : Cursor} {ast : Ast} (tally : Tally (groupsBefore groups ++ seq.groups) c)
    (read : readParts groups seq c fuel = .ok (ast, after)) : Tally ast.groups after := by
  fun_induction readParts groups seq c fuel with
  | case1 => exact finishPattern_tally tally read
  | case2 => exact finishPattern_tally tally.bumpSpace read
  -- One of the readers has found a fault, or a group is closed that is not open.
  | case3 | case6 | case9 | case11 | case13 | case15 | case17 | case19 => cases read
  -- An opening parenthesis puts the sequence on the stack, and a closing one takes it off.
  | case4 =>
      rename_i opened _ ih
      refine ih (Tally.withExtended ?_ _) read
      simpa [Opening.entry?, Ast.groups] using readOpening_tally tally.bumpSpace opened
  | case5 =>
      rename_i opened _ ih
      refine ih (Tally.withExtended ?_ _) read
      simpa [Opening.entry?, groupsBefore] using readOpening_tally tally.bumpSpace opened
  | case7 =>
      rename_i body _ whole ih
      refine ih (Tally.withExtended ?_ _) read
      simpa [groupsBefore, whole, body, Ast.groups] using tally.bumpSpace.bump
  | case8 =>
      rename_i ih
      exact ih (by simpa using tally.bumpSpace.bump) read
  | case10 =>
      rename_i bracket ih
      have next := tally.bumpSpace.read (readBracketed_keeps _) bracket
      exact ih (by simpa [readBracketed_groups bracket] using next) read
  | case12 | case14 | case16 =>
      rename_i operator ih
      have next := tally.bumpSpace.read (readOperator_keeps _ _ _ _) operator
      exact ih (by rwa [readOperator_groups operator]) read
  | case18 =>
      rename_i counted ih
      have next := tally.bumpSpace.read (readCounted_keeps _ _) counted
      exact ih (by rwa [readCounted_groups counted]) read
  | case20 =>
      rename_i single _ _ _ _ _ _ _ _ _ ih
      have next := tally.bumpSpace.read (readPrimitive_keeps _) single
      exact ih (by simpa [Ast.groups] using next) read

/-- The groups of a pattern are numbered from one on, and their names are distinct and allowed. -/
theorem readPattern_wellGrouped {pattern : String} {ast : Ast}
    (read : readPattern pattern = .ok ast) : WellGrouped ast.groups := by
  obtain ⟨⟨tree, after⟩, parts, read⟩ := bind_eq_ok_iff.mp read
  obtain ⟨-, -, same⟩ := bind_eq_ok_iff.mp read
  obtain rfl := Except.ok.inj same
  have start : Tally (groupsBefore [] ++ (OpenSequence.new {}).groups) { rest := pattern.toList } :=
    ⟨⟨rfl, List.nodup_nil, by simp [groupsBefore]⟩, rfl, rfl⟩
  exact (readParts_tally start parts).grouped

/-! ## Meaning -/

namespace Expr

/-- The groups of an expression in the order in which they open. -/
def groups : Expr → List (Nat × Option String)
  | .group index name body => (index, name) :: body.groups
  | .seq a b => a.groups ++ b.groups
  | .alt a b => a.groups ++ b.groups
  | .rep _ _ _ body => body.groups
  | .empty | .set _ | .look _ => []

theorem groups_andThen (a b : Expr) : (a.andThen b).groups = a.groups ++ b.groups := by
  cases a <;> cases b <;> simp [andThen, groups]

theorem map_groups (expr : Expr) : expr.groups.map (·.1) = expr.groupIndices := by
  induction expr with
  | empty | set | look => rfl
  | group index name body ih => simp [groups, groupIndices, ih]
  | seq a b first second => simp [groups, groupIndices, first, second]
  | alt a b first second => simp [groups, groupIndices, first, second]
  | rep min max greedy body ih => simp [groups, groupIndices, ih]

theorem mem_groupNames_iff (expr : Expr) (name : String) (index : Nat) :
    (name, index) ∈ expr.groupNames ↔ (index, some name) ∈ expr.groups := by
  induction expr with
  | empty | set | look => simp [groups, groupNames]
  | group own given body ih =>
      cases given <;> simp [groups, groupNames, ih, and_comm, eq_comm]
  | seq a b first second => simp [groups, groupNames, first, second]
  | alt a b first second => simp [groups, groupNames, first, second]
  | rep min max greedy body ih => simpa [groups, groupNames] using ih

theorem groups_repeated (min : Nat) (max : Option Nat) (greedy : Bool) (body : Expr) :
    (Expr.repeated min max greedy body).groups.Sublist body.groups := by
  unfold Expr.repeated
  generalize (if body.isZeroWidth then _ else (min, max)) = counts
  obtain ⟨least, most⟩ := counts
  simp only
  split
  · exact List.nil_sublist _
  · split <;> exact List.Sublist.refl _

end Expr

theorem primitiveExpr_groups {flags : Flags} {p : Primitive} {expr : Expr}
    (means : primitiveExpr flags p = .ok expr) : expr.groups = [] := by
  cases p with
  | literal l =>
      obtain ⟨char, -, means⟩ := bind_eq_ok_iff.mp means
      exact Except.ok.inj means ▸ rfl
  | dot span =>
      rw [primitiveExpr] at means
      split at means
      · exact Except.ok.inj means ▸ rfl
      · simp at means
  | assertion span kind => exact Except.ok.inj means ▸ rfl
  | shorthand s =>
      rw [primitiveExpr] at means
      cases found : shorthandSet flags s with
      | error fault => simp [found, Except.map] at means
      | ok chars => exact Except.ok.inj (found ▸ means) ▸ rfl
  | property p =>
      rw [primitiveExpr] at means
      cases found : propertySet flags p with
      | error fault => simp [found, Except.map] at means
      | ok chars => exact Except.ok.inj (found ▸ means) ▸ rfl

mutual

/-- What a tree means has no group but those of the tree, and in their order. -/
theorem exprOf_groups {flags after : Flags} {ast : Ast} {expr : Expr}
    (means : exprOf flags ast = .ok (expr, after)) : expr.groups.Sublist ast.groups := by
  cases ast with
  | empty | flags =>
      simp only [exprOf, Except.ok.injEq, Prod.mk.injEq] at means
      rw [← means.1]
      exact List.nil_sublist _
  | primitive p =>
      rw [exprOf] at means
      obtain ⟨single, read, means⟩ := bind_eq_ok_iff.mp means
      simp only [Except.ok.injEq, Prod.mk.injEq] at means
      rw [← means.1, primitiveExpr_groups read]
      exact List.nil_sublist _
  | bracketed =>
      rw [exprOf] at means
      obtain ⟨members, -, means⟩ := bind_eq_ok_iff.mp means
      obtain ⟨chars, -, means⟩ := bind_eq_ok_iff.mp means
      simp only [Except.ok.injEq, Prod.mk.injEq] at means
      rw [← means.1]
      exact List.nil_sublist _
  | repetition _ min max greedy body =>
      rw [exprOf] at means
      obtain ⟨⟨inner, later⟩, read, means⟩ := bind_eq_ok_iff.mp means
      simp only [Except.ok.injEq, Prod.mk.injEq] at means
      rw [← means.1, Ast.groups]
      exact (Expr.groups_repeated _ _ _ _).trans (exprOf_groups read)
  | group _ kind body =>
      rw [Ast.groups]
      cases kind with
      | capture index name =>
          rw [exprOf] at means
          obtain ⟨⟨inner, later⟩, read, means⟩ := bind_eq_ok_iff.mp means
          simp only [Except.ok.injEq, Prod.mk.injEq] at means
          rw [← means.1]
          exact (exprOf_groups read).cons_cons _
      | plain change =>
          rw [exprOf] at means
          obtain ⟨⟨inner, later⟩, read, means⟩ := bind_eq_ok_iff.mp means
          simp only [Except.ok.injEq, Prod.mk.injEq] at means
          rw [← means.1]
          exact exprOf_groups read
  | alternation _ branches =>
      rw [exprOf] at means
      rw [Ast.groups]
      exact exprOfBranches_groups means
  | sequence _ parts =>
      rw [exprOf] at means
      rw [Ast.groups]
      exact exprOfParts_groups means

theorem exprOfParts_groups {flags after : Flags} {parts : List Ast} {before expr : Expr}
    (means : exprOfParts flags before parts = .ok (expr, after)) :
    expr.groups.Sublist (before.groups ++ groupsOf parts) := by
  cases parts with
  | nil =>
      simp only [exprOfParts, Except.ok.injEq, Prod.mk.injEq] at means
      rw [← means.1]
      exact List.sublist_append_left _ _
  | cons part rest =>
      rw [exprOfParts] at means
      obtain ⟨⟨inner, later⟩, read, means⟩ := bind_eq_ok_iff.mp means
      refine (exprOfParts_groups means).trans ?_
      rw [Expr.groups_andThen, groupsOf, List.append_assoc]
      exact ((exprOf_groups read).append_right _).append_left _

theorem exprOfBranches_groups {flags after : Flags} {branches : List Ast} {expr : Expr}
    (means : exprOfBranches flags branches = .ok (expr, after)) :
    expr.groups.Sublist (groupsOf branches) := by
  cases branches with
  | nil =>
      simp only [exprOfBranches, Except.ok.injEq, Prod.mk.injEq] at means
      rw [← means.1]
      exact List.nil_sublist _
  | cons branch rest =>
      rw [groupsOf]
      cases rest with
      | nil =>
          rw [exprOfBranches] at means
          exact (exprOf_groups means).trans (List.sublist_append_left _ _)
      | cons second rest =>
          rw [exprOfBranches] at means
          · obtain ⟨⟨first, next⟩, read, means⟩ := bind_eq_ok_iff.mp means
            obtain ⟨⟨others, last⟩, later, means⟩ := bind_eq_ok_iff.mp means
            simp only [Except.ok.injEq, Prod.mk.injEq] at means
            rw [← means.1, Expr.groups]
            exact (exprOf_groups read).append (exprOfBranches_groups later)
          · simp

end

/-! ## Compiled patterns -/

/-- A pattern gives the name to the group of a number. -/
def NamesGroup (pattern name : String) (index : Nat) : Prop :=
  ∃ ast, readPattern pattern = .ok ast ∧ (index, some name) ∈ ast.groups

/-- A pattern that compiles was read, and its tree has a meaning. -/
theorem exprOf_of_compile {pattern : String} {regex : Regex}
    (builds : Regex.compile pattern = .ok regex) :
    ∃ ast after, readPattern pattern = .ok ast ∧ exprOf {} ast = .ok (regex.expr, after) := by
  unfold Regex.compile at builds
  split at builds
  · simp at builds
  · rename_i expr read
    split at builds
    · obtain rfl := Except.ok.inj builds
      obtain ⟨ast, tree, read⟩ := bind_eq_ok_iff.mp read
      obtain ⟨⟨meaning, after⟩, means, read⟩ := bind_eq_ok_iff.mp read
      obtain rfl := Except.ok.inj read
      exact ⟨ast, after, tree, means⟩
    · simp at builds

section Named

variable {pattern name : String} {index : Nat}

theorem NamesGroup.isGroupName (names : NamesGroup pattern name index) : IsGroupName name := by
  obtain ⟨ast, read, member⟩ := names
  exact (readPattern_wellGrouped read).allowed_of_mem member

theorem NamesGroup.pos (names : NamesGroup pattern name index) : 0 < index := by
  obtain ⟨ast, read, member⟩ := names
  exact (readPattern_wellGrouped read).pos_of_mem member

/-- A name finds the group that the pattern gives it to, unless the compiled pattern has no such
group. -/
theorem NamesGroup.groupIndex? {regex : Regex} (names : NamesGroup pattern name index)
    (builds : Regex.compile pattern = .ok regex) :
    regex.groupIndex? name = if index ∈ regex.expr.groupIndices then some index else none := by
  obtain ⟨ast, read, member⟩ := names
  obtain ⟨tree, after, again, means⟩ := exprOf_of_compile builds
  obtain rfl := Except.ok.inj (again.symm.trans read)
  have grouped := readPattern_wellGrouped read
  have inTree := (exprOf_groups means).subset
  have only : ∀ entry ∈ regex.expr.groupNames, entry.1 = name → entry.2 = index := by
    rintro ⟨given, other⟩ listed rfl
    exact grouped.index_unique member (inTree ((regex.expr.mem_groupNames_iff _ _).mp listed))
  cases found : regex.expr.groupNames.find? fun entry => entry.1 = name with
  | some entry =>
      have same : entry.1 = name := by simpa using List.find?_some found
      have listed := List.mem_of_find?_eq_some found
      obtain rfl := only entry listed same
      have there := (regex.expr.mem_groupNames_iff _ _).mp listed
      rw [if_pos (regex.expr.map_groups ▸ List.mem_map_of_mem there)]
      simp [Regex.groupIndex?, found]
  | none =>
      -- A group with this number would have this name, and the search would have found it.
      have absent : index ∉ regex.expr.groupIndices := by
        rw [← Expr.map_groups]
        intro there
        obtain ⟨⟨own, given⟩, inside, same⟩ := List.mem_map.mp there
        obtain rfl : own = index := same
        obtain rfl := grouped.entry_unique (inTree inside) member
        have listed := (regex.expr.mem_groupNames_iff _ _).mpr inside
        simpa using List.find?_eq_none.mp found _ listed
      rw [if_neg absent]
      simp [Regex.groupIndex?, found]

end Named

end ShortcodeExpansion.Regex
