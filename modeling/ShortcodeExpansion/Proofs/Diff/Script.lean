import ShortcodeExpansion.Diff.Script

/-!
# A script turns the old list into the new one

Whatever is found in the middle, dividing two lists gives runs that make up both of them.  Moving a
run changes neither: what it passes by is kept and equal to its own items, or belongs to the other
list.  So what a script keeps and deletes is the old list, and what it keeps and inserts is the new
one.
-/

set_option autoImplicit false

namespace ShortcodeExpansion.Diff

variable {α : Type}

/-! ## Items in common -/

section Common

variable [DecidableEq α]

theorem take_commonPrefix (as bs : List α) :
    as.take (commonPrefix as bs) = bs.take (commonPrefix as bs) := by
  induction as generalizing bs with
  | nil => cases bs <;> rfl
  | cons a as ih =>
      cases bs with
      | nil => rfl
      | cons b bs =>
          by_cases same : a = b
          · simp [commonPrefix, same, ih bs]
          · simp [commonPrefix, same]

theorem commonPrefix_self (as : List α) : commonPrefix as as = as.length := by
  induction as with
  | nil => rfl
  | cons a as ih => simp [commonPrefix, ih]

theorem drop_commonSuffix (as bs : List α) :
    as.drop (as.length - commonSuffix as bs) = bs.drop (bs.length - commonSuffix as bs) := by
  have same := take_commonPrefix as.reverse bs.reverse
  rw [List.take_reverse, List.take_reverse] at same
  exact List.reverse_inj.mp same

end Common

/-! ## The two lists of a script -/

/-- The items of runs, those of one kind of change left out. -/
def itemsWithout (change : Change) (runs : List (Run α)) : List α :=
  runs.flatMap fun run => if run.change = change then [] else run.items

section ItemsWithout

variable {change : Change} {runs : List (Run α)}

@[simp] theorem itemsWithout_nil : itemsWithout change ([] : List (Run α)) = [] := rfl

@[simp] theorem itemsWithout_cons (run : Run α) : itemsWithout change (run :: runs) =
    (if run.change = change then [] else run.items) ++ itemsWithout change runs := rfl

@[simp] theorem itemsWithout_append (others : List (Run α)) :
    itemsWithout change (runs ++ others) = itemsWithout change runs ++ itemsWithout change others :=
  List.flatMap_append

theorem itemsWithout_keepRun (change_ne : change ≠ .keep) (items : List α) :
    itemsWithout change (keepRun items) = items := by
  cases items <;> simp [keepRun, change_ne.symm]

end ItemsWithout

/-- The old list is what runs delete and keep, and the new one what they insert and keep. -/
structure Joins (runs : List (Run α)) (old new : List α) : Prop where
  old : itemsWithout .insert runs = old
  new : itemsWithout .delete runs = new

section Joins

variable {runs others : List (Run α)} {old new oldMore newMore items : List α}

theorem Joins.append (first : Joins runs old new) (second : Joins others oldMore newMore) :
    Joins (runs ++ others) (old ++ oldMore) (new ++ newMore) where
  old := by rw [itemsWithout_append, first.old, second.old]
  new := by rw [itemsWithout_append, first.new, second.new]

theorem joins_nil : Joins ([] : List (Run α)) [] [] := ⟨rfl, rfl⟩

theorem joins_keepRun (items : List α) : Joins (keepRun items) items items where
  old := itemsWithout_keepRun (by decide) items
  new := itemsWithout_keepRun (by decide) items

theorem joins_delete (items : List α) : Joins [⟨.delete, items⟩] items [] :=
  ⟨by simp, by simp⟩

theorem joins_insert (items : List α) : Joins [⟨.insert, items⟩] [] items :=
  ⟨by simp, by simp⟩

theorem joins_replace (old new : List α) : Joins [⟨.delete, old⟩, ⟨.insert, new⟩] old new :=
  ⟨by simp, by simp⟩

end Joins

section Divide

variable [DecidableEq α]

theorem divideFrom_joins (fuel : Nat) : ∀ old new : List α,
    Joins (divideFrom fuel old new) old new := by
  induction fuel with
  | zero => exact joins_replace
  | succ fuel ih =>
      intro old new
      let head := commonPrefix old new
      let oldRest := old.drop head
      let newRest := new.drop head
      let tail := commonSuffix oldRest newRest
      let oldPart := oldRest.take (oldRest.length - tail)
      let newPart := newRest.take (newRest.length - tail)
      obtain ⟨between, divided, joins⟩ : ∃ between, divideFrom (fuel + 1) old new =
          keepRun (old.take head) ++ between ++ keepRun (oldRest.drop (oldRest.length - tail)) ∧
            Joins between oldPart newPart := by
        refine ⟨_, rfl, ?_⟩
        split
        · rename_i none
          obtain ⟨noOld, noNew⟩ : oldPart = [] ∧ newPart = [] := by
            simpa only [Bool.and_eq_true, List.isEmpty_iff] using none
          rw [noOld, noNew]
          exact joins_nil
        · split
          · rename_i none
            have noOld : oldPart = [] := List.isEmpty_iff.mp none
            rw [noOld]
            exact joins_insert newPart
          · split
            · rename_i none
              have noNew : newPart = [] := List.isEmpty_iff.mp none
              rw [noNew]
              exact joins_delete oldPart
            · split
              · exact joins_replace oldPart newPart
              · rename_i column row _
                have halves := (ih (oldPart.take column) (newPart.take row)).append
                  (ih (oldPart.drop column) (newPart.drop row))
                rwa [List.take_append_drop, List.take_append_drop] at halves
      have ends : oldRest.drop (oldRest.length - tail) = newRest.drop (newRest.length - tail) :=
        drop_commonSuffix oldRest newRest
      have starts : old.take head = new.take head := take_commonPrefix old new
      have oldWhole : old.take head ++ oldPart ++ oldRest.drop (oldRest.length - tail) = old := by
        rw [List.append_assoc, List.take_append_drop, List.take_append_drop]
      have newWhole : old.take head ++ newPart ++ oldRest.drop (oldRest.length - tail) = new := by
        rw [ends, starts, List.append_assoc, List.take_append_drop, List.take_append_drop]
      have whole := ((joins_keepRun (old.take head)).append joins).append
        (joins_keepRun (oldRest.drop (oldRest.length - tail)))
      rwa [← divided, oldWhole, newWhole] at whole

end Divide

/-! ## Moving a run -/

/-- Of a deletion and an insertion one is left out, if what is kept is not. -/
theorem Change.eq_or_eq {change kind other : Change} (change_ne : change ≠ .keep)
    (kind_ne : kind ≠ .keep) (other_ne : other ≠ .keep) (apart : other ≠ kind) :
    kind = change ∧ other ≠ change ∨ kind ≠ change ∧ other = change := by
  cases change <;> cases kind <;> cases other <;> simp_all

namespace Focus

/-- The runs before, the one that is moved, and those after it. -/
def runs (f : Focus α) : List (Run α) := f.before.reverse ++ f.run :: f.after

/-- The moved run is of the same kind, and the runs make up the same two lists. -/
structure Like (f g : Focus α) : Prop where
  kind : f.run.change = g.run.change
  items : ∀ change, change ≠ .keep → itemsWithout change f.runs = itemsWithout change g.runs

theorem Like.refl (f : Focus α) : Like f f := ⟨rfl, fun _ _ => rfl⟩

theorem Like.symm {f g : Focus α} (same : Like f g) : Like g f where
  kind := same.kind.symm
  items change change_ne := (same.items change change_ne).symm

theorem Like.trans {f g h : Focus α} (first : Like f g) (second : Like g h) : Like f h where
  kind := first.kind.trans second.kind
  items change change_ne := (first.items change change_ne).trans (second.items change change_ne)

section Kept

variable {change : Change} (change_ne : change ≠ .keep) (items : List α)

include change_ne

theorem itemsWithout_keepAfter (after : List (Run α)) :
    itemsWithout change (keepAfter items after) = items ++ itemsWithout change after := by
  unfold keepAfter
  split <;> simp [change_ne.symm]

theorem itemsWithout_keepBefore (before : List (Run α)) :
    itemsWithout change (keepBefore items before).reverse =
      itemsWithout change before.reverse ++ items := by
  unfold keepBefore
  split <;> simp [change_ne.symm]

theorem itemsWithout_keepSome (rest : List (Run α)) :
    itemsWithout change (if items.isEmpty then rest else ⟨.keep, items⟩ :: rest) =
      items ++ itemsWithout change rest := by
  cases items <;> simp [change_ne.symm]

theorem itemsWithout_keepSome_reverse (rest : List (Run α)) :
    itemsWithout change (if items.isEmpty then rest else ⟨.keep, items⟩ :: rest).reverse =
      itemsWithout change rest.reverse ++ items := by
  cases items <;> simp [change_ne.symm]

end Kept

section Steps

variable {kind : Change} {own others : List α} {before after : List (Run α)}

/-- A run joined to the one before it. -/
theorem like_join_up : Like ⟨before, ⟨kind, others ++ own⟩, after⟩
    ⟨⟨kind, others⟩ :: before, ⟨kind, own⟩, after⟩ where
  kind := rfl
  items change _ := by by_cases left : kind = change <;> simp [runs, left]

/-- A run joined to the one after it. -/
theorem like_join_down : Like ⟨before, ⟨kind, own ++ others⟩, after⟩
    ⟨before, ⟨kind, own⟩, ⟨kind, others⟩ :: after⟩ where
  kind := rfl
  items change _ := by by_cases left : kind = change <;> simp [runs, left]

/-- A deletion and an insertion pass each other. -/
theorem like_cross {other : Run α} (kind_ne : kind ≠ .keep) (other_ne : other.change ≠ .keep)
    (apart : other.change ≠ kind) :
    Like ⟨before, ⟨kind, own⟩, other :: after⟩ ⟨other :: before, ⟨kind, own⟩, after⟩ where
  kind := rfl
  items change change_ne := by
    rcases Change.eq_or_eq change_ne kind_ne other_ne apart with ⟨same, apart⟩ | ⟨apart, same⟩ <;>
      simp [runs, same, apart]

/-- A run of no items that is kept does not count. -/
theorem like_empty_up : Like ⟨before, ⟨kind, own⟩, after⟩
    ⟨⟨.keep, []⟩ :: before, ⟨kind, own⟩, after⟩ := ⟨rfl, fun _ _ => by simp [runs]⟩

theorem like_empty_down : Like ⟨before, ⟨kind, own⟩, after⟩
    ⟨before, ⟨kind, own⟩, ⟨.keep, []⟩ :: after⟩ := ⟨rfl, fun _ _ => by simp [runs]⟩

/-- A run passes kept items that end as it does. -/
theorem like_slide_up (own left shared : List α) :
    Like ⟨if left.isEmpty then before else ⟨.keep, left⟩ :: before, ⟨kind, shared ++ own⟩,
        keepAfter shared after⟩
      ⟨⟨.keep, left ++ shared⟩ :: before, ⟨kind, own ++ shared⟩, after⟩ where
  kind := rfl
  items change change_ne := by
    simp only [runs, itemsWithout_append, itemsWithout_keepSome_reverse change_ne,
      itemsWithout_cons, itemsWithout_keepAfter change_ne]
    by_cases out : kind = change <;> simp [out, change_ne.symm]

/-- A run passes kept items that start as it does. -/
theorem like_slide_down (own shared right : List α) :
    Like ⟨keepBefore shared before, ⟨kind, own ++ shared⟩,
        if right.isEmpty then after else ⟨.keep, right⟩ :: after⟩
      ⟨before, ⟨kind, shared ++ own⟩, ⟨.keep, shared ++ right⟩ :: after⟩ where
  kind := rfl
  items change change_ne := by
    simp only [runs, itemsWithout_append, itemsWithout_keepBefore change_ne, itemsWithout_cons,
      itemsWithout_keepSome change_ne]
    by_cases out : kind = change <;> simp [out, change_ne.symm]

end Steps

variable [DecidableEq α]

theorem up_like {kind : Change} (kind_ne : kind ≠ .keep) (fuel : Nat) :
    ∀ (before : List (Run α)) (own : List α) (after : List (Run α)),
      Like (up fuel ⟨before, ⟨kind, own⟩, after⟩) ⟨before, ⟨kind, own⟩, after⟩ := by
  induction fuel with
  | zero => exact fun before own after => Like.refl _
  | succ fuel ih =>
      intro before own after
      have pass : ∀ (other : Run α) (rest : List (Run α)), other.change ≠ .keep →
          Like (if other.change = kind then up fuel ⟨rest, ⟨kind, other.items ++ own⟩, after⟩
            else up fuel ⟨rest, ⟨kind, own⟩, other :: after⟩)
            ⟨other :: rest, ⟨kind, own⟩, after⟩ := by
        intro other rest other_ne
        split
        · rename_i same
          subst same
          exact (ih _ _ _).trans like_join_up
        · rename_i apart
          exact (ih _ _ _).trans (like_cross kind_ne other_ne apart)
      match before with
      | [] => exact Like.refl _
      | ⟨.delete, items⟩ :: rest => exact pass ⟨.delete, items⟩ rest (by simp)
      | ⟨.insert, items⟩ :: rest => exact pass ⟨.insert, items⟩ rest (by simp)
      | ⟨.keep, items⟩ :: rest =>
          rw [up]
          dsimp only
          split
          · exact Like.refl _
          · rename_i goesOn
            split
            · rename_i none
              obtain rfl : items = [] := by simpa [none] using goesOn
              exact (ih _ _ _).trans like_empty_up
            · let stay := own.take (own.length - commonSuffix own items)
              let left := items.take (items.length - commonSuffix own items)
              let shared := items.drop (items.length - commonSuffix own items)
              have ownSplit : stay ++ shared = own := by
                have ends : own.drop _ = shared := drop_commonSuffix own items
                rw [← ends, List.take_append_drop]
              have itemsSplit : left ++ shared = items := List.take_append_drop _ items
              have slide : Like _ ⟨_ :: rest, ⟨kind, _⟩, after⟩ := like_slide_up stay left shared
              rw [ownSplit, itemsSplit] at slide
              exact (ih _ _ _).trans slide

theorem down_like {kind : Change} (kind_ne : kind ≠ .keep) (fuel : Nat) :
    ∀ (before : List (Run α)) (own : List α) (after : List (Run α)),
      Like (down fuel ⟨before, ⟨kind, own⟩, after⟩) ⟨before, ⟨kind, own⟩, after⟩ := by
  induction fuel with
  | zero => exact fun before own after => Like.refl _
  | succ fuel ih =>
      intro before own after
      have pass : ∀ (other : Run α) (rest : List (Run α)), other.change ≠ .keep →
          Like (if other.change = kind then down fuel ⟨before, ⟨kind, own ++ other.items⟩, rest⟩
            else down fuel ⟨other :: before, ⟨kind, own⟩, rest⟩)
            ⟨before, ⟨kind, own⟩, other :: rest⟩ := by
        intro other rest other_ne
        split
        · rename_i same
          subst same
          exact (ih _ _ _).trans like_join_down
        · rename_i apart
          exact (ih _ _ _).trans (like_cross kind_ne other_ne apart).symm
      match after with
      | [] => exact Like.refl _
      | ⟨.delete, items⟩ :: rest => exact pass ⟨.delete, items⟩ rest (by simp)
      | ⟨.insert, items⟩ :: rest => exact pass ⟨.insert, items⟩ rest (by simp)
      | ⟨.keep, items⟩ :: rest =>
          rw [down]
          dsimp only
          split
          · exact Like.refl _
          · rename_i goesOn
            split
            · rename_i none
              obtain rfl : items = [] := by simpa [none] using goesOn
              exact (ih _ _ _).trans like_empty_down
            · let stay := own.drop (commonPrefix own items)
              let shared := items.take (commonPrefix own items)
              let right := items.drop (commonPrefix own items)
              have ownSplit : shared ++ stay = own := by
                have starts : own.take _ = shared := take_commonPrefix own items
                rw [← starts, List.take_append_drop]
              have itemsSplit : shared ++ right = items := List.take_append_drop _ items
              have slide : Like _ ⟨before, ⟨kind, _⟩, _ :: rest⟩ :=
                like_slide_down stay shared right
              rw [ownSplit, itemsSplit] at slide
              exact (ih _ _ _).trans slide

theorem settle_like {f : Focus α} (moved : f.run.change ≠ .keep) : Like f.settle f := by
  have risen : Like (f.up (weight f.before)) f := up_like moved _ _ _ _
  refine Like.trans (down_like ?_ _ _ _ _) risen
  rw [risen.kind]
  exact moved

end Focus

section Script

variable [DecidableEq α]

theorem itemsWithout_compactFrom {change kind : Change} (change_ne : change ≠ .keep)
    (kind_ne : kind ≠ .keep) (fuel : Nat) : ∀ done runs : List (Run α),
      itemsWithout change (compactFrom kind fuel done runs) =
        itemsWithout change (done.reverse ++ runs) := by
  induction fuel with
  | zero => exact fun done runs => by rw [compactFrom]
  | succ fuel ih =>
      intro done runs
      cases runs with
      | nil => simp [compactFrom]
      | cons run rest =>
          rw [compactFrom]
          split
          · rename_i same
            have settled := Focus.settle_like (f := ⟨done, run, rest⟩) (same ▸ kind_ne)
            rw [ih, List.reverse_cons, List.append_assoc]
            exact settled.items change change_ne
          · simp [ih]

/-- Where no run is of the kind, none is moved. -/
theorem compact_of_none {kind : Change} {runs : List (Run α)}
    (none : ∀ run ∈ runs, run.change ≠ kind) : compact kind runs = runs := by
  have still : ∀ (fuel : Nat) (done runs : List (Run α)), (∀ run ∈ runs, run.change ≠ kind) →
      compactFrom kind fuel done runs = done.reverse ++ runs := by
    intro fuel
    induction fuel with
    | zero => exact fun done runs _ => by rw [compactFrom]
    | succ fuel ih =>
        intro done runs none
        cases runs with
        | nil => simp [compactFrom]
        | cons run rest =>
            have later := ih (run :: done) rest fun other member =>
              none other (List.mem_cons_of_mem run member)
            rw [compactFrom, if_neg (none run List.mem_cons_self), later]
            simp
  exact still _ [] runs none

theorem Joins.compact {runs : List (Run α)} {old new : List α} (joins : Joins runs old new)
    {kind : Change} (kind_ne : kind ≠ .keep) : Joins (compact kind runs) old new where
  old := (itemsWithout_compactFrom (by decide) kind_ne _ [] runs).trans joins.old
  new := (itemsWithout_compactFrom (by decide) kind_ne _ [] runs).trans joins.new

end Script

section Edits

@[simp] theorem oldItems_append (edits others : List (Edit α)) :
    oldItems (edits ++ others) = oldItems edits ++ oldItems others := by
  simp [oldItems]

@[simp] theorem newItems_append (edits others : List (Edit α)) :
    newItems (edits ++ others) = newItems edits ++ newItems others := by
  simp [newItems]

@[simp] theorem oldItems_cons (edit : Edit α) (edits : List (Edit α)) : oldItems (edit :: edits) =
    if edit.change = .insert then oldItems edits else edit.item :: oldItems edits := by
  by_cases out : edit.change = .insert <;> simp [oldItems, out]

@[simp] theorem newItems_cons (edit : Edit α) (edits : List (Edit α)) : newItems (edit :: edits) =
    if edit.change = .delete then newItems edits else edit.item :: newItems edits := by
  by_cases out : edit.change = .delete <;> simp [newItems, out]

theorem oldItems_edits (run : Run α) :
    oldItems run.edits = if run.change = .insert then [] else run.items := by
  by_cases out : run.change = .insert <;>
    simp [oldItems, Run.edits, List.filter_map, out, Function.comp_def]

theorem newItems_edits (run : Run α) :
    newItems run.edits = if run.change = .delete then [] else run.items := by
  by_cases out : run.change = .delete <;>
    simp [newItems, Run.edits, List.filter_map, out, Function.comp_def]

/-- Edits hold what their runs hold, and what is still to come before them. -/
theorem items_editsFrom (runs : List (Run α)) : ∀ deleted inserted : List α,
    oldItems (editsFrom deleted inserted runs) = deleted ++ itemsWithout .insert runs ∧
      newItems (editsFrom deleted inserted runs) = inserted ++ itemsWithout .delete runs := by
  induction runs with
  | nil => simp [editsFrom, oldItems_edits, newItems_edits]
  | cons run rest ih =>
      intro deleted inserted
      obtain ⟨kind, items⟩ := run
      cases kind <;> simp [editsFrom, ih, oldItems_edits, newItems_edits]

variable [DecidableEq α]

/-- What a script keeps and deletes is the old list, and what it keeps and inserts the new one. -/
theorem script_items (old new : List α) :
    oldItems (script old new) = old ∧ newItems (script old new) = new := by
  have joins : Joins (compact .insert (compact .delete (divide old new))) old new :=
    ((divideFrom_joins _ old new).compact (by decide)).compact (by decide)
  obtain ⟨oldSide, newSide⟩ :=
    items_editsFrom (compact .insert (compact .delete (divide old new))) [] []
  exact ⟨oldSide.trans joins.old, newSide.trans joins.new⟩

/-- A list is turned into itself by keeping it. -/
theorem script_self (items : List α) : script items items = Run.edits ⟨.keep, items⟩ := by
  have whole : divide items items = keepRun items := by
    simp [divide, divideFrom, commonPrefix_self, keepRun, commonSuffix]
  have kept : ∀ run ∈ keepRun items, run.change = .keep := by
    cases items <;> simp [keepRun]
  have still : ∀ kind, kind ≠ .keep → compact kind (keepRun items) = keepRun items :=
    fun kind kind_ne => compact_of_none fun run member => (kept run member).symm ▸ kind_ne.symm
  rw [script, whole, still .delete (by decide), still .insert (by decide)]
  cases items <;> simp [keepRun, editsFrom, Run.edits]

end Edits

end ShortcodeExpansion.Diff
