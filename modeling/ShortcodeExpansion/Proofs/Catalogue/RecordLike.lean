import ShortcodeExpansion.Proofs.Catalogue.EntryReading

/-!
# Entries that look like records

An entry whose keys are all names of fields is a record if each value is of its field's type.  If
one is not, the entry is tried as a mapping next, which takes any keys but only texts for values.
So it is refused, unless all its values are texts; then it becomes a mapping, and the names of its
fields become patterns.  That happens where a text stands for the truth value of a raw shortcode,
and in YAML also where a field is named twice.
-/

set_option autoImplicit false

namespace ShortcodeExpansion

/-- What a value is, as far as the fields of a record can tell. -/
inductive Kind where
  | text
  | truth
  | other
deriving DecidableEq, Repr

/-- The names of values, with what the values are. -/
abbrev Fields := List (String × Kind)

def Shortcode.fieldNames : List String := ["pattern", "replacement", "regex"]

section Fields

variable (fields : Fields)

/-- Some value is named as a pattern, and none is named but as a field. -/
structure RecordLike : Prop where
  pattern : "pattern" ∈ fields.map Prod.fst
  known : ∀ name ∈ fields.map Prod.fst, name ∈ Shortcode.fieldNames

/-- Every value is of its field's type, and no field is named twice. -/
structure Fits : Prop where
  typed : ∀ field ∈ fields, field.2 = if field.1 = "regex" then .truth else .text
  once : (fields.map Prod.fst).Nodup

/-- Every value is a text, though one should be a truth value or a field is named twice. -/
structure Mistakable : Prop where
  texts : ∀ field ∈ fields, field.2 = .text
  unfit : "regex" ∈ fields.map Prod.fst ∨ ¬ (fields.map Prod.fst).Nodup

/-- What reading makes of an entry whose values are named as fields. -/
structure Handled (read : Option Entry) : Prop where
  record : (∃ s, read = some (.record s)) ↔ Fits fields
  mapping : (∃ m, read = some (.mapping m)) ↔ Mistakable fields
  noPattern : ∀ text, read ≠ some (.pattern text)

end Fields

section Fields

variable {fields : Fields}

theorem mistakable_iff : Mistakable fields ↔ ¬ Fits fields ∧ ∀ field ∈ fields, field.2 = .text := by
  constructor
  · rintro ⟨texts, unfit⟩
    refine ⟨fun fits => ?_, texts⟩
    rcases unfit with named | twice
    · obtain ⟨field, member, name⟩ := List.mem_map.mp named
      have typed := fits.typed field member
      rw [texts field member, if_pos name] at typed
      exact absurd typed (by decide)
    · exact twice fits.once
  · rintro ⟨unfit, texts⟩
    refine ⟨texts, ?_⟩
    by_contra neither
    obtain ⟨unnamed, once⟩ := not_or.mp neither
    refine unfit ⟨fun field member => ?_, not_not.mp once⟩
    have other : field.1 ≠ "regex" := fun name => unnamed (name ▸ List.mem_map_of_mem member)
    rw [texts field member, if_neg other]

end Fields

/-! ## A whole catalogue -/

/-- What reading makes of a catalogue, given the fields of those of its entries whose values are
named. -/
structure KeepsRecords (entries? : Option (List (Option Fields))) (read : Option Catalogue) :
    Prop where
  listed : ∀ c, read = some c → ∃ entries, entries? = some entries ∧
    entries.length = c.entries.length
  /-- An entry that looks like a record is read as one, or else as a mapping. -/
  kept : ∀ c (entries : List (Option Fields)), read = some c →
    entries? = some entries → ∀ (i : Nat) fields entry,
      entries[i]? = some (some fields) → c.entries[i]? = some entry → RecordLike fields →
      ((∃ s, entry = Entry.record s) ↔ ¬ Mistakable fields) ∧
        ((∃ m, entry = Entry.mapping m) ↔ Mistakable fields)
  /-- If it does not fit and cannot be mistaken for a mapping, nothing is read at all. -/
  refused : ∀ entries fields, entries? = some entries → some fields ∈ entries →
    RecordLike fields → ¬ Fits fields → ¬ Mistakable fields → read = none

/-- If entries are read one by one, it is enough to look at each by itself. -/
theorem keepsRecords_of_handled {ι : Type} (fields? : ι → Option Fields)
    (readEntry : ι → Option Entry) {items? : Option (List ι)} {read : Option Catalogue}
    (entrywise : ∀ c, read = some c →
      ∃ items, items? = some items ∧ items.map readEntry = c.entries.map some)
    (handled : ∀ item fields, fields? item = some fields →
      (∀ name ∈ fields.map Prod.fst, name ∈ Shortcode.fieldNames) →
        Handled fields (readEntry item)) :
    KeepsRecords (items?.map (List.map fields?)) read where
  listed c accepted := by
    obtain ⟨items, listed, read⟩ := entrywise c accepted
    refine ⟨items.map fields?, by simp [listed], ?_⟩
    simpa using congrArg List.length read
  kept c entries accepted listed i fields entry shown here like := by
    obtain ⟨items, itemsListed, each⟩ := entrywise c accepted
    rw [itemsListed] at listed
    obtain rfl := Option.some.inj listed
    rw [List.getElem?_map, Option.map_eq_some_iff] at shown
    obtain ⟨item, place, shown⟩ := shown
    have read : readEntry item = some entry := by
      have same := congrArg (·[i]?) each
      simpa [List.getElem?_map, place, here] using same
    have handled := handled item fields shown like.known
    rw [read] at handled
    have mapping : (∃ m, entry = Entry.mapping m) ↔ Mistakable fields := by
      simpa using handled.mapping
    refine ⟨?_, mapping⟩
    rw [← mapping]
    cases entry with
    | record s => simp
    | mapping m => simp
    | pattern text => exact absurd rfl (handled.noPattern text)
  refused entries fields listed member like unfit clear := by
    rw [Option.map_eq_some_iff] at listed
    obtain ⟨items, itemsListed, rfl⟩ := listed
    obtain ⟨item, within, shown⟩ := List.mem_map.mp member
    have handled := handled item fields shown like.known
    by_contra accepted
    obtain ⟨c, accepted⟩ := Option.ne_none_iff_exists'.mp accepted
    obtain ⟨others, othersListed, each⟩ := entrywise c accepted
    obtain rfl := Option.some.inj (itemsListed.symm.trans othersListed)
    have listed : readEntry item ∈ c.entries.map some := each ▸ List.mem_map_of_mem within
    obtain ⟨entry, -, read⟩ := List.mem_map.mp listed
    cases entry with
    | record s => exact unfit (handled.record.mp ⟨s, read.symm⟩)
    | mapping m => exact clear (handled.mapping.mp ⟨m, read.symm⟩)
    | pattern text => exact handled.noPattern text read.symm

/-! ## JSON -/

namespace Json

def kind : Json → Kind
  | .string _ => .text
  | .bool _ => .truth
  | _ => .other

theorem kind_eq_text_iff {value : Json} : value.kind = .text ↔ ∃ text, value = .string text := by
  cases value <;> simp [kind]

theorem kind_eq_truth_iff {value : Json} : value.kind = .truth ↔ ∃ raw, value = .bool raw := by
  cases value <;> simp [kind]

/-- The names of an object's values, no two of them the same, with the kinds of the values. -/
def fields? : Json → Option Fields
  | .object members =>
      if (members.map Prod.fst).Nodup then
        some (members.map fun member => (member.1, member.2.kind))
      else none
  | _ => none

end Json

theorem Shortcode.suits_iff_kind {key : String} (value : Json)
    (known : key ∈ Shortcode.fieldNames) :
    Suits (key, value) ↔ value.kind = if key = "regex" then .truth else .text := by
  constructor
  · rintro (_ | _ | _) <;> rfl
  · intro typed
    simp only [fieldNames, List.mem_cons, List.not_mem_nil, or_false] at known
    rcases known with rfl | rfl | rfl
    · obtain ⟨text, rfl⟩ := Json.kind_eq_text_iff.mp typed
      exact .pattern text
    · obtain ⟨text, rfl⟩ := Json.kind_eq_text_iff.mp typed
      exact .replacement text
    · obtain ⟨raw, rfl⟩ := Json.kind_eq_truth_iff.mp typed
      exact .raw raw

section Object

variable {members : List (String × Json)}

theorem Shortcode.exists_ofJson_iff_fits
    (known : ∀ member ∈ members, member.1 ∈ fieldNames) (once : (members.map Prod.fst).Nodup) :
    (∃ s, ofJson (.object members) = .ok s) ↔
      Fits (members.map fun member => (member.1, member.2.kind)) := by
  rw [exists_ofJson_object_iff, forall₂_congr fun member listed =>
    suits_iff_kind member.2 (known member listed)]
  constructor
  · exact fun typed => ⟨List.forall_mem_map.mpr typed, by simpa [Function.comp_def] using once⟩
  · exact fun fits => List.forall_mem_map.mp fits.typed

theorem exists_pairsOfJson_iff_text : (∃ m, pairsOfJson (.object members) = .ok m) ↔
    ∀ field ∈ members.map fun member => (member.1, member.2.kind), field.2 = .text := by
  rw [List.forall_mem_map, exists_pairsOfJson_object_iff]
  exact forall₂_congr fun member _ => Json.kind_eq_text_iff.symm

end Object

theorem Json.handled {value : Json} {fields : Fields} (shown : value.fields? = some fields)
    (known : ∀ name ∈ fields.map Prod.fst, name ∈ Shortcode.fieldNames) :
    Handled fields (Entry.ofJson value).toOption := by
  cases value with
  | object members =>
      rw [fields?] at shown
      split at shown
      · rename_i once
        obtain rfl := Option.some.inj shown
        have record := Shortcode.exists_ofJson_iff_fits
          (fun member listed => known member.1 (by simpa using ⟨_, listed⟩)) once
        constructor
        · simp only [toOption_eq_some_iff, Entry.ofJson_eq_record_iff]
          exact record
        · simp only [toOption_eq_some_iff, Entry.ofJson_eq_mapping_iff]
          rw [mistakable_iff, ← record, ← exists_pairsOfJson_iff_text, exists_and_left]
        · intro text read
          rw [toOption_eq_some_iff] at read
          obtain ⟨_, _, strange⟩ := Entry.ofJson_eq_pattern_iff.mp read
          simp [asString] at strange
      · simp at shown
  | _ => simp [fields?] at shown

theorem Catalogue.ofJson_keepsRecords (value : Json) :
    KeepsRecords (value.entryItems?.map (List.map Json.fields?)) (ofJson value).toOption := by
  refine keepsRecords_of_handled Json.fields? (fun item => (Entry.ofJson item).toOption) ?_
    fun item fields shown known => Json.handled shown known
  intro c accepted
  rw [toOption_eq_some_iff, ofJson_eq_ok_iff] at accepted
  obtain ⟨items, listed, each⟩ := accepted
  refine ⟨items, listed, ?_⟩
  have same := congrArg (List.map Except.toOption) each
  simpa [Function.comp_def, Except.toOption] using same

end ShortcodeExpansion
