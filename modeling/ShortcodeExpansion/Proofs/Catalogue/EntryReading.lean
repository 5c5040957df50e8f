import ShortcodeExpansion.Catalogue.Json
import ShortcodeExpansion.Proofs.Catalogue.Mapping
import ShortcodeExpansion.Proofs.Results

/-!
# How an entry is read

An object is read as a record just if every member has a key and a value that suit a field, as a
mapping just if it is no record and all its values are strings, and not at all otherwise.  So the
kind of an entry that was read tells why the kinds tried before did not fit.
-/

set_option autoImplicit false

namespace ShortcodeExpansion

namespace Shortcode

/-- A member of a record: its key names a field, and its value is of the field's type. -/
inductive Suits : String × Json → Prop where
  | pattern (text : String) : Suits ("pattern", .string text)
  | replacement (text : String) : Suits ("replacement", .string text)
  | raw (value : Bool) : Suits ("regex", .bool value)

theorem suits_string_iff {key text : String} :
    Suits (key, .string text) ↔ key = "pattern" ∨ key = "replacement" := by
  constructor
  · rintro (_ | _ | _)
    · exact .inl rfl
    · exact .inr rfl
  · rintro (rfl | rfl)
    · exact .pattern text
    · exact .replacement text

theorem exists_withMember_iff {s : Shortcode} {member : String × Json} :
    (∃ t, s.withMember member = .ok t) ↔ Suits member := by
  obtain ⟨key, value⟩ := member
  constructor
  · rintro ⟨t, set⟩
    unfold withMember at set
    split at set
    · rename_i named
      cases value <;> simp [Json.asString, Except.map] at set
      obtain rfl : key = "pattern" := named
      exact .pattern _
    · rename_i named
      cases value <;> simp [Json.asString, Except.map] at set
      obtain rfl : key = "replacement" := named
      exact .replacement _
    · rename_i named
      cases value <;> simp [Json.asBool, Except.map] at set
      obtain rfl : key = "regex" := named
      exact .raw _
    · simp at set
  · rintro (text | text | value)
    · exact ⟨{ s with pattern := text }, rfl⟩
    · exact ⟨{ s with replacement := text }, rfl⟩
    · exact ⟨{ s with raw := value }, rfl⟩

theorem exists_foldlM_withMember_iff {members : List (String × Json)} {s : Shortcode} :
    (∃ t, members.foldlM withMember s = .ok t) ↔ ∀ member ∈ members, Suits member := by
  induction members generalizing s with
  | nil => simp [pure, Except.pure]
  | cons member members ih =>
      rw [List.foldlM_cons, List.forall_mem_cons]
      cases here : s.withMember member with
      | error e =>
          have unsuited : ¬ Suits member := fun suits => by
            obtain ⟨t, set⟩ := exists_withMember_iff.mpr suits
            exact absurd (set.symm.trans here) (by simp)
          simp [bind, Except.bind, unsuited]
      | ok t =>
          have suits : Suits member := exists_withMember_iff.mp ⟨t, here⟩
          rw [and_iff_right suits]
          exact ih

theorem exists_ofJson_object_iff {members : List (String × Json)} :
    (∃ s, ofJson (.object members) = .ok s) ↔ ∀ member ∈ members, Suits member :=
  exists_foldlM_withMember_iff

end Shortcode

/-- A pair as a member of an object. -/
def Mapping.member (pair : String × String) : String × Json := (pair.1, .string pair.2)

theorem pairsOfJson_object_eq_ok_iff {members : List (String × Json)} {m : Mapping} :
    pairsOfJson (.object members) = .ok m ↔
      ∃ pairs : List (String × String),
        members = pairs.map Mapping.member ∧ .ofPairs pairs = m := by
  have each (pairs : List (String × String)) :
      (members.mapM fun member => member.2.asString.map fun value => (member.1, value)) =
        .ok pairs ↔ members = pairs.map Mapping.member := by
    rw [mapM_eq_ok_iff]
    induction members generalizing pairs with
    | nil => cases pairs <;> simp
    | cons member members ih =>
        cases pairs with
        | nil => simp
        | cons pair pairs =>
            rw [List.map_cons, List.map_cons, List.map_cons, List.cons.injEq, List.cons.injEq, ih]
            refine and_congr_left fun _ => ?_
            obtain ⟨key, value⟩ := member
            cases value <;> simp [Json.asString, Except.map, Mapping.member, Prod.ext_iff]
  simp only [pairsOfJson, bind_eq_ok_iff, each, Except.ok.injEq]

theorem exists_pairsOfJson_object_iff {members : List (String × Json)} :
    (∃ m, pairsOfJson (.object members) = .ok m) ↔
      ∀ member ∈ members, ∃ text, member.2 = .string text := by
  have each (member : String × Json) :
      (∃ pair, (member.2.asString.map fun value => (member.1, value)) = .ok pair) ↔
        ∃ text, member.2 = .string text := by
    cases member.2 <;> simp [Json.asString, Except.map]
  have read : (∃ m, pairsOfJson (.object members) = .ok m) ↔ ∃ pairs,
      (members.mapM fun member => member.2.asString.map fun value => (member.1, value)) =
        .ok pairs := by
    simp [pairsOfJson, bind_eq_ok_iff]
  simp only [read, mapM_eq_ok_iff]
  rw [exists_map_eq_map_iff]
  exact forall₂_congr fun member _ => each member

namespace Entry

variable {value : Json}

theorem ofJson_eq_record_iff {s : Shortcode} :
    ofJson value = .ok (.record s) ↔ Shortcode.ofJson value = .ok s := by
  unfold ofJson
  cases Shortcode.ofJson value <;> cases pairsOfJson value <;> cases value.asString <;> simp

theorem ofJson_eq_mapping_iff {m : Mapping} :
    ofJson value = .ok (.mapping m) ↔
      (¬ ∃ s, Shortcode.ofJson value = .ok s) ∧ pairsOfJson value = .ok m := by
  unfold ofJson
  cases Shortcode.ofJson value <;> cases pairsOfJson value <;> cases value.asString <;> simp

theorem ofJson_eq_pattern_iff {text : String} :
    ofJson value = .ok (.pattern text) ↔ (¬ ∃ s, Shortcode.ofJson value = .ok s) ∧
      (¬ ∃ m, pairsOfJson value = .ok m) ∧ value.asString = .ok text := by
  unfold ofJson
  cases Shortcode.ofJson value <;> cases pairsOfJson value <;> cases value.asString <;> simp

end Entry

/-- The values of a catalogue's entries, in a value that has the form of a catalogue. -/
def Json.entryItems? : Json → Option (List Json)
  | .object members =>
      match (Json.object members).member? "shortcodes" with
      | some (.array items) => some items
      | some _ => none
      | none => some []
  | .array [] => some []
  | .array [.array items] => some items
  | _ => none

namespace Catalogue

variable {value : Json} {c : Catalogue}

theorem ofEntries_eq_ok_iff :
    ofEntries value = .ok c ↔ ∃ items, value = .array items ∧
      items.map Entry.ofJson = c.entries.map .ok := by
  cases value with
  | array items =>
      have entries :
          ofEntries (.array items) = .ok c ↔ items.mapM Entry.ofJson = .ok c.entries := by
        obtain ⟨entries⟩ := c
        simp [ofEntries, Json.asArray, bind_eq_ok_iff]
      simp [entries, mapM_eq_ok_iff]
  | _ => simp [ofEntries, Json.asArray, bind, Except.bind]

/-- The entries of a catalogue are read one by one. -/
theorem ofJson_eq_ok_iff :
    ofJson value = .ok c ↔ ∃ items, value.entryItems? = some items ∧
      items.map Entry.ofJson = c.entries.map .ok := by
  have nothing : (Except.ok {} : Except ShapeError Catalogue) = .ok c ↔
      ([] : List Json).map Entry.ofJson = c.entries.map .ok := by
    obtain ⟨entries⟩ := c
    simp [eq_comm]
  cases value with
  | object members =>
      rw [ofJson, Json.entryItems?]
      cases (Json.object members).member? "shortcodes" with
      | none => simp [nothing]
      | some list =>
          simp only [ofEntries_eq_ok_iff]
          cases list <;> simp
  | array values =>
      cases values with
      | nil => simp [ofJson, Json.entryItems?, nothing]
      | cons list rest =>
          cases rest with
          | nil =>
              have alone : ofJson (.array [list]) = ofEntries list := by
                rw [ofJson]
                cases ofEntries list <;> rfl
              rw [alone, ofEntries_eq_ok_iff]
              cases list <;> simp [Json.entryItems?]
          | cons other rest =>
              rw [ofJson]
              cases ofEntries list <;> simp [Json.entryItems?, bind, Except.bind]
  | _ => simp [ofJson, Json.entryItems?]

end Catalogue

end ShortcodeExpansion
