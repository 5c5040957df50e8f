import ShortcodeExpansion.Proofs.Catalogue.EntryReading
import ShortcodeExpansion.Stack

/-!
# Catalogues that are written and read again

The JSON of a catalogue is a catalogue again, and the same one unless it has a mapping whose keys
are all names of text fields: such a mapping is written as a record is, and comes back as one.  No
catalogue that was itself read from JSON has such a mapping.
-/

set_option autoImplicit false

namespace ShortcodeExpansion

namespace Mapping

theorem insertPair_of_above {key value : String} {pairs : List (String × String)}
    (above : ∀ pair ∈ pairs, pair.1 < key) :
    insertPair key value pairs = pairs ++ [(key, value)] := by
  induction pairs with
  | nil => rfl
  | cons first rest ih =>
      have later := above first List.mem_cons_self
      have notBefore : ¬ key < first.1 := String.lt_asymm later
      have different : key ≠ first.1 := (String.ne_of_lt later).symm
      rw [insertPair, if_neg notBefore, if_neg different,
        ih fun pair member => above pair (List.mem_cons_of_mem first member)]
      rfl

/-- Pairs that ascend make the mapping that has them. -/
theorem pairs_ofPairs {pairs : List (String × String)}
    (ascending : pairs.Pairwise fun a b => a.1 < b.1) : (ofPairs pairs).pairs = pairs := by
  induction pairs using List.reverseRecOn with
  | nil => rfl
  | append_singleton pairs last ih =>
      obtain ⟨before, -, above⟩ := List.pairwise_append.mp ascending
      have step : (ofPairs (pairs ++ [last])).pairs =
          insertPair last.1 last.2 (ofPairs pairs).pairs := by simp [ofPairs, insert]
      rw [step, ih before]
      exact insertPair_of_above fun pair member =>
        above pair member last (List.mem_singleton_self last)

theorem ofPairs_pairs (m : Mapping) : ofPairs m.pairs = m := by
  have same := pairs_ofPairs m.ascending
  rw [Mapping.mk.injEq]
  exact same

/-- Whether all keys are names of text fields, so that the mapping is written as a record is. -/
def PassesForRecord (m : Mapping) : Prop :=
  ∀ pair ∈ m.pairs, pair.1 = "pattern" ∨ pair.1 = "replacement"

theorem passesForRecord_iff {m : Mapping} :
    m.PassesForRecord ↔ ∀ field ∈ m.pairs.map member, Shortcode.Suits field := by
  simp only [List.forall_mem_map]
  exact forall₂_congr fun pair _ => Shortcode.suits_string_iff.symm

/-- Every key of a list of pairs is a key of their mapping. -/
theorem exists_mem_ofPairs {pairs : List (String × String)} {pair : String × String}
    (member : pair ∈ pairs) : ∃ kept ∈ (ofPairs pairs).pairs, kept.1 = pair.1 := by
  have found : pairs.reverse.lookup pair.1 ≠ none := fun missing =>
    absurd (List.lookup_eq_none_iff.mp missing pair (List.mem_reverse.mpr member)) (by simp)
  obtain ⟨value, last⟩ := Option.ne_none_iff_exists'.mp found
  exact ⟨(pair.1, value), mem_ofPairs.mpr last, rfl⟩

end Mapping

namespace Entry

/-- An entry that comes back from JSON as another kind. -/
def Confusable (entry : Entry) : Prop := ∃ m, entry = .mapping m ∧ m.PassesForRecord

theorem ofJson_toJson (entry : Entry) :
    (∃ read, ofJson entry.toJson = .ok read) ∧
      (ofJson entry.toJson = .ok entry ↔ ¬ entry.Confusable) := by
  cases entry with
  | record s =>
      have read : ofJson (toJson (.record s)) = .ok (.record s) := ofJson_eq_record_iff.mpr rfl
      exact ⟨⟨_, read⟩, by simp [read, Confusable]⟩
  | pattern text =>
      have read : ofJson (toJson (.pattern text)) = .ok (.pattern text) := rfl
      exact ⟨⟨_, read⟩, by simp [read, Confusable]⟩
  | mapping m =>
      have written : toJson (.mapping m) = .object (m.pairs.map Mapping.member) := rfl
      have pairs : pairsOfJson (.object (m.pairs.map Mapping.member)) = .ok m :=
        pairsOfJson_object_eq_ok_iff.mpr ⟨m.pairs, rfl, m.ofPairs_pairs⟩
      rw [written]
      have isRecord : (∃ s, Shortcode.ofJson (.object (m.pairs.map Mapping.member)) = .ok s) ↔
          m.PassesForRecord := by
        rw [Shortcode.exists_ofJson_object_iff, Mapping.passesForRecord_iff]
      have same : ofJson (.object (m.pairs.map Mapping.member)) = .ok (.mapping m) ↔
          ¬ m.PassesForRecord := by
        rw [ofJson_eq_mapping_iff, isRecord]
        exact and_iff_left pairs
      refine ⟨?_, by simpa [Confusable] using same⟩
      by_cases passes : m.PassesForRecord
      · obtain ⟨s, read⟩ := isRecord.mpr passes
        exact ⟨.record s, ofJson_eq_record_iff.mpr read⟩
      · exact ⟨.mapping m, same.mpr passes⟩

/-- A mapping is read only where a record was refused. -/
theorem not_confusable_of_ofJson {value : Json} {entry : Entry} (read : ofJson value = .ok entry) :
    ¬ entry.Confusable := by
  rintro ⟨m, rfl, passes⟩
  obtain ⟨noRecord, pairs⟩ := ofJson_eq_mapping_iff.mp read
  cases value with
  | object members =>
      obtain ⟨list, rfl, rfl⟩ := pairsOfJson_object_eq_ok_iff.mp pairs
      rw [Shortcode.exists_ofJson_object_iff] at noRecord
      refine noRecord ?_
      rw [List.forall_mem_map]
      intro pair member
      obtain ⟨kept, listed, same⟩ := Mapping.exists_mem_ofPairs member
      exact Shortcode.suits_string_iff.mpr (same ▸ passes kept listed)
  | _ => simp [pairsOfJson] at pairs

end Entry

namespace Catalogue

variable {c d : Catalogue}

theorem ofJson_toJson_eq_ok_iff :
    ofJson c.toJson = .ok d ↔
      c.entries.map (fun entry => Entry.ofJson entry.toJson) = d.entries.map .ok := by
  have items : c.toJson.entryItems? = some (c.entries.map Entry.toJson) := by
    simp [toJson, Json.entryItems?, Json.member?]
  rw [ofJson_eq_ok_iff, items]
  simp [Function.comp_def]

theorem exists_ofJson_toJson (c : Catalogue) : ∃ d, ofJson c.toJson = .ok d := by
  have each : ∀ entry ∈ c.entries, ∃ read, Entry.ofJson entry.toJson = .ok read :=
    fun entry _ => entry.ofJson_toJson.1
  obtain ⟨entries, read⟩ := exists_map_eq_map_iff.mpr each
  exact ⟨⟨entries⟩, ofJson_toJson_eq_ok_iff.mpr read⟩

theorem ofJson_toJson_eq_self_iff :
    ofJson c.toJson = .ok c ↔ ∀ entry ∈ c.entries, ¬ entry.Confusable := by
  rw [ofJson_toJson_eq_ok_iff, List.map_inj_left]
  exact forall₂_congr fun entry _ => entry.ofJson_toJson.2

theorem not_confusable_of_ofJson {value : Json} (read : ofJson value = .ok c) :
    ∀ entry ∈ c.entries, ¬ entry.Confusable := by
  intro entry member
  obtain ⟨items, -, entries⟩ := ofJson_eq_ok_iff.mp read
  have listed : .ok entry ∈ items.map Entry.ofJson := entries ▸ List.mem_map_of_mem member
  obtain ⟨item, -, here⟩ := List.mem_map.mp listed
  exact Entry.not_confusable_of_ofJson here

/-- What comes back of a catalogue that is written as JSON. -/
structure ComesBack (c : Catalogue) : Prop where
  readable : ∃ d, ofJson c.toJson = .ok d
  same_iff : ofJson c.toJson = .ok c ↔ ¬ ∃ m, .mapping m ∈ c.entries ∧ m.PassesForRecord

/-- What becomes of a value that is read as a catalogue, if the catalogue is written and read. -/
structure Settles (value : Json) : Prop where
  clear : ∀ c, ofJson value = .ok c → ¬ ∃ m, .mapping m ∈ c.entries ∧ m.PassesForRecord
  again : (ofJson value).bind (fun c => ofJson c.toJson) = ofJson value
  shortcodes : ∀ c d, ofJson value = .ok c → ofJson c.toJson = .ok d →
    d.shortcodes = c.shortcodes ∧ Stack.ofCatalogue d = Stack.ofCatalogue c

theorem confusable_iff :
    (∀ entry ∈ c.entries, ¬ entry.Confusable) ↔
      ¬ ∃ m, .mapping m ∈ c.entries ∧ m.PassesForRecord := by
  constructor
  · rintro clear ⟨m, member, passes⟩
    exact clear _ member ⟨m, rfl, passes⟩
  · rintro clear entry member ⟨m, rfl, passes⟩
    exact clear ⟨m, member, passes⟩

/-- Every catalogue can be read from the JSON that it is written as.  It comes back as it was just
if none of its mappings passes for a record, and none does in a catalogue that was read from
JSON. -/
theorem toJson_settles : (∀ c : Catalogue, c.ComesBack) ∧ ∀ value : Json, Settles value := by
  refine ⟨fun c => ⟨c.exists_ofJson_toJson, ?_⟩, fun value => ?_⟩
  · rw [ofJson_toJson_eq_self_iff, confusable_iff]
  · have again : ∀ c, ofJson value = .ok c → ofJson c.toJson = .ok c := fun c read =>
      ofJson_toJson_eq_self_iff.mpr (not_confusable_of_ofJson read)
    refine ⟨fun c read => confusable_iff.mp (not_confusable_of_ofJson read), ?_, ?_⟩
    · cases read : ofJson value with
      | error e => rfl
      | ok c => exact again c read
    · intro c d read reread
      obtain rfl : d = c := Except.ok.inj (reread.symm.trans (again c read))
      exact ⟨rfl, rfl⟩

end Catalogue

end ShortcodeExpansion
