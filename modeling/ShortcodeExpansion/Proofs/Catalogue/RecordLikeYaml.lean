import ShortcodeExpansion.Proofs.Catalogue.RecordLike
import ShortcodeExpansion.Proofs.Catalogue.Validation
import ShortcodeExpansion.Stack

/-!
# Entries of a shortcode file that look like records

In a shortcode file a record may name its fields by number, and a mapping may have one key twice.
An entry whose keys are all names of fields is handled as in JSON, but that naming a field twice
too makes it a mapping, if all its values are texts.
-/

set_option autoImplicit false

namespace ShortcodeExpansion

open Yaml (Document Node Value)

namespace EntryForm

def kind : Option Value → Kind
  | some (.text _) => .text
  | some (.bool _) => .truth
  | _ => .other

/-- The name that a key which is a text gives to a value, and the kind of the value. -/
def named? (d : Document) (pair : Node × Node) : Option (String × Kind) :=
  match part? d pair.1 with
  | some (.text name) => some (name, kind (part? d pair.2))
  | _ => none

/-- The values of a key and of what it stands for. -/
def parts? (d : Document) : Node × Node → Option (Value × Value) :=
  fun (key, value) => do some (← part? d key, ← part? d value)

/-- The names of the values of a mapping whose keys are texts, with the kinds of the values. -/
def fields? (d : Document) (node : Node) : Option Fields := do
  match ← d.follow? node with
  | .mapping p pairs => if hasOwnTag p then none else pairs.mapM (named? d)
  | _ => none

end EntryForm

namespace ShortcodeField

def name : ShortcodeField → String
  | .pattern => "pattern"
  | .replacement => "replacement"
  | .raw => "regex"

theorem name_injective : Function.Injective name := by
  intro a b same
  cases a <;> cases b <;> first | rfl | exact absurd same (by decide)

@[simp] theorem ofKey?_name (field : ShortcodeField) : ofKey? (.text field.name) = some field := by
  cases field <;> rfl

theorem exists_name {text : String} (known : text ∈ Shortcode.fieldNames) :
    ∃ field : ShortcodeField, field.name = text := by
  simp only [Shortcode.fieldNames, List.mem_cons, List.not_mem_nil, or_false] at known
  rcases known with rfl | rfl | rfl
  · exact ⟨.pattern, rfl⟩
  · exact ⟨.replacement, rfl⟩
  · exact ⟨.raw, rfl⟩

end ShortcodeField

section FieldPairs

/-- A pair of a mapping that names a field. -/
def fieldPair (field : ShortcodeField × Value) : Value × Value := (.text field.1.name, field.2)

def fieldKind (field : ShortcodeField × Value) : String × Kind :=
  (field.1.name, EntryForm.kind (some field.2))

variable {fields : List (ShortcodeField × Value)}

theorem exists_setField?_iff {s : Shortcode} {field : ShortcodeField} {value : Value} :
    (∃ t, s.setField? field value = some t) ↔
      EntryForm.kind (some value) = if field.name = "regex" then .truth else .text := by
  cases field <;> cases value <;>
    simp [Shortcode.setField?, EntryForm.kind, ShortcodeField.name]

theorem exists_foldlM_setField?_iff {s : Shortcode} :
    (∃ t, fields.foldlM (fun s (field, value) => s.setField? field value) s = some t) ↔
      ∀ field ∈ fields.map fieldKind, field.2 = if field.1 = "regex" then .truth else .text := by
  induction fields generalizing s with
  | nil => simp
  | cons field fields ih =>
      obtain ⟨field, value⟩ := field
      rw [List.foldlM_cons, List.map_cons, List.forall_mem_cons, fieldKind,
        ← exists_setField?_iff (s := s)]
      cases here : s.setField? field value with
      | none => simp [here]
      | some t => simpa [here] using ih (s := t)

theorem mapM_ofKey? :
    (fields.map fieldPair).mapM (fun (key, value) => (ShortcodeField.ofKey? key).map (·, value)) =
      some fields := by
  induction fields with
  | nil => rfl
  | cons field fields ih =>
      rw [List.map_cons, List.mapM_cons, ih]
      simp [fieldPair]

/-- Pairs that name fields make a record just if they fit. -/
theorem exists_ofPairs?_iff :
    (∃ s, Shortcode.ofPairs? (fields.map fieldPair) = some s) ↔ Fits (fields.map fieldKind) := by
  have names : (fields.map fieldKind).map Prod.fst =
      (fields.map Prod.fst).map ShortcodeField.name := by
    simp [fieldKind, Function.comp_def]
  have once : ((fields.map fieldKind).map Prod.fst).Nodup ↔ (fields.map Prod.fst).Nodup := by
    rw [names]
    exact List.nodup_map_iff ShortcodeField.name_injective
  rw [Shortcode.ofPairs?, mapM_ofKey?]
  by_cases distinct : (fields.map Prod.fst).Nodup
  · simp only [Option.bind_eq_bind, Option.bind_some, distinct, decide_true, Bool.not_true,
      Bool.false_eq_true, if_false, exists_foldlM_setField?_iff]
    exact ⟨fun typed => ⟨typed, once.mpr distinct⟩, Fits.typed⟩
  · have unfit : ¬ Fits (fields.map fieldKind) := fun fits => distinct (once.mp fits.once)
    simp [distinct, unfit]

theorem exists_textPairs?_iff :
    (∃ texts, textPairs? (fields.map fieldPair) = some texts) ↔
      ∀ field ∈ fields.map fieldKind, field.2 = .text := by
  simp only [textPairs?, mapM_eq_some_iff]
  rw [exists_map_eq_map_iff, List.forall_mem_map, List.forall_mem_map]
  refine forall₂_congr fun field _ => ?_
  obtain ⟨field, value⟩ := field
  cases value <;> simp [fieldPair, fieldKind, EntryForm.kind]

end FieldPairs

section Nodes

variable {d : Document} {fields : Fields}

/-- A value that is named as a field is one that an entry can have, or none at all. -/
theorem parts_of_named? {pair : Node × Node} {field : String × Kind}
    (shown : EntryForm.named? d pair = some field)
    (known : field.1 ∈ Shortcode.fieldNames) :
    (∃ given, field = fieldKind given ∧ EntryForm.parts? d pair = some (fieldPair given)) ∨
      field.2 = .other ∧ EntryForm.parts? d pair = none := by
  obtain ⟨key, value⟩ := pair
  unfold EntryForm.named? at shown
  split at shown
  · rename_i name isKey
    obtain rfl := Option.some.inj shown
    simp only at isKey
    cases isValue : EntryForm.part? d value with
    | none => exact .inr ⟨by simp [EntryForm.kind], by simp [EntryForm.parts?, isKey, isValue]⟩
    | some given =>
        obtain ⟨named, rfl⟩ := ShortcodeField.exists_name known
        refine .inl ⟨(named, given), by simp [fieldKind], ?_⟩
        simp [EntryForm.parts?, isKey, isValue, fieldPair]
  · simp at shown

theorem parts_of_fields {pairs : List (Node × Node)}
    (shown : pairs.map (EntryForm.named? d) = fields.map some)
    (known : ∀ name ∈ fields.map Prod.fst, name ∈ Shortcode.fieldNames) :
    (∃ given : List (ShortcodeField × Value), fields = given.map fieldKind ∧
      pairs.mapM (EntryForm.parts? d) = some (given.map fieldPair)) ∨
    (∃ field ∈ fields, field.2 = .other) ∧ pairs.mapM (EntryForm.parts? d) = none := by
  induction pairs generalizing fields with
  | nil =>
      obtain rfl : fields = [] := by simpa using shown.symm
      exact .inl ⟨[], rfl, rfl⟩
  | cons pair pairs ih =>
      cases fields with
      | nil => simp at shown
      | cons field fields =>
          rw [List.map_cons, List.map_cons, List.cons.injEq] at shown
          rw [List.map_cons, List.forall_mem_cons] at known
          rw [List.mapM_cons]
          rcases parts_of_named? shown.1 known.1 with ⟨first, rfl, read⟩ | ⟨other, unread⟩
          · rcases ih shown.2 known.2 with ⟨rest, rfl, readRest⟩ | ⟨⟨found, member, other⟩, unread⟩
            · refine .inl ⟨first :: rest, rfl, ?_⟩
              rw [read, readRest]
              rfl
            · refine .inr ⟨⟨found, List.mem_cons_of_mem _ member, other⟩, ?_⟩
              rw [read, unread]
              rfl
          · -- One value without a form of its own leaves the whole entry without one.
            refine .inr ⟨⟨field, List.mem_cons_self, other⟩, ?_⟩
            rw [unread]
            rfl

theorem handled_of_given (given : List (ShortcodeField × Value)) :
    Handled (given.map fieldKind) (Entry.ofForm? (.mapping (given.map fieldPair))) := by
  have record : (∃ s, Shortcode.ofPairs? (given.map fieldPair) = some s) ↔
      Fits (given.map fieldKind) := exists_ofPairs?_iff
  have texts : (∃ texts, textPairs? (given.map fieldPair) = some texts) ↔
      ∀ field ∈ given.map fieldKind, field.2 = .text := exists_textPairs?_iff
  have clear : Mistakable (given.map fieldKind) ↔ _ := mistakable_iff
  rw [← record, ← texts] at clear
  rw [Entry.ofForm?]
  cases isRecord : Shortcode.ofPairs? (given.map fieldPair) with
  | some s =>
      rw [isRecord] at record clear
      exact ⟨by simp [← record], by simp [clear], by simp⟩
  | none =>
      rw [isRecord] at record clear
      cases isMapping : textPairs? (given.map fieldPair) with
      | some texts =>
          rw [isMapping] at clear
          exact ⟨by simp [← record], by simp [clear], by simp⟩
      | none =>
          rw [isMapping] at clear
          exact ⟨by simp [← record], by simp [clear], by simp⟩

theorem handled_of_unread {field : String × Kind} (member : field ∈ fields)
    (other : field.2 = .other) : Handled fields none := by
  have unfit : ¬ Fits fields := fun fits => by
    have typed := fits.typed field member
    rw [other] at typed
    split at typed <;> exact absurd typed (by decide)
  have clear : ¬ Mistakable fields := fun mistakable => by
    have text := mistakable.texts field member
    rw [other] at text
    exact absurd text (by decide)
  exact ⟨by simp [unfit], by simp [clear], by simp⟩

theorem EntryForm.handled {node : Node} (shown : EntryForm.fields? d node = some fields)
    (known : ∀ name ∈ fields.map Prod.fst, name ∈ Shortcode.fieldNames) :
    Handled fields (Entry.ofNode? d node) := by
  cases follows : d.follow? node with
  | none => simp [fields?, follows] at shown
  | some found =>
      cases found with
      | mapping p pairs =>
          cases own : hasOwnTag p with
          | true => simp [fields?, follows, own] at shown
          | false =>
              have names : pairs.mapM (named? d) = some fields := by
                simpa [fields?, follows, own] using shown
              have form : EntryForm.ofNode? d node = (pairs.mapM (parts? d)).map .mapping := by
                simp only [EntryForm.ofNode?, follows, Option.bind_eq_bind, Option.bind_some, own,
                  Bool.false_eq_true, if_false]
                exact Option.map_eq_bind.symm
              rw [Entry.ofNode?, form]
              rcases parts_of_fields (mapM_eq_some_iff.mp names) known with
                ⟨given, rfl, read⟩ | ⟨⟨field, member, other⟩, unread⟩
              · rw [read]
                exact handled_of_given given
              · rw [unread]
                exact handled_of_unread member other
      | _ => simp [fields?, follows] at shown

end Nodes

namespace Catalogue

/-- The items of a list of entries, as nodes. -/
def itemNodes? (d : Document) (node : Node) : Option (List Node) := do
  match ← d.follow? node with
  | .sequence _ items => some items
  | node => if isLeftOut node then some [] else none

/-- The entries of a document, as nodes. -/
def entryNodes? (d : Document) : Option (List Node) := do
  match ← d.follow? d.root with
  | .mapping _ pairs =>
      match shortcodeLists (← pairs.mapM fun (key, value) => (keyText? d key).map (·, value)) with
      | [] => some []
      | [list] => itemNodes? d list
      | _ => none
  | node => if isLeftOut node then some [] else none

variable {d : Document}

theorem entriesOfNode?_eq_bind {node : Node} :
    entriesOfNode? d node = (itemNodes? d node).bind (·.mapM (Entry.ofNode? d)) := by
  rw [entriesOfNode?, itemNodes?]
  cases d.follow? node with
  | none => rfl
  | some found =>
      cases found with
      | sequence p items => rfl
      | scalar p style text => cases empty : isLeftOut (.scalar p style text) <;> simp [empty]
      | mapping p pairs => simp [isLeftOut]
      | «alias» target => simp [isLeftOut]

/-- The entries of a document are read one by one. -/
theorem ofDocument?_eq_bind : ofDocument? d =
    (entryNodes? d).bind fun nodes => (nodes.mapM (Entry.ofNode? d)).map Catalogue.mk := by
  rw [ofDocument?, entryNodes?]
  cases d.follow? d.root with
  | none => rfl
  | some root =>
      cases root with
      | mapping p pairs =>
          simp only [Option.bind_eq_bind, Option.bind_some]
          cases pairs.mapM fun (key, value) => (keyText? d key).map (·, value) with
          | none => rfl
          | some keyed =>
              simp only [Option.bind_some]
              cases shortcodeLists keyed with
              | nil => rfl
              | cons list others =>
                  cases others with
                  | nil =>
                      simp only [entriesOfNode?_eq_bind, Option.map_bind]
                      rfl
                  | cons other others => rfl
      | scalar p style text => cases empty : isLeftOut (.scalar p style text) <;> simp [empty]
      | sequence p pairs => simp [isLeftOut]
      | «alias» target => simp [isLeftOut]

/-- The fields of the entries of a text, where their values are named. -/
def outline? (text : String) : Option (List (Option Fields)) := do
  let d ← Yaml.document? text
  (entryNodes? d).map (List.map (EntryForm.fields? d))

theorem ofYaml_keepsRecords (text : String) :
    KeepsRecords (outline? text) (ofYaml text).toOption := by
  cases parsed : Yaml.document? text with
  | none => exact ⟨by simp [ofYaml, parsed, Except.toOption], by simp [outline?, parsed],
      by simp [outline?, parsed]⟩
  | some d =>
    have outline : outline? text = (entryNodes? d).map (List.map (EntryForm.fields? d)) := by
      simp [outline?, parsed]
    rw [outline]
    refine keepsRecords_of_handled (EntryForm.fields? d) (Entry.ofNode? d) ?_
      fun node fields shown known =>
      EntryForm.handled shown known
    intro c accepted
    rw [toOption_eq_some_iff] at accepted
    have read := (ofYaml_eq_ok_iff.mp accepted).1
    rw [parsed, Option.bind_some, ofDocument?_eq_bind, Option.bind_eq_some_iff] at read
    obtain ⟨nodes, listed, read⟩ := read
    obtain ⟨entries, each, rfl⟩ := Option.map_eq_some_iff.mp read
    exact ⟨nodes, listed, mapM_eq_some_iff.mp each⟩

/-- An entry that looks like a record is read as one, unless all its values are texts and a text
stands for its truth value or, in a shortcode file, a field is named twice.  In that case it becomes
a mapping; any other unfit entry makes the whole catalogue unreadable. -/
theorem recordLike_entries_kept (value : Json) (text : String) :
    KeepsRecords (value.entryItems?.map (List.map Json.fields?)) (ofJson value).toOption ∧
      KeepsRecords (outline? text) (ofYaml text).toOption :=
  ⟨ofJson_keepsRecords value, ofYaml_keepsRecords text⟩

/-- A pattern with a text in the place of a truth value. -/
def textForTruth : String := "shortcodes: [\x7bpattern: foo, regex: yes\x7d]"

def fieldNamesAsPatterns : Catalogue :=
  ⟨[.mapping (.ofPairs [("pattern", "foo"), ("regex", "yes")])]⟩

theorem text_for_truth_makes_mapping :
    outline? textForTruth = some [some [("pattern", .text), ("regex", .text)]] ∧
    RecordLike [("pattern", .text), ("regex", .text)] ∧
    ofYaml textForTruth = .ok fieldNamesAsPatterns ∧
    (ofJson (.object [("shortcodes", .array
      [.object [("pattern", .string "foo"), ("regex", .string "yes")]])])).toOption =
        some fieldNamesAsPatterns ∧
    fieldNamesAsPatterns.shortcodes = [⟨"pattern", "foo", false⟩, ⟨"regex", "yes", false⟩] ∧
    fieldNamesAsPatterns.expand "a pattern" = .ok "a foo" := by
  have read : (Yaml.document? textForTruth).bind ofDocument? = some fieldNamesAsPatterns := by
    decide +kernel
  have sound : fieldNamesAsPatterns.problems = [] := by decide +kernel
  refine ⟨by decide +kernel, ⟨by decide, by decide⟩, ofYaml_eq_ok_iff.mpr ⟨read, sound⟩, ?_,
    ?_, ?_⟩
  · decide +kernel
  · decide +kernel
  · decide +kernel

end Catalogue

end ShortcodeExpansion
