import Mathlib.Data.List.DropRight
import ShortcodeExpansion.Json.Printer
import ShortcodeExpansion.Json.Reader

/-!
# Printed JSON reads back

A value without numbers whose objects have ascending keys is read back from its layout over lines
just as it was printed, whatever text its strings hold.
-/

set_option autoImplicit false

namespace ShortcodeExpansion.Json

/-! ## Strings -/

theorem hexValue?_hexDigit {n : Nat} (digit : n < 16) : hexValue? (hexDigit n) = some n := by
  have all : ∀ n < 16, hexValue? (hexDigit n) = some n := by decide
  exact all n digit

theorem readUnicodeEscape?_control {c : Char} (control : c.toNat < 0x20) (rest : List Char) :
    readUnicodeEscape? ('0' :: '0' :: hexDigit (c.toNat / 16) :: hexDigit (c.toNat % 16) :: rest) =
      some (c, rest) := by
  have zero : hexValue? '0' = some 0 := by decide
  have high := hexValue?_hexDigit (n := c.toNat / 16) (by omega)
  have low := hexValue?_hexDigit (n := c.toNat % 16) (by omega)
  have value : ((0 * 16 + 0) * 16 + c.toNat / 16) * 16 + c.toNat % 16 = c.toNat := by omega
  simp only [readUnicodeEscape?, readUnit?, zero, high, low, value]
  rw [if_neg (by simp; omega), if_neg (by simp; omega), Char.ofNat_toNat]

/-- A string goes on after a character, however that is written. -/
theorem readString?_escapedChar (fuel : Nat) (taken : List Char) (c : Char) (rest : List Char) :
    readString? (fuel + 1) taken (escapedChar c ++ rest) = readString? fuel (c :: taken) rest := by
  unfold escapedChar
  split
  · subst c; rfl
  split
  · subst c; rfl
  split
  · subst c; rfl
  split
  · subst c; rfl
  split
  · subst c; rfl
  split
  · subst c; rfl
  split
  · subst c; rfl
  split
  · rename_i control
    simp only [List.cons_append, List.nil_append]
    rw [readString?, readUnicodeEscape?_control control]
  · rename_i _ notBackslash _ _ _ _ _ printable
    simp [readString?, notBackslash, printable]

theorem readString?_escaped (chars : List Char) {fuel : Nat} (enough : chars.length < fuel)
    (taken rest : List Char) :
    readString? fuel taken (chars.flatMap escapedChar ++ '"' :: rest) =
      some (String.ofList (taken.reverse ++ chars), rest) := by
  induction chars generalizing fuel taken with
  | nil =>
      obtain ⟨fuel, rfl⟩ := Nat.exists_eq_add_of_lt enough
      simp [readString?]
  | cons c chars ih =>
      obtain ⟨fuel, rfl⟩ : ∃ more, fuel = more + 1 := ⟨fuel - 1, by simp at enough; omega⟩
      rw [List.flatMap_cons, List.append_assoc, readString?_escapedChar,
        ih (by simpa using enough)]
      simp

theorem length_le_escaped (chars : List Char) :
    chars.length ≤ (chars.flatMap escapedChar).length := by
  induction chars with
  | nil => simp
  | cons c chars ih =>
      have one : 1 ≤ (escapedChar c).length := by
        unfold escapedChar
        split_ifs <;> simp
      rw [List.flatMap_cons, List.length_append, List.length_cons]
      omega

theorem readString?_quoted (text : String) (rest : List Char) :
    let behind := text.toList.flatMap escapedChar ++ '"' :: rest
    readString? (behind.length + 1) [] behind = some (text, rest) := by
  have enough := length_le_escaped text.toList
  intro behind
  have long : text.toList.length < behind.length + 1 := by
    simp only [behind, List.length_append, List.length_cons]
    omega
  rw [readString?_escaped text.toList long]
  simp

/-! ## Blanks -/

theorem skipSpace_of_solid {c : Char} (solid : isSpace c = false) (rest : List Char) :
    skipSpace (c :: rest) = c :: rest := by
  simp [skipSpace, solid]

theorem skipSpace_lineStart (depth : Nat) (rest : List Char) :
    skipSpace ((lineStart depth).toList ++ rest) = skipSpace rest := by
  have blanks : ∀ n, skipSpace (List.replicate n ' ' ++ rest) = skipSpace rest := by
    intro n
    induction n with
    | zero => rfl
    | succ n ih =>
        rw [List.replicate_succ, List.cons_append, skipSpace, List.dropWhile_cons_of_pos rfl]
        exact ih
  have chars : (lineStart depth).toList = '\n' :: List.replicate (2 * depth) ' ' := by
    simp [lineStart]
  rw [chars, List.cons_append, skipSpace, List.dropWhile_cons_of_pos rfl]
  exact blanks (2 * depth)

theorem readValue?_skipSpace (fuel : Nat) (text : List Char) :
    readValue? fuel (skipSpace text) = readValue? fuel text := by
  cases fuel with
  | zero => rfl
  | succ fuel => simp only [readValue?, skipSpace, List.dropWhile_idempotent]

/-! ## Values -/

/-- A value without numbers whose objects have ascending keys. -/
inductive Plain : Json → Prop where
  | null : Plain .null
  | bool (value : Bool) : Plain (.bool value)
  | string (text : String) : Plain (.string text)
  | array {items : List Json} : (∀ item ∈ items, Plain item) → Plain (.array items)
  | object {members : List (String × Json)} : members.Pairwise (·.1 < ·.1) →
      (∀ member ∈ members, Plain member.2) → Plain (.object members)

theorem Plain.starts {value : Json} (plain : value.Plain) (depth : Nat) :
    ∃ c rest, (prettyAt depth value).toList = c :: rest ∧ isSpace c = false ∧ c ≠ ']' := by
  cases plain with
  | null => exact ⟨'n', "ull".toList, by simp [prettyAt], by decide, by decide⟩
  | bool value =>
      cases value with
      | true => exact ⟨'t', "rue".toList, by simp [prettyAt], by decide, by decide⟩
      | false => exact ⟨'f', "alse".toList, by simp [prettyAt], by decide, by decide⟩
  | string text =>
      exact ⟨'"', _, by rw [prettyAt, quoted, String.toList_ofList, List.cons_append],
        by decide, by decide⟩
  | @array items _ =>
      cases items <;> exact ⟨'[', _, by simp [prettyAt]; rfl, by decide, by decide⟩
  | @object members _ _ =>
      cases members <;> exact ⟨'\x7b', _, by simp [prettyAt]; rfl, by decide, by decide⟩

/-- The value is read back from where it is printed, if there is fuel for every character. -/
def ReadsBack (value : Json) : Prop :=
  ∀ (depth fuel : Nat) (rest : List Char), (prettyAt depth value).length ≤ fuel →
    readValue? fuel ((prettyAt depth value).toList ++ rest) = some (value, rest)

theorem length_lineStart (depth : Nat) : (lineStart depth).length = 1 + 2 * depth := by
  have blanks : (String.ofList (List.replicate (2 * depth) ' ')).length = 2 * depth := by simp
  rw [lineStart, String.length_append, blanks]
  rfl

theorem ReadsBack.onLine {value : Json} (reads : value.ReadsBack) {depth fuel : Nat}
    (enough : (prettyAt depth value).length ≤ fuel) (rest : List Char) :
    readValue? fuel ((lineStart depth).toList ++ ((prettyAt depth value).toList ++ rest)) =
      some (value, rest) := by
  rw [← readValue?_skipSpace, skipSpace_lineStart, readValue?_skipSpace]
  exact reads depth fuel rest enough

-- The fuel need not be counted out: each item takes at least the line break before it, so that a
-- bound by the length of the text goes over to what is left of it.
theorem readItems?_prettyItems {items : List Json} (filled : items ≠ [])
    (each : ∀ item ∈ items, item.ReadsBack) (depth outer fuel : Nat)
    (enough : (prettyItems depth items).length ≤ fuel) (rest : List Char) :
    readItems? fuel
        ((prettyItems depth items).toList ++ ((lineStart outer).toList ++ ']' :: rest)) =
      some (items, rest) := by
  have lead := length_lineStart depth
  induction items generalizing fuel with
  | nil => exact absurd rfl filled
  | cons item items ih =>
      have reads := each item List.mem_cons_self
      cases items with
      | nil =>
          simp only [prettyItems, String.length_append] at enough
          obtain ⟨fuel, rfl⟩ : ∃ less, fuel = less + 1 := ⟨fuel - 1, by omega⟩
          rw [prettyItems, String.toList_append, List.append_assoc, readItems?,
            reads.onLine (by omega)]
          simp only [skipSpace_lineStart, skipSpace_of_solid (c := ']') (by decide)]
      | cons next items =>
          simp only [prettyItems, String.length_append] at enough ih
          obtain ⟨fuel, rfl⟩ : ∃ less, fuel = less + 1 := ⟨fuel - 1, by omega⟩
          have later := ih (by simp) (fun other member => each other (.tail item member)) fuel
            (by omega)
          simp only [prettyItems, String.toList_append, List.append_assoc]
          rw [readItems?, reads.onLine (by omega)]
          have comma : ",".toList = [','] := rfl
          simp only [comma, List.cons_append, List.nil_append,
            skipSpace_of_solid (c := ',') (by decide)]
          rw [later]
          rfl

/-- A member is read up to what follows its value: a comma before more members, or the brace. -/
theorem readMembers?_line {key : String} {value : Json} (reads : value.ReadsBack)
    {depth fuel : Nat} (enough : (prettyAt depth value).length ≤ fuel) {after more : List Char} :
    let text := (lineStart depth).toList ++ ((quoted key).toList ++
      (": ".toList ++ ((prettyAt depth value).toList ++ after)))
    (skipSpace after = ',' :: more → readMembers? (fuel + 1) text =
      (readMembers? fuel more).map fun (members, rest) => ((key, value) :: members, rest)) ∧
    (skipSpace after = '\x7d' :: more → readMembers? (fuel + 1) text =
      some ([(key, value)], more)) := by
  have colon : ": ".toList = [':', ' '] := rfl
  have behindColon : readValue? fuel (' ' :: ((prettyAt depth value).toList ++ after)) =
      some (value, after) := by
    rw [← readValue?_skipSpace, skipSpace, List.dropWhile_cons_of_pos rfl, ← skipSpace,
      readValue?_skipSpace]
    exact reads depth fuel after enough
  have opened : (quoted key).toList = '"' :: (key.toList.flatMap escapedChar ++ ['"']) := by
    simp [quoted]
  intro text
  have solid : skipSpace text = '"' :: (key.toList.flatMap escapedChar ++
      '"' :: ':' :: ' ' :: ((prettyAt depth value).toList ++ after)) := by
    simp only [text, skipSpace_lineStart, opened, colon, List.cons_append, List.append_assoc,
      List.nil_append]
    exact skipSpace_of_solid (by decide) _
  constructor <;> intro next <;> rw [readMembers?, solid] <;>
    simp only [readString?_quoted, skipSpace_of_solid (c := ':') (by decide), behindColon, next]

theorem readMembers?_prettyMembers {members : List (String × Json)} (filled : members ≠ [])
    (each : ∀ member ∈ members, member.2.ReadsBack) (depth outer fuel : Nat)
    (enough : (prettyMembers depth members).length ≤ fuel) (rest : List Char) :
    readMembers? fuel
        ((prettyMembers depth members).toList ++ ((lineStart outer).toList ++ '\x7d' :: rest)) =
      some (members, rest) := by
  have lead := length_lineStart depth
  induction members generalizing fuel with
  | nil => exact absurd rfl filled
  | cons member members ih =>
      obtain ⟨key, value⟩ := member
      have reads : value.ReadsBack := each (key, value) List.mem_cons_self
      cases members with
      | nil =>
          simp only [prettyMembers, String.length_append] at enough
          obtain ⟨fuel, rfl⟩ : ∃ less, fuel = less + 1 := ⟨fuel - 1, by omega⟩
          simp only [prettyMembers, String.toList_append, List.append_assoc]
          exact (readMembers?_line reads (by omega)).2
            ((skipSpace_lineStart outer _).trans (skipSpace_of_solid (by decide) _))
      | cons next members =>
          simp only [prettyMembers, String.length_append] at enough ih
          obtain ⟨fuel, rfl⟩ : ∃ less, fuel = less + 1 := ⟨fuel - 1, by omega⟩
          have later := ih (by simp) (fun other listed => each other (.tail _ listed)) fuel
            (by omega)
          have comma : ",".toList = [','] := rfl
          simp only [prettyMembers, String.toList_append, List.append_assoc, comma,
            List.cons_append, List.nil_append]
          rw [(readMembers?_line reads (by omega)).1 (skipSpace_of_solid (by decide) _), later]
          rfl

theorem insertMember_of_above {key : String} {value : Json} {members : List (String × Json)}
    (above : ∀ member ∈ members, member.1 < key) :
    insertMember key value members = members ++ [(key, value)] := by
  induction members with
  | nil => rfl
  | cons first rest ih =>
      have before : first.1 < key := above first List.mem_cons_self
      rw [insertMember, if_neg (String.lt_asymm before), if_neg (String.ne_of_lt before).symm,
        ih fun member later => above member (.tail first later), List.cons_append]

/-- Ascending members are an object as they are. -/
theorem ofMembers_of_ascending {members : List (String × Json)}
    (ascending : members.Pairwise (·.1 < ·.1)) : ofMembers members = .object members := by
  have sorted : members.foldl (fun sorted member => insertMember member.1 member.2 sorted) [] =
      members := by
    induction members using List.reverseRecOn with
    | nil => rfl
    | append_singleton members member ih =>
        obtain ⟨earlier, -, last⟩ := List.pairwise_append.mp ascending
        rw [List.foldl_append, ih earlier]
        exact insertMember_of_above fun other listed => last other listed member (by simp)
  rw [ofMembers, sorted]

theorem Plain.length_pos {value : Json} (plain : value.Plain) (depth : Nat) :
    0 < (prettyAt depth value).length := by
  obtain ⟨c, rest, starts, -⟩ := plain.starts depth
  rw [← String.length_toList, starts]
  exact Nat.succ_pos _

theorem readsBack_string (text : String) : (string text).ReadsBack := by
  intro depth fuel rest enough
  obtain ⟨fuel, rfl⟩ : ∃ less, fuel = less + 1 :=
    ⟨fuel - 1, by have := (Plain.string text).length_pos depth; omega⟩
  have opened : (quoted text).toList = '"' :: (text.toList.flatMap escapedChar ++ ['"']) := by
    simp [quoted]
  rw [prettyAt, opened, List.cons_append, readValue?, skipSpace_of_solid (by decide)]
  simp only [List.append_assoc, List.singleton_append, readString?_quoted, Option.map_some]

theorem skipSpace_prettyItems {item : Json} (plain : item.Plain) (items : List Json) (depth : Nat)
    (rest : List Char) : ∃ c more,
      skipSpace ((prettyItems depth (item :: items)).toList ++ rest) = c :: more ∧ c ≠ ']' := by
  obtain ⟨c, more, starts, solid, open'⟩ := plain.starts depth
  refine ⟨c, ?_⟩
  cases items <;>
    simp [prettyItems, skipSpace_lineStart, starts, skipSpace_of_solid solid, open']

theorem skipSpace_prettyMembers (member : String × Json) (members : List (String × Json))
    (depth : Nat) (rest : List Char) : ∃ more,
      skipSpace ((prettyMembers depth (member :: members)).toList ++ rest) = '"' :: more := by
  have solid : isSpace '"' = false := by decide
  cases members <;>
    simp [prettyMembers, skipSpace_lineStart, quoted, skipSpace_of_solid solid]

theorem readsBack_array {items : List Json} (plain : ∀ item ∈ items, item.Plain)
    (each : ∀ item ∈ items, item.ReadsBack) : (array items).ReadsBack := by
  intro depth fuel rest enough
  obtain ⟨fuel, rfl⟩ : ∃ less, fuel = less + 1 :=
    ⟨fuel - 1, by have := (Plain.array plain).length_pos depth; omega⟩
  cases items with
  | nil => simp [prettyAt, readValue?, skipSpace, isSpace]
  | cons item items =>
      have brackets : (prettyAt depth (array (item :: items))).toList ++ rest =
          '[' :: ((prettyItems (depth + 1) (item :: items)).toList ++
            ((lineStart depth).toList ++ ']' :: rest)) := by
        simp [prettyAt]
      have inner : (prettyItems (depth + 1) (item :: items)).length ≤ fuel := by
        simp only [prettyAt, String.length_append, length_lineStart] at enough
        omega
      obtain ⟨c, more, first, filled⟩ := skipSpace_prettyItems (plain item List.mem_cons_self)
        items (depth + 1) ((lineStart depth).toList ++ ']' :: rest)
      rw [brackets, readValue?, skipSpace_of_solid (by decide)]
      simp only [first]
      rw [readItems?_prettyItems (by simp) each (depth + 1) depth fuel inner]
      simp [filled]

theorem readsBack_object {members : List (String × Json)}
    (ascending : members.Pairwise (·.1 < ·.1)) (plain : ∀ member ∈ members, member.2.Plain)
    (each : ∀ member ∈ members, member.2.ReadsBack) : (object members).ReadsBack := by
  intro depth fuel rest enough
  obtain ⟨fuel, rfl⟩ : ∃ less, fuel = less + 1 :=
    ⟨fuel - 1, by have := (Plain.object ascending plain).length_pos depth; omega⟩
  cases members with
  | nil => simp [prettyAt, readValue?, skipSpace, isSpace]
  | cons member members =>
      have braces : (prettyAt depth (object (member :: members))).toList ++ rest =
          '\x7b' :: ((prettyMembers (depth + 1) (member :: members)).toList ++
            ((lineStart depth).toList ++ '\x7d' :: rest)) := by
        simp [prettyAt]
      have inner : (prettyMembers (depth + 1) (member :: members)).length ≤ fuel := by
        simp only [prettyAt, String.length_append, length_lineStart] at enough
        omega
      obtain ⟨more, first⟩ := skipSpace_prettyMembers member members (depth + 1)
        ((lineStart depth).toList ++ '\x7d' :: rest)
      rw [braces, readValue?, skipSpace_of_solid (by decide)]
      simp only [first]
      rw [readMembers?_prettyMembers (by simp) each (depth + 1) depth fuel inner]
      simp [ofMembers_of_ascending ascending]

theorem Plain.readsBack {value : Json} (plain : value.Plain) : value.ReadsBack := by
  induction plain with
  | null =>
      intro depth fuel rest enough
      cases fuel with
      | zero => simp [prettyAt] at enough
      | succ fuel => simp [prettyAt, readValue?, skipSpace, isSpace, dropWord?]
  | bool value =>
      intro depth fuel rest enough
      cases value <;> cases fuel with
      | zero => simp [prettyAt] at enough
      | succ fuel => simp [prettyAt, readValue?, skipSpace, isSpace, dropWord?]
  | string text => exact readsBack_string text
  | array plain each => exact readsBack_array plain each
  | object ascending plain each => exact readsBack_object ascending plain each

/-- A value that was printed is read back, blanks behind it or not. -/
theorem Plain.read?_pretty {value : Json} (plain : value.Plain) {blanks : String}
    (blank : ∀ c ∈ blanks.toList, isSpace c = true) :
    read? (value.pretty ++ blanks) = some value := by
  have enough : (prettyAt 0 value).length ≤ 2 * (value.pretty ++ blanks).toList.length + 2 := by
    rw [String.length_toList, String.length_append, pretty]
    omega
  have nothing : skipSpace blanks.toList = [] := List.dropWhile_eq_nil_iff.mpr blank
  have reads := plain.readsBack 0 _ blanks.toList enough
  rw [← pretty, ← String.toList_append] at reads
  rw [read?, reads]
  simp [nothing]

end ShortcodeExpansion.Json
