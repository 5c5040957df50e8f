import ShortcodeExpansion.Regex.Search

/-!
# Ways through a row of items

All ways in which a row of items can match from a place, the preferred one first, and the proof that
the search, which remembers what it tried in vain, finds the first of them.  A place is remembered
for an item only if the row from that item on has no way from there, and whether it has one does
not depend on the positions noted before.  Items that are code are left out.
-/

set_option autoImplicit false

namespace ShortcodeExpansion.Regex

/-- Whether an item is no code. -/
def Item.isPlain : Item → Bool
  | .code _ => false
  | _ => true

/-- The places that a run of characters of a set passes, nearest first. -/
def runPlaces (chars : CharSet) (slots : List (Nat × Nat)) (before : Option Char) (pos : Nat) :
    List Char → List Attempt
  | [] => [⟨before, pos, [], slots⟩]
  | c :: rest =>
      ⟨before, pos, c :: rest, slots⟩ ::
        if chars.contains c then runPlaces chars slots (some c) (pos + 1) rest else []

/-- The run of characters of a set from an attempt on. -/
def Attempt.run (a : Attempt) (chars : CharSet) : List Attempt :=
  runPlaces chars a.slots a.before a.pos a.rest

/-- The ways of one item, the preferred first. -/
def Item.ways : Item → Attempt → List Attempt
  | .single chars, a => (a.consume? chars).toList
  | .look condition, a => if a.satisfies condition then [a] else []
  | .slot index, a => [a.note index]
  | .loop chars true, a => (a.run chars).reverse
  | .loop chars false, a => a.run chars
  | .code _, _ => []

/-- The ways of a row of items: what comes first in the row decides first. -/
def rowWays : List Item → Attempt → List Attempt
  | [], a => [a]
  | item :: rest, a => (item.ways a).flatMap (rowWays rest)

theorem rowWays_append (row rest : List Item) :
    ∀ a : Attempt, rowWays (row ++ rest) a = (rowWays row a).flatMap (rowWays rest) := by
  induction row with
  | nil => intro a; simp [rowWays]
  | cons item row ih =>
      intro a
      have tails : rowWays (row ++ rest) = fun b => (rowWays row b).flatMap (rowWays rest) :=
        funext ih
      simp only [List.cons_append, rowWays, tails, List.flatMap_assoc]

/-! ## Places in a text -/

/-- An attempt stands in a text: what is left and what comes before are the text's. -/
structure Attempt.In (a : Attempt) (text : List Char) : Prop where
  before : a.before = (text.take a.pos).getLast?
  rest : a.rest = text.drop a.pos

/-- The place in a text, with nothing noted. -/
def place (text : List Char) (pos : Nat) : Attempt :=
  ⟨(text.take pos).getLast?, pos, text.drop pos, []⟩

@[simp] theorem place_pos (text : List Char) (pos : Nat) : (place text pos).pos = pos := rfl

theorem place_in (text : List Char) (pos : Nat) : (place text pos).In text := ⟨rfl, rfl⟩

/-- Two attempts stand at one place. -/
structure Attempt.Beside (a b : Attempt) : Prop where
  before : a.before = b.before
  pos : a.pos = b.pos
  rest : a.rest = b.rest

theorem Attempt.Beside.symm {a b : Attempt} (h : a.Beside b) : b.Beside a :=
  ⟨h.before.symm, h.pos.symm, h.rest.symm⟩

theorem Attempt.In.beside_place {a : Attempt} {text : List Char} (h : a.In text) :
    a.Beside (place text a.pos) :=
  ⟨h.before, rfl, h.rest⟩

theorem next_in_text {text rest : List Char} {c : Char} {pos : Nat}
    (h : c :: rest = text.drop pos) :
    some c = (text.take (pos + 1)).getLast? ∧ rest = text.drop (pos + 1) := by
  have head : text[pos]? = some c := by
    rw [← List.head?_drop, ← h]
    rfl
  refine ⟨?_, ?_⟩
  · rw [List.take_add_one, head]
    simp
  · rw [← List.tail_drop, ← h]
    rfl

theorem runPlaces_in {text : List Char} (chars : CharSet) (slots : List (Nat × Nat)) :
    ∀ (rest : List Char) (before : Option Char) (pos : Nat),
      before = (text.take pos).getLast? → rest = text.drop pos →
      ∀ a ∈ runPlaces chars slots before pos rest, a.In text ∧ pos ≤ a.pos := by
  intro rest
  induction rest with
  | nil =>
      intro before pos hbefore hrest a member
      simp only [runPlaces, List.mem_singleton] at member
      subst a
      exact ⟨⟨hbefore, hrest⟩, Nat.le_refl _⟩
  | cons c rest ih =>
      intro before pos hbefore hrest a member
      simp only [runPlaces, List.mem_cons] at member
      rcases member with rfl | member
      · exact ⟨⟨hbefore, hrest⟩, Nat.le_refl _⟩
      · split at member
        · obtain ⟨nextBefore, nextRest⟩ := next_in_text hrest
          obtain ⟨inText, far⟩ := ih (some c) (pos + 1) nextBefore nextRest a member
          exact ⟨inText, by omega⟩
        · simp at member

theorem Attempt.In.of_mem_run {text : List Char} {chars : CharSet} {a b : Attempt} (ha : a.In text)
    (member : b ∈ a.run chars) : b.In text ∧ a.pos ≤ b.pos :=
  runPlaces_in chars a.slots a.rest a.before a.pos ha.before ha.rest b member

theorem Item.ways_in {text : List Char} {item : Item} {a b : Attempt} (ha : a.In text)
    (member : b ∈ item.ways a) : b.In text ∧ a.pos ≤ b.pos := by
  cases item with
  | single chars =>
      simp only [Item.ways, Option.mem_toList, Attempt.consume?] at member
      split at member
      · simp at member
      · rename_i c rest remaining
        split at member
        · rw [ha.rest] at remaining
          obtain ⟨nextBefore, nextRest⟩ := next_in_text remaining.symm
          simp only [Option.some.injEq] at member
          subst b
          exact ⟨⟨nextBefore, nextRest⟩, by simp⟩
        · simp at member
  | look condition =>
      simp only [Item.ways] at member
      split at member
      · simp only [List.mem_singleton] at member
        subst b
        exact ⟨ha, Nat.le_refl _⟩
      · simp at member
  | slot index =>
      simp only [Item.ways, List.mem_singleton] at member
      subst b
      exact ⟨⟨ha.before, ha.rest⟩, Nat.le_refl _⟩
  | loop chars greedy =>
      have reached : b ∈ a.run chars := by
        cases greedy <;> simpa [Item.ways] using member
      exact ha.of_mem_run reached
  | code instructions => simp [Item.ways] at member

/-! ## What was noted makes no difference to whether there is a way -/

theorem runPlaces_beside (chars : CharSet) (slots other : List (Nat × Nat)) :
    ∀ (rest : List Char) (before : Option Char) (pos : Nat),
      ∀ a ∈ runPlaces chars slots before pos rest,
        ∃ b ∈ runPlaces chars other before pos rest, a.Beside b := by
  intro rest
  induction rest with
  | nil =>
      intro before pos a member
      simp only [runPlaces, List.mem_singleton] at member
      subst a
      exact ⟨⟨before, pos, [], other⟩, by simp [runPlaces], ⟨rfl, rfl, rfl⟩⟩
  | cons c rest ih =>
      intro before pos a member
      simp only [runPlaces, List.mem_cons] at member
      rcases member with rfl | member
      · exact ⟨⟨before, pos, c :: rest, other⟩, by simp [runPlaces], ⟨rfl, rfl, rfl⟩⟩
      · split at member
        · rename_i belongs
          obtain ⟨b, reached, beside⟩ := ih (some c) (pos + 1) a member
          exact ⟨b, by simp [runPlaces, belongs, reached], beside⟩
        · simp at member

theorem Item.ways_beside {item : Item} {a a' b : Attempt} (ha : a.Beside a')
    (member : b ∈ item.ways a) : ∃ b' ∈ item.ways a', b.Beside b' := by
  obtain ⟨before, pos, rest, slots⟩ := a
  obtain ⟨before', pos', rest', slots'⟩ := a'
  obtain ⟨rfl, rfl, rfl⟩ := ha
  cases item with
  | single chars =>
      cases rest with
      | nil => simp [Item.ways, Attempt.consume?] at member
      | cons c rest =>
          simp only [Item.ways, Attempt.consume?, Option.mem_toList] at member ⊢
          split at member
          · rename_i belongs
            simp only [Option.some.injEq] at member
            subst b
            exact ⟨⟨some c, pos + 1, rest, slots'⟩, by simp [belongs], ⟨rfl, rfl, rfl⟩⟩
          · simp at member
  | look condition =>
      by_cases holds : condition.holds before rest.head? = true
      · simp only [Item.ways, Attempt.satisfies, holds, if_true, List.mem_singleton] at member
        subst b
        exact ⟨⟨before, pos, rest, slots'⟩, by simp [Item.ways, Attempt.satisfies, holds],
          ⟨rfl, rfl, rfl⟩⟩
      · simp [Item.ways, Attempt.satisfies, holds] at member
  | slot index =>
      simp only [Item.ways, List.mem_singleton] at member
      subst b
      exact ⟨_, List.mem_singleton.mpr rfl, ⟨rfl, rfl, rfl⟩⟩
  | loop chars greedy =>
      have reached : b ∈ runPlaces chars slots before pos rest := by
        cases greedy <;> simpa [Item.ways, Attempt.run] using member
      obtain ⟨b', reached', beside⟩ := runPlaces_beside chars slots slots' rest before pos b reached
      exact ⟨b', by cases greedy <;> simpa [Item.ways, Attempt.run] using reached', beside⟩
  | code instructions => simp [Item.ways] at member

theorem rowWays_eq_nil_of_beside (row : List Item) :
    ∀ {a b : Attempt}, a.Beside b → rowWays row a = [] → rowWays row b = [] := by
  induction row with
  | nil => intro a b _ none; simp [rowWays] at none
  | cons item row ih =>
      intro a b beside none
      simp only [rowWays, List.flatMap_eq_nil_iff] at none ⊢
      intro b' member
      obtain ⟨a', member', beside'⟩ := Item.ways_beside beside.symm member
      exact ih beside'.symm (none a' member')

end ShortcodeExpansion.Regex
