import ShortcodeExpansion.Proofs.Regex.Ways

/-!
# The search finds the first way

A search through a row of items gives the first of the row's ways, and what it remembers after
finding none is barren: from there the row has no way.  The proof follows the search item by item;
a loop asks only about places at or after its own and about items after it, so what it has noted
about the places it passed cannot mislead it before the note is true.
-/

set_option autoImplicit false

namespace ShortcodeExpansion.Regex

/-- The row from an item on has no way from a place. -/
def Barren (items : List Item) (text : List Char) (key : Nat × Nat × Nat) : Prop :=
  rowWays (items.drop key.1) (place text key.2.2) = []

/-- What is remembered of the items from a label on, at a position or after it, is barren. -/
def Sound (items : List Item) (text : List Char) (label pos : Nat) (tried : Tried) : Prop :=
  ∀ key ∈ tried, label ≤ key.1 → pos ≤ key.2.2 → Barren items text key

/-- A result is the first way of a row, and finding none adds only barren places. -/
structure FindsFirst (items : List Item) (text : List Char) (ways : List Attempt) (tried : Tried)
    (result : Option Attempt × Tried) : Prop where
  first : result.1 = ways.head?
  barren : result.1 = none → ∀ key ∈ result.2, key ∈ tried ∨ Barren items text key

/-- What comes after finds the first way of a row, wherever what it is told is sound. -/
def Finds (items : List Item) (text : List Char) (row : List Item) (label : Nat)
    (next : Continuation) : Prop :=
  ∀ a tried, a.In text → Sound items text label a.pos tried →
    FindsFirst items text (rowWays row a) tried (next a tried)

section Loops

variable {items row : List Item} {text : List Char} {label : Nat} {chars : CharSet}
  {next : Continuation}

theorem Sound.later {pos later : Nat} {tried : Tried} (sound : Sound items text label pos tried)
    (after : pos ≤ later) : Sound items text (label + 1) later tried :=
  fun key member far past => sound key member (by omega) (by omega)

/-- What a search adds stays sound with a key that lies outside of what is asked about. -/
theorem Sound.insert {pos : Nat} {tried after : Tried} {noted : Nat × Nat × Nat}
    (sound : Sound items text label pos tried)
    (barren : ∀ key ∈ after, key ∈ tried ∨ Barren items text key)
    (outside : noted.1 < label ∨ noted.2.2 < pos) :
    Sound items text label pos (after.insert noted) := by
  intro key member far past
  rcases Std.HashSet.mem_insert.mp member with same | member
  · rw [← eq_of_beq same] at far past
    omega
  · rcases barren key member with old | barrenKey
    · exact sound key old far past
    · exact barrenKey

theorem barren_of_beside {a : Attempt} (inText : a.In text)
    (h : rowWays (items.drop label) a = []) :
    Barren items text (label, 0, a.pos) :=
  rowWays_eq_nil_of_beside (items.drop label) inText.beside_place h

theorem ways_of_barren {a : Attempt} (inText : a.In text)
    (h : Barren items text (label, 0, a.pos)) : rowWays (items.drop label) a = [] :=
  rowWays_eq_nil_of_beside (items.drop label) inText.beside_place.symm h

/-! ## Greedy loops -/

theorem leaveLoop_finds (finds : Finds items text row (label + 1) next) (pos : Nat) :
    ∀ (places : List Attempt) (tried : Tried),
      (∀ a ∈ places, a.In text ∧ pos ≤ a.pos) → Sound items text (label + 1) pos tried →
      (leaveLoop label next places tried).1 = (places.flatMap (rowWays row)).head? ∧
      ((leaveLoop label next places tried).1 = none →
        ∀ key ∈ (leaveLoop label next places tried).2,
          key ∈ tried ∨ Barren items text key ∨ ∃ a ∈ places, key = (label, 0, a.pos)) := by
  intro places
  induction places with
  | nil =>
      intro tried _ _
      exact ⟨rfl, fun _ key member => .inl member⟩
  | cons a places ih =>
      intro tried inText sound
      obtain ⟨aIn, aFar⟩ := inText a List.mem_cons_self
      have here := finds a tried aIn fun key member far past =>
        sound key member far (Nat.le_trans aFar past)
      cases run : next a tried with
      | mk found after =>
          rw [run] at here
          cases found with
          | some b =>
              have head : (rowWays row a).head? = some b := here.first.symm
              simp only [leaveLoop, run, List.flatMap_cons, List.head?_append, head,
                Option.some_or, true_and]
              intro absurdity
              simp at absurdity
          | none =>
              have head : (rowWays row a).head? = none := here.first.symm
              have soundAfter :
                  Sound items text (label + 1) pos (after.insert (label, 0, a.pos)) :=
                sound.insert (here.barren rfl) (.inl (Nat.lt_succ_self label))
              obtain ⟨first, barren⟩ := ih (after.insert (label, 0, a.pos))
                (fun b member => inText b (List.mem_cons_of_mem a member)) soundAfter
              simp only [leaveLoop, run, List.flatMap_cons, List.head?_append, head, Option.none_or]
              refine ⟨first, fun none key member => ?_⟩
              rcases barren none key member with member | barrenKey | ⟨b, among, equal⟩
              · rcases Std.HashSet.mem_insert.mp member with same | member
                · exact .inr (.inr ⟨a, List.mem_cons_self, (eq_of_beq same).symm⟩)
                · rcases here.barren rfl key member with old | barrenKey
                  · exact .inl old
                  · exact .inr (.inl barrenKey)
              · exact .inr (.inl barrenKey)
              · exact .inr (.inr ⟨b, List.mem_cons_of_mem a among, equal⟩)

/-- A loop passes the places of its run up to the first that was tried in vain. -/
theorem loopReach_eq (tried : Tried) (slots : List (Nat × Nat)) :
    ∀ (rest : List Char) (reached : List Attempt) (before : Option Char) (pos : Nat),
      loopReach chars label tried slots reached before pos rest =
        ((runPlaces chars slots before pos rest).takeWhile fun a =>
          !tried.contains (label, 0, a.pos)).reverse ++ reached := by
  intro rest
  induction rest with
  | nil =>
      intro reached before pos
      by_cases old : tried.contains (label, 0, pos) <;> simp [loopReach, runPlaces, old]
  | cons c rest ih =>
      intro reached before pos
      by_cases old : tried.contains (label, 0, pos)
      · simp [loopReach, runPlaces, old]
      · by_cases belongs : chars.contains c
        · simp [loopReach, runPlaces, old, belongs, ih]
        · simp [loopReach, runPlaces, old, belongs]

/-- From any place of a run, the run goes on as it does from the start. -/
theorem runPlaces_of_suffix (slots : List (Nat × Nat)) {a : Attempt} {later : List Attempt} :
    ∀ (rest : List Char) (before : Option Char) (pos : Nat),
      a :: later <:+ runPlaces chars slots before pos rest → a :: later = a.run chars := by
  intro rest
  induction rest with
  | nil =>
      intro before pos suffix
      rcases List.suffix_cons_iff.mp suffix with equal | shorter
      · rw [equal]
        simp only [List.cons.injEq] at equal
        obtain ⟨rfl, rfl⟩ := equal
        rfl
      · simp at shorter
  | cons c rest ih =>
      intro before pos suffix
      rw [runPlaces] at suffix
      rcases List.suffix_cons_iff.mp suffix with equal | shorter
      · rw [equal]
        simp only [List.cons.injEq] at equal
        obtain ⟨rfl, rfl⟩ := equal
        rfl
      · split at shorter
        · exact ih (some c) (pos + 1) shorter
        · simp at shorter

theorem mem_run_trans {a b c : Attempt} (hb : b ∈ a.run chars) (hc : c ∈ b.run chars) :
    c ∈ a.run chars := by
  obtain ⟨front, later, split⟩ := List.append_of_mem hb
  have suffix : b :: later <:+ a.run chars := ⟨front, split.symm⟩
  rw [← runPlaces_of_suffix a.slots a.rest a.before a.pos suffix] at hc
  exact suffix.subset hc

/-- If no place of a run leads anywhere, a loop is barren at all of them. -/
theorem barren_of_run {greedy : Bool} (here : items.drop label = .loop chars greedy :: row)
    {a b : Attempt} (inText : a.In text) (hb : b ∈ a.run chars)
    (none : ∀ c ∈ a.run chars, rowWays row c = []) : Barren items text (label, 0, b.pos) := by
  apply barren_of_beside (inText.of_mem_run hb).1
  rw [here, rowWays, List.flatMap_eq_nil_iff]
  intro c member
  have among : c ∈ b.run chars := by cases greedy <;> simpa [Item.ways] using member
  exact none c (mem_run_trans hb among)

theorem greedyLoop_finds (here : items.drop label = .loop chars true :: row)
    (finds : Finds items text row (label + 1) next) (a : Attempt) (tried : Tried)
    (inText : a.In text) (sound : Sound items text label a.pos tried) :
    FindsFirst items text (rowWays (.loop chars true :: row) a) tried
      (leaveLoop label next (loopReach chars label tried a.slots [] a.before a.pos a.rest)
        tried) := by
  let fresh : Attempt → Bool := fun b => !tried.contains (label, 0, b.pos)
  have reach : loopReach chars label tried a.slots [] a.before a.pos a.rest =
      ((a.run chars).takeWhile fresh).reverse := by
    rw [loopReach_eq, List.append_nil]
    rfl
  -- a place tried before leads nowhere, and neither does any place after it
  have stale : ∀ b ∈ (a.run chars).dropWhile fresh, rowWays row b = [] := by
    cases later : (a.run chars).dropWhile fresh with
    | nil => simp
    | cons b after =>
        have suffix : b :: after <:+ a.run chars := later ▸ List.dropWhile_suffix fresh
        obtain ⟨bIn, far⟩ := inText.of_mem_run (suffix.subset List.mem_cons_self)
        have old : tried.contains (label, 0, b.pos) = true := by
          have stopped := List.head?_dropWhile_not fresh (a.run chars)
          simpa [later, fresh] using stopped
        have barren := sound _ (Std.HashSet.mem_iff_contains.mpr old) (Nat.le_refl _) far
        have none := ways_of_barren bIn barren
        rw [here, rowWays, Item.ways, ← runPlaces_of_suffix _ _ _ _ suffix,
          List.flatMap_eq_nil_iff] at none
        exact fun c member => none c (List.mem_reverse.mpr member)
  have halves : (a.run chars).takeWhile fresh ++ (a.run chars).dropWhile fresh = a.run chars :=
    List.takeWhile_append_dropWhile
  have whole : rowWays (.loop chars true :: row) a =
      ((a.run chars).takeWhile fresh).reverse.flatMap (rowWays row) := by
    have staleFlat : ((a.run chars).dropWhile fresh).reverse.flatMap (rowWays row) = [] := by
      simpa [List.flatMap_eq_nil_iff] using stale
    calc rowWays (.loop chars true :: row) a
        = (a.run chars).reverse.flatMap (rowWays row) := rfl
      _ = ((a.run chars).takeWhile fresh).reverse.flatMap (rowWays row) := by
          rw [← halves, List.reverse_append, List.flatMap_append, staleFlat, List.nil_append,
            halves]
  rw [reach, whole]
  obtain ⟨first, barren⟩ := leaveLoop_finds finds a.pos
    ((a.run chars).takeWhile fresh).reverse tried
    (fun b member => inText.of_mem_run
      ((List.takeWhile_prefix fresh).subset (List.mem_reverse.mp member)))
    (sound.later (Nat.le_refl _))
  refine ⟨first, fun none key member => ?_⟩
  rcases barren none key member with old | barrenKey | ⟨b, among, rfl⟩
  · exact .inl old
  · exact .inr barrenKey
  · rw [none] at first
    have empty := List.head?_eq_none_iff.mp first.symm
    rw [List.flatMap_eq_nil_iff] at empty
    refine .inr (barren_of_run here inText
      ((List.takeWhile_prefix fresh).subset (List.mem_reverse.mp among)) fun c member => ?_)
    rw [← halves] at member
    rcases List.mem_append.mp member with near | far
    · exact empty c (List.mem_reverse.mpr near)
    · exact stale c far

/-! ## Lazy loops -/

theorem findsFirst_of_tried {item : Item} (here : items.drop label = item :: row) {a : Attempt}
    {tried : Tried} (inText : a.In text) (sound : Sound items text label a.pos tried)
    (old : tried.contains (label, 0, a.pos) = true) :
    FindsFirst items text (rowWays (item :: row) a) tried (none, tried) := by
  have barren := sound _ (Std.HashSet.mem_iff_contains.mpr old) (Nat.le_refl _) (Nat.le_refl _)
  have none := ways_of_barren inText barren
  rw [here] at none
  rw [none]
  exact ⟨rfl, fun _ key member => .inl member⟩

/-- A place may be noted once the row has no way from it. -/
theorem findsFirst_insert {item : Item} (here : items.drop label = item :: row) {a : Attempt}
    {tried after : Tried} (inText : a.In text) (empty : rowWays (item :: row) a = [])
    (barren : ∀ key ∈ after, key ∈ tried ∨ Barren items text key) :
    FindsFirst items text (rowWays (item :: row) a) tried
      (none, after.insert (label, 0, a.pos)) := by
  refine ⟨by rw [empty]; rfl, fun _ key member => ?_⟩
  rcases Std.HashSet.mem_insert.mp member with same | member
  · rw [← eq_of_beq same]
    exact .inr (barren_of_beside inText (by rw [here, empty]))
  · exact barren key member

/-- A lazy loop first leaves, and then goes another round if the next character lets it. -/
theorem rowWays_lazyLoop (before : Option Char) (pos : Nat) (slots : List (Nat × Nat)) (c : Char)
    (rest : List Char) :
    rowWays (.loop chars false :: row) ⟨before, pos, c :: rest, slots⟩ =
      rowWays row ⟨before, pos, c :: rest, slots⟩ ++
        if chars.contains c then
          rowWays (.loop chars false :: row) ⟨some c, pos + 1, rest, slots⟩ else [] := by
  by_cases belongs : chars.contains c <;>
    simp [rowWays, Item.ways, Attempt.run, runPlaces, belongs]

theorem lazyLoop_finds (here : items.drop label = .loop chars false :: row)
    (finds : Finds items text row (label + 1) next) (slots : List (Nat × Nat)) :
    ∀ (rest : List Char) (before : Option Char) (pos : Nat) (tried : Tried),
      Attempt.In ⟨before, pos, rest, slots⟩ text → Sound items text label pos tried →
      FindsFirst items text (rowWays (.loop chars false :: row) ⟨before, pos, rest, slots⟩) tried
        (lazyLoop chars label next slots before pos rest tried) := by
  intro rest
  induction rest with
  | nil =>
      intro before pos tried inText sound
      by_cases old : tried.contains (label, 0, pos) = true
      · simpa [lazyLoop, old] using findsFirst_of_tried here inText sound old
      · have ways : rowWays (.loop chars false :: row) ⟨before, pos, [], slots⟩ =
            rowWays row ⟨before, pos, [], slots⟩ := by
          simp [rowWays, Item.ways, Attempt.run, runPlaces]
        have first := finds ⟨before, pos, [], slots⟩ tried inText (sound.later (Nat.le_refl _))
        cases run : next ⟨before, pos, [], slots⟩ tried with
        | mk found after =>
            rw [run, ← ways] at first
            cases found with
            | some b => simpa [lazyLoop, old, run] using first
            | none =>
                have empty := List.head?_eq_none_iff.mp first.first.symm
                simpa [lazyLoop, old, run] using
                  findsFirst_insert here inText empty (first.barren rfl)
  | cons c rest ih =>
      intro before pos tried inText sound
      by_cases old : tried.contains (label, 0, pos) = true
      · simpa [lazyLoop, old] using findsFirst_of_tried here inText sound old
      · have ways := @rowWays_lazyLoop row chars before pos slots c rest
        have first := finds ⟨before, pos, c :: rest, slots⟩ tried inText
          (sound.later (Nat.le_refl _))
        cases run : next ⟨before, pos, c :: rest, slots⟩ tried with
        | mk found after =>
            rw [run] at first
            cases found with
            | some b =>
                have head := first.first
                refine ⟨?_, fun none => ?_⟩
                · rw [ways, List.head?_append, ← head]
                  simp [lazyLoop, old, run]
                · simp [lazyLoop, old, run] at none
            | none =>
                have empty := List.head?_eq_none_iff.mp first.first.symm
                rw [empty, List.nil_append] at ways
                by_cases belongs : chars.contains c = true
                · obtain ⟨nextBefore, nextRest⟩ := next_in_text inText.rest
                  have soundHere : Sound items text label (pos + 1) tried :=
                    fun key member far past => sound key member far (by omega)
                  -- the place just noted lies before all that is asked about from here on
                  have soundAfter :
                      Sound items text label (pos + 1) (after.insert (label, 0, pos)) :=
                    soundHere.insert (first.barren rfl) (.inr (Nat.lt_succ_self pos))
                  have further := ih (some c) (pos + 1) (after.insert (label, 0, pos))
                    ⟨nextBefore, nextRest⟩ soundAfter
                  rw [if_pos belongs] at ways
                  rw [ways]
                  have same : lazyLoop chars label next slots before pos (c :: rest) tried =
                      lazyLoop chars label next slots (some c) (pos + 1) rest
                        (after.insert (label, 0, pos)) := by
                    simp [lazyLoop, old, run, belongs]
                  rw [same]
                  refine ⟨further.first, fun none key member => ?_⟩
                  rcases further.barren none key member with member | barren
                  · rw [further.first, List.head?_eq_none_iff, ← ways] at none
                    have tests := findsFirst_insert here inText none (first.barren rfl)
                    exact tests.barren rfl key member
                  · exact .inr barren
                · rw [if_neg belongs] at ways
                  simpa [lazyLoop, old, run, belongs] using
                    findsFirst_insert here inText ways (first.barren rfl)

end Loops

/-! ## Rows -/

theorem matchItems_finds {items : List Item} {text : List Char}
    (plain : ∀ item ∈ items, item.isPlain) :
    ∀ (row : List Item) (label : Nat), items.drop label = row →
      Finds items text row label (matchItems (row.zipIdx label)) := by
  intro row
  induction row with
  | nil =>
      intro label _ a tried _ _
      exact ⟨rfl, fun none => by simp [matchItems] at none⟩
  | cons item row ih =>
      intro label here a tried inText sound
      have rest : items.drop (label + 1) = row := by
        rw [← List.tail_drop, here]
        rfl
      have finds := ih (label + 1) rest
      have through : ∀ b, b ∈ item.ways a →
          FindsFirst items text (rowWays row b) tried
            (matchItems (row.zipIdx (label + 1)) b tried) := by
        intro b member
        obtain ⟨bIn, far⟩ := Item.ways_in inText member
        exact finds b tried bIn (sound.later far)
      rw [List.zipIdx_cons]
      cases item with
      | single chars =>
          cases taken : a.consume? chars with
          | none =>
              simp only [matchItems, taken, rowWays, Item.ways, Option.toList_none]
              exact ⟨rfl, fun _ key member => .inl member⟩
          | some b =>
              simpa [matchItems, taken, rowWays, Item.ways] using
                through b (by simp [Item.ways, taken])
      | look condition =>
          by_cases holds : a.satisfies condition = true
          · simpa [matchItems, holds, rowWays, Item.ways] using
              through a (by simp [Item.ways, holds])
          · simp only [matchItems, holds, rowWays, Item.ways]
            exact ⟨rfl, fun _ key member => .inl member⟩
      | slot index =>
          simpa [matchItems, rowWays, Item.ways] using
            through (a.note index) (by simp [Item.ways])
      | loop chars greedy =>
          cases greedy with
          | true => exact greedyLoop_finds here finds a tried inText sound
          | false =>
              exact lazyLoop_finds here finds a.slots a.rest a.before a.pos tried inText sound
      | code instructions =>
          have absurdity := plain (.code instructions)
            (List.mem_of_mem_drop (here ▸ List.mem_cons_self))
          simp [Item.isPlain] at absurdity

end ShortcodeExpansion.Regex
