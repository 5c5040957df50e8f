import ShortcodeExpansion.Proofs.Regex.FirstWay

/-!
# Matches from left to right

The matches that a scan of a text gives, for a row of items without code: each is the first way at
the first place from which there is one, and the next is looked for from its end on.  What the scan
remembers from one place to the next is barren throughout, so it only saves time.
-/

set_option autoImplicit false

namespace ShortcodeExpansion.Regex

/-- The preferred match at a position. -/
def firstAt (items : List Item) (text : List Char) (pos : Nat) : Option Match :=
  (rowWays items (place text pos)).head?.map fun b => ⟨pos, b.pos, b.slots⟩

/-- The match that is taken at a position: none that is empty right after the match before it. -/
def takenAt (items : List Item) (text : List Char) (lastEnd : Option Nat) (pos : Nat) :
    Option Match :=
  (firstAt items text pos).filter fun m => !(m.stop = pos && lastEnd = some pos)

/-- Matches that follow each other in a text, each the first that is taken from where it is looked
for on. -/
inductive Successive (items : List Item) (text : List Char) :
    (start : Nat) → (lastEnd : Option Nat) → List Match → Prop where
  | done {start : Nat} {lastEnd : Option Nat}
      (none : ∀ pos, start ≤ pos → pos ≤ text.length → takenAt items text lastEnd pos = none) :
      Successive items text start lastEnd []
  | next {start : Nat} {lastEnd : Option Nat} {m : Match} {later : List Match}
      (after : start ≤ m.start) (within : m.start ≤ text.length)
      (none : ∀ pos, start ≤ pos → pos < m.start → takenAt items text lastEnd pos = none)
      (taken : takenAt items text lastEnd m.start = some m)
      (rest : Successive items text (max (m.start + 1) m.stop) (some m.stop) later) :
      Successive items text start lastEnd (m :: later)

theorem firstAt_start {items : List Item} {text : List Char} {pos : Nat} {m : Match}
    (found : firstAt items text pos = some m) : m.start = pos := by
  obtain ⟨b, _, rfl⟩ := Option.map_eq_some_iff.mp found
  rfl

theorem takenAt_eq_some {items : List Item} {text : List Char} {lastEnd : Option Nat} {pos : Nat}
    {m : Match} (taken : takenAt items text lastEnd pos = some m) :
    firstAt items text pos = some m ∧ m.start = pos := by
  have found := (Option.filter_eq_some_iff.mp taken).1
  exact ⟨found, firstAt_start found⟩

section Scan

variable {items : List Item} {text : List Char}

theorem Successive.from {start earlier : Nat} {lastEnd : Option Nat} {found : List Match}
    (successive : Successive items text start lastEnd found) (before : earlier ≤ start)
    (nothing : ∀ pos, earlier ≤ pos → pos < start → takenAt items text lastEnd pos = none) :
    Successive items text earlier lastEnd found := by
  cases successive with
  | done none =>
      refine .done fun pos past inside => ?_
      by_cases near : pos < start
      · exact nothing pos past near
      · exact none pos (by omega) inside
  | next after within none taken rest =>
      refine .next (by omega) within (fun pos past close => ?_) taken rest
      by_cases near : pos < start
      · exact nothing pos past near
      · exact none pos (by omega) close

theorem Successive.of_end {start : Nat} {lastEnd : Option Nat} (past : text.length < start) :
    Successive items text start lastEnd [] :=
  .done fun _ after within => absurd (Nat.le_trans after within) (Nat.not_le.mpr past)

theorem Successive.pass {pos : Nat} {lastEnd : Option Nat} {found : List Match}
    (none : takenAt items text lastEnd pos = none)
    (successive : Successive items text (pos + 1) lastEnd found) :
    Successive items text pos lastEnd found := by
  refine successive.from (Nat.le_succ pos) fun k past near => ?_
  have same : k = pos := by omega
  rw [same, none]

theorem Successive.take {pos : Nat} {lastEnd : Option Nat} {m : Match} {later : List Match}
    (within : pos ≤ text.length) (taken : takenAt items text lastEnd pos = some m)
    (rest : Successive items text (max (pos + 1) m.stop) (some m.stop) later) :
    Successive items text pos lastEnd (m :: later) := by
  have starts := (takenAt_eq_some taken).2
  subst starts
  exact .next (Nat.le_refl _) within (fun k past near => by omega) taken rest

theorem matchAt_of_found {layout : Layout} {a b : Attempt} {tried after : Tried}
    (lastEnd : Option Nat) (run : matchItems layout a tried = (some b, after)) :
    matchAt layout lastEnd a tried =
      if b.pos = a.pos ∧ lastEnd = some a.pos then (none, {})
      else (some ⟨a.pos, b.pos, b.slots⟩, {}) := by
  simp [matchAt, run]

/-- The attempt at a place gives what is taken there, and remembers only barren places. -/
theorem matchAt_place (plain : ∀ item ∈ items, item.isPlain) (lastEnd : Option Nat) (pos : Nat)
    (tried : Tried) (barren : ∀ key ∈ tried, Barren items text key) :
    (matchAt items.zipIdx lastEnd (place text pos) tried).1 = takenAt items text lastEnd pos ∧
      ∀ key ∈ (matchAt items.zipIdx lastEnd (place text pos) tried).2, Barren items text key := by
  have finds := matchItems_finds plain items 0 rfl (place text pos) tried
    (place_in text pos) fun key member _ _ => barren key member
  cases run : matchItems items.zipIdx (place text pos) tried with
  | mk found after =>
      rw [run] at finds
      have head := finds.first
      cases found with
      | none =>
          have nothing : takenAt items text lastEnd pos = none := by
            simp [takenAt, firstAt, ← head]
          simp only [matchAt, run, nothing, true_and]
          intro key member
          rcases finds.barren rfl key member with old | new
          · exact barren key old
          · exact new
      | some b =>
          have first : firstAt items text pos = some ⟨pos, b.pos, b.slots⟩ := by
            simp [firstAt, ← head]
          rw [matchAt_of_found lastEnd run]
          by_cases refused : b.pos = pos ∧ lastEnd = some pos
          · simp [takenAt, first, Option.filter_some, refused]
          · simp only [place_pos, takenAt, first, Option.filter_some]
            simp [refused]

theorem scan_successive (plain : ∀ item ∈ items, item.isPlain) :
    ∀ (rest : List Char) (resume : Nat) (lastEnd : Option Nat) (found : List Match) (pos : Nat)
      (tried : Tried), rest = text.drop pos → pos ≤ text.length →
      (∀ key ∈ tried, Barren items text key) →
      ∃ later, scan items.zipIdx resume lastEnd found (text.take pos).getLast? pos tried rest =
          found.reverse ++ later ∧
        Successive items text (max pos resume) lastEnd later := by
  intro rest
  induction rest with
  | nil =>
      intro resume lastEnd found pos tried remaining within barren
      have atEnd : pos = text.length := by
        have := List.drop_eq_nil_iff.mp remaining.symm
        omega
      have past : text.length < pos + 1 := by omega
      by_cases skipped : pos < resume
      · exact ⟨[], by simp [scan, skipped], .of_end (by omega)⟩
      · have here : (⟨(text.take pos).getLast?, pos, [], []⟩ : Attempt) = place text pos := by
          rw [place, remaining]
        obtain ⟨taken, _⟩ := matchAt_place plain lastEnd pos tried barren
        have start : max pos resume = pos := by omega
        rw [start]
        simp only [scan, skipped, if_false, here]
        cases run : matchAt items.zipIdx lastEnd (place text pos) tried with
        | mk match? after =>
            rw [run] at taken
            cases match? with
            | none => exact ⟨[], by simp, .pass taken.symm (.of_end past)⟩
            | some m =>
                exact ⟨[m], by simp, .take within taken.symm (.of_end (by omega))⟩
  | cons c rest ih =>
      intro resume lastEnd found pos tried remaining within barren
      have inside : pos < text.length := by
        have shorter := congrArg List.length remaining
        simp only [List.length_cons, List.length_drop] at shorter
        omega
      obtain ⟨nextBefore, nextRest⟩ := next_in_text remaining
      by_cases skipped : pos < resume
      · obtain ⟨later, equal, successive⟩ := ih resume lastEnd found (pos + 1) tried nextRest
          (by omega) barren
        have start : max (pos + 1) resume = max pos resume := by omega
        rw [start] at successive
        refine ⟨later, ?_, successive⟩
        simp only [scan, skipped, if_true, nextBefore]
        exact equal
      · have here :
            (⟨(text.take pos).getLast?, pos, c :: rest, []⟩ : Attempt) = place text pos := by
          rw [place, remaining]
        obtain ⟨taken, sound⟩ := matchAt_place plain lastEnd pos tried barren
        have start : max pos resume = pos := by omega
        rw [start]
        simp only [scan, skipped, if_false, here, nextBefore]
        cases run : matchAt items.zipIdx lastEnd (place text pos) tried with
        | mk match? after =>
            rw [run] at taken sound
            cases match? with
            | none =>
                obtain ⟨later, equal, successive⟩ :=
                  ih resume lastEnd found (pos + 1) after nextRest inside sound
                have next : max (pos + 1) resume = pos + 1 := by omega
                rw [next] at successive
                exact ⟨later, equal, successive.pass taken.symm⟩
            | some m =>
                obtain ⟨later, equal, successive⟩ :=
                  ih m.stop (some m.stop) (m :: found) (pos + 1) after nextRest inside sound
                exact ⟨m :: later, by simpa using equal, .take within taken.symm successive⟩

/-- A scan from the start of a text. -/
theorem scan_text (plain : ∀ item ∈ items, item.isPlain) (text : List Char) (start : Nat) :
    Successive items text start none (scan items.zipIdx start none [] none 0 {} text) := by
  obtain ⟨later, equal, successive⟩ := scan_successive plain text start none [] 0 {} rfl
    (Nat.zero_le _) (by simp)
  simp only [List.take_zero, List.getLast?_nil, List.reverse_nil, List.nil_append] at equal
  rw [equal]
  simpa using successive

end Scan

/-- The first match of an expression that starts at a position or after it. -/
def searchFrom (expr : Expr) (text : List Char) (start : Nat) : Option Match :=
  (scan expr.layout start none [] none 0 {} text).head?

end ShortcodeExpansion.Regex
