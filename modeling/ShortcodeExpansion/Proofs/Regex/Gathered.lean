import ShortcodeExpansion.Proofs.Results
import ShortcodeExpansion.Regex.Reader

/-!
# Readers that open no group

A cursor carries what reading has gathered of the groups of a pattern: how many were opened, and
which names they were given.  The readers of escapes, classes, flags, counts and repetitions move
the cursor and leave this as it was.
-/

set_option autoImplicit false

namespace ShortcodeExpansion.Regex

namespace Cursor

/-- The number of groups opened so far, and their names with their places. -/
def gathered (c : Cursor) : Nat × List (String × Span) := (c.groups, c.names)

@[simp] theorem gathered_bump (c : Cursor) : c.bump.gathered = c.gathered := by
  unfold bump
  split <;> rfl

@[simp] theorem gathered_bumpSpace (c : Cursor) : c.bumpSpace.gathered = c.gathered := by
  unfold bumpSpace
  split <;> rfl

@[simp] theorem gathered_advance (c : Cursor) : c.advance.gathered = c.gathered := by
  unfold advance
  split <;> simp

theorem gathered_foldl_bump {text : List Char} : ∀ c : Cursor,
    (text.foldl (fun c _ => c.bump) c).gathered = c.gathered := by
  induction text with
  | nil => intro c; rfl
  | cons _ text ih => intro c; rw [List.foldl_cons, ih, gathered_bump]

theorem gathered_of_bumpIf? {c after : Cursor} {text : List Char}
    (bumped : c.bumpIf? text = some after) : after.gathered = c.gathered := by
  unfold bumpIf? at bumped
  split at bumped
  · rw [← Option.some.inj bumped, gathered_foldl_bump]
  · simp at bumped

end Cursor

/-- What reading gives, if it gives something, goes on with what was gathered before. -/
def Keeps {α : Type} (c : Cursor) (result : Except Fault (α × Cursor)) : Prop :=
  ∀ value after, result = .ok (value, after) → after.gathered = c.gathered

section Keeps

variable {α β : Type} {c d : Cursor}

@[simp] theorem keeps_fail (span : Span) (kind : FaultKind) :
    Keeps c (Cursor.fail span kind : Except Fault (α × Cursor)) := by
  simp [Keeps, Cursor.fail]

@[simp] theorem keeps_error (fault : Fault) :
    Keeps c (.error fault : Except Fault (α × Cursor)) := by
  simp [Keeps]

@[simp] theorem keeps_ok_iff {value : α} :
    Keeps c (.ok (value, d)) ↔ d.gathered = c.gathered := by
  constructor
  · intro keeps
    exact keeps value d rfl
  · rintro same _ _ ⟨⟩
    exact same

theorem Keeps.of_gathered {result : Except Fault (α × Cursor)} (keeps : Keeps d result)
    (same : d.gathered = c.gathered) : Keeps c result :=
  fun value after read => (keeps value after read).trans same

theorem Keeps.bind {result : Except Fault (α × Cursor)}
    {next : α × Cursor → Except Fault (β × Cursor)} (keeps : Keeps c result)
    (more : ∀ value after, after.gathered = c.gathered → Keeps c (next (value, after))) :
    Keeps c (result >>= next) := by
  cases result with
  | error fault => exact keeps_error fault
  | ok pair => exact more pair.1 pair.2 (keeps pair.1 pair.2 rfl)

theorem Keeps.bind_value {result : Except Fault α} {next : α → Except Fault (β × Cursor)}
    (more : ∀ value, Keeps c (next value)) : Keeps c (result >>= next) := by
  cases result with
  | error fault => exact keeps_error fault
  | ok value => exact more value

end Keeps

/-! ## Escapes -/

theorem readHexDigits_keeps (count value : Nat) (c : Cursor) :
    Keeps c (readHexDigits value c count) := by
  induction count generalizing value c with
  | zero => simp [readHexDigits]
  | succ count ih =>
      rw [readHexDigits]
      split
      · simp
      · split
        · exact (ih _ _).of_gathered (by simp)
        · simp

theorem readHexBrace_keeps (fuel : Nat) (digits : List Nat) (c : Cursor) :
    Keeps c (readHexBrace digits c fuel) := by
  induction fuel generalizing digits c with
  | zero => simp [readHexBrace]
  | succ fuel ih =>
      simp only [readHexBrace]
      split
      · simp
      · split
        · simp
        · split
          · exact (ih _ _).of_gathered (by simp)
          · simp

theorem readHex_keeps (start : Position) (letter : Char) (c : Cursor) :
    Keeps c (readHex start letter c) := by
  simp only [readHex]
  split
  · simp
  · refine ((readHexBrace_keeps _ _ _).of_gathered (by simp)).bind fun digits after same => ?_
    dsimp only
    split
    · simp
    · split
      · simp
      · split
        · simp
        · simpa using same
  · refine ((readHexDigits_keeps _ _ _).of_gathered (by simp)).bind fun value after same => ?_
    dsimp only
    split
    · simp
    · simpa using same

@[simp] theorem gathered_readPropertyName (fuel : Nat) (name : List Char) (c : Cursor) :
    (readPropertyName name c fuel).2.gathered = c.gathered := by
  induction fuel generalizing name c with
  | zero => simp [readPropertyName]
  | succ fuel ih =>
      simp only [readPropertyName]
      split
      · simp
      · split <;> simp [ih]

theorem readProperty_keeps (start : Position) (negated : Bool) (c : Cursor) :
    Keeps c (readProperty start negated c) := by
  simp only [readProperty]
  split
  · simp
  · split
    · split <;> simp
    · split <;> simp

@[simp] theorem gathered_readBoundaryName (fuel : Nat) (name : List Char) (c : Cursor) :
    (readBoundaryName name c fuel).2.gathered = c.gathered := by
  induction fuel generalizing name c with
  | zero => simp [readBoundaryName]
  | succ fuel ih =>
      simp only [readBoundaryName]
      split
      · rfl
      · split <;> simp [ih]

theorem readWordBoundary_keeps (start : Position) (c : Cursor) :
    Keeps c (readWordBoundary start c) := by
  simp only [readWordBoundary]
  split
  · simp
  · split
    · simp
    · split
      · simp
      · split
        · simp
        · split <;> simp

theorem readEscape_keeps (c : Cursor) : Keeps c (readEscape c) := by
  simp only [readEscape]
  split
  · simp
  · split
    · simp
    · split
      · exact (readHex_keeps _ _ _).of_gathered (by simp)
      · split
        · exact (readProperty_keeps _ _ _).of_gathered (by simp)
        · split
          · simp
          · split
            · simp
            · split
              · exact (readWordBoundary_keeps _ _).of_gathered (by simp)
              · split <;> simp

/-! ## Bracketed classes -/

theorem readHyphens_keeps (start : Position) (fuel : Nat) (run : ItemRun) (c : Cursor) :
    Keeps c (readHyphens start run c fuel) := by
  induction fuel generalizing run c with
  | zero => simp [readHyphens]
  | succ fuel ih =>
      simp only [readHyphens]
      split
      · split
        · simp
        · exact (ih _ _).of_gathered (by simp)
      · simp

theorem gathered_of_openBracket {before run : ItemRun} {c after : Cursor} {frame : ClassFrame}
    (opened : openBracket before c = .ok (frame, run, after)) : after.gathered = c.gathered := by
  simp only [openBracket] at opened
  generalize negated : (if c.advance.at? '^' = true then c.advance.advance else c.advance) = inner
    at opened
  have same : inner.gathered = c.gathered := by
    rw [← negated]
    split <;> simp
  split at opened
  · simp [Cursor.fail] at opened
  · split at opened
    · simp [Cursor.fail] at opened
    · obtain ⟨⟨hyphens, later⟩, read, opened⟩ := bind_eq_ok_iff.mp opened
      have same := (readHyphens_keeps _ _ _ _ hyphens later read).trans same
      dsimp only at opened
      split at opened
      · split at opened
        · simp [Cursor.fail] at opened
        · simp only [Except.ok.injEq, Prod.mk.injEq] at opened
          rw [← opened.2.2, Cursor.gathered_advance, same]
      · simp only [Except.ok.injEq, Prod.mk.injEq] at opened
        rw [← opened.2.2, same]

@[simp] theorem gathered_takeToColon (fuel : Nat) (name : List Char) (c : Cursor) :
    (takeToColon name c fuel).2.gathered = c.gathered := by
  induction fuel generalizing name c with
  | zero => simp [takeToColon]
  | succ fuel ih =>
      simp only [takeToColon]
      split
      · rfl
      · split <;> simp [ih]

theorem gathered_of_readAsciiClass? {c after : Cursor} {item : ClassItem}
    (read : readAsciiClass? c = some (item, after)) : after.gathered = c.gathered := by
  simp only [readAsciiClass?] at read
  split at read
  · simp at read
  · rename_i opened starts
    split at read
    · simp at read
    · rename_i closed ends
      obtain ⟨kind, -, same⟩ := Option.map_eq_some_iff.mp read
      simp only [Prod.mk.injEq] at same
      rw [← same.2, Cursor.gathered_of_bumpIf? ends, gathered_takeToColon]
      split <;> simp [Cursor.gathered_of_bumpIf? starts]

theorem readMember_keeps (c : Cursor) : Keeps c (readMember c) := by
  unfold readMember
  split
  · exact readEscape_keeps c
  · simp
  · simp

theorem readRange_keeps (unclosed : Span) (c : Cursor) : Keeps c (readRange unclosed c) := by
  refine (readMember_keeps c).bind fun first after same => ?_
  dsimp only
  split
  · simp
  · split
    · exact .bind_value fun item => by simpa using same
    · split
      · simp
      · have second : after.bumpSpace.advance.gathered = c.gathered := by simpa using same
        refine ((readMember_keeps _).of_gathered second).bind fun last later same => ?_
        refine .bind_value fun low => .bind_value fun high => ?_
        split
        · simp
        · simpa using same

theorem readMembers_keeps (start : Position) (fuel : Nat) (frames : List ClassFrame)
    (run : ItemRun) (c : Cursor) : Keeps c (readMembers start frames run c fuel) := by
  induction fuel generalizing frames run c with
  | zero => simp [readMembers]
  | succ fuel ih =>
      simp only [readMembers]
      split
      · simp
      · split
        · rename_i read
          exact (ih _ _ _).of_gathered (by simp [gathered_of_readAsciiClass? read])
        · split
          · simp
          · rename_i opened
            exact (ih _ _ _).of_gathered (by simp [gathered_of_openBracket opened])
      · split
        · split
          · simp
          · exact (ih _ _ _).of_gathered (by simp)
        · simp
      · split
        · exact (ih _ _ _).of_gathered (by simp)
        · split
          · simp
          · rename_i read
            exact (ih _ _ _).of_gathered (by simp [readRange_keeps _ _ _ _ read])

theorem readBracketed_keeps (c : Cursor) : Keeps c (readBracketed c) := by
  intro ast after read
  obtain ⟨⟨frame, run, inner⟩, opened, read⟩ := bind_eq_ok_iff.mp read
  exact (readMembers_keeps _ _ _ _ _ ast after read).trans (gathered_of_openBracket opened)

/-! ## Parts and repetitions -/

theorem readGroupNameChars_keeps (fuel : Nat) (name : List Char) (c : Cursor) :
    Keeps c (readGroupNameChars name c fuel) := by
  induction fuel generalizing name c with
  | zero => simp [readGroupNameChars]
  | succ fuel ih =>
      simp only [readGroupNameChars]
      split
      · simp
      · split
        · simp
        · split
          · exact (ih _ _).of_gathered (by simp)
          · simp

theorem readFlags_keeps (fuel : Nat) (run : FlagRun) (c : Cursor) :
    Keeps c (readFlags run c fuel) := by
  induction fuel generalizing run c with
  | zero => simp [readFlags]
  | succ fuel ih =>
      simp only [readFlags]
      split
      · simp
      · split
        · split
          · split <;> simp
          · simp
        · split
          · split
            · simp
            · exact (ih _ _).of_gathered (by simp)
          · split
            · simp
            · split
              · simp
              · exact (ih _ _).of_gathered (by simp)

theorem readOperator_keeps (min : Nat) (max : Option Nat) (seq : OpenSequence) (c : Cursor) :
    Keeps c (readOperator min max seq c) := by
  simp only [readOperator]
  split
  · simp
  · split <;> simp

@[simp] theorem gathered_skipBlankChars (fuel : Nat) (c : Cursor) :
    (skipBlankChars c fuel).gathered = c.gathered := by
  induction fuel generalizing c with
  | zero => rfl
  | succ fuel ih =>
      simp only [skipBlankChars]
      split
      · rfl
      · split <;> simp [ih]

@[simp] theorem gathered_readCountDigits (fuel : Nat) (digits : List Nat) (c : Cursor) :
    (readCountDigits digits c fuel).2.gathered = c.gathered := by
  induction fuel generalizing digits c with
  | zero => rfl
  | succ fuel ih =>
      simp only [readCountDigits]
      split
      · rfl
      · split <;> simp [ih]

@[simp] theorem gathered_readCount (c : Cursor) : (readCount c).2.gathered = c.gathered := by
  simp only [readCount]
  split
  · simp
  · split <;> simp

theorem readCountRange_keeps (start : Position) (first : Except Fault Nat) (c : Cursor) :
    Keeps c (readCountRange start first c) := by
  simp only [readCountRange]
  split
  · split
    · simp
    · split
      · exact .bind_value fun min => by simp
      · exact .bind_value fun min => .bind_value fun max => by simp
  · exact .bind_value fun min => by simp

theorem readCounted_keeps (seq : OpenSequence) (c : Cursor) : Keeps c (readCounted seq c) := by
  simp only [readCounted]
  split
  · simp
  · split
    · simp
    · split
      · simp
      · refine ((readCountRange_keeps _ _ _).of_gathered (by simp)).bind fun counts after same => ?_
        dsimp only
        split
        · simp
        · split
          · simp
          · split <;> simp [same]

theorem readPrimitive_keeps (c : Cursor) : Keeps c (readPrimitive c) := by
  unfold readPrimitive
  split
  · exact readEscape_keeps c
  all_goals simp

end ShortcodeExpansion.Regex
