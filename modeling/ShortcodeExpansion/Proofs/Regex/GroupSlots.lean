import ShortcodeExpansion.Proofs.Regex.FirstWay
import ShortcodeExpansion.Proofs.Template.PatternMeaning

/-!
# What a match notes

A match notes positions for the groups of its expression and for no others.  So a group that an
expression does not have takes no part in any of its matches.
-/

set_option autoImplicit false

namespace ShortcodeExpansion.Regex

/-! ## Code -/

section Copies

variable {size base next : Nat} {body : Nat → Nat → List Instruction} {instruction : Instruction}

theorem mem_copies {count : Nat} (member : instruction ∈ copies size body base next count) :
    ∃ start stop, instruction ∈ body start stop := by
  fun_induction copies size body base next count with
  | case1 => simp at member
  | case2 base => exact ⟨base, next, member⟩
  | case3 base count ih =>
      rcases List.mem_append.mp member with first | later
      · exact ⟨_, _, first⟩
      · exact ih later

theorem mem_optionalCopies {greedy : Bool} {count : Nat}
    (member : instruction ∈ optionalCopies size body greedy base next count) :
    (∃ start stop, instruction ∈ body start stop) ∨
      ∃ round leave, instruction = .roundOrLeave greedy round leave := by
  induction count generalizing base with
  | zero => simp [optionalCopies] at member
  | succ count ih =>
      simp only [optionalCopies, List.cons_append, List.mem_cons, List.mem_append] at member
      rcases member with rfl | first | later
      · exact .inr ⟨_, _, rfl⟩
      · exact .inl ⟨_, _, first⟩
      · exact ih later

theorem note_ne_roundOrLeave {slot onward round leave : Nat} {greedy : Bool} :
    Instruction.note slot onward ≠ .roundOrLeave greedy round leave := by
  cases greedy <;> simp [Instruction.roundOrLeave]

end Copies

/-- The code of an expression notes places for its groups only. -/
theorem codeAt_notes {expr : Expr} {slot onward base next : Nat}
    (noted : .note slot onward ∈ expr.codeAt base next) : slot / 2 ∈ expr.groupIndices := by
  induction expr generalizing base next with
  | empty | set | look => simp [Expr.codeAt] at noted
  | group index name body ih =>
      simp only [Expr.codeAt, List.cons_append, List.mem_cons, List.mem_append,
        Instruction.note.injEq, List.not_mem_nil, or_false] at noted
      rw [Expr.groupIndices, List.mem_cons]
      rcases noted with ⟨rfl, -⟩ | inner | ⟨rfl, -⟩
      · exact .inl (by omega)
      · exact .inr (ih inner)
      · exact .inl (by omega)
  | seq a b first second =>
      rw [Expr.codeAt] at noted
      rw [Expr.groupIndices, List.mem_append]
      exact (List.mem_append.mp noted).imp first second
  | alt a b first second =>
      simp only [Expr.codeAt, List.cons_append, List.mem_cons, reduceCtorEq, false_or] at noted
      rw [Expr.groupIndices, List.mem_append]
      exact (List.mem_append.mp noted).imp first second
  | rep min max greedy body ih =>
      rw [Expr.groupIndices]
      have inCopies : ∀ {size start stop count : Nat},
          .note slot onward ∈ copies size body.codeAt start stop count →
            slot / 2 ∈ body.groupIndices := fun member => by
        obtain ⟨_, _, inner⟩ := mem_copies member
        exact ih inner
      cases max with
      | some max =>
          rw [Expr.codeAt] at noted
          split at noted
          · simp at noted
          · rcases List.mem_append.mp noted with first | optional
            · exact inCopies first
            · rcases mem_optionalCopies optional with ⟨_, _, inner⟩ | ⟨_, _, choice⟩
              · exact ih inner
              · exact absurd choice note_ne_roundOrLeave
      | none =>
          cases min with
          | zero =>
              rw [Expr.codeAt] at noted
              split at noted
              · rcases List.mem_cons.mp noted with choice | inner
                · exact absurd choice note_ne_roundOrLeave
                · exact ih inner
              · simp only [List.cons_append, List.mem_cons, List.mem_append, List.not_mem_nil,
                  or_false, note_ne_roundOrLeave, false_or] at noted
                exact ih noted
          | succ min =>
              simp only [Expr.codeAt, List.mem_append, List.mem_cons, List.not_mem_nil, or_false,
                note_ne_roundOrLeave] at noted
              exact inCopies noted

/-! ## Items -/

/-- An item may note a place in a slot. -/
def Item.Notes (slot : Nat) : Item → Prop
  | .slot index => slot = index
  | .code instructions => ∃ next, .note slot next ∈ instructions
  | .single _ | .look _ | .loop _ _ => False

/-- An expression is laid out as items that note places for its groups only. -/
theorem layOut_notes {slot : Nat} {expr : Expr} {after : List Item} {item : Item}
    (listed : item ∈ layOut expr after) (notes : item.Notes slot) :
    slot / 2 ∈ expr.groupIndices ∨ item ∈ after := by
  fun_induction layOut expr after with
  | case1 => exact .inr listed
  | case2 | case3 =>
      rcases List.mem_cons.mp listed with rfl | later
      · exact notes.elim
      · exact .inr later
  | case4 index name body after ih =>
      rw [Expr.groupIndices, List.mem_cons]
      rcases List.mem_cons.mp listed with rfl | inner
      · exact .inl (.inl (by simp only [Item.Notes] at notes; omega))
      · rcases ih inner with own | later
        · exact .inl (.inr own)
        · rcases List.mem_cons.mp later with rfl | later
          · exact .inl (.inl (by simp only [Item.Notes] at notes; omega))
          · exact .inr later
  | case5 first second after ihSecond ihFirst =>
      rw [Expr.groupIndices, List.mem_append]
      rcases ihFirst listed with own | later
      · exact .inl (.inl own)
      · exact (ihSecond later).imp_left .inr
  | case6 =>
      rcases List.mem_cons.mp listed with rfl | later
      · exact notes.elim
      · exact .inr later
  | case7 =>
      rcases List.mem_cons.mp listed with rfl | loop
      · exact notes.elim
      · rcases List.mem_cons.mp loop with rfl | later
        · exact notes.elim
        · exact .inr later
  | case8 =>
      rcases List.mem_cons.mp listed with rfl | later
      · obtain ⟨next, noted⟩ := notes
        exact .inl (codeAt_notes (by simpa [Expr.code] using noted))
      · exact .inr later

/-! ## The search -/

section Search

/-- Positions were noted in slots of a kind only. -/
def Attempt.NotedIn (kind : Nat → Prop) (a : Attempt) : Prop := ∀ entry ∈ a.slots, kind entry.1

/-- If there is an end of a match, positions were noted in slots of a kind only. -/
def EndNotedIn (kind : Nat → Prop) (result : Option Attempt × Tried) : Prop :=
  ∀ b ∈ result.1, b.NotedIn kind

variable {kind : Nat → Prop} {label : Nat} {next : Continuation}

@[simp] theorem endNotedIn_none (tried : Tried) : EndNotedIn kind (none, tried) := by
  simp [EndNotedIn]

@[simp] theorem endNotedIn_some_iff {b : Attempt} {tried : Tried} :
    EndNotedIn kind (some b, tried) ↔ b.NotedIn kind := by
  simp [EndNotedIn]

/-- What comes after notes positions in slots of a kind only. -/
def NotesIn (kind : Nat → Prop) (next : Continuation) : Prop :=
  ∀ a tried, a.NotedIn kind → EndNotedIn kind (next a tried)

theorem leaveLoop_noted (keeps : NotesIn kind next) {places : List Attempt}
    (noted : ∀ a ∈ places, a.NotedIn kind) (tried : Tried) :
    EndNotedIn kind (leaveLoop label next places tried) := by
  induction places generalizing tried with
  | nil => simp [leaveLoop]
  | cons a places ih =>
      obtain ⟨here, later⟩ := List.forall_mem_cons.mp noted
      rw [leaveLoop]
      split
      · rename_i found
        exact found ▸ keeps a tried here
      · exact ih later _

theorem lazyLoop_noted (keeps : NotesIn kind next) (chars : CharSet) {slots : List (Nat × Nat)}
    (noted : ∀ entry ∈ slots, kind entry.1) (rest : List Char) (before : Option Char) (pos : Nat)
    (tried : Tried) :
    EndNotedIn kind (lazyLoop chars label next slots before pos rest tried) := by
  induction rest generalizing before pos tried with
  | nil =>
      rw [lazyLoop]
      split
      · simp
      · split
        · rename_i found
          exact found ▸ keeps _ tried noted
        · simp
  | cons c rest ih =>
      rw [lazyLoop]
      split
      · simp
      · split
        · rename_i found
          exact found ▸ keeps _ tried noted
        · dsimp only
          split
          · exact ih _ _ _
          · simp

theorem slots_of_mem_runPlaces {chars : CharSet} {slots : List (Nat × Nat)} {rest : List Char}
    {before : Option Char} {pos : Nat} {a : Attempt}
    (member : a ∈ runPlaces chars slots before pos rest) : a.slots = slots := by
  induction rest generalizing before pos with
  | nil =>
      obtain rfl := List.mem_singleton.mp member
      rfl
  | cons c rest ih =>
      rcases List.mem_cons.mp member with rfl | later
      · rfl
      · split at later
        · exact ih later
        · simp at later

theorem loopReach_noted {chars : CharSet} {a b : Attempt} {tried : Tried} (noted : a.NotedIn kind)
    (reached : b ∈ loopReach chars label tried a.slots [] a.before a.pos a.rest) :
    b.NotedIn kind := by
  rw [loopReach_eq, List.append_nil, List.mem_reverse] at reached
  have same := slots_of_mem_runPlaces (List.takeWhile_subset _ reached)
  exact fun entry member => noted entry (same ▸ member)

theorem consume?_noted {chars : CharSet} {a b : Attempt} (noted : a.NotedIn kind)
    (taken : a.consume? chars = some b) : b.NotedIn kind := by
  unfold Attempt.consume? at taken
  split at taken
  · simp at taken
  · split at taken
    · obtain rfl := Option.some.inj taken
      exact noted
    · simp at taken

theorem note_noted {slot : Nat} {a : Attempt} (noted : a.NotedIn kind) (allowed : kind slot) :
    (a.note slot).NotedIn kind :=
  List.forall_mem_cons.mpr ⟨allowed, noted⟩

theorem runCode_noted (keeps : NotesIn kind next) {code : Array Instruction}
    (allowed : ∀ slot onward, .note slot onward ∈ code → kind slot) (fuel : Nat)
    {others : List (Nat × Attempt)} (noted : ∀ entry ∈ others, entry.2.NotedIn kind)
    (tried : Tried) : EndNotedIn kind (runCode code label next fuel others tried) := by
  induction fuel generalizing others tried with
  | zero => simp [runCode]
  | succ fuel ih =>
      cases others with
      | nil => simp [runCode]
      | cons entry others =>
          obtain ⟨address, a⟩ := entry
          have here : a.NotedIn kind := noted (address, a) List.mem_cons_self
          have later := (List.forall_mem_cons.mp noted).2
          have goOn : ∀ {address : Nat} {b : Attempt}, b.NotedIn kind →
              ∀ entry ∈ (address, b) :: others, entry.2.NotedIn kind :=
            fun noted => List.forall_mem_cons.mpr ⟨noted, later⟩
          simp only [runCode]
          split
          · exact ih later _
          · split
            · split
              · rename_i found
                exact found ▸ keeps a _ here
              · exact ih later _
            · split
              · rename_i taken
                exact ih (goOn (consume?_noted here taken)) _
              · exact ih later _
            · split
              · exact ih (goOn here) _
              · exact ih later _
            · rename_i slot onward fetched
              have member := Array.mem_of_getElem? fetched
              exact ih (goOn (note_noted here (allowed slot onward member))) _
            · exact ih (List.forall_mem_cons.mpr ⟨here, goOn here⟩) _
            · exact ih (goOn here) _

theorem matchItems_noted {layout : Layout}
    (allowed : ∀ entry ∈ layout, ∀ slot, entry.1.Notes slot → kind slot) :
    NotesIn kind (matchItems layout) := by
  induction layout with
  | nil => exact fun a tried noted => endNotedIn_some_iff.mpr noted
  | cons entry rest ih =>
      obtain ⟨item, label⟩ := entry
      obtain ⟨here, later⟩ := List.forall_mem_cons.mp allowed
      have keeps := ih later
      intro a tried noted
      cases item with
      | single chars =>
          rw [matchItems]
          split
          · rename_i taken
            exact keeps _ tried (consume?_noted noted taken)
          · simp
      | look condition =>
          rw [matchItems]
          split
          · exact keeps a tried noted
          · simp
      | slot index => exact keeps _ tried (note_noted noted (here index rfl))
      | loop chars greedy =>
          cases greedy with
          | true =>
              exact leaveLoop_noted keeps (fun b reached => loopReach_noted noted reached) tried
          | false => exact lazyLoop_noted keeps chars noted _ _ _ tried
      | code instructions =>
          have own : ∀ slot onward, .note slot onward ∈ instructions → kind slot :=
            fun slot onward member => here slot ⟨onward, member⟩
          exact runCode_noted keeps own _ (List.forall_mem_singleton.mpr noted) tried

/-- A match has positions in slots of a kind only. -/
def Match.NotedIn (kind : Nat → Prop) (m : Match) : Prop := ∀ entry ∈ m.slots, kind entry.1

theorem matchAt_noted {layout : Layout}
    (allowed : ∀ entry ∈ layout, ∀ slot, entry.1.Notes slot → kind slot) {a : Attempt}
    (noted : a.NotedIn kind) (lastEnd : Option Nat) (tried : Tried) :
    ∀ m ∈ (matchAt layout lastEnd a tried).1, m.NotedIn kind := by
  have ends := matchItems_noted allowed a tried noted
  unfold matchAt
  split
  · simp
  · rename_i b _ found
    rw [found, endNotedIn_some_iff] at ends
    split
    · simp
    · rintro m ⟨⟩
      exact ends

theorem scan_noted {layout : Layout}
    (allowed : ∀ entry ∈ layout, ∀ slot, entry.1.Notes slot → kind slot) {found : List Match}
    (noted : ∀ m ∈ found, m.NotedIn kind) (resume : Nat) (lastEnd : Option Nat)
    (before : Option Char) (pos : Nat) (tried : Tried) (rest : List Char) :
    ∀ m ∈ scan layout resume lastEnd found before pos tried rest, m.NotedIn kind := by
  have start : ∀ {before : Option Char} {pos : Nat} {rest : List Char},
      Attempt.NotedIn kind ⟨before, pos, rest, []⟩ := by simp [Attempt.NotedIn]
  induction rest generalizing resume lastEnd found before pos tried with
  | nil =>
      rw [scan]
      have last := matchAt_noted allowed (@start before pos []) lastEnd tried
      split
      · simpa using noted
      · split
        · rename_i m _ taken
          rw [taken] at last
          intro other member
          exact List.forall_mem_cons.mpr ⟨last m rfl, noted⟩ other (List.mem_reverse.mp member)
        · simpa using noted
  | cons c rest ih =>
      rw [scan]
      have here := matchAt_noted allowed (@start before pos (c :: rest)) lastEnd tried
      split
      · exact ih noted _ _ _ _ _
      · split
        · rename_i m _ taken
          rw [taken] at here
          exact ih (List.forall_mem_cons.mpr ⟨here m rfl, noted⟩) _ _ _ _ _
        · exact ih noted _ _ _ _ _

end Search

/-- The matches of an expression have positions for its groups only. -/
theorem allMatches_noted (expr : Expr) (text : List Char) :
    ∀ m ∈ allMatches expr text, m.NotedIn fun slot => slot / 2 ∈ expr.groupIndices := by
  refine scan_noted (fun entry listed slot notes => ?_) (by simp) _ _ _ _ _ _
  have item : entry.1 ∈ layOut expr [] := List.fst_mem_of_mem_zipIdx listed
  simpa using layOut_notes item notes

/-- A group that an expression does not have takes no part in its matches. -/
theorem group?_eq_none {expr : Expr} {text : List Char} {m : Match} {index : Nat}
    (found : m ∈ allMatches expr text) (pos : 0 < index) (absent : index ∉ expr.groupIndices) :
    m.group? index = none := by
  have nothing : slot? m.slots (2 * index) = none := by
    refine Option.map_eq_none_iff.mpr (List.find?_eq_none.mpr fun entry member same => ?_)
    have own := allMatches_noted expr text m found entry member
    have slot : entry.1 = 2 * index := by simpa using same
    rw [slot, Nat.mul_div_cancel_left index Nat.two_pos] at own
    exact absent own
  rw [Match.group?, if_neg (Nat.ne_of_gt pos), nothing]

end ShortcodeExpansion.Regex
