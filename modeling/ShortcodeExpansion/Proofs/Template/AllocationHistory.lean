import ShortcodeExpansion.Proofs.Template.WildcardPlaces

/-!
# Histories of an allocation

An allocation hands out numbers and says of numbers whether they are reserved, as it is asked.  In
whatever order it is asked, the numbers it hands out are the free ones from the smallest on.
-/

set_option autoImplicit false

namespace ShortcodeExpansion.Template

namespace Allocation

/-! ## The search for a free number -/

/-- The search for a free number that starts at one, without a bound on how far it goes. -/
inductive Scan (reserved : List Nat) : Nat → Nat → Prop where
  | stop {index : Nat} (free : index ∉ reserved) : Scan reserved index index
  | pass {index found : Nat} (taken : index ∈ reserved) (more : Scan reserved (index + 1) found) :
      Scan reserved index found

theorem scan_firstFree {reserved : List Nat} :
    ∀ {reach index : Nat}, firstFree reserved reach index ∉ reserved →
      Scan reserved index (firstFree reserved reach index) := by
  intro reach
  induction reach with
  | zero => intro index free; exact .stop free
  | succ reach ih =>
      intro index free
      rw [firstFree] at free ⊢
      split
      · rename_i taken
        rw [if_pos taken] at free
        exact .pass (by simpa using taken) (ih free)
      · rename_i isFree
        exact .stop (by simpa using isFree)

theorem Scan.unique {reserved : List Nat} {index found other : Nat}
    (scan : Scan reserved index found) (again : Scan reserved index other) : found = other := by
  induction scan with
  | stop free =>
      cases again with
      | stop _ => rfl
      | pass taken _ => exact absurd taken free
  | pass taken _ ih =>
      cases again with
      | stop free => exact absurd taken free
      | pass _ more => exact ih more

/-- The search ends, at the number that is handed out next. -/
theorem scan_iff (a : Allocation) (found : Nat) :
    Scan a.reserved (max a.cursor 1) found ↔ found = a.next := by
  have ends : Scan a.reserved (max a.cursor 1) a.next :=
    scan_firstFree (firstFree_not_mem a.reserved (max a.cursor 1))
  exact ⟨fun scan => scan.unique ends, fun same => same ▸ ends⟩

/-! ## Requests -/

/-- What an allocation is asked for. -/
inductive Request where
  | next
  | isReserved (index : Nat)
deriving DecidableEq, Repr

inductive Answer where
  | number (index : Nat)
  | truth (reserved : Bool)
deriving DecidableEq, Repr

def Answer.number? : Answer → Option Nat
  | .number index => some index
  | .truth _ => none

def answer (a : Allocation) : Request → Answer
  | .next => .number a.next
  | .isReserved index => .truth (a.isReserved index)

def after (a : Allocation) : Request → Allocation
  | .next => a.advance
  | .isReserved _ => a

/-- The answers to requests one after the other. -/
def answers (a : Allocation) : List Request → List Answer
  | [] => []
  | request :: rest => a.answer request :: (a.after request).answers rest

def afterAll (a : Allocation) (requests : List Request) : Allocation := requests.foldl after a

/-- The numbers among answers. -/
def handedOut (answers : List Answer) : List Nat := answers.filterMap Answer.number?

section Histories

variable (a : Allocation)

theorem afterAll_eq_iterate (requests : List Request) :
    a.afterAll requests = advance^[requests.count .next] a := by
  induction requests generalizing a with
  | nil => rfl
  | cons request rest ih =>
      rw [afterAll, List.foldl_cons, ← afterAll, ih]
      cases request with
      | next => rw [List.count_cons_self, Function.iterate_succ_apply, after]
      | isReserved index => rw [List.count_cons_of_ne (by simp), after]

theorem handedOut_answers (requests : List Request) :
    handedOut (a.answers requests) =
      (List.range (requests.count .next)).map fun k => (advance^[k] a).next := by
  induction requests generalizing a with
  | nil => rfl
  | cons request rest ih =>
      cases request with
      | next =>
          have later := ih a.advance
          rw [List.count_cons_self, List.range_succ_eq_map, List.map_cons, List.map_map]
          rw [answers, answer, after, handedOut, List.filterMap_cons, ← handedOut, later]
          rfl
      | isReserved index =>
          rw [List.count_cons_of_ne (by simp), ← ih a]
          rfl

theorem answers_concat (requests : List Request) (request : Request) :
    a.answers (requests ++ [request]) =
      a.answers requests ++ [(a.afterAll requests).answer request] := by
  induction requests generalizing a with
  | nil => rfl
  | cons first rest ih =>
      rw [List.cons_append, answers, answers, ih, List.cons_append]
      rfl

/-- A number is reserved from the start or since it was handed out. -/
theorem mem_reserved_iterate {index : Nat} (n : Nat) :
    index ∈ (advance^[n] a).reserved ↔
      index ∈ a.reserved ∨ ∃ k, k < n ∧ (advance^[k] a).next = index := by
  induction n with
  | zero => simp
  | succ n ih =>
      have later : (∃ k, k < n + 1 ∧ (advance^[k] a).next = index) ↔
          (∃ k, k < n ∧ (advance^[k] a).next = index) ∨ (advance^[n] a).next = index := by
        simp only [Nat.lt_succ_iff_lt_or_eq, or_and_right, exists_or, exists_eq_left]
      rw [Function.iterate_succ_apply', advance, List.mem_cons, ih, later, eq_comm, or_comm,
        or_assoc]

end Histories

/-- An allocation for a template, or for none. -/
def begin : Option String → Allocation
  | some template => ofTemplate template
  | none => {}

/-- The numbers that are reserved from the start. -/
def references : Option String → List Nat
  | some template => explicitReferences template
  | none => []

section Begin

variable (start : Option String)

theorem mem_reserved_begin {index : Nat} :
    index ∈ (begin start).reserved ↔ index ∈ references start := by
  cases start with
  | none => rfl
  | some template => exact List.mem_eraseDups

theorem references_eq : references start = explicitReferences (start.getD "") := by
  cases start <;> rfl

/-- An allocation without a template starts its search at 0, and is the same as one for an empty
template once it has handed out a number. -/
theorem iterate_begin_none (n : Nat) : advance^[n + 1] (begin none) = afterGiving "" (n + 1) := by
  have first : (begin none).advance = (ofTemplate "").advance := by decide
  rw [afterGiving, Function.iterate_succ_apply, Function.iterate_succ_apply, first]

theorem next_iterate_begin (n : Nat) :
    (advance^[n] (begin start)).next = freeNumber (start.getD "") n := by
  rw [← (afterGiving_hasGiven (start.getD "") n).next_eq]
  cases start with
  | some template => rfl
  | none =>
      cases n with
      | zero => decide
      | succ n => rw [iterate_begin_none, Option.getD_none]

theorem count_cursor_begin (n : Nat) :
    Nat.count (IsFree (start.getD "")) (advance^[n] (begin start)).cursor = n := by
  have given := (afterGiving_hasGiven (start.getD "") n).given
  cases start with
  | some template => exact given
  | none =>
      cases n with
      | zero => exact Nat.count_zero _
      | succ n =>
          rw [iterate_begin_none]
          exact given

/-- Every number that the search leaves out is reserved. -/
theorem mem_reserved_of_lt_cursor {index n : Nat} (positive : 0 < index)
    (before : index < (advance^[n] (begin start)).cursor) :
    index ∈ (advance^[n] (begin start)).reserved := by
  rw [mem_reserved_iterate, mem_reserved_begin]
  -- What is not referred to is free, and was handed out once fewer free numbers lay below it.
  by_cases refers : index ∈ references start
  · exact .inl refers
  · have free : IsFree (start.getD "") index := ⟨positive, references_eq start ▸ refers⟩
    refine .inr ⟨Nat.count (IsFree (start.getD "")) index, ?_, ?_⟩
    · have below := Nat.count_strict_mono free before
      rwa [count_cursor_begin] at below
    · rw [next_iterate_begin]
      exact Nat.nth_count free

end Begin

/-- The number that is positive and not referred to, and has exactly `k` such numbers below it. -/
noncomputable def numberAt (start : Option String) (k : Nat) : Nat :=
  Nat.nth (fun index => 0 < index ∧ index ∉ references start) k

theorem numberAt_eq (start : Option String) : numberAt start = freeNumber (start.getD "") := by
  funext k
  rw [numberAt, references_eq]
  rfl

/-- What an allocation has answered to requests, and the state it is in after them. -/
structure Enumerates (start : Option String) (requests : List Request) (answers : List Answer)
    (now : Allocation) : Prop where
  numbers : handedOut answers = (List.range (requests.count .next)).map (numberAt start)
  ascending : (handedOut answers).Pairwise (· < ·)
  apart : ∀ index ∈ handedOut answers, index ∉ references start
  /-- The search leaves nothing out. -/
  passed : ∀ index, 0 < index → index < now.cursor → now.isReserved index = true
  isReserved_iff : ∀ index, now.isReserved index = true ↔
    index ∈ references start ∨ index ∈ handedOut answers
  /-- Asking whether a number is reserved changes nothing. -/
  unchanged : now = (begin start).afterAll (requests.filter (· = .next))
  ends : ∀ found, Scan now.reserved (max now.cursor 1) found ↔ found = now.next
  /-- A further request is answered in this state. -/
  onward : ∀ request, (begin start).answers (requests ++ [request]) =
    answers ++ [now.answer request]

theorem enumerates (start : Option String) (requests : List Request) :
    Enumerates start requests ((begin start).answers requests)
      ((begin start).afterAll requests) := by
  have numbers : handedOut ((begin start).answers requests) =
      (List.range (requests.count .next)).map (freeNumber (start.getD "")) := by
    rw [handedOut_answers]
    exact List.map_congr_left fun k _ => next_iterate_begin start k
  have given : ∀ index, index ∈ handedOut ((begin start).answers requests) ↔
      ∃ k, k < requests.count .next ∧ (advance^[k] (begin start)).next = index := by
    simp [handedOut_answers]
  refine ⟨numberAt_eq start ▸ numbers, ?_, ?_, ?_, ?_, ?_, scan_iff _, answers_concat _ requests⟩
  · rw [numbers, List.pairwise_map]
    exact List.pairwise_lt_range.imp fun before => freeNumber_strictMono _ before
  · intro index member
    obtain ⟨k, -, rfl⟩ := (given index).mp member
    rw [next_iterate_begin, references_eq]
    exact (freeNumber_isFree _ k).2
  · intro index positive before
    rw [afterAll_eq_iterate] at before ⊢
    simpa [isReserved] using mem_reserved_of_lt_cursor start positive before
  · intro index
    rw [given, afterAll_eq_iterate, ← mem_reserved_begin, ← mem_reserved_iterate, isReserved,
      List.contains_iff_mem]
  · rw [afterAll_eq_iterate, afterAll_eq_iterate, List.count_filter (by simp)]

end Allocation

/-- An allocation hands out the free numbers in order, in whatever way it is asked, and it is these
numbers that stand in the place of the wildcards of a template. -/
theorem allocation_enumerates (start : Option String) (requests : List Allocation.Request) :
    Allocation.Enumerates start requests ((Allocation.begin start).answers requests)
        ((Allocation.begin start).afterAll requests) ∧
      ∀ template ∈ start, ∃ first rest, Cut template.toList first rest ∧
        rest.length = template.toList.count '*' ∧
        (replacementSource template false).toList =
          withReferences (Allocation.numberAt start) 0 first rest ∧
        '*' ∉ (replacementSource template false).toList := by
  refine ⟨Allocation.enumerates start requests, fun template given => ?_⟩
  obtain rfl : start = some template := given
  rw [Allocation.numberAt_eq]
  exact exists_withReferences template

theorem allocation_enumerates_around_reference :
    Allocation.Enumerates (some "*$2*") [.next, .isReserved 2, .next]
        [.number 1, .truth true, .number 3] ⟨[3, 1, 2], 4⟩ ∧
      some "*$2*" = some "*$2*" ∧ ∃ first rest, Cut "*$2*".toList first rest ∧
        rest.length = "*$2*".toList.count '*' ∧
        (replacementSource "*$2*" false).toList =
          withReferences (Allocation.numberAt (some "*$2*")) 0 first rest ∧
        '*' ∉ (replacementSource "*$2*" false).toList := by
  have answers : (Allocation.begin (some "*$2*")).answers [.next, .isReserved 2, .next] =
      [.number 1, .truth true, .number 3] := by decide
  have now : (Allocation.begin (some "*$2*")).afterAll [.next, .isReserved 2, .next] =
      ⟨[3, 1, 2], 4⟩ := by decide
  obtain ⟨history, written⟩ :=
    allocation_enumerates (some "*$2*") [.next, .isReserved 2, .next]
  rw [answers, now] at history
  exact ⟨history, rfl, written _ rfl⟩

end ShortcodeExpansion.Template
