import Mathlib.Data.List.Basic

/-!
# Results that may fail

When steps that come one after another give a result, and when each item of a list does.
-/

set_option autoImplicit false

namespace ShortcodeExpansion

section Results

variable {ε δ α β : Type} {result : Except ε α}

theorem bind_eq_ok_iff {next : α → Except ε β} {value : β} :
    result >>= next = .ok value ↔ ∃ first, result = .ok first ∧ next first = .ok value := by
  cases result <;> simp [bind, Except.bind]

/-- The first of two stages that fails is the one reported. -/
theorem bind_eq_error_iff {next : α → Except ε β} {e : ε} :
    result >>= next = .error e ↔
      result = .error e ∨ ∃ first, result = .ok first ∧ next first = .error e := by
  cases result <;> simp [bind, Except.bind]

theorem mapError_eq_ok_iff {f : ε → δ} {value : α} :
    result.mapError f = .ok value ↔ result = .ok value := by
  cases result <;> simp [Except.mapError]

theorem mapError_eq_error_iff {f : ε → δ} {e : δ} :
    result.mapError f = .error e ↔ ∃ cause, result = .error cause ∧ f cause = e := by
  cases result <;> simp [Except.mapError]

theorem toOption_eq_some_iff {value : α} :
    result.toOption = some value ↔ result = .ok value := by
  cases result <;> simp [Except.toOption]

/-- Why a result is missing, if it is. -/
def failureOf? : Except ε α → Option ε
  | .ok _ => none
  | .error e => some e

theorem failureOf?_eq_some_iff {e : ε} : failureOf? result = some e ↔ result = .error e := by
  cases result <;> simp [failureOf?]

end Results

section MapM

variable {α β γ ε : Type} {items : List α}

/-- A list is read as another if each item is read as the one in its place. -/
theorem mapM_eq_ok_iff {f : α → Except ε β} {results : List β} :
    items.mapM f = .ok results ↔ items.map f = results.map .ok := by
  induction items generalizing results with
  | nil => cases results <;> simp [pure, Except.pure]
  | cons item items ih =>
      rw [List.mapM_cons, List.map_cons]
      cases results with
      | nil => cases f item <;> cases items.mapM f <;> simp [bind, Except.bind, pure, Except.pure]
      | cons result results =>
          rw [List.map_cons, List.cons.injEq, ← ih]
          cases f item <;> cases items.mapM f <;> simp [bind, Except.bind, pure, Except.pure]

theorem mapM_eq_some_iff {f : α → Option β} {results : List β} :
    items.mapM f = some results ↔ items.map f = results.map some := by
  induction items generalizing results with
  | nil => cases results <;> simp
  | cons item items ih =>
      rw [List.mapM_cons, List.map_cons]
      cases results with
      | nil => cases f item <;> cases items.mapM f <;> simp
      | cons result results =>
          rw [List.map_cons, List.cons.injEq, ← ih]
          cases f item <;> cases items.mapM f <;> simp

theorem exists_map_eq_map_iff {f : α → γ} {g : β → γ} :
    (∃ results : List β, items.map f = results.map g) ↔
      ∀ item ∈ items, ∃ result, f item = g result := by
  constructor
  · rintro ⟨results, read⟩ item member
    have listed : f item ∈ results.map g := read ▸ List.mem_map_of_mem member
    obtain ⟨result, -, same⟩ := List.mem_map.mp listed
    exact ⟨result, same.symm⟩
  · intro each
    induction items with
    | nil => exact ⟨[], rfl⟩
    | cons item items ih =>
        obtain ⟨result, here⟩ := each item List.mem_cons_self
        obtain ⟨results, rest⟩ :=
          ih fun other member => each other (List.mem_cons_of_mem item member)
        exact ⟨result :: results, by simp [here, rest]⟩

end MapM

end ShortcodeExpansion
