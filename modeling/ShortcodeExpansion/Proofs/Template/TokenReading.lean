import ShortcodeExpansion.Template.Pattern

/-!
# How a template reads

A template is read from left to right: a `*` is a wildcard, a maximal run of blank characters is one
blank token, and every other character is a literal.  The rules leave one reading for each template,
and it is the one that `patternTokens` gives.
-/

set_option autoImplicit false

namespace ShortcodeExpansion.Template

/-- The rules by which a template reads as tokens. -/
inductive TokenReading : List Char → List PatternToken → Prop where
  | nil : TokenReading [] []
  | wildcard {rest : List Char} {tokens : List PatternToken} (reads : TokenReading rest tokens) :
      TokenReading ('*' :: rest) (.wildcard :: tokens)
  /-- The run is not empty, and what follows it does not start with a blank character. -/
  | blanks {run rest : List Char} {tokens : List PatternToken} (some : run ≠ [])
      (blank : ∀ c ∈ run, isBlankChar c = true) (maximal : ∀ c ∈ rest.head?, isBlankChar c = false)
      (reads : TokenReading rest tokens) : TokenReading (run ++ rest) (.blanks :: tokens)
  | literal {c : Char} {rest : List Char} {tokens : List PatternToken} (plain : c ≠ '*')
      (solid : isBlankChar c = false) (reads : TokenReading rest tokens) :
      TokenReading (c :: rest) (.literal c :: tokens)

theorem ne_wildcard_of_blank {c : Char} (blank : isBlankChar c = true) : c ≠ wildcard := by
  rintro rfl
  exact absurd blank (by decide)

/-- Inside a run, further blank characters add no token. -/
theorem patternTokensFrom_run {run : List Char} (blank : ∀ c ∈ run, isBlankChar c = true)
    (rest : List Char) : patternTokensFrom true (run ++ rest) = patternTokensFrom true rest := by
  induction run with
  | nil => rfl
  | cons c run ih =>
      have here : isBlankChar c = true := blank c List.mem_cons_self
      have solid := ne_wildcard_of_blank here
      simp only [List.cons_append, patternTokensFrom, solid, here, if_true, if_false]
      exact ih fun d member => blank d (List.mem_cons_of_mem c member)

/-- After a run that is maximal, reading goes on afresh. -/
theorem patternTokensFrom_after_run {rest : List Char}
    (maximal : ∀ c ∈ rest.head?, isBlankChar c = false) :
    patternTokensFrom true rest = patternTokensFrom false rest := by
  cases rest with
  | nil => rfl
  | cons c rest =>
      have solid : isBlankChar c = false := maximal c rfl
      simp [patternTokensFrom, solid]

/-- A blank template is one run, or empty. -/
theorem patternTokens_of_blank {template : List Char}
    (blank : ∀ c ∈ template, isBlankChar c = true) :
    patternTokens template = [] ∨ patternTokens template = [.blanks] := by
  cases template with
  | nil => exact .inl rfl
  | cons c rest =>
      have here := blank c List.mem_cons_self
      have run := patternTokensFrom_run (fun d later => blank d (List.mem_cons_of_mem c later)) []
      rw [List.append_nil] at run
      simp [patternTokens, patternTokensFrom, ne_wildcard_of_blank here, here, run]

theorem TokenReading.eq_patternTokens {template : List Char} {tokens : List PatternToken}
    (reads : TokenReading template tokens) : tokens = patternTokens template := by
  induction reads with
  | nil => rfl
  | wildcard _ ih =>
      rw [ih]
      rfl
  | @blanks run rest tokens some blank maximal _ ih =>
      cases run with
      | nil => exact absurd rfl some
      | cons c run =>
          have here : isBlankChar c = true := blank c List.mem_cons_self
          have solid := ne_wildcard_of_blank here
          have run_rest : patternTokensFrom true (run ++ rest) = patternTokensFrom false rest := by
            rw [patternTokensFrom_run fun d member => blank d (List.mem_cons_of_mem c member),
              patternTokensFrom_after_run maximal]
          rw [ih]
          simp [patternTokens, patternTokensFrom, solid, here, run_rest]
  | literal plain solid _ ih =>
      have plain : _ ≠ Template.wildcard := plain
      rw [ih]
      simp [patternTokens, patternTokensFrom, plain, solid]

theorem tokenReading_patternTokens (template : List Char) :
    TokenReading template (patternTokens template) := by
  induction length : template.length using Nat.strongRecOn generalizing template with
  | ind n ih =>
      cases template with
      | nil => exact .nil
      | cons c rest =>
          simp only [List.length_cons] at length
          by_cases star : c = wildcard
          · subst star
            exact .wildcard (ih rest.length (by omega) rest rfl)
          · cases solid : isBlankChar c with
            | false =>
                have reads := ih rest.length (by omega) rest rfl
                have tokens : patternTokens (c :: rest) = .literal c :: patternTokens rest := by
                  simp [patternTokens, patternTokensFrom, star, solid]
                rw [tokens]
                exact .literal star solid reads
            | true =>
                have split : (c :: rest.takeWhile isBlankChar) ++ rest.dropWhile isBlankChar =
                    c :: rest := by simp [List.takeWhile_append_dropWhile]
                have blank : ∀ d ∈ c :: rest.takeWhile isBlankChar, isBlankChar d = true := by
                  intro d member
                  rcases List.mem_cons.mp member with rfl | member
                  · exact solid
                  · exact List.all_eq_true.mp List.all_takeWhile d member
                have maximal : ∀ d ∈ (rest.dropWhile isBlankChar).head?, isBlankChar d = false := by
                  intro d member
                  have stopped := List.head?_dropWhile_not isBlankChar rest
                  rw [Option.mem_def] at member
                  simpa [member] using stopped
                have shorter : (rest.dropWhile isBlankChar).length ≤ rest.length :=
                  (List.dropWhile_suffix isBlankChar).length_le
                have reads := ih _ (by omega) (rest.dropWhile isBlankChar) rfl
                have whole := TokenReading.blanks (by simp) blank maximal reads
                rw [split] at whole
                rw [← whole.eq_patternTokens]
                exact whole

/-- A template has one reading. -/
theorem tokenReading_iff {template : List Char} {tokens : List PatternToken} :
    TokenReading template tokens ↔ tokens = patternTokens template := by
  constructor
  · exact TokenReading.eq_patternTokens
  · rintro rfl
    exact tokenReading_patternTokens template

/-- A template has as many wildcards as asterisks. -/
theorem TokenReading.count_wildcard {template : List Char} {tokens : List PatternToken}
    (reads : TokenReading template tokens) : tokens.count .wildcard = template.count '*' := by
  induction reads with
  | nil => rfl
  | wildcard _ ih => simp [ih]
  | @blanks run rest tokens _ blank _ _ ih =>
      have none : run.count '*' = 0 := by
        rw [List.count_eq_zero]
        intro member
        exact ne_wildcard_of_blank (blank _ member) rfl
      simp [ih, none]
  | literal plain _ _ ih => simp [ih, plain]

theorem TokenReading.length_le {template : List Char} {tokens : List PatternToken}
    (reads : TokenReading template tokens) : tokens.length ≤ template.length := by
  induction reads with
  | nil => exact Nat.le_refl 0
  | wildcard _ ih => exact Nat.succ_le_succ ih
  | blanks some _ _ _ ih =>
      have one := List.length_pos_iff.mpr some
      simp only [List.length_cons, List.length_append]
      omega
  | literal _ _ _ ih => exact Nat.succ_le_succ ih

theorem TokenReading.eq_nil {template : List Char} (reads : TokenReading template []) :
    template = [] := by
  cases reads
  rfl

/-- A template that an asterisk closes is closed by a wildcard. -/
theorem TokenReading.getLast?_wildcard {template : List Char} {tokens : List PatternToken}
    (reads : TokenReading template tokens) (closed : template.getLast? = some '*') :
    tokens.getLast? = some .wildcard := by
  have later : ∀ {rest : List Char} {token : PatternToken} {tokens : List PatternToken},
      TokenReading rest tokens → rest ≠ [] → tokens.getLast? = some .wildcard →
        (token :: tokens).getLast? = some .wildcard := by
    intro rest token tokens reads more last
    rw [List.getLast?_cons_of_ne_nil fun none => more (none ▸ reads).eq_nil]
    exact last
  induction reads with
  | nil => simp at closed
  | @wildcard rest tokens reads ih =>
      cases rest with
      | nil =>
          rw [reads.eq_patternTokens]
          rfl
      | cons c rest => exact later reads (by simp) (ih (by simpa using closed))
  | @blanks run rest tokens _ blank _ reads ih =>
      cases rest with
      | nil =>
          rw [List.append_nil] at closed
          exact absurd rfl (ne_wildcard_of_blank (blank '*' (List.mem_of_getLast? closed)))
      | cons c rest => exact later reads (by simp) (ih (by simpa using closed))
  | @literal c rest tokens plain _ reads ih =>
      cases rest with
      | nil => exact absurd (by simpa using closed) plain
      | cons d rest => exact later reads (by simp) (ih (by simpa using closed))

end ShortcodeExpansion.Template
