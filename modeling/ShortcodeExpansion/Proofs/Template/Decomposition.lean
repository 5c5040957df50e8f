import Mathlib.Data.List.Infix
import ShortcodeExpansion.Template.Pattern

/-!
# Decompositions of a text by a template

A template matches where a text begins with pieces that fit the template's tokens one by one.  Of
two such decompositions the one is preferred that, at the first token where they differ, takes the
longer piece, or the shorter one if the token is a wildcard that does not close the template.  All
decompositions can be listed in that order, so there is a first one whenever there is one at all.
-/

set_option autoImplicit false

namespace ShortcodeExpansion.Template

/-- A piece of a text fits a token. -/
def PatternToken.Fits : PatternToken → List Char → Prop
  | .wildcard, _ => True
  | .blanks, piece => piece ≠ [] ∧ ∀ c ∈ piece, isBlankChar c = true
  | .literal c, piece => piece = [c]

/-- A text begins with pieces that fit tokens, one piece for each token. -/
inductive Decomposes : List PatternToken → List (List Char) → List Char → Prop where
  | nil (text : List Char) : Decomposes [] [] text
  | cons {token : PatternToken} {tokens : List PatternToken} {piece : List Char}
      {pieces : List (List Char)} {rest : List Char} (fits : token.Fits piece)
      (more : Decomposes tokens pieces rest) :
      Decomposes (token :: tokens) (piece :: pieces) (piece ++ rest)

/-- One piece is preferred to another for a token; `last` tells that no token follows. -/
def PatternToken.Prefers (last : Bool) : PatternToken → List Char → List Char → Prop
  | .wildcard, piece, other =>
      if last then other.length < piece.length else piece.length < other.length
  | .blanks, piece, other => other.length < piece.length
  | .literal _, _, _ => False

/-- One decomposition is preferred to another: it is at the first token where they differ. -/
inductive Precedes : List PatternToken → List (List Char) → List (List Char) → Prop where
  | here {token : PatternToken} {tokens : List PatternToken} {piece other : List Char}
      {pieces others : List (List Char)} (prefers : token.Prefers tokens.isEmpty piece other) :
      Precedes (token :: tokens) (piece :: pieces) (other :: others)
  | later {token : PatternToken} {tokens : List PatternToken} {piece : List Char}
      {pieces others : List (List Char)} (more : Precedes tokens pieces others) :
      Precedes (token :: tokens) (piece :: pieces) (piece :: others)

/-- The decomposition of a text that is preferred to all others. -/
structure IsPreferred (tokens : List PatternToken) (pieces : List (List Char)) (text : List Char) :
    Prop where
  decomposes : Decomposes tokens pieces text
  first : ∀ other, Decomposes tokens other text → other = pieces ∨ Precedes tokens pieces other

/-- Where the pieces of the wildcards start and end, if the first piece starts at a position. -/
def captureSpans : Nat → List PatternToken → List (List Char) → List (Nat × Nat)
  | pos, .wildcard :: tokens, piece :: pieces =>
      (pos, pos + piece.length) :: captureSpans (pos + piece.length) tokens pieces
  | pos, _ :: tokens, piece :: pieces => captureSpans (pos + piece.length) tokens pieces
  | _, _, _ => []

/-- The pieces of the wildcards. -/
def captures : List PatternToken → List (List Char) → List (List Char)
  | .wildcard :: tokens, piece :: pieces => piece :: captures tokens pieces
  | _ :: tokens, _ :: pieces => captures tokens pieces
  | _, _ => []

/-! ## The pieces of one token -/

/-- The pieces at the start of a text that fit a token, the preferred first. -/
def PatternToken.pieces (last : Bool) : PatternToken → List Char → List (List Char)
  | .wildcard, text => if last then text.inits.reverse else text.inits
  | .blanks, text => ((text.takeWhile isBlankChar).inits.drop 1).reverse
  | .literal c, text => if text.head? = some c then [[c]] else []

/-- The prefixes of a text grow. -/
theorem inits_pairwise (text : List Char) :
    text.inits.Pairwise fun piece other => piece.length < other.length := by
  induction text with
  | nil => simp [List.inits]
  | cons c text ih =>
      rw [List.inits_cons, List.pairwise_cons, List.pairwise_map]
      refine ⟨fun piece member => ?_, ?_⟩
      · obtain ⟨shorter, _, rfl⟩ := List.mem_map.mp member
        simp
      · exact ih.imp fun longer => by simpa using longer

theorem prefix_takeWhile_iff {piece text : List Char} (p : Char → Bool) :
    piece <+: text.takeWhile p ↔ piece <+: text ∧ ∀ c ∈ piece, p c = true := by
  constructor
  · intro isPrefix
    refine ⟨isPrefix.trans (List.takeWhile_prefix p), fun c member => ?_⟩
    exact List.all_eq_true.mp List.all_takeWhile c (isPrefix.subset member)
  · rintro ⟨⟨rest, rfl⟩, holds⟩
    rw [List.takeWhile_append_of_pos holds]
    exact List.prefix_append piece _

theorem PatternToken.mem_pieces_iff {last : Bool} {token : PatternToken} {text piece : List Char} :
    piece ∈ token.pieces last text ↔ token.Fits piece ∧ piece <+: text := by
  cases token with
  | wildcard => cases last <;> simp [PatternToken.pieces, PatternToken.Fits]
  | blanks =>
      have tail : piece ∈ (text.takeWhile isBlankChar).inits.drop 1 ↔
          piece ≠ [] ∧ piece <+: text.takeWhile isBlankChar := by
        cases text.takeWhile isBlankChar with
        | nil => simp [List.inits]
        | cons c run =>
            rw [List.inits_cons, ← List.mem_inits, List.inits_cons]
            cases piece <;> simp
      simp only [PatternToken.pieces, List.mem_reverse, tail, prefix_takeWhile_iff,
        PatternToken.Fits]
      tauto
  | literal c =>
      cases text with
      | nil =>
          simp only [PatternToken.pieces, PatternToken.Fits]
          constructor
          · simp
          · rintro ⟨rfl, isPrefix⟩
            simp at isPrefix
      | cons d text =>
          simp only [PatternToken.pieces, PatternToken.Fits, List.head?_cons, Option.some.injEq]
          by_cases same : d = c
          · subst same
            simp only [if_true, List.mem_singleton]
            constructor
            · rintro rfl
              exact ⟨rfl, by simp⟩
            · exact fun fits => fits.1
          · simp only [if_neg same, List.not_mem_nil, false_iff]
            rintro ⟨rfl, isPrefix⟩
            simp only [List.cons_prefix_cons] at isPrefix
            exact same isPrefix.1.symm

theorem PatternToken.pieces_pairwise (last : Bool) (token : PatternToken) (text : List Char) :
    (token.pieces last text).Pairwise (token.Prefers last) := by
  cases token with
  | wildcard =>
      cases last with
      | false => exact (inits_pairwise text).imp fun shorter => by simpa [PatternToken.Prefers]
      | true =>
          simpa [PatternToken.pieces, PatternToken.Prefers, List.pairwise_reverse] using
            inits_pairwise text
  | blanks =>
      simp only [PatternToken.pieces, PatternToken.Prefers, List.pairwise_reverse]
      exact (inits_pairwise _).drop
  | literal c =>
      simp only [PatternToken.pieces]
      split <;> simp

/-! ## All decompositions -/

/-- The decompositions of a text, the preferred first. -/
def decompositions : List PatternToken → List Char → List (List (List Char))
  | [], _ => [[]]
  | token :: tokens, text =>
      (token.pieces tokens.isEmpty text).flatMap fun piece =>
        (decompositions tokens (text.drop piece.length)).map (piece :: ·)

theorem mem_decompositions_iff (tokens : List PatternToken) :
    ∀ {pieces : List (List Char)} {text : List Char},
      pieces ∈ decompositions tokens text ↔ Decomposes tokens pieces text := by
  induction tokens with
  | nil =>
      intro pieces text
      simp only [decompositions, List.mem_singleton]
      constructor
      · rintro rfl
        exact .nil text
      · intro decomposes
        cases decomposes
        rfl
  | cons token tokens ih =>
      intro pieces text
      simp only [decompositions, List.mem_flatMap, List.mem_map, PatternToken.mem_pieces_iff]
      constructor
      · rintro ⟨piece, ⟨fits, rest, rfl⟩, later, member, rfl⟩
        rw [List.drop_left] at member
        exact .cons fits (ih.mp member)
      · intro decomposes
        cases decomposes with
        | @cons _ _ piece later rest fits more =>
            refine ⟨piece, ⟨fits, List.prefix_append piece rest⟩, later, ?_, rfl⟩
            rw [List.drop_left]
            exact ih.mpr more

theorem decompositions_pairwise (tokens : List PatternToken) :
    ∀ text : List Char, (decompositions tokens text).Pairwise (Precedes tokens) := by
  induction tokens with
  | nil => intro text; simp [decompositions]
  | cons token tokens ih =>
      intro text
      rw [decompositions, List.pairwise_flatMap]
      constructor
      · intro piece _
        rw [List.pairwise_map]
        exact (ih (text.drop piece.length)).imp .later
      · refine (token.pieces_pairwise tokens.isEmpty text).imp ?_
        intro _ _ prefers pieces member others among
        obtain ⟨more, _, rfl⟩ := List.mem_map.mp member
        obtain ⟨rest, _, rfl⟩ := List.mem_map.mp among
        exact .here prefers

/-- The decomposition listed first is the preferred one. -/
theorem isPreferred_of_head? {tokens : List PatternToken} {pieces : List (List Char)}
    {text : List Char} (head : (decompositions tokens text).head? = some pieces) :
    IsPreferred tokens pieces text := by
  obtain ⟨others, equal⟩ := List.head?_eq_some_iff.mp head
  have ordered := decompositions_pairwise tokens text
  rw [equal, List.pairwise_cons] at ordered
  constructor
  · rw [← mem_decompositions_iff, equal]
    exact List.mem_cons_self
  · intro other decomposes
    rw [← mem_decompositions_iff, equal] at decomposes
    rcases List.mem_cons.mp decomposes with same | later
    · exact .inl same
    · exact .inr (ordered.1 other later)

theorem not_decomposes_of_head? {tokens : List PatternToken} {text : List Char}
    (head : (decompositions tokens text).head? = none) (pieces : List (List Char)) :
    ¬ Decomposes tokens pieces text := by
  rw [← mem_decompositions_iff, List.head?_eq_none_iff.mp head]
  simp

/-! ## What a preferred decomposition takes -/

theorem Decomposes.eq_append {tokens : List PatternToken} {pieces : List (List Char)}
    {text : List Char} (decomposes : Decomposes tokens pieces text) :
    ∃ rest, text = pieces.flatten ++ rest := by
  induction decomposes with
  | nil text => exact ⟨text, rfl⟩
  | @cons _ _ piece pieces rest _ _ ih =>
      obtain ⟨after, split⟩ := ih
      refine ⟨after, ?_⟩
      rw [List.flatten_cons, List.append_assoc, ← split]

theorem PatternToken.Prefers.asymm {last : Bool} {token : PatternToken} {piece other : List Char}
    (prefers : token.Prefers last piece other) : ¬ token.Prefers last other piece := by
  cases token with
  | literal c => exact prefers.elim
  | blanks =>
      simp only [PatternToken.Prefers] at prefers ⊢
      omega
  | wildcard =>
      cases last <;>
        simp only [PatternToken.Prefers, if_true, Bool.false_eq_true, if_false] at prefers ⊢ <;>
        omega

theorem Precedes.asymm {tokens : List PatternToken} {pieces others : List (List Char)}
    (precedes : Precedes tokens pieces others) : ¬ Precedes tokens others pieces := by
  induction precedes with
  | here prefers =>
      intro reverse
      cases reverse with
      | here contrary => exact prefers.asymm contrary
      | later => exact prefers.asymm prefers
  | later _ ih =>
      intro reverse
      cases reverse with
      | here contrary => exact contrary.asymm contrary
      | later more => exact ih more

/-- A text that can be decomposed can be decomposed to its end, if a wildcard closes the template,
and a decomposition that does so is preferred to the one it was made from. -/
theorem Decomposes.extend {tokens : List PatternToken} {pieces : List (List Char)}
    {text : List Char} (decomposes : Decomposes tokens pieces text)
    (closed : tokens.getLast? = some .wildcard) :
    ∃ others, Decomposes tokens others text ∧ others.flatten = text ∧
      (others = pieces ∨ Precedes tokens others pieces) := by
  induction decomposes with
  | nil => simp at closed
  | @cons token tokens piece pieces rest fits more ih =>
      cases tokens with
      | nil =>
          cases more
          obtain rfl : token = .wildcard := by simpa using closed
          refine ⟨[piece ++ rest], ?_, by simp, ?_⟩
          · simpa using @Decomposes.cons .wildcard [] (piece ++ rest) [] [] trivial (.nil [])
          · cases rest with
            | nil => exact .inl (by simp)
            | cons c rest =>
                refine .inr (.here ?_)
                simp [PatternToken.Prefers]
      | cons next tokens =>
          obtain ⟨others, whole, all, order⟩ := ih (by simpa using closed)
          refine ⟨piece :: others, .cons fits whole, by simp [all], ?_⟩
          rcases order with rfl | before
          · exact .inl rfl
          · exact .inr (.later before)

/-- A template that a wildcard closes takes the text to its end. -/
theorem IsPreferred.flatten_eq {tokens : List PatternToken} {pieces : List (List Char)}
    {text : List Char} (preferred : IsPreferred tokens pieces text)
    (closed : tokens.getLast? = some .wildcard) : pieces.flatten = text := by
  obtain ⟨others, decomposes, all, order⟩ := preferred.decomposes.extend closed
  rcases order with rfl | before
  · exact all
  · rcases preferred.first others decomposes with rfl | after
    · exact all
    · exact absurd before after.asymm

/-- Only wildcards can take nothing. -/
theorem Decomposes.wildcards_of_flatten_eq_nil {tokens : List PatternToken}
    {pieces : List (List Char)} {text : List Char} (decomposes : Decomposes tokens pieces text)
    (empty : pieces.flatten = []) : ∀ token ∈ tokens, token = .wildcard := by
  induction decomposes with
  | nil => simp
  | @cons token tokens piece pieces rest fits _ ih =>
      rw [List.flatten_cons, List.append_eq_nil_iff] at empty
      obtain ⟨rfl, none⟩ := empty
      intro other member
      rcases List.mem_cons.mp member with rfl | member
      · cases other with
        | wildcard => rfl
        | blanks => exact absurd rfl fits.1
        | literal c => exact absurd fits (by simp [PatternToken.Fits])
      · exact ih none other member

/-- Where there is text left, the preferred decomposition takes some. -/
theorem IsPreferred.flatten_ne_nil {tokens : List PatternToken} {pieces : List (List Char)}
    {text : List Char} (preferred : IsPreferred tokens pieces text) (some : tokens ≠ [])
    (left : text ≠ []) : pieces.flatten ≠ [] := by
  intro empty
  have wildcards := preferred.decomposes.wildcards_of_flatten_eq_nil empty
  have closed : tokens.getLast? = .some .wildcard := by
    rw [List.getLast?_eq_some_getLast some, wildcards _ (List.getLast_mem some)]
  exact left ((preferred.flatten_eq closed).symm.trans empty)

/-- The captures are the parts of the text at the places of the captures. -/
theorem Decomposes.captures_eq {tokens : List PatternToken} {pieces : List (List Char)}
    {text : List Char} (decomposes : Decomposes tokens pieces text) :
    ∀ (whole : List Char) (start pos : Nat), start ≤ pos → text = whole.drop (pos - start) →
      (captureSpans pos tokens pieces).map (fun span =>
        (whole.drop (span.1 - start)).take (span.2 - span.1)) = captures tokens pieces := by
  induction decomposes with
  | nil => intro whole start pos _ _; simp [captureSpans, captures]
  | @cons token tokens piece pieces rest fits _ ih =>
      intro whole start pos after here
      have later := ih whole start (pos + piece.length) (by omega) (by
        have shift : pos + piece.length - start = pos - start + piece.length := by omega
        rw [shift, ← List.drop_drop, ← here, List.drop_left])
      cases token with
      | literal c => exact later
      | blanks => exact later
      | wildcard =>
          have length : pos + piece.length - pos = piece.length := by omega
          rw [captureSpans, captures, List.map_cons, later]
          simp only [← here, length, List.take_left]

end ShortcodeExpansion.Template
