import ShortcodeExpansion.Proofs.Template.Decomposition
import ShortcodeExpansion.Proofs.Template.PatternMeaning

/-!
# Ways through a template's items are decompositions

The ways through the items of a template, the preferred first, are the decompositions of the text
that is left, the preferred first.  A way ends after the pieces of its decomposition, and the groups
it notes are the places of the wildcards' pieces.
-/

set_option autoImplicit false

namespace ShortcodeExpansion

namespace Regex

/-! ## Over a piece of text -/

/-- Over the next characters. -/
def Attempt.over (a : Attempt) (piece : List Char) : Attempt :=
  ⟨piece.getLast?.or a.before, a.pos + piece.length, a.rest.drop piece.length, a.slots⟩

theorem Attempt.over_nil (a : Attempt) : a.over [] = a := by simp [Attempt.over]

theorem Attempt.over_over (a : Attempt) (piece more : List Char) :
    (a.over piece).over more = a.over (piece ++ more) := by
  simp only [Attempt.over, List.getLast?_append, List.length_append, List.drop_drop,
    Option.or_assoc, Nat.add_assoc]

theorem Attempt.over_cons {a : Attempt} {c : Char} {rest : List Char}
    (remaining : a.rest = c :: rest) : a.over [c] = ⟨some c, a.pos + 1, rest, a.slots⟩ := by
  simp [Attempt.over, remaining]

theorem Attempt.consume?_cons {a : Attempt} {c : Char} {rest : List Char}
    (remaining : a.rest = c :: rest) (chars : CharSet) :
    a.consume? chars = if chars.contains c then some (a.over [c]) else none := by
  rw [Attempt.over_cons remaining]
  simp only [Attempt.consume?, remaining]

/-- A run passes over the prefixes of the characters that belong to the set. -/
theorem Attempt.run_eq (chars : CharSet) (rest : List Char) :
    ∀ a : Attempt, a.rest = rest →
      a.run chars = (rest.takeWhile chars.contains).inits.map a.over := by
  induction rest with
  | nil =>
      intro a remaining
      have here : (⟨a.before, a.pos, [], a.slots⟩ : Attempt) = a := by rw [← remaining]
      simp [Attempt.run, remaining, runPlaces, Attempt.over_nil, here, List.inits]
  | cons c rest ih =>
      intro a remaining
      have here : (⟨a.before, a.pos, c :: rest, a.slots⟩ : Attempt) = a := by rw [← remaining]
      by_cases belongs : chars.contains c = true
      · have further := ih (a.over [c]) (by simp [Attempt.over, remaining])
        rw [Attempt.run, Attempt.over_cons remaining] at further
        simp only [Attempt.run, remaining, runPlaces, belongs, if_true, List.takeWhile_cons,
          List.inits_cons, List.map_cons, List.map_map, Attempt.over_nil, here]
        rw [further, ← Attempt.over_cons remaining]
        congr 1
        refine List.map_congr_left fun piece _ => ?_
        rw [Attempt.over_over]
        rfl
      · simp [Attempt.run, remaining, runPlaces, belongs, here, Attempt.over_nil]

end Regex

namespace Template

open Regex

/-! ## One token -/

/-- Past a piece of text that fits a token; a wildcard notes where the piece starts and ends. -/
def PatternToken.past (index : Nat) (a : Attempt) (piece : List Char) : PatternToken → Attempt
  | .wildcard => ((a.note (2 * index)).over piece).note (2 * index + 1)
  | _ => a.over piece

theorem PatternToken.past_rest (index : Nat) (a : Attempt) (piece : List Char)
    (token : PatternToken) : (token.past index a piece).rest = a.rest.drop piece.length := by
  cases token <;> rfl

theorem PatternToken.past_pos (index : Nat) (a : Attempt) (piece : List Char)
    (token : PatternToken) : (token.past index a piece).pos = a.pos + piece.length := by
  cases token <;> rfl

theorem rowWays_blanks (a : Attempt) :
    rowWays [.single blankSet, .loop blankSet true] a =
      ((a.rest.takeWhile isBlankChar).inits.drop 1).reverse.map a.over := by
  cases remaining : a.rest with
  | nil => simp [rowWays, Item.ways, Attempt.consume?, remaining, List.inits]
  | cons c rest =>
      have blank : (fun d => isBlankChar d) = blankSet.contains := rfl
      simp only [rowWays, Item.ways, Attempt.consume?_cons remaining, List.takeWhile_cons,
        List.flatMap_singleton']
      by_cases belongs : blankSet.contains c = true
      · have run := Attempt.run_eq blankSet rest (a.over [c]) (by simp [Attempt.over, remaining])
        have same : isBlankChar c = true := belongs
        simp only [belongs, same, if_true, Option.toList_some, List.flatMap_cons, List.flatMap_nil,
          List.append_nil, run, List.inits_cons, List.drop_one, List.tail_cons, List.map_reverse,
          List.map_map]
        congr 1
        refine List.map_congr_left fun piece _ => ?_
        rw [Attempt.over_over]
        rfl
      · have same : isBlankChar c = false := by simpa [isBlankChar] using belongs
        simp [belongs, same, List.inits]

/-- The ways of a token's items pass over the pieces that fit the token. -/
theorem PatternToken.rowWays_items (index : Nat) (last : Bool) (token : PatternToken)
    (a : Attempt) : rowWays (token.items index last) a =
      (token.pieces last a.rest).map fun piece => token.past index a piece := by
  cases token with
  | literal c =>
      cases remaining : a.rest with
      | nil => simp [PatternToken.items, PatternToken.pieces, rowWays, Item.ways, Attempt.consume?,
          remaining]
      | cons d rest =>
          simp only [PatternToken.items, PatternToken.pieces, rowWays, Item.ways,
            Attempt.consume?_cons remaining, CharSet.contains_singleton, List.head?_cons]
          by_cases same : d = c <;> simp [same, PatternToken.past]
  | blanks => exact rowWays_blanks a
  | wildcard =>
      have everything : a.rest.takeWhile CharSet.all.contains = a.rest := by
        have run := @List.takeWhile_append_of_pos _ CharSet.all.contains a.rest []
          fun c _ => CharSet.contains_all c
        rwa [List.append_nil, List.takeWhile_nil, List.append_nil] at run
      have run := Attempt.run_eq .all a.rest (a.note (2 * index)) rfl
      rw [everything] at run
      have noted : ∀ ways : List Attempt, ways.flatMap (fun b => [b.note (2 * index + 1)]) =
          ways.map (·.note (2 * index + 1)) := fun ways => List.map_eq_flatMap.symm
      cases last <;> simp [PatternToken.items, PatternToken.pieces, rowWays, Item.ways, run,
        PatternToken.past, noted]

/-! ## All tokens -/

/-- Past the pieces of a decomposition, one for each token. -/
def pastAll : Nat → List PatternToken → Attempt → List (List Char) → Attempt
  | index, token :: tokens, a, piece :: pieces =>
      pastAll (index + token.groupCount) tokens (token.past index a piece) pieces
  | _, _, a, _ => a

/-- The ways of a template's items are the decompositions of the text, in the order of both. -/
theorem rowWays_tokenItems (tokens : List PatternToken) :
    ∀ (index : Nat) (a : Attempt), rowWays (tokenItems index tokens) a =
      (decompositions tokens a.rest).map (pastAll index tokens a) := by
  induction tokens with
  | nil => intro index a; simp [tokenItems, rowWays, decompositions, pastAll]
  | cons token tokens ih =>
      intro index a
      rw [tokenItems, rowWays_append, token.rowWays_items, decompositions, List.flatMap_map,
        List.map_flatMap]
      congr 1
      funext piece
      rw [ih, token.past_rest, List.map_map]
      rfl

theorem pastAll_pos {tokens : List PatternToken} {pieces : List (List Char)} {text : List Char}
    (decomposes : Decomposes tokens pieces text) :
    ∀ (index : Nat) (a : Attempt),
      (pastAll index tokens a pieces).pos = a.pos + pieces.flatten.length := by
  induction decomposes with
  | nil => intro index a; simp [pastAll]
  | cons _ _ ih =>
      intro index a
      rw [pastAll, ih, PatternToken.past_pos, List.flatten_cons, List.length_append, Nat.add_assoc]

/-! ## Groups -/

theorem slot?_cons (slots : List (Nat × Nat)) (noted pos slot : Nat) :
    slot? ((noted, pos) :: slots) slot = if noted = slot then some pos else slot? slots slot := by
  by_cases same : noted = slot <;> simp [slot?, same]

/-- Of the slots of later groups nothing is noted by a token. -/
theorem PatternToken.past_slot? {index slot : Nat} (a : Attempt) (piece : List Char)
    (token : PatternToken) (other : slot < 2 * index ∨ 2 * (index + token.groupCount) ≤ slot) :
    slot? (token.past index a piece).slots slot = slot? a.slots slot := by
  cases token with
  | literal c => rfl
  | blanks => rfl
  | wildcard =>
      simp only [PatternToken.groupCount] at other
      have start : 2 * index ≠ slot := by omega
      have stop : 2 * index + 1 ≠ slot := by omega
      simp only [PatternToken.past, Attempt.note, Attempt.over, slot?_cons, if_neg start,
        if_neg stop]

theorem pastAll_slot?_earlier {slot : Nat} (tokens : List PatternToken) :
    ∀ {index : Nat} (a : Attempt) (pieces : List (List Char)), slot < 2 * index →
      slot? (pastAll index tokens a pieces).slots slot = slot? a.slots slot := by
  induction tokens with
  | nil => intro index a pieces _; rfl
  | cons token tokens ih =>
      intro index a pieces earlier
      cases pieces with
      | nil => rfl
      | cons piece pieces =>
          rw [pastAll, ih _ _ (by omega), token.past_slot? a piece (.inl earlier)]

/-- The groups of a template are noted at the places of the wildcards' pieces. -/
theorem pastAll_slot? (tokens : List PatternToken) :
    ∀ (index : Nat) (a : Attempt) (pieces : List (List Char)),
      (∀ slot, 2 * index ≤ slot → slot? a.slots slot = none) → ∀ k : Nat,
      slot? (pastAll index tokens a pieces).slots (2 * (index + k)) =
          (captureSpans a.pos tokens pieces)[k]?.map (·.1) ∧
        slot? (pastAll index tokens a pieces).slots (2 * (index + k) + 1) =
          (captureSpans a.pos tokens pieces)[k]?.map (·.2) := by
  induction tokens with
  | nil =>
      intro index a pieces fresh k
      simp [pastAll, captureSpans, fresh (2 * (index + k)) (by omega),
        fresh (2 * (index + k) + 1) (by omega)]
  | cons token tokens ih =>
      intro index a pieces fresh k
      cases pieces with
      | nil =>
          simp [pastAll, captureSpans, fresh (2 * (index + k)) (by omega),
            fresh (2 * (index + k) + 1) (by omega)]
      | cons piece pieces =>
          have later := ih (index + token.groupCount) (token.past index a piece) pieces
            fun slot far => by
              rw [token.past_slot? a piece (.inr far)]
              exact fresh slot (by omega)
          rw [token.past_pos] at later
          cases token with
          | literal c => exact later k
          | blanks => exact later k
          | wildcard =>
              cases k with
              | zero =>
                  simp only [pastAll, PatternToken.groupCount, captureSpans, Nat.add_zero,
                    List.getElem?_cons_zero, Option.map_some]
                  rw [pastAll_slot?_earlier tokens _ _ (by omega),
                    pastAll_slot?_earlier tokens _ _ (by omega)]
                  simp [PatternToken.past, Attempt.note, Attempt.over, slot?_cons]
              | succ k =>
                  have next := later k
                  have shift : index + PatternToken.wildcard.groupCount + k = index + (k + 1) := by
                    simp only [PatternToken.groupCount]
                    omega
                  rw [shift] at next
                  simpa [pastAll, captureSpans] using next

end Template

end ShortcodeExpansion
