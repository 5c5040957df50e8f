import ShortcodeExpansion.Proofs.Regex.Ways
import ShortcodeExpansion.Proofs.Template.PatternSyntax

/-!
# What the written pattern of a template means

The pattern of a template means one expression after another, one for each token, and is searched
for as a row of plain items.  Its groups are numbered from one on, in the order of the wildcards.
-/

set_option autoImplicit false

namespace ShortcodeExpansion

namespace Regex.Expr

/-- The indices of groups, in the order in which the groups open. -/
def groupIndices : Expr → List Nat
  | .group index _ body => index :: body.groupIndices
  | .seq a b => a.groupIndices ++ b.groupIndices
  | .alt a b => a.groupIndices ++ b.groupIndices
  | .rep _ _ _ body => body.groupIndices
  | .empty | .set _ | .look _ => []

theorem groupIndices_andThen (a b : Expr) :
    (a.andThen b).groupIndices = a.groupIndices ++ b.groupIndices := by
  cases a <;> cases b <;> simp [andThen, groupIndices]

theorem groupNames_andThen (a b : Expr) :
    (a.andThen b).groupNames = a.groupNames ++ b.groupNames := by
  cases a <;> cases b <;> simp [andThen, groupNames]

theorem layOut_andThen (a b : Expr) (after : List Item) :
    layOut (a.andThen b) after = layOut a (layOut b after) := by
  cases a <;> cases b <;> simp [andThen, layOut]

end Regex.Expr

namespace Template

open Regex

def PatternToken.expr (index : Nat) (last : Bool) : PatternToken → Expr
  | .literal c => .set (.singleton c)
  | .blanks => .rep 1 none true (.set blankSet)
  | .wildcard => .group index none (.rep 0 none last (.set .all))

/-- The expressions of tokens one after another. -/
def joinTokens (before : Expr) : Nat → List PatternToken → Expr
  | _, [] => before
  | index, token :: tokens =>
      joinTokens (before.andThen (token.expr index tokens.isEmpty)) (index + token.groupCount)
        tokens

def tokensExpr (tokens : List PatternToken) : Expr := joinTokens .empty 1 tokens

/-- The flags in force after the change that a pattern starts with. -/
def dotAllFlags : Flags := { dotMatchesNewLine := true }

theorem exprOf_tokenPart {index : Nat} {last : Bool} {token : PatternToken} {part : Ast}
    (read : TokenPart index last token part) :
    exprOf dotAllFlags part = .ok (token.expr index last, dotAllFlags) := by
  cases read with
  | literal c span => rfl
  | blanks span inner => rfl
  | wildcard span inner dot => cases last <;> rfl

theorem exprOfParts_tokenParts {index : Nat} {tokens : List PatternToken} {parts : List Ast}
    (read : TokenParts index tokens parts) :
    ∀ before : Expr, exprOfParts dotAllFlags before parts =
      .ok (joinTokens before index tokens, dotAllFlags) := by
  induction read with
  | nil => intro before; rfl
  | cons first _ ih =>
      intro before
      rw [exprOfParts, exprOf_tokenPart first]
      exact ih _

/-- The pattern of a template is valid and means the expressions of its tokens. -/
theorem readExpr_tokens (template : String) :
    readExpr (patternSource template false) = .ok (tokensExpr (patternTokens template.toList)) := by
  obtain ⟨ast, tree, read⟩ := readPattern_patternSource template
  generalize patternTokens template.toList = tokens at tree ⊢
  have meaning : exprOf {} ast = .ok (tokensExpr tokens, dotAllFlags) := by
    cases tree with
    | bare span => rfl
    | sequence outer span _ parts => exact exprOfParts_tokenParts parts .empty
  simp only [readExpr, read, meaning, bind, Except.bind]

/-! ## Groups -/

theorem PatternToken.expr_groupIndices (index : Nat) (last : Bool) (token : PatternToken) :
    (token.expr index last).groupIndices = List.range' index token.groupCount := by
  cases token <;> rfl

theorem PatternToken.expr_groupNames (index : Nat) (last : Bool) (token : PatternToken) :
    (token.expr index last).groupNames = [] := by
  cases token <;> rfl

theorem count_wildcard_cons (token : PatternToken) (tokens : List PatternToken) :
    (token :: tokens).count .wildcard = token.groupCount + tokens.count .wildcard := by
  cases token <;> simp [PatternToken.groupCount, Nat.add_comm]

theorem joinTokens_groupIndices (tokens : List PatternToken) :
    ∀ (before : Expr) (index : Nat), (joinTokens before index tokens).groupIndices =
      before.groupIndices ++ List.range' index (tokens.count .wildcard) := by
  induction tokens with
  | nil => intro before index; simp [joinTokens]
  | cons token tokens ih =>
      intro before index
      rw [joinTokens, ih, Expr.groupIndices_andThen, token.expr_groupIndices, count_wildcard_cons,
        List.append_assoc, List.range'_append_1]

theorem joinTokens_groupNames (tokens : List PatternToken) :
    ∀ (before : Expr) (index : Nat),
      (joinTokens before index tokens).groupNames = before.groupNames := by
  induction tokens with
  | nil => intro before index; rfl
  | cons token tokens ih =>
      intro before index
      rw [joinTokens, ih, Expr.groupNames_andThen, token.expr_groupNames, List.append_nil]

/-! ## Items -/

def PatternToken.items (index : Nat) (last : Bool) : PatternToken → List Item
  | .literal c => [.single (.singleton c)]
  | .blanks => [.single blankSet, .loop blankSet true]
  | .wildcard => [.slot (2 * index), .loop .all last, .slot (2 * index + 1)]

def tokenItems : Nat → List PatternToken → List Item
  | _, [] => []
  | index, token :: tokens =>
      token.items index tokens.isEmpty ++ tokenItems (index + token.groupCount) tokens

theorem PatternToken.layOut_expr (index : Nat) (last : Bool) (token : PatternToken)
    (after : List Item) :
    layOut (token.expr index last) after = token.items index last ++ after := by
  cases token <;> simp [PatternToken.expr, PatternToken.items, layOut]

theorem layOut_joinTokens (tokens : List PatternToken) :
    ∀ (before : Expr) (index : Nat),
      layOut (joinTokens before index tokens) [] = layOut before (tokenItems index tokens) := by
  induction tokens with
  | nil => intro before index; rfl
  | cons token tokens ih =>
      intro before index
      rw [joinTokens, ih, Expr.layOut_andThen, token.layOut_expr]
      rfl

theorem layout_tokensExpr (tokens : List PatternToken) :
    (tokensExpr tokens).layout = (tokenItems 1 tokens).zipIdx := by
  rw [Expr.layout, tokensExpr, layOut_joinTokens]
  rfl

theorem tokenItems_plain (tokens : List PatternToken) :
    ∀ index : Nat, ∀ item ∈ tokenItems index tokens, item.isPlain := by
  induction tokens with
  | nil => intro index item member; simp [tokenItems] at member
  | cons token tokens ih =>
      intro index item member
      rcases List.mem_append.mp member with here | later
      · cases token with
        | literal c =>
            simp only [PatternToken.items, List.mem_singleton] at here
            rw [here]
            rfl
        | blanks =>
            simp only [PatternToken.items, List.mem_cons, List.not_mem_nil, or_false] at here
            rcases here with rfl | rfl <;> rfl
        | wildcard =>
            simp only [PatternToken.items, List.mem_cons, List.not_mem_nil, or_false] at here
            rcases here with rfl | rfl | rfl <;> rfl
      · exact ih _ item later

end Template

end ShortcodeExpansion
