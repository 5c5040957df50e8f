import ShortcodeExpansion.Yaml.Token

/-!
# Nodes of a YAML document

A document is a tree of scalars, sequences and mappings.  A node may carry an anchor, which is
numbered, and a tag; an alias refers to the node with an anchor's number.
-/

set_option autoImplicit false

namespace ShortcodeExpansion.Yaml

/-- What may stand before a node's content. -/
structure Properties where
  anchor : Option Nat := none
  tag : Option String := none
deriving DecidableEq, Repr, Inhabited

inductive Node where
  | alias (target : Nat)
  | scalar (properties : Properties) (style : ScalarStyle) (text : String)
  | sequence (properties : Properties) (items : List Node)
  | mapping (properties : Properties) (pairs : List (Node × Node))
deriving Repr

namespace Node

/-- What is left out. -/
def empty : Node := .scalar {} .plain ""

instance : Inhabited Node := ⟨empty⟩

def ownAnchor (node : Node) : Properties → List (Nat × Node)
  | ⟨some number, _⟩ => [(number, node)]
  | ⟨none, _⟩ => []

mutual

/-- The anchored nodes of a tree, outer ones before inner ones. -/
def anchored : Node → List (Nat × Node)
  | .alias _ => []
  | .scalar p style text => ownAnchor (.scalar p style text) p
  | .sequence p items => ownAnchor (.sequence p items) p ++ anchoredItems items
  | .mapping p pairs => ownAnchor (.mapping p pairs) p ++ anchoredPairs pairs

def anchoredItems : List Node → List (Nat × Node)
  | [] => []
  | item :: rest => anchored item ++ anchoredItems rest

def anchoredPairs : List (Node × Node) → List (Nat × Node)
  | [] => []
  | (key, value) :: rest => anchored key ++ anchored value ++ anchoredPairs rest

end

end Node

/-- A tree with the nodes that its aliases refer to. -/
structure Document where
  root : Node
  anchored : List (Nat × Node)

namespace Document

def ofRoot (root : Node) : Document := ⟨root, root.anchored⟩

/-- The node that stands for a node: what an alias refers to, or the node itself.  Of nodes whose
anchors have one number it is the last. -/
def follow? (d : Document) : Node → Option Node
  | .alias target => (d.anchored.reverse.find? fun entry => entry.1 = target).map (·.2)
  | node => some node

end Document

end ShortcodeExpansion.Yaml
