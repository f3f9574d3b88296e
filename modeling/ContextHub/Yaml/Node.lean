import ContextHub.Yaml.Token
/-!
# Nodes of a document

Scalars, sequences and mappings as the tokens give them, each with its properties. Anchors are
numbered by the count of names that were in use before them; an alias remembers the number that
its name had where it stands.
-/

namespace ContextHub.Yaml

/-- What stands before a node. -/
structure Properties where
  anchor : Option Nat := none
  tag : Option Tag := none
  deriving DecidableEq, Repr

def Properties.isEmpty (p : Properties) : Bool := p.anchor.isNone && p.tag.isNone

inductive Node where
  /-- An alias of the node with an anchor. -/
  | reference (anchor : Nat)
  | scalar (p : Properties) (style : Style) (text : List Char)
  | sequence (p : Properties) (items : List Node)
  | mapping (p : Properties) (entries : List (Node × Node))
  deriving Repr, Inhabited

namespace Node

/-- A node that is not there. -/
def empty : Node := scalar {} .plain []

def properties : Node → Properties
  | reference _ => {}
  | scalar p _ _ => p
  | sequence p _ => p
  | mapping p _ => p

/-! ## Size and anchors -/

mutual

/-- How many marks it takes to write a node down: one for a leaf, two around a collection. -/
def size (n : Node) : Nat :=
  match n with
  | reference _ => 1
  | scalar _ _ _ => 1
  | sequence _ items => 2 + sizes items
  | mapping _ entries => 2 + entrySizes entries
termination_by structural n

def sizes (items : List Node) : Nat :=
  match items with
  | [] => 0
  | n :: rest => size n + sizes rest
termination_by structural items

def entrySizes (entries : List (Node × Node)) : Nat :=
  match entries with
  | [] => 0
  | e :: rest => entrySize e + entrySizes rest
termination_by structural entries

def entrySize (e : Node × Node) : Nat :=
  match e with
  | (k, v) => size k + size v
termination_by structural e

end

/-- A node under its own anchor, if it has one. -/
def anchored (n : Node) : List (Nat × Node) :=
  match n.properties.anchor with
  | some i => [(i, n)]
  | none => []

mutual

/-- The nodes with anchors in a node, itself included, in the order of the text. -/
def anchors (n : Node) : List (Nat × Node) :=
  match n with
  | reference _ => []
  | scalar p style text => anchored (scalar p style text)
  | sequence p items => anchored (sequence p items) ++ allAnchors items
  | mapping p entries => anchored (mapping p entries) ++ entryAnchors entries
termination_by structural n

def allAnchors (items : List Node) : List (Nat × Node) :=
  match items with
  | [] => []
  | n :: rest => anchors n ++ allAnchors rest
termination_by structural items

def entryAnchors (entries : List (Node × Node)) : List (Nat × Node) :=
  match entries with
  | [] => []
  | e :: rest => pairAnchors e ++ entryAnchors rest
termination_by structural entries

def pairAnchors (e : Node × Node) : List (Nat × Node) :=
  match e with
  | (k, v) => anchors k ++ anchors v
termination_by structural e

end

end Node

end ContextHub.Yaml
