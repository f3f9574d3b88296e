import ContextHub.Yaml.Node
import ContextHub.Yaml.Scalar
/-!
# What nodes stand for

A plain scalar stands for what `resolve` says, any other for its text, unless a tag asks for a
flag, a number or nothing. A tag of the document's own makes a table with one entry, under the
tag's name. An alias stands for the latest node under its number. Collections may be nested 128
deep, and the aliases met may be a hundred times as many as the nodes.
-/

namespace ContextHub.Yaml

namespace Tag

/-- The name of a tag of the document's own; a lone exclamation mark is its own name. -/
def ownName? (t : Tag) : Option String :=
  match t with
  | [] => none
  | b :: rest =>
    if b = 0x21 then toString? (if rest.isEmpty then t else rest) else none

/-- The names of the kinds of scalars that a tag can ask for. -/
def kindName (kind : String) : Tag := ofString ("tag:yaml.org,2002:" ++ kind)

end Tag

/-- The text of a scalar under a tag that is not the document's own. -/
def tagged? (t : Tag) (s : String) : Option Setting :=
  if t = Tag.kindName "bool" then flag? s
  else if t = Tag.kindName "int" then whole? s.toList
  else if t = Tag.kindName "float" then decimal? s.toList
  else if t = Tag.kindName "null" then if isNull s then some .nothing else none
  else some (.text s)

namespace Node

/-- The value of a scalar; its tag counts unless `ignoresTag`. -/
def scalarSetting (ignoresTag : Bool) (t : Option Tag) (style : Style) (text : List Char) :
    Except Fault Setting :=
  let s := String.ofList text
  match if ignoresTag then none else t with
  | some t =>
    match tagged? t s with
    | some v => .ok v
    | none => .error .unfitTag
  | none => .ok (if style = .plain then resolve s else .text s)

/-- What is known while a document is interpreted. -/
structure Links where
  /-- Where the aliases lead, the latest first. -/
  targets : List (Nat × Node)
  deriving Repr

/-- Counts how many aliases may still be met. -/
abbrev Interpreting := StateT Nat (Except Fault)

/-- The node itself, or the one that an alias leads to. -/
def target (l : Links) : Node → Interpreting Node
  | reference i => do
    let left ← get
    if left = 0 then throw .tooManyAliases
    set (left - 1)
    match l.targets.lookup i with
    | some n => return n
    | none => throw (.unknownAnchor (toString i))
  | n => return n

/-- A key as it is written. -/
def key (l : Links) (n : Node) : Interpreting String := do
  match ← target l n with
  | scalar _ _ text => return String.ofList text
  | _ => throw .keyNotScalar

/-- What a node stands for if its collections are not nested deeper than `depth`. -/
def setting (l : Links) : Nat → Node → Interpreting Setting
  | depth, n => do
    let n ← target l n
    let name? := n.properties.tag.bind Tag.ownName?
    let v : Setting ← match n, depth with
      | scalar p style text, _ => liftM (scalarSetting name?.isSome p.tag style text)
      | sequence _ items, depth + 1 => Setting.list <$> items.mapM (setting l depth)
      | mapping _ entries, depth + 1 =>
        Setting.ofEntries <$> entries.mapM fun e => do
          return (← key l e.1, ← setting l depth e.2)
      | reference _, _ => throw .nodeExpected
      | _, 0 => throw .tooDeep
    return match name? with
      | some name => .table [(name, v)]
      | none => v

def maxDepth : Nat := 128

def aliasesPerNode : Nat := 100

/-- The entries of a document's node, which is a mapping or empty. -/
def table (n : Node) : Except Fault (List (String × Setting)) :=
  let l : Links := ⟨n.anchors.reverse⟩
  match n with
  | scalar _ .plain [] => .ok []
  | mapping _ entries => do
    let (v, _) ← (setting l maxDepth (mapping {} entries)).run (aliasesPerNode * n.size)
    match v with
    | .table entries => return entries
    | _ => throw .notATable
  | _ => .error .notATable

end Node

end ContextHub.Yaml
