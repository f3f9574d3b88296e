import ContextHub.Yaml.Node
/-!
# From tokens to a node

The grammar of nodes: which tokens make up a sequence or a mapping, and where a node may be left
out. `document?` reads the whole of a document, with the directives before it.
-/

namespace ContextHub.Yaml

/-- What is known while the tokens of a document are read. -/
structure Progress where
  tokens : List Token
  /-- What the handles of tags stand for, the decisive ones first. -/
  handles : List (List Char × Tag) := []
  /-- The numbers of the anchors so far, the latest first. -/
  names : List (String × Nat) := []
  deriving Repr

abbrev Reading := StateT Progress (Except Fault)

namespace Reading

def peek? : Reading (Option Token) := do return (← get).tokens.head?

/-- Passes a token. -/
def skip : Reading Unit := modify fun s => { s with tokens := s.tokens.drop 1 }

/-- Passes the next token if it is the given one, and tells whether it was. -/
def skips (t : Token) : Reading Bool := do
  if (← peek?) = some t then
    skip
    return true
  else return false

/-! ## Properties -/

/-- Gives a name the number of an anchor. A name that is used again gets a new number. -/
def numberOf (name : String) : Reading Nat := do
  let s ← get
  let n := (s.names.map (·.1)).eraseDups.length
  set { s with names := (name, n) :: s.names }
  return n

/-- The whole of a tag whose handle is declared, or empty. -/
def tagOf (t : TagText) : Reading Tag := do
  if t.handle.isEmpty then return t.suffix
  match (← get).handles.lookup t.handle with
  | some start => return start ++ t.suffix
  | none => throw .unknownHandle

/-- An anchor if one is next. -/
def anchor? : Reading (Option String) := do
  match ← peek? with
  | some (.anchor name) =>
    skip
    return some name
  | _ => return none

/-- A tag if one is next. -/
def tag? : Reading (Option TagText) := do
  match ← peek? with
  | some (.tag t) =>
    skip
    return some t
  | _ => return none

/-- The properties of the next node: an anchor and a tag, in either order. -/
def properties : Reading Properties := do
  let before ← anchor?
  let t ← tag?
  let name ← if before.isNone && t.isSome then anchor? else pure before
  let t ← t.mapM tagOf
  return { anchor := ← name.mapM numberOf, tag := t }

/-! ## Nodes -/

/-- Where a node stands. -/
inductive Context where
  | flow
  | block
  /-- After a key or its colon in a block, where the entries of a sequence may stand at the key's
  own column. -/
  | underKey
  deriving DecidableEq, Repr

def Context.isBlock : Context → Bool
  | flow => false
  | _ => true

/-- A lone exclamation mark before a scalar says nothing. -/
def scalarProperties (p : Properties) : Properties :=
  if p.tag = some (Tag.ofString "!") then { p with tag := none } else p

/-- A node that is not there, but for its properties. -/
def missing (p : Properties) : Reading Node :=
  if p.isEmpty then throw .nodeExpected else return .scalar p .plain []

mutual

/-- The next node, if `fuel` exceeds what its tokens need. -/
def node : Nat → Context → Reading Node
  | 0, _ => throw .tooDeep
  | fuel + 1, ctx => do
    if let some (.reference name) ← peek? then
      skip
      match (← get).names.lookup name with
      | some n => return .reference n
      | none => throw (.unknownAnchor name)
    let p ← properties
    match ← peek? with
    | some (.scalar style text) =>
      skip
      return .scalar (scalarProperties p) style text
    | some .listOpen =>
      skip
      return .sequence p (← flowItems fuel true)
    | some .tableOpen =>
      skip
      return .mapping p (← flowEntries fuel true)
    | some .entry =>
      if ctx = .underKey then return .sequence p (← entries fuel false)
      else missing p
    | some .blockSequence =>
      if ctx.isBlock then
        skip
        return .sequence p (← entries fuel true)
      else missing p
    | some .blockMapping =>
      if ctx.isBlock then
        skip
        return .mapping p (← pairs fuel)
      else missing p
    | _ => missing p

/-- The next node, or none where one of the given tokens stands. -/
def nodeUnless : Nat → Context → List Token → Reading Node
  | 0, _, _ => throw .tooDeep
  | fuel + 1, ctx, stops => do
    match ← peek? with
    | some t => if stops.contains t then return .empty else node fuel ctx
    | none => node fuel ctx

/-- The entries of a block sequence; one that is indented has an end of its own. -/
def entries : Nat → Bool → Reading (List Node)
  | 0, _ => throw .tooDeep
  | fuel + 1, isIndented => do
    if ← skips .entry then
      let n ← nodeUnless fuel .block
        (if isIndented then [.entry, .blockEnd] else [.entry, .key, .value, .blockEnd])
      return n :: (← entries fuel isIndented)
    else if isIndented then
      if ← skips .blockEnd then return [] else throw .entryExpected
    else return []

/-- The entries of a block mapping. -/
def pairs : Nat → Reading (List (Node × Node))
  | 0 => throw .tooDeep
  | fuel + 1 => do
    if ← skips .key then
      let k ← nodeUnless fuel .underKey [.key, .value, .blockEnd]
      let v ← if ← skips .value then nodeUnless fuel .underKey [.key, .value, .blockEnd]
        else pure .empty
      return (k, v) :: (← pairs fuel)
    else if ← skips .blockEnd then return []
    else throw .keyExpected

/-- The items of a flow sequence, from its first one or from behind another. A key makes a mapping
of one entry; if it has no node, the token after it is lost. -/
def flowItems : Nat → Bool → Reading (List Node)
  | 0, _ => throw .tooDeep
  | fuel + 1, isFirst => do
    if ← skips .listClose then return []
    unless isFirst do
      unless ← skips .comma do throw .separatorExpected
    if ← skips .listClose then return []
    if ← skips .key then
      let k ← match ← peek? with
        | some .value | some .comma | some .listClose => do
          skip
          pure .empty
        | _ => node fuel .flow
      let v ← if ← skips .value then nodeUnless fuel .flow [.comma, .listClose] else pure .empty
      return .mapping {} [(k, v)] :: (← flowItems fuel false)
    else
      let n ← node fuel .flow
      return n :: (← flowItems fuel false)

/-- The entries of a flow mapping, from its first one or from behind another. -/
def flowEntries : Nat → Bool → Reading (List (Node × Node))
  | 0, _ => throw .tooDeep
  | fuel + 1, isFirst => do
    if ← skips .tableClose then return []
    unless isFirst do
      unless ← skips .comma do throw .separatorExpected
    if ← skips .tableClose then return []
    if ← skips .key then
      let k ← nodeUnless fuel .flow [.value, .comma, .tableClose]
      let v ← if ← skips .value then nodeUnless fuel .flow [.comma, .tableClose] else pure .empty
      return (k, v) :: (← flowEntries fuel false)
    else
      let k ← node fuel .flow
      return (k, .empty) :: (← flowEntries fuel false)

end

/-! ## Documents -/

def isVersion : Directive → Bool
  | .version _ _ => true
  | _ => false

/-- Splits the directives off; `before` are those so far. None may be repeated, and only two
versions are known. -/
def directives : List Token → List Directive → Except Fault (List Directive × List Token)
  | .directive d :: rest, before =>
    match d with
    | .version major minor =>
      if before.any isVersion then .error .repeatedDirective
      else if major = 1 ∧ (minor = 1 ∨ minor = 2) then directives rest (d :: before)
      else .error .badDirective
    | .handle name _ =>
      if before.any (fun e => match e with
        | .handle other _ => other == name
        | _ => false) then .error .repeatedDirective
      else directives rest (d :: before)
  | ts, before => .ok (before, ts)

def handlesOf (ds : List Directive) : List (List Char × Tag) :=
  ds.filterMap (fun d => match d with
    | .handle name t => some (name, t)
    | .version _ _ => none) ++ Tag.usualHandles

/-- The content of a document; there is none where the next document or the end is. -/
def content (fuel : Nat) : Reading Node := do
  match ← peek? with
  | none | some .documentStart | some .documentEnd | some (.directive _) => return .empty
  | _ => node fuel .block

end Reading

/-- The node of a text that holds one document; none if it holds none. -/
def document? (ts : List Token) : Except Fault (Option Node) :=
  match ts with
  | [] => .ok none
  | ts => do
    let fuel := 3 * ts.length + 3
    let (ds, body) ← Reading.directives ts []
    let start (body : List Token) : Progress := ⟨body, Reading.handlesOf ds, []⟩
    let (n, after) ← match body, ds with
      | .documentStart :: body, _ => (Reading.content fuel).run (start body)
      | _, [] => (Reading.node fuel .block).run (start body)
      | _, _ :: _ => .error .documentExpected
    if (after.tokens.dropWhile (· == .documentEnd)).isEmpty then return some n
    else throw .secondDocument

end ContextHub.Yaml
