import ContextHub.Binary64
/-!
# Settings as they are written

What a source of configuration says before anything is known about what it should say: a tree of
scalars, lists and tables. Tables are ordered by their keys, and a key occurs once. Whole numbers
remember whether they were written with a minus and whether 64 bits hold them.

`overlay` lays one source over another: tables are merged key by key, everything else is replaced.
-/

namespace ContextHub

inductive Setting where
  | nothing
  | flag (b : Bool)
  | unsigned (n : Nat)
  | signed (i : Int)
  /-- A whole number beyond 64 bits. -/
  | wide (i : Int)
  | decimal (x : Binary64)
  | text (s : String)
  | list (items : List Setting)
  | table (entries : List (String × Setting))
  deriving Repr, Inhabited

namespace Setting

/-- Sets the value of a key at its place in the order. -/
def put (key : String) (v : Setting) : List (String × Setting) → List (String × Setting)
  | [] => [(key, v)]
  | (k, w) :: rest =>
    if k = key then (key, v) :: rest
    else if key < k then (key, v) :: (k, w) :: rest
    else (k, w) :: put key v rest

def ofEntries (entries : List (String × Setting)) : Setting :=
  table (entries.foldl (fun t e => put e.1 e.2 t) [])

mutual

/-- What holds when `new` is laid over `old`. -/
def overlay (old new : Setting) : Setting :=
  match old, new with
  | table before, table entries => table (overlayAll before entries)
  | _, new => new
termination_by structural new

/-- Lays entries over a table one after another. -/
def overlayAll (before entries : List (String × Setting)) : List (String × Setting) :=
  match entries with
  | [] => before
  | e :: rest => overlayAll (overlayOne before e) rest
termination_by structural entries

def overlayOne (before : List (String × Setting)) (e : String × Setting) :
    List (String × Setting) :=
  match e with
  | (key, v) => put key (overlay ((before.lookup key).getD nothing) v) before
termination_by structural e

end

end Setting

end ContextHub
