import ContextHub.Ids
/-!
# Cell data

What a mobile radio reports about the cells around it.
-/

namespace ContextHub

inductive CellKind where
  | gsm
  | cdma
  | lte
  | wcdma
  | tdScdma
  | nr
  deriving DecidableEq, Repr, Inhabited

namespace CellKind

def name : CellKind → String
  | gsm => "Gsm"
  | cdma => "Cdma"
  | lte => "Lte"
  | wcdma => "Wcdma"
  | tdScdma => "TdScdma"
  | nr => "Nr"

def all : List CellKind := [gsm, cdma, lte, wcdma, tdScdma, nr]

def ofName? (s : String) : Option CellKind := all.find? (·.name == s)

end CellKind

structure CellInfo where
  kind : CellKind
  registered : Bool
  cellId : Nat
  signalDbm : Int
  deriving DecidableEq, Repr

/-- A radio's answer to a cell request; the hub fills in the requester's cookie. -/
structure CellReport where
  code : Nat := 0
  cookie : Cookie := .none
  cells : List CellInfo := []
  deriving DecidableEq, Repr

end ContextHub
