import Adventure.WalkBox.Basic

/-!
# Routing between boxes

A routing matrix holds one row for every source box.  A row is a list of entries,
each saying that any box from `low` to `high` is reached by walking into `hop`
first; the first entry that covers the target decides.
-/

set_option autoImplicit false

namespace Adventure

/-- "Any box from `low` to `high` is reached by walking into `hop` first." -/
structure RouteEntry where
  low : UInt8
  high : UInt8
  hop : UInt8
  deriving DecidableEq, Repr, Inhabited

namespace RouteEntry

/-- Whether an entry speaks about a box. -/
def covers (entry : RouteEntry) (target : BoxId) : Bool :=
  decide (entry.low ≤ target) && decide (target ≤ entry.high)

end RouteEntry

/-- The routes out of every box; `truncated` when the data ended inside a row. -/
structure Matrix where
  rows : List (List RouteEntry)
  truncated : Bool
  deriving DecidableEq, Repr, Inhabited

namespace Matrix

/-- A matrix without rows. -/
def empty : Matrix := ⟨[], false⟩

/-- The hop that stands for "unreachable". -/
def noHop : UInt8 := 0xFF

/-- What a row says about a target: the hop of the first entry that covers it. -/
def rowHop? (row : List RouteEntry) (target : BoxId) : Option BoxId :=
  match row.find? (·.covers target) with
  | some entry => if entry.hop = noHop then none else some entry.hop
  | none => none

/-- The box to walk into next on the way from one box to another, if there is a way.
From nowhere every box is one step away, and nothing leads to nowhere. -/
def nextBox (matrix : Matrix) : Option BoxId → Option BoxId → Option BoxId
  | _, none => none
  | none, some target => some target
  | some source, some target =>
    if source = target then some target
    else
      match matrix.rows[source.toNat]? with
      | some row => rowHop? row target
      | none => none

end Matrix

end Adventure
