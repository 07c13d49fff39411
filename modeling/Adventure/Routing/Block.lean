import Adventure.Routing.Matrix

/-!
# The `BOXM` block

A `BOXM` block is a run of rows, each a run of three byte entries closed by the
byte `0xFF`.  Reading never fails: a block that ends inside a row gives the
entries that were complete, and is marked as truncated.
-/

set_option autoImplicit false

namespace Adventure.RouteBlock

/-- The byte that closes a row. -/
def rowEnd : UInt8 := 0xFF

/-- The matrix of the finished rows (last first) and a row that was not closed. -/
def close (rows : List (List RouteEntry)) (unclosed : List RouteEntry) (cut : Bool) : Matrix :=
  if unclosed.isEmpty then ⟨rows.reverse, cut⟩ else ⟨(unclosed.reverse :: rows).reverse, true⟩

/-- Reads entries and row ends; both accumulators are kept last first. -/
def read : Bytes → List (List RouteEntry) → List RouteEntry → Matrix
  | [], rows, current => close rows current false
  | first :: rest, rows, current =>
    if first = rowEnd then read rest (current.reverse :: rows) []
    else
      match rest with
      | high :: hop :: later => read later rows (⟨first, high, hop⟩ :: current)
      | _ => close rows current true

/-- The matrix that a block describes. -/
def decode (input : Bytes) : Matrix := read input [] []

/-- The bytes of one row. -/
def encodeRow (row : List RouteEntry) : Bytes :=
  row.flatMap (fun entry => [entry.low, entry.high, entry.hop]) ++ [rowEnd]

/-- The bytes of a list of rows. -/
def encode (rows : List (List RouteEntry)) : Bytes := rows.flatMap encodeRow

end Adventure.RouteBlock
