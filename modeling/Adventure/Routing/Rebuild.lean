import Adventure.Routing.Matrix

/-!
# Routing rebuilt from adjacency

Given which boxes are neighbours, the matrix of shortest ways is computed by
letting one box after another serve as a stop on the way: adding a pivot replaces
the best way between two boxes by the way through the pivot when that is shorter.
Equal first hops are then gathered into ranges.

The distance 255 stands for "no way yet".  At most 255 boxes take part, so every
real distance is smaller.
-/

set_option autoImplicit false

namespace Adventure.Matrix

/-- The best way found so far between two boxes: its length and its first hop. -/
structure Leg where
  length : Nat
  hop : Option BoxId
  deriving DecidableEq, Repr

/-- The length that stands for "no way yet". -/
def unreached : Nat := 255

/-- The way between two boxes without any stop in between. -/
def direct (neighbours : BoxId → BoxId → Bool) (source target : Nat) : Leg :=
  if source = target then ⟨0, some (UInt8.ofNat target)⟩
  else if neighbours (UInt8.ofNat source) (UInt8.ofNat target) then
    ⟨1, some (UInt8.ofNat target)⟩
  else ⟨unreached, none⟩

/-- The direct ways between all pairs of boxes. -/
def directTable (count : Nat) (neighbours : BoxId → BoxId → Bool) : List (List Leg) :=
  (List.range count).map fun source =>
    (List.range count).map fun target => direct neighbours source target

/-- The better of the known way and the way through a pivot. -/
def improve (toPivot known fromPivot : Leg) : Leg :=
  if toPivot.length + fromPivot.length < known.length then
    ⟨toPivot.length + fromPivot.length, toPivot.hop⟩
  else known

/-- A row of ways improved by a pivot with a given row.  A row that does not reach the
pivot gains nothing from it. -/
def improveRow (pivot : Nat) (pivotRow row : List Leg) : List Leg :=
  match row[pivot]? with
  | some toPivot =>
    if toPivot.length < unreached then List.zipWith (improve toPivot) row pivotRow else row
  | none => row

/-- The table after ways through one more pivot are allowed. -/
def addPivot (table : List (List Leg)) (pivot : Nat) : List (List Leg) :=
  match table[pivot]? with
  | some pivotRow => table.map (improveRow pivot pivotRow)
  | none => table

/-- The shortest ways between all pairs of boxes. -/
def shortestWays (count : Nat) (neighbours : BoxId → BoxId → Bool) : List (List Leg) :=
  (List.range count).foldl addPivot (directTable count neighbours)

/-- Gathers runs of equal hops, from index `position` on, into entries. -/
def gather : Nat → List (Option BoxId) → List RouteEntry
  | _, [] => []
  | position, none :: rest => gather (position + 1) rest
  | position, some hop :: rest =>
    match gather (position + 1) rest with
    | entry :: later =>
      if entry.low.toNat = position + 1 ∧ entry.hop = hop then
        { entry with low := UInt8.ofNat position } :: later
      else ⟨UInt8.ofNat position, UInt8.ofNat position, hop⟩ :: entry :: later
    | [] => [⟨UInt8.ofNat position, UInt8.ofNat position, hop⟩]

/-- The number of boxes that can take part in routing. -/
def routable (count : Nat) : Nat := min count unreached

/-- The routing matrix of shortest ways for a number of boxes and their adjacency. -/
def rebuild (count : Nat) (neighbours : BoxId → BoxId → Bool) : Matrix :=
  ⟨(shortestWays (routable count) neighbours).map fun row => gather 0 (row.map (·.hop)), false⟩

end Adventure.Matrix
