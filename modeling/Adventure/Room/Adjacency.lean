import Adventure.Room.Basic
import Adventure.Routing.Rebuild
import Adventure.Geometry.Span

/-!
# Adjacency of boxes

Two boxes are neighbours when an edge of one and an edge of the other lie on one
vertical or horizontal line and overlap there.  Every edge of the first box is tried
against one edge of the second, then on to the second box's next edge.  The routing of
a room follows from which boxes are neighbours.
-/

set_option autoImplicit false

namespace Adventure

namespace Outline

/-- Whether the upper edges of two outlines lie on one vertical line and overlap there. -/
def abutsUpright (outer inner : Outline) : Bool :=
  decide (outer.ur.x = outer.ul.x) && decide (inner.ul.x = outer.ul.x) &&
    decide (inner.ur.x = outer.ul.x) &&
      (Span.between outer.ul.y outer.ur.y).overlaps (Span.between inner.ul.y inner.ur.y)

/-- Whether the upper edges of two outlines lie on one horizontal line and overlap there. -/
def abutsLevel (outer inner : Outline) : Bool :=
  decide (outer.ur.y = outer.ul.y) && decide (inner.ul.y = outer.ul.y) &&
    decide (inner.ur.y = outer.ul.y) &&
      (Span.between outer.ul.x outer.ur.x).overlaps (Span.between inner.ul.x inner.ur.x)

/-- Whether some edge of one outline and some edge of another overlap on a line. -/
def abuts (outer inner : Outline) : Bool :=
  inner.rotations.any fun inner =>
    outer.rotations.any fun outer => outer.abutsUpright inner || outer.abutsLevel inner

end Outline

namespace Room

/-- Whether two boxes are neighbours.  Invisible and missing boxes have none. -/
def areNeighbours (room : Room) (a b : BoxId) : Bool :=
  match room.box? (some a), room.box? (some b) with
  | some first, some second =>
    !first.isInvisible && !second.isInvisible &&
      first.outline.abuts second.outline
  | _, _ => false

/-- The routing matrix that follows from the boxes as they are now. -/
def derivedMatrix (room : Room) : Matrix :=
  Matrix.rebuild room.boxes.length room.areNeighbours

/-- Replaces the routing by the one that follows from the boxes. -/
def rebuildMatrix (room : Room) : Room := { room with matrix := room.derivedMatrix }

/-- A room from boxes and an authored matrix; without one it is derived. -/
def ofBoxes (number : UInt8) (boxes : List WalkBox) (matrix : Option Matrix) : Room :=
  match matrix with
  | some matrix => plain number boxes matrix
  | none => (plain number boxes .empty).rebuildMatrix

/-- Puts a list of stored ramps into their slots. -/
def installRamps (room : Room) (entries : List ScaleBlock.Entry) : Room :=
  entries.foldl (fun room entry =>
    room.setRamp entry.slot
      (.vertical entry.y1.toNat entry.scale1.toNat entry.y2.toNat entry.scale2.toNat)) room

/-- A room from decoded room data. -/
def ofBlocks (number : UInt8) (records : List BoxRecord) (matrix : Option Matrix)
    (entries : List ScaleBlock.Entry) : Room :=
  (ofBoxes number (records.map .ofRecord) matrix).installRamps entries

end Room

end Adventure
