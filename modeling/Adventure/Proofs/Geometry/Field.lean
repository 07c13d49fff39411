import Adventure.Proofs.Geometry.Faults

/-!
# The field

The field is the quarter of the words of 16 bits in which differences of coordinates fit
such words again.  As long as all corners and places lie in it, navigation has room to
compute: a difference is no wider than the field, and a product of two differences is far
from the ends of its word.
-/

set_option autoImplicit false

namespace Adventure

/-- A coordinate of the field. -/
abbrev InField (z : Int) : Prop := -16384 ≤ z ∧ z ≤ 16383

/-- Both coordinates lie in the field. -/
structure Point.InField (p : Point) : Prop where
  x : Adventure.InField p.x
  y : Adventure.InField p.y

instance : DecidablePred Point.InField := fun p =>
  decidable_of_iff (Adventure.InField p.x ∧ Adventure.InField p.y)
    ⟨fun both => ⟨both.1, both.2⟩, fun both => ⟨both.x, both.y⟩⟩

theorem Point.InField.narrow {p : Point} (inField : p.InField) : p.Narrow := by
  obtain ⟨⟨xLow, xHigh⟩, yLow, yHigh⟩ := inField
  exact ⟨by omega, by omega⟩

/-- All corners lie in the field. -/
structure Outline.InField (outline : Outline) : Prop where
  ul : outline.ul.InField
  ur : outline.ur.InField
  lr : outline.lr.InField
  ll : outline.ll.InField

instance : DecidablePred Outline.InField := fun outline =>
  decidable_of_iff
    (outline.ul.InField ∧ outline.ur.InField ∧ outline.lr.InField ∧ outline.ll.InField)
    ⟨fun all => ⟨all.1, all.2.1, all.2.2.1, all.2.2.2⟩, fun all => ⟨all.ul, all.ur, all.lr, all.ll⟩⟩

namespace Outline.InField

variable {outline : Outline}

theorem narrow (inField : outline.InField) : outline.Narrow :=
  ⟨inField.ul.narrow, inField.ur.narrow, inField.lr.narrow, inField.ll.narrow⟩

theorem corner (inField : outline.InField) : ∀ corner ∈ outline.corners, corner.InField := by
  simp only [corners, List.forall_mem_cons, List.not_mem_nil, false_implies, implies_true, and_true]
  exact ⟨inField.ul, inField.ur, inField.lr, inField.ll⟩

theorem rotate (inField : outline.InField) : outline.rotate.InField :=
  ⟨inField.ur, inField.lr, inField.ll, inField.ul⟩

theorem of_mem_rotations (inField : outline.InField) :
    ∀ turned ∈ outline.rotations, turned.InField := by
  simp only [rotations, List.forall_mem_cons, List.not_mem_nil, false_implies, implies_true,
    and_true]
  exact ⟨inField, inField.rotate, inField.rotate.rotate, inField.rotate.rotate.rotate⟩

end Outline.InField

/-- The corners of all boxes lie in the field. -/
def Room.BoxesInField (room : Room) : Prop := ∀ box ∈ room.boxes, box.outline.InField

instance : DecidablePred Room.BoxesInField := fun room =>
  inferInstanceAs (Decidable (∀ box ∈ room.boxes, box.outline.InField))

theorem Room.BoxesInField.outline {room : Room} {id : Option BoxId} {outline : Outline}
    (inField : room.BoxesInField) (found : room.outline? id = some outline) : outline.InField := by
  obtain ⟨box, boxFound, rfl⟩ := Option.map_eq_some_iff.mp found
  exact inField box (Room.mem_of_box? boxFound)

end Adventure
