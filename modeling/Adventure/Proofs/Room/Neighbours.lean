import Adventure.Proofs.Actor.SharedBorder
import Mathlib.Data.List.Rotate

/-!
# Being neighbours goes both ways

The search for a shared border turns two outlines against each other, so it tries every edge of
the one against every edge of the other.  What it looks for does not depend on which of the two
comes first, nor on the corner from which an outline is read.  Ways over neighbours can therefore
be gone backward, and a rebuilt matrix knows a way between two boxes in both directions or in
neither.
-/

set_option autoImplicit false

namespace Adventure

/-! ## Edges that meet -/

namespace Span

variable {s t : Span}

/-- The spans share a value, and more than one unless one of the spans is a single value. -/
structure Overlap (s t : Span) : Prop where
  meet : ∃ z, s.Holds z ∧ t.Holds z
  more : s.low = s.high ∨ t.low = t.high ∨ ∃ y z, y < z ∧ (s.Holds y ∧ t.Holds y) ∧
    s.Holds z ∧ t.Holds z

theorem Overlap.symm (overlap : Overlap s t) : Overlap t s := by
  obtain ⟨⟨shared, inFirst, inSecond⟩, more⟩ := overlap
  refine ⟨⟨shared, inSecond, inFirst⟩, ?_⟩
  rcases more with single | single | ⟨y, z, apart, yIn, zIn⟩
  · exact .inr (.inl single)
  · exact .inl single
  · exact .inr (.inr ⟨y, z, apart, yIn.symm, zIn.symm⟩)

/-- What the spans share goes from the greater lower end to the lesser upper end. -/
theorem overlaps_iff (sOrdered : s.low ≤ s.high) (tOrdered : t.low ≤ t.high) :
    s.overlaps t = true ↔ Overlap s t := by
  simp only [overlaps, Bool.not_eq_true', Bool.or_eq_false_iff, Bool.and_eq_false_iff,
    decide_eq_false_iff_not, bne_eq_false_iff_eq, beq_eq_false_iff_ne]
  constructor
  · rintro ⟨⟨above, below⟩, touch⟩
    have shared : s.Holds (max s.low t.low) ∧ t.Holds (max s.low t.low) := by omega
    refine ⟨⟨_, shared⟩, ?_⟩
    rcases touch with (apart | single) | single
    · by_cases sSingle : s.low = s.high
      · exact .inl sSingle
      · by_cases tSingle : t.low = t.high
        · exact .inr (.inl tSingle)
        · exact .inr (.inr ⟨max s.low t.low, min s.high t.high, by omega, shared, by omega⟩)
    · exact .inl single.symm
    · exact .inr (.inl single)
  · rintro ⟨⟨z, inFirst, inSecond⟩, more⟩
    refine ⟨⟨by omega, by omega⟩, ?_⟩
    rcases more with single | single | ⟨y, z, apart, yIn, zIn⟩
    · exact .inl (.inr single.symm)
    · exact .inr single
    · exact .inl (.inl (by omega))

end Span

/-- Two edges lie on one vertical or horizontal line, and their spans overlap there. -/
inductive EdgesMeet (edge other : Point × Point) : Prop where
  | upright (x : Int) (edgeLine : edge.1.x = x ∧ edge.2.x = x)
      (otherLine : other.1.x = x ∧ other.2.x = x)
      (overlap : (Span.between edge.1.y edge.2.y).Overlap (.between other.1.y other.2.y))
  | level (y : Int) (edgeLine : edge.1.y = y ∧ edge.2.y = y)
      (otherLine : other.1.y = y ∧ other.2.y = y)
      (overlap : (Span.between edge.1.x edge.2.x).Overlap (.between other.1.x other.2.x))

theorem EdgesMeet.symm {edge other : Point × Point} (meet : EdgesMeet edge other) :
    EdgesMeet other edge := by
  cases meet with
  | upright x edgeLine otherLine overlap => exact .upright x otherLine edgeLine overlap.symm
  | level y edgeLine otherLine overlap => exact .level y otherLine edgeLine overlap.symm

namespace Outline

variable {first second : Outline}

theorem between_overlaps_iff {a b c d : Int} :
    (Span.between a b).overlaps (Span.between c d) = true ↔
      (Span.between a b).Overlap (Span.between c d) :=
  Span.overlaps_iff (Span.between_ordered a b) (Span.between_ordered c d)

/-- Upper edges are compared upright and level. -/
theorem upperEdges_meet_iff : (first.abutsUpright second || first.abutsLevel second) = true ↔
    EdgesMeet (first.ul, first.ur) (second.ul, second.ur) := by
  simp only [abutsUpright, abutsLevel, Bool.or_eq_true, Bool.and_eq_true, decide_eq_true_eq,
    between_overlaps_iff]
  constructor
  · rintro (⟨⟨⟨edge, start⟩, stop⟩, overlap⟩ | ⟨⟨⟨edge, start⟩, stop⟩, overlap⟩)
    · exact .upright _ ⟨rfl, edge⟩ ⟨start, stop⟩ overlap
    · exact .level _ ⟨rfl, edge⟩ ⟨start, stop⟩ overlap
  · rintro (⟨x, ⟨rfl, edge⟩, ⟨start, stop⟩, overlap⟩ | ⟨y, ⟨rfl, edge⟩, ⟨start, stop⟩, overlap⟩)
    · exact .inl ⟨⟨⟨edge, start⟩, stop⟩, overlap⟩
    · exact .inr ⟨⟨⟨edge, start⟩, stop⟩, overlap⟩

/-- The edges are the upper edges of the outline read from each of its corners. -/
theorem edges_eq_map (outline : Outline) :
    outline.edges = outline.rotations.map fun turned => (turned.ul, turned.ur) := rfl

/-- **All edges of one outline are tried against all edges of the other.** -/
theorem abuts_iff : first.abuts second = true ↔
    ∃ edge ∈ first.edges, ∃ other ∈ second.edges, EdgesMeet edge other := by
  simp only [abuts, List.any_eq_true, upperEdges_meet_iff, edges_eq_map, List.mem_map]
  constructor
  · rintro ⟨inner, innerIn, outer, outerIn, meet⟩
    exact ⟨_, ⟨outer, outerIn, rfl⟩, _, ⟨inner, innerIn, rfl⟩, meet⟩
  · rintro ⟨_, ⟨outer, outerIn, rfl⟩, _, ⟨inner, innerIn, rfl⟩, meet⟩
    exact ⟨inner, innerIn, outer, outerIn, meet⟩

theorem abuts_comm (first second : Outline) : first.abuts second = second.abuts first := by
  have flip {one two : Outline} (abut : one.abuts two = true) : two.abuts one = true := by
    obtain ⟨edge, edgeIn, other, otherIn, meet⟩ := abuts_iff.mp abut
    exact abuts_iff.mpr ⟨other, otherIn, edge, edgeIn, meet.symm⟩
  exact Bool.eq_iff_iff.mpr ⟨flip, flip⟩

/-- Two outlines with the same edges, whatever corner they are read from. -/
def SameEdges (first second : Outline) : Prop :=
  ∀ edge, edge ∈ first.edges ↔ edge ∈ second.edges

theorem rotate_sameEdges (outline : Outline) : outline.rotate.SameEdges outline := by
  intro edge
  have turned : outline.rotate.edges = outline.edges.rotate 1 := rfl
  rw [turned, List.mem_rotate]

theorem SameEdges.abuts {first' second' : Outline} (firstSame : first.SameEdges first')
    (secondSame : second.SameEdges second') : first.abuts second = first'.abuts second' := by
  apply Bool.eq_iff_iff.mpr
  simp only [abuts_iff, firstSame _, secondSame _]

end Outline

/-! ## Ways back -/

namespace Matrix

variable {neighbours : BoxId → BoxId → Bool} {count : Nat}

/-- A trek over boxes that are neighbours of each other can be gone backward. -/
theorem Trek.reverse (mutual_ : ∀ a b, neighbours a b = neighbours b a) {length : Nat}
    {source target : BoxId} (trek : Trek neighbours count length source target) :
    Trek neighbours count length target source := by
  induction trek with
  | stay inside => exact .stay inside
  | step inside adjacent rest ih =>
    have back : Trek neighbours count 1 _ _ :=
      .step rest.source_lt ((mutual_ _ _).trans adjacent) (.stay inside)
    exact ih.append back

theorem Reachable.symm (mutual_ : ∀ a b, neighbours a b = neighbours b a) {source target : BoxId}
    (reachable : Reachable neighbours count source target) :
    Reachable neighbours count target source := by
  obtain ⟨length, trek⟩ := reachable
  exact ⟨length, trek.reverse mutual_⟩

end Matrix

/-! ## Neighbours of a room -/

namespace Room

variable {room : Room} {a b : BoxId}

theorem areNeighbours_comm (room : Room) (a b : BoxId) :
    room.areNeighbours a b = room.areNeighbours b a := by
  have flip {one two : BoxId} (neighbours : room.areNeighbours one two = true) :
      room.areNeighbours two one = true := by
    obtain ⟨first, second, firstFound, secondFound, firstOpen, secondOpen, abut⟩ :=
      areNeighbours_iff.mp neighbours
    exact areNeighbours_iff.mpr ⟨second, first, secondFound, firstFound, secondOpen, firstOpen,
      (Outline.abuts_comm _ _).trans abut⟩
  exact Bool.eq_iff_iff.mpr ⟨flip, flip⟩

/-- Reads the outline of one box from its next corner on. -/
def turnBox (room : Room) (id : BoxId) : Room :=
  { room with
    boxes := room.boxes.modify id.toNat fun box => { box with outline := box.outline.rotate } }

/-- A box of the turned room is the box as it was, but for the corner its outline is read from. -/
theorem box?_turnBox (room : Room) (turned id : BoxId) : ∃ turn : WalkBox → WalkBox,
    (room.turnBox turned).box? (some id) = (room.box? (some id)).map turn ∧
      ∀ box, (turn box).isInvisible = box.isInvisible ∧
        (turn box).outline.SameEdges box.outline := by
  by_cases same : turned = id
  · refine ⟨fun box => { box with outline := box.outline.rotate }, ?_, fun box => ?_⟩
    · simp [box?, turnBox, same]
    · exact ⟨rfl, box.outline.rotate_sameEdges⟩
  · refine ⟨fun box => box, ?_, fun box => ⟨rfl, fun _ => Iff.rfl⟩⟩
    have apart : turned.toNat ≠ id.toNat := fun level => same (UInt8.toNat_inj.mp level)
    simp [box?, turnBox, apart]

theorem areNeighbours_turnBox (room : Room) (turned a b : BoxId) :
    (room.turnBox turned).areNeighbours a b = room.areNeighbours a b := by
  obtain ⟨turnFirst, firstTurned, firstKept⟩ := room.box?_turnBox turned a
  obtain ⟨turnSecond, secondTurned, secondKept⟩ := room.box?_turnBox turned b
  unfold areNeighbours
  rw [firstTurned, secondTurned]
  cases room.box? (some a) with
  | none => rfl
  | some first =>
    cases room.box? (some b) with
    | none => rfl
    | some second =>
      obtain ⟨firstSeen, firstSame⟩ := firstKept first
      obtain ⟨secondSeen, secondSame⟩ := secondKept second
      simp only [Option.map_some, firstSeen, secondSeen, firstSame.abuts secondSame]

/-- A neighbour of a box is a box of the room. -/
theorem lt_of_areNeighbours (neighbours : room.areNeighbours a b = true) :
    b.toNat < room.boxes.length := by
  obtain ⟨_, _, _, found, _⟩ := areNeighbours_iff.mp neighbours
  exact (List.getElem?_eq_some_iff.mp found).1

/-- Every hop of a rebuilt matrix is a box of the room. -/
theorem nextBox_rebuildMatrix (distinct : a ≠ b) :
    room.rebuildMatrix.nextBox (some a) (some b) =
      room.rebuildMatrix.matrix.nextBox (some a) (some b) := by
  unfold nextBox
  split
  next hop routed =>
    obtain ⟨neighbours, -⟩ := Matrix.nextBox_rebuild_closer _ _ distinct routed
    rw [routed]
    exact if_pos (lt_of_areNeighbours neighbours)
  next none_ => exact none_.symm

/-- A rebuilt matrix leads from a box to another when some trek over neighbours does. -/
theorem rebuildMatrix_leads_iff (distinct : a ≠ b) :
    (∃ hop, room.rebuildMatrix.matrix.nextBox (some a) (some b) = some hop) ↔
      Matrix.Reachable room.areNeighbours (Matrix.routable room.boxes.length) a b := by
  constructor
  · rintro ⟨hop, routed⟩
    obtain ⟨-, rest, distance, -⟩ := Matrix.nextBox_rebuild_closer _ _ distinct routed
    exact ⟨rest + 1, distance.1⟩
  · exact Matrix.exists_nextBox_rebuild _ _ distinct

theorem rebuildMatrix_leads_back (room : Room) (a b : BoxId) :
    (∃ hop, room.rebuildMatrix.matrix.nextBox (some a) (some b) = some hop) ↔
      ∃ hop, room.rebuildMatrix.matrix.nextBox (some b) (some a) = some hop := by
  by_cases same : a = b
  · rw [same]
  · rw [rebuildMatrix_leads_iff same, rebuildMatrix_leads_iff fun back => same back.symm]
    exact ⟨.symm room.areNeighbours_comm, .symm room.areNeighbours_comm⟩

/-- **Being neighbours is a symmetric relation on outlines.**  In every room, two boxes are
neighbours exactly when both exist, neither is invisible, and some edge of the one meets some edge
of the other.  The order of the two boxes and the corners from which their outlines are read do
not matter.  The matrix rebuilt from this leads from a box to another exactly when it leads back,
and so does the room that holds it. -/
theorem neighbours_both_ways (room : Room) :
    (∀ a b, room.areNeighbours a b = true ↔
      ∃ first second, room.box? (some a) = some first ∧ room.box? (some b) = some second ∧
        first.isInvisible = false ∧ second.isInvisible = false ∧
        ∃ edge ∈ first.outline.edges, ∃ other ∈ second.outline.edges, EdgesMeet edge other) ∧
    (∀ a b, room.areNeighbours a b = room.areNeighbours b a) ∧
    (∀ turned a b, (room.turnBox turned).areNeighbours a b = room.areNeighbours a b) ∧
    ∀ a b,
      ((∃ hop, room.rebuildMatrix.matrix.nextBox (some a) (some b) = some hop) ↔
        ∃ hop, room.rebuildMatrix.matrix.nextBox (some b) (some a) = some hop) ∧
      ((∃ hop, room.rebuildMatrix.nextBox (some a) (some b) = some hop) ↔
        ∃ hop, room.rebuildMatrix.nextBox (some b) (some a) = some hop) := by
  refine ⟨fun a b => ?_, room.areNeighbours_comm, room.areNeighbours_turnBox, fun a b =>
    ⟨room.rebuildMatrix_leads_back a b, ?_⟩⟩
  · simp only [areNeighbours_iff, Outline.abuts_iff]
  · by_cases same : a = b
    · rw [same]
    · rw [nextBox_rebuildMatrix same, nextBox_rebuildMatrix fun back => same back.symm]
      exact room.rebuildMatrix_leads_back a b

end Room

end Adventure
