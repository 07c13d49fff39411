import Adventure.Proofs.Actor.Borders
import Adventure.Proofs.Geometry.Convex

/-!
# Crossings lie on the border that two boxes share

The point by which an actor goes from a box into the next is some value of a line, moved into the
span of the second edge and then into that of the first.  The first edge does not move it out of
the second one again, because the spans overlap (`Crossing.hold_holds`).  So wherever the line
leads, the point lies on an edge of both boxes, and convex boxes hold their edges.
-/

set_option autoImplicit false

namespace Adventure

/-! ## Spans that overlap -/

namespace Span

variable {span first second : Span} {a b z : Int}

/-- A value of the span. -/
abbrev Holds (span : Span) (value : Int) : Prop := span.low ≤ value ∧ value ≤ span.high

theorem between_ordered (a b : Int) : (between a b).low ≤ (between a b).high := by
  unfold between
  split
  · assumption
  · dsimp only
    omega

theorem holds_between : (between a b).Holds z ↔ Between a b z := by
  unfold Holds between
  split <;> dsimp only <;> omega

theorem clamp_holds (ordered : span.low ≤ span.high) (value : Int) :
    span.Holds (span.clamp value) := by
  unfold clamp
  dsimp only
  split <;> split <;> constructor <;> omega

/-- Spans that overlap reach each other from both sides. -/
theorem reach_of_overlaps (overlaps : first.overlaps second = true) :
    first.low ≤ second.high ∧ second.low ≤ first.high := by
  simp only [Span.overlaps, Bool.not_eq_true', Bool.or_eq_false_iff, decide_eq_false_iff_not,
    Int.not_lt] at overlaps
  exact overlaps.1

end Span

/-- **A value held in two spans that overlap lies in both.** -/
theorem Crossing.hold_holds {first second : Span} (firstOrdered : first.low ≤ first.high)
    (secondOrdered : second.low ≤ second.high) (overlaps : first.overlaps second = true)
    (value : Int) :
    first.Holds (hold first second value) ∧ second.Holds (hold first second value) := by
  refine ⟨Span.clamp_holds firstOrdered _, ?_⟩
  have inSecond := Span.clamp_holds secondOrdered value
  have reach := Span.reach_of_overlaps overlaps
  unfold hold
  generalize second.clamp value = moved at inSecond ⊢
  -- an end of the first span that the value is moved to lies between the value and the overlap
  unfold Span.clamp
  dsimp only
  split <;> split <;> constructor <;> omega

/-! ## Borders are edges of both outlines -/

/-- The point lies where an edge of one outline meets an edge of another: on the one line along an
axis on which both lie, between the ends of both. -/
def Point.OnBorder (first second : Outline) (p : Point) : Prop :=
  ∃ edge ∈ first.edges, ∃ other ∈ second.edges,
    (p.OnUpright edge ∧ p.OnUpright other) ∨ (p.OnLevel edge ∧ p.OnLevel other)

theorem Outline.upperEdge_of_mem_rotations {outline : Outline} :
    ∀ turned ∈ outline.rotations, (turned.ul, turned.ur) ∈ outline.edges := by
  simp [rotations, rotate, edges]

namespace Border

variable {first second : Outline} {border : Border}

/-- The border is where two edges of the outlines lie on one line along an axis and overlap. -/
inductive Joins (first second : Outline) : Border → Prop where
  | vertical {edge other : Point × Point} {x : Int} (edgeIn : edge ∈ first.edges)
      (otherIn : other ∈ second.edges) (edgeLine : edge.1.x = x ∧ edge.2.x = x)
      (otherLine : other.1.x = x ∧ other.2.x = x)
      (overlaps : (Span.between edge.1.y edge.2.y).overlaps
        (Span.between other.1.y other.2.y) = true) :
      Joins first second
        (.vertical x (Span.between edge.1.y edge.2.y) (Span.between other.1.y other.2.y))
  | horizontal {edge other : Point × Point} {y : Int} (edgeIn : edge ∈ first.edges)
      (otherIn : other ∈ second.edges) (edgeLine : edge.1.y = y ∧ edge.2.y = y)
      (otherLine : other.1.y = y ∧ other.2.y = y)
      (overlaps : (Span.between edge.1.x edge.2.x).overlaps
        (Span.between other.1.x other.2.x) = true) :
      Joins first second
        (.horizontal y (Span.between edge.1.x edge.2.x) (Span.between other.1.x other.2.x))

theorem joins_of_ofUpperEdges? {one two : Outline} (oneIn : (one.ul, one.ur) ∈ first.edges)
    (twoIn : (two.ul, two.ur) ∈ second.edges) (found : ofUpperEdges? (one, two) = some border) :
    Joins first second border := by
  unfold ofUpperEdges? at found
  split at found
  next upright shared =>
    cases found
    simp only [vertical?, Option.ite_none_right_eq_some] at shared
    obtain ⟨⟨edge, start, stop⟩, overlaps, shared⟩ := shared
    cases shared
    exact .vertical oneIn twoIn ⟨rfl, edge.symm⟩ ⟨start.symm, stop.symm⟩ overlaps
  next =>
    simp only [horizontal?, Option.ite_none_right_eq_some] at found
    obtain ⟨⟨edge, start, stop⟩, overlaps, found⟩ := found
    cases found
    exact .horizontal oneIn twoIn ⟨rfl, edge.symm⟩ ⟨start.symm, stop.symm⟩ overlaps

/-- **A border that is found is an edge of both outlines.** -/
theorem joins_of_between? (found : between? first second = some border) :
    Joins first second border := by
  obtain ⟨⟨one, two⟩, member, shared⟩ := List.exists_of_findSome?_eq_some found
  simp only [readings, List.mem_flatMap, List.mem_map, Prod.mk.injEq] at member
  obtain ⟨two, twoIn, one, oneIn, rfl, rfl⟩ := member
  exact joins_of_ofUpperEdges? (Outline.upperEdge_of_mem_rotations _ oneIn)
    (Outline.upperEdge_of_mem_rotations _ twoIn) shared

/-- The point of the border that a value is held at. -/
def heldAt : Border → Int → Point
  | vertical x one two, value => ⟨x, Crossing.hold one two value⟩
  | horizontal y one two, value => ⟨Crossing.hold one two value, y⟩

/-- **Wherever a value is held at a border, it is held at an edge of both outlines.** -/
theorem Joins.onBorder (joins : Joins first second border) (value : Int) :
    (border.heldAt value).OnBorder first second := by
  cases joins with
  | @vertical edge other x edgeIn otherIn edgeLine otherLine overlaps =>
    have held := Crossing.hold_holds (Span.between_ordered _ _) (Span.between_ordered _ _)
      overlaps value
    exact ⟨edge, edgeIn, other, otherIn,
      .inl ⟨⟨edgeLine.1, edgeLine.2, Span.holds_between.mp held.1⟩,
        ⟨otherLine.1, otherLine.2, Span.holds_between.mp held.2⟩⟩⟩
  | @horizontal edge other y edgeIn otherIn edgeLine otherLine overlaps =>
    have held := Crossing.hold_holds (Span.between_ordered _ _) (Span.between_ordered _ _)
      overlaps value
    exact ⟨edge, edgeIn, other, otherIn,
      .inr ⟨⟨edgeLine.1, edgeLine.2, Span.holds_between.mp held.1⟩,
        ⟨otherLine.1, otherLine.2, Span.holds_between.mp held.2⟩⟩⟩

end Border

/-- Convex outlines hold the points of their border. -/
theorem Point.OnBorder.contains {first second : Outline} {p : Point}
    (onBorder : p.OnBorder first second) :
    (first.Narrow → first.Convex → first.contains p = .ok true) ∧
      (second.Narrow → second.Convex → second.contains p = .ok true) := by
  obtain ⟨edge, edgeIn, other, otherIn, ⟨onEdge, onOther⟩ | ⟨onEdge, onOther⟩⟩ := onBorder
  · exact ⟨fun fits convex => Outline.contains_of_onUpright fits convex edgeIn onEdge,
      fun fits convex => Outline.contains_of_onUpright fits convex otherIn onOther⟩
  · exact ⟨fun fits convex => Outline.contains_of_onLevel fits convex edgeIn onEdge,
      fun fits convex => Outline.contains_of_onLevel fits convex otherIn onOther⟩

/-! ## Crossings -/

namespace Crossing

variable {first second : Outline} {border : Border} {pos dest : Point} {towardFinal : Bool}

/-- The crossing leads to a point of the border that two outlines share, or straight on when that
is the end of the way. -/
structure KeepsBorder (first second : Outline) (towardFinal : Bool) (crossing : Crossing) :
    Prop where
  via : ∀ p, crossing = via p → p.OnBorder first second
  arrived : crossing = arrived → towardFinal = true

/-- **A crossing keeps to the border it is found at**, wherever the actor stands and wants to go. -/
theorem at_keepsBorder (joins : border.Joins first second) :
    (at_ border pos dest towardFinal).Gives (fun _ => True)
      (KeepsBorder first second towardFinal) := by
  have keeps (p : Point) (arrival : Prop) [Decidable arrival] (onBorder : p.OnBorder first second)
      (last : arrival → towardFinal = true) :
      KeepsBorder first second towardFinal (if arrival then .arrived else .via p) := by
    split
    next arrives => exact ⟨nofun, fun _ => last arrives⟩
    next => exact ⟨fun _ same => via.inj same ▸ onBorder, nofun⟩
  cases border with
  | vertical x one two =>
    cases towardFinal with
    | false => exact keeps _ _ (joins.onBorder pos.y) fun both => both.2
    | true =>
      simp only [at_, if_true, Checked.gives_bind, Checked.gives_pure]
      exact Checked.gives_anything.mono fun target _ =>
        keeps _ _ (joins.onBorder target) fun _ => rfl
  | horizontal y one two =>
    cases towardFinal with
    | false => exact keeps _ _ (joins.onBorder pos.x) fun both => both.2
    | true =>
      simp only [at_, if_true, Checked.gives_bind, Checked.gives_pure]
      exact Checked.gives_anything.mono fun target _ =>
        keeps _ _ (joins.onBorder target) fun _ => rfl

variable {room : Room} {actor : Actor} {source target : BoxId} {final : Option BoxId}

/-- What a crossing between two boxes of a room may be. -/
structure Proper (room : Room) (source target : BoxId) (final : Option BoxId)
    (crossing : Crossing) : Prop where
  /-- A point to walk to lies on the border of the boxes, inside a box that is convex. -/
  via : ∀ p, crossing = .via p → ∃ first second,
    room.outline? (some source) = some first ∧ room.outline? (some target) = some second ∧
      p.OnBorder first second ∧
      (first.StrictlyConvex → first.contains p = .ok true) ∧
      (second.StrictlyConvex → second.contains p = .ok true)
  /-- Only into the last box of the way there may be no point to walk to. -/
  arrived : crossing = .arrived → final = some target

theorem find_proper (boxesIn : room.BoxesInField) :
    (find room actor source target final).Gives (fun _ => True)
      (Proper room source target final) := by
  have apart : Proper room source target final .notAdjacent := ⟨nofun, nofun⟩
  unfold find
  split
  next first second firstFound secondFound =>
    split
    next border shared =>
      refine (at_keepsBorder (Border.joins_of_between? shared)).mono fun crossing keeps => ?_
      refine ⟨fun p same => ⟨first, second, firstFound, secondFound, keeps.via p same, ?_, ?_⟩,
        fun same => by simpa using keeps.arrived same⟩
      · exact fun strict => (keeps.via p same).contains.1
          (boxesIn.outline firstFound).narrow strict.convex
      · exact fun strict => (keeps.via p same).contains.2
          (boxesIn.outline secondFound).narrow strict.convex
    next => exact apart
  next => exact apart

/-- **Crossing points lie on the shared border.**  In the field the crossing between two boxes is
found without a fault.  A point it leads to lies on an edge of both boxes, and inside those that
are strictly convex; without a point, the second box is the last one of the way. -/
theorem find_on_border (boxesIn : room.BoxesInField) (posIn : actor.pos.InField)
    (destIn : actor.walk.dest.InField) :
    ∃ crossing, find room actor source target final = .ok crossing ∧
      Proper room source target final crossing := by
  have found : (find room actor source target final).Gives (fun _ => False) _ :=
    (find_inField boxesIn posIn destIn).and_value (find_proper boxesIn)
  obtain ⟨crossing, found, -, proper⟩ := Checked.gives_false_iff.mp found
  exact ⟨crossing, found, proper⟩

/-- On the way to the third box of a row, an actor at the border of the first box meets the
second one. -/
theorem find_on_border_rowStage :
    (Stage.rowStage.room.BoxesInField ∧ (Stage.onBorder 1 none .still).actor.pos.InField ∧
      (Stage.onBorder 1 none .still).actor.walk.dest.InField) ∧
    ((Stage.plainBox 0 0 100 50).outline.StrictlyConvex ∧
      (Stage.plainBox 100 0 200 50).outline.StrictlyConvex ∧
      find Stage.rowStage.room (Stage.onBorder 1 none .still).actor 1 2 (some 3) =
        .ok (.via ⟨100, 25⟩)) ∧
    ∃ crossing, find Stage.rowStage.room (Stage.onBorder 1 none .still).actor 1 2 (some 3) =
        .ok crossing ∧
      Proper Stage.rowStage.room 1 2 (some 3) crossing := by
  have posIn : (Stage.onBorder 1 none .still).actor.pos.InField := ⟨by decide, by decide⟩
  have destIn : (Stage.onBorder 1 none .still).actor.walk.dest.InField := ⟨by decide, by decide⟩
  exact ⟨⟨Room.rowStage_inField, posIn, destIn⟩, ⟨by decide, by decide, rfl⟩,
    find_on_border Room.rowStage_inField posIn destIn⟩

end Crossing

end Adventure
