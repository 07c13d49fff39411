import Adventure.Actor.Crossing
import Adventure.Proofs.Actor.Rounds
import Adventure.Proofs.Geometry.Field
import Adventure.Proofs.Routing.ShortestRoute
import Adventure.Room.Adjacency

/-!
# Borders are where neighbours meet

Two searches go over the edges of two boxes.  The one that builds the routing asks whether
some edges overlap; the one that leads an actor across asks where.  They come to the same
answer for all outlines (`abuts_eq_isSome`), so a hop of a rebuilt matrix always has a border
to cross.  In the field the place of the crossing is found without a fault, and it lies in
the field again, because it is held in the spans of both edges.
-/

set_option autoImplicit false

namespace Adventure

variable {Allowed : Fault → Prop}

open Word

/-! ## The two searches agree -/

namespace Outline

theorem abutsUpright_eq_isSome (first second : Outline) :
    first.abutsUpright second = (Border.vertical? first second).isSome := by
  rw [Bool.eq_iff_iff]
  by_cases line : first.ul.x = first.ur.x ∧ first.ul.x = second.ul.x ∧ first.ul.x = second.ur.x
  · obtain ⟨one, two, three⟩ := line
    simp only [abutsUpright, Border.vertical?, ← one, ← two, ← three, and_self, if_true,
      decide_true, Bool.true_and, apply_ite Option.isSome, Option.isSome_some, Option.isSome_none,
      Bool.if_true_left, Bool.or_false, Bool.decide_eq_true]
  · simp only [abutsUpright, Border.vertical?, if_neg line, Option.isSome_none,
      Bool.and_eq_true, decide_eq_true_eq, Bool.false_eq_true, iff_false]
    rintro ⟨⟨⟨one, two⟩, three⟩, -⟩
    exact line ⟨one.symm, two.symm, three.symm⟩

theorem abutsLevel_eq_isSome (first second : Outline) :
    first.abutsLevel second = (Border.horizontal? first second).isSome := by
  rw [Bool.eq_iff_iff]
  by_cases line : first.ul.y = first.ur.y ∧ first.ul.y = second.ul.y ∧ first.ul.y = second.ur.y
  · obtain ⟨one, two, three⟩ := line
    simp only [abutsLevel, Border.horizontal?, ← one, ← two, ← three, and_self, if_true,
      decide_true, Bool.true_and, apply_ite Option.isSome, Option.isSome_some, Option.isSome_none,
      Bool.if_true_left, Bool.or_false, Bool.decide_eq_true]
  · simp only [abutsLevel, Border.horizontal?, if_neg line, Option.isSome_none,
      Bool.and_eq_true, decide_eq_true_eq, Bool.false_eq_true, iff_false]
    rintro ⟨⟨⟨one, two⟩, three⟩, -⟩
    exact line ⟨one.symm, two.symm, three.symm⟩

/-- Some edges overlap exactly when there is a border. -/
theorem abuts_eq_isSome (first second : Outline) :
    first.abuts second = (Border.between? first second).isSome := by
  have pair (one two : Outline) : (one.abutsUpright two || one.abutsLevel two) =
      (Border.ofUpperEdges? (one, two)).isSome := by
    rw [abutsUpright_eq_isSome, abutsLevel_eq_isSome, Border.ofUpperEdges?]
    cases Border.vertical? one two <;> rfl
  rw [abuts, Border.between?, Border.readings, List.isSome_findSome?, List.any_flatMap]
  simp only [pair, List.any_map, Function.comp_def]

end Outline

/-! ## Borders of the field -/

/-- A span that is not empty, inside the field. -/
structure Span.InField (span : Span) : Prop where
  low : Adventure.InField span.low
  high : Adventure.InField span.high
  ordered : span.low ≤ span.high

theorem Span.between_inField {a b : Int} (aIn : Adventure.InField a) (bIn : Adventure.InField b) :
    (between a b).InField := by
  unfold between
  split
  · exact ⟨aIn, bIn, by assumption⟩
  · exact ⟨bIn, aIn, by dsimp only; omega⟩

theorem Span.clamp_inField {span : Span} (inField : span.InField) (value : Int) :
    Adventure.InField (span.clamp value) := by
  obtain ⟨⟨_, _⟩, ⟨_, _⟩, ordered⟩ := inField
  unfold clamp
  dsimp only
  split <;> split <;> omega

namespace Border

/-- The line of a border and the span of its first edge lie in the field. -/
structure InField (line : Int) (first : Span) : Prop where
  line : Adventure.InField line
  first : first.InField

/-- A border of the field: the one that holds the place of the crossing last is the first edge. -/
def Within : Border → Prop
  | vertical line first _ | horizontal line first _ => InField line first

variable {first second : Outline} {border : Border}

theorem within_of_ofUpperEdges? (inField : first.InField)
    (found : ofUpperEdges? (first, second) = some border) : border.Within := by
  have upright : ∀ {border}, vertical? first second = some border → border.Within := by
    intro border found
    simp only [vertical?, Option.ite_none_right_eq_some] at found
    obtain ⟨-, -, found⟩ := found
    cases found
    exact ⟨inField.ul.x, Span.between_inField inField.ul.y inField.ur.y⟩
  have level : ∀ {border}, horizontal? first second = some border → border.Within := by
    intro border found
    simp only [horizontal?, Option.ite_none_right_eq_some] at found
    obtain ⟨-, -, found⟩ := found
    cases found
    exact ⟨inField.ul.y, Span.between_inField inField.ul.x inField.ur.x⟩
  unfold ofUpperEdges? at found
  split at found
  next other shared =>
    cases found
    exact upright shared
  next => exact level found

theorem within_of_between? (inField : first.InField)
    (found : between? first second = some border) : border.Within := by
  obtain ⟨⟨one, two⟩, member, shared⟩ := List.exists_of_findSome?_eq_some found
  simp only [readings, List.mem_flatMap, List.mem_map, Prod.mk.injEq] at member
  obtain ⟨turned, -, _, oneIn, rfl, rfl⟩ := member
  exact within_of_ofUpperEdges? (inField.of_mem_rotations _ oneIn) shared

end Border

/-! ## Crossings of the field -/

namespace Crossing

variable {pos dest : Point}

/-- The product of two differences of the field, and a quotient of it. -/
theorem product_bounds {a b c d : Int} (divisor : Int) (aIn : InField a) (bIn : InField b)
    (cIn : InField c) (dIn : InField d) :
    ((a - b) * (c - d)).natAbs ≤ 1073676289 ∧
      (((a - b) * (c - d)).tdiv divisor).natAbs ≤ 1073676289 := by
  have product := Segment.natAbs_mul_le (by omega : (a - b).natAbs ≤ 32767)
    (by omega : (c - d).natAbs ≤ 32767)
  exact ⟨product, Nat.le_trans (Int.natAbs_tdiv_le_natAbs _ _) product⟩

theorem meetVertical_gives {x : Int} (posIn : pos.InField) (destIn : dest.InField)
    (xIn : InField x) : (meetVertical pos dest x).Gives Allowed fun _ => True := by
  obtain ⟨px, py⟩ := posIn
  obtain ⟨dx, dy⟩ := destIn
  obtain ⟨product, quotient⟩ := product_bounds (dest.x - pos.x) dy py xIn px
  simp only [meetVertical, Checked.gives_bind, Checked.gives_ite, Checked.gives_pure]
  rw [gives_sub32 (by omega), gives_sub32 (by omega), gives_sub32 (by omega),
    gives_mul64 (by omega)]
  split
  · trivial
  next wide =>
    rw [gives_div64 wide (by omega)]
    generalize ((dest.y - pos.y) * (x - pos.x)).tdiv (dest.x - pos.x) = step at *
    rw [wrap32_eq (by split <;> omega), add32, gives_int32 (by split <;> omega)]
    trivial

theorem meetHorizontal_gives {y : Int} (posIn : pos.InField) (destIn : dest.InField)
    (yIn : InField y) : (meetHorizontal pos dest y).Gives Allowed fun _ => True := by
  obtain ⟨px, py⟩ := posIn
  obtain ⟨dx, dy⟩ := destIn
  obtain ⟨product, quotient⟩ := product_bounds (dest.y - pos.y) dx px yIn py
  simp only [meetHorizontal, Checked.gives_bind, Checked.gives_ite, Checked.gives_pure]
  rw [gives_sub32 (by omega), gives_sub32 (by omega), gives_sub32 (by omega)]
  split
  · trivial
  next high =>
    rw [gives_mul64 (by omega), gives_div64 high (by omega)]
    generalize ((dest.x - pos.x) * (y - pos.y)).tdiv (dest.y - pos.y) = step at *
    rw [wrap32_eq (by omega), add32, gives_int32 (by omega)]
    trivial

/-- A way across: either straight on, or by a point of the field. -/
def LeadsOn : Crossing → Prop
  | arrived => True
  | via point => point.InField
  | notAdjacent => False

theorem at_gives {border : Border} (within : border.Within) (posIn : pos.InField)
    (destIn : dest.InField) (final : Bool) :
    (at_ border pos dest final).Gives Allowed LeadsOn := by
  cases border with
  | vertical x first second =>
    obtain ⟨xIn, firstIn⟩ := within
    have leads (target : Int) (arrival : Prop) [Decidable arrival] :
        LeadsOn (if arrival then arrived else via ⟨x, hold first second target⟩) := by
      split
      · trivial
      · exact ⟨xIn, first.clamp_inField firstIn _⟩
    cases final with
    | false => exact leads _ _
    | true =>
      simp only [at_, if_true, Checked.gives_bind, Checked.gives_pure]
      exact (meetVertical_gives posIn destIn xIn).mono fun target _ => leads target _
  | horizontal y first second =>
    obtain ⟨yIn, firstIn⟩ := within
    have leads (target : Int) (arrival : Prop) [Decidable arrival] :
        LeadsOn (if arrival then arrived else via ⟨hold first second target, y⟩) := by
      split
      · trivial
      · exact ⟨first.clamp_inField firstIn _, yIn⟩
    cases final with
    | false => exact leads _ _
    | true =>
      simp only [at_, if_true, Checked.gives_bind, Checked.gives_pure]
      exact (meetHorizontal_gives posIn destIn yIn).mono fun target _ => leads target _

variable {room : Room} {actor : Actor} {source target : BoxId} {final : Option BoxId}

/-- In the field the crossing between two boxes is found without a fault, and it leads on
exactly when some edges of the boxes overlap. -/
theorem find_gives {first second : Outline} (firstFound : room.outline? (some source) = some first)
    (secondFound : room.outline? (some target) = some second) (firstIn : first.InField)
    (posIn : actor.pos.InField) (destIn : actor.walk.dest.InField) :
    (find room actor source target final).Gives Allowed fun crossing =>
      if first.abuts second then crossing.LeadsOn else crossing = notAdjacent := by
  simp only [find, firstFound, secondFound, Outline.abuts_eq_isSome]
  cases shared : Border.between? first second with
  | none => rfl
  | some border => exact at_gives (Border.within_of_between? firstIn shared) posIn destIn _

/-- A crossing of the field needs no boxes to be found without a fault. -/
theorem find_inField (boxesIn : room.BoxesInField) (posIn : actor.pos.InField)
    (destIn : actor.walk.dest.InField) :
    (find room actor source target final).Gives Allowed fun crossing =>
      crossing.LeadsOn ∨ crossing = notAdjacent := by
  cases firstFound : room.outline? (some source) with
  | none =>
    simp only [find, firstFound]
    exact .inr rfl
  | some first =>
    cases secondFound : room.outline? (some target) with
    | none =>
      simp only [find, firstFound, secondFound]
      exact .inr rfl
    | some second =>
      refine (find_gives firstFound secondFound (boxesIn.outline firstFound) posIn destIn).mono ?_
      intro crossing found
      split at found
      · exact .inl found
      · exact .inr found

end Crossing

/-! ## Neighbours -/

namespace Room

variable {room : Room} {a b : BoxId}

theorem outline?_of_box? {box : WalkBox} {id : Option BoxId} (found : room.box? id = some box) :
    room.outline? id = some box.outline := by
  rw [outline?, found, Option.map_some]

/-- Neighbours are two boxes that can be seen, with overlapping edges. -/
theorem areNeighbours_iff : room.areNeighbours a b = true ↔
    ∃ first second, room.box? (some a) = some first ∧ room.box? (some b) = some second ∧
      first.isInvisible = false ∧ second.isInvisible = false ∧
      first.outline.abuts second.outline = true := by
  unfold areNeighbours
  split
  next first second firstFound secondFound =>
    simp only [Bool.and_eq_true, Bool.not_eq_true', and_assoc]
    constructor
    · exact fun both => ⟨first, second, firstFound, secondFound, both⟩
    · rintro ⟨first', second', firstFound', secondFound', both⟩
      obtain rfl : first = first' := Option.some.inj (firstFound.symm.trans firstFound')
      obtain rfl : second = second' := Option.some.inj (secondFound.symm.trans secondFound')
      exact both
  next missing =>
    simp only [Bool.false_eq_true, false_iff]
    rintro ⟨first, second, firstFound, secondFound, -⟩
    exact missing first second firstFound secondFound

/-- A box that exists and takes part in walking. -/
def IsOpen (room : Room) (id : BoxId) : Prop :=
  ∃ box, room.box? (some id) = some box ∧ box.isInvisible = false

/-- **Boxes are neighbours exactly when there is a border to cross**, wherever the actor stands
and wants to go; so a hop of a rebuilt matrix is never without a border. -/
theorem neighbours_iff_crossing (boxesIn : room.BoxesInField) {actor : Actor}
    (posIn : actor.pos.InField) (destIn : actor.walk.dest.InField) (final : Option BoxId) :
    (∀ a b, room.IsOpen a → room.IsOpen b → ∃ crossing,
      Crossing.find room actor a b final = .ok crossing ∧
        (room.areNeighbours a b = true ↔ crossing ≠ .notAdjacent)) ∧
    (room.matrix = room.derivedMatrix → ∀ source target hop, source ≠ target →
      room.nextBox (some source) (some target) = some hop → ∃ crossing,
        Crossing.find room actor source hop final = .ok crossing ∧ crossing ≠ .notAdjacent) := by
  have agree : ∀ a b, room.IsOpen a → room.IsOpen b → ∃ crossing,
      Crossing.find room actor a b final = .ok crossing ∧
        (room.areNeighbours a b = true ↔ crossing ≠ .notAdjacent) := by
    rintro a b ⟨first, firstFound, firstOpen⟩ ⟨second, secondFound, secondOpen⟩
    have gives : (Crossing.find room actor a b final).Gives (fun _ => False) _ :=
      Crossing.find_gives (outline?_of_box? firstFound) (outline?_of_box? secondFound)
        (boxesIn first (mem_of_box? firstFound)) posIn destIn
    obtain ⟨crossing, found, answer⟩ := Checked.gives_false_iff.mp gives
    have neighbours : room.areNeighbours a b = first.outline.abuts second.outline := by
      simp only [areNeighbours, firstFound, secondFound, firstOpen, secondOpen, Bool.not_false,
        Bool.true_and]
    refine ⟨crossing, found, ?_⟩
    rw [neighbours]
    cases abut : first.outline.abuts second.outline with
    | false =>
      rw [abut, if_neg Bool.false_ne_true] at answer
      exact ⟨fun no => absurd no Bool.false_ne_true, fun yes => absurd answer yes⟩
    | true =>
      rw [abut, if_pos rfl] at answer
      exact ⟨fun _ none_ => by rw [none_] at answer; exact answer, fun _ => rfl⟩
  refine ⟨agree, ?_⟩
  intro rebuilt source target hop distinct answer
  have routed : room.derivedMatrix.nextBox (some source) (some target) = some hop :=
    rebuilt ▸ matrix_of_nextBox answer
  obtain ⟨neighbours, -⟩ := Matrix.nextBox_rebuild_closer _ _ distinct routed
  obtain ⟨first, second, firstFound, secondFound, firstOpen, secondOpen, -⟩ :=
    areNeighbours_iff.mp neighbours
  obtain ⟨crossing, found, agrees⟩ :=
    agree source hop ⟨first, firstFound, firstOpen⟩ ⟨second, secondFound, secondOpen⟩
  exact ⟨crossing, found, agrees.mp neighbours⟩

theorem rowStage_inField : Stage.rowStage.room.BoxesInField := by
  have plain : ∀ {left top right bottom : Int}, Adventure.InField left → Adventure.InField top →
      Adventure.InField right → Adventure.InField bottom →
      (Stage.plainBox left top right bottom).outline.InField :=
    fun leftIn topIn rightIn bottomIn =>
      ⟨⟨leftIn, topIn⟩, ⟨rightIn, topIn⟩, ⟨rightIn, bottomIn⟩, ⟨leftIn, bottomIn⟩⟩
  change ∀ box ∈ Stage.rowOfBoxes, _
  simp only [Stage.rowOfBoxes, List.forall_mem_cons, List.not_mem_nil, false_implies, implies_true,
    and_true]
  exact ⟨plain (by decide) (by decide) (by decide) (by decide),
    plain (by decide) (by decide) (by decide) (by decide),
    plain (by decide) (by decide) (by decide) (by decide),
    plain (by decide) (by decide) (by decide) (by decide)⟩

/-- From the first box of a row to the third the way leads over the border to the second. -/
theorem neighbours_iff_crossing_rowStage :
    (Stage.rowStage.room.BoxesInField ∧ Stage.rowStage.room.IsOpen 1 ∧
      Stage.rowStage.room.IsOpen 2 ∧
      Stage.rowStage.room.nextBox (some 1) (some 3) = some 2) ∧
    (∃ crossing, Crossing.find Stage.rowStage.room (Stage.onBorder 1 none .still).actor 1 2
        (some 3) = .ok crossing ∧
      (Stage.rowStage.room.areNeighbours 1 2 = true ↔ crossing ≠ .notAdjacent)) ∧
    ∃ crossing, Crossing.find Stage.rowStage.room (Stage.onBorder 1 none .still).actor 1 2
        (some 3) = .ok crossing ∧ crossing ≠ .notAdjacent := by
  have first : Stage.rowStage.room.IsOpen 1 := ⟨_, rfl, rfl⟩
  have second : Stage.rowStage.room.IsOpen 2 := ⟨_, rfl, rfl⟩
  have hop : Stage.rowStage.room.nextBox (some 1) (some 3) = some 2 := by decide
  have posIn : (Stage.onBorder 1 none .still).actor.pos.InField := ⟨by decide, by decide⟩
  have destIn : (Stage.onBorder 1 none .still).actor.walk.dest.InField := ⟨by decide, by decide⟩
  have agree := neighbours_iff_crossing rowStage_inField posIn destIn (some 3)
  exact ⟨⟨rowStage_inField, first, second, hop⟩, agree.1 1 2 first second,
    agree.2 rfl 1 3 2 (by decide) hop⟩

end Room

end Adventure
