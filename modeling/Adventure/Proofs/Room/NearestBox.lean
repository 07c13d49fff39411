import Adventure.Proofs.Geometry.Nearest
import Adventure.Room.Snap

/-!
# Snapping finds the nearest box

Snapping looks at the boxes in up to three passes.  The first two skip boxes whose corners
are too far away and stop when what they have found is near enough; each pass leaves its
point behind for the next one, found wanting or not.  All of this only saves work: the answer
is that of a plain search for the nearest box, the last of several that are equally near.

A pass is described by a `Summary` of the boxes it has seen.  A box that was skipped is known
to be farther away than the radius of the pass, any other to be no nearer than the best one.
-/

set_option autoImplicit false

namespace Adventure

namespace Room

/-! ## The plain search -/

/-- A box takes part in a search: it comes no earlier than the first one, and the actor may
use it. -/
structure Enters (room : Room) (first : BoxId) (isPlayer : Bool) (box : WalkBox) (index : Nat) :
    Prop where
  found : room.boxes[index]? = some box
  valid : first.toNat ≤ index
  usable : box.isInvisible = false ∨ box.flags.has BoxFlags.playerOnly = true ∧ isPlayer = false

/-- A box holds a point, or its nearest point is at no distance. -/
def Touches (p : Point) (box : WalkBox) : Prop :=
  box.outline.contains p = .ok true ∨ ∃ q, box.outline.closest p = .ok (q, 0)

/-- What a plain search for the box nearest to a point answers.  The answer names a box by its
number, which is its index as long as a room has no more than 256 boxes. -/
inductive Nearest (room : Room) (p : Point) (first : BoxId) (isPlayer : Bool) : Snapped → Prop where
  /-- The point stays where it is, in the last box that it touches. -/
  | touching {box : WalkBox} {index : Nat} (enters : room.Enters first isPlayer box index)
      (touches : Touches p box)
      (last : ∀ other later, index < later → room.Enters first isPlayer other later →
        other.outline.Keeps 1 p) :
      Nearest room p first isPlayer ⟨p, some (UInt8.ofNat index)⟩
  /-- The point is moved to the nearest box, the last one if several are equally near. -/
  | near {box : WalkBox} {index : Nat} {q : Point} {distance : Nat}
      (enters : room.Enters first isPlayer box index)
      (closest : box.outline.closest p = .ok (q, distance)) (apart : 0 < distance)
      (inReach : distance < 0xFFFF)
      (least : ∀ other otherIndex, room.Enters first isPlayer other otherIndex →
        other.outline.Keeps distance p)
      (last : ∀ other later, index < later → room.Enters first isPlayer other later →
        other.outline.Keeps (distance + 1) p) :
      Nearest room p first isPlayer ⟨q, some (UInt8.ofNat index)⟩
  /-- No box is in reach. -/
  | nowhere
      (none_ : ∀ other index, room.Enters first isPlayer other index →
        other.outline.Keeps 0xFFFF p) :
      Nearest room p first isPlayer ⟨p, none⟩

variable {room : Room} {p : Point} {first : BoxId} {isPlayer : Bool}

theorem not_touches_of_keeps {box : WalkBox} (keeps : box.outline.Keeps 1 p) :
    ¬ Touches p box := by
  rintro (inside | ⟨q, zero⟩)
  · cases inside.symm.trans keeps.outside
  · exact absurd (keeps.le_distance zero) (by decide)

/-- A plain search has only one answer. -/
theorem Nearest.unique {one other : Snapped} (nearest : room.Nearest p first isPlayer one)
    (nearest' : room.Nearest p first isPlayer other) : one = other := by
  cases nearest with
  | @touching box index enters touches last =>
    cases nearest' with
    | @touching box' index' enters' touches' last' =>
      rcases Nat.lt_trichotomy index index' with less | rfl | more
      · exact absurd touches' (not_touches_of_keeps (last _ _ less enters'))
      · rfl
      · exact absurd touches (not_touches_of_keeps (last' _ _ more enters))
    | near _ _ apart _ least _ =>
      exact absurd touches (not_touches_of_keeps ((least _ _ enters).mono apart))
    | nowhere none_ =>
      exact absurd touches (not_touches_of_keeps ((none_ _ _ enters).mono (by decide)))
  | @near box index q distance enters closest apart inReach least last =>
    cases nearest' with
    | touching enters' touches' =>
      exact absurd touches' (not_touches_of_keeps ((least _ _ enters').mono apart))
    | @near box' index' q' distance' enters' closest' _ _ least' last' =>
      have le := (least' _ _ enters).le_distance closest
      have ge := (least _ _ enters').le_distance closest'
      obtain rfl : distance = distance' := Nat.le_antisymm ge le
      rcases Nat.lt_trichotomy index index' with less | rfl | more
      · exact absurd ((last _ _ less enters').le_distance closest') (Nat.not_succ_le_self _)
      · obtain rfl : box = box' := Option.some.inj (enters.found.symm.trans enters'.found)
        cases closest.symm.trans closest'
        rfl
      · exact absurd ((last' _ _ more enters).le_distance closest) (Nat.not_succ_le_self _)
    | nowhere none_ =>
      exact absurd ((none_ _ _ enters).le_distance closest) (Nat.not_le_of_lt inReach)
  | nowhere none_ =>
    cases nearest' with
    | touching enters' touches' =>
      exact absurd touches' (not_touches_of_keeps ((none_ _ _ enters').mono (by decide)))
    | near enters' closest' _ inReach' _ _ =>
      exact absurd ((none_ _ _ enters').le_distance closest') (Nat.not_le_of_lt inReach')
    | nowhere _ => rfl

/-- The nearest place is the point itself, or it is between the corners of a box. -/
theorem Nearest.place {snapped : Snapped} (fits : ∀ box ∈ room.boxes, box.outline.Narrow)
    (pFits : p.Narrow) (nearest : room.Nearest p first isPlayer snapped) :
    snapped.pos = p ∨ ∃ box ∈ room.boxes, box.outline.Spans snapped.pos := by
  cases nearest with
  | touching => exact .inl rfl
  | near enters closest _ inReach =>
    have member := List.mem_of_getElem? enters.found
    have found : (Outline.closest _ p).Gives (fun _ => True) _ :=
      Outline.closest_found (fits _ member) pFits
    rw [closest] at found
    rcases found with far | ⟨spans, _⟩
    · cases far
      exact absurd inReach (by decide)
    · exact .inr ⟨_, member, spans⟩
  | nowhere => exact .inl rfl

theorem Nearest.narrow {snapped : Snapped} (fits : ∀ box ∈ room.boxes, box.outline.Narrow)
    (pFits : p.Narrow) (nearest : room.Nearest p first isPlayer snapped) :
    snapped.pos.Narrow := by
  rcases nearest.place fits pFits with same | ⟨box, member, spans⟩
  · rw [same]
    exact pFits
  · exact spans.narrow (fits box member)

/-! ## Boxes looked at -/

theorem isEligible_iff {box : WalkBox} : isEligible box isPlayer = true ↔
    box.isInvisible = false ∨ box.flags.has BoxFlags.playerOnly = true ∧ isPlayer = false := by
  simp only [isEligible, Bool.or_eq_true, Bool.and_eq_true, Bool.not_eq_true']

theorem mem_candidates_iff {box : WalkBox} {index : Nat} :
    (box, index) ∈ room.candidates first ↔ room.boxes[index]? = some box ∧ first.toNat ≤ index := by
  rw [candidates, List.mem_reverse, List.mem_iff_getElem?]
  simp only [List.getElem?_drop, List.getElem?_zipIdx, Option.map_eq_some_iff, Prod.mk.injEq,
    Nat.zero_add]
  constructor
  · rintro ⟨offset, _, found, rfl, rfl⟩
    exact ⟨found, Nat.le_add_right _ _⟩
  · rintro ⟨found, valid⟩
    exact ⟨index - first.toNat, box, by rwa [Nat.add_sub_cancel' valid], rfl,
      Nat.add_sub_cancel' valid⟩

theorem enters_iff {box : WalkBox} {index : Nat} : room.Enters first isPlayer box index ↔
    (box, index) ∈ room.candidates first ∧ isEligible box isPlayer = true := by
  rw [mem_candidates_iff, isEligible_iff]
  exact ⟨fun enters => ⟨⟨enters.found, enters.valid⟩, enters.usable⟩,
    fun ⟨⟨found, valid⟩, usable⟩ => ⟨found, valid, usable⟩⟩

theorem candidates_descending :
    (room.candidates first).Pairwise fun earlier later => later.2 < earlier.2 := by
  have ascending : room.boxes.zipIdx.Pairwise fun earlier later => earlier.2 < later.2 := by
    rw [← List.pairwise_map (f := Prod.snd) (R := (· < ·)), List.zipIdx_map_snd]
    exact List.pairwise_lt_range'
  exact List.pairwise_reverse.mpr (ascending.drop)

/-- Boxes with a greater index come before. -/
theorem mem_front {box other : WalkBox} {index later : Nat} {front back : List (WalkBox × Nat)}
    (split : room.candidates first = front ++ (box, index) :: back) (greater : index < later)
    (member : (other, later) ∈ room.candidates first) : (other, later) ∈ front := by
  have descending : (room.candidates first).Pairwise _ := candidates_descending
  rw [split, List.pairwise_append, List.pairwise_cons] at descending
  rw [split, List.mem_append, List.mem_cons] at member
  rcases member with member | same | member
  · exact member
  · cases same
    exact absurd greater (Nat.lt_irrefl _)
  · exact absurd (descending.2.1.1 _ member) (Nat.lt_asymm greater)

/-! ## One pass -/

/-- All boxes of a list that the actor may use stay away from a point. -/
def AllKeep (p : Point) (isPlayer : Bool) (limit : Nat) (seen : List (WalkBox × Nat)) : Prop :=
  ∀ candidate ∈ seen, isEligible candidate.1 isPlayer = true → candidate.1.outline.Keeps limit p

/-- The distance from which on a pass with a radius may not see a box. -/
def reach (radius : Nat) : Nat := if radius = 0 then snapLimit else radius * radius + 1

/-- A box is the last one of the nearest ones among those seen, as far as the pass can see. -/
structure Best (p : Point) (isPlayer : Bool) (radius : Nat) (seen : List (WalkBox × Nat))
    (search : Search) (front : List (WalkBox × Nat)) (box : WalkBox) (index : Nat) : Prop where
  place : ∃ back, seen = front ++ (box, index) :: back
  usable : isEligible box isPlayer = true
  closest : box.outline.closest p = .ok (search.pos, search.distance)
  inReach : search.distance < snapLimit
  named : search.box = some (UInt8.ofNat index)
  last : AllKeep p isPlayer (min (search.distance + 1) (reach radius)) front

/-- What a pass knows when it has seen some boxes and has not ended. -/
structure Summary (p : Point) (isPlayer : Bool) (radius : Nat) (start : Point)
    (seen : List (WalkBox × Nat)) (search : Search) : Prop where
  apart : 0 < search.distance
  kept : AllKeep p isPlayer (min search.distance (reach radius)) seen
  best : search = ⟨start, snapLimit, none⟩ ∨
    ∃ front box index, Best p isPlayer radius seen search front box index

/-- How a pass ends early: with the first box that the point touches. -/
def Touched (p : Point) (isPlayer : Bool) (boxes : List (WalkBox × Nat)) (result : Snapped) :
    Prop :=
  ∃ front box index back, boxes = front ++ (box, index) :: back ∧
    isEligible box isPlayer = true ∧ Touches p box ∧ AllKeep p isPlayer 1 front ∧
    result = ⟨p, some (UInt8.ofNat index)⟩

variable {radius : Nat} {start : Point} {seen : List (WalkBox × Nat)} {search : Search}
  {candidate : WalkBox × Nat}

theorem AllKeep.mono {limit less : Nat} (keep : AllKeep p isPlayer limit seen)
    (le : less ≤ limit) : AllKeep p isPlayer less seen :=
  fun candidate member usable => (keep candidate member usable).mono le

theorem AllKeep.snoc {limit : Nat} (keep : AllKeep p isPlayer limit seen)
    (one : isEligible candidate.1 isPlayer = true → candidate.1.outline.Keeps limit p) :
    AllKeep p isPlayer limit (seen ++ [candidate]) := by
  intro other member
  rcases List.mem_append.mp member with member | member
  · exact keep other member
  · rw [List.mem_singleton.mp member]
    exact one

theorem reach_pos (radius : Nat) : 0 < reach radius := by
  unfold reach snapLimit
  split <;> omega

namespace Summary

/-- A box that is no nearer than the best one changes nothing. -/
theorem skip (summary : Summary p isPlayer radius start seen search)
    (keeps : isEligible candidate.1 isPlayer = true →
      candidate.1.outline.Keeps (min search.distance (reach radius)) p) :
    Summary p isPlayer radius start (seen ++ [candidate]) search := by
  refine ⟨summary.apart, summary.kept.snoc keeps, summary.best.imp_right ?_⟩
  rintro ⟨front, box, index, best⟩
  obtain ⟨back, place⟩ := best.place
  exact ⟨front, box, index,
    { best with place := ⟨back ++ [candidate], by rw [place, List.append_assoc]; rfl⟩ }⟩

/-- A box that is nearer than the best one becomes the best one. -/
theorem improve (summary : Summary p isPlayer radius start seen search) {q : Point}
    {distance : Nat} (usable : isEligible candidate.1 isPlayer = true)
    (outside : candidate.1.outline.contains p = .ok false)
    (closest : candidate.1.outline.closest p = .ok (q, distance)) (apart : 0 < distance)
    (nearer : distance < search.distance) (inReach : search.distance ≤ snapLimit) :
    Summary p isPlayer radius start (seen ++ [candidate])
      ⟨q, distance, some (UInt8.ofNat candidate.2)⟩ := by
  have keep : AllKeep p isPlayer (min (distance + 1) (reach radius)) seen :=
    summary.kept.mono (by omega)
  refine ⟨apart, ?_, .inr ⟨seen, candidate.1, candidate.2, ?_⟩⟩
  · exact (keep.mono (by dsimp only; omega)).snoc fun _ =>
      ⟨outside, q, distance, closest, Nat.min_le_left _ _⟩
  · exact ⟨⟨[], rfl⟩, usable, closest, Nat.lt_of_lt_of_le nearer inReach, rfl, keep⟩

theorem distance_le (summary : Summary p isPlayer radius start seen search) :
    search.distance ≤ snapLimit := by
  rcases summary.best with rfl | ⟨_, _, _, best⟩
  · exact Nat.le_refl _
  · exact Nat.le_of_lt best.inReach

end Summary

/-- How a look ends, told of the boxes seen so far. -/
def Look.Tells (p : Point) (isPlayer : Bool) (radius : Nat) (start : Point)
    (seen : List (WalkBox × Nat)) : Look → Prop
  | .done result => Touched p isPlayer seen result
  | .next found => Summary p isPlayer radius start seen found

/-- A box that is looked at closely ends the search, or is seen. -/
theorem closer_gives {box : WalkBox} {index : Nat} (fits : box.outline.Narrow) (pFits : p.Narrow)
    (usable : isEligible box isPlayer = true)
    (summary : Summary p isPlayer radius start seen search) : (do
      let inside ← box.outline.contains p
      if inside then pure (Look.done ⟨p, some (UInt8.ofNat index)⟩)
      else
        let (nearest, distance) ← box.outline.closest p
        if distance < search.distance then
          if distance = 0 then pure (.done ⟨nearest, some (UInt8.ofNat index)⟩)
          else pure (.next ⟨nearest, distance, some (UInt8.ofNat index)⟩)
        else pure (.next search) : Checked Look).Gives (fun _ => False)
      (Look.Tells p isPlayer radius start (seen ++ [(box, index)])) := by
  have early : AllKeep p isPlayer 1 seen :=
    summary.kept.mono (by have := summary.apart; have := reach_pos radius; omega)
  obtain ⟨inside, contains, -⟩ := Checked.gives_false_iff.mp (Outline.contains_gives fits pFits)
  obtain ⟨⟨q, distance⟩, closest, found⟩ :=
    Checked.gives_false_iff.mp (Outline.closest_found fits pFits)
  rw [contains]
  cases inside with
  | true => exact ⟨seen, box, index, [], rfl, usable, .inl contains, early, rfl⟩
  | false =>
    simp only [Checked.gives_bind, Checked.gives_ite, Checked.gives_pure, closest]
    change if distance < search.distance then _ else _
    split
    next nearer =>
      split
      next zero =>
        subst zero
        obtain rfl := found.eq_of_zero fits pFits
        exact ⟨seen, box, index, [], rfl, usable, .inr ⟨_, closest⟩, early, rfl⟩
      next apart =>
        exact summary.improve usable contains closest (Nat.pos_of_ne_zero apart) nearer
          summary.distance_le
    next farther =>
      exact summary.skip fun _ => ⟨contains, q, distance, closest, by omega⟩

/-- A look at one box adds the box to what the pass has seen, or ends the search there. -/
theorem look_gives (small : radius ≤ 4000) (fits : candidate.1.outline.Narrow)
    (pFits : p.Narrow) (summary : Summary p isPlayer radius start seen search) :
    (look p isPlayer radius search candidate).Gives (fun _ => False)
      (Look.Tells p isPlayer radius start (seen ++ [candidate])) := by
  obtain ⟨box, index⟩ := candidate
  cases usable : isEligible box isPlayer with
  | false =>
    simp only [look, usable, Bool.not_false, if_true, Checked.gives_pure]
    exact summary.skip fun open_ => absurd (usable ▸ open_) Bool.false_ne_true
  | true =>
    simp only [look, usable, Bool.not_true, Bool.false_eq_true, if_false]
    split
    next positive =>
      rw [Checked.gives_bind]
      refine (Outline.quickReject_keeps small fits pFits).mono fun rejected keeps => ?_
      cases rejected with
      | false => exact closer_gives fits pFits usable summary
      | true =>
        have far : reach radius = radius * radius + 1 := if_neg (by omega)
        exact summary.skip fun _ => (keeps rfl).mono (by omega)
    next => exact closer_gives fits pFits usable summary

/-- **A pass sees all boxes, or ends with the first one that the point touches.** -/
theorem pass_gives (small : radius ≤ 4000) (pFits : p.Narrow) (rest : List (WalkBox × Nat)) :
    ∀ seen search, (∀ candidate ∈ rest, candidate.1.outline.Narrow) →
      Summary p isPlayer radius start seen search →
      (pass p isPlayer radius rest search).Gives (fun _ => False)
        (Look.Tells p isPlayer radius start (seen ++ rest)) := by
  induction rest with
  | nil =>
    intro seen search _ summary
    rw [List.append_nil]
    exact summary
  | cons candidate rest ih =>
    intro seen search fits summary
    have onward : seen ++ candidate :: rest = (seen ++ [candidate]) ++ rest := by
      rw [List.append_assoc]
      rfl
    rw [pass, Checked.gives_bind, onward]
    refine (look_gives small (fits candidate List.mem_cons_self) pFits summary).mono ?_
    intro look tells
    cases look with
    | done result =>
      obtain ⟨front, box, index, back, split, touched⟩ := tells
      exact ⟨front, box, index, back ++ rest, by rw [split, List.append_assoc]; rfl, touched⟩
    | next found =>
      exact ih _ found (fun other member => fits other (List.mem_cons_of_mem _ member)) tells

/-! ## The passes together -/

/-- A point left behind by a pass: it has been moved only if some box is in reach. -/
def Unmoved (room : Room) (p : Point) (first : BoxId) (isPlayer : Bool) (pos : Point) : Prop :=
  AllKeep p isPlayer snapLimit (room.candidates first) → pos = p

theorem Touched.nearest {result : Snapped}
    (touched : Touched p isPlayer (room.candidates first) result) :
    room.Nearest p first isPlayer result := by
  obtain ⟨front, box, index, back, split, usable, touches, keep, rfl⟩ := touched
  have member : (box, index) ∈ room.candidates first := by
    rw [split]
    exact List.mem_append_right _ List.mem_cons_self
  refine .touching (enters_iff.mpr ⟨member, usable⟩) touches fun other later greater enters => ?_
  obtain ⟨otherIn, otherUsable⟩ := enters_iff.mp enters
  exact keep _ (mem_front split greater otherIn) otherUsable

/-- A pass that is content has found the nearest box. -/
theorem Summary.nearest {pos : Point} (unmoved : room.Unmoved p first isPlayer pos)
    (summary : Summary p isPlayer radius pos (room.candidates first) search)
    (content : search.distance < reach radius ∨ radius = 0) :
    room.Nearest p first isPlayer ⟨search.pos, search.box⟩ := by
  have inside := summary.distance_le
  have kept : AllKeep p isPlayer search.distance (room.candidates first) := by
    refine summary.kept.mono ?_
    rcases content with near | rfl
    · omega
    · rw [reach, if_pos rfl]
      omega
  rcases summary.best with rfl | ⟨front, box, index, best⟩
  · rw [unmoved kept]
    refine .nowhere fun other index enters => ?_
    obtain ⟨otherIn, otherUsable⟩ := enters_iff.mp enters
    exact kept _ otherIn otherUsable
  · obtain ⟨back, place⟩ := best.place
    have member : (box, index) ∈ room.candidates first := by
      rw [place]
      exact List.mem_append_right _ List.mem_cons_self
    have last : AllKeep p isPlayer (search.distance + 1) front := by
      refine best.last.mono ?_
      rcases content with near | rfl
      · omega
      · have := best.inReach
        rw [reach, if_pos rfl]
        omega
    rw [best.named]
    refine .near (enters_iff.mpr ⟨member, best.usable⟩) best.closest summary.apart best.inReach
      ?_ ?_
    · intro other otherIndex enters
      obtain ⟨otherIn, otherUsable⟩ := enters_iff.mp enters
      exact kept _ otherIn otherUsable
    · intro other later greater enters
      obtain ⟨otherIn, otherUsable⟩ := enters_iff.mp enters
      exact last _ (mem_front place greater otherIn) otherUsable

/-- A pass moves the point only to a box in reach. -/
theorem Summary.unmoved {pos : Point} (unmoved : room.Unmoved p first isPlayer pos)
    (summary : Summary p isPlayer radius pos (room.candidates first) search) :
    room.Unmoved p first isPlayer search.pos := by
  intro keep
  rcases summary.best with rfl | ⟨front, box, index, best⟩
  · exact unmoved keep
  · obtain ⟨back, place⟩ := best.place
    have member : (box, index) ∈ room.candidates first := by
      rw [place]
      exact List.mem_append_right _ List.mem_cons_self
    exact absurd ((keep _ member best.usable).le_distance best.closest)
      (Nat.not_le_of_lt best.inReach)

theorem passes_gives (fits : ∀ box ∈ room.boxes, box.outline.Narrow) (pFits : p.Narrow)
    (radii : List Nat) :
    ∀ pos, (∀ radius ∈ radii, radius ≤ 4000) → 0 ∈ radii → room.Unmoved p first isPlayer pos →
      (passes p isPlayer (room.candidates first) (radii.map Nat.cast) pos).Gives (fun _ => False)
        (room.Nearest p first isPlayer) := by
  have narrow : ∀ candidate ∈ room.candidates first, candidate.1.outline.Narrow := by
    rintro ⟨box, index⟩ member
    exact fits box (List.mem_of_getElem? (mem_candidates_iff.mp member).1)
  induction radii with
  | nil => exact fun _ _ whole => absurd whole List.not_mem_nil
  | cons radius wider ih =>
    intro pos bounded whole unmoved
    have small := bounded radius List.mem_cons_self
    have fresh : Summary p isPlayer radius pos [] ⟨pos, snapLimit, none⟩ :=
      ⟨(by decide : 0 < snapLimit), fun _ member => absurd member List.not_mem_nil, .inl rfl⟩
    rw [List.map_cons, passes, Checked.gives_bind]
    refine (pass_gives small pFits _ [] _ narrow fresh).mono fun look tells => ?_
    rw [List.nil_append] at tells
    cases look with
    | done result => exact tells.nearest
    | next found =>
      have summary : Summary p isPlayer radius pos (room.candidates first) found := tells
      have square : ((radius : Int) * radius).toNat = radius * radius := by
        rw [← Int.natCast_mul, Int.toNat_natCast]
      simp only [Checked.gives_ite, Checked.gives_pure, square, Int.natCast_eq_zero]
      split
      next content =>
        refine summary.nearest unmoved ?_
        rcases content with whole | near
        · exact .inr whole
        · unfold reach
          split <;> omega
      next discontent =>
        refine ih found.pos (fun radius member => bounded radius (List.mem_cons_of_mem _ member)) ?_
          (summary.unmoved unmoved)
        rcases List.mem_cons.mp whole with zero | later
        · exact absurd (.inl zero.symm) discontent
        · exact later

theorem snap_gives (fits : ∀ box ∈ room.boxes, box.outline.Narrow) (pFits : p.Narrow)
    (first : BoxId) (isPlayer : Bool) :
    (room.snap p first isPlayer).Gives (fun _ => False) (room.Nearest p first isPlayer) :=
  passes_gives fits pFits [30, 80, 0] p (by decide) (by decide) fun _ => rfl

/-- **Snapping in three passes finds what a plain search for the nearest box finds.** -/
theorem snap_nearest (fits : ∀ box ∈ room.boxes, box.outline.Narrow) (pFits : p.Narrow)
    (first : BoxId) (isPlayer : Bool) :
    ∃ snapped, room.snap p first isPlayer = .ok snapped ∧
      room.Nearest p first isPlayer snapped :=
  Checked.gives_false_iff.mp (snap_gives fits pFits first isPlayer)

/-- A box that slants down to the right. -/
def slope (top : Int) : WalkBox :=
  ⟨⟨⟨0, top⟩, ⟨100, top + 40⟩, ⟨100, top + 60⟩, ⟨0, top + 20⟩⟩, 0, .none, .fixed 255⟩

/-- Three slopes one above the other. -/
def slopes : Room := plain 1 [slope 0, slope 200, slope 120] .empty

theorem slopes_narrow : ∀ box ∈ slopes.boxes, box.outline.Narrow := by
  have narrow : ∀ top, -32768 ≤ top ∧ top ≤ 32707 → (slope top).outline.Narrow := by
    intro top fits
    refine ⟨⟨?_, ?_⟩, ⟨?_, ?_⟩, ⟨?_, ?_⟩, ⟨?_, ?_⟩⟩ <;> simp only [slope] <;> omega
  simp only [slopes, plain, List.forall_mem_cons, List.not_mem_nil, false_implies, implies_true,
    and_true]
  exact ⟨narrow 0 (by decide), narrow 200 (by decide), narrow 120 (by decide)⟩

/-- Between the upper slope and the lower one the lower one is nearer. -/
theorem snap_nearest_slopes :
    ((∀ box ∈ slopes.boxes, box.outline.Narrow) ∧ Point.Narrow ⟨60, 95⟩) ∧
      slopes.snap ⟨60, 95⟩ 0 true = .ok ⟨⟨43, 137⟩, some 2⟩ ∧
      slopes.Nearest ⟨60, 95⟩ 0 true ⟨⟨43, 137⟩, some 2⟩ := by
  have pFits : Point.Narrow ⟨60, 95⟩ := ⟨by decide, by decide⟩
  have answer : slopes.snap ⟨60, 95⟩ 0 true = .ok ⟨⟨43, 137⟩, some 2⟩ := by decide
  obtain ⟨snapped, found, nearest⟩ := snap_nearest slopes_narrow pFits 0 true
  obtain rfl : snapped = ⟨⟨43, 137⟩, some 2⟩ := Except.ok.inj (found.symm.trans answer)
  exact ⟨⟨slopes_narrow, pFits⟩, answer, nearest⟩

end Room

end Adventure
