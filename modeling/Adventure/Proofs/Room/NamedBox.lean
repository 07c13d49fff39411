import Adventure.Proofs.Room.NearestBox
import Adventure.Proofs.Scale.Block
import Adventure.Proofs.WalkBox.Block

/-!
# The box that snapping names

Snapping looks at boxes by their index, which a block lets run up to 65534, and names the one it
has matched by a byte.  The byte is the index itself for the first 256 boxes: the box that is named
is then the one that was matched.  A later index loses what does not fit, so the name is that of
another box, which may come before the first valid one, be invisible, and lie anywhere.
-/

set_option autoImplicit false

namespace Adventure

theorem StoredPoint.fits16_toInt (z : Int16) : Word.Fits16 z.toInt :=
  ⟨z.le_toInt, Int.le_of_lt_add_one z.toInt_lt⟩

theorem StoredPoint.toPoint_narrow (p : StoredPoint) : p.toPoint.Narrow :=
  ⟨fits16_toInt p.x, fits16_toInt p.y⟩

theorem WalkBox.ofRecord_narrow (r : BoxRecord) : (ofRecord r).outline.Narrow :=
  ⟨r.ul.toPoint_narrow, r.ur.toPoint_narrow, r.lr.toPoint_narrow, r.ll.toPoint_narrow⟩

namespace Room

/-! ## Rooms from blocks -/

section Blocks

variable (number : UInt8) (records : List BoxRecord) (matrix : Option Matrix)
  (entries : List ScaleBlock.Entry)

/-- The boxes of a room from blocks are those of its records, in their order. -/
theorem ofBlocks_boxes :
    (ofBlocks number records matrix entries).boxes = records.map .ofRecord := by
  obtain ⟨ramps, only⟩ := installRamps_only (ofBoxes number (records.map .ofRecord) matrix) entries
  rw [ofBlocks, only]
  cases matrix <;> rfl

theorem ofBlocks_narrow :
    ∀ box ∈ (ofBlocks number records matrix entries).boxes, box.outline.Narrow := by
  rw [ofBlocks_boxes]
  intro box member
  obtain ⟨r, -, rfl⟩ := List.mem_map.mp member
  exact WalkBox.ofRecord_narrow r

end Blocks

/-! ## The box that is named -/

variable {room : Room} {p : Point} {first id : BoxId} {isPlayer : Bool} {snapped : Snapped}

/-- A box puts a point at a place: it leaves the point where it is if it holds it, else it moves it
to its nearest point. -/
def Places (p pos : Point) (box : WalkBox) : Prop :=
  box.outline.contains p = .ok true ∧ pos = p ∨
    ∃ distance, box.outline.closest p = .ok (pos, distance)

/-- The box with a number may be used by the actor and is the one that puts the point at a place. -/
def Names (room : Room) (p : Point) (first : BoxId) (isPlayer : Bool) (pos : Point) (id : BoxId) :
    Prop :=
  ∃ box, room.Enters first isPlayer box id.toNat ∧ Places p pos box

/-- The box that a search has matched, and the byte it is named by. -/
theorem Nearest.matched (fits : ∀ box ∈ room.boxes, box.outline.Narrow) (pFits : p.Narrow)
    (nearest : room.Nearest p first isPlayer snapped) (answer : snapped.box = some id) :
    ∃ box index, room.Enters first isPlayer box index ∧ Places p snapped.pos box ∧
      id = UInt8.ofNat index := by
  cases nearest with
  | @touching box index enters touches _ =>
    refine ⟨box, index, enters, ?_, (Option.some.inj answer).symm⟩
    rcases touches with inside | ⟨q, closest⟩
    · exact .inl ⟨inside, rfl⟩
    · have member := List.mem_of_getElem? enters.found
      have found : (box.outline.closest p).Gives (fun _ => False) _ :=
        Outline.closest_found (fits box member) pFits
      rw [closest] at found
      obtain rfl : q = p := Outline.Found.eq_of_zero (fits box member) pFits found
      exact .inr ⟨0, closest⟩
  | @near box index q distance enters closest _ _ _ _ =>
    exact ⟨box, index, enters, .inr ⟨distance, closest⟩, (Option.some.inj answer).symm⟩
  | nowhere => cases answer

/-- **Snapping names the box it has matched, up to what fits a byte.**  In a room from blocks the
answer names a box of the room by the low byte of the index of the box that was matched, which is
no earlier than the first valid one, open to the actor, and the one that puts the point where it
is.  If the index is below 256, as in every room of at most 256 boxes, that is the box named. -/
theorem snap_names_matched (number : UInt8) (records : List BoxRecord) (matrix : Option Matrix)
    (entries : List ScaleBlock.Entry) (pFits : p.Narrow) (first : BoxId) (isPlayer : Bool) :
    ∃ snapped, (ofBlocks number records matrix entries).snap p first isPlayer = .ok snapped ∧
      ∀ id, snapped.box = some id → ∃ box index,
        (ofBlocks number records matrix entries).Enters first isPlayer box index ∧
          Places p snapped.pos box ∧ id.toNat = index % 256 ∧
          (∃ named, (ofBlocks number records matrix entries).box? (some id) = some named) ∧
          (index < 256 ∨ records.length ≤ 256 →
            (ofBlocks number records matrix entries).Names p first isPlayer snapped.pos id) := by
  have fits := ofBlocks_narrow number records matrix entries
  obtain ⟨snapped, found, nearest⟩ :=
    Checked.gives_false_iff.mp (snap_gives fits pFits first isPlayer)
  refine ⟨snapped, found, fun id answer => ?_⟩
  obtain ⟨box, index, enters, places, named⟩ := nearest.matched fits pFits answer
  have low : id.toNat = index % 256 := by rw [named, UInt8.toNat_ofNat']
  obtain ⟨inside, -⟩ := List.getElem?_eq_some_iff.mp enters.found
  have count : (ofBlocks number records matrix entries).boxes.length = records.length := by
    rw [ofBlocks_boxes, List.length_map]
  have known : id.toNat < (ofBlocks number records matrix entries).boxes.length := by omega
  refine ⟨box, index, enters, places, low, ⟨_, List.getElem?_eq_getElem known⟩, fun small => ?_⟩
  have same : id.toNat = index := by omega
  exact ⟨box, same ▸ enters, places⟩

/-- A box without extent that takes no part in walking. -/
def marker : BoxRecord := ⟨⟨0, 0⟩, ⟨0, 0⟩, ⟨0, 0⟩, ⟨0, 0⟩, 0, 0x80, 255⟩

/-- A square box. -/
def square : BoxRecord := ⟨⟨100, 100⟩, ⟨110, 100⟩, ⟨110, 110⟩, ⟨100, 110⟩, 0, 0, 255⟩

/-- A room with a marker and a number of squares on one place. -/
def stacked (squares : Nat) : Room :=
  ofBlocks 1 (marker :: List.replicate squares square) (some .empty) []

/-- The last box that has a name of its own. -/
theorem snap_names_matched_stacked :
    Point.Narrow ⟨105, 105⟩ ∧
      (stacked 255).snap ⟨105, 105⟩ 1 false = .ok ⟨⟨105, 105⟩, some 255⟩ ∧
      (stacked 255).Names ⟨105, 105⟩ 1 false ⟨105, 105⟩ 255 := by
  have pFits : Point.Narrow ⟨105, 105⟩ := ⟨by decide, by decide⟩
  have answer : (stacked 255).snap ⟨105, 105⟩ 1 false = .ok ⟨⟨105, 105⟩, some 255⟩ := by
    decide +kernel
  obtain ⟨snapped, found, told⟩ := snap_names_matched 1 (marker :: List.replicate 255 square)
    (some .empty) [] pFits 1 false
  obtain rfl : snapped = ⟨⟨105, 105⟩, some 255⟩ := Except.ok.inj (found.symm.trans answer)
  obtain ⟨box, index, -, -, -, -, names⟩ := told 255 rfl
  exact ⟨pFits, answer, names (.inr (by decide +kernel))⟩

/-- The 257th box of a block is named after the first one, which is no box to walk in. -/
theorem late_box_misnamed :
    (∃ block, BoxBlock.decode .word block = .ok (marker :: List.replicate 256 square)) ∧
      (stacked 256).snap ⟨105, 105⟩ 1 false = .ok ⟨⟨105, 105⟩, some 0⟩ ∧
      ¬ (stacked 256).Names ⟨105, 105⟩ 1 false ⟨105, 105⟩ 0 := by
  refine ⟨⟨_, BoxBlock.decode_encode (if_pos (by decide +kernel))⟩, by decide +kernel, ?_⟩
  rintro ⟨box, enters, -⟩
  exact absurd enters.valid (by decide)

end Room

end Adventure
