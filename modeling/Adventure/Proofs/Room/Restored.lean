import Adventure.Machine.Snapshot
import Adventure.Proofs.Machine.Likeness
import Adventure.Proofs.Routing.Block

/-!
# Rooms put together again

The snapshot of a room holds what scripts can change in it: flags, ramps and routing.  Laid over
the geometry as it was loaded, it gives the room back.  Two things are lost on the way.
Routing is kept in the form of its block, in which an entry that begins at box 255 reads as
the end of a row; and the block does not say whether the routing once came from a block that
was cut short.
-/

set_option autoImplicit false

namespace Adventure

namespace Room

theorem overlayList_of_length {α : Type} {current saved : List α}
    (same : saved.length = current.length) : overlayList current saved = saved := by
  simp [overlayList, ← same]

/-- Boxes get their flags back. -/
theorem restoreBoxes {boxes saved : List WalkBox}
    (same : saved.map (fun box => { box with flags := .none }) =
      boxes.map fun box => { box with flags := .none }) :
    List.zipWith (fun bits box => { box with flags := ⟨bits⟩ })
      (overlayList (boxes.map fun box => box.flags.bits) (saved.map fun box => box.flags.bits))
      boxes = saved := by
  have length : saved.length = boxes.length := by simpa using congrArg List.length same
  rw [overlayList_of_length (by simp [length]), List.zipWith_map_left]
  induction saved generalizing boxes with
  | nil =>
      cases boxes with
      | nil => rfl
      | cons => cases length
  | cons box saved ih =>
      cases boxes with
      | nil => cases length
      | cons loaded boxes =>
          obtain ⟨first, later⟩ := List.cons.inj same
          have back : { loaded with flags := ⟨box.flags.bits⟩ } = box := by
            have flagged := congrArg (fun plain : WalkBox => { plain with flags := box.flags }) first
            exact flagged.symm
          rw [List.zipWith_cons_cons, back, ih later (Nat.succ.inj length)]

/-- The snapshot of a room, laid over the room as it was loaded, gives the room back up to its
routing, which is read from a block. -/
theorem withSnapshot_eq {geometry room : Room}
    (shape : { geometry with number := room.number }.SameShape room) :
    geometry.withSnapshot room.snapshot =
      { room with matrix := RouteBlock.decode (RouteBlock.encode room.matrix.rows) } := by
  have boxes := restoreBoxes shape.boxes
  have extra := overlayList_of_length shape.extraFlags
  have ramps := Bank.overlay_cells geometry.ramps room.ramps
  unfold withSnapshot restoreDynamic snapshot flagBytes
  dsimp only at boxes extra ⊢
  rw [boxes, extra, ramps]

/-- **The snapshot of a room, laid over the room as it was loaded, gives the room back.** -/
theorem withSnapshot_snapshot {geometry room : Room}
    (shape : { geometry with number := room.number }.SameShape room)
    (plain : ∀ row ∈ room.matrix.rows, ∀ entry ∈ row, entry.low ≠ RouteBlock.rowEnd) :
    geometry.withSnapshot room.snapshot = room.withTruncated false := by
  rw [withSnapshot_eq shape, RouteBlock.decode_encode plain]
  rfl

end Room

end Adventure
