import Adventure.Proofs.Machine.SnapshotRecord
import Adventure.Proofs.Save.Header
import Adventure.Save.Envelope

/-!
# A save file gives back what was saved

The header of a save file tells its kind and the length of the payload, and the payload is
one packed record.  Reading takes both apart again, so a file of the kind that is expected
gives back the description and the state that were saved.  A file of another kind is refused
by its header; the payload is not looked at.

A payload whose length does not fit into the header's 32 bits is never written.
-/

set_option autoImplicit false

namespace Adventure

open Datum (Stores)

/-- A payload that is not too long is framed, and the frame is taken apart again. -/
theorem Save.unframe_frame (kind : SaveKind) {payload : Bytes} (short : payload.length < 2 ^ 32) :
    ∃ bytes, frame kind payload = .ok bytes ∧
      unframe bytes = .ok (⟨SaveHeader.newest, kind, UInt32.ofNat payload.length⟩, payload) := by
  have framed : Framed _ ⟨SaveHeader.newest, kind, UInt32.ofNat payload.length⟩ payload :=
    ⟨rfl, UInt16.le_rfl, UInt32.toNat_ofNat_of_lt' short⟩
  exact ⟨_, if_pos short, framed.unframe⟩

/-! ## The payload -/

/-- The description of a save reads back when nothing else is noted in it. -/
theorem SaveMeta.stores (depth : Nat) {description : SaveMeta} (tick : description.tick < 2 ^ 64)
    (plain : description.extra = .null) :
    Stores (depth + 1) ofDatum? description.toDatum description := by
  have extra : Stores depth Datum.plain? description.extra description.extra := by
    rw [plain]
    exact ⟨.null depth, by rw [Datum.plain?]⟩
  exact .record (by decide) rfl <|
    .required (.text depth description.producer) <|
    .required (.nat64 depth tick) <|
    .required (.byte depth description.generation) <|
    .defaulted extra <|
    .pure description

namespace Save

/-- A save of a state can be written and gives back what was saved: the description and the state
when it is read as a file of its kind, and a refusal when it is read as anything else. -/
def GivesBack {α : Type} (kind : SaveKind) (description : SaveMeta) (read : Datum → Option α)
    (state : Datum) (value : α) : Prop :=
  ∃ bytes, encode kind description state = .ok bytes ∧
    decode read kind bytes = .ok (description, value) ∧
    ∀ (β : Type) (reader : Datum → Option β) (other : SaveKind), other ≠ kind →
      decode reader other bytes = .error (.kindMismatch other kind)

/-- A state that is stored as a datum comes back from a save file, if the payload is not too
long. -/
theorem gives_back_of_stores (kind : SaveKind) {α : Type} {description : SaveMeta}
    {read : Datum → Option α} {state : Datum} {value : α} (tick : description.tick < 2 ^ 64)
    (plain : description.extra = .null) (stores : Stores (1017 + 5) read state value)
    (short : (Packed.write (payload description state)).length < 2 ^ 32) :
    GivesBack kind description read state value := by
  have stored : Stores Packed.depthLimit (Datum.readRecord fieldNames false (fields read))
      (payload description state) (description, value) :=
    .record (by decide) rfl <|
      .required (SaveMeta.stores _ tick plain) <| .required stores <| .pure _
  have readable : Packed.read? (Packed.write (payload description state)) =
      some (payload description state) := by
    have back := Packed.readWithin_write stored.packable short []
    rw [List.append_nil] at back
    rw [Packed.read?, back, Option.map_some]
  obtain ⟨bytes, framed, unframed⟩ := unframe_frame kind short
  refine ⟨bytes, framed, ?_, fun _ _ other differs => ?_⟩
  · simp only [decode, unframed, readable, Option.bind_some, stored.reads, if_true]
  · simp only [decode, unframed, if_neg differs.symm]

/-- **A save file gives back what was saved.**  This holds of whole games and of rooms, under
either kind, when no slot has its turn mark set and nothing else is noted in the description. -/
theorem saved_states_come_back (kind : SaveKind) {description : SaveMeta}
    (tick : description.tick < 2 ^ 64) (plain : description.extra = .null) :
    (∀ state : Snapshot, state.Fits → (∀ slot ∈ state.slots, slot.executed = false) →
        (Packed.write (payload description state.toDatum)).length < 2 ^ 32 →
        GivesBack kind description (Snapshot.ofDatum? .packed) state.toDatum state) ∧
      ∀ state : RoomSnapshot, state.Fits →
        (Packed.write (payload description state.toDatum)).length < 2 ^ 32 →
        GivesBack kind description RoomSnapshot.ofDatum? state.toDatum state := by
  constructor
  · intro state fits rested short
    exact gives_back_of_stores kind tick plain (Snapshot.stores _ .packed fits rested) short
  · intro state fits short
    exact gives_back_of_stores kind tick plain (RoomSnapshot.stores _ fits) short

/-! ## A small game -/

/-- A room with a ramp, and routing from each of two boxes to the other. -/
def savedRoom : RoomSnapshot :=
  { number := 7
    boxFlags := [0, 0x40]
    extraFlags := [0, 0x100]
    ramps := [⟨0, 100, 50, 0, 200, -1⟩]
    matrix := [1, 1, 1, 0xFF, 0, 0, 0, 0xFF] }

/-- A game in this room: a paused script has called another one, which has armed an override. -/
def savedGame : Snapshot :=
  { generation := 5
    tick := 70000
    slots := [{ Slot.empty with number := 9, status := .running, offset := 300, delay := -40 }]
    calls := [⟨200, .local_, some 1⟩]
    cutscenes := ⟨.replicate 5 ⟨-7, some 12, none⟩, ⟨1, by decide⟩⟩
    overrideActive := true
    cutsceneScript := some 0
    hooks := ⟨3, 4⟩
    vars := [0, -2147483648, 2147483647]
    ego := some 1
    actors := [Actor.fresh 1]
    room := savedRoom }

theorem savedRoom_fits : savedRoom.Fits := by
  intro ramp listed
  cases List.mem_singleton.mp listed
  constructor <;> decide

theorem savedGame_fits : savedGame.Fits where
  tick := by decide
  slots := by
    intro slot listed
    cases List.mem_singleton.mp listed
    exact ⟨by decide, by decide, by decide⟩
  calls := by
    intro frame listed id known
    cases List.mem_singleton.mp listed
    cases known
    decide
  cutscenes := by
    intro frame listed
    cases List.eq_of_mem_replicate listed
    exact ⟨by decide, by decide, nofun⟩
  cutsceneScript := by decide
  vars := by decide
  actors := by
    intro actor listed
    cases List.mem_singleton.mp listed
    exact Actor.fresh_fits 1
  room := savedRoom_fits

theorem saved_states_come_back_sample :
    GivesBack .session ⟨"scumm_engine", 70000, 5, .null⟩ (Snapshot.ofDatum? .packed)
        savedGame.toDatum savedGame ∧
      GivesBack .room ⟨"scumm_engine", 70000, 5, .null⟩ RoomSnapshot.ofDatum?
        savedRoom.toDatum savedRoom :=
  ⟨(saved_states_come_back .session (by decide) rfl).1 savedGame savedGame_fits (by decide)
      (by decide +kernel),
    (saved_states_come_back .room (by decide) rfl).2 savedRoom savedRoom_fits (by decide +kernel)⟩

end Save

end Adventure
