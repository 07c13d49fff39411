import Adventure.Datum.Packed
import Adventure.Machine.SnapshotRecord
import Adventure.Save.Header

/-!
# The payload of a save file

The payload is a packed record of two fields: what tools want to know about a save, and
the saved state.  The state is a snapshot of a game or of a room.
-/

set_option autoImplicit false

namespace Adventure

open Datum (Fields)

/-- What tools want to know about a save. -/
structure SaveMeta where
  /-- The program that has written it. -/
  producer : String
  tick : Nat
  generation : UInt8
  /-- Anything else, in plain form. -/
  extra : Datum

namespace SaveMeta

/-- The fields of the description. -/
def fieldNames : List String := ["producer", "tick", "generation", "extra"]

/-- The description as a record. -/
def toDatum (description : SaveMeta) : Datum :=
  .record fieldNames
    [.text description.producer, .nat description.tick, .byte description.generation,
      description.extra]

/-- The fields of the description, one after the other. -/
def fields : Fields SaveMeta := do
  let producer ← Fields.required Datum.readText
  let tick ← Fields.required Datum.readNat64
  let generation ← Fields.required Datum.readByte
  let extra ← Fields.defaulted Datum.plain? .null
  pure { producer, tick, generation, extra }

/-- The description that a record holds. -/
def ofDatum? : Datum → Option SaveMeta := Datum.readRecord fieldNames false fields

end SaveMeta

namespace Save

/-- The fields of a payload. -/
def fieldNames : List String := ["meta", "state"]

/-- A payload as a record. -/
def payload (description : SaveMeta) (state : Datum) : Datum :=
  .record fieldNames [description.toDatum, state]

/-- The fields of a payload, one after the other. -/
def fields {α : Type} (read : Datum → Option α) : Fields (SaveMeta × α) := do
  let description ← Fields.required SaveMeta.ofDatum?
  let state ← Fields.required read
  pure (description, state)

/-- The bytes of a save file. -/
def encode (kind : SaveKind) (description : SaveMeta) (state : Datum) : Except SaveError Bytes :=
  frame kind (Packed.write (payload description state))

/-- Reads a save file of the kind that is expected. -/
def decode {α : Type} (read : Datum → Option α) (expected : SaveKind) (bytes : Bytes) :
    Except SaveError (SaveMeta × α) :=
  match unframe bytes with
  | .error error => .error error
  | .ok (header, content) =>
    if header.kind = expected then
      match (Packed.read? content).bind (Datum.readRecord fieldNames false (fields read)) with
      | some found => .ok found
      | none => .error .payloadDecode
    else .error (.kindMismatch expected header.kind)

/-- Reads a save file with a whole game. -/
def decodeSession (bytes : Bytes) : Except SaveError (SaveMeta × Snapshot) :=
  decode (Snapshot.ofDatum? .packed) .session bytes

/-- Reads a save file with a room. -/
def decodeRoom (bytes : Bytes) : Except SaveError (SaveMeta × RoomSnapshot) :=
  decode RoomSnapshot.ofDatum? .room bytes

end Save

namespace Machine

/-- The name under which this program saves. -/
def producer : String := "scumm_engine"

/-- The description of a save made now. -/
def saveMeta (m : Machine) : SaveMeta := ⟨producer, m.tick, m.rules.generation, .null⟩

/-- The save file of a game. -/
def saveSession (m : Machine) : Except SaveError Bytes :=
  Save.encode .session m.saveMeta m.snapshot.toDatum

/-- The save file of the room that is shown. -/
def saveRoom (m : Machine) : Except SaveError Bytes :=
  Save.encode .room m.saveMeta m.room.snapshot.toDatum

end Machine

end Adventure
