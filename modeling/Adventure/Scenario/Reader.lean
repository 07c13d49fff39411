import Adventure.Datum.Json.Reader
import Adventure.Scenario.Basic
import Adventure.Script.Record

/-!
# Reading scenarios

Scenario files are JSON.  Records refuse fields they do not know, except for the hooks.
Maps from numbers keep the last entry of a repeated number, and are kept in the order of
the numbers.
-/

set_option autoImplicit false

namespace Adventure

open Datum (Fields)

namespace Scenario

/-! ## Numbers as keys -/

/-- The number that a key stands for: digits without a zero in front, up to a limit. -/
def keyNumber? (limit : Nat) : Datum → Option Nat
  | .text key =>
    match key.toList with
    | [] => none
    | '0' :: _ :: _ => none
    | digits =>
      if digits.all Char.isDigit then
        let value := digits.foldl (fun total c => total * 10 + (c.toNat - '0'.toNat)) 0
        if value ≤ limit then some value else none
      else none
  | _ => none

/-- Adds a text to texts sorted by number; a text with the same number is replaced. -/
def insertNumbered (number : Nat) (text : String) : List (Nat × String) → List (Nat × String)
  | [] => [(number, text)]
  | (other, old) :: rest =>
    if number = other then (number, text) :: rest
    else if number < other then (number, text) :: (other, old) :: rest
    else (other, old) :: insertNumbered number text rest

/-- Sorts entries whose keys are numbers and whose values are texts. -/
def numbered? (limit : Nat) :
    List (Datum × Datum) → List (Nat × String) → Option (List (Nat × String))
  | [], sorted => some sorted
  | (key, value) :: rest, sorted =>
    match keyNumber? limit key, Datum.readText value with
    | some number, some text => numbered? limit rest (insertNumbered number text sorted)
    | _, _ => none

/-- A map from words to texts. -/
def readByWord : Datum → Option (List (UInt16 × String))
  | .map entries =>
    (numbered? 65535 entries []).map fun sorted =>
      sorted.map fun entry => (UInt16.ofNat entry.1, entry.2)
  | _ => none

/-- A map from bytes to texts. -/
def readByByte : Datum → Option (List (UInt8 × String))
  | .map entries =>
    (numbered? 255 entries []).map fun sorted =>
      sorted.map fun entry => (UInt8.ofNat entry.1, entry.2)
  | _ => none

/-! ## Small lists -/

/-- A pair of numbers. -/
def readPair (datum : Datum) : Option (Int × Int) :=
  match Datum.readList Datum.readInt32 datum with
  | some [x, y] => some (x, y)
  | _ => none

/-- The four corners of a box, clockwise from the upper left. -/
def readOutline (datum : Datum) : Option Outline :=
  match Datum.readList readPair datum with
  | some [ul, ur, lr, ll] =>
    some ⟨⟨ul.1, ul.2⟩, ⟨ur.1, ur.2⟩, ⟨lr.1, lr.2⟩, ⟨ll.1, ll.2⟩⟩
  | _ => none

/-- An entry of a routing row. -/
def readRoute (datum : Datum) : Option RouteEntry :=
  match Datum.readList Datum.readByte datum with
  | some [low, high, hop] => some ⟨low, high, hop⟩
  | _ => none

/-! ## Records -/

/-- A walk box. -/
def readBox : Datum → Option WalkBox :=
  Datum.readRecord ["corners", "flags", "mask", "scale", "scale_slot"] true do
    let outline ← Fields.required readOutline
    let flags ← Fields.defaulted Datum.readByte 0
    let mask ← Fields.defaulted Datum.readByte 0
    let scale ← Fields.omittable Datum.readWord
    let slot ← Fields.omittable Datum.readByte
    let rule : BoxScale :=
      match slot with
      | some number => .slot number
      | none => .fixed (scale.getD 255)
    pure ⟨outline, mask, ⟨flags⟩, rule⟩

/-- A scale slot and its ramp. -/
def readRamp : Datum → Option (UInt8 × ScaleRamp) :=
  Datum.readRecord ["slot", "y1", "scale1", "y2", "scale2"] true do
    let slot ← Fields.required Datum.readByte
    let y1 ← Fields.required Datum.readInt32
    let scale1 ← Fields.required Datum.readInt32
    let y2 ← Fields.required Datum.readInt32
    let scale2 ← Fields.required Datum.readInt32
    pure (slot, .vertical y1 scale1 y2 scale2)

/-- An object. -/
def readObject : Datum → Option ObjectSpec :=
  Datum.readRecord ["number", "code", "verbs"] true do
    let number ← Fields.required Datum.readWord
    let code ← Fields.required Datum.readText
    let verbs ← Fields.required readByByte
    pure ⟨number, code, verbs⟩

/-- The files of a room. -/
def readBlockFiles : Datum → Option BlockFiles :=
  Datum.readRecord ["boxd", "boxm", "scal"] true do
    let boxes ← Fields.required Datum.readText
    let matrix ← Fields.omittable Datum.readText
    let ramps ← Fields.omittable Datum.readText
    pure ⟨boxes, matrix, ramps⟩

/-- A room. -/
def readRoom : Datum → Option RoomSpec :=
  Datum.readRecord
    ["number", "boxes", "binary", "matrix", "scale_slots", "locals", "objects"] true do
    let number ← Fields.required Datum.readByte
    let boxes ← Fields.defaulted (Datum.readList readBox) []
    let files ← Fields.omittable readBlockFiles
    let matrix ← Fields.omittable (Datum.readList (Datum.readList readRoute))
    let ramps ← Fields.defaulted (Datum.readList readRamp) []
    let locals ← Fields.defaulted readByWord []
    let objects ← Fields.defaulted (Datum.readList readObject) []
    pure ⟨number, boxes, files, matrix, ramps, locals, objects⟩

/-- An actor. -/
def readActor : Datum → Option ActorSpec :=
  Datum.readRecord
    ["number", "room", "x", "y", "costume", "speed", "facing", "ignore_boxes"] true do
    let number ← Fields.required Datum.readByte
    let room ← Fields.required Datum.readByte
    let x ← Fields.required Datum.readInt32
    let y ← Fields.required Datum.readInt32
    let costume ← Fields.defaulted Datum.readWord 0
    let speed ← Fields.omittable readPair
    let facing ← Fields.omittable Datum.readInt32
    let ignoreBoxes ← Fields.defaulted Datum.readBool false
    pure ⟨number, room, ⟨x, y⟩, costume, speed, facing, ignoreBoxes⟩

/-- A script that is started first. -/
def readBoot : Datum → Option BootScript :=
  Datum.readRecord ["script", "args", "freeze_resistant"] true do
    let script ← Fields.required Datum.readWord
    let args ← Fields.defaulted (Datum.readList Datum.readInt32) []
    let freezeResistant ← Fields.defaulted Datum.readBool false
    pure ⟨script, args, freezeResistant⟩

/-- The scenario that a record describes. -/
def ofDatum? : Datum → Option Scenario :=
  Datum.readRecord
    ["generation", "start_room", "ego", "hooks", "rooms", "scripts", "inventory", "floating",
      "actors", "boot", "abort_at"] true do
    let generation ← Fields.omittable Datum.readByte
    let startRoom ← Fields.required Datum.readByte
    let ego ← Fields.omittable Datum.readByte
    let hooks ← Fields.defaulted CutsceneHooks.ofDatum? ⟨0, 0⟩
    let rooms ← Fields.required (Datum.readList readRoom)
    let scripts ← Fields.defaulted readByWord []
    let inventory ← Fields.defaulted (Datum.readList readObject) []
    let floating ← Fields.defaulted (Datum.readList readObject) []
    let actors ← Fields.defaulted (Datum.readList readActor) []
    let boot ← Fields.defaulted (Datum.readList readBoot) []
    let abortAt ← Fields.defaulted (Datum.readList Datum.readNat64) []
    pure
      { generation, startRoom, ego, hooks, rooms, scripts, inventory, floating, actors, boot,
        abortAt }

/-- Reads a scenario file. -/
def parse? (text : String) : Option Scenario := (Json.read? text).bind ofDatum?

end Scenario

end Adventure
