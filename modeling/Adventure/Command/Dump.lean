import Adventure.Actor.Record
import Adventure.Command.Session
import Adventure.Datum.Json.Printer
import Adventure.Room.Adjacency
import Adventure.WalkBox.Block

/-!
# Showing room data

The command decodes the boxes of a room, and on request its routing matrix and its
scale ramps, and prints them as a table or writes them as JSON.
-/

set_option autoImplicit false

namespace Adventure

/-- A stored corner as a record. -/
def StoredPoint.toDatum (p : StoredPoint) : Datum := p.toPoint.toDatum

/-- A stored box as a record. -/
def BoxRecord.toDatum (record : BoxRecord) : Datum :=
  .record ["ul", "ur", "lr", "ll", "mask", "flags", "scale"]
    [record.ul.toDatum, record.ur.toDatum, record.lr.toDatum, record.ll.toDatum,
      .byte record.mask, .byte record.flags, .word record.scale]

/-- An entry of a routing row as a record. -/
def RouteEntry.toDatum (entry : RouteEntry) : Datum :=
  .record ["low", "high", "hop"] [.byte entry.low, .byte entry.high, .byte entry.hop]

/-- A routing matrix as a record. -/
def Matrix.toDatum (matrix : Matrix) : Datum :=
  .record ["rows", "truncated"]
    [.listOf (Datum.listOf RouteEntry.toDatum) matrix.rows, .bool matrix.truncated]

/-- A stored ramp as a record. -/
def ScaleBlock.Entry.toDatum (entry : ScaleBlock.Entry) : Datum :=
  .record ["slot", "scale1", "y1", "scale2", "y2"]
    [.byte entry.slot, .word entry.scale1, .word entry.y1, .word entry.scale2, .word entry.y2]

namespace Command.Dump

open Arguments (Grammar Given)

/-- The options of the command. -/
def grammar : Grammar where
  options :=
    [⟨"boxm", .path⟩, ⟨"scal", .path⟩, ⟨"small-header", .nothing⟩, ⟨"json", .path⟩]
  operands := 1

/-- The text of the help option. -/
def help : String :=
  "\n".intercalate
    ["Usage: boxd_dump [OPTIONS] <BOXD>",
      "",
      "Arguments:",
      "  <BOXD>  Raw BOXD payload",
      "",
      "Options:",
      "      --boxm <BOXM>   Optional raw BOXM payload",
      "      --scal <SCAL>   Optional raw SCAL payload",
      "      --small-header  The payload uses a single-byte box count (v3/v4 rooms)",
      "      --json <JSON>   Write the decoded tables as JSON instead of printing them",
      "  -h, --help          Print help",
      "  -V, --version       Print version"]

/-- The text of the version option. -/
def version : String := "scumm_formats 0.1.0"

/-- The decoded tables of a room. -/
structure Tables where
  boxes : List BoxRecord
  matrix : Option Matrix
  ramps : List ScaleBlock.Entry

namespace Tables

/-- The tables as a record; tables that are not there are left out. -/
def toDatum (tables : Tables) : Datum :=
  Datum.mapOf <|
    [("boxes", .record ["boxes"] [.listOf BoxRecord.toDatum tables.boxes])] ++
      (tables.matrix.toList.map fun matrix => ("matrix", matrix.toDatum)) ++
      (if tables.ramps.isEmpty then []
        else [("scale_ramps", .listOf ScaleBlock.Entry.toDatum tables.ramps)])

/-- A number right-aligned in a field. -/
def column (width : Nat) (value : Int) : String := Digits.padLeft width ' ' value.repr

/-- A corner in a table. -/
def cornerText (p : StoredPoint) : String := s!"({column 4 p.x.toInt},{column 4 p.y.toInt})"

/-- The scale of a box in a table. -/
def scaleText (record : BoxRecord) : String :=
  match record.scaleSlot? with
  | some slot => s!"slot {slot.toNat}"
  | none => "0x" ++ Digits.hexUpper 4 record.scale.toNat

/-- One line for a box. -/
def boxLine (entry : BoxRecord × Nat) : String :=
  let (record, index) := entry
  let corners := " ".intercalate ([record.ul, record.ur, record.lr, record.ll].map cornerText)
  s!"{column 3 index}  {corners}  mask {column 2 record.mask.toNat}  " ++
    s!"flags 0x{Digits.hexUpper 2 record.flags.toNat}  scale {scaleText record}"

/-- One line for a routing row. -/
def rowLine (entry : List RouteEntry × Nat) : String :=
  let routes := entry.1.map fun route =>
    s!"{route.low.toNat}-{route.high.toNat}->{route.hop.toNat}"
  s!"{column 3 entry.2}: " ++ " ".intercalate routes

/-- One line for a ramp. -/
def rampLine (ramp : ScaleBlock.Entry) : String :=
  s!"scale slot {ramp.slot.toNat}: y {ramp.y1.toNat} -> {ramp.y2.toNat} " ++
    s!"scale {ramp.scale1.toNat} -> {ramp.scale2.toNat}"

/-- The lines for a matrix. -/
def matrixLines (matrix : Matrix) : List String :=
  ["", s!"box matrix ({matrix.rows.length} rows)"] ++ matrix.rows.zipIdx.map rowLine ++
    (if matrix.truncated then ["!! matrix payload is truncated"] else [])

/-- All lines of the printed tables. -/
def lines (tables : Tables) : List String :=
  [s!"{tables.boxes.length} boxes"] ++ tables.boxes.zipIdx.map boxLine ++
    tables.matrix.toList.flatMap matrixLines ++ tables.ramps.map rampLine

end Tables

variable {m : Type → Type} [Monad m]

/-- Decodes the files that were given. -/
def loadTables (disk : Disk m) (path : String) (given : Given) : Session m Tables := do
  let width : BoxBlock.CountWidth := if given.has "small-header" then .byte else .word
  let content ← readFile disk "reading BOXD payload" path
  let boxes ←
    match BoxBlock.decode width content with
    | .ok boxes => pure boxes
    | .error error => fail (s!"decoding BOXD payload {path}" :: error.trail)
  let matrix ←
    match given.value? "boxm" with
    | some path => do
      let content ← readFile disk "reading BOXM payload" path
      pure (some (RouteBlock.decode content))
    | none => pure none
  let ramps ←
    match given.value? "scal" with
    | some path => do
      let content ← readFile disk "reading SCAL payload" path
      match ScaleBlock.decode content with
      | .ok ramps => pure ramps
      | .error error => fail error.trail
    | none => pure []
  pure ⟨boxes, matrix, ramps⟩

/-- The whole command. -/
def session (disk : Disk m) (args : List String) : Session m Unit := do
  let given ← arguments grammar help version args
  match given.operands with
  | [] => throw .misuse
  | path :: _ =>
    let tables ← loadTables disk path given
    match given.value? "json" with
    | some path =>
      writeFile disk "creating" path (Bytes.ofText (Json.pretty tables.toDatum))
      sayLine s!"Saved room tables to {path}"
    | none => tables.lines.forM fun line => sayLine line

end Command.Dump

end Adventure
