import Adventure.Data.Bytes

/-!
# The instruction set

An instruction is an operation together with its operands.  Each operation fixes
the shape of its operands, so the type of an instruction's operands depends on the
operation: `Operands op.shape` is a tuple with one entry for each operand.

In code an instruction is one byte for the operation, then the operands: bytes,
words low byte first, and argument lists as a count byte and that many words.
-/

set_option autoImplicit false

namespace Adventure

/-- The code of a script. -/
abbrev Code := Bytes

/-- The shape of one operand. -/
inductive Operand where
  | byte
  | word
  /-- A signed word. -/
  | int
  /-- A signed distance from the end of the operand. -/
  | label
  /-- A count and that many signed words; only ever the last operand. -/
  | args
  deriving DecidableEq, Repr

namespace Operand

/-- The size in code, for shapes that always have the same. -/
def size? : Operand → Option Nat
  | byte => some 1
  | word => some 2
  | int => some 2
  | label => some 2
  | args => none

/-- The name of a shape. -/
def name : Operand → String
  | byte => "Byte"
  | word => "Word"
  | int => "Int"
  | label => "Label"
  | args => "Args"

/-- The values of a shape. -/
abbrev Value : Operand → Type
  | byte => UInt8
  | word => UInt16
  | int => Int
  | label => Int
  | args => List Int

/-- The bytes of a value. -/
def encode : (operand : Operand) → operand.Value → Bytes
  | byte, value => [value]
  | word, value => Bytes.ofWordLow value
  | int, value => Bytes.ofWordLow (Bytes.word16 value)
  | label, value => Bytes.ofWordLow (Bytes.word16 value)
  | args, values =>
    UInt8.ofNat values.length :: values.flatMap fun value => Bytes.ofWordLow (Bytes.word16 value)

end Operand

/-- One value for each shape of a list. -/
abbrev Operands : List Operand → Type
  | [] => Unit
  | operand :: rest => operand.Value × Operands rest

namespace Operands

/-- The bytes of a tuple of operands. -/
def encode : (shape : List Operand) → Operands shape → Bytes
  | [], _ => []
  | operand :: rest, values => operand.encode values.1 ++ encode rest values.2

end Operands

/-- The operations. -/
inductive Operation where
  | end_
  | break_
  | delay
  | jump
  | setLocal
  | addLocal
  | jumpIfZero
  | startScript
  | stopScript
  | startObject
  | stopObject
  | freeze
  | beginCutscene
  | endCutscene
  | beginOverride
  | endOverride
  | waitActor
  | waitScript
  | walkActor
  | putActor
  | faceActor
  | actorSpeed
  | setBoxFlags
  | createBoxMatrix
  | setScaleSlot
  | setVar
  | overrideToLocal
  | ignoreBoxes
  | setEgo
  | loadRoom
  | actorCostume
  | stopActor
  | jumpIfNotZero
  | isScriptRunning
  | isObjectRunning
  deriving DecidableEq, Repr

namespace Operation

/-- All operations, in the order of their codes. -/
def all : List Operation :=
  [end_, break_, delay, jump, setLocal, addLocal, jumpIfZero, startScript, stopScript, startObject,
    stopObject, freeze, beginCutscene, endCutscene, beginOverride, endOverride, waitActor,
    waitScript, walkActor, putActor, faceActor, actorSpeed, setBoxFlags, createBoxMatrix,
    setScaleSlot, setVar, overrideToLocal, ignoreBoxes, setEgo, loadRoom, actorCostume, stopActor,
    jumpIfNotZero, isScriptRunning, isObjectRunning]

/-- The byte of an operation. -/
def code : Operation → UInt8
  | end_ => 0x00
  | break_ => 0x01
  | delay => 0x02
  | jump => 0x03
  | setLocal => 0x04
  | addLocal => 0x05
  | jumpIfZero => 0x06
  | startScript => 0x07
  | stopScript => 0x08
  | startObject => 0x09
  | stopObject => 0x0A
  | freeze => 0x0B
  | beginCutscene => 0x0C
  | endCutscene => 0x0D
  | beginOverride => 0x0E
  | endOverride => 0x0F
  | waitActor => 0x10
  | waitScript => 0x11
  | walkActor => 0x12
  | putActor => 0x13
  | faceActor => 0x14
  | actorSpeed => 0x15
  | setBoxFlags => 0x16
  | createBoxMatrix => 0x17
  | setScaleSlot => 0x18
  | setVar => 0x19
  | overrideToLocal => 0x1A
  | ignoreBoxes => 0x1B
  | setEgo => 0x1C
  | loadRoom => 0x1D
  | actorCostume => 0x1E
  | stopActor => 0x1F
  | jumpIfNotZero => 0x20
  | isScriptRunning => 0x21
  | isObjectRunning => 0x22

/-- The word that stands for an operation in assembly text. -/
def mnemonic : Operation → String
  | end_ => "end"
  | break_ => "break"
  | delay => "delay"
  | jump => "jump"
  | setLocal => "set-local"
  | addLocal => "add-local"
  | jumpIfZero => "jump-if-zero"
  | startScript => "start-script"
  | stopScript => "stop-script"
  | startObject => "start-object"
  | stopObject => "stop-object"
  | freeze => "freeze"
  | beginCutscene => "begin-cutscene"
  | endCutscene => "end-cutscene"
  | beginOverride => "begin-override"
  | endOverride => "end-override"
  | waitActor => "wait-actor"
  | waitScript => "wait-script"
  | walkActor => "walk-actor"
  | putActor => "put-actor"
  | faceActor => "face-actor"
  | actorSpeed => "actor-speed"
  | setBoxFlags => "set-box-flags"
  | createBoxMatrix => "create-box-matrix"
  | setScaleSlot => "set-scale-slot"
  | setVar => "set-var"
  | overrideToLocal => "override-to-local"
  | ignoreBoxes => "ignore-boxes"
  | setEgo => "set-ego"
  | loadRoom => "load-room"
  | actorCostume => "actor-costume"
  | stopActor => "stop-actor"
  | jumpIfNotZero => "jump-if-not-zero"
  | isScriptRunning => "is-script-running"
  | isObjectRunning => "is-object-running"

/-- The shape of an operation's operands. -/
def shape : Operation → List Operand
  | end_ => []
  | break_ => []
  | delay => [.word]
  | jump => [.label]
  | setLocal => [.byte, .int]
  | addLocal => [.byte, .int]
  | jumpIfZero => [.byte, .label]
  | startScript => [.word, .byte, .args]
  | stopScript => [.word]
  | startObject => [.word, .byte, .byte, .args]
  | stopObject => [.word]
  | freeze => [.byte]
  | beginCutscene => [.args]
  | endCutscene => []
  | beginOverride => []
  | endOverride => []
  | waitActor => [.byte]
  | waitScript => [.word]
  | walkActor => [.byte, .int, .int, .int]
  | putActor => [.byte, .int, .int, .byte]
  | faceActor => [.byte, .int]
  | actorSpeed => [.byte, .byte, .byte]
  | setBoxFlags => [.byte, .word]
  | createBoxMatrix => []
  | setScaleSlot => [.byte, .int, .int, .int, .int]
  | setVar => [.word, .int]
  | overrideToLocal => [.byte]
  | ignoreBoxes => [.byte, .byte]
  | setEgo => [.byte]
  | loadRoom => [.byte]
  | actorCostume => [.byte, .word]
  | stopActor => [.byte]
  | jumpIfNotZero => [.byte, .label]
  | isScriptRunning => [.byte, .word]
  | isObjectRunning => [.byte, .word]

/-- The operation with a given byte. -/
def ofCode? (code : UInt8) : Option Operation := all.find? fun operation => operation.code == code

/-- The operation with a given mnemonic. -/
def ofMnemonic? (word : String) : Option Operation :=
  all.find? fun operation => operation.mnemonic == word

end Operation

/-- An operation with its operands. -/
structure Instruction where
  operation : Operation
  operands : Operands operation.shape

namespace Instruction

/-- The bytes of an instruction. -/
def encode (instruction : Instruction) : Bytes :=
  instruction.operation.code :: Operands.encode instruction.operation.shape instruction.operands

end Instruction

/-! ## Reading code -/

/-- Reads code from an offset on, moving the offset along.  A failure gives the offset of
the first byte that is missing. -/
abbrev Fetch := StateT Nat (Except Nat)

namespace Code

/-- Reads a byte. -/
def byte (code : Code) : Fetch UInt8 := fun offset =>
  match code[offset]? with
  | some value => .ok (value, offset + 1)
  | none => .error offset

/-- Reads a word. -/
def word (code : Code) : Fetch UInt16 := do
  let low ← code.byte
  let high ← code.byte
  pure (Bytes.wordLow low high)

/-- Reads a signed word. -/
def int (code : Code) : Fetch Int := do
  let value ← code.word
  pure (Bytes.signed16 value)

/-- Reads a number of signed words. -/
def ints (code : Code) : Nat → Fetch (List Int)
  | 0 => pure []
  | count + 1 => do
    let value ← code.int
    let values ← code.ints count
    pure (value :: values)

/-- Reads a count and that many signed words. -/
def args (code : Code) : Fetch (List Int) := do
  let count ← code.byte
  code.ints count.toNat

/-- Reads one operand. -/
def operand (code : Code) : (operand : Operand) → Fetch operand.Value
  | .byte => code.byte
  | .word => code.word
  | .int => code.int
  | .label => code.int
  | .args => code.args

/-- Reads a tuple of operands. -/
def operands (code : Code) : (shape : List Operand) → Fetch (Operands shape)
  | [] => pure ()
  | first :: rest => do
    let value ← code.operand first
    let values ← code.operands rest
    pure (value, values)

end Code

end Adventure
