import Adventure.Data.Checked
import Adventure.Data.Digits
import Adventure.Script.Slot

/-!
# What stops a script

Conditions that stop the interpreter, with their wording.  Everything else a script
can do wrong is ignored.
-/

set_option autoImplicit false

namespace Adventure

/-- A condition that stops the interpreter. -/
inductive ScriptError where
  | unknownOpcode (opcode : UInt8) (script : UInt16) (offset : Nat)
  | slotTableExhausted (script : UInt16)
  | nestingOverflow (limit : Nat)
  | cutsceneStackOverflow
  | cutsceneStackUnderflow
  | invalidJump (script : UInt16) (target : Int)
  | codeOverrun (script : UInt16) (offset : Nat)
  | missingScript (number : UInt16) (location : ScriptLocation)
  | scriptStoppedInCutscene (script : UInt16)
  | missingRoom (room : UInt8)
  deriving DecidableEq, Repr

namespace ScriptError

/-- The wording of each condition. -/
def message : ScriptError → String
  | unknownOpcode opcode script offset =>
    let shown := Digits.hexWithMark 4 opcode.toNat
    s!"unknown opcode {shown} in script {script.toNat} at offset {Digits.hexWithMark 6 offset}"
  | slotTableExhausted script => s!"no free script slot to start script {script.toNat}"
  | nestingOverflow limit => s!"script nesting deeper than {limit} levels"
  | cutsceneStackOverflow => "cutscene stack overflow"
  | cutsceneStackUnderflow => "cutscene stack underflow"
  | invalidJump script target => s!"script {script.toNat} jumps to negative offset {target}"
  | codeOverrun script offset =>
    let shown := Digits.hexWithMark 6 offset
    s!"script {script.toNat} reads past the end of its code at offset {shown}"
  | missingScript number location => s!"no code for {location.title} script {number.toNat}"
  | scriptStoppedInCutscene script =>
    s!"script {script.toNat} stopped while it still owns a cutscene"
  | missingRoom room => s!"room {room.toNat} is not available"

/-- The name of each condition. -/
def name : ScriptError → String
  | unknownOpcode .. => "UnknownOpcode"
  | slotTableExhausted .. => "SlotTableExhausted"
  | nestingOverflow .. => "NestingOverflow"
  | cutsceneStackOverflow => "CutsceneStackOverflow"
  | cutsceneStackUnderflow => "CutsceneStackUnderflow"
  | invalidJump .. => "InvalidJump"
  | codeOverrun .. => "CodeOverrun"
  | missingScript .. => "MissingScript"
  | scriptStoppedInCutscene .. => "ScriptStoppedInCutscene"
  | missingRoom .. => "MissingRoom"

end ScriptError

/-- Why a computation of the machine ended early. -/
inductive Halt where
  /-- A script did something that stops the interpreter. -/
  | failed (error : ScriptError)
  /-- A computation has no value. -/
  | fault (fault : Fault)
  deriving DecidableEq, Repr

end Adventure
