import Adventure.Script.Slot

/-!
# Nested calls

A script that starts another one waits until that one yields.  The call stack
remembers who waits; it is kept innermost call first and holds at most fifteen
frames.
-/

set_option autoImplicit false

namespace Adventure

/-- A script that waits for the one it has started. -/
structure CallFrame where
  number : UInt16
  location : ScriptLocation
  /-- Empty once the waiting script has been stopped. -/
  slot : Option SlotId
  deriving DecidableEq, Repr, Inhabited

namespace CallFrame

/-- The frame of a call that no script has made. -/
def host : CallFrame := ⟨0, .global, none⟩

/-- The frame of a script that must not be resumed any more. -/
def invalidate (frame : CallFrame) : CallFrame := { frame with slot := none, number := 0 }

end CallFrame

/-- The waiting scripts, innermost first. -/
abbrev CallStack := List CallFrame

namespace CallStack

/-- The greatest number of frames. -/
def limit : Nat := 15

/-- The stack with one more frame, unless it is full. -/
def push? (stack : CallStack) (frame : CallFrame) : Option CallStack :=
  if stack.length < limit then some (frame :: stack) else none

/-- Detaches every frame that satisfies a test. -/
def invalidate (stack : CallStack) (test : CallFrame → Bool) : CallStack :=
  stack.map fun frame => if test frame then frame.invalidate else frame

end CallStack

end Adventure
