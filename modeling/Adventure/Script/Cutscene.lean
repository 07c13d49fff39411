import Adventure.Script.Slot

/-!
# The cutscene stack

Cutscenes nest up to a fixed depth.  The frame at the bottom is no cutscene: it
serves overrides that are armed outside of any.  A frame remembers the data of its
cutscene and, while an override is armed, where the script that armed it goes on
when the player skips the cutscene.
-/

set_option autoImplicit false

namespace Adventure

/-- One cutscene. -/
structure CutsceneFrame where
  data : Int
  /-- Where to go on when the cutscene is skipped, while an override is armed. -/
  resumeOffset : Option Nat
  ownerSlot : Option SlotId
  deriving DecidableEq, Repr, Inhabited

namespace CutsceneFrame

/-- The frame of no cutscene. -/
def blank : CutsceneFrame := ⟨0, none, none⟩

end CutsceneFrame

/-- Five frames and which of them is the innermost in use. -/
structure CutsceneStack where
  frames : Bank CutsceneFrame 5
  pointer : Fin 5
  deriving DecidableEq

namespace CutsceneStack

/-- No cutscene at all. -/
def empty : CutsceneStack := ⟨.replicate 5 .blank, 0⟩

instance : Inhabited CutsceneStack := ⟨empty⟩

/-- The innermost frame. -/
def top (stack : CutsceneStack) : CutsceneFrame :=
  (stack.frames.get? stack.pointer.val).getD .blank

/-- Changes the innermost frame. -/
def modifyTop (stack : CutsceneStack) (change : CutsceneFrame → CutsceneFrame) : CutsceneStack :=
  { stack with frames := stack.frames.modify stack.pointer.val change }

/-- Opens a cutscene, unless the stack is full. -/
def push? (stack : CutsceneStack) (data : Int) : Option CutsceneStack :=
  if h : stack.pointer.val + 1 < 5 then
    some ⟨stack.frames.set (stack.pointer.val + 1) ⟨data, none, none⟩, ⟨stack.pointer.val + 1, h⟩⟩
  else none

/-- Clears the innermost frame. -/
def clearTop (stack : CutsceneStack) : CutsceneStack := stack.modifyTop fun _ => .blank

/-- Closes the innermost cutscene, unless there is none. -/
def pop? (stack : CutsceneStack) : Option CutsceneStack :=
  if stack.pointer.val = 0 then none
  else some { stack.clearTop with pointer := ⟨stack.pointer.val - 1, by omega⟩ }

end CutsceneStack

/-- The scripts that run around every cutscene; zero is none. -/
structure CutsceneHooks where
  start : UInt16
  stop : UInt16
  deriving DecidableEq, Repr, Inhabited

end Adventure
