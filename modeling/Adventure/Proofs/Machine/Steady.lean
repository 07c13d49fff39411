import Adventure.Proofs.Machine.Backstage
import Adventure.Proofs.Machine.Runnable

/-!
# Calls that stay open

While a script executes, the scripts that have called it wait on the call stack.  Stopping
a script detaches the calls in which it waits, and nothing else happens to a frame until
its call returns.  So the stack after an instruction is the stack before it, `Weathered`:
each frame is as it was, or detached.

This holds however the instruction ends (`Steady`).  Whatever stays behind the scene is
steady; what is left are the instructions that drive actors or change the room.
-/

set_option autoImplicit false

namespace Adventure

/-! ## However a computation ends -/

namespace Run

variable {α β : Type} {m : Machine}

/-- However the computation ends, the open calls are as they were or detached. -/
def Steady (run : Run α) (m : Machine) : Prop := m.calls.Weathered (last run m).calls

theorem Aside.steady {run : Run α} (aside : Aside run m) : Steady run m := aside.keeps.calls

theorem last_bind (first : Run α) (next : α → Run β) (m : Machine) :
    last (first >>= next) m =
      match first m with
      | .ok value middle => last (next value) middle
      | .error _ middle => middle := by
  unfold last
  rw [bind_apply]
  cases first m <;> rfl

theorem Steady.ok {run : Run α} {value : α} {m' : Machine} (steady : Steady run m)
    (done : run m = .ok value m') : m.calls.Weathered m'.calls := by
  unfold Steady last at steady
  rw [done] at steady
  exact steady

theorem Steady.bind {first : Run α} {next : α → Run β} (steady : Steady first m)
    (later : ∀ value middle, Steady (next value) middle) : Steady (first >>= next) m := by
  unfold Steady at steady ⊢
  rw [last_bind]
  cases ended : first m with
  | ok value middle =>
      have reached : last first m = middle := by rw [last, ended]
      rw [reached] at steady
      exact steady.trans (later value middle)
  | error halt middle =>
      have reached : last first m = middle := by rw [last, ended]
      rw [reached] at steady
      exact steady

/-- A computation that reads the machine first. -/
theorem Steady.get_bind {next : Machine → Run β} (steady : Steady (next m) m) :
    Steady (get >>= next) m := steady

theorem Steady.set_bind {middle : Machine} {next : PUnit → Run β}
    (weathers : m.calls.Weathered middle.calls) (steady : Steady (next ⟨⟩) middle) :
    Steady ((set middle : Run PUnit) >>= next) m := weathers.trans steady

theorem steady_get (m : Machine) : Steady get m := .refl _

theorem steady_pure (value : α) (m : Machine) : Steady (pure value) m := .refl _

theorem steady_fail (error : ScriptError) (m : Machine) : Steady (fail error : Run α) m := .refl _

theorem steady_modify {change : Machine → Machine} (same : (change m).calls = m.calls) :
    Steady (modify change : Run PUnit) m := by
  change m.calls.Weathered (change m).calls
  rw [same]
  exact .refl _

theorem steady_ofChecked (computation : Checked α) (m : Machine) :
    Steady (ofChecked computation) m := by
  cases computation <;> exact .refl _

theorem Steady.forM {act : α → Run PUnit} (steady : ∀ value m, Steady (act value) m)
    (values : List α) (m : Machine) : Steady (values.forM act) m := by
  induction values generalizing m with
  | nil => exact steady_pure _ m
  | cons value rest ih => exact (steady value m).bind fun _ => ih

theorem steady_driveActor (number : UInt8) (drive : Stage → Walk Unit) (m : Machine) :
    Steady (driveActor number drive) m := by
  refine .bind (.get_bind ?_) fun _ => steady_pure _
  split
  · exact steady_pure _ _
  · exact (steady_ofChecked _ _).bind fun _ _ => (steady_modify rfl).bind fun _ => steady_pure _

end Run

namespace Machine

open Run

/-! ### Parts of an instruction -/

theorem steady_changeRoom (number : UInt8) (m : Machine) : Steady (changeRoom number) m := by
  refine .get_bind ?_
  split
  · exact steady_pure _ _
  · exact .set_bind (.invalidate _ _) (.forM (fun _ => steady_driveActor _ _) _ _)

theorem steady_loadSlotCode (id : SlotId) (m : Machine) : Steady (loadSlotCode id) m :=
  (discreet_loadSlotCode id m).aside.steady

theorem steady_beginOverride (m : Machine) : Steady beginOverride m := (aside_beginOverride m).steady

theorem steady_alone {run : Run Unit} {m : Machine} (steady : Steady run m) :
    Steady (alone run) m :=
  steady.bind fun _ => steady_pure _

theorem stopCurrent_calls (m : Machine) : m.stopCurrent.calls = m.calls := by
  obtain ⟨events, same⟩ := stopCurrent_eq m
  rw [same]
  rfl

/-- **An instruction is steady**, even when it fails. -/
theorem steady_perform (operation : Operation) (operands : Operands operation.shape) (m : Machine) :
    Steady (perform operation operands) m := by
  cases operation with
  | loadRoom => exact steady_alone (steady_changeRoom _ _)
  | walkActor | putActor | faceActor | actorSpeed | ignoreBoxes | actorCostume | stopActor =>
    exact steady_alone (steady_driveActor _ _ _)
  | setBoxFlags | createBoxMatrix | setScaleSlot => exact steady_alone (steady_modify rfl)
  | _ => exact (aside_perform rfl _ m).steady

theorem steady_instruct (id : SlotId) (m : Machine) : Steady (instruct id) m := by
  refine (steady_modify rfl).bind fun _ _ => (aside_fetch _ _).steady.bind fun opcode _ =>
    (steady_modify rfl).bind fun _ _ => ?_
  split
  · exact .get_bind (steady_fail _ _)
  · rw [handle_eq]
    exact (aside_fetch _ _).steady.bind fun _ => steady_perform _ _

theorem Order.steady_prepare (order : Order) (m : Machine) : Steady order.prepare m := by
  cases order with
  | changeRoom => exact steady_alone (steady_changeRoom _ _)
  | _ => exact (Order.aside_prepare (by simp) m).steady

end Machine

end Adventure
