import Adventure.Proofs.Machine.Backstage
import Adventure.Proofs.Machine.Orders
import Adventure.Proofs.Script.Assembly

/-!
# How orders fail

An order that does not end well stops at the first thing that goes wrong.  A failure is
lost when it comes from reading code: an unknown operation, a jump in front of the code,
or code that ends.  Everything else a machine does fails in other ways, and that is
proved part by part (`Tame`).  What is left are the failures of jumps, of overrides and
of fetching itself.
-/

set_option autoImplicit false

namespace Adventure

namespace Run

variable {α β : Type}

/-- A computation that never fails from reading code. -/
def Tame (run : Run α) : Prop :=
  ∀ m halt m', run m = .error halt m' → halt.isLost = false

theorem Tame.bind {first : Run α} {next : α → Run β} (tame : Tame first)
    (later : ∀ value, Tame (next value)) : Tame (first >>= next) := by
  intro m halt m' failed
  rcases bind_eq_error_iff.mp failed with early | ⟨value, middle, _, late⟩
  · exact tame m halt m' early
  · exact later value middle halt m' late

/-- What fails behind the scene does not fail from reading code. -/
theorem tame_of_discreet {run : Run α} (discreet : ∀ m, Discreet run m) : Tame run :=
  fun m _ _ failed => ((discreet m).fails failed).2

theorem tame_pure (value : α) : Tame (pure value) := by
  intro _ _ _ failed
  cases failed

theorem tame_get : Tame get := by
  intro _ _ _ failed
  cases failed

theorem tame_set (next : Machine) : Tame (set next) := by
  intro _ _ _ failed
  cases failed

theorem tame_modify (change : Machine → Machine) : Tame (modify change) := by
  intro _ _ _ failed
  cases failed

theorem tame_fail {error : ScriptError} (other : Halt.isLost (.failed error) = false) :
    Tame (fail error : Run α) := by
  intro _ _ _ failed
  cases failed
  exact other

theorem tame_ofChecked (computation : Checked α) : Tame (ofChecked computation) := by
  intro _ _ _ failed
  obtain ⟨_, _, rfl, _⟩ := ofChecked_eq_error_iff.mp failed
  rfl

theorem Tame.forM {act : α → Run PUnit} (tame : ∀ value, Tame (act value)) (values : List α) :
    Tame (values.forM act) := by
  induction values with
  | nil => exact tame_pure _
  | cons value rest ih => exact (tame value).bind fun _ => ih

theorem tame_driveActor (number : UInt8) (drive : Stage → Walk Unit) :
    Tame (driveActor number drive) := by
  refine .bind (tame_get.bind fun m => ?_) fun _ => tame_pure _
  split
  · exact tame_pure _
  · exact (tame_ofChecked _).bind fun _ => (tame_modify _).bind fun _ => tame_pure _

end Run

namespace Machine

open Run

/-! ## Parts -/

theorem tame_changeRoom (number : UInt8) : Tame (changeRoom number) := by
  refine tame_get.bind fun m => ?_
  split
  · exact tame_pure _
  · exact (tame_set _).bind fun _ => Tame.forM (fun _ => tame_driveActor _ _) _

theorem tame_loadSlotCode (id : SlotId) : Tame (loadSlotCode id) :=
  tame_of_discreet (discreet_loadSlotCode id)

theorem tame_enter (id : SlotId) : Tame (enter id) := by
  refine tame_get.bind fun m => (tame_set _).bind fun _ => ?_
  split
  · exact tame_fail rfl
  · exact (tame_set _).bind fun _ => tame_loadSlotCode id

theorem tame_returnToCaller : Tame returnToCaller := by
  refine tame_get.bind fun m => ?_
  split
  · exact tame_set _
  · refine (tame_set _).bind fun _ => ?_
    split
    · exact tame_pure _
    · split
      · exact tame_pure _
      · split
        · exact (tame_modify _).bind fun _ => tame_loadSlotCode _
        · exact tame_pure _

theorem tame_changeChecked (rule : Machine → Checked Machine) : Tame (changeChecked rule) :=
  tame_get.bind fun _ => (tame_ofChecked _).bind fun _ => tame_set _

theorem tame_beginTick : Tame beginTick :=
  (tame_changeChecked _).bind fun _ => (tame_changeChecked _).bind fun _ => tame_modify _

theorem tame_alone {run : Run Unit} (tame : Tame run) : Tame (alone run) :=
  tame.bind fun _ => tame_pure _

theorem Order.tame_prepare (order : Order) : Tame order.prepare := by
  cases order with
  | startScript =>
      exact (tame_of_discreet (discreet_prepareScript _ _ _ _)).bind fun _ => tame_pure _
  | startObject =>
      exact (tame_of_discreet (discreet_prepareObject _ _ _ _ _)).bind fun _ => tame_pure _
  | stopScript => exact tame_alone (tame_of_discreet (discreet_stopScript _))
  | stopObject => exact tame_alone (tame_of_discreet (discreet_stopObject _))
  | freezeScripts => exact tame_alone (tame_modify _)
  | unfreezeScripts => exact tame_alone (tame_modify _)
  | beginCutscene => exact tame_of_discreet (discreet_openCutscene _)
  | endCutscene => exact tame_of_discreet discreet_closeCutscene
  | abortCutscene => exact tame_alone (tame_modify _)
  | changeRoom => exact tame_alone (tame_changeRoom _)
  | tick => exact tame_alone (tame_pure _)

/-! ## Instructions -/

section Instructions

variable {m m' : Machine} {halt : Halt}

theorem alone_error {run : Run Unit} (failed : alone run m = .error halt m') :
    run m = .error halt m' := by
  rcases bind_eq_error_iff.mp failed with early | ⟨_, _, _, late⟩
  · exact early
  · cases late

theorem jumpBy_error {distance : Int} (failed : jumpBy distance m = .error halt m') :
    (m.pc : Int) + distance < 0 := by
  simp only [jumpBy, bind_eq_error_iff, get_apply] at failed
  rcases failed with early | ⟨_, _, same, rest⟩
  · cases early
  · cases same
    by_cases negative : (m.pc : Int) + distance < 0
    · exact negative
    · simp [negative] at rest

theorem jumpOnLocal_error {index : UInt8} {distance : Int} {whenZero : Bool}
    (failed : jumpOnLocal index distance whenZero m = .error halt m') :
    (m.pc : Int) + distance < 0 := by
  simp only [jumpOnLocal, bind_eq_error_iff, get_apply] at failed
  rcases failed with early | ⟨_, _, same, rest⟩
  · cases early
  · cases same
    split at rest
    · exact jumpBy_error rest
    · cases rest

theorem fetch_error {α : Type} {read : Code → Fetch α} (failed : fetch read m = .error halt m') :
    ∃ offset, read m.code m.pc = .error offset ∧
      halt = .failed (.codeOverrun m.currentNumber offset) ∧ m' = { m with pc := offset } := by
  unfold fetch at failed
  split at failed
  next => cases failed
  next offset missing =>
    cases failed
    exact ⟨offset, missing, rfl, rfl⟩

/-- Arming an override fails when the code ends within the three bytes that follow. -/
theorem beginOverride_error (failed : beginOverride m = .error halt m') :
    m.code.length < m.pc + 3 := by
  apply Nat.lt_of_not_le
  intro present
  have first : m.code.byte m.pc = .ok (m.code[m.pc], m.pc + 1) :=
    Code.byte_of_getElem? (List.getElem?_eq_getElem (by omega))
  obtain ⟨word, second⟩ : ∃ word, m.code.word (m.pc + 1) = .ok (word, m.pc + 1 + 2) := by
    refine ⟨_, Code.word_of_bytes (List.getElem?_eq_getElem ?_) (List.getElem?_eq_getElem ?_)⟩
    · omega
    · omega
  simp only [beginOverride, bind_apply, modify_apply, fetch, first, second] at failed
  cases failed

/-- **How an instruction fails**: not from reading code, unless it jumps in front of the code or
arms an override too near to its end. -/
theorem perform_error {operation : Operation} {operands : Operands operation.shape}
    (failed : perform operation operands m = .error halt m') :
    halt.isLost = false ∨
      (∃ distance, Instruction.distance? ⟨operation, operands⟩ = some distance ∧
        (m.pc : Int) + distance < 0) ∨
      operation = .beginOverride ∧ m.code.length < m.pc + 3 := by
  have tamely : ∀ {run : Run (Option Call)}, Tame run → run m = .error halt m' →
      halt.isLost = false ∨
        (∃ distance, Instruction.distance? ⟨operation, operands⟩ = some distance ∧
          (m.pc : Int) + distance < 0) ∨
        operation = .beginOverride ∧ m.code.length < m.pc + 3 :=
    fun tame failed => .inl (tame m halt m' failed)
  cases operation with
  | jump => exact .inr (.inl ⟨_, rfl, jumpBy_error (alone_error failed)⟩)
  | jumpIfZero => exact .inr (.inl ⟨_, rfl, jumpOnLocal_error (alone_error failed)⟩)
  | jumpIfNotZero => exact .inr (.inl ⟨_, rfl, jumpOnLocal_error (alone_error failed)⟩)
  | beginOverride => exact .inr (.inr ⟨rfl, beginOverride_error (alone_error failed)⟩)
  | startScript =>
      exact tamely
        ((tame_of_discreet (discreet_prepareScript _ _ _ _)).bind fun _ => tame_pure _) failed
  | startObject =>
      exact tamely
        ((tame_of_discreet (discreet_prepareObject _ _ _ _ _)).bind fun _ => tame_pure _) failed
  | stopScript =>
      refine tamely (tame_alone ?_) failed
      split
      · exact tame_modify _
      · exact tame_of_discreet (discreet_stopScript _)
  | stopObject => exact tamely (tame_alone (tame_of_discreet (discreet_stopObject _))) failed
  | beginCutscene => exact tamely (tame_of_discreet (discreet_openCutscene _)) failed
  | endCutscene => exact tamely (tame_of_discreet discreet_closeCutscene) failed
  | loadRoom => exact tamely (tame_alone (tame_changeRoom _)) failed
  | walkActor => exact tamely (tame_alone (tame_driveActor _ _)) failed
  | putActor => exact tamely (tame_alone (tame_driveActor _ _)) failed
  | faceActor => exact tamely (tame_alone (tame_driveActor _ _)) failed
  | actorSpeed => exact tamely (tame_alone (tame_driveActor _ _)) failed
  | ignoreBoxes => exact tamely (tame_alone (tame_driveActor _ _)) failed
  | actorCostume => exact tamely (tame_alone (tame_driveActor _ _)) failed
  | stopActor => exact tamely (tame_alone (tame_driveActor _ _)) failed
  | _ => exact tamely (tame_alone (tame_modify _)) failed

/-- How fetching and performing an instruction fails. -/
theorem instruct_error {id : SlotId} (failed : instruct id m = .error halt m') :
    (m.code[m.pc]? = none ∧ halt = .failed (.codeOverrun m.currentNumber m.pc) ∧
        m' = { m with opStart := m.pc }) ∨
      ∃ opcode, m.code[m.pc]? = some opcode ∧
        ∀ operation operands after, Operation.ofCode? opcode = some operation →
          m.code.operands operation.shape (m.pc + 1) = .ok (operands, after) →
          perform operation operands (m.fetched id after) = .error halt m' := by
  simp only [instruct, bind_eq_error_iff, modify_apply] at failed
  rcases failed with early | ⟨_, _, marked, failed⟩
  · cases early
  cases marked
  rcases failed with early | ⟨opcode, _, first, failed⟩
  · obtain ⟨offset, missing, rfl, rfl⟩ := fetch_error early
    obtain ⟨rfl, none⟩ := Code.byte_error missing
    exact .inl ⟨none, rfl, rfl⟩
  obtain ⟨_, read, rfl⟩ := fetch_ok first
  obtain ⟨rfl, found⟩ := Code.byte_ok read
  rcases failed with early | ⟨_, _, touched, failed⟩
  · cases early
  cases touched
  refine .inr ⟨opcode, found, ?_⟩
  intro operation operands after known read'
  simp only [known, handle_eq, bind_eq_error_iff] at failed
  rcases failed with early | ⟨_, _, second, performed⟩
  · obtain ⟨offset, missing, _⟩ := fetch_error early
    cases read'.symm.trans missing
  · obtain ⟨_, read'', rfl⟩ := fetch_ok second
    cases read'.symm.trans read''
    exact performed

end Instructions

/-! ## Calls and executions -/

section Calls

variable {m m' : Machine} {halt : Halt}

/-- A call fails when its slot cannot be entered, while it runs, or when its caller cannot go
on.  What failed is seen in the machine up to the opener of a cutscene. -/
theorem answer_error {run : Run Unit} {call : Call}
    (failed : answer run (some call) m = .error halt m') :
    ∃ reached, (m' = reached ∨ m' = reached.forgetOpener) ∧
      (halt.isLost = false ∨
        ∃ entered, enter call.slot m = .ok () entered ∧ run entered = .error halt reached) := by
  have nested : ∃ reached, (m' = reached ∨ m' = reached.forgetOpener) ∧
      runNested run call.slot m = .error halt reached := by
    unfold answer at failed
    by_cases opening : call.opening = true
    · simp only [opening, if_true, finally_] at failed
      split at failed
      next => cases failed
      next _ reached ran =>
        cases failed
        exact ⟨reached, .inr rfl, ran⟩
    · simp only [opening, Bool.false_eq_true, if_false] at failed
      exact ⟨m', .inl rfl, failed⟩
  obtain ⟨reached, same, failed⟩ := nested
  refine ⟨reached, same, ?_⟩
  rcases bind_eq_error_iff.mp failed with early | ⟨_, entered, enters, failed⟩
  · exact .inl (tame_enter _ _ _ _ early)
  rcases bind_eq_error_iff.mp failed with during | ⟨_, ended, ran, late⟩
  · exact .inr ⟨entered, enters, during⟩
  · exact .inl (tame_returnToCaller _ _ _ late)

theorem execute_error {fuel : Nat} (failed : execute (fuel + 1) m = .error halt m') :
    ∃ id, m.current = some id ∧
      (step (execute fuel) id m = .error halt m' ∨
        ∃ next, step (execute fuel) id m = .ok () next ∧ execute fuel next = .error halt m') := by
  simp only [execute, bind_eq_error_iff, get_apply] at failed
  rcases failed with early | ⟨_, _, same, rest⟩
  · cases early
  cases same
  cases running : m.current with
  | none =>
      rw [running] at rest
      cases rest
  | some id =>
      simp only [running, bind_eq_error_iff] at rest
      rcases rest with first | ⟨_, next, first, later⟩
      · exact ⟨id, rfl, .inl first⟩
      · exact ⟨id, rfl, .inr ⟨next, first, later⟩⟩

theorem takeTurn_error {fuel : Nat} {id : SlotId} (failed : takeTurn fuel id m = .error halt m') :
    halt.isLost = false ∨ ∃ loaded, m.isReady id = true ∧
      loadSlotCode id { m with current := some id } = .ok () loaded ∧
      execute fuel loaded = .error halt m' := by
  simp only [takeTurn, bind_eq_error_iff, get_apply] at failed
  rcases failed with early | ⟨_, _, same, rest⟩
  · cases early
  cases same
  by_cases ready : m.isReady id = true
  · simp only [ready, if_true, bind_eq_error_iff, modify_apply] at rest
    rcases rest with early | ⟨_, _, chosen, rest⟩
    · cases early
    cases chosen
    rcases rest with unloaded | ⟨_, loaded, loads, ran⟩
    · exact .inl (tame_loadSlotCode _ _ _ _ unloaded)
    · exact .inr ⟨loaded, ready, loads, ran⟩
  · simp only [ready, Bool.false_eq_true, if_false] at rest
    cases rest

theorem runTick_error {fuel : Nat} (failed : runTick fuel m = .error halt m') :
    halt.isLost = false ∨ ∃ begun, beginTick m = .ok () begun ∧
      (List.range 80).forM (takeTurn fuel) begun = .error halt m' := by
  simp only [runTick_eq, bind_eq_error_iff] at failed
  rcases failed with early | ⟨_, begun, first, failed⟩
  · exact .inl (tame_beginTick _ _ _ early)
  rcases failed with turn | ⟨_, _, _, late⟩
  · exact .inr ⟨begun, first, turn⟩
  · exact .inl (tame_changeChecked _ _ _ _ late)

end Calls

end Machine

end Adventure
