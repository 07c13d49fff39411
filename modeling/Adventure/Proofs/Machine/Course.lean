import Adventure.Proofs.Machine.Resume

/-!
# The course of a tick

A tick leaves no trace of who has performed which instruction.  To speak about it, the tick
is recorded.  A `Course` tells which slot performs each instruction while a script has
control, and what happens in the calls it makes; `followTick` is a tick that tells the
course of every turn.  The record changes nothing: forgetting it gives the tick back.
-/

set_option autoImplicit false

namespace Adventure.Machine

variable {m m' : Machine} {fuel : Nat}

/-! ## Recording a tick -/

/-- What happens while a script has control, instruction by instruction. -/
inductive Course where
  /-- No script executes any more. -/
  | rest
  /-- A slot performs an instruction that starts no other script. -/
  | step (slot : SlotId) (next : Course)
  /-- A slot performs an instruction that starts another script, which runs.  Afterwards control
  is with a slot, or with none. -/
  | call (slot callee : SlotId) (inside : Course) (back : Option SlotId) (next : Course)
  deriving DecidableEq, Repr

/-- The slots in which scripts are started, in order. -/
def Course.starts : Course → List SlotId
  | rest => []
  | step _ next => next.starts
  | call _ callee inside _ next => callee :: (inside.starts ++ next.starts)

/-- Runs a slot on behalf of the executing script and tells what happens. -/
def followNested (run : Run Course) (id : SlotId) : Run Course := do
  enter id
  let inside ← run
  returnToCaller
  pure inside

/-- Carries out a call and tells what happens in it. -/
def followAnswer (run : Run Course) (call : Call) : Run Course :=
  if call.opening then Run.finally_ (followNested run call.slot) forgetOpener
  else followNested run call.slot

/-- Carries out the call of an instruction, if there is one, and tells how a course begins that
way. -/
def followCall (run : Run Course) (slot : SlotId) : Option Call → Run (Course → Course)
  | none => pure (.step slot)
  | some call => do
    let inside ← followAnswer run call
    let m ← get
    pure (.call slot call.slot inside m.current)

/-- Performs instructions until the executing slot gives up control, and tells what happens. -/
def follow : (fuel : Nat) → Run Course
  | 0 => throw (.fault .outOfFuel)
  | fuel + 1 => do
    match (← get).current with
    | none => pure .rest
    | some id =>
      let call ← instruct id
      let begins ← followCall (follow fuel) id call
      let next ← follow fuel
      pure (begins next)

/-- A slot that gets its turn, and what happens in it. -/
structure Turn where
  slot : SlotId
  course : Course
  deriving DecidableEq, Repr

/-- Gives a slot its turn if it is ready. -/
def followTurn (fuel : Nat) (id : SlotId) : Run (List Turn) := do
  if (← get).isReady id then
    modify fun m => { m with current := some id }
    loadSlotCode id
    let course ← follow fuel
    pure [⟨id, course⟩]
  else pure []

/-- Gives slots their turns, one after the other. -/
def followTurns (fuel : Nat) : List SlotId → Run (List Turn)
  | [] => pure []
  | id :: ids => do
    let first ← followTurn fuel id
    let rest ← followTurns fuel ids
    pure (first ++ rest)

/-- One tick, with the turns it gives. -/
def followTick (fuel : Nat) : Run (List Turn) := do
  beginTick
  let turns ← followTurns fuel (List.range 80)
  changeChecked (·.walkActors fuel)
  pure turns

/-! ## The record changes nothing -/

/-- A computation for its effect only. -/
def unrecorded {α : Type} (run : Run α) : Run Unit := run >>= fun _ => pure ()

theorem unrecorded_finally {α : Type} (run : Run α) (change : Machine → Machine) :
    unrecorded (Run.finally_ run change) = Run.finally_ (unrecorded run) change := by
  funext m
  simp only [unrecorded, Run.finally_, Run.bind_apply]
  cases run m <;> rfl

theorem unrecorded_followNested (run : Run Course) (id : SlotId) :
    unrecorded (followNested run id) = runNested (unrecorded run) id := by
  simp only [unrecorded, followNested, runNested, bind_assoc, pure_bind, bind_pure_unit]

theorem unrecorded_followCall (run : Run Course) (slot : SlotId) (call : Option Call) :
    unrecorded (followCall run slot call) = answer (unrecorded run) call := by
  cases call with
  | none => rfl
  | some call =>
      have answers : unrecorded (followAnswer run call) = answer (unrecorded run) (some call) := by
        unfold followAnswer answer
        dsimp only
        split
        · rw [unrecorded_finally, unrecorded_followNested]
        · rw [unrecorded_followNested]
      rw [← answers]
      simp only [unrecorded, followCall, bind_assoc, pure_bind]
      rfl

/-- Following an execution is executing. -/
theorem unrecorded_follow (fuel : Nat) : unrecorded (follow fuel) = execute fuel := by
  induction fuel with
  | zero => rfl
  | succ fuel ih =>
      unfold follow execute
      simp only [unrecorded, bind_assoc]
      congr 1
      funext m
      cases m.current with
      | none => rfl
      | some id =>
          have called := unrecorded_followCall (follow fuel) id
          rw [ih] at called
          unfold unrecorded at called ih
          simp only [step, bind_assoc, pure_bind, ← called, ih]

theorem unrecorded_followTurn (fuel : Nat) (id : SlotId) :
    unrecorded (followTurn fuel id) = takeTurn fuel id := by
  unfold followTurn takeTurn
  simp only [unrecorded, bind_assoc]
  congr 1
  funext m
  split
  · have same := unrecorded_follow fuel
    unfold unrecorded at same
    simp only [bind_assoc, pure_bind, same]
  · rfl

theorem unrecorded_followTurns (fuel : Nat) (ids : List SlotId) :
    unrecorded (followTurns fuel ids) = ids.forM (takeTurn fuel) := by
  induction ids with
  | nil => rfl
  | cons id ids ih =>
      rw [Run.forM_cons, ← unrecorded_followTurn, ← ih]
      simp only [unrecorded, followTurns, bind_assoc, pure_bind]

/-- **A tick that is followed is a tick.** -/
theorem unrecorded_followTick (fuel : Nat) : unrecorded (followTick fuel) = runTick fuel := by
  rw [runTick_eq, ← unrecorded_followTurns]
  simp only [unrecorded, followTick, bind_assoc, pure_bind, bind_pure_unit]

theorem unrecorded_ok {α : Type} {run : Run α} :
    unrecorded run m = .ok () m' ↔ ∃ value, run m = .ok value m' := by
  unfold unrecorded
  rw [Run.bind_eq_ok_iff]
  constructor
  · rintro ⟨value, _, ran, ended⟩
    cases ended
    exact ⟨value, ran⟩
  · rintro ⟨value, ran⟩
    exact ⟨value, m', ran, rfl⟩

/-! ## How a course comes about -/

theorem follow_execute {course : Course} (done : follow fuel m = .ok course m') :
    execute fuel m = .ok () m' := by
  rw [← unrecorded_follow]
  exact unrecorded_ok.mpr ⟨course, done⟩

/-- The first instruction of a course, and what follows it. -/
inductive Followed (fuel : Nat) (m : Machine) : Course → Machine → Prop where
  | rest (none : m.current = none) : Followed fuel m .rest m
  | step {id : SlotId} {next last : Machine} {later : Course} (running : m.current = some id)
      (steps : Machine.step (execute fuel) id m = .ok () next)
      (alone : instruct id m = .ok none next) (goes : follow fuel next = .ok later last) :
      Followed fuel m (.step id later) last
  | call {id : SlotId} {call : Call} {asked entered ended returned next last : Machine}
      {inside later : Course} (running : m.current = some id)
      (steps : Machine.step (execute fuel) id m = .ok () next)
      (asks : instruct id m = .ok (some call) asked)
      (enters : enter call.slot asked = .ok () entered)
      (runs : follow fuel entered = .ok inside ended)
      (back : returnToCaller ended = .ok () returned)
      (after : next = if call.opening then returned.forgetOpener else returned)
      (goes : follow fuel next = .ok later last) :
      Followed fuel m (.call id call.slot inside next.current later) last

theorem followNested_ok {run : Run Course} {id : SlotId} {inside : Course}
    (done : followNested run id m = .ok inside m') :
    ∃ entered ended, enter id m = .ok () entered ∧ run entered = .ok inside ended ∧
      returnToCaller ended = .ok () m' := by
  simp only [followNested, Run.bind_eq_ok_iff] at done
  obtain ⟨_, entered, enters, _, ended, ran, _, _, back, same⟩ := done
  cases same
  exact ⟨entered, ended, enters, ran, back⟩

theorem followAnswer_ok {run : Run Course} {call : Call} {inside : Course}
    (done : followAnswer run call m = .ok inside m') :
    ∃ entered ended returned, enter call.slot m = .ok () entered ∧
      run entered = .ok inside ended ∧ returnToCaller ended = .ok () returned ∧
      m' = if call.opening then returned.forgetOpener else returned := by
  unfold followAnswer at done
  by_cases opening : call.opening = true
  · simp only [opening, if_true, Run.finally_] at done ⊢
    split at done
    next nested =>
      cases done
      obtain ⟨entered, ended, enters, ran, back⟩ := followNested_ok nested
      exact ⟨entered, ended, _, enters, ran, back, rfl⟩
    next => cases done
  · simp only [opening, Bool.false_eq_true, if_false] at done ⊢
    obtain ⟨entered, ended, enters, ran, back⟩ := followNested_ok done
    exact ⟨entered, ended, m', enters, ran, back, rfl⟩

theorem follow_ok {course : Course} (done : follow (fuel + 1) m = .ok course m') :
    Followed fuel m course m' := by
  simp only [follow, Run.get_bind_apply] at done
  cases running : m.current with
  | none =>
      rw [running] at done
      cases done
      exact .rest running
  | some id =>
      simp only [running, Run.bind_eq_ok_iff] at done
      obtain ⟨call, asked, instructed, begins, next, called, later, _, goes, same⟩ := done
      cases same
      have steps : step (execute fuel) id m = .ok () next := by
        refine Run.bind_eq_ok_iff.mpr ⟨call, asked, instructed, ?_⟩
        rw [← unrecorded_follow, ← unrecorded_followCall (follow fuel) id]
        exact unrecorded_ok.mpr ⟨begins, called⟩
      cases call with
      | none =>
          cases called
          exact .step running steps instructed goes
      | some call =>
          simp only [followCall, Run.bind_eq_ok_iff, Run.get_apply] at called
          obtain ⟨inside, _, answered, _, _, same, ended⟩ := called
          cases same
          cases ended
          obtain ⟨entered, ended, returned, enters, ran, back, after⟩ := followAnswer_ok answered
          exact .call running steps instructed enters ran back after goes

theorem not_follow_zero {course : Course} : ¬ follow 0 m = .ok course m' := by
  intro done
  cases done

theorem follow_rest {course : Course} (rest : m.current = none)
    (done : follow fuel m = .ok course m') : course = .rest := by
  cases fuel with
  | zero => exact absurd done not_follow_zero
  | succ fuel =>
      cases follow_ok done with
      | rest => rfl
      | step running => cases rest.symm.trans running
      | call running => cases rest.symm.trans running

end Adventure.Machine
