import Adventure.Machine.Snapshot
import Adventure.Proofs.Machine.Deeds
import Adventure.Proofs.Machine.Steady

/-!
# The call stack is balanced

A call pushes a frame and takes it off when it returns.  In between any code may run: it
calls other scripts, it detaches frames below, it ends its own caller.  Still every deed
that ends well leaves the calls that were open when it began, as they were or detached,
and nothing above them.

The argument follows the calls that were open at the beginning.  They are at the bottom of
the stack throughout (`Standing`), because an execution takes off no more frames than it
has pushed.

The stack never holds more than its limit, because the one place that pushes asks first
(`Shallow`).  A deed that fails may leave frames behind, but never too many.
-/

set_option autoImplicit false

namespace Adventure.Machine

open Run

section Calls

variable {m m' : Machine} {fuel : Nat}

/-! ## The calls below -/

/-- The calls are at the bottom of the stack, some of them detached. -/
def Standing (calls : CallStack) (m : Machine) : Prop :=
  ∃ inner outer, m.calls = inner ++ outer ∧ calls.Weathered outer

namespace Standing

variable {calls : CallStack}

theorem here (m : Machine) : Standing m.calls m := ⟨[], m.calls, rfl, .refl _⟩

/-- The calls stay where they are when the whole stack weathers. -/
theorem weathers (standing : Standing calls m) (weathers : m.calls.Weathered m'.calls) :
    Standing calls m' := by
  obtain ⟨inner, outer, below, weathered⟩ := standing
  refine ⟨m'.calls.take inner.length, m'.calls.drop inner.length,
    (List.take_append_drop _ _).symm, weathered.trans ?_⟩
  rw [below] at weathers
  have bottom := List.forall₂_drop inner.length weathers
  rw [List.drop_left] at bottom
  exact bottom

theorem enter {id : SlotId} (standing : Standing calls m)
    (done : Machine.enter id m = .ok () m') : Standing calls m' := by
  obtain ⟨inner, outer, below, weathered⟩ := standing
  obtain ⟨_, _, _, _, rfl⟩ := enter_ok done
  exact ⟨m.callFrame :: inner, outer, congrArg _ below, weathered⟩

/-- A frame above is taken off. -/
theorem pop (standing : Standing calls m) (deep : calls.length < m.calls.length)
    {frame : CallFrame} {rest : CallStack} (open_ : m.calls = frame :: rest)
    (taken : m'.calls = rest) : Standing calls m' := by
  obtain ⟨inner, outer, below, weathered⟩ := standing
  cases inner with
  | nil =>
      rw [below, List.nil_append, weathered.length_eq] at deep
      exact absurd deep (Nat.lt_irrefl _)
  | cons _ inner =>
      cases open_.symm.trans below
      exact ⟨inner, outer, taken, weathered⟩

theorem kept : Kept calls.length (Standing calls) where
  instruct standing _ done := standing.weathers ((steady_instruct _ _).ok done)
  call standing _ asks enters := (standing.weathers ((steady_instruct _ _).ok asks)).enter enters
  back standing deep returned := by
    cases returned with
    | bare empty => simp [empty] at deep
    | stays frame outer open_ => exact standing.pop deep open_ rfl
    | resumes frame outer open_ => exact standing.pop deep open_ rfl
  forget standing := standing

/-- When nothing is above them, the calls are the whole stack. -/
theorem weathered (standing : Standing calls m) (same : m.calls.length = calls.length) :
    calls.Weathered m.calls := by
  obtain ⟨inner, outer, below, weathered⟩ := standing
  have none : inner = [] := by
    rw [below, List.length_append, weathered.length_eq] at same
    exact List.eq_nil_of_length_eq_zero (by omega)
  rw [below, none]
  exact weathered

end Standing

/-- **An execution leaves the calls that were open**, as they were or detached. -/
theorem execute_weathers (done : execute fuel m = .ok () m') : m.calls.Weathered m'.calls := by
  obtain ⟨standing, same⟩ := Standing.kept.execute (.here m) (Nat.le_refl _) done
  exact standing.weathered same

theorem Returned.calls_tail (returned : Returned m m') : m'.calls = m.calls.tail := by
  cases returned with
  | bare empty => rw [empty]; rfl
  | stays frame outer open_ => rw [open_]; rfl
  | resumes frame outer open_ => rw [open_]; rfl

theorem answer_weathers {call : Option Call} (done : answer (execute fuel) call m = .ok () m') :
    m.calls.Weathered m'.calls := by
  cases call with
  | none =>
      cases done
      exact .refl _
  | some call =>
      obtain ⟨entered, ended, returned, enters, ran, back, rfl⟩ := answer_ok done
      have inside := execute_weathers ran
      obtain ⟨_, _, _, _, rfl⟩ := enter_ok enters
      obtain ⟨frame, outer, _, below, open_⟩ := List.forall₂_cons_left_iff.mp inside
      have taken : returned.calls = outer := by
        rw [(returnToCaller_ok back).calls_tail, open_]
        rfl
      have weathered : m.calls.Weathered returned.calls := taken ▸ below
      split
      · exact weathered
      · exact weathered

theorem takeTurn_weathers {id : SlotId} (done : takeTurn fuel id m = .ok () m') :
    m.calls.Weathered m'.calls := by
  rcases takeTurn_ok done with rfl | ⟨loaded, _, loads, ran⟩
  · exact .refl _
  · obtain ⟨_, _, _, _, rfl⟩ := loadSlotCode_ok loads
    have inside := execute_weathers ran
    exact inside

theorem decreaseDelay_calls {amount : Int} (done : m.decreaseDelay amount = .ok m') :
    m'.calls = m.calls := by
  unfold decreaseDelay at done
  split at done
  · cases done
    rfl
  · cases done

theorem Deed.Opens.calls {deed : Deed} {begun : Machine} (opens : deed.Opens m begun) :
    begun.calls = m.calls := by
  cases opens with
  | tick begins => rw [beginTick_ok begins]
  | pass => rfl

theorem turns_weathers {ids : List SlotId} (done : ids.forM (takeTurn fuel) m = .ok () m') :
    m.calls.Weathered m'.calls := by
  have keeps : ∀ {id : SlotId} {before after : Machine}, m.calls.Weathered before.calls →
      takeTurn fuel id before = .ok () after → m.calls.Weathered after.calls :=
    fun weathered turn => weathered.trans (takeTurn_weathers turn)
  exact Run.forM_kept keeps (.refl _) done

/-- **A deed that ends well leaves the calls that were open**, as they were or detached. -/
theorem Deed.carryOut_weathers {deed : Deed} (done : deed.carryOut fuel m = .ok () m') :
    m.calls.Weathered m'.calls := by
  by_cases turning : deed = .order .tick ∨ deed = .pass
  · obtain ⟨begun, turned, cast, events, opens, turns, rfl⟩ := Deed.carryOut_turns turning done
    have weathered := turns_weathers turns
    rw [opens.calls] at weathered
    exact weathered
  cases deed with
  | order order =>
      have once : order ≠ .tick := by
        rintro rfl
        exact turning (.inl rfl)
      change order.carryOut fuel m = _ at done
      rw [Order.carryOut_eq fuel once, Run.bind_eq_ok_iff] at done
      obtain ⟨call, asked, prepares, answered⟩ := done
      exact ((order.steady_prepare m).ok prepares).trans (answer_weathers answered)
  | pass => exact absurd (.inr rfl) turning
  | wait amount =>
      rw [decreaseDelay_calls (changeChecked_ok done)]
      exact .refl _
  | stopCurrent => exact (steady_modify (stopCurrent_calls m)).ok done
  | beginOverride => exact (steady_beginOverride m).ok done
  | endOverride =>
      cases done
      exact .refl _
  | arrange =>
      cases done
      exact .refl _

end Calls

/-! ## The limit -/

/-- However the computation ends, the stack is within its limit if it was before. -/
def Shallow {α : Type} (run : Run α) : Prop :=
  ∀ m, m.calls.length ≤ CallStack.limit → (last run m).calls.length ≤ CallStack.limit

namespace Shallow

variable {α β : Type}

theorem of_steady {run : Run α} (steady : ∀ m, Steady run m) : Shallow run := by
  intro m within
  rw [(steady m).length_eq]
  exact within

theorem bind {first : Run α} {next : α → Run β} (shallow : Shallow first)
    (later : ∀ value, Shallow (next value)) : Shallow (first >>= next) := by
  intro m within
  have reached := shallow m within
  rw [last_bind]
  unfold last at reached
  cases ended : first m with
  | ok value middle =>
      rw [ended] at reached
      exact later value middle reached
  | error halt middle =>
      rw [ended] at reached
      exact reached

theorem finally_ {run : Run α} {change : Machine → Machine} (shallow : Shallow run)
    (same : ∀ m, (change m).calls = m.calls) : Shallow (run.finally_ change) := by
  intro m within
  have reached := shallow m within
  unfold last at reached ⊢
  unfold Run.finally_
  cases ended : run m with
  | ok value middle =>
      rw [ended] at reached
      exact (same middle).symm ▸ reached
  | error halt middle =>
      rw [ended] at reached
      exact (same middle).symm ▸ reached

theorem forM {act : α → Run PUnit} (shallow : ∀ value, Shallow (act value)) (values : List α) :
    Shallow (values.forM act) := by
  induction values with
  | nil => exact .of_steady (steady_pure _)
  | cons value rest ih => exact (shallow value).bind fun _ => ih

/-- The one place that pushes a frame asks for room first. -/
theorem enter (id : SlotId) : Shallow (enter id) := by
  intro m within
  unfold Machine.enter
  rw [last_bind, get_apply]
  dsimp only
  rw [last_bind, set_apply]
  cases pushed : (m.changeCurrent fun slot => { slot with offset := m.pc }).calls.push?
      m.callFrame with
  | none => exact within
  | some calls =>
      have room : calls.length ≤ CallStack.limit := by
        unfold CallStack.push? at pushed
        split at pushed
        next fits =>
          cases pushed
          exact fits
        next => cases pushed
      exact of_steady (steady_loadSlotCode id)
        { m.noted with calls := calls, current := some id } room

theorem returnToCaller : Shallow returnToCaller := by
  intro m within
  unfold Machine.returnToCaller
  rw [last_bind, get_apply]
  cases open_ : m.calls with
  | nil =>
      simp only [open_]
      exact Nat.zero_le _
  | cons frame outer =>
      simp only [open_]
      have taken : outer.length ≤ CallStack.limit := by
        rw [open_, List.length_cons] at within
        omega
      -- what follows when the frame has been taken off is steady
      rw [last_bind, set_apply]
      refine of_steady (fun next => ?_) { m with calls := outer, current := none } taken
      split
      · exact steady_pure _ _
      · split
        · exact steady_pure _ _
        · split
          · exact (steady_modify rfl).bind fun _ => steady_loadSlotCode _
          · exact steady_pure _ _

theorem answer {run : Run Unit} (shallow : Shallow run) (call : Option Call) :
    Shallow (answer run call) := by
  have nested : ∀ id, Shallow (runNested run id) := fun id =>
    (enter id).bind fun _ => shallow.bind fun _ => returnToCaller
  cases call with
  | none => exact .of_steady (steady_pure _)
  | some call =>
      unfold Machine.answer
      dsimp only
      split
      · exact (nested _).finally_ fun _ => rfl
      · exact nested _

theorem execute (fuel : Nat) : Shallow (execute fuel) := by
  induction fuel with
  | zero => exact fun _ within => within
  | succ fuel ih =>
      refine .bind (.of_steady steady_get) fun m => ?_
      split
      · exact .of_steady (steady_pure _)
      · exact ((of_steady (steady_instruct _)).bind (answer ih)).bind fun _ => ih

theorem takeTurn (fuel : Nat) (id : SlotId) : Shallow (takeTurn fuel id) := by
  refine .bind (.of_steady steady_get) fun m => ?_
  split
  · exact .bind (.of_steady fun _ => steady_modify rfl) fun _ =>
      .bind (.of_steady (steady_loadSlotCode id)) fun _ => execute fuel
  · exact .of_steady (steady_pure _)

theorem changeChecked {rule : Machine → Checked Machine}
    (same : ∀ {m m'}, rule m = .ok m' → m'.calls = m.calls) : Shallow (changeChecked rule) := by
  refine .of_steady fun m => .get_bind ?_
  unfold Steady last
  cases ruled : rule m with
  | ok next =>
      change m.calls.Weathered next.calls
      rw [same ruled]
      exact .refl _
  | error fault => exact .refl _

theorem runScripts (fuel : Nat) : Shallow (runScripts fuel) :=
  .bind (.of_steady fun _ => steady_modify rfl) fun _ => forM (takeTurn fuel) _

theorem runTick (fuel : Nat) : Shallow (runTick fuel) := by
  refine (changeChecked ?_).bind fun _ => (changeChecked decreaseDelay_calls).bind fun _ =>
    (runScripts fuel).bind fun _ => changeChecked ?_
  · intro m m' counted
    unfold countTick at counted
    split at counted
    · cases counted
      rfl
    · cases counted
  · intro m m' walked
    obtain ⟨_, _, rfl⟩ := walkActors_ok walked
    rfl

theorem carryOut (fuel : Nat) (deed : Deed) : Shallow (deed.carryOut fuel) := by
  cases deed with
  | order order =>
      by_cases tick : order = .tick
      · subst tick
        exact runTick fuel
      · change Shallow (order.carryOut fuel)
        rw [Order.carryOut_eq fuel tick]
        exact (of_steady order.steady_prepare).bind (answer (execute fuel))
  | pass => exact runScripts fuel
  | wait amount => exact changeChecked decreaseDelay_calls
  | stopCurrent => exact .of_steady fun m => steady_modify (stopCurrent_calls m)
  | beginOverride => exact .of_steady steady_beginOverride
  | endOverride => exact .of_steady fun _ => steady_modify rfl
  | arrange => exact .of_steady fun _ => steady_modify rfl

end Shallow

section Moments

variable {m m' : Machine} {fuel : Nat}

theorem enter_within {id : SlotId} (within : m.calls.length ≤ CallStack.limit)
    (enters : enter id m = .ok () m') : m'.calls.length ≤ CallStack.limit := by
  have reached := Shallow.enter id m within
  rw [last, enters] at reached
  exact reached

/-- Calls stay within the limit in the middle of executions, too. -/
theorem kept_within : Kept 0 fun m => m.calls.length ≤ CallStack.limit where
  instruct within _ done := by
    rw [instruct_calls_length done]
    exact within
  call within _ asks enters := by
    rw [← instruct_calls_length asks] at within
    exact enter_within within enters
  back within _ returned := by
    rw [returned.calls_length]
    omega
  forget within := within

theorem Deed.Moment.within {deed : Deed} {moment : Machine}
    (within : m.calls.length ≤ CallStack.limit) (during : deed.Moment fuel m moment) :
    moment.calls.length ≤ CallStack.limit := by
  cases during with
  | called asks enters passes =>
      rw [← Order.prepare_calls_length asks] at within
      exact (kept_within.passes (enter_within within enters) (Nat.zero_le _) passes).1
  | turn opens _ earlier _ loads passes =>
      have begins := (turns_weathers earlier).length_eq
      rw [opens.calls] at begins
      obtain ⟨_, _, _, _, rfl⟩ := loadSlotCode_ok loads
      exact (kept_within.passes (begins ▸ within) (Nat.zero_le _) passes).1

end Moments

/-! ## Games -/

/-- The games that a host has before it: new ones, what deeds that end well make of them, and
games into which the snapshot of another such game has been restored. -/
inductive Ongoing : Machine → Prop where
  | fresh {m : Machine} (pristine : Pristine m) : Ongoing m
  | deed {m next : Machine} (before : Ongoing m) (deed : Deed) (fuel : Nat)
      (done : deed.carryOut fuel m = .ok () next) : Ongoing next
  | restored {m saved next : Machine} (before : Ongoing m) (kept : Ongoing saved)
      (done : m.restore saved.snapshot = .ok next) : Ongoing next

theorem restore_ok {m m' : Machine} {saved : Snapshot} (done : m.restore saved = .ok m') :
    m'.calls = saved.calls ∧ m'.current = none := by
  unfold restore at done
  split at done
  · cases done
  · split at done
    · cases done
    · cases done
      exact ⟨rfl, rfl⟩

theorem Ongoing.idle {m : Machine} (ongoing : Ongoing m) : Idle m := by
  induction ongoing with
  | fresh pristine => exact ⟨pristine.rest, pristine.calls⟩
  | deed _ _ _ done ih =>
      exact ih.of_length (Deed.carryOut_rest ih.rest done) (Deed.carryOut_weathers done).length_eq
  | restored _ _ done _ ih =>
      obtain ⟨calls, rest⟩ := restore_ok done
      exact ⟨rest, calls.trans ih.closed⟩

/-- **The call stack is balanced.**  A deed that ends well, done with any machine, leaves as many
calls open as it has found, each of them as it was or detached.  A stack within its limit stays
there in every moment of a deed, and also when the deed fails.  So between two deeds of a game no
call is open and no script executes. -/
theorem calls_balanced :
    (∀ (deed : Deed) (fuel : Nat) (m m' : Machine), deed.carryOut fuel m = .ok () m' →
      m'.calls.length = m.calls.length ∧ m.calls.Weathered m'.calls) ∧
    (∀ (deed : Deed) (fuel : Nat) (m : Machine), m.calls.length ≤ CallStack.limit →
      (∀ moment, deed.Moment fuel m moment → moment.calls.length ≤ CallStack.limit) ∧
        (Run.last (deed.carryOut fuel) m).calls.length ≤ CallStack.limit) ∧
    ∀ m, Ongoing m → m.calls = [] ∧ m.current = none := by
  refine ⟨?_, ?_, ?_⟩
  · intro deed fuel m m' done
    have weathered := Deed.carryOut_weathers done
    exact ⟨weathered.length_eq, weathered⟩
  · intro deed fuel m within
    exact ⟨fun moment during => during.within within, Shallow.carryOut fuel deed m within⟩
  · intro m ongoing
    exact ⟨ongoing.idle.closed, ongoing.idle.rest⟩

/-- A machine with an open call, in which script one waits.  Script two stops it. -/
def openCall : Machine :=
  { boot .standard ⟨[(1, [0x01]), (2, [0x08, 1, 0, 0x00])], [], [], .empty⟩ [] with
    slots := SlotTable.empty.modify 1 fun _ => .start 1 .global 0 false false []
    calls := [⟨1, .global, some 1⟩] }

theorem calls_balanced_openCall : ∃ m' game,
    (Deed.order (.startScript 2 false false [])).carryOut 9 openCall = .ok () m' ∧
      openCall.calls.Weathered m'.calls ∧ m'.calls = [⟨0, .global, none⟩] ∧
      (∀ moment, (Deed.order (.startScript 2 false false [])).Moment 9 openCall moment →
        moment.calls.length ≤ 15) ∧
      Ongoing game ∧ game.tick = 1 ∧ game.calls = [] ∧ game.current = none := by
  have stops : (Deed.order (.startScript 2 false false [])).carryOut 9 openCall = .ok () _ :=
    Run.eq_ok_of_value? (by decide +kernel)
  have ticks : (Deed.order .tick).carryOut 9 oneCall = .ok () _ :=
    Run.eq_ok_of_value? (by decide +kernel)
  have ongoing : Ongoing _ := .deed (.fresh (boot_pristine _ _ _)) _ 9 ticks
  obtain ⟨balanced, bounded, closed⟩ := calls_balanced
  exact ⟨_, _, stops, (balanced _ _ _ _ stops).2, by decide +kernel,
    (bounded _ _ _ (by decide)).1, ongoing, by decide +kernel, closed _ ongoing⟩

end Adventure.Machine
