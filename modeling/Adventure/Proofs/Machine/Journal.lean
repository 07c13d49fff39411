import Adventure.Proofs.Machine.Deeds
import Adventure.Proofs.Machine.Offstage
import Adventure.Proofs.Machine.Override

/-!
# The journal of a game

To count which script has opened which cutscene, a game is written down step by step.  A
journal has one line for each step, the newest first.  A line tells what the step does with
cutscenes, the slot in which it starts a script, if any, and the machine it leads to.

Every game that a host has before it has a journal, and so has every moment of its next deed
(`Journaled.hosted`, `Journaled.moment`).
-/

set_option autoImplicit false

namespace Adventure

/-- What a step does with cutscenes. -/
inductive Act where
  | opens
  | closes
  /-- The innermost cutscene is skipped. -/
  | skips
  | other
  deriving DecidableEq, Repr

/-- What an operation does with cutscenes. -/
def Operation.act : Operation → Act
  | beginCutscene => .opens
  | endCutscene => .closes
  | _ => .other

namespace Machine

variable {m m' start : Machine}

/-- What an order does with cutscenes, before the first call. -/
def Order.act : Order → Act
  | beginCutscene _ => .opens
  | endCutscene => .closes
  | abortCutscene => .skips
  | _ => .other

/-- Whether a deed runs no scripts. -/
def Deed.isPlain : Deed → Bool
  | order _ => false
  | pass => false
  | _ => true

/-- What happens between two instructions, when no order begins. -/
inductive Between : Machine → Machine → Prop where
  /-- A call is entered. -/
  | enter {m m' : Machine} {id : SlotId}
      (live : ∃ slot, m.slots.get? id = some slot ∧ slot.isDead = false)
      (done : enter id m = .ok () m') : Between m m'
  /-- A call returns. -/
  | back {m m' : Machine} (returned : Returned m m') : Between m m'
  | forget (m : Machine) : Between m m.forgetOpener
  /-- Turns begin. -/
  | opens {m m' : Machine} {deed : Deed} (opens : deed.Opens m m') : Between m m'
  /-- A slot that is ready gets its turn. -/
  | turn {m m' : Machine} {id : SlotId} (ready : m.isReady id = true)
      (loads : loadSlotCode id { m with current := some id } = .ok () m') : Between m m'
  /-- The actors move. -/
  | walk (m : Machine) (cast : Cast) (events : List String) :
      Between m { m with cast := cast, events := events }
  /-- The host does something that runs no scripts. -/
  | plain {m m' : Machine} {deed : Deed} {fuel : Nat} (rest : m.current = none)
      (plain : deed.isPlain = true) (done : deed.carryOut fuel m = .ok () m') : Between m m'

/-- One step of a game, with what it does and the slot in which it starts a script, if it does. -/
inductive Step : Machine → Act → Option SlotId → Machine → Prop where
  /-- An order begins. -/
  | ordered {m m' : Machine} {order : Order} {call : Option Call} (rest : m.current = none)
      (done : order.prepare m = .ok call m') : Step m order.act (call.map (·.slot)) m'
  /-- The executing script takes an instruction. -/
  | performed {m m' : Machine} {id : SlotId} {operation : Operation} {call : Option Call}
      (running : m.current = some id) (comes : m.upcoming? = some operation)
      (done : instruct id m = .ok call m') : Step m operation.act (call.map (·.slot)) m'
  | between {m m' : Machine} (between : Between m m') : Step m .other none m'

/-- What a step leaves behind. -/
structure Line extends Entry where
  act : Act

/-- The machine that a journal has led to. -/
def reached (start : Machine) : List Line → Machine
  | [] => start
  | line :: _ => line.after

/-- The steps of a game from a start on, the newest first. -/
inductive Journal (start : Machine) : List Line → Prop where
  | begin : Journal start []
  | step {past : List Line} {act : Act} {claimed : Option SlotId} {next : Machine}
      (before : Journal start past) (step : Step (reached start past) act claimed next) :
      Journal start (⟨⟨claimed, next⟩, act⟩ :: past)

/-! ## The executing script of a journal -/

theorem Between.sited (sited : Sited m) (between : Between m m') : Sited m' := by
  cases between with
  | enter live done => exact .enter live done
  | back returned => exact .returned returned
  | forget => exact sited.of_same rfl (fun _ _ => rfl) rfl rfl
  | opens opens => exact .of_rest opens.rest
  | turn ready loads => exact .load ready loads
  | walk => exact sited.of_same rfl (fun _ _ => rfl) rfl rfl
  | plain rest _ done => exact .of_rest (Deed.carryOut_rest rest done)

theorem instruct_sited {id : SlotId} {call : Option Call} (sited : Sited m)
    (running : m.current = some id) (done : instruct id m = .ok call m') : Sited m' := by
  cases call with
  | none => exact Sited.stable.instruct sited running done
  | some call =>
      obtain ⟨middle, before, claimed⟩ := Sited.stable.asks sited running done
      exact before.claimed claimed

theorem Step.sited {act : Act} {claimed : Option SlotId} (sited : Sited m)
    (step : Step m act claimed m') : Sited m' := by
  cases step with
  | ordered rest done => exact .of_rest (Order.prepare_rest rest done)
  | performed running _ done => exact instruct_sited sited running done
  | between between => exact between.sited sited

/-- **Wherever a journal leads, the executing script is alive and reads its own code.** -/
theorem Journal.sited {past : List Line} (rest : start.current = none)
    (journal : Journal start past) : Sited (reached start past) := by
  induction journal with
  | begin => exact .of_rest rest
  | step _ step ih => exact step.sited ih

/-! ## Every game has a journal -/

/-- Some journal leads to the machine. -/
def Journaled (start m : Machine) : Prop := ∃ past, Journal start past ∧ reached start past = m

namespace Journaled

variable {fuel : Nat}

theorem step {act : Act} {claimed : Option SlotId} (journaled : Journaled start m)
    (step : Step m act claimed m') : Journaled start m' := by
  obtain ⟨past, journal, rfl⟩ := journaled
  exact ⟨_, .step journal step, rfl⟩

theorem between (journaled : Journaled start m) (between : Between m m') : Journaled start m' :=
  journaled.step (.between between)

theorem instruct {id : SlotId} {call : Option Call} (journaled : Journaled start m)
    (running : m.current = some id) (done : Machine.instruct id m = .ok call m') :
    Journaled start m' := by
  obtain ⟨operation, _, _, comes, _⟩ := instruct_performs running done
  exact journaled.step (.performed running comes done)

theorem kept : Kept 0 (Journaled start) where
  instruct journaled running done := journaled.instruct running done
  call journaled running asks enters := by
    obtain ⟨_, _, _, claimed⟩ := instruct_asks asks
    exact (journaled.instruct running asks).between (.enter claimed.slot.2 enters)
  back journaled _ returned := journaled.between (.back returned)
  forget journaled := journaled.between (.forget _)

theorem lasting : Lasting (fun _ => True) (Journaled start) where
  kept := kept
  prepare journaled rest _ prepares := journaled.step (.ordered rest prepares)
  enter journaled live enters := journaled.between (.enter live enters)
  begins journaled begins := journaled.between (.opens (.tick begins))
  load journaled ready loads := journaled.between (.turn ready loads)
  walk cast events journaled := journaled.between (.walk _ cast events)

theorem carryOut {deed : Deed} (journaled : Journaled start m) (rest : m.current = none)
    (done : deed.carryOut fuel m = .ok () m') : Journaled start m' := by
  cases deed with
  | order order => exact lasting.carryOut journaled rest trivial done
  | pass =>
      obtain ⟨begun, turned, cast, events, opens, turns, rfl⟩ :=
        Deed.carryOut_turns (.inr rfl) done
      have begins := journaled.between (.opens opens)
      exact (Run.forM_kept lasting.turn begins turns).between (.walk turned cast events)
  | _ => exact journaled.between (.plain rest rfl done)

/-- **Every game has a journal.** -/
theorem hosted {Allowed : Deed → Prop} {Fair : Machine → Prop} (rest : start.current = none)
    (hosted : Hosted Allowed Fair start m) : Journaled start m := by
  induction hosted with
  | begin => exact ⟨[], .begin, rfl⟩
  | deed before _ _ _ _ done ih => exact ih.carryOut (before.rest rest) done

/-- Every moment of a deed has a journal. -/
theorem moment {deed : Deed} {moment : Machine} (journaled : Journaled start m)
    (rest : m.current = none) (during : deed.Moment fuel m moment) : Journaled start moment := by
  cases during with
  | called asks enters passes =>
      exact lasting.moment journaled rest trivial (.called asks enters passes)
  | turn opens inside earlier ready loads passes =>
      have begins := journaled.between (.opens opens)
      have before := Run.forM_kept lasting.turn begins earlier
      have turned := lasting.load before ready loads
      exact (kept.passes turned (Nat.zero_le _) passes).1

end Journaled

/-! ## Journals that are computed -/

/-- The journal with a number of further instructions of a slot, as long as they call no script. -/
def recite (id : SlotId) : (count : Nat) → Machine → List Line → Option (List Line)
  | 0, _, past => some past
  | count + 1, m, past =>
    match m.upcoming?, Run.value? (instruct id) m with
    | some operation, some none =>
      if m.current = some id then
        let next := Run.last (instruct id) m
        recite id count next (⟨⟨none, next⟩, operation.act⟩ :: past)
      else none
    | _, _ => none

/-- The journal of an order that starts a script, up to a number of instructions of it. -/
def transcript (start : Machine) (order : Order) (count : Nat) : Option (List Line) :=
  match Run.value? order.prepare start with
  | some (some call) =>
    let asked := Run.last order.prepare start
    let entered := Run.last (enter call.slot) asked
    match Run.value? (enter call.slot) asked with
    | some () =>
      if asked.isAlive call.slot then
        recite call.slot count entered
          [⟨⟨none, entered⟩, .other⟩, ⟨⟨some call.slot, asked⟩, order.act⟩]
      else none
    | none => none
  | _ => none

theorem Journal.recite {id : SlotId} {count : Nat} {past lines : List Line}
    (journal : Journal start past) (at_ : reached start past = m)
    (told : Machine.recite id count m past = some lines) : Journal start lines := by
  induction count generalizing m past with
  | zero =>
      cases told
      exact journal
  | succ count ih =>
      simp only [Machine.recite] at told
      split at told
      next operation comes taken =>
        split at told
        next running =>
          subst at_
          have done := Run.eq_ok_of_value? taken
          exact ih (.step journal (.performed running comes done)) rfl told
        next => cases told
      next => cases told

/-- **A transcript is a journal.** -/
theorem Journal.transcript {order : Order} {count : Nat} {lines : List Line}
    (rest : start.current = none) (told : Machine.transcript start order count = some lines) :
    Journal start lines := by
  simp only [Machine.transcript] at told
  split at told
  next call prepared =>
    split at told
    next entered =>
      split at told
      next alive =>
        have asks := Run.eq_ok_of_value? prepared
        have enters := Run.eq_ok_of_value? entered
        have live : ∃ slot, (Run.last order.prepare start).slots.get? call.slot = some slot ∧
            slot.isDead = false := by
          simpa [isAlive, Option.any_eq_true] using alive
        exact .recite (.step (.step .begin (.ordered rest asks)) (.between (.enter live enters))) rfl
          told
      next => cases told
    next => cases told
  next => cases told

end Machine

end Adventure
