import Adventure.Proofs.Machine.Journal
import Adventure.Proofs.Machine.Opener

/-!
# Journals in which calls nest

A `Journal` says of every step what it does, but its steps may follow each other in any order: a
call may be entered that nobody has asked for.  In a `Nested` journal they follow each other as in
a game.  A slot in which a script has been started is entered at once, and what the host does, it
does while no script executes.  So in every nested journal only runnable scripts execute
(`Nested.awake`).

Nested journals tell of games in which delays pass in ticks only.  Every such game has one, and so
has every moment of its next deed.  A journal that leads to a moment can be continued to the end
of the deed, and of the game (`Tells`).
-/

set_option autoImplicit false

namespace Adventure.Machine

variable {m m' start : Machine}

/-- Whether no delay passes by it, unless a tick does. -/
def Deed.isClocked : Deed → Bool
  | wait _ => false
  | _ => true

/-- The slot in which the newest line has started a script, if it has. -/
def asked : List Line → Option SlotId
  | [] => none
  | line :: _ => line.claimed

/-- One step of a game in which calls nest, with what it does with cutscenes and the slot in which
it starts a script, if it does.  The first slot is the one in which the step before has started a
script. -/
inductive Move : Option SlotId → Machine → Act → Option SlotId → Machine → Prop where
  /-- An order begins. -/
  | ordered {m m' : Machine} {order : Order} {call : Option Call} (idle : Idle m)
      (done : order.prepare m = .ok call m') : Move none m order.act (call.map (·.slot)) m'
  /-- The executing script takes an instruction. -/
  | performed {m m' : Machine} {id : SlotId} {operation : Operation} {call : Option Call}
      (running : m.current = some id) (comes : m.upcoming? = some operation)
      (done : instruct id m = .ok call m') : Move none m operation.act (call.map (·.slot)) m'
  /-- The script that has been started is entered. -/
  | enter {m m' : Machine} {id : SlotId} (done : enter id m = .ok () m') :
      Move (some id) m .other none m'
  /-- A call returns. -/
  | back {m m' : Machine} (returned : Returned m m') : Move none m .other none m'
  | forget (m : Machine) : Move none m .other none m.forgetOpener
  /-- Turns begin. -/
  | opens {m m' : Machine} {deed : Deed} (idle : Idle m) (opens : deed.Opens m m') :
      Move none m .other none m'
  /-- A slot that is ready gets its turn. -/
  | turn {m m' : Machine} {id : SlotId} (idle : Idle m) (ready : m.isReady id = true)
      (loads : loadSlotCode id { m with current := some id } = .ok () m') :
      Move none m .other none m'
  /-- The actors move. -/
  | walk (m : Machine) (cast : Cast) (events : List String) :
      Move none m .other none { m with cast := cast, events := events }
  /-- The host does something that runs no scripts. -/
  | plain {m m' : Machine} {deed : Deed} {fuel : Nat} (idle : Idle m)
      (plain : deed.isPlain = true) (clocked : deed.isClocked = true)
      (done : deed.carryOut fuel m = .ok () m') : Move none m .other none m'

/-- The steps of a game from a start on in which calls nest, the newest first. -/
inductive Nested (start : Machine) : List Line → Prop where
  | begin : Nested start []
  | move {past : List Line} {act : Act} {claimed : Option SlotId} {next : Machine}
      (before : Nested start past)
      (move : Move (asked past) (reached start past) act claimed next) :
      Nested start (⟨⟨claimed, next⟩, act⟩ :: past)

/-! ## The executing script of a nested journal -/

/-- The slot is runnable, and its script neither executes nor waits in a call. -/
structure Enterable (id : SlotId) (m : Machine) : Prop where
  idle : m.current ≠ some id
  unawaited : ∀ {depth frame}, m.frameAt depth = some frame → frame.slot ≠ some id
  able : ∃ slot, m.slots.get? id = some slot ∧ slot.isRunnable = true

/-- A script that has just been started can be entered. -/
theorem Awake.enterable {id : SlotId} (awake : Awake m) (claimed : Claimed m id m') :
    Enterable id m' := by
  obtain ⟨idle, unawaited⟩ := awake.unused claimed
  refine ⟨?_, ?_, claimed.runnable⟩
  · rw [claimed.current]
    exact idle
  · intro depth frame found
    rw [frameAt_of_calls claimed.calls] at found
    exact unawaited found

theorem Deed.carryOut_idle {deed : Deed} {fuel : Nat} (idle : Idle m)
    (done : deed.carryOut fuel m = .ok () m') : Idle m' :=
  idle.of_length (Deed.carryOut_rest idle.rest done) (Deed.carryOut_weathers done).length_eq

/-- **A move keeps the executing script runnable**, and a script that it starts can be entered. -/
theorem Move.awake {pending claimed : Option SlotId} {act : Act} (awake : Awake m)
    (enterable : ∀ id, pending = some id → Enterable id m)
    (move : Move pending m act claimed m') :
    Awake m' ∧ ∀ id, claimed = some id → Enterable id m' := by
  have alone : Awake m' → Awake m' ∧ ∀ id, none = some id → Enterable id m' :=
    fun awake => ⟨awake, fun _ none => nomatch none⟩
  have started : ∀ {middle : Machine} {call : Call}, Awake middle → Claimed middle call.slot m' →
      Awake m' ∧ ∀ id, some call.slot = some id → Enterable id m' := by
    intro middle call before claims
    refine ⟨before.claimed claims, ?_⟩
    rintro id ⟨⟩
    exact before.enterable claims
  cases move with
  | @ordered _ _ _ call idle done =>
      cases call with
      | none =>
          have after : Idle m' :=
            idle.of_length (Order.prepare_rest idle.rest done) (Order.prepare_calls_length done)
          exact alone after.awake
      | some call =>
          obtain ⟨middle, effects, claims⟩ := Order.prepare_asks done
          exact started (Awake.stable.effects awake effects) claims
  | @performed _ _ _ _ call running _ done =>
      cases call with
      | none => exact alone (Awake.stable.instruct awake running done)
      | some call =>
          obtain ⟨middle, before, claims⟩ := Awake.stable.asks awake running done
          exact started before claims
  | enter done =>
      obtain ⟨idle, unawaited, able⟩ := enterable _ rfl
      exact alone (awake.enter idle unawaited able done)
  | back returned => exact alone (awake.returned returned)
  | forget => exact alone (awake.of_same rfl rfl rfl)
  | opens idle opens => exact alone (opens.idle idle).awake
  | turn idle ready loads => exact alone (idle.load ready loads)
  | walk => exact alone (awake.of_same rfl rfl rfl)
  | plain idle _ _ done => exact alone (Deed.carryOut_idle idle done).awake

/-- **Wherever a nested journal leads, only a runnable script executes**, and a script that has
just been started can be entered. -/
theorem Nested.awake {past : List Line} (idle : Idle start) (nested : Nested start past) :
    Awake (reached start past) ∧ ∀ id, asked past = some id → Enterable id (reached start past) := by
  induction nested with
  | begin => exact ⟨idle.awake, fun _ none => nomatch none⟩
  | move _ move ih => exact move.awake ih.1 ih.2

/-- A move is a step of a journal. -/
theorem Move.step {pending claimed : Option SlotId} {act : Act}
    (enterable : ∀ id, pending = some id → Enterable id m)
    (move : Move pending m act claimed m') : Step m act claimed m' := by
  cases move with
  | ordered idle done => exact .ordered idle.rest done
  | performed running comes done => exact .performed running comes done
  | enter done =>
      obtain ⟨slot, present, able⟩ := (enterable _ rfl).able
      simp only [Slot.isRunnable, Bool.and_eq_true, beq_iff_eq] at able
      exact .between (.enter ⟨slot, present, by simp [Slot.isDead, able.1]⟩ done)
  | back returned => exact .between (.back returned)
  | forget => exact .between (.forget m)
  | opens _ opens => exact .between (.opens opens)
  | turn _ ready loads => exact .between (.turn ready loads)
  | walk => exact .between (.walk m _ _)
  | plain idle plain _ done => exact .between (.plain idle.rest plain done)

/-- A nested journal is a journal. -/
theorem Nested.journal {past : List Line} (idle : Idle start) (nested : Nested start past) :
    Journal start past := by
  induction nested with
  | begin => exact .begin
  | move before move ih => exact .step ih (move.step (before.awake idle).2)

theorem Nested.tail {line : Line} {past : List Line} (nested : Nested start (line :: past)) :
    Nested start past := by
  cases nested with
  | move before _ => exact before

/-- The journal that a nested journal continues is nested. -/
theorem Nested.suffix {recent past : List Line} (nested : Nested start (recent ++ past)) :
    Nested start past := by
  induction recent with
  | nil => exact nested
  | cons line recent ih => exact ih nested.tail

/-- Where a continued journal leads. -/
theorem reached_append (recent past : List Line) :
    reached start (recent ++ past) = reached (reached start past) recent := by
  cases recent with
  | nil => rfl
  | cons => rfl

/-! ## The rest of a deed -/

/-- An instruction that starts no script leads to the next passage. -/
theorem Passes.next {fuel : Nat} {id : SlotId} {moment next : Machine}
    (passes : Passes fuel m moment) (done : execute fuel m = .ok () m')
    (running : moment.current = some id) (alone : instruct id moment = .ok none next) :
    Passes fuel m next := by
  induction passes generalizing m' with
  | here fuel m =>
      cases fuel with
      | zero => exact absurd done not_execute_zero
      | succ fuel =>
          obtain ⟨after, first, _⟩ := execute_running running done
          rcases step_ok first with alone' | ⟨_, _, _, _, _, asks, _⟩
          · cases alone.symm.trans alone'
            exact .later running first (.here fuel next)
          · cases alone.symm.trans asks
  | inside running' asks enters _ ih =>
      obtain ⟨_, first, _⟩ := execute_running running' done
      obtain ⟨_, _, _, enters', ran, _⟩ := step_asking asks first
      cases enters.symm.trans enters'
      exact .inside running' asks enters (ih ran running alone)
  | later running' steps _ ih =>
      obtain ⟨_, first, rest⟩ := execute_running running' done
      cases steps.symm.trans first
      exact .later running' steps (ih rest running alone)

/-- What deeds keep after one of their executions: returns, further turns and moves of actors keep
it. -/
structure Lingers (fuel : Nat) (Holds : Machine → Prop) : Prop where
  kept : Kept 0 Holds
  turn : ∀ {m m' : Machine} {id : SlotId}, Idle m → Holds m → takeTurn fuel id m = .ok () m' →
    Holds m'
  walk : ∀ {m : Machine} (cast : Cast) (events : List String), Holds m →
    Holds { m with cast := cast, events := events }

/-- The turn of a slot among all turns. -/
theorem forM_range_split (act : Nat → Run PUnit) {id count : Nat} (inside : id < count) :
    ∃ later : List Nat, (List.range count).forM act =
      ((List.range id).forM act >>= fun _ => act id) >>= fun _ => later.forM act := by
  obtain ⟨rest, rfl⟩ := Nat.exists_eq_add_of_le (Nat.succ_le_of_lt inside)
  refine ⟨(List.range rest).map (id + 1 + ·), ?_⟩
  rw [← Run.forM_range_succ, List.range_add]
  simp only [List.forM_eq_forM, List.forM_append]

/-- A slot that is ready gets its turn. -/
theorem takeTurn_ready {fuel : Nat} {id : SlotId} {loaded : Machine} (ready : m.isReady id = true)
    (loads : loadSlotCode id { m with current := some id } = .ok () loaded)
    (done : takeTurn fuel id m = .ok () m') : execute fuel loaded = .ok () m' := by
  simp only [takeTurn, Run.get_bind_apply, ready, if_true, Run.modify_bind_apply,
    Run.bind_eq_ok_iff] at done
  obtain ⟨_, _, loads', ran⟩ := done
  cases loads.symm.trans loads'
  exact ran

/-- **A moment is a passage of an execution of its deed.**  When the deed ends well, so does the
execution, and the deed ends with what it has left behind and lingers. -/
theorem Deed.Moment.execution {deed : Deed} {fuel : Nat} {moment : Machine} (idle : Idle m)
    (during : deed.Moment fuel m moment) (done : deed.carryOut fuel m = .ok () m') :
    ∃ begun ended, Passes fuel begun moment ∧ execute fuel begun = .ok () ended ∧
      ∀ {Holds : Machine → Prop}, Lingers fuel Holds → Holds ended → Holds m' := by
  cases during with
  | @called order call asked entered _ asks enters passes =>
      have once : order ≠ .tick := by
        rintro rfl
        cases (alone_ok asks).1
      change order.carryOut fuel m = _ at done
      rw [Order.carryOut_eq fuel once, Run.bind_eq_ok_iff] at done
      obtain ⟨_, _, asks', answered⟩ := done
      cases asks.symm.trans asks'
      obtain ⟨_, ended, returned, enters', ran, back, rfl⟩ := answer_ok answered
      cases enters.symm.trans enters'
      have depth := execute_calls_length ran
      have deeper := enter_calls_length enters
      refine ⟨entered, ended, passes, ran, fun lingers holds => ?_⟩
      exact lingers.kept.answered holds (by omega) back
  | @turn _ begun before loaded _ id opens inside earlier ready loads passes =>
      have turning : deed = .order .tick ∨ deed = .pass := by
        cases opens with
        | tick => exact .inl rfl
        | pass => exact .inr rfl
      obtain ⟨begun', turned, cast, events, opens', turns, rfl⟩ := Deed.carryOut_turns turning done
      have same : begun' = begun := by
        cases opens with
        | tick begins =>
            cases opens' with
            | tick begins' =>
                cases begins.symm.trans begins'
                rfl
        | pass =>
            cases opens' with
            | pass => rfl
      subst same
      obtain ⟨later, split⟩ := forM_range_split (takeTurn fuel) inside
      simp only [split, Run.bind_eq_ok_iff] at turns
      obtain ⟨_, ended, ⟨_, _, earlier', own⟩, rest⟩ := turns
      cases earlier.symm.trans earlier'
      have resting : Idle before := Run.forM_kept Idle.turn (opens.idle idle) earlier
      refine ⟨loaded, ended, passes, takeTurn_ready ready loads own, ?_⟩
      intro Holds lingers holds
      have keeps : ∀ {id : SlotId} {m m' : Machine}, Idle m ∧ Holds m →
          takeTurn fuel id m = .ok () m' → Idle m' ∧ Holds m' :=
        fun both done => ⟨both.1.turn done, lingers.turn both.1 both.2 done⟩
      exact lingers.walk cast events (Run.forM_kept keeps ⟨resting.turn own, holds⟩ rest).2

/-! ## Games that nested journals tell of -/

/-- The journal goes on to the machine, where no script is left to be entered. -/
def Tells (start : Machine) (past : List Line) (m : Machine) : Prop :=
  ∃ recent, Nested start (recent ++ past) ∧ asked (recent ++ past) = none ∧
    reached start (recent ++ past) = m

theorem Hosted.idle {Allowed : Deed → Prop} {Fair : Machine → Prop} (idle : Idle start)
    (hosted : Hosted Allowed Fair start m) : Idle m := by
  induction hosted with
  | begin => exact idle
  | deed _ _ _ _ _ done ih => exact Deed.carryOut_idle ih done

namespace Tells

variable {past : List Line} {fuel : Nat}

theorem move {act : Act} (tells : Tells start past m) (move : Move none m act none m') :
    Tells start past m' := by
  obtain ⟨recent, nested, nobody, rfl⟩ := tells
  have nested' : Nested start (⟨⟨none, m'⟩, act⟩ :: (recent ++ past)) :=
    .move nested (by rw [nobody]; exact move)
  exact ⟨⟨⟨none, m'⟩, act⟩ :: recent, nested', rfl, rfl⟩

/-- A script that has been started is entered. -/
theorem call {act : Act} {id : SlotId} {entered : Machine} (tells : Tells start past m)
    (move : Move none m act (some id) m') (enters : enter id m' = .ok () entered) :
    Tells start past entered := by
  obtain ⟨recent, nested, nobody, rfl⟩ := tells
  rw [← nobody] at move
  exact ⟨⟨⟨none, entered⟩, .other⟩ :: ⟨⟨some id, m'⟩, act⟩ :: recent,
    .move (.move nested move) (.enter enters), rfl, rfl⟩

theorem kept : Kept 0 (Tells start past) where
  instruct tells running done := by
    obtain ⟨operation, _, _, comes, _⟩ := instruct_performs running done
    exact tells.move (.performed running comes done)
  call tells running asks enters := by
    obtain ⟨operation, _, _, comes, _⟩ := instruct_performs running asks
    exact tells.call (.performed running comes asks) enters
  back tells _ returned := tells.move (.back returned)
  forget tells := tells.move (.forget _)

theorem lingers : Lingers fuel (Tells start past) where
  kept := kept
  turn idle tells done := by
    rcases takeTurn_ok done with rfl | ⟨loaded, ready, loads, ran⟩
    · exact tells
    · exact (kept.execute (tells.move (.turn idle ready loads)) (Nat.zero_le _) ran).1
  walk cast events tells := tells.move (.walk _ cast events)

/-- Some turns are told one after the other. -/
theorem turns {ids : List SlotId} (tells : Tells start past m) (idle : Idle m)
    (done : ids.forM (takeTurn fuel) m = .ok () m') : Tells start past m' ∧ Idle m' := by
  have keeps : ∀ {id : SlotId} {m m' : Machine}, Tells start past m ∧ Idle m →
      takeTurn fuel id m = .ok () m' → Tells start past m' ∧ Idle m' :=
    fun both done => ⟨lingers.turn both.2 both.1 done, both.2.turn done⟩
  exact Run.forM_kept keeps ⟨tells, idle⟩ done

theorem carryOut {deed : Deed} (tells : Tells start past m) (idle : Idle m)
    (clocked : deed.isClocked = true) (done : deed.carryOut fuel m = .ok () m') :
    Tells start past m' := by
  by_cases turning : deed = .order .tick ∨ deed = .pass
  · obtain ⟨begun, turned, cast, events, opens, turns_, rfl⟩ := Deed.carryOut_turns turning done
    have begins := tells.move (.opens idle opens)
    exact (begins.turns (opens.idle idle) turns_).1.move (.walk turned cast events)
  cases deed with
  | order order =>
      have once : order ≠ .tick := by
        rintro rfl
        exact turning (.inl rfl)
      change order.carryOut fuel m = _ at done
      rw [Order.carryOut_eq fuel once, Run.bind_eq_ok_iff] at done
      obtain ⟨call, asked, prepares, answered⟩ := done
      cases call with
      | none =>
          cases answered
          exact tells.move (.ordered idle prepares)
      | some call =>
          obtain ⟨entered, ended, returned, enters, ran, back, rfl⟩ := answer_ok answered
          have depth := execute_calls_length ran
          have deeper := enter_calls_length enters
          have begins := tells.call (.ordered idle prepares) enters
          have ends := (kept.execute begins (Nat.zero_le _) ran).1
          exact kept.answered ends (by omega) back
  | pass => exact absurd (.inr rfl) turning
  | wait => cases clocked
  | _ => exact tells.move (.plain idle rfl rfl done)

/-- Every moment of a deed is told. -/
theorem moment {deed : Deed} {moment : Machine} (tells : Tells start past m) (idle : Idle m)
    (during : deed.Moment fuel m moment) : Tells start past moment := by
  cases during with
  | called asks enters passes =>
      have begins := tells.call (.ordered idle asks) enters
      exact (kept.passes begins (Nat.zero_le _) passes).1
  | turn opens _ earlier ready loads passes =>
      have begins := tells.move (.opens idle opens)
      obtain ⟨before, resting⟩ := begins.turns (opens.idle idle) earlier
      have loaded := before.move (.turn resting ready loads)
      exact (kept.passes loaded (Nat.zero_le _) passes).1

/-- **Every game in which delays pass in ticks only is told**, deed by deed. -/
theorem hosted {Allowed : Deed → Prop} {Fair : Machine → Prop}
    (clocked : ∀ deed, Allowed deed → deed.isClocked = true) (tells : Tells start past m)
    (idle : Idle m) (hosted : Hosted Allowed Fair m m') : Tells start past m' := by
  induction hosted with
  | begin => exact tells
  | deed before deed allowed _ _ done ih =>
      exact ih.carryOut (before.idle idle) (clocked deed allowed) done

end Tells

/-- The machines that a game leads to: between its deeds, and in the moments of a deed. -/
def Visited (Allowed : Deed → Prop) (Fair : Machine → Prop) (start m : Machine) : Prop :=
  ∃ game, Hosted Allowed Fair start game ∧
    (m = game ∨ ∃ (deed : Deed) (fuel : Nat), deed.Moment fuel game m)

/-- **Around every instruction of a game there is a nested journal**: it leads to the moment in
which the instruction is performed, has a line for the instruction, and goes on to where the game
leads afterwards. -/
theorem exists_nested_around {Allowed : Deed → Prop} {Fair : Machine → Prop} {deed : Deed}
    {fuel : Nat} {id : SlotId} {operation : Operation} {moment next last : Machine}
    (idle : Idle start) (clocked : ∀ deed, Allowed deed → deed.isClocked = true)
    (before : Hosted Allowed Fair start m) (during : deed.Moment fuel m moment)
    (running : moment.current = some id) (comes : moment.upcoming? = some operation)
    (alone : instruct id moment = .ok none next) (done : deed.carryOut fuel m = .ok () m')
    (after : Visited Allowed Fair m' last) :
    ∃ recent old, Nested start (recent ++ ⟨⟨none, next⟩, operation.act⟩ :: old) ∧
      reached start old = moment ∧ reached next recent = last := by
  have resting := before.idle idle
  have begins : Tells start [] start := ⟨[], .begin, rfl, rfl⟩
  obtain ⟨old, nested, nobody, reaches⟩ :=
    (begins.hosted clocked idle before).moment resting during
  rw [List.append_nil] at nested nobody reaches
  subst reaches
  have performs : Move (asked old) (reached start old) operation.act none next := by
    rw [nobody]
    exact .performed running comes alone
  have here : Tells start (⟨⟨none, next⟩, operation.act⟩ :: old) next :=
    ⟨[], .move nested performs, rfl, rfl⟩
  -- the rest of the execution, of the deed and of the game
  obtain ⟨begun, ended, passes, ran, ends⟩ := during.execution resting done
  have executed := (passes.next ran running alone).onward Tells.kept (Nat.zero_le _) ran here
  have resting' := Deed.carryOut_idle resting done
  obtain ⟨game, hosted, leads⟩ := after
  have played := (ends Tells.lingers executed).hosted clocked resting' hosted
  have told : Tells start (⟨⟨none, next⟩, operation.act⟩ :: old) last := by
    rcases leads with rfl | ⟨deed, fuel, during'⟩
    · exact played
    · exact played.moment (hosted.idle resting') during'
  obtain ⟨recent, nested, _, reaches⟩ := told
  rw [reached_append] at reaches
  exact ⟨recent, old, nested, rfl, reaches⟩

end Adventure.Machine
