import Adventure.Proofs.Machine.Orders

/-!
# Who armed the override

A script that begins an override leaves its slot and an offset in the innermost cutscene
frame, and skipping the cutscene sends that slot to that offset.  The frame names the slot
only.  Whether the slot still holds the script that armed the override is a question about
everything that has happened since, so this module writes a game down: a `Chronicle` lists
its beats, each with the slot in which it started a script, if any, and the machine it led
to.

In every chronicle an armed frame leads back to the beat that armed it, and it has been
armed ever since (`Chronicle.armed_since`).  A script that ends leaves its overrides armed,
though.  So a skip redirects the right script as long as no script ends or is replaced while
an override of its own is armed (`Loyal`); without that it may even revive a slot that runs
nothing.
-/

set_option autoImplicit false

namespace Adventure

/-! ## Armed frames -/

namespace CutsceneStack

/-- The frame at a depth is in use, and a slot has armed an override there. -/
def ArmedAt (stack : CutsceneStack) (depth offset : Nat) (owner : SlotId) : Prop :=
  depth ≤ stack.pointer.val ∧
    ∃ data, stack.frames.get? depth = some ⟨data, some offset, some owner⟩

/-- The slots of which an override is armed. -/
def armedOwners (stack : CutsceneStack) : List SlotId :=
  (stack.frames.cells.take (stack.pointer.val + 1)).filterMap fun frame =>
    if frame.resumeOffset.isSome then frame.ownerSlot else none

variable {before after : CutsceneStack} {depth offset : Nat} {owner : SlotId}

theorem ArmedAt.mem_armedOwners (armed : before.ArmedAt depth offset owner) :
    owner ∈ before.armedOwners := by
  obtain ⟨used, data, found⟩ := armed
  refine List.mem_filterMap.mpr ⟨⟨data, some offset, some owner⟩, ?_, rfl⟩
  refine List.mem_of_getElem? (i := depth) ?_
  rw [List.getElem?_take, if_pos (by omega)]
  exact found

theorem empty_not_armedAt : ¬ empty.ArmedAt depth offset owner := by
  rintro ⟨_, data, found⟩
  have blank := List.eq_of_mem_replicate (List.mem_of_getElem? found)
  cases blank

/-- A change of the innermost frame leaves the frames below alone. -/
theorem modifyTop_get? (stack : CutsceneStack) (change : CutsceneFrame → CutsceneFrame) :
    (stack.modifyTop change).frames.get? depth =
      if stack.pointer.val = depth then (stack.frames.get? depth).map change
      else stack.frames.get? depth :=
  Bank.get?_modify _ _ _ _

/-- Disarming the innermost frame arms nothing. -/
theorem armedAt_of_disarmed
    (armed : (before.modifyTop fun frame => { frame with resumeOffset := none }).ArmedAt
      depth offset owner) : before.ArmedAt depth offset owner := by
  obtain ⟨used, data, found⟩ := armed
  rw [modifyTop_get?] at found
  split at found
  · obtain ⟨frame, _, same⟩ := Option.map_eq_some_iff.mp found
    cases same
  · exact ⟨used, data, found⟩

/-- Opening, closing and disarming leave armed frames as they were, or take them away. -/
theorem Turns.armedAt (turns : before.Turns after) (armed : after.ArmedAt depth offset owner) :
    before.ArmedAt depth offset owner := by
  cases turns with
  | stay => exact armed
  | opened data pushed =>
      unfold push? at pushed
      split at pushed
      next fits =>
        cases pushed
        obtain ⟨used, data', found⟩ := armed
        change depth ≤ before.pointer.val + 1 at used
        change (before.frames.cells.set (before.pointer.val + 1) _)[depth]? = _ at found
        rw [List.getElem?_set] at found
        split at found
        next =>
          split at found
          · cases found
          · cases found
        next other => exact ⟨by omega, data', found⟩
      next => cases pushed
  | closed popped =>
      unfold pop? at popped
      split at popped
      next => cases popped
      next open_ =>
        cases popped
        obtain ⟨used, data, found⟩ := armed
        change depth ≤ before.pointer.val - 1 at used
        change (before.modifyTop _).frames.get? depth = _ at found
        rw [modifyTop_get?, if_neg (by omega)] at found
        exact ⟨by omega, data, found⟩
  | disarmed => exact armedAt_of_disarmed armed

end CutsceneStack

namespace Machine

variable {m m' : Machine} {depth offset : Nat} {owner : SlotId}

/-- The slot runs a script. -/
def isAlive (m : Machine) (id : SlotId) : Bool := (m.slots.get? id).any fun slot => !slot.isDead

/-! ## Beats that arm an override -/

/-- No effect arms an override. -/
theorem Effect.armedAt (effect : Effect m m') (armed : m'.cutscenes.ArmedAt depth offset owner) :
    m.cutscenes.ArmedAt depth offset owner := by
  cases effect with
  | aside room shape cutscenes overrideActive cutsceneScript vars cast ego events turns =>
      exact turns.armedAt armed
  | finish =>
      obtain ⟨events, same⟩ := stopCurrent_eq m
      rw [same] at armed
      exact armed
  | _ => exact armed

theorem Effects.armedAt (effects : Effects m m')
    (armed : m'.cutscenes.ArmedAt depth offset owner) :
    m.cutscenes.ArmedAt depth offset owner := by
  induction effects with
  | refl => exact armed
  | tail _ effect ih => exact ih (effect.armedAt armed)

theorem Prepared.armedAt {slot : Option SlotId} (prepared : Prepared m slot m')
    (armed : m'.cutscenes.ArmedAt depth offset owner) :
    m.cutscenes.ArmedAt depth offset owner := by
  cases slot with
  | none => exact Effects.armedAt prepared armed
  | some id =>
      obtain ⟨middle, effects, claimed⟩ := prepared
      cases claimed
      exact effects.armedAt armed

/-- The script of a slot executes the instruction that begins an override. -/
structure Arms (owner : SlotId) (m m' : Machine) : Prop where
  executing : m.current = some owner
  opcode : m.code[m.pc]? = some Operation.beginOverride.code
  done : instruct owner m = .ok none m'

/-- **An instruction that leaves a frame armed found it armed or arms it** for the executing
script, at the offset behind itself. -/
theorem instruct_armedAt {id : SlotId} {call : Option Call} (executing : m.current = some id)
    (done : instruct id m = .ok call m') (armed : m'.cutscenes.ArmedAt depth offset owner) :
    m.cutscenes.ArmedAt depth offset owner ∨ call = none ∧ Arms owner m m' ∧ offset = m.pc + 1 := by
  obtain ⟨opcode, operation, operands, after, present, known, read, performed⟩ := instruct_ok done
  rcases perform_ok performed with ⟨rfl, leap⟩ | prepared
  · cases leap with
    | jump => exact .inl armed
    | jumpIfZero => exact .inl armed
    | jumpIfNotZero => exact .inl armed
    | arm =>
        obtain ⟨used, data, found⟩ := armed
        change ((m.fetched id after).cutscenes.modifyTop _).frames.get? depth = _ at found
        rw [CutsceneStack.modifyTop_get?] at found
        split at found
        · obtain ⟨frame, _, same⟩ := Option.map_eq_some_iff.mp found
          have mine : m.current = some owner := congrArg CutsceneFrame.ownerSlot same
          have place : some after = some offset := congrArg CutsceneFrame.resumeOffset same
          cases executing.symm.trans mine
          cases place
          have byte : opcode = Operation.beginOverride.code := by
            have same : Operation.beginOverride.code = opcode := by
              simpa using List.find?_some known
            exact same.symm
          cases read
          exact .inr ⟨rfl, ⟨mine, byte ▸ present, done⟩, rfl⟩
        · exact .inl ⟨used, data, found⟩
  · exact .inl (prepared.armedAt armed)

/-- Skipping a cutscene disarms the innermost frame. -/
theorem abortCutscene_armedAt (armed : m.abortCutscene.cutscenes.ArmedAt depth offset owner) :
    m.cutscenes.ArmedAt depth offset owner := by
  unfold abortCutscene at armed
  split at armed
  · exact CutsceneStack.armedAt_of_disarmed armed
  · exact armed

theorem Order.prepare_armedAt {order : Order} {call : Option Call}
    (done : order.prepare m = .ok call m')
    (armed : m'.cutscenes.ArmedAt depth offset owner) :
    m.cutscenes.ArmedAt depth offset owner := by
  by_cases abort : order = .abortCutscene
  · subst abort
    obtain ⟨_, ran⟩ := alone_ok done
    cases ran
    exact abortCutscene_armedAt armed
  · exact (prepare_ok abort done).armedAt armed

/-! ## Chronicles -/

/-- One beat of a game, with the slot in which it starts a script, if it does. -/
inductive Beat : Machine → Option SlotId → Machine → Prop where
  /-- An order begins. -/
  | prepare {m m' : Machine} {order : Order} {call : Option Call} (rest : m.current = none)
      (done : order.prepare m = .ok call m') : Beat m (call.map (·.slot)) m'
  /-- The executing script takes an instruction. -/
  | instruct {m m' : Machine} {id : SlotId} {call : Option Call} (executing : m.current = some id)
      (done : instruct id m = .ok call m') : Beat m (call.map (·.slot)) m'
  /-- A call is entered. -/
  | enter {m m' : Machine} {id : SlotId} (done : enter id m = .ok () m') : Beat m none m'
  /-- A call returns. -/
  | back {m m' : Machine} (returned : Returned m m') : Beat m none m'
  | forget (m : Machine) : Beat m none m.forgetOpener
  /-- A tick begins. -/
  | begins {m m' : Machine} (done : beginTick m = .ok () m') : Beat m none m'
  /-- A slot that is ready gets its turn. -/
  | turn {m m' : Machine} {id : SlotId} (ready : m.isReady id = true)
      (loads : loadSlotCode id { m with current := some id } = .ok () m') : Beat m none m'
  /-- The actors move. -/
  | walk (m : Machine) (cast : Cast) (events : List String) :
      Beat m none { m with cast := cast, events := events }

/-- What a beat leaves behind. -/
structure Entry where
  /-- The slot in which the beat has started a script. -/
  claimed : Option SlotId
  after : Machine

/-- The script of a slot is neither ended nor replaced by a beat. -/
def Entry.stays (entry : Entry) (id : SlotId) : Bool :=
  entry.claimed != some id && entry.after.isAlive id

/-- The machine that the newest entry has led to. -/
def latest (start : Machine) : List Entry → Machine
  | [] => start
  | entry :: _ => entry.after

/-- The beats of a game from a start on, the newest first. -/
inductive Chronicle (start : Machine) : List Entry → Prop where
  | begin : Chronicle start []
  | beat {past : List Entry} {claimed : Option SlotId} {next : Machine}
      (before : Chronicle start past) (beat : Beat (latest start past) claimed next) :
      Chronicle start (⟨claimed, next⟩ :: past)

/-- Some chronicle leads to the machine. -/
def Chronicled (start m : Machine) : Prop := ∃ past, Chronicle start past ∧ latest start past = m

namespace Chronicled

variable {start : Machine}

theorem beat {claimed : Option SlotId} (chronicled : Chronicled start m)
    (beat : Beat m claimed m') : Chronicled start m' := by
  obtain ⟨past, chronicle, rfl⟩ := chronicled
  exact ⟨_, .beat chronicle beat, rfl⟩

theorem kept : Kept 0 (Chronicled start) where
  instruct chronicled running done := chronicled.beat (.instruct running done)
  call chronicled running asks enters :=
    (chronicled.beat (.instruct running asks)).beat (.enter enters)
  back chronicled _ returned := chronicled.beat (.back returned)
  forget chronicled := chronicled.beat (.forget _)

/-- **Every game has a chronicle.** -/
theorem lasting (Allowed : Order → Prop) : Lasting Allowed (Chronicled start) where
  kept := kept
  prepare chronicled rest _ prepares := chronicled.beat (.prepare rest prepares)
  enter chronicled _ enters := chronicled.beat (.enter enters)
  begins chronicled begins := chronicled.beat (.begins begins)
  load chronicled ready loads := chronicled.beat (.turn ready loads)
  walk cast events chronicled := chronicled.beat (.walk _ cast events)

end Chronicled

/-- A beat that leaves a frame armed found it armed, or it is the instruction that arms it. -/
theorem Beat.armedAt {claimed : Option SlotId} (beat : Beat m claimed m')
    (armed : m'.cutscenes.ArmedAt depth offset owner) :
    m.cutscenes.ArmedAt depth offset owner ∨
      claimed = none ∧ Arms owner m m' ∧ offset = m.pc + 1 := by
  cases beat with
  | prepare _ done => exact .inl (Order.prepare_armedAt done armed)
  | instruct executing done =>
      rcases instruct_armedAt executing done armed with found | ⟨rfl, arms⟩
      · exact .inl found
      · exact .inr ⟨rfl, arms⟩
  | enter done =>
      obtain ⟨_, _, _, _, rfl⟩ := enter_ok done
      exact .inl armed
  | back returned =>
      cases returned with
      | bare => exact .inl armed
      | stays => exact .inl armed
      | resumes => exact .inl armed
  | forget => exact .inl armed
  | begins done =>
      rw [beginTick_ok done] at armed
      exact .inl armed
  | turn _ loads =>
      obtain ⟨_, _, _, _, rfl⟩ := loadSlotCode_ok loads
      exact .inl armed
  | walk => exact .inl armed

/-- **An armed frame leads back to the instruction that armed it**, and it has been armed ever
since. -/
theorem Chronicle.armed_since {start : Machine} {past : List Entry}
    (chronicle : Chronicle start past)
    (unarmed : ∀ {depth offset owner}, ¬ start.cutscenes.ArmedAt depth offset owner)
    (armed : (latest start past).cutscenes.ArmedAt depth offset owner) :
    ∃ recent next old, past = recent ++ ⟨none, next⟩ :: old ∧
      Arms owner (latest start old) next ∧ offset = (latest start old).pc + 1 ∧
      ∀ entry ∈ recent, entry.after.cutscenes.ArmedAt depth offset owner := by
  induction chronicle with
  | begin => exact absurd armed unarmed
  | @beat past claimed next before beat ih =>
      rcases beat.armedAt armed with found | ⟨rfl, arms, place⟩
      · obtain ⟨recent, first, old, rfl, arms, place, since⟩ := ih found
        refine ⟨⟨claimed, next⟩ :: recent, first, old, rfl, arms, place, ?_⟩
        intro entry member
        rcases List.mem_cons.mp member with rfl | member
        · exact armed
        · exact since entry member
      · exact ⟨[], next, past, rfl, arms, place, fun _ member => by cases member⟩

/-! ## Skipping a cutscene -/

/-- Skipping a cutscene changes at most the slot that armed the innermost frame. -/
theorem abortCutscene_changes {id : SlotId}
    (changed : m.abortCutscene.slots.get? id ≠ m.slots.get? id) :
    ∃ offset, m.cutscenes.top.resumeOffset = some offset ∧
      m.cutscenes.ArmedAt m.cutscenes.pointer.val offset id := by
  unfold abortCutscene at changed
  split at changed
  next offset owner resume owned =>
    -- the redirection is the only change of a slot
    have mine : owner = id := by
      refine Decidable.byContradiction fun other => changed ?_
      change (m.slots.modify owner _).get? id = _
      rw [Bank.get?_modify, if_neg other]
    subst mine
    refine ⟨offset, resume, Nat.le_refl _, m.cutscenes.top.data, ?_⟩
    unfold CutsceneStack.top at resume owned ⊢
    cases found : m.cutscenes.frames.get? m.cutscenes.pointer.val with
    | none => simp [found, CutsceneFrame.blank] at resume
    | some frame =>
        rw [found] at resume owned
        cases frame
        cases resume
        cases owned
        rfl
  next => exact absurd rfl changed

/-- No script ends or is replaced while an override of its own is armed. -/
def Loyal (past : List Entry) : Prop :=
  ∀ entry ∈ past, ∀ owner ∈ entry.after.cutscenes.armedOwners, entry.stays owner = true

instance (past : List Entry) : Decidable (Loyal past) :=
  inferInstanceAs (Decidable (∀ entry ∈ past, ∀ owner ∈ _, _ = true))

/-- In a loyal chronicle the slot of an armed frame has held its script ever since. -/
theorem Loyal.stays {past : List Entry} {entry : Entry} (loyal : Loyal past)
    (member : entry ∈ past) (armed : entry.after.cutscenes.ArmedAt depth offset owner) :
    entry.stays owner = true :=
  loyal entry member owner armed.mem_armedOwners

theorem Entry.alive_of_stays {entry : Entry} {id : SlotId} (stays : entry.stays id = true) :
    entry.after.isAlive id = true := by
  simp only [Entry.stays, Bool.and_eq_true] at stays
  exact stays.2

/-- **Skipping a cutscene redirects the script that armed the override, if it is still there.**
However a new game has come about, beat by beat, the slot that a skip changes is one whose
script executed the instruction that began the innermost override, and that override has
been armed since.  As long as no script has ended or been replaced while an override of its
own was armed, the slot is alive and holds that very script. -/
theorem abort_redirects_armer {Allowed : Order → Prop} {rules : Rules} {library : Library}
    {rooms : Keyed UInt8 LoadedRoom} {hooks : CutsceneHooks} {start m : Machine}
    (new : start = { boot rules library rooms with hooks := hooks })
    (played : Played Allowed start m) :
    Chronicled start m ∧
      ∀ past, Chronicle start past → latest start past = m → ∀ id,
        m.abortCutscene.slots.get? id ≠ m.slots.get? id →
        ∃ recent next old, past = recent ++ ⟨none, next⟩ :: old ∧
          Arms id (latest start old) next ∧
          m.cutscenes.top.resumeOffset = some ((latest start old).pc + 1) ∧
          (Loyal past → m.isAlive id = true ∧ ∀ entry ∈ recent, entry.stays id = true) := by
  have rest : start.current = none := by rw [new]; rfl
  have unarmed : ∀ {depth offset owner}, ¬ start.cutscenes.ArmedAt depth offset owner := by
    rw [new]
    exact CutsceneStack.empty_not_armedAt
  refine ⟨(Chronicled.lasting Allowed).played ⟨[], .begin, rfl⟩ rest played, ?_⟩
  rintro past chronicle rfl id changed
  obtain ⟨offset, resume, armed⟩ := abortCutscene_changes changed
  obtain ⟨recent, next, old, split, arms, rfl, since⟩ := chronicle.armed_since unarmed armed
  refine ⟨recent, next, old, split, arms, resume, fun loyal => ⟨?_, ?_⟩⟩
  · cases past with
    | nil => exact absurd armed unarmed
    | cons newest _ => exact Entry.alive_of_stays (loyal.stays List.mem_cons_self armed)
  · intro entry member
    exact loyal.stays (split ▸ List.mem_append_left _ member) (since entry member)

/-- A game with a script that begins an override and waits. -/
def armedGame : Machine :=
  .boot .standard ⟨[(1, [0x0E, 0x03, 0, 0, 0x01])], [], [], .empty⟩ []

theorem abort_redirects_waitingArmer : ∃ m past, Played (fun _ => True) armedGame m ∧
    Chronicle armedGame past ∧ latest armedGame past = m ∧ Loyal past ∧
    m.abortCutscene.slots.get? 1 ≠ m.slots.get? 1 ∧ m.isAlive 1 = true ∧
    ∃ recent next old, past = recent ++ ⟨none, next⟩ :: old ∧
      Arms 1 (latest armedGame old) next ∧ ∀ entry ∈ recent, entry.stays 1 = true := by
  let order : Order := .startScript 1 false false []
  let asked := Run.last order.prepare armedGame
  let entered := Run.last (enter 1) asked
  let armed := Run.last (instruct 1) entered
  let waiting := Run.last (instruct 1) armed
  let returned := Run.last returnToCaller waiting
  have prepares : order.prepare armedGame = .ok (some ⟨1, false⟩) asked :=
    Run.eq_ok_of_value? (by decide +kernel)
  have enters : enter 1 asked = .ok () entered := Run.eq_ok_of_value? (by decide +kernel)
  have arms : instruct 1 entered = .ok none armed := Run.eq_ok_of_value? (by decide +kernel)
  have waits : instruct 1 armed = .ok none waiting := Run.eq_ok_of_value? (by decide +kernel)
  have returns : returnToCaller waiting = .ok () returned :=
    Run.eq_ok_of_value? (by decide +kernel)
  have executing : entered.current = some 1 := by decide +kernel
  have still : armed.current = some 1 := by decide +kernel
  have idle : waiting.current = none := by decide +kernel
  have loyal : Loyal [⟨none, returned⟩, ⟨none, waiting⟩, ⟨none, armed⟩, ⟨none, entered⟩,
      ⟨some 1, asked⟩] := by decide +kernel
  have changed : returned.abortCutscene.slots.get? 1 ≠ returned.slots.get? 1 := by decide +kernel
  -- the machines are known well enough
  clear_value asked entered armed waiting returned
  have chronicle := (((((Chronicle.begin : Chronicle armedGame []).beat
    (.prepare rfl prepares)).beat (.enter enters)).beat (.instruct executing arms)).beat
    (.instruct still waits)).beat (.back (returnToCaller_ok returns))
  have ran : execute 3 entered = .ok () waiting := by
    simp only [execute, step, answer, Run.bind_apply, Run.get_apply, Run.pure_apply, executing,
      arms, still, waits, idle]
  have done : order.carryOut 3 armedGame = .ok () returned := by
    rw [Order.carryOut_eq 3 (by decide)]
    simp only [answer, runNested, Run.bind_apply, prepares, enters, ran, returns,
      Bool.false_eq_true, if_false]
  have played : Played (fun _ => True) armedGame returned := .order .begin order trivial 3 done
  obtain ⟨recent, next, old, split, arms, _, stays⟩ :=
    (abort_redirects_armer rfl played).2 _ chronicle rfl 1 changed
  exact ⟨_, _, played, chronicle, rfl, loyal, changed, (stays loyal).1, recent, next, old,
    split, arms, (stays loyal).2⟩

/-- A game with a script that begins an override and ends. -/
def endedGame : Machine :=
  .boot .standard ⟨[(1, [0x0E, 0x03, 0, 0, 0x00])], [], [], .empty⟩ []

/-- A script that ends leaves its override armed, and a skip revives its slot: the slot runs no
script before and, after it, the script of number zero, which the next tick does not find. -/
theorem abort_revives_ended_script : ∃ m, Played (fun _ => True) endedGame m ∧
    m.isAlive 1 = false ∧ m.abortCutscene.isAlive 1 = true ∧
    (m.abortCutscene.slots.get? 1).map (fun slot => (slot.number, slot.status)) =
      some (0, .running) ∧
    (Run.value? (Order.tick.carryOut 9) m.abortCutscene).isNone := by
  let order : Order := .startScript 1 false false []
  have done : order.carryOut 9 endedGame = .ok () (Run.last (order.carryOut 9) endedGame) :=
    Run.eq_ok_of_value? (by decide +kernel)
  exact ⟨_, .order .begin order trivial 9 done, by decide +kernel, by decide +kernel,
    by decide +kernel, by decide +kernel⟩

end Machine

end Adventure
