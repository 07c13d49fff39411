import Adventure.Proofs.Machine.Likeness

/-!
# Machines that are alike act alike

A computation agrees on two machines when it gives the same value on both, or the same halt,
and leaves them alike.  Sequences of computations that agree agree, so agreement is proved
for the parts of instructions first, then for instructions, for executions by induction on
their fuel, and last for orders.

The code that is read is no part of a machine at rest.  A call or a turn looks it up again,
and from then on both machines read the same: `loadSlotCode` raises the level.
-/

set_option autoImplicit false

namespace Adventure.Machine

/-- Computations that end in the same way, on machines that are alike afterwards.  After a halt
nothing goes on, so the least is compared. -/
inductive Agree (past : Past) (turns : Bool) (level : Level) {α : Type} :
    EStateM.Result Halt Machine α → EStateM.Result Halt Machine α → Prop where
  | ok {m r : Machine} (value : α) (alike : Alike past turns level m r) :
      Agree past turns level (.ok value m) (.ok value r)
  | error {m r : Machine} (halt : Halt) (alike : Alike past false .idle m r) :
      Agree past turns level (.error halt m) (.error halt r)

variable {past : Past} {turns turns' : Bool} {level level' : Level} {m r : Machine}

namespace Agree

variable {α β : Type}

theorem mono {first other : EStateM.Result Halt Machine α} (same : Agree past turns level first other)
    (weaker : ∀ {m r : Machine}, Alike past turns level m r → Alike past turns' level' m r) :
    Agree past turns' level' first other := by
  cases same with
  | ok value alike => exact .ok value (weaker alike)
  | error halt alike => exact .error halt alike

theorem bind {first : Run α} {next : α → Run β} (begins : Agree past turns level (first m) (first r))
    (goes : ∀ value m r, Alike past turns level m r →
      Agree past turns' level' (next value m) (next value r)) :
    Agree past turns' level' ((first >>= next) m) ((first >>= next) r) := by
  rw [Run.bind_apply, Run.bind_apply]
  revert begins
  cases first m <;> cases first r <;> intro begins <;> cases begins
  next alike => exact goes _ _ _ alike
  next alike => exact .error _ alike

theorem change {change : Machine → Machine}
    (changed : Alike past turns level (change m) (change r)) :
    Agree past turns level ((modify change : Run PUnit) m) ((modify change : Run PUnit) r) :=
  .ok _ changed

theorem alone {run : Run Unit} (same : Agree past turns level (run m) (run r)) :
    Agree past turns level (Machine.alone run m) (Machine.alone run r) :=
  same.bind fun _ _ _ alike => .ok none alike

theorem onFailure {run : Run α} {change : Machine → Machine}
    (same : Agree past turns level (run m) (run r))
    (changes : ∀ {m r : Machine}, Alike past false .idle m r →
      Alike past false .idle (change m) (change r)) :
    Agree past turns level (Run.onFailure run change m) (Run.onFailure run change r) := by
  unfold Run.onFailure
  revert same
  cases run m <;> cases run r <;> intro same <;> cases same
  next alike => exact .ok _ alike
  next alike => exact .error _ (changes alike)

theorem finally_ {run : Run α} {change : Machine → Machine}
    (same : Agree past turns level (run m) (run r))
    (changes : ∀ {turns level} {m r : Machine}, Alike past turns level m r →
      Alike past turns level (change m) (change r)) :
    Agree past turns level (Run.finally_ run change m) (Run.finally_ run change r) := by
  unfold Run.finally_
  revert same
  cases run m <;> cases run r <;> intro same <;> cases same
  next alike => exact .ok _ (changes alike)
  next alike => exact .error _ (changes alike)

theorem forM {act : α → Run PUnit}
    (acts : ∀ value {m r : Machine}, Alike past turns level m r →
      Agree past turns level (act value m) (act value r))
    (values : List α) (alike : Alike past turns level m r) :
    Agree past turns level (values.forM act m) (values.forM act r) := by
  induction values generalizing m r with
  | nil => exact .ok _ alike
  | cons value values ih =>
      rw [Run.forM_cons]
      exact (acts value alike).bind fun _ _ _ alike => ih alike

end Agree

namespace Alike

/-! ## Changes -/

theorem logged (alike : Alike past turns level m r) (event : String) :
    Alike past turns level (m.logged event) (r.logged event) := by
  cases alike with
  | intro guise fits =>
      exact .intro { guise with events := guise.events ++ [event] }
        { fits with log := fits.log.append [event] }

theorem log (alike : Alike past turns level m r) (event : String) :
    Agree past turns level (Run.log event m) (Run.log event r) :=
  .ok _ (alike.logged event)

theorem changeSlot (alike : Alike past turns level m r) (id : SlotId) {change : Slot → Slot}
    (comm : ∀ slot : Slot, change (slot.seen turns) = (change slot).seen turns) :
    Alike past turns level (m.changeSlot id change) (r.changeSlot id change) := by
  cases alike with
  | intro guise fits =>
      exact .intro { guise with slots := guise.slots.modify id change }
        { fits with slots := SlotTable.seen_modify id comm fits.slots }

theorem changeCurrent (alike : Alike past turns level m r) {change : Slot → Slot}
    (comm : ∀ slot : Slot, change (slot.seen turns) = (change slot).seen turns) :
    Alike past turns level (m.changeCurrent change) (r.changeCurrent change) := by
  have same := alike.current
  cases running : m.current with
  | none =>
      rw [changeCurrent_of_rest running, changeCurrent_of_rest (same.trans running)]
      exact alike
  | some id =>
      rw [changeCurrent_of_running running, changeCurrent_of_running (same.trans running)]
      exact alike.changeSlot id comm

theorem setLocal (alike : Alike past turns level m r) (index : Nat) (value : Int) :
    Alike past turns level (m.setLocal index value) (r.setLocal index value) :=
  alike.changeCurrent fun _ => rfl

/-- A slot has its turn. -/
theorem marked (alike : Alike past turns level m r) (id : SlotId) :
    Alike past turns level (m.changeSlot id fun slot => { slot with executed := true })
      (r.changeSlot id fun slot => { slot with executed := true }) := by
  cases alike with
  | intro guise fits =>
      refine .intro { guise with slots := _ } { fits with slots := ?_ }
      exact SlotTable.seen_modify_as (fun slot => { slot with executed := turns }) id
        (fun _ => rfl) fits.slots

theorem setCurrent (alike : Alike past turns level m r) (current : Option SlotId) :
    Alike past turns level { m with current := current } { r with current := current } := by
  cases alike with
  | intro guise fits => exact .intro guise { fits with reads := fits.reads }

theorem setCutscenes (alike : Alike past turns level m r) (cutscenes : CutsceneStack) :
    Alike past turns level { m with cutscenes := cutscenes } { r with cutscenes := cutscenes } := by
  cases alike with
  | intro guise fits => exact .intro guise { fits with reads := fits.reads }

theorem setOverride (alike : Alike past turns level m r) (active : Bool) :
    Alike past turns level { m with overrideActive := active }
      { r with overrideActive := active } := by
  cases alike with
  | intro guise fits => exact .intro guise { fits with reads := fits.reads }

theorem setOpener (alike : Alike past turns level m r) (opener : Option SlotId) :
    Alike past turns level { m with cutsceneScript := opener }
      { r with cutsceneScript := opener } := by
  cases alike with
  | intro guise fits => exact .intro guise { fits with reads := fits.reads }

theorem forgetOpener (alike : Alike past turns level m r) :
    Alike past turns level m.forgetOpener r.forgetOpener :=
  alike.setOpener none

theorem setVar (alike : Alike past turns level m r) (index : Nat) (value : Int) :
    Alike past turns level (m.setVar index value) (r.setVar index value) := by
  cases alike with
  | intro guise fits => exact .intro guise { fits with reads := fits.reads }

theorem setEgo (alike : Alike past turns level m r) (number : UInt8) :
    Alike past turns level (m.setEgo number) (r.setEgo number) := by
  cases alike with
  | intro guise fits => exact .intro guise { fits with reads := fits.reads }

theorem setBoxFlags (alike : Alike past turns level m r) (box : BoxId) (value : UInt16) :
    Alike past turns level { m with room := m.room.setBoxFlags box value }
      { r with room := r.room.setBoxFlags box value } := by
  cases alike with
  | intro guise fits =>
      change Alike past turns level _
        { m.wearing guise with
          room := (m.room.withTruncated guise.truncated).setBoxFlags box value }
      rw [Room.setBoxFlags_withTruncated]
      exact .intro guise { fits with reads := fits.reads }

theorem setRamp (alike : Alike past turns level m r) (slot : UInt8) (ramp : ScaleRamp) :
    Alike past turns level { m with room := m.room.setRamp slot ramp }
      { r with room := r.room.setRamp slot ramp } := by
  cases alike with
  | intro guise fits =>
      change Alike past turns level _
        { m.wearing guise with room := (m.room.withTruncated guise.truncated).setRamp slot ramp }
      rw [Room.setRamp_withTruncated]
      exact .intro guise { fits with reads := fits.reads }

/-- Routing that is rebuilt is not cut short in either room. -/
theorem rebuildMatrix (alike : Alike past turns level m r) :
    Alike past turns level { m with room := m.room.rebuildMatrix }
      { r with room := r.room.rebuildMatrix } := by
  cases alike with
  | intro guise fits =>
      exact .intro { guise with truncated := false } { fits with reads := fits.reads }

/-! ## Stopping and freezing -/

theorem stopWhere (alike : Alike past turns level m r) {test : Slot → Bool}
    {waits : CallFrame → Bool} (unmarked : ∀ slot, test (slot.seen turns) = test slot) :
    Alike past turns level (m.stopWhere test waits) (r.stopWhere test waits) := by
  have live : r.liveWhere test = m.liveWhere test := by
    cases alike with
    | intro guise fits => exact SlotTable.liveWhere_of_seen fits.slots unmarked
  unfold Machine.stopWhere
  rw [live]
  cases alike with
  | intro guise fits =>
      exact .intro
        { guise with slots := retireBelow guise.slots 80 test, events := guise.events ++ _ }
        { fits with
          slots := SlotTable.seen_retireBelow 80 unmarked fits.slots
          log := fits.log.append _ }

theorem stopFamily (alike : Alike past turns level m r) (number : UInt16)
    (family : ScriptLocation → Bool) :
    Agree past turns level (stopFamily number family m) (stopFamily number family r) := by
  simp only [Machine.stopFamily, Run.get_bind_apply, alike.heldSlot?]
  cases m.heldSlot? number family with
  | none => exact .ok () (alike.stopWhere fun _ => rfl)
  | some held =>
      refine .error _ ?_
      cases alike.faint with
      | intro guise fits =>
          exact .intro { guise with slots := _ }
            { fits with slots := SlotTable.seen_retireBelow held (fun _ => rfl) fits.slots }

theorem stopScript (alike : Alike past turns level m r) (number : UInt16) :
    Agree past turns level (stopScript number m) (stopScript number r) := by
  unfold Machine.stopScript
  split
  · exact .ok () alike
  · exact alike.stopFamily number _

theorem stopObject (alike : Alike past turns level m r) (number : UInt16) :
    Agree past turns level (stopObject number m) (stopObject number r) := by
  unfold Machine.stopObject
  split
  · exact .ok () alike
  · exact alike.stopFamily number _

theorem stopCurrent (alike : Alike past turns level m r) :
    Alike past turns level m.stopCurrent r.stopCurrent := by
  unfold Machine.stopCurrent
  rw [alike.current]
  cases m.current with
  | none => exact alike
  | some id =>
      dsimp only
      rcases alike.slot id with ⟨absent, absent'⟩ | ⟨slot, executed, present, present'⟩
      · rw [absent, absent']
        exact alike.setCurrent none
      · rw [present, present']
        cases alike with
        | intro guise fits =>
            exact .intro { guise with slots := _, events := guise.events ++ _ }
              { fits with
                slots := SlotTable.seen_modify id (fun _ => rfl) fits.slots
                log := fits.log.append _ }

theorem freezeScripts (alike : Alike past turns level m r) (flag : UInt8) :
    Alike past turns level (m.freezeScripts flag) (r.freezeScripts flag) := by
  cases alike with
  | intro guise fits =>
      have frozen : SlotTable.seen turns
          (guise.slots.mapIdx fun id slot =>
            if m.isFrozenBy flag id slot then
              { slot with freezeCount := Slot.countUp slot.freezeCount }
            else slot) =
          SlotTable.seen turns
            (m.slots.mapIdx fun id slot =>
              if m.isFrozenBy flag id slot then
                { slot with freezeCount := Slot.countUp slot.freezeCount }
              else slot) := by
        refine SlotTable.seen_mapIdx (fun id slot => ?_) fits.slots
        change (if m.isFrozenBy flag id slot = true then _ else _) = _
        split <;> rfl
      have opener : (m.wearing guise).cutsceneScript = m.cutsceneScript := rfl
      unfold Machine.freezeScripts
      dsimp only
      rw [opener]
      cases m.cutsceneScript with
      | none =>
          exact .intro { guise with slots := _, events := guise.events ++ _ }
            { fits with slots := frozen, log := fits.log.append _ }
      | some id =>
          exact .intro { guise with slots := _, events := guise.events ++ _ }
            { fits with
              slots := SlotTable.seen_modify id (fun _ => rfl) frozen
              log := fits.log.append _ }

theorem unfreezeScripts (alike : Alike past turns level m r) :
    Alike past turns level m.unfreezeScripts r.unfreezeScripts := by
  cases alike with
  | intro guise fits =>
      exact .intro { guise with slots := _, events := guise.events ++ _ }
        { fits with
          slots := SlotTable.seen_map (fun _ => rfl) fits.slots
          log := fits.log.append _ }

/-! ## Starting scripts -/

theorem claimSlot (alike : Alike past turns level m r) (number : UInt16)
    (location : ScriptLocation) (offset : Nat) (freezeResistant recursive : Bool)
    (args : List Int) (report : SlotId → String) :
    Agree past turns level
      (claimSlot number location offset freezeResistant recursive args report m)
      (claimSlot number location offset freezeResistant recursive args report r) := by
  have free : r.slots.findFree = m.slots.findFree := by
    cases alike with
    | intro guise fits => exact SlotTable.findFree_of_seen fits.slots
  simp only [Machine.claimSlot, Run.get_bind_apply, free]
  cases m.slots.findFree with
  | none => exact .error _ alike.faint
  | some id =>
      have claimed : Alike past turns level
          (m.changeSlot id fun _ => .start number location offset freezeResistant recursive args)
          (r.changeSlot id fun _ => .start number location offset freezeResistant recursive args) :=
        alike.changeSlot id fun _ => rfl
      exact .ok id (claimed.logged _)

theorem giveWay (alike : Alike past turns level m r) (recursive : Bool) {stop : Run Unit}
    (stops : Agree past turns level (stop m) (stop r)) :
    Agree past turns level (giveWay recursive stop m) (giveWay recursive stop r) := by
  unfold Machine.giveWay
  split
  · exact .ok () alike
  · exact stops

theorem prepareScript (alike : Alike past turns level m r) (number : UInt16)
    (freezeResistant recursive : Bool) (args : List Int) :
    Agree past turns level (prepareScript number freezeResistant recursive args m)
      (prepareScript number freezeResistant recursive args r) := by
  unfold Machine.prepareScript
  split
  · exact .ok none alike
  refine (alike.giveWay recursive (alike.stopScript number)).bind fun _ m r alike => ?_
  have location : r.scriptLocation number = m.scriptLocation number := by
    unfold scriptLocation
    rw [alike.rules]
  rw [Run.get_bind_apply, Run.get_bind_apply, location, alike.library]
  split
  · exact .error _ alike.faint
  · exact (alike.claimSlot _ _ _ _ _ _ _).bind fun _ _ _ alike => .ok _ alike

theorem prepareObject (alike : Alike past turns level m r) (object : UInt16) (verb : UInt8)
    (freezeResistant recursive : Bool) (args : List Int) :
    Agree past turns level (prepareObject object verb freezeResistant recursive args m)
      (prepareObject object verb freezeResistant recursive args r) := by
  unfold Machine.prepareObject
  split
  · exact .ok none alike
  refine (alike.giveWay recursive (alike.stopObject object)).bind fun _ m r alike => ?_
  simp only [Run.get_bind_apply, alike.library]
  cases m.library.locate? object with
  | none => exact .ok none alike
  | some location =>
      dsimp only
      cases (m.library.object? object location).bind (·.verbOffset? verb) with
      | none => exact .ok none alike
      | some offset => exact (alike.claimSlot _ _ _ _ _ _ _).bind fun _ _ _ alike => .ok _ alike

/-! ## Cutscenes -/

theorem openCutscene (alike : Alike past turns level m r) (args : List Int) :
    Agree past turns level (openCutscene args m) (openCutscene args r) := by
  have counted : Alike past turns level
      (m.changeCurrent fun slot =>
        { slot with cutsceneOverride := Slot.countUp slot.cutsceneOverride })
      (r.changeCurrent fun slot =>
        { slot with cutsceneOverride := Slot.countUp slot.cutsceneOverride }) :=
    alike.changeCurrent fun _ => rfl
  simp only [Machine.openCutscene, Run.get_bind_apply, Run.modify_bind_apply, alike.current]
  generalize m.changeCurrent _ = m' at counted ⊢
  generalize r.changeCurrent _ = r' at counted ⊢
  rw [counted.cutscenes]
  cases m'.cutscenes.push? (args.headD 0) with
  | none => exact .error _ counted.faint
  | some cutscenes =>
      refine (Agree.change (counted.setCutscenes cutscenes)).bind fun _ m r alike => ?_
      refine (alike.log _).bind fun _ m r alike => ?_
      refine (Agree.change (alike.setOpener _)).bind fun _ m r alike => ?_
      rw [Run.get_bind_apply, Run.get_bind_apply, alike.hooks]
      refine ((alike.prepareScript _ _ _ _).onFailure .forgetOpener).bind fun slot m r alike => ?_
      cases slot with
      | none => exact (Agree.change alike.forgetOpener).bind fun _ _ _ alike => .ok none alike
      | some id => exact .ok _ alike

theorem releaseHold (alike : Alike past turns level m r) :
    Alike past turns level m.releaseHold r.releaseHold :=
  alike.changeCurrent fun _ => rfl

theorem closeCutscene (alike : Alike past turns level m r) :
    Agree past turns level (closeCutscene m) (closeCutscene r) := by
  have loosened := alike.releaseHold
  simp only [Machine.closeCutscene, Run.get_bind_apply, Run.modify_bind_apply]
  generalize m.releaseHold = m' at loosened ⊢
  generalize r.releaseHold = r' at loosened ⊢
  rw [loosened.cutscenes, loosened.hooks]
  have freed : Alike past turns level
      (if m'.cutscenes.top.resumeOffset.isSome then m'.releaseHold else m')
      (if m'.cutscenes.top.resumeOffset.isSome then r'.releaseHold else r') := by
    split
    · exact loosened.releaseHold
    · exact loosened
  cases m'.cutscenes.pop? with
  | none => exact .error _ ((freed.setOverride false).setCutscenes _).faint
  | some cutscenes =>
      simp only [Run.set_bind_apply]
      have closed := (freed.setOverride false).setCutscenes cutscenes
      refine Agree.bind (closed.log _) fun _ m r alike => ?_
      exact (alike.prepareScript _ _ _ _).bind fun _ _ _ alike => .ok _ alike

theorem abortCutscene (alike : Alike past turns level m r) :
    Alike past turns level m.abortCutscene r.abortCutscene := by
  unfold Machine.abortCutscene
  rw [alike.cutscenes]
  split
  next offset owner _ _ =>
    have redirected : Alike past turns level
        (m.changeSlot owner fun slot =>
          { slot with
            offset := offset
            status := .running
            delay := 0
            freezeCount := 0
            cutsceneOverride := Slot.countDown slot.cutsceneOverride })
        (r.changeSlot owner fun slot =>
          { slot with
            offset := offset
            status := .running
            delay := 0
            freezeCount := 0
            cutsceneOverride := Slot.countDown slot.cutsceneOverride }) :=
      alike.changeSlot owner fun _ => rfl
    exact ((redirected.setOverride true).setCutscenes _).logged _
  next => exact alike

theorem endOverride (alike : Alike past turns level m r) :
    Alike past turns level m.endOverride r.endOverride := by
  cases alike with
  | intro guise fits => exact .intro guise { fits with reads := fits.reads }

/-! ## Actors and rooms -/

/-- An actor is driven alike when the drive does not ask how the routing was read. -/
theorem driveActor (alike : Alike past turns level m r) (number : UInt8)
    {drive : Stage → Walk Unit}
    (blind : ∀ stage truncated, drive (stage.withTruncated truncated) = drive stage) :
    Agree past turns level (Run.driveActor number drive m) (Run.driveActor number drive r) := by
  refine Agree.bind ?_ fun _ _ _ alike => .ok () alike
  cases alike with
  | intro guise fits =>
      have stage : (m.wearing guise).stage = m.stage.withTruncated guise.truncated := rfl
      have cast : (m.wearing guise).cast = m.cast := rfl
      unfold Run.withActor
      rw [Run.get_bind_apply, Run.get_bind_apply, cast, stage, blind]
      cases m.cast.get? number with
      | none => exact .ok none (.intro guise fits)
      | some actor =>
          dsimp only
          cases (drive m.stage).run ⟨actor, []⟩ with
          | error fault => exact .error _ (Alike.intro guise fits).faint
          | ok result =>
              exact .ok _ (.intro { guise with events := guise.events ++ result.2.events }
                { fits with log := fits.log.append _ })

theorem changeRoom (alike : Alike past turns level m r) (number : UInt8) :
    Agree past turns level (changeRoom number m) (changeRoom number r) := by
  have left : Alike past turns level m.stopRoomScripts r.stopRoomScripts :=
    alike.stopWhere fun _ => rfl
  simp only [Machine.changeRoom, Run.get_bind_apply]
  rw [alike.rooms, alike.cast]
  cases m.rooms.get? number with
  | none => exact .ok () alike
  | some loaded =>
      have entered : Alike past turns level
          { m.stopRoomScripts with
            room := { loaded.geometry with number := number }
            library := { m.stopRoomScripts.library with room := loaded.code } }
          { r.stopRoomScripts with
            room := { loaded.geometry with number := number }
            library := { r.stopRoomScripts.library with room := loaded.code } } := by
        generalize m.stopRoomScripts = m' at left ⊢
        generalize r.stopRoomScripts = r' at left ⊢
        cases left with
        | intro guise fits =>
            exact .intro { guise with truncated := loaded.geometry.matrix.truncated }
              { fits with reads := fits.reads }
      refine Agree.forM (fun actor m r alike => ?_) _ (entered.logged _)
      exact alike.driveActor actor fun _ _ => rfl

/-! ## Reading code -/

theorem fetch {α : Type} (alike : Alike past turns .inside m r) (read : Code → Fetch α) :
    Agree past turns .inside (fetch read m) (fetch read r) := by
  unfold Machine.fetch
  rw [alike.currentNumber]
  cases alike with
  | intro guise fits =>
      obtain ⟨code, pc, front⟩ := fits.reads
      have found : read (m.wearing guise).code (m.wearing guise).pc = read m.code m.pc :=
        congrArg₂ read code pc
      rw [found]
      have moved (place : Nat) : Alike past turns .inside { m with pc := place }
          { m.wearing guise with pc := place } :=
        .intro { guise with pc := place } { fits with reads := ⟨code, rfl, front⟩ }
      cases read m.code m.pc with
      | ok result => exact .ok _ (moved _)
      | error offset => exact .error _ (moved _).faint

theorem jumpBy (alike : Alike past turns .inside m r) (distance : Int) :
    Agree past turns .inside (jumpBy distance m) (jumpBy distance r) := by
  simp only [Machine.jumpBy, Run.get_bind_apply, alike.currentNumber, alike.between.place]
  split
  · exact .error _ alike.faint
  · cases alike with
    | intro guise fits =>
        obtain ⟨code, pc, front⟩ := fits.reads
        exact .ok _ (.intro { guise with pc := (m.pc + distance).toNat }
          { fits with reads := ⟨code, rfl, front⟩ })

theorem jumpOnLocal (alike : Alike past turns .inside m r) (index : UInt8) (distance : Int)
    (whenZero : Bool) :
    Agree past turns .inside (jumpOnLocal index distance whenZero m)
      (jumpOnLocal index distance whenZero r) := by
  simp only [Machine.jumpOnLocal, Run.get_bind_apply, alike.localValue]
  split
  · exact alike.jumpBy distance
  · exact .ok _ alike

theorem noted (alike : Alike past turns level m r) (place : r.pc = m.pc) :
    Alike past turns level m.noted r.noted := by
  unfold Machine.noted
  rw [place]
  exact alike.changeCurrent fun _ => rfl

theorem yieldHere (alike : Alike past turns level m r) (place : r.pc = m.pc) :
    Alike past turns level m.yieldHere r.yieldHere :=
  (alike.noted place).setCurrent none

theorem retryNextTick (alike : Alike past turns .inside m r) :
    Alike past turns .inside m.retryNextTick r.retryNextTick := by
  have front := alike.front
  have back : Alike past turns .inside { m with pc := m.opStart } { r with pc := r.opStart } := by
    cases alike with
    | intro guise fits =>
        exact .intro { guise with pc := guise.opStart }
          { fits with reads := ⟨fits.reads.1, front, front⟩ }
  exact back.yieldHere front

theorem delayCurrent (alike : Alike past turns .inside m r) (ticks : Int) :
    Alike past turns .inside (m.delayCurrent ticks) (r.delayCurrent ticks) := by
  have waits : Alike past turns .inside
      (m.changeCurrent fun slot => { slot with delay := ticks, status := .paused })
      (r.changeCurrent fun slot => { slot with delay := ticks, status := .paused }) :=
    alike.changeCurrent fun _ => rfl
  exact waits.yieldHere alike.between.place

theorem beginOverride (alike : Alike past turns .inside m r) :
    Agree past turns .inside (beginOverride m) (beginOverride r) := by
  have same : r.cutscenes.modifyTop
        (fun frame => { frame with resumeOffset := some r.pc, ownerSlot := r.current }) =
      m.cutscenes.modifyTop
        fun frame => { frame with resumeOffset := some m.pc, ownerSlot := m.current } := by
    rw [alike.between.place, alike.current, alike.cutscenes]
  simp only [Machine.beginOverride, Run.modify_bind_apply]
  rw [same]
  have armed := alike.setCutscenes (m.cutscenes.modifyTop
    fun frame => { frame with resumeOffset := some m.pc, ownerSlot := m.current })
  refine (armed.fetch _).bind fun _ m r alike => ?_
  refine (alike.fetch _).bind fun _ m r alike => ?_
  refine .change ?_
  have clears : r.rules.overrideClearsFlagOnBegin = m.rules.overrideClearsFlagOnBegin := by
    rw [alike.rules]
  rw [clears]
  split
  · exact alike.setOverride false
  · exact alike

/-! ## Instructions -/

theorem perform (alike : Alike past turns .inside m r) (operation : Operation)
    (operands : Operands operation.shape) :
    Agree past turns .inside (perform operation operands m) (perform operation operands r) := by
  cases operation with
  | end_ => exact .alone (.change alike.stopCurrent)
  | break_ => exact .alone (.change (alike.yieldHere alike.between.place))
  | delay => exact .alone (.change (alike.delayCurrent _))
  | jump => exact .alone (alike.jumpBy _)
  | setLocal => exact .alone (.change (alike.setLocal _ _))
  | addLocal =>
      refine .alone (.change ?_)
      rw [alike.localValue]
      exact alike.setLocal _ _
  | jumpIfZero => exact .alone (alike.jumpOnLocal _ _ _)
  | startScript => exact (alike.prepareScript _ _ _ _).bind fun _ _ _ alike => .ok _ alike
  | stopScript =>
      refine .alone ?_
      split
      · exact .change alike.stopCurrent
      · exact alike.stopScript _
  | startObject => exact (alike.prepareObject _ _ _ _ _).bind fun _ _ _ alike => .ok _ alike
  | stopObject => exact .alone (alike.stopObject _)
  | freeze =>
      refine .alone (.change ?_)
      split
      · exact alike.unfreezeScripts
      · exact alike.freezeScripts _
  | beginCutscene => exact alike.openCutscene _
  | endCutscene => exact alike.closeCutscene
  | beginOverride => exact .alone alike.beginOverride
  | endOverride => exact .alone (.change alike.endOverride)
  | waitActor =>
      refine .alone (.change ?_)
      rw [alike.cast]
      split
      · exact alike.retryNextTick
      · exact alike
  | waitScript =>
      refine .alone (.change ?_)
      rw [alike.isScriptRunning]
      split
      · exact alike.retryNextTick
      · exact alike
  | walkActor => exact .alone (alike.driveActor _ fun _ _ => rfl)
  | putActor => exact .alone (alike.driveActor _ fun _ _ => rfl)
  | faceActor => exact .alone (alike.driveActor _ fun _ _ => rfl)
  | actorSpeed => exact .alone (alike.driveActor _ fun _ _ => rfl)
  | setBoxFlags => exact .alone (.change (alike.setBoxFlags _ _))
  | createBoxMatrix =>
      refine .alone (.change ?_)
      rw [alike.boxes]
      exact alike.rebuildMatrix.logged _
  | setScaleSlot => exact .alone (.change (alike.setRamp _ _))
  | setVar => exact .alone (.change (alike.setVar _ _))
  | overrideToLocal =>
      refine .alone (.change ?_)
      rw [alike.overrideActive]
      exact alike.setLocal _ _
  | ignoreBoxes => exact .alone (alike.driveActor _ fun _ _ => rfl)
  | setEgo => exact .alone (.change (alike.setEgo _))
  | loadRoom => exact .alone (alike.changeRoom _)
  | actorCostume => exact .alone (alike.driveActor _ fun _ _ => rfl)
  | stopActor => exact .alone (alike.driveActor _ fun _ _ => rfl)
  | jumpIfNotZero => exact .alone (alike.jumpOnLocal _ _ _)
  | isScriptRunning =>
      refine .alone (.change ?_)
      rw [alike.isScriptRunning]
      exact alike.setLocal _ _
  | isObjectRunning =>
      refine .alone (.change ?_)
      rw [alike.isRoomScriptRunning]
      exact alike.setLocal _ _

/-- **Machines that read the same perform the next instruction alike.** -/
theorem instruct (alike : Alike past turns .between m r) (id : SlotId) :
    Agree past turns .between (instruct id m) (instruct id r) := by
  have front : Alike past turns .inside { m with opStart := m.pc } { r with opStart := r.pc } := by
    cases alike with
    | intro guise fits =>
        obtain ⟨code, pc⟩ := fits.reads
        exact .intro { guise with opStart := guise.pc } { fits with reads := ⟨code, pc, pc⟩ }
  refine Agree.mono ?_ Alike.between
  simp only [Machine.instruct, Run.modify_bind_apply]
  refine (front.fetch _).bind fun opcode m r alike => ?_
  refine Agree.bind (.change (alike.marked id)) fun _ m r alike => ?_
  cases Operation.ofCode? opcode with
  | none =>
      dsimp only
      rw [Run.get_bind_apply, Run.get_bind_apply, alike.currentNumber, alike.front]
      exact .error _ alike.faint
  | some operation =>
      dsimp only
      rw [handle_eq]
      exact (alike.fetch _).bind fun operands m r alike => alike.perform operation operands

/-! ## Calls and executions -/

/-- A slot whose code is looked up again is read alike, whatever was read before. -/
theorem loadSlotCode (alike : Alike past turns level m r) (id : SlotId) :
    Agree past turns .between (loadSlotCode id m) (loadSlotCode id r) := by
  simp only [Machine.loadSlotCode, Run.get_bind_apply]
  rw [alike.library]
  rcases alike.slot id with ⟨absent, absent'⟩ | ⟨slot, executed, present, present'⟩
  · rw [absent, absent']
    exact .error _ alike.faint
  rw [present, present']
  dsimp only
  cases m.library.code? slot.number slot.location with
  | none => exact .error _ alike.faint
  | some code =>
      cases alike with
      | intro guise fits =>
          exact .ok _ (.intro { guise with code := code, pc := slot.offset }
            { fits with reads := ⟨rfl, rfl⟩ })

/-- A script is called alike when no script waits for it, or when the one that waits notes the
same place. -/
theorem enter (alike : Alike past turns level m r) (place : m.current = none ∨ r.pc = m.pc)
    (id : SlotId) : Agree past turns .between (enter id m) (enter id r) := by
  have saved : Alike past turns level m.noted r.noted := by
    rcases place with rest | same
    · unfold Machine.noted
      rw [changeCurrent_of_rest rest, changeCurrent_of_rest (alike.current.trans rest)]
      exact alike
    · exact alike.noted same
  simp only [Machine.enter, Run.get_bind_apply, Run.set_bind_apply, alike.callFrame]
  unfold Machine.noted at saved
  generalize m.changeCurrent _ = m' at saved ⊢
  generalize r.changeCurrent _ = r' at saved ⊢
  rw [saved.calls]
  cases m'.calls.push? m.callFrame with
  | none => exact .error _ saved.faint
  | some calls =>
      have called : Alike past turns level { m' with calls := calls, current := some id }
          { r' with calls := calls, current := some id } := by
        cases saved with
        | intro guise fits => exact .intro guise { fits with reads := fits.reads }
      exact called.loadSlotCode id

theorem returnToCaller (alike : Alike past turns .between m r) :
    Agree past turns .between (returnToCaller m) (returnToCaller r) := by
  have taken (calls : CallStack) : Alike past turns .between
      { m with calls := calls, current := none } { r with calls := calls, current := none } := by
    cases alike with
    | intro guise fits => exact .intro guise { fits with reads := fits.reads }
  simp only [Machine.returnToCaller, Run.get_bind_apply]
  rw [alike.calls]
  cases m.calls with
  | nil => exact .ok _ (taken [])
  | cons frame outer =>
      simp only [Run.set_bind_apply]
      split
      · exact .ok _ (taken outer)
      cases frame.slot with
      | none => exact .ok _ (taken outer)
      | some caller =>
          dsimp only
          rw [alike.isResumable]
          split
          · refine Agree.bind (.change ((taken outer).setCurrent _)) fun _ m r alike => ?_
            exact alike.loadSlotCode caller
          · exact .ok _ (taken outer)

section Calling

variable {run : Run Unit}

theorem runNested (alike : Alike past turns level m r) (place : m.current = none ∨ r.pc = m.pc)
    (runs : ∀ {m r : Machine}, Alike past turns .between m r →
      Agree past turns .between (run m) (run r))
    (id : SlotId) : Agree past turns .between (runNested run id m) (runNested run id r) := by
  refine (alike.enter place id).bind fun _ m r alike => ?_
  refine (runs alike).bind fun _ m r alike => ?_
  exact alike.returnToCaller

theorem answer (alike : Alike past turns level m r) (place : m.current = none ∨ r.pc = m.pc)
    (runs : ∀ {m r : Machine}, Alike past turns .between m r →
      Agree past turns .between (run m) (run r))
    (call : Call) :
    Agree past turns .between (answer run (some call) m) (answer run (some call) r) := by
  dsimp only [Machine.answer]
  split
  · exact (alike.runNested place runs call.slot).finally_ Alike.forgetOpener
  · exact alike.runNested place runs call.slot

theorem step (alike : Alike past turns .between m r)
    (runs : ∀ {m r : Machine}, Alike past turns .between m r →
      Agree past turns .between (run m) (run r))
    (id : SlotId) : Agree past turns .between (step run id m) (step run id r) := by
  refine (alike.instruct id).bind fun call m r alike => ?_
  cases call with
  | none => exact .ok _ alike
  | some call => exact alike.answer (.inr alike.place) runs call

end Calling

/-- **Machines that read the same execute alike.** -/
theorem execute (alike : Alike past turns .between m r) (fuel : Nat) :
    Agree past turns .between (execute fuel m) (execute fuel r) := by
  induction fuel generalizing m r with
  | zero => exact .error _ alike.faint
  | succ fuel ih =>
      simp only [Machine.execute, Run.get_bind_apply]
      rw [alike.current]
      cases m.current with
      | none => exact .ok _ alike
      | some id =>
          dsimp only
          exact (alike.step ih id).bind fun _ _ _ alike => ih alike

end Alike

/-! ## Ticks -/

/-- A rule that gives the same fault on two machines, or machines that are alike. -/
inductive SameRule (past : Past) (turns : Bool) (level : Level) :
    Checked Machine → Checked Machine → Prop where
  | ok {m r : Machine} (alike : Alike past turns level m r) :
      SameRule past turns level (.ok m) (.ok r)
  | error (fault : Fault) : SameRule past turns level (.error fault) (.error fault)

namespace Alike

theorem changeChecked (alike : Alike past turns level m r) {rule : Machine → Checked Machine}
    (same : SameRule past turns level (rule m) (rule r)) :
    Agree past turns level (changeChecked rule m) (changeChecked rule r) := by
  simp only [Machine.changeChecked, Run.get_bind_apply]
  revert same
  cases rule m <;> cases rule r <;> intro same <;> cases same
  next => exact .error _ alike.faint
  next alike => exact .ok _ alike

theorem countTick (alike : Alike past turns level m r) :
    SameRule past turns level m.countTick r.countTick := by
  cases alike with
  | intro guise fits =>
      unfold Machine.countTick
      change SameRule past turns level _ (if m.tick < tickLimit then _ else _)
      split
      · exact .ok (.intro guise { fits with reads := fits.reads })
      · exact .error _

theorem decreaseDelay (alike : Alike past turns level m r) (amount : Int) :
    SameRule past turns level (m.decreaseDelay amount) (r.decreaseDelay amount) := by
  cases alike with
  | intro guise fits =>
      unfold Machine.decreaseDelay
      change SameRule past turns level _ (if guise.slots.cells.all _ = true then _ else _)
      rw [SlotTable.all_of_seen fits.slots fun _ => rfl]
      split
      · refine .ok (.intro { guise with slots := _ }
          { fits with slots := SlotTable.seen_map (fun slot => ?_) fits.slots })
        unfold waitSlot
        change (if isWaiting slot = true then
          if slot.delay - amount ≤ 0 then _ else _ else _) = _
        split
        · split <;> rfl
        · rfl
      · exact .error _

/-- A tick takes the marks of the last one off, so the marks that follow can count. -/
theorem unmarked (alike : Alike past turns level m r) :
    Alike past true level
      { m with slots := m.slots.map fun slot => { slot with executed := false }, current := none }
      { r with
        slots := r.slots.map fun slot => { slot with executed := false }, current := none } := by
  cases alike with
  | intro guise fits =>
      refine .intro { guise with slots := _ } { fits with slots := ?_ }
      change SlotTable.seen true (guise.slots.map _) = _
      rw [← SlotTable.seen_false, ← SlotTable.seen_false, SlotTable.seen_false_of_seen fits.slots]

theorem beginTick (alike : Alike past turns level m r) :
    Agree past true level (beginTick m) (beginTick r) := by
  refine (alike.changeChecked alike.countTick).bind fun _ m r alike => ?_
  refine (alike.changeChecked (alike.decreaseDelay 1)).bind fun _ m r alike => ?_
  exact .change alike.unmarked

theorem takeTurn (alike : Alike past true .idle m r) (fuel : Nat) (id : SlotId) :
    Agree past true .idle (takeTurn fuel id m) (takeTurn fuel id r) := by
  simp only [Machine.takeTurn, Run.get_bind_apply]
  rw [alike.isReady]
  split
  · refine Agree.bind (.change (alike.setCurrent _)) fun _ m r alike => ?_
    refine (alike.loadSlotCode id).bind fun _ m r alike => ?_
    exact (alike.execute fuel).mono Alike.idle
  · exact .ok _ alike

theorem walkActors (alike : Alike past turns level m r) (fuel : Nat) :
    SameRule past turns level (m.walkActors fuel) (r.walkActors fuel) := by
  cases alike with
  | intro guise fits =>
      have stage : (m.wearing guise).stage = m.stage.withTruncated guise.truncated := rfl
      unfold Machine.walkActors
      rw [stage, Stage.tickActors_withTruncated]
      change SameRule past turns level _
        (if m.room.number = 0 then _ else m.stage.tickActors fuel m.cast.driven >>= _)
      split
      · exact .ok (.intro guise fits)
      cases m.stage.tickActors fuel m.cast.driven with
      | error fault => exact .error fault
      | ok result =>
          exact .ok (.intro { guise with events := guise.events ++ result.2 }
            { fits with log := fits.log.append _ })

theorem runTick (alike : Alike past turns .idle m r) (fuel : Nat) :
    Agree past false .idle (runTick fuel m) (runTick fuel r) := by
  rw [runTick_eq]
  refine alike.beginTick.bind fun _ m r alike => ?_
  refine (Agree.forM (fun id _ _ alike => alike.takeTurn fuel id) _ alike).bind
    fun _ m r alike => ?_
  exact (alike.changeChecked (alike.walkActors fuel)).mono Alike.faint

/-! ## Orders -/

theorem prepare (alike : Alike past turns level m r) (order : Order) :
    Agree past turns level (order.prepare m) (order.prepare r) := by
  cases order with
  | startScript => exact (alike.prepareScript _ _ _ _).bind fun _ _ _ alike => .ok _ alike
  | startObject => exact (alike.prepareObject _ _ _ _ _).bind fun _ _ _ alike => .ok _ alike
  | stopScript => exact .alone (alike.stopScript _)
  | stopObject => exact .alone (alike.stopObject _)
  | freezeScripts => exact .alone (.change (alike.freezeScripts _))
  | unfreezeScripts => exact .alone (.change alike.unfreezeScripts)
  | beginCutscene => exact alike.openCutscene _
  | endCutscene => exact alike.closeCutscene
  | abortCutscene => exact .alone (.change alike.abortCutscene)
  | changeRoom => exact .alone (alike.changeRoom _)
  | tick => exact .alone (.ok _ alike)

/-- **Machines at rest that are alike carry out every order alike.** -/
theorem carryOut (alike : Alike past false .idle m r) (rest : m.current = none) (order : Order)
    (fuel : Nat) : Agree past false .idle (order.carryOut fuel m) (order.carryOut fuel r) := by
  by_cases tick : order = .tick
  · subst tick
    exact alike.runTick fuel
  rw [Order.carryOut_eq fuel tick, Run.bind_apply, Run.bind_apply]
  have prepared := alike.prepare order
  revert prepared
  cases prepares : order.prepare m <;> cases order.prepare r <;> intro prepared <;> cases prepared
  next call asked asked' alike =>
    cases call with
    | none => exact .ok _ alike
    | some call =>
        -- the order finds no script executing, so nobody notes a place
        have still : asked.current = none := Order.prepare_rest rest prepares
        exact (alike.answer (.inl still) (fun alike => alike.execute fuel) call).mono Alike.idle
  next alike => exact .error _ alike

end Alike

end Adventure.Machine
