import Adventure.Proofs.Machine.Journal

/-!
# Who holds which cutscene

A slot counts the cutscenes that its script has opened and not closed yet, and under strict
rules a script with such a cutscene may not be stopped.  Opening a cutscene adds one to the
count.  Closing it takes one off, closing it with its override armed takes off two, and
skipping it takes off one, before it is closed.

A ledger is kept along the journal of a game.  It has one entry for each open cutscene, and
counts for each slot how many holds have been taken off too much.  As long as every cutscene
is closed by the script that has opened it, the count of a slot and what it has lost make up
its open cutscenes.  So the count is right as long as no cutscene is skipped or closed with
its override armed.  Otherwise it is too low whenever an outer cutscene is still open, and
then the script may be stopped in the middle of it.
-/

set_option autoImplicit false

namespace Adventure

namespace Slot

theorem countUp_toNat {count : UInt8} (less : count.toNat < 255) :
    (countUp count).toNat = count.toNat + 1 := by
  unfold countUp
  split
  next full => simp [full] at less
  next => rw [UInt8.toNat_add, UInt8.toNat_one, Nat.mod_eq_of_lt (by omega)]

theorem countDown_toNat (count : UInt8) : (countDown count).toNat = count.toNat - 1 := by
  unfold countDown
  split
  next none => simp [none]
  next some =>
    have positive : 1 ≤ count := by
      rw [UInt8.le_iff_toNat_le, UInt8.toNat_one]
      exact Nat.one_le_iff_ne_zero.mpr fun zero => some (UInt8.toNat_inj.mp zero)
    rw [UInt8.toNat_sub_of_le _ _ positive, UInt8.toNat_one]

end Slot

/-- Entries that do not satisfy a test are taken out of a list; the others are counted as
before. -/
theorem count_map_filter {α : Type} [DecidableEq α] (test : α → Bool) (value : α)
    (entries : List (Option α)) :
    (entries.map (·.filter test)).count (some value) =
      if test value then entries.count (some value) else 0 := by
  induction entries with
  | nil => simp
  | cons entry entries ih =>
      rw [List.map_cons, List.count_cons, List.count_cons, ih]
      cases entry with
      | none => simp
      | some other =>
          by_cases same : other = value
          · subst same
            cases passes : test other <;> simp [Option.filter, passes]
          · cases passes : test other <;> simp [Option.filter, passes, same]

namespace Machine

variable {m m' start : Machine} {claimed : Option SlotId}

/-! ## Ledgers -/

/-- The slot that skipping the innermost cutscene redirects. -/
def redirected? (m : Machine) : Option SlotId :=
  if m.cutscenes.top.resumeOffset.isSome then m.cutscenes.top.ownerSlot else none

/-- The slot that gives back a hold too much when it closes the innermost cutscene. -/
def overdrawn? (m : Machine) : Option SlotId :=
  if m.cutscenes.top.resumeOffset.isSome then m.current else none

/-- An account of the open cutscenes. -/
structure Ledger where
  /-- The slots of the scripts that have opened the open cutscenes, the innermost first.  There is
  no slot when the script has ended, or when no script has opened the cutscene. -/
  openers : List (Option SlotId)
  /-- How many holds the script of a slot has lost on cutscenes that are still open. -/
  lost : SlotId → Nat

namespace Ledger

def empty : Ledger := ⟨[], fun _ => 0⟩

/-- How many open cutscenes the script of a slot has opened. -/
def scenes (ledger : Ledger) (id : SlotId) : Nat := ledger.openers.count (some id)

/-- A slot may lose a hold, but never more than it has open cutscenes. -/
def lose (ledger : Ledger) (loser : Option SlotId) : Ledger :=
  { ledger with
    lost := fun id => min (ledger.lost id + if loser = some id then 1 else 0) (ledger.scenes id) }

/-- Books what a step does with cutscenes. -/
def book (ledger : Ledger) (m : Machine) : Act → Ledger
  | .opens => { ledger with openers := m.current :: ledger.openers }
  | .closes => { ledger with openers := ledger.openers.tail }.lose m.overdrawn?
  | .skips => ledger.lose m.redirected?
  | .other => ledger

/-- Takes out the scripts that a step has ended or replaced. -/
def settle (ledger : Ledger) (entry : Entry) : Ledger :=
  { openers := ledger.openers.map (·.filter entry.stays)
    lost := fun id => if entry.stays id then ledger.lost id else 0 }

theorem scenes_settle (ledger : Ledger) (entry : Entry) (id : SlotId) :
    (ledger.settle entry).scenes id = if entry.stays id then ledger.scenes id else 0 :=
  count_map_filter _ _ _

theorem scenes_le (ledger : Ledger) (id : SlotId) : ledger.scenes id ≤ ledger.openers.length :=
  List.count_le_length

variable {ledger : Ledger} {opener : Option SlotId} {rest : List (Option SlotId)}

theorem scenes_cons (openers : ledger.openers = opener :: rest) (id : SlotId) :
    ledger.scenes id = rest.count (some id) + if opener = some id then 1 else 0 := by
  rw [scenes, openers, List.count_cons]
  simp

theorem scenes_closes (openers : ledger.openers = opener :: rest) (m : Machine) (id : SlotId) :
    (ledger.book m .closes).scenes id = rest.count (some id) := by
  change ledger.openers.tail.count (some id) = _
  rw [openers]
  rfl

theorem lost_closes (openers : ledger.openers = opener :: rest) (m : Machine) (id : SlotId) :
    (ledger.book m .closes).lost id =
      min (ledger.lost id + if m.overdrawn? = some id then 1 else 0) (rest.count (some id)) := by
  change min _ (ledger.openers.tail.count (some id)) = _
  rw [openers]
  rfl

end Ledger

/-- The ledger of a journal. -/
def ledger (start : Machine) : List Line → Ledger
  | [] => .empty
  | line :: past =>
    ((ledger start past).book (reached start past) line.act).settle line.toEntry

/-- Every cutscene is closed by the script that has opened it; the host closes those that no
script has opened. -/
def matched (start : Machine) : List Line → Bool
  | [] => true
  | line :: past =>
    matched start past &&
      (line.act != .closes ||
        (ledger start past).openers.head? == some (reached start past).current)

/-- No cutscene is skipped, and none is closed with its override armed. -/
def tidy (start : Machine) : List Line → Bool
  | [] => true
  | line :: past =>
    tidy start past &&
      match line.act with
      | .closes => !(reached start past).cutscenes.top.resumeOffset.isSome
      | .skips => !(reached start past).cutscenes.top.resumeOffset.isSome
      | _ => true

/-! ## What a step does with holds -/

/-- The holds of every script are left alone, as long as it goes on. -/
structure Held (claimed : Option SlotId) (m m' : Machine) : Prop where
  depth : m'.cutscenes.pointer.val = m.cutscenes.pointer.val
  new : ∀ {id slot}, claimed = some id → m'.slots.get? id = some slot → slot.cutsceneOverride = 0
  slot : ∀ {id after}, claimed ≠ some id → m'.slots.get? id = some after →
    ∃ before, m.slots.get? id = some before ∧ before.Carries after

namespace Held

/-- A change of the slots, seen slot by slot. -/
theorem of_slots (change : SlotId → Slot → Slot)
    (depth : m'.cutscenes.pointer = m.cutscenes.pointer)
    (slots : ∀ id, m'.slots.get? id = (m.slots.get? id).map (change id))
    (kept : ∀ (id : SlotId) (slot : Slot), slot.Carries (change id slot)) : Held none m m' := by
  refine ⟨congrArg _ depth, fun claims => (nomatch claims), ?_⟩
  intro id after _ present
  rw [slots] at present
  obtain ⟨before, found, rfl⟩ := Option.map_eq_some_iff.mp present
  exact ⟨before, found, kept id before⟩

theorem of_same (depth : m'.cutscenes.pointer = m.cutscenes.pointer)
    (slots : m'.slots = m.slots) : Held none m m' := by
  refine of_slots (fun _ slot => slot) depth (fun id => ?_) fun _ slot => .refl slot
  rw [slots, Option.map_id']

/-- A change of every slot that leaves its holds and its life alone. -/
theorem of_map (change : Slot → Slot) (depth : m'.cutscenes.pointer = m.cutscenes.pointer)
    (slots : m'.slots = m.slots.map change)
    (kept : ∀ slot : Slot, (change slot).cutsceneOverride = slot.cutsceneOverride ∧
      (change slot).isDead = slot.isDead) : Held none m m' := by
  refine of_slots (fun _ => change) depth (fun id => ?_) fun _ slot => ?_
  · rw [slots, Bank.get?_map]
  · exact .inl ⟨(kept slot).1, fun dead => (kept slot).2.symm.trans dead⟩

end Held

theorem Offstage.held (offstage : Offstage claimed m m') : Held claimed m m' where
  depth := congrArg _ offstage.depth
  new claims present := (offstage.new claims present).1
  slot distinct present := by
    obtain ⟨before, found, carries, _⟩ := offstage.slot distinct present
    exact ⟨before, found, carries⟩

theorem waitSlot_held (amount : Int) (slot : Slot) :
    (waitSlot amount slot).cutsceneOverride = slot.cutsceneOverride ∧
      (waitSlot amount slot).isDead = slot.isDead := by
  refine ⟨?_, (waitSlot_same amount slot).2.2.2⟩
  unfold waitSlot
  split
  · split <;> rfl
  · rfl

theorem Deed.Opens.held {deed : Deed} {begun : Machine} (opens : deed.Opens m begun) :
    Held none m begun := by
  cases opens with
  | tick begins =>
      rw [beginTick_ok begins]
      refine .of_map (fun slot => { waitSlot 1 slot with executed := false }) rfl ?_
        (waitSlot_held 1)
      apply Bank.ext_get?
      intro id
      simp only [Bank.get?_map, Option.map_map]
      rfl
  | pass => exact .of_map _ rfl rfl fun _ => ⟨rfl, rfl⟩

theorem Deed.plain_held {deed : Deed} {fuel : Nat} (plain : deed.isPlain = true)
    (done : deed.carryOut fuel m = .ok () m') : Held none m m' := by
  cases deed with
  | order => cases plain
  | pass => cases plain
  | wait amount =>
      have waited := changeChecked_ok done
      unfold decreaseDelay at waited
      split at waited
      · cases waited
        exact .of_map (waitSlot amount) rfl rfl (waitSlot_held amount)
      · cases waited
  | stopCurrent =>
      cases done
      exact (Offstage.stopCurrent m).held
  | beginOverride => exact (Offstage.beginOverride done).held
  | endOverride =>
      cases done
      exact .of_same rfl rfl
  | arrange =>
      cases done
      exact .of_same rfl rfl

theorem Between.held (between : Between m m') : Held none m m' := by
  cases between with
  | enter _ done =>
      obtain ⟨_, _, _, _, rfl⟩ := enter_ok done
      refine .of_slots (fun id slot => if m.current = some id then { slot with offset := m.pc }
        else slot) rfl (fun id => ?_) fun id slot => ?_
      · change m.noted.slots.get? id = _
        rw [noted, changeCurrent_get?]
        split
        · rfl
        · rw [Option.map_id']
      · split
        · exact .refl slot
        · exact .refl slot
  | back returned =>
      cases returned with
      | bare => exact .of_same rfl rfl
      | stays => exact .of_same rfl rfl
      | resumes => exact .of_same rfl rfl
  | forget => exact .of_same rfl rfl
  | opens opens => exact opens.held
  | turn _ loads =>
      obtain ⟨_, _, _, _, rfl⟩ := loadSlotCode_ok loads
      exact .of_same rfl rfl
  | walk => exact .of_same rfl rfl
  | plain _ plain done => exact Deed.plain_held plain done

/-- Orders that neither open, close nor skip a cutscene leave cutscenes alone. -/
theorem Order.prepare_offstage {order : Order} {call : Option Call} (other : order.act = .other)
    (done : order.prepare m = .ok call m') : Offstage (call.map (·.slot)) m m' := by
  cases order with
  | startScript => exact .of_slot (fun ran => (Offstage.prepareScript ran).1) done
  | startObject => exact .of_slot .prepareObject done
  | stopScript => exact .alone (fun ran => (Offstage.stopScript ran).1) done
  | stopObject => exact .alone (fun ran => (Offstage.stopObject ran).1) done
  | freezeScripts flag => exact .change (.freezeScripts m flag) done
  | unfreezeScripts => exact .change (.unfreezeScripts m) done
  | beginCutscene => cases other
  | endCutscene => cases other
  | abortCutscene => cases other
  | changeRoom => exact .alone .changeRoom done
  | tick =>
      refine .alone (fun ran => ?_) done
      cases ran
      exact .of_same rfl rfl rfl

theorem abortCutscene_pointer (m : Machine) :
    m.abortCutscene.cutscenes.pointer = m.cutscenes.pointer := by
  unfold abortCutscene
  split <;> rfl

/-- Skipping a cutscene takes one hold off the slot that it redirects, which runs then. -/
theorem abortCutscene_slot {id : SlotId} {after : Slot}
    (present : m.abortCutscene.slots.get? id = some after) :
    ∃ before, m.slots.get? id = some before ∧
      (m.redirected? = some id ∧ after.isDead = false ∧
          after.cutsceneOverride = Slot.countDown before.cutsceneOverride ∨
        m.redirected? ≠ some id ∧ after = before) := by
  unfold abortCutscene at present
  split at present
  next offset owner resume owned =>
    have redirects : m.redirected? = some owner := by simp [redirected?, resume, owned]
    change (m.slots.modify owner _).get? id = some after at present
    rw [Bank.get?_modify] at present
    split at present
    next same =>
      subst same
      obtain ⟨before, found, rfl⟩ := Option.map_eq_some_iff.mp present
      exact ⟨before, found, .inl ⟨redirects, rfl, rfl⟩⟩
    next other =>
      refine ⟨after, present, .inr ⟨?_, rfl⟩⟩
      rw [redirects]
      exact fun same => other (Option.some.inj same)
  next unarmed =>
    refine ⟨after, present, .inr ⟨?_, rfl⟩⟩
    unfold redirected?
    split
    next armed =>
      obtain ⟨offset, resume⟩ := Option.isSome_iff_exists.mp armed
      exact unarmed offset id resume
    next => exact fun same => (nomatch same)

/-! ## The books are balanced -/

/-- A script that closes a cutscene holds one less, or two when its override is armed. -/
theorem closed_get? (closed : Closed m m') (id : SlotId) :
    m'.slots.get? id =
      if m.current = some id then
        (m.slots.get? id).map fun slot =>
          { slot with
            cutsceneOverride :=
              if m.cutscenes.top.resumeOffset.isSome then
                Slot.countDown (Slot.countDown slot.cutsceneOverride)
              else Slot.countDown slot.cutsceneOverride }
      else m.slots.get? id := by
  rw [closed.slots]
  split
  · have same : m.releaseHold.current = m.current := rfl
    rw [releaseHold, changeCurrent_get?, same, releaseHold, changeCurrent_get?]
    split
    · rw [Option.map_map]
      rfl
    · rfl
  · rw [releaseHold, changeCurrent_get?]

/-- The ledger has one entry for each open cutscene.  Of every slot, the holds and what it has
lost make up its open cutscenes, and a slot that runs nothing has none. -/
structure Balanced (ledger : Ledger) (m : Machine) : Prop where
  depth : ledger.openers.length = m.cutscenes.pointer.val
  slot : ∀ {id slot}, m.slots.get? id = some slot →
    slot.cutsceneOverride.toNat + ledger.lost id = ledger.scenes id ∧
      (slot.isDead = true → ledger.scenes id = 0)

namespace Balanced

variable {ledger : Ledger}

theorem of_same (balanced : Balanced ledger m) (depth : m'.cutscenes.pointer = m.cutscenes.pointer)
    (slots : ∀ {id after}, m'.slots.get? id = some after → ∃ before,
      m.slots.get? id = some before ∧ after.cutsceneOverride = before.cutsceneOverride ∧
        after.isDead = before.isDead) : Balanced ledger m' := by
  refine ⟨balanced.depth.trans (congrArg _ depth).symm, ?_⟩
  intro id after present
  obtain ⟨before, found, count, dead⟩ := slots present
  rw [count, dead]
  exact balanced.slot found

theorem fetched (balanced : Balanced ledger m) (current : SlotId) (after : Nat) :
    Balanced ledger (m.fetched current after) := by
  refine balanced.of_same rfl ?_
  intro id slot present
  change (m.slots.modify current _).get? id = some slot at present
  rw [Bank.get?_modify] at present
  split at present
  · obtain ⟨before, found, rfl⟩ := Option.map_eq_some_iff.mp present
    exact ⟨before, found, rfl, rfl⟩
  · exact ⟨slot, present, rfl, rfl⟩

/-- No slot holds more cutscenes than can be open. -/
theorem few (balanced : Balanced ledger m) {id : SlotId} {slot : Slot}
    (present : m.slots.get? id = some slot) : slot.cutsceneOverride.toNat < 255 := by
  have holds := (balanced.slot present).1
  have scenes := ledger.scenes_le id
  have depth := balanced.depth
  have limit := m.cutscenes.pointer.isLt
  omega

theorem settle (balanced : Balanced ledger m) (held : Held claimed m m') :
    Balanced (ledger.settle ⟨claimed, m'⟩) m' := by
  refine ⟨?_, ?_⟩
  · rw [held.depth, ← balanced.depth]
    exact List.length_map _
  · intro id slot present
    have alive : m'.isAlive id = !slot.isDead := by simp [isAlive, present]
    rw [Ledger.scenes_settle]
    by_cases new : claimed = some id
    · have ends : Entry.stays ⟨claimed, m'⟩ id = false := by simp [Entry.stays, new]
      simp [Ledger.settle, ends, held.new new present]
    · obtain ⟨before, found, carries⟩ := held.slot new present
      obtain ⟨holds, gone⟩ := balanced.slot found
      have stays : Entry.stays ⟨claimed, m'⟩ id = !slot.isDead := by
        simp [Entry.stays, new, alive]
      simp only [Ledger.settle, stays]
      cases dead : slot.isDead with
      | true =>
          have none : slot.cutsceneOverride.toNat = 0 := by
            rcases carries with ⟨count, dies⟩ | ⟨count, _⟩
            · rw [count]
              have := gone (dies dead)
              omega
            · rw [count]
              rfl
          simp [none]
      | false =>
          rcases carries with ⟨count, _⟩ | ⟨_, dies⟩
          · simpa [count] using holds
          · cases dies.symm.trans dead

/-- A script that opens a cutscene holds one more. -/
theorem opened (balanced : Balanced ledger m) (sited : Sited m) (opened : Opened m m') :
    Balanced (ledger.book m .opens) m' := by
  refine ⟨?_, ?_⟩
  · rw [opened.depth, ← balanced.depth]
    rfl
  · intro id slot present
    rw [opened.slots, changeCurrent_get?] at present
    change _ + ledger.lost id = (m.current :: ledger.openers).count (some id) ∧
      (_ → (m.current :: ledger.openers).count (some id) = 0)
    split at present
    next running =>
      obtain ⟨before, found, rfl⟩ := Option.map_eq_some_iff.mp present
      obtain ⟨_, found', alive, _⟩ := sited id running
      cases found.symm.trans found'
      have holds := (balanced.slot found).1
      rw [Ledger.scenes] at holds
      refine ⟨?_, fun dead => ?_⟩
      · rw [running, List.count_cons_self, Slot.countUp_toNat (balanced.few found)]
        omega
      · cases alive.symm.trans dead
    next idle =>
      rw [List.count_cons_of_ne idle]
      exact balanced.slot present

/-- A script that closes a cutscene of its own holds one less, or two. -/
theorem closed (balanced : Balanced ledger m)
    (own : ledger.openers.head? = some m.current) (closed : Closed m m') :
    Balanced (ledger.book m .closes) m' := by
  obtain ⟨rest, openers⟩ := List.head?_eq_some_iff.mp own
  have depth := balanced.depth
  refine ⟨?_, ?_⟩
  · change ledger.openers.tail.length = _
    rw [openers] at depth ⊢
    have shallower := closed.depth
    simp only [List.length_cons, List.tail_cons] at depth ⊢
    omega
  · intro id slot present
    have before := Ledger.scenes_cons openers id
    rw [Ledger.scenes_closes openers, Ledger.lost_closes openers]
    rw [closed_get? closed] at present
    split at present
    next running =>
      obtain ⟨slot', found, rfl⟩ := Option.map_eq_some_iff.mp present
      obtain ⟨holds, gone⟩ := balanced.slot found
      rw [before, if_pos running] at holds gone
      refine ⟨?_, fun dead => absurd (gone dead) (Nat.succ_ne_zero _)⟩
      unfold overdrawn?
      split
      · rw [Slot.countDown_toNat, Slot.countDown_toNat]
        omega
      · simp only [reduceCtorEq, if_false, Slot.countDown_toNat]
        omega
    next idle =>
      obtain ⟨holds, gone⟩ := balanced.slot present
      rw [before, if_neg idle] at holds gone
      have spared : m.overdrawn? ≠ some id := by
        unfold overdrawn?
        split
        · exact idle
        · exact fun same => (nomatch same)
      rw [if_neg spared]
      exact ⟨by omega, gone⟩

/-- A script that a skip redirects holds one less. -/
theorem skipped (balanced : Balanced ledger m) :
    Balanced (ledger.book m .skips) m.abortCutscene := by
  refine ⟨?_, ?_⟩
  · rw [abortCutscene_pointer]
    exact balanced.depth
  · intro id slot present
    change _ + min (ledger.lost id + if m.redirected? = some id then 1 else 0) (ledger.scenes id) =
      ledger.scenes id ∧ (_ → ledger.scenes id = 0)
    obtain ⟨before, found, ⟨redirects, alive, count⟩ | ⟨spared, rfl⟩⟩ := abortCutscene_slot present
    · have holds := (balanced.slot found).1
      rw [count, Slot.countDown_toNat, if_pos redirects]
      exact ⟨by omega, fun dead => nomatch alive.symm.trans dead⟩
    · obtain ⟨holds, gone⟩ := balanced.slot found
      rw [if_neg spared]
      exact ⟨by omega, gone⟩

theorem ordered {order : Order} {call : Option Call} (balanced : Balanced ledger m)
    (sited : Sited m) (own : order.act = .closes → ledger.openers.head? = some m.current)
    (done : order.prepare m = .ok call m') :
    Balanced ((ledger.book m order.act).settle ⟨call.map (·.slot), m'⟩) m' := by
  cases order with
  | beginCutscene args =>
      obtain ⟨middle, opened, offstage, _⟩ := openCutscene_offstage done
      exact (balanced.opened sited opened).settle offstage.held
  | endCutscene =>
      obtain ⟨middle, closed, offstage, _⟩ := closeCutscene_offstage done
      exact (balanced.closed (own rfl) closed).settle offstage.held
  | abortCutscene =>
      obtain ⟨rfl, ran⟩ := alone_ok done
      cases ran
      exact balanced.skipped.settle (.of_same rfl rfl)
  | _ => exact balanced.settle (Order.prepare_offstage rfl done).held

theorem performed {operation : Operation} {operands : Operands operation.shape}
    {call : Option Call} (balanced : Balanced ledger m) (sited : Sited m)
    (own : operation.act = .closes → ledger.openers.head? = some m.current)
    (done : perform operation operands m = .ok call m') :
    Balanced ((ledger.book m operation.act).settle ⟨call.map (·.slot), m'⟩) m' := by
  by_cases opens : operation = .beginCutscene
  · subst opens
    obtain ⟨middle, opened, offstage, _⟩ := openCutscene_offstage done
    exact (balanced.opened sited opened).settle offstage.held
  by_cases closes : operation = .endCutscene
  · subst closes
    obtain ⟨middle, closed, offstage, _⟩ := closeCutscene_offstage done
    exact (balanced.closed (own rfl) closed).settle offstage.held
  have other : operation.act = .other := by
    cases operation with
    | beginCutscene => exact absurd rfl opens
    | endCutscene => exact absurd rfl closes
    | _ => rfl
  rw [other]
  exact balanced.settle (perform_offstage opens closes done).held

/-- **A step keeps the books balanced**, as long as only those scripts close cutscenes that have
opened them. -/
theorem step {act : Act} (balanced : Balanced ledger m) (sited : Sited m)
    (own : act = .closes → ledger.openers.head? = some m.current)
    (step : Step m act claimed m') : Balanced ((ledger.book m act).settle ⟨claimed, m'⟩) m' := by
  cases step with
  | ordered _ done => exact balanced.ordered sited own done
  | performed running comes done =>
      obtain ⟨operation, operands, after, comes', done⟩ := instruct_performs running done
      cases comes.symm.trans comes'
      have ready := Sited.stable.fetch after sited running
      exact (balanced.fetched _ after).performed ready own done
  | between between => exact balanced.settle between.held

end Balanced

/-- **The ledger of a journal is balanced**, as long as every cutscene is closed by the script
that has opened it. -/
theorem Journal.balanced {past : List Line} (new : Balanced .empty start)
    (rest : start.current = none) (journal : Journal start past)
    (fair : matched start past = true) :
    Balanced (ledger start past) (reached start past) := by
  induction journal with
  | begin => exact new
  | @step past act claimed next before step ih =>
      simp only [matched, Bool.and_eq_true, Bool.or_eq_true, bne_iff_ne, beq_iff_eq] at fair
      obtain ⟨earlier, own⟩ := fair
      exact (ih earlier).step (before.sited rest) (fun closes => own.resolve_left (· closes)) step

/-- In a tidy journal nothing is lost. -/
theorem lost_of_tidy {past : List Line} (neat : tidy start past = true) (id : SlotId) :
    (ledger start past).lost id = 0 := by
  induction past with
  | nil => rfl
  | cons line past ih =>
      simp only [tidy, Bool.and_eq_true] at neat
      obtain ⟨earlier, unarmed⟩ := neat
      have before := ih earlier
      simp only [ledger, Ledger.settle]
      split
      · cases acts : line.act with
        | opens => exact before
        | other => exact before
        | closes =>
            simp only [acts, Bool.not_eq_true'] at unarmed
            simp [Ledger.book, Ledger.lose, overdrawn?, unarmed, before]
        | skips =>
            simp only [acts, Bool.not_eq_true'] at unarmed
            simp [Ledger.book, Ledger.lose, redirected?, unarmed, before]
      · rfl

/-! ## Stopping a script that holds a cutscene -/

/-- Under strict rules a stop is refused exactly when an instance of the script holds a
cutscene. -/
theorem stopScript_refuses_iff {number : UInt16} (real : number ≠ 0)
    (strict : m.rules.strictCutsceneStop = true) :
    (∃ m', stopScript number m = .error (.failed (.scriptStoppedInCutscene number)) m') ↔
      ∃ id slot, m.slots.get? id = some slot ∧
        runs number ScriptLocation.isScript slot = true ∧ slot.cutsceneOverride ≠ 0 := by
  simp only [stopScript, real, if_false, stopFamily, Run.get_bind_apply]
  have held : m.heldSlot? number ScriptLocation.isScript = m.slots.cells.findIdx? fun slot =>
      runs number ScriptLocation.isScript slot && slot.cutsceneOverride != 0 := if_pos strict
  cases found : m.heldSlot? number ScriptLocation.isScript with
  | some id =>
      rw [held, List.findIdx?_eq_some_iff_getElem] at found
      obtain ⟨inside, holds, _⟩ := found
      simp only [Bool.and_eq_true, bne_iff_ne] at holds
      simp only [Run.set_bind_apply, Run.fail_apply]
      exact ⟨fun _ => ⟨id, _, List.getElem?_eq_getElem inside, holds⟩, fun _ => ⟨_, rfl⟩⟩
  | none =>
      rw [held, List.findIdx?_eq_none_iff] at found
      constructor
      · rintro ⟨_, refused⟩
        cases refused
      · rintro ⟨id, slot, present, runs, holds⟩
        have none := found slot (List.mem_of_getElem? present)
        simp [runs, holds] at none

/-! ## Whole games -/

/-- A new game has no cutscene, and nobody holds one. -/
theorem boot_balanced (rules : Rules) (library : Library) (rooms : Keyed UInt8 LoadedRoom) :
    Balanced .empty (boot rules library rooms) := by
  refine ⟨rfl, ?_⟩
  intro id slot present
  rw [(boot_pristine rules library rooms).slot present]
  exact ⟨rfl, fun _ => rfl⟩

theorem closeCutscene_leaves {call : Option Call} (done : closeCutscene m = .ok call m') :
    m'.cutscenes.pointer.val + 1 = m.cutscenes.pointer.val ∧ m'.overrideActive = false := by
  obtain ⟨middle, closed, offstage, flag⟩ := closeCutscene_offstage done
  exact ⟨offstage.depth ▸ closed.depth, flag⟩

/-- Closing a cutscene leaves one less open, and no override active. -/
theorem Step.closes {act : Act} (step : Step m act claimed m') (closes : act = .closes) :
    m'.cutscenes.pointer.val + 1 = m.cutscenes.pointer.val ∧ m'.overrideActive = false := by
  cases step with
  | @ordered _ order _ _ done =>
      cases order with
      | endCutscene => exact closeCutscene_leaves done
      | _ => cases closes
  | @performed _ id operation call running comes done =>
      obtain ⟨_, operands, after, comes', performed⟩ := instruct_performs running done
      cases comes.symm.trans comes'
      cases operation with
      | endCutscene =>
          have leaves := closeCutscene_leaves performed
          exact leaves
      | _ => cases closes
  | between => cases closes

/-- **The holds of a script are its open cutscenes, less what it has lost.**  Every game that a
host has before it has a journal, and so has every moment of its next deed.  In every journal in
which each cutscene is closed by the script that has opened it:

* as many cutscenes are open as the ledger has entries;
* the count of every slot, with what it has lost, is the number of cutscenes that its script has
  opened and that are still open, and nothing is lost unless a cutscene is skipped or closed with
  its override armed;
* closing a cutscene leaves one less open and no override active, however it was left;
* under strict rules a stop is refused exactly when an instance of the script has not lost its
  hold on all of its open cutscenes. -/
theorem cutscene_holds_accounted {Allowed : Deed → Prop} {Fair : Machine → Prop} {rules : Rules}
    {library : Library} {rooms : Keyed UInt8 LoadedRoom} (new : start = boot rules library rooms)
    (hosted : Hosted Allowed Fair start m) :
    (Journaled start m ∧ ∀ (deed : Deed) (fuel : Nat) (moment : Machine),
      deed.Moment fuel m moment → Journaled start moment) ∧
    ∀ past, Journal start past → matched start past = true →
      (ledger start past).openers.length = (reached start past).cutscenes.pointer.val ∧
      (∀ id slot, (reached start past).slots.get? id = some slot →
        slot.cutsceneOverride.toNat + (ledger start past).lost id = (ledger start past).scenes id ∧
          (tidy start past = true → (ledger start past).lost id = 0)) ∧
      (∀ line older, past = line :: older → line.act = .closes →
        line.after.cutscenes.pointer.val + 1 = (reached start older).cutscenes.pointer.val ∧
          line.after.overrideActive = false) ∧
      ∀ number, number ≠ 0 → (reached start past).rules.strictCutsceneStop = true →
        ((∃ m', stopScript number (reached start past) =
            .error (.failed (.scriptStoppedInCutscene number)) m') ↔
          ∃ id slot, (reached start past).slots.get? id = some slot ∧
            runs number ScriptLocation.isScript slot = true ∧
            (ledger start past).lost id < (ledger start past).scenes id) := by
  subst new
  have rest : (boot rules library rooms).current = none := rfl
  refine ⟨⟨.hosted rest hosted, fun deed fuel moment during => ?_⟩, ?_⟩
  · exact (Journaled.hosted rest hosted).moment (hosted.rest rest) during
  intro past journal fair
  have balanced := journal.balanced (boot_balanced rules library rooms) rest fair
  refine ⟨balanced.depth, ?_, ?_, ?_⟩
  · intro id slot present
    exact ⟨(balanced.slot present).1, fun neat => lost_of_tidy neat id⟩
  · rintro line older rfl closes
    cases journal with
    | step _ step => exact step.closes closes
  · intro number real strict
    rw [stopScript_refuses_iff real strict]
    constructor
    · rintro ⟨id, slot, present, runs, holds⟩
      refine ⟨id, slot, present, runs, ?_⟩
      have account := (balanced.slot present).1
      have some : slot.cutsceneOverride.toNat ≠ 0 := fun zero => holds (UInt8.toNat_inj.mp zero)
      omega
    · rintro ⟨id, slot, present, runs, less⟩
      refine ⟨id, slot, present, runs, fun none => ?_⟩
      have account := (balanced.slot present).1
      rw [none, UInt8.toNat_zero] at account
      omega

/-- A game with a script that opens two cutscenes and closes one. -/
def twoScenes : Machine :=
  .boot .standard ⟨[(1, [0x0C, 0, 0x0C, 0, 0x0D, 0x01])], [], [], .empty⟩ []

theorem cutscene_holds_twoScenes : ∃ (past : List Line) (slot : Slot), Journal twoScenes past ∧
    matched twoScenes past = true ∧ past.head?.map (·.act) = some .closes ∧
    (reached twoScenes past).slots.get? 1 = some slot ∧ slot.cutsceneOverride.toNat = 1 ∧
    (ledger twoScenes past).scenes 1 = 1 ∧
    ∃ m', stopScript 1 (reached twoScenes past) =
      .error (.failed (.scriptStoppedInCutscene 1)) m' := by
  have facts : (transcript twoScenes (.startScript 1 false false []) 3).any (fun past =>
      matched twoScenes past && tidy twoScenes past &&
        past.head?.map (·.act) == some .closes && (ledger twoScenes past).scenes 1 == 1 &&
        ((reached twoScenes past).slots.get? 1).any (runs 1 ScriptLocation.isScript) &&
        (reached twoScenes past).rules.strictCutsceneStop) = true := by decide +kernel
  obtain ⟨past, told, facts⟩ := (Option.any_eq_true _ _).mp facts
  simp only [Bool.and_eq_true, beq_iff_eq, Option.any_eq_true] at facts
  obtain ⟨⟨⟨⟨⟨fair, neat⟩, closes⟩, scenes⟩, slot, present, runs⟩, strict⟩ := facts
  have journal := Journal.transcript rfl told
  have new : twoScenes = boot _ _ _ := rfl
  obtain ⟨_, accounts⟩ := cutscene_holds_accounted new
    (.begin : Hosted (fun _ => True) (fun _ => True) twoScenes twoScenes)
  obtain ⟨_, holds, _, refuses⟩ := accounts past journal fair
  obtain ⟨account, kept⟩ := holds 1 slot present
  have none := kept neat
  refine ⟨past, slot, journal, fair, closes, present, ?_, scenes, ?_⟩
  · rw [none, scenes] at account
    exact account
  · refine (refuses 1 (by decide) strict).mpr ⟨1, slot, present, runs, ?_⟩
    rw [none, scenes]
    exact Nat.one_pos

/-- A game with a script that opens two cutscenes and closes one with its override armed. -/
def armedScenes : Machine :=
  .boot .standard ⟨[(1, [0x0C, 0, 0x0C, 0, 0x0E, 0x03, 0, 0, 0x0D, 0x01])], [], [], .empty⟩ []

/-- A cutscene that is closed with its override armed takes the hold on the outer cutscene away as
well.  The script has an open cutscene and counts none, and strict rules let it be stopped. -/
theorem armed_closing_loses_outer_hold : ∃ (past : List Line) (m : Machine),
    Journal armedScenes past ∧ matched armedScenes past = true ∧
    past.head?.map (·.act) = some .closes ∧ (ledger armedScenes past).scenes 1 = 1 ∧
    ((reached armedScenes past).slots.get? 1).map (·.cutsceneOverride) = some 0 ∧
    Hosted (fun _ => True) (fun _ => True) armedScenes m ∧
    m.rules.strictCutsceneStop = true ∧ m.cutscenes.pointer = 1 ∧ m.isScriptRunning 1 = true ∧
    Run.value? (stopScript 1) m = some () ∧
    (Run.last (stopScript 1) m).isScriptRunning 1 = false := by
  have facts : (transcript armedScenes (.startScript 1 false false []) 4).any (fun past =>
      matched armedScenes past && past.head?.map (·.act) == some .closes &&
        (ledger armedScenes past).scenes 1 == 1 &&
        ((reached armedScenes past).slots.get? 1).map (·.cutsceneOverride) == some 0) = true := by
    decide +kernel
  obtain ⟨past, told, facts⟩ := (Option.any_eq_true _ _).mp facts
  simp only [Bool.and_eq_true, beq_iff_eq] at facts
  obtain ⟨⟨⟨fair, closes⟩, scenes⟩, count⟩ := facts
  let order : Order := .startScript 1 false false []
  have done : (Deed.order order).carryOut 9 armedScenes = .ok () _ :=
    Run.eq_ok_of_value? (by decide +kernel)
  have hosted : Hosted (fun _ => True) (fun _ => True) armedScenes _ :=
    .deed .begin (.order order) trivial 9 (fun _ _ => trivial) done
  exact ⟨past, _, .transcript rfl told, fair, closes, scenes, count, hosted, by decide +kernel⟩

end Machine

end Adventure
