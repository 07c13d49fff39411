import Adventure.Proofs.Machine.Holds
import Mathlib.Data.List.Infix

/-!
# Nested freezes

A freeze passes some slots by: the executing one, dead ones and, when it is weak, those that resist
it.  Lifting a freeze does not ask which slots it held; it takes one off every count that is not
zero.  So freezes nest for the slots that every one of them holds.  A slot that resists weak
freezes loses one for each weak freeze that is lifted, down to zero, and then even a strong freeze
that is still open may no longer hold it.

The argument keeps two bounds on a count while freezes open and close (`Tallied`); when all are
closed they meet.
-/

set_option autoImplicit false

namespace Adventure

/-! ## Calls in brackets -/

/-- A call that freezes scripts, or one that lifts a freeze. -/
inductive FreezeCall where
  | freeze (flag : UInt8)
  | lift
  deriving DecidableEq, Repr

namespace Machine

/-- The machine after a call. -/
def brake (m : Machine) : FreezeCall → Machine
  | .freeze flag => m.freezeScripts flag
  | .lift => m.unfreezeScripts

/-- The machine after some calls, the first one first. -/
def brakeAll (m : Machine) (calls : List FreezeCall) : Machine := calls.foldl brake m

/-- At no moment of the calls has a count of freezes reached its greatest value. -/
def Unsaturated (m : Machine) (calls : List FreezeCall) : Prop :=
  ∀ before after, calls = before ++ after →
    ∀ id slot, (m.brakeAll before).slots.get? id = some slot → slot.freezeCount.toNat < 255

end Machine

/-- Calls in which every lift closes the freeze that was opened last.  The flags of the freezes that
are still open and of those that have been closed are kept, the last one first. -/
inductive Nesting : (opened closed : List UInt8) → List FreezeCall → Prop where
  | none : Nesting [] [] []
  | freeze {opened closed : List UInt8} {calls : List FreezeCall} (flag : UInt8)
      (nesting : Nesting opened closed calls) :
      Nesting (flag :: opened) closed (calls ++ [.freeze flag])
  | lift {opened closed : List UInt8} {calls : List FreezeCall} {flag : UInt8}
      (nesting : Nesting (flag :: opened) closed calls) :
      Nesting opened (flag :: closed) (calls ++ [.lift])

/-! ## The count of one slot -/

namespace Slot

/-- The slot with another count of freezes. -/
def withFreezes (slot : Slot) (count : UInt8) : Slot := { slot with freezeCount := count }

/-- A weak freeze passes a slot by that resists it. -/
def resists (slot : Slot) (flag : UInt8) : Bool :=
  slot.freezeResistant && decide (flag < 0x80)

end Slot

/-- What a count has to do with the freezes that are open and those that have been closed, when it
was `start` before them.  The freezes that hold the slot count while they are open; each of the
others has taken one off when it was closed, unless there was nothing to take off. -/
structure Tallied (holds : UInt8 → Bool) (start : Nat) (opened closed : List UInt8) (count : Nat) :
    Prop where
  atMost : count ≤ start - closed.countP (fun flag => !holds flag) + opened.countP holds
  atLeast : start + opened.countP holds ≤ count + closed.countP fun flag => !holds flag

namespace Tallied

variable {holds : UInt8 → Bool} {start count : Nat} {opened closed : List UInt8} {flag : UInt8}

theorem hold (tallied : Tallied holds start opened closed count) (held : holds flag = true) :
    Tallied holds start (flag :: opened) closed (count + 1) := by
  obtain ⟨atMost, atLeast⟩ := tallied
  have counted : (flag :: opened).countP holds = opened.countP holds + 1 :=
    List.countP_cons_of_pos held
  exact ⟨by omega, by omega⟩

theorem pass (tallied : Tallied holds start opened closed count) (passed : holds flag = false) :
    Tallied holds start (flag :: opened) closed count := by
  obtain ⟨atMost, atLeast⟩ := tallied
  have counted : (flag :: opened).countP holds = opened.countP holds :=
    List.countP_cons_of_neg (by simp [passed])
  exact ⟨by omega, by omega⟩

/-- A freeze that holds the slot was counted while it was open; for one that does not, the lift
takes one off that belongs to another freeze, if there is one. -/
theorem lift (tallied : Tallied holds start (flag :: opened) closed count) :
    Tallied holds start opened (flag :: closed) (count - 1) := by
  obtain ⟨atMost, atLeast⟩ := tallied
  cases held : holds flag with
  | true =>
    have open_ : (flag :: opened).countP holds = opened.countP holds + 1 :=
      List.countP_cons_of_pos held
    have missed : (flag :: closed).countP (fun flag => !holds flag) =
        closed.countP fun flag => !holds flag :=
      List.countP_cons_of_neg (by simp [held])
    exact ⟨by omega, by omega⟩
  | false =>
    have open_ : (flag :: opened).countP holds = opened.countP holds :=
      List.countP_cons_of_neg (by simp [held])
    have missed : (flag :: closed).countP (fun flag => !holds flag) =
        closed.countP (fun flag => !holds flag) + 1 :=
      List.countP_cons_of_pos (by simp [held])
    exact ⟨by omega, by omega⟩

/-- When all freezes are closed, the bounds meet. -/
theorem closed_eq (tallied : Tallied holds start [] closed count) :
    count = start - closed.countP fun flag => !holds flag := by
  obtain ⟨atMost, atLeast⟩ := tallied
  have none_ : ([] : List UInt8).countP holds = 0 := rfl
  omega

end Tallied

namespace Machine

variable {m : Machine} {id : SlotId} {slot : Slot} {opened closed : List UInt8}
  {calls before after : List FreezeCall}

theorem brakeAll_append (m : Machine) (before after : List FreezeCall) :
    m.brakeAll (before ++ after) = (m.brakeAll before).brakeAll after :=
  List.foldl_append

theorem brakeAll_concat (m : Machine) (before : List FreezeCall) (call : FreezeCall) :
    m.brakeAll (before ++ [call]) = (m.brakeAll before).brake call :=
  m.brakeAll_append before [call]

theorem Unsaturated.left (few : m.Unsaturated (before ++ after)) : m.Unsaturated before := by
  rintro earlier later rfl
  exact few earlier (later ++ after) (List.append_assoc _ _ _)

theorem Unsaturated.right (few : m.Unsaturated (before ++ after)) :
    (m.brakeAll before).Unsaturated after := by
  rintro earlier later rfl id slot found
  rw [← brakeAll_append] at found
  exact few (before ++ earlier) later (List.append_assoc _ _ _).symm id slot found

theorem Unsaturated.now (few : m.Unsaturated calls)
    (found : (m.brakeAll calls).slots.get? id = some slot) : slot.freezeCount.toNat < 255 :=
  few calls [] (List.append_nil _).symm id slot found

theorem unsaturated_iff : m.Unsaturated calls ↔
    ∀ before ∈ calls.inits, ∀ slot ∈ (m.brakeAll before).slots.cells,
      slot.freezeCount.toNat < 255 := by
  constructor
  · intro few before member slot slotIn
    obtain ⟨after, split⟩ := (List.mem_inits _ _).mp member
    obtain ⟨id, found⟩ := List.mem_iff_getElem?.mp slotIn
    exact few before after split.symm id slot found
  · intro few before after split id slot found
    have member : before ∈ calls.inits := (List.mem_inits _ _).mpr ⟨after, split.symm⟩
    exact few before member slot (List.mem_of_getElem? found)

instance (m : Machine) (calls : List FreezeCall) : Decidable (m.Unsaturated calls) :=
  decidable_of_iff _ unsaturated_iff.symm

/-- The calls leave alone which slot is executing and which one opens a cutscene. -/
structure Braked (m now : Machine) : Prop where
  current : now.current = m.current
  scene : now.cutsceneScript = m.cutsceneScript

theorem brakeAll_braked (m : Machine) (calls : List FreezeCall) : m.Braked (m.brakeAll calls) := by
  induction calls generalizing m with
  | nil => exact ⟨rfl, rfl⟩
  | cons call rest ih =>
    obtain ⟨current, scene⟩ := ih (m.brake call)
    cases call with
    | freeze flag => exact ⟨current, scene⟩
    | lift => exact ⟨current, scene⟩

theorem Braked.isFrozenBy {now : Machine} (braked : m.Braked now) (flag : UInt8) (id : SlotId)
    (slot : Slot) (count : UInt8) :
    now.isFrozenBy flag id (slot.withFreezes count) = m.isFrozenBy flag id slot := by
  unfold Machine.isFrozenBy
  rw [braked.current]
  rfl

theorem get?_freezeScripts (noScene : m.cutsceneScript = none) (flag : UInt8)
    (found : m.slots.get? id = some slot) :
    (m.freezeScripts flag).slots.get? id = some (slot.withFreezes
      (if m.isFrozenBy flag id slot then Slot.countUp slot.freezeCount else slot.freezeCount)) := by
  rw [freezeScripts_get?, found, noScene]
  rfl

theorem get?_unfreezeScripts (found : m.slots.get? id = some slot) :
    m.unfreezeScripts.slots.get? id =
      some (slot.withFreezes (Slot.countDown slot.freezeCount)) := by
  unfold unfreezeScripts
  rw [logged, Bank.get?_map, found]
  rfl

/-- Whatever the calls, a slot changes in no more than its count of freezes. -/
theorem get?_brakeAll (noScene : m.cutsceneScript = none) (calls : List FreezeCall)
    (found : m.slots.get? id = some slot) :
    ∃ count, (m.brakeAll calls).slots.get? id = some (slot.withFreezes count) := by
  induction calls generalizing m slot with
  | nil => exact ⟨slot.freezeCount, found⟩
  | cons call rest ih =>
    cases call with
    | freeze flag =>
      have next := get?_freezeScripts noScene flag found
      obtain ⟨count, reached⟩ := ih (m := m.freezeScripts flag) noScene next
      exact ⟨count, reached⟩
    | lift =>
      have next := get?_unfreezeScripts found
      obtain ⟨count, reached⟩ := ih (m := m.unfreezeScripts) noScene next
      exact ⟨count, reached⟩

/-- **What nested calls make of a slot.**  Only its count of freezes changes, and that is tallied. -/
theorem brakeAll_tallied (noScene : m.cutsceneScript = none)
    (found : m.slots.get? id = some slot) (nesting : Nesting opened closed calls)
    (few : m.Unsaturated calls) :
    ∃ count, (m.brakeAll calls).slots.get? id = some (slot.withFreezes count) ∧
      Tallied (fun flag => m.isFrozenBy flag id slot) slot.freezeCount.toNat opened closed
        count.toNat := by
  induction nesting with
  | none => exact ⟨slot.freezeCount, found, by simp, by simp⟩
  | @freeze opened closed calls flag nesting ih =>
    obtain ⟨count, reached, tallied⟩ := ih few.left
    have scene := (m.brakeAll_braked calls).scene
    have now := get?_freezeScripts (scene.trans noScene) flag reached
    rw [(m.brakeAll_braked calls).isFrozenBy flag id slot count] at now
    rw [brakeAll_concat]
    refine ⟨_, now, ?_⟩
    cases held : m.isFrozenBy flag id slot with
    | true =>
      have less : count.toNat < 255 := few.left.now reached
      have up : (Slot.countUp (slot.withFreezes count).freezeCount).toNat = count.toNat + 1 :=
        Slot.countUp_toNat less
      rw [if_pos rfl, up]
      exact tallied.hold held
    | false => exact tallied.pass held
  | @lift opened closed calls flag nesting ih =>
    obtain ⟨count, reached, tallied⟩ := ih few.left
    have now := get?_unfreezeScripts reached
    rw [brakeAll_concat]
    refine ⟨_, now, ?_⟩
    have down : (Slot.countDown (slot.withFreezes count).freezeCount).toNat = count.toNat - 1 :=
      Slot.countDown_toNat count
    rw [down]
    exact tallied.lift

/-- A live slot other than the executing one is passed by only by weak freezes that it resists. -/
theorem isFrozenBy_eq (live : slot.isDead = false) (idle : m.current ≠ some id) (flag : UInt8) :
    m.isFrozenBy flag id slot = !slot.resists flag := by
  have waits : (m.current != some id) = true := bne_iff_ne.mpr idle
  have strong : decide (0x80 ≤ flag) = !decide (flag < 0x80) := by
    rw [← decide_not]
    exact decide_eq_decide.mpr UInt8.not_lt.symm
  simp only [isFrozenBy, waits, live, Slot.resists, strong, Bool.not_and, Bool.not_false,
    Bool.true_and]

/-- A slot that has been frozen is held until the calls since have closed a freeze that it
resists. -/
theorem held_since (noScene : m.cutsceneScript = none) (few : m.Unsaturated calls)
    (nesting : Nesting opened closed calls) (found : m.slots.get? id = some slot)
    (live : slot.isDead = false) (idle : m.current ≠ some id) (frozen : 0 < slot.freezeCount) :
    ∃ count, (m.brakeAll calls).slots.get? id = some (slot.withFreezes count) ∧
      (0 < count ∨ ∃ weak ∈ closed, slot.resists weak = true) := by
  obtain ⟨count, reached, tallied⟩ := brakeAll_tallied noScene found nesting few
  refine ⟨count, reached, ?_⟩
  by_cases passed : ∃ weak ∈ closed, slot.resists weak = true
  · exact .inr passed
  · have none_ : closed.countP (fun flag => !m.isFrozenBy flag id slot) = 0 := by
      rw [List.countP_eq_zero]
      intro flag member lost
      rw [isFrozenBy_eq live idle, Bool.not_not] at lost
      exact passed ⟨flag, member, lost⟩
    have least := tallied.atLeast
    rw [UInt8.lt_iff_toNat_lt, UInt8.toNat_zero] at frozen ⊢
    exact .inl (by omega)

/-- **Freezes nest, but for slots that resist them.**  While no cutscene is being opened, any calls
in brackets that never fill up a count have these effects, whatever the slots are and whichever of
them is executing.  Afterwards, every live slot but the executing one has lost one freeze for each
weak freeze that it resists, down to none, and is else as it was; and a slot without freezes has
none again.  While a strong freeze is open, every live slot but the executing one is held, unless it
resists a weaker freeze that has been opened and closed since. -/
theorem freezes_nest (noScene : m.cutsceneScript = none) (few : m.Unsaturated calls)
    (nesting : Nesting [] closed calls) (found : m.slots.get? id = some slot) :
    (∃ count, (m.brakeAll calls).slots.get? id = some (slot.withFreezes count) ∧
      (slot.freezeCount = 0 → count = 0) ∧
      (slot.isDead = false → m.current ≠ some id →
        count.toNat = slot.freezeCount.toNat - closed.countP slot.resists)) ∧
    ∀ before flag since after, calls = before ++ .freeze flag :: since ++ after → 0x80 ≤ flag →
      ∀ opened lifted, Nesting opened lifted since →
        slot.isDead = false → m.current ≠ some id →
          ∃ count, (m.brakeAll (before ++ .freeze flag :: since)).slots.get? id =
              some (slot.withFreezes count) ∧
            (0 < count ∨ ∃ weak ∈ lifted, slot.resists weak = true) := by
  constructor
  · obtain ⟨count, reached, tallied⟩ := brakeAll_tallied noScene found nesting few
    have met := tallied.closed_eq
    refine ⟨count, reached, fun free => ?_, fun live idle => ?_⟩
    · rw [free, UInt8.toNat_zero, Nat.zero_sub] at met
      exact UInt8.toNat_inj.mp met
    · rw [met]
      simp only [isFrozenBy_eq live idle, Bool.not_not]
  · rintro before flag since after rfl strong opened lifted nesting live idle
    have fewBefore : m.Unsaturated before := few.left.left
    obtain ⟨count, reached⟩ := get?_brakeAll noScene before found
    have braked := m.brakeAll_braked before
    have scene : (m.brakeAll before).cutsceneScript = none := braked.scene.trans noScene
    have holds : (m.brakeAll before).isFrozenBy flag id (slot.withFreezes count) = true := by
      have notWeak : ¬ flag < 0x80 := UInt8.not_lt.mpr strong
      rw [braked.isFrozenBy, isFrozenBy_eq live idle, Slot.resists, decide_eq_false notWeak,
        Bool.and_false, Bool.not_false]
    have frozen := get?_freezeScripts scene flag reached
    rw [if_pos holds] at frozen
    have up : (Slot.countUp count).toNat = count.toNat + 1 :=
      Slot.countUp_toNat (fewBefore.now reached)
    have counts : 0 < Slot.countUp count := by
      rw [UInt8.lt_iff_toNat_lt, UInt8.toNat_zero]
      omega
    have fewSince : ((m.brakeAll before).freezeScripts flag).Unsaturated since := by
      have fewAfter : (m.brakeAll before).Unsaturated ([.freeze flag] ++ since) := few.left.right
      exact fewAfter.right
    have waits : ((m.brakeAll before).freezeScripts flag).current ≠ some id :=
      braked.current ▸ idle
    rw [brakeAll_append]
    obtain ⟨now, found, held⟩ := held_since (m := (m.brakeAll before).freezeScripts flag) scene
      fewSince nesting frozen live waits counts
    exact ⟨now, found, held⟩

/-- A game in which slot 1 runs a script that resists weak freezes, frozen a number of times. -/
def resistantLoop (count : UInt8) : Machine :=
  { boot .standard ⟨[], [], [], .empty⟩ [] with
    slots := SlotTable.empty.set 1 ((Slot.start 2 .global 0 true false []).withFreezes count) }

/-- A weak freeze inside a strong one. -/
def weakInStrong : List FreezeCall := [.freeze 0x80, .freeze 1, .lift, .lift]

theorem weakInStrong_nesting : Nesting [] [0x80, 1] weakInStrong :=
  .lift (.lift (.freeze 1 (.freeze 0x80 .none)))

/-- Of three freezes two are left, and the script is held while both freezes are open. -/
theorem freezes_nest_resistantLoop : ∃ slot count,
    (resistantLoop 3).slots.get? 1 = some slot ∧
      ((resistantLoop 3).brakeAll weakInStrong).slots.get? 1 = some (slot.withFreezes 2) ∧
      ((resistantLoop 3).brakeAll [.freeze 0x80, .freeze 1]).slots.get? 1 =
        some (slot.withFreezes count) ∧ 0 < count := by
  have found : (resistantLoop 3).slots.get? 1 = some _ := rfl
  obtain ⟨⟨after, reached, -, lowered⟩, held⟩ :=
    freezes_nest rfl (by decide +kernel) weakInStrong_nesting found
  obtain rfl : after = 2 := UInt8.toNat_inj.mp (lowered rfl (by decide))
  obtain ⟨count, now, holds⟩ := held [] 0x80 [.freeze 1] [.lift, .lift] rfl (by decide) [1] []
    (.freeze 1 .none) rfl (by decide)
  refine ⟨_, count, found, reached, now, ?_⟩
  rcases holds with holds | ⟨_, none_, _⟩
  · exact holds
  · cases none_

/-- Two ways in which freezes do not nest for a script that resists weak ones: a weak freeze that is
closed takes away an earlier freeze, and it lets the script run while a strong freeze is open. -/
theorem weak_freeze_lifts_strong :
    (Nesting [] [1] [.freeze 1, .lift] ∧ (resistantLoop 1).Unsaturated [.freeze 1, .lift] ∧
      ((resistantLoop 1).slots.get? 1).map Slot.freezeCount = some 1 ∧
      (((resistantLoop 1).brakeAll [.freeze 1, .lift]).slots.get? 1).map Slot.freezeCount =
        some 0) ∧
    (Nesting [] [0x80, 1] weakInStrong ∧ (resistantLoop 0).Unsaturated weakInStrong ∧
      Nesting [0x80] [1] [.freeze 0x80, .freeze 1, .lift] ∧
      (((resistantLoop 0).brakeAll [.freeze 0x80, .freeze 1, .lift]).slots.get? 1).map
        (fun slot => (slot.isDead, slot.freezeCount)) = some (false, 0)) ∧
    ∀ count, (resistantLoop count).current = none ∧ (resistantLoop count).cutsceneScript = none :=
  ⟨⟨.lift (.freeze 1 .none), by decide +kernel, by decide +kernel, by decide +kernel⟩,
    ⟨weakInStrong_nesting, by decide +kernel, .lift (.freeze 1 (.freeze 0x80 .none)),
      by decide +kernel⟩, fun _ => ⟨rfl, rfl⟩⟩

end Machine

end Adventure
