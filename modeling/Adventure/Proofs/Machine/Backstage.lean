import Adventure.Proofs.Machine.Orders
import Mathlib.Data.List.Forall2
import Mathlib.Order.Defs.Unbundled

/-!
# Behind the scene

Most of what a machine does with its scripts happens behind the scene: stopping and starting
them, opening and closing cutscenes, loading code.  Rooms and actors are left as they are,
the calls that are open stay open (`Weathered`), and what fails is an error of a script that
is no fault of its code or of a word.

All of this holds however the computation ends (`Run.Ends`).  A computation that fails leaves
the machine where it was, so a failing one has to be followed through its parts just as one
that ends well.
-/

set_option autoImplicit false

namespace Adventure

/-! ## However a computation ends -/

namespace Run

variable {α β : Type} {Keeps : Machine → Machine → Prop} {Fails : Halt → Prop} {m : Machine}

/-- However the computation ends, it keeps what it should, and it fails in certain ways only. -/
structure Ends (Keeps : Machine → Machine → Prop) (Fails : Halt → Prop) (run : Run α)
    (m : Machine) : Prop where
  keeps : Keeps m (last run m)
  fails : ∀ {halt m'}, run m = .error halt m' → Fails halt

theorem last_of_ok {run : Run α} {value : α} {m' : Machine} (done : run m = .ok value m') :
    last run m = m' := by
  rw [last, done]

theorem last_of_error {run : Run α} {halt : Halt} {m' : Machine}
    (failed : run m = .error halt m') : last run m = m' := by
  rw [last, failed]

namespace Ends

variable {run : Run α}

theorem ok {value : α} {m' : Machine} (ends : Ends Keeps Fails run m)
    (done : run m = .ok value m') : Keeps m m' := last_of_ok done ▸ ends.keeps

theorem error {halt : Halt} {m' : Machine} (ends : Ends Keeps Fails run m)
    (failed : run m = .error halt m') : Keeps m m' := last_of_error failed ▸ ends.keeps

theorem of_ok {value : α} {m' : Machine} (done : run m = .ok value m') (keeps : Keeps m m') :
    Ends Keeps Fails run m where
  keeps := (last_of_ok done).symm ▸ keeps
  fails failed := by cases done.symm.trans failed

theorem of_error {halt : Halt} {m' : Machine} (failed : run m = .error halt m')
    (keeps : Keeps m m') (fails : Fails halt) : Ends Keeps Fails run m where
  keeps := (last_of_error failed).symm ▸ keeps
  fails failed' := by
    cases failed.symm.trans failed'
    exact fails

theorem mono {Follows : Machine → Machine → Prop} {Tolerates : Halt → Prop}
    (ends : Ends Keeps Fails run m) (follows : ∀ {m m'}, Keeps m m' → Follows m m')
    (tolerates : ∀ {halt}, Fails halt → Tolerates halt) : Ends Follows Tolerates run m :=
  ⟨follows ends.keeps, fun failed => tolerates (ends.fails failed)⟩

/-- A sequence ends as its parts do. -/
theorem bind [IsTrans Machine Keeps] {next : α → Run β} (ends : Ends Keeps Fails run m)
    (later : ∀ value middle, run m = .ok value middle → Ends Keeps Fails (next value) middle) :
    Ends Keeps Fails (run >>= next) m := by
  have sequence := bind_apply run next m
  cases ended : run m with
  | ok value middle =>
      rw [ended] at sequence
      have rest := later value middle ended
      refine ⟨?_, fun failed => rest.fails (sequence.symm.trans failed)⟩
      have same : last (run >>= next) m = last (next value) middle := by
        rw [last, sequence]
        rfl
      exact same ▸ trans_of Keeps (ends.ok ended) rest.keeps
  | error halt middle =>
      rw [ended] at sequence
      exact .of_error sequence (ends.error ended) (ends.fails ended)

/-- A computation that reads the machine first. -/
theorem get_bind {next : Machine → Run β} (ends : Ends Keeps Fails (next m) m) :
    Ends Keeps Fails (get >>= next) m := ⟨ends.keeps, ends.fails⟩

theorem set_bind [IsTrans Machine Keeps] {middle : Machine} {next : PUnit → Run β}
    (keeps : Keeps m middle) (ends : Ends Keeps Fails (next ⟨⟩) middle) :
    Ends Keeps Fails ((set middle : Run PUnit) >>= next) m :=
  ⟨trans_of Keeps keeps ends.keeps, ends.fails⟩

theorem modify_bind [IsTrans Machine Keeps] {change : Machine → Machine} {next : PUnit → Run β}
    (keeps : Keeps m (change m)) (ends : Ends Keeps Fails (next ⟨⟩) (change m)) :
    Ends Keeps Fails ((modify change : Run PUnit) >>= next) m :=
  ⟨trans_of Keeps keeps ends.keeps, ends.fails⟩

theorem onFailure [IsTrans Machine Keeps] (ends : Ends Keeps Fails run m)
    (change : Machine → Machine) (keeps : ∀ m, Keeps m (change m)) :
    Ends Keeps Fails (run.onFailure change) m := by
  cases ended : run m with
  | ok value middle =>
      exact .of_ok (by rw [Run.onFailure, ended]) (ends.ok ended)
  | error halt middle =>
      exact .of_error (by rw [Run.onFailure, ended])
        (trans_of Keeps (ends.error ended) (keeps middle)) (ends.fails ended)

theorem finally_ [IsTrans Machine Keeps] (ends : Ends Keeps Fails run m)
    (change : Machine → Machine) (keeps : ∀ m, Keeps m (change m)) :
    Ends Keeps Fails (run.finally_ change) m := by
  cases ended : run m with
  | ok value middle =>
      exact .of_ok (by rw [Run.finally_, ended]) (trans_of Keeps (ends.ok ended) (keeps middle))
  | error halt middle =>
      exact .of_error (by rw [Run.finally_, ended])
        (trans_of Keeps (ends.error ended) (keeps middle)) (ends.fails ended)

end Ends

theorem ends_pure [Std.Refl Keeps] (value : α) (m : Machine) :
    Ends Keeps Fails (pure value : Run α) m := .of_ok rfl (refl_of Keeps m)

theorem ends_fail [Std.Refl Keeps] {error : ScriptError} (fails : Fails (.failed error))
    (m : Machine) : Ends Keeps Fails (fail error : Run α) m :=
  .of_error rfl (refl_of Keeps m) fails

theorem ends_set {next : Machine} (keeps : Keeps m next) :
    Ends Keeps Fails (set next : Run PUnit) m := .of_ok rfl keeps

theorem ends_modify {change : Machine → Machine} (keeps : Keeps m (change m)) :
    Ends Keeps Fails (modify change : Run PUnit) m := .of_ok rfl keeps

end Run

/-! ## Weathered stacks -/

/-- The same calls, some of which may have been detached. -/
def CallStack.Weathered (before after : CallStack) : Prop :=
  List.Forall₂ (fun frame later => later = frame ∨ later = frame.invalidate) before after

namespace CallStack.Weathered

variable {first second third : CallStack}

theorem refl (calls : CallStack) : calls.Weathered calls :=
  List.forall₂_same.mpr fun _ _ => .inl rfl

theorem trans (earlier : first.Weathered second) (later : second.Weathered third) :
    first.Weathered third := by
  induction earlier generalizing third with
  | nil => exact later
  | cons weathers _ ih =>
      obtain ⟨frame, outer, again, rest, rfl⟩ := List.forall₂_cons_left_iff.mp later
      refine .cons ?_ (ih rest)
      rcases weathers with rfl | rfl
      · exact again
      · rcases again with rfl | rfl
        · exact .inr rfl
        · exact .inr rfl

theorem invalidate (calls : CallStack) (test : CallFrame → Bool) :
    calls.Weathered (calls.invalidate test) := by
  refine List.forall₂_map_right_iff.mpr (List.forall₂_same.mpr fun frame _ => ?_)
  split
  · exact .inr rfl
  · exact .inl rfl

theorem length_eq (weathered : first.Weathered second) : second.length = first.length :=
  (List.Forall₂.length_eq weathered).symm

end CallStack.Weathered

/-! ## The scene -/

namespace Machine

/-- What actors walk in, and the actors. -/
def scene (m : Machine) : Keyed UInt8 LoadedRoom × Room × Cast := (m.rooms, m.room, m.cast)

/-- The scene is left as it is, and the open calls are left as they are or detached. -/
structure Backstage (m m' : Machine) : Prop where
  scene : m'.scene = m.scene
  calls : m.calls.Weathered m'.calls

instance : IsPreorder Machine Backstage where
  refl m := ⟨rfl, .refl m.calls⟩
  trans _ _ _ earlier later :=
    ⟨later.scene.trans earlier.scene, earlier.calls.trans later.calls⟩

variable {m m' : Machine}

theorem Backstage.of_calls (scene : m'.scene = m.scene) (calls : m'.calls = m.calls) :
    Backstage m m' :=
  ⟨scene, calls ▸ .refl m.calls⟩

end Machine

/-- The failure comes from reading code. -/
def Halt.isLost : Halt → Bool
  | .failed (.unknownOpcode ..) => true
  | .failed (.invalidJump ..) => true
  | .failed (.codeOverrun ..) => true
  | _ => false

/-- The failure is an error of a script. -/
def Halt.IsScripted (halt : Halt) : Prop := ∃ error, halt = .failed error

/-- However the computation ends, it has stayed behind the scene. -/
abbrev Run.Aside {α : Type} (run : Run α) (m : Machine) : Prop :=
  Run.Ends Machine.Backstage Halt.IsScripted run m

/-- Nor does the computation fail from reading code. -/
abbrev Run.Discreet {α : Type} (run : Run α) (m : Machine) : Prop :=
  Run.Ends Machine.Backstage (fun halt => halt.IsScripted ∧ halt.isLost = false) run m

theorem Run.Discreet.aside {α : Type} {run : Run α} {m : Machine} (discreet : Run.Discreet run m) :
    Run.Aside run m :=
  discreet.mono id And.left

/-- Whether the operation drives an actor or changes the room. -/
def Operation.isScenic : Operation → Bool
  | .walkActor | .putActor | .faceActor | .actorSpeed | .ignoreBoxes | .actorCostume
  | .stopActor => true
  | .setBoxFlags | .createBoxMatrix | .setScaleSlot | .loadRoom => true
  | _ => false

namespace Machine

open Run

theorem discreet_fail {α : Type} {error : ScriptError}
    (other : Halt.isLost (.failed error) = false) (m : Machine) :
    Discreet (fail error : Run α) m :=
  ends_fail ⟨⟨error, rfl⟩, other⟩ m

theorem discreet_modify {change : Machine → Machine} {m : Machine}
    (scene : (change m).scene = m.scene) (calls : (change m).calls = m.calls) :
    Discreet (modify change : Run PUnit) m :=
  ends_modify (.of_calls scene calls)

theorem discreet_log (event : String) (m : Machine) : Discreet (log event) m :=
  discreet_modify rfl rfl

/-! ### Stopping and starting -/

theorem discreet_stopFamily (number : UInt16) (family : ScriptLocation → Bool) (m : Machine) :
    Discreet (stopFamily number family) m := by
  refine .get_bind ?_
  split
  · exact .set_bind (.of_calls rfl rfl) (discreet_fail rfl _)
  · exact ends_set ⟨rfl, .invalidate _ _⟩

theorem discreet_stopScript (number : UInt16) (m : Machine) : Discreet (stopScript number) m := by
  unfold stopScript
  split
  · exact ends_pure _ _
  · exact discreet_stopFamily _ _ _

theorem discreet_stopObject (number : UInt16) (m : Machine) : Discreet (stopObject number) m := by
  unfold stopObject
  split
  · exact ends_pure _ _
  · exact discreet_stopFamily _ _ _

theorem discreet_giveWay (recursive : Bool) {stop : Run Unit} {m : Machine}
    (discreet : Discreet stop m) : Discreet (giveWay recursive stop) m := by
  unfold giveWay
  split
  · exact ends_pure _ _
  · exact discreet

theorem discreet_claimSlot (number : UInt16) (location : ScriptLocation) (offset : Nat)
    (freezeResistant recursive : Bool) (args : List Int) (report : SlotId → String) (m : Machine) :
    Discreet (claimSlot number location offset freezeResistant recursive args report) m := by
  refine .get_bind ?_
  split
  · exact discreet_fail rfl _
  · exact .modify_bind (.of_calls rfl rfl)
      ((discreet_log _ _).bind fun _ _ _ => ends_pure _ _)

theorem discreet_prepareScript (number : UInt16) (freezeResistant recursive : Bool)
    (args : List Int) (m : Machine) :
    Discreet (prepareScript number freezeResistant recursive args) m := by
  unfold prepareScript
  split
  · exact ends_pure _ _
  · refine (discreet_giveWay recursive (discreet_stopScript number m)).bind fun _ _ _ =>
      .get_bind ?_
    dsimp only
    split
    · exact discreet_fail rfl _
    · exact (discreet_claimSlot _ _ _ _ _ _ _ _).bind fun _ _ _ => ends_pure _ _

theorem discreet_prepareObject (object : UInt16) (verb : UInt8) (freezeResistant recursive : Bool)
    (args : List Int) (m : Machine) :
    Discreet (prepareObject object verb freezeResistant recursive args) m := by
  unfold prepareObject
  split
  · exact ends_pure _ _
  · refine (discreet_giveWay recursive (discreet_stopObject object m)).bind fun _ _ _ =>
      .get_bind ?_
    split
    · exact ends_pure _ _
    · split
      · exact ends_pure _ _
      · exact (discreet_claimSlot _ _ _ _ _ _ _ _).bind fun _ _ _ => ends_pure _ _

/-! ### Cutscenes -/

theorem discreet_openCutscene (args : List Int) (m : Machine) :
    Discreet (openCutscene args) m := by
  refine .get_bind (.modify_bind (.of_calls rfl rfl) (.get_bind ?_))
  split
  · exact discreet_fail rfl _
  · refine .modify_bind (.of_calls rfl rfl) <| (discreet_log _ _).bind fun _ _ _ =>
      .modify_bind (.of_calls rfl rfl) <| .get_bind ?_
    refine ((discreet_prepareScript _ _ _ _ _).onFailure forgetOpener fun _ =>
      .of_calls rfl rfl).bind fun slot _ _ => ?_
    cases slot with
    | none => exact .modify_bind (.of_calls rfl rfl) (ends_pure _ _)
    | some id => exact ends_pure _ _

theorem discreet_closeCutscene (m : Machine) : Discreet closeCutscene m := by
  refine .modify_bind (.of_calls rfl rfl) (.get_bind ?_)
  -- whether one hold is released or two, the scene and the calls stay
  have released : ∀ held : Machine, Backstage held
      (if held.cutscenes.top.resumeOffset.isSome then held.releaseHold else held) := by
    intro held
    split
    · exact .of_calls rfl rfl
    · exact refl_of Backstage held
  have middle := released m.releaseHold
  dsimp only
  split
  · exact .set_bind ⟨middle.scene, middle.calls⟩ (discreet_fail rfl _)
  · exact .set_bind ⟨middle.scene, middle.calls⟩ <| (discreet_log _ _).bind fun _ _ _ =>
      (discreet_prepareScript _ _ _ _ _).bind fun _ _ _ => ends_pure _ _

/-! ### Code -/

theorem discreet_loadSlotCode (id : SlotId) (m : Machine) : Discreet (loadSlotCode id) m := by
  refine .get_bind ?_
  split
  · exact discreet_fail rfl _
  · split
    · exact discreet_fail rfl _
    · exact ends_set (.of_calls rfl rfl)

/-! ### Fetching and jumping -/

theorem aside_fail {α : Type} (error : ScriptError) (m : Machine) : Aside (fail error : Run α) m :=
  ends_fail ⟨error, rfl⟩ m

theorem aside_modify {change : Machine → Machine} {m : Machine}
    (scene : (change m).scene = m.scene) (calls : (change m).calls = m.calls) :
    Aside (modify change : Run PUnit) m :=
  ends_modify (.of_calls scene calls)

theorem aside_fetch {α : Type} (read : Code → Fetch α) (m : Machine) : Aside (fetch read) m := by
  cases found : read m.code m.pc with
  | ok result =>
    have done : fetch read m = .ok result.1 { m with pc := result.2 } := by
      simp only [fetch, found]
    exact .of_ok done (.of_calls rfl rfl)
  | error offset =>
    have failed : fetch read m =
        .error (.failed (.codeOverrun m.currentNumber offset)) { m with pc := offset } := by
      simp only [fetch, found]
    exact .of_error failed (.of_calls rfl rfl) ⟨_, rfl⟩

theorem aside_jumpBy (distance : Int) (m : Machine) : Aside (jumpBy distance) m := by
  refine .get_bind ?_
  dsimp only
  split
  · exact aside_fail _ _
  · exact ends_set (.of_calls rfl rfl)

theorem aside_jumpOnLocal (index : UInt8) (distance : Int) (whenZero : Bool) (m : Machine) :
    Aside (jumpOnLocal index distance whenZero) m := by
  refine .get_bind ?_
  split
  · exact aside_jumpBy _ _
  · exact ends_pure _ _

theorem aside_beginOverride (m : Machine) : Aside beginOverride m := by
  refine .modify_bind (.of_calls rfl rfl) <| (aside_fetch _ _).bind fun _ _ _ =>
    (aside_fetch _ _).bind fun _ _ _ => aside_modify ?_ ?_
  · split <;> rfl
  · split <;> rfl

/-! ### Instructions and orders -/

theorem aside_alone {run : Run Unit} {m : Machine} (aside : Aside run m) : Aside (alone run) m :=
  aside.bind fun _ _ _ => ends_pure _ _

theorem aside_stopCurrent (m : Machine) : Aside (modify stopCurrent : Run PUnit) m := by
  obtain ⟨events, same⟩ := stopCurrent_eq m
  exact aside_modify (by rw [same]; rfl) (by rw [same]; rfl)

/-- **An instruction that is not about the scene stays behind it.** -/
theorem aside_perform {operation : Operation} (plain : operation.isScenic = false)
    (operands : Operands operation.shape) (m : Machine) : Aside (perform operation operands) m := by
  cases operation with
  | walkActor | putActor | faceActor | actorSpeed | ignoreBoxes | actorCostume | stopActor
  | setBoxFlags | createBoxMatrix | setScaleSlot | loadRoom => cases plain
  | end_ => exact aside_alone (aside_stopCurrent m)
  | jump => exact aside_alone (aside_jumpBy _ _)
  | jumpIfZero => exact aside_alone (aside_jumpOnLocal _ _ _ _)
  | jumpIfNotZero => exact aside_alone (aside_jumpOnLocal _ _ _ _)
  | beginOverride => exact aside_alone (aside_beginOverride _)
  | startScript =>
    exact (discreet_prepareScript _ _ _ _ _).aside.bind fun _ _ _ => ends_pure _ _
  | startObject =>
    exact (discreet_prepareObject _ _ _ _ _ _).aside.bind fun _ _ _ => ends_pure _ _
  | stopScript =>
    refine aside_alone ?_
    split
    · exact aside_stopCurrent m
    · exact (discreet_stopScript _ _).aside
  | stopObject => exact aside_alone (discreet_stopObject _ _).aside
  | beginCutscene => exact (discreet_openCutscene _ _).aside
  | endCutscene => exact (discreet_closeCutscene _).aside
  | freeze => exact aside_alone (aside_modify (by split <;> rfl) (by split <;> rfl))
  | waitActor => exact aside_alone (aside_modify (by split <;> rfl) (by split <;> rfl))
  | waitScript => exact aside_alone (aside_modify (by split <;> rfl) (by split <;> rfl))
  | _ => exact aside_alone (aside_modify rfl rfl)

/-- So does every order but to enter a room. -/
theorem Order.aside_prepare {order : Order} (plain : ∀ number, order ≠ .changeRoom number)
    (m : Machine) : Aside order.prepare m := by
  cases order with
  | startScript =>
    exact (discreet_prepareScript _ _ _ _ _).aside.bind fun _ _ _ => ends_pure _ _
  | startObject =>
    exact (discreet_prepareObject _ _ _ _ _ _).aside.bind fun _ _ _ => ends_pure _ _
  | stopScript => exact aside_alone (discreet_stopScript _ _).aside
  | stopObject => exact aside_alone (discreet_stopObject _ _).aside
  | freezeScripts => exact aside_alone (aside_modify rfl rfl)
  | unfreezeScripts => exact aside_alone (aside_modify rfl rfl)
  | beginCutscene => exact (discreet_openCutscene _ _).aside
  | endCutscene => exact (discreet_closeCutscene _).aside
  | abortCutscene =>
    have kept : m.abortCutscene.scene = m.scene ∧ m.abortCutscene.calls = m.calls := by
      unfold Machine.abortCutscene
      split <;> exact ⟨rfl, rfl⟩
    exact aside_alone (aside_modify kept.1 kept.2)
  | changeRoom number => exact absurd rfl (plain number)
  | tick => exact aside_alone (ends_pure _ _)

end Machine

end Adventure
