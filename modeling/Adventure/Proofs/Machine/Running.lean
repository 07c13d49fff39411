import Adventure.Machine.Tick

/-!
# Reading computations of the machine

A computation of `Run` gives a value or a halt, and in both cases the machine it has
reached.  The lemmas here say what each building block gives when it is applied to a
machine, so that a computation can be taken apart step by step from the fact that it
ended in a certain way.
-/

set_option autoImplicit false

namespace Adventure

namespace Run

variable {α β : Type}

@[simp] theorem pure_apply (value : α) (m : Machine) : (pure value : Run α) m = .ok value m := rfl

@[simp] theorem get_apply (m : Machine) : (get : Run Machine) m = .ok m m := rfl

@[simp] theorem set_apply (next m : Machine) : (set next : Run PUnit) m = .ok ⟨⟩ next := rfl

@[simp] theorem modify_apply (change : Machine → Machine) (m : Machine) :
    (modify change : Run PUnit) m = .ok ⟨⟩ (change m) := rfl

@[simp] theorem throw_apply (halt : Halt) (m : Machine) :
    (throw halt : Run α) m = .error halt m := rfl

@[simp] theorem fail_apply (error : ScriptError) (m : Machine) :
    (fail error : Run α) m = .error (.failed error) m := rfl

@[simp] theorem log_apply (event : String) (m : Machine) : log event m = .ok ⟨⟩ (m.logged event) :=
  rfl

theorem bind_apply (first : Run α) (next : α → Run β) (m : Machine) :
    (first >>= next) m =
      match first m with
      | .ok value m => next value m
      | .error halt m => .error halt m := by
  cases h : first m <;> simp only [bind, EStateM.bind, h]

theorem get_bind_apply (next : Machine → Run β) (m : Machine) : (get >>= next) m = next m m := rfl

theorem set_bind_apply (m' : Machine) (next : PUnit → Run β) (m : Machine) :
    ((set m' : Run PUnit) >>= next) m = next ⟨⟩ m' := rfl

theorem modify_bind_apply (change : Machine → Machine) (next : PUnit → Run β) (m : Machine) :
    ((modify change : Run PUnit) >>= next) m = next ⟨⟩ (change m) := rfl

/-- A sequence ends well when both parts do. -/
theorem bind_eq_ok_iff {first : Run α} {next : α → Run β} {m last : Machine} {value : β} :
    (first >>= next) m = .ok value last ↔
      ∃ between middle, first m = .ok between middle ∧ next between middle = .ok value last := by
  rw [bind_apply]
  cases first m with
  | ok between middle =>
      constructor
      · intro ended
        exact ⟨between, middle, rfl, ended⟩
      · rintro ⟨_, _, same, ended⟩
        cases same
        exact ended
  | error halt middle => simp

/-- A sequence ends early when its first part does, or when its second part does. -/
theorem bind_eq_error_iff {first : Run α} {next : α → Run β} {m last : Machine} {halt : Halt} :
    (first >>= next) m = .error halt last ↔
      first m = .error halt last ∨
        ∃ between middle, first m = .ok between middle ∧ next between middle = .error halt last := by
  rw [bind_apply]
  cases first m with
  | ok between middle =>
      constructor
      · intro ended
        exact .inr ⟨between, middle, rfl, ended⟩
      · rintro (early | ⟨_, _, same, ended⟩)
        · cases early
        · cases same
          exact ended
  | error early middle => simp

/-- The value of a computation, when it ends well. -/
def value? (run : Run α) (m : Machine) : Option α :=
  match run m with
  | .ok value _ => some value
  | .error _ _ => none

/-- The machine that a computation reaches. -/
def last (run : Run α) (m : Machine) : Machine :=
  match run m with
  | .ok _ m => m
  | .error _ m => m

theorem eq_ok_of_value? {run : Run α} {m : Machine} {value : α}
    (ended : value? run m = some value) : run m = .ok value (last run m) := by
  unfold value? at ended
  unfold last
  split at ended
  next found =>
    cases ended
    rw [found]
  next => cases ended

theorem forM_cons (act : α → Run PUnit) (first : α) (rest : List α) :
    (first :: rest).forM act = act first >>= fun _ => rest.forM act := rfl

/-- A loop keeps what each of its rounds keeps. -/
theorem forM_kept {act : α → Run PUnit} {Holds : Machine → Prop}
    (keeps : ∀ {value : α} {m m' : Machine}, Holds m → act value m = .ok ⟨⟩ m' → Holds m')
    {values : List α} {m m' : Machine} (holds : Holds m) (done : values.forM act m = .ok ⟨⟩ m') :
    Holds m' := by
  induction values generalizing m with
  | nil =>
      cases done
      exact holds
  | cons value values ih =>
      rw [forM_cons, bind_eq_ok_iff] at done
      obtain ⟨_, middle, first, rest⟩ := done
      exact ih (keeps holds first) rest

/-- A loop ends early in one of its rounds. -/
theorem forM_error {act : α → Run PUnit} {Holds : Machine → Prop}
    (keeps : ∀ {value : α} {m m' : Machine}, Holds m → act value m = .ok ⟨⟩ m' → Holds m')
    {values : List α} {m m' : Machine} {halt : Halt} (holds : Holds m)
    (failed : values.forM act m = .error halt m') :
    ∃ value before, Holds before ∧ act value before = .error halt m' := by
  induction values generalizing m with
  | nil => cases failed
  | cons value values ih =>
      rw [forM_cons] at failed
      rcases bind_eq_error_iff.mp failed with early | ⟨_, middle, first, later⟩
      · exact ⟨value, m, holds, early⟩
      · exact ih (keeps holds first) later

theorem ofChecked_eq_ok_iff {computation : Checked α} {m last : Machine} {value : α} :
    ofChecked computation m = .ok value last ↔ computation = .ok value ∧ last = m := by
  cases computation with
  | ok result => simp [ofChecked, eq_comm]
  | error fault => simp [ofChecked]

theorem ofChecked_eq_error_iff {computation : Checked α} {m last : Machine} {halt : Halt} :
    ofChecked computation m = .error halt last ↔
      ∃ fault, computation = .error fault ∧ halt = .fault fault ∧ last = m := by
  cases computation with
  | ok result => simp [ofChecked]
  | error fault => simp [ofChecked, eq_comm]

end Run

end Adventure
