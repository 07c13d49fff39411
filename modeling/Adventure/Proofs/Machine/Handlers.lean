import Adventure.Proofs.Machine.Running
import Adventure.Proofs.Script.Reading

/-!
# Handlers read what the assembler writes

The operands of an instruction are laid down twice.  The assembler writes them by the shape of
the operation (`Operation.shape`); when code runs, every handler reads its own operands, one
after the other, without a look at the shape (`handle`).

Reading in turn is reading a shape (`gather_eq`), also where code ends in the midst of the
operands: the same offset is blamed, and the machine is left at the same place.  So the two
agree, operation by operation (`handle_eq`), and a handler finds the operands that the
assembler has written for it (`handle_of_holds`).
-/

set_option autoImplicit false

namespace Adventure.Machine

variable {α β : Type} {m : Machine}

/-! ## Reading in turn -/

theorem fetch_pure (value : α) : fetch (fun _ => pure value) = pure value := rfl

/-- What is read in two parts can be fetched part by part. -/
theorem fetch_bind (first : Code → Fetch α) (rest : α → Code → Fetch β) :
    fetch (fun code => first code >>= fun value => rest value code) =
      fetch first >>= fun value => fetch (rest value) := by
  funext m
  rw [Run.bind_apply]
  cases found : first m.code m.pc with
  | ok result =>
      -- The first part has only moved the program counter, so the second blames the same script.
      simp only [fetch, found, Fetch.bind_of_ok found]
      rfl
  | error offset => simp only [fetch, found, Fetch.bind_of_error found]

/-- Fetches operands one after the other and hands them on. -/
def gather : (shape : List Operand) → (Operands shape → Run β) → Run β
  | [], next => next ()
  | first :: rest, next => do
    let value ← fetch fun code => code.operand first
    gather rest fun values => next (value, values)

theorem gather_eq (shape : List Operand) (next : Operands shape → Run β) :
    gather shape next = fetch (fun code => code.operands shape) >>= next := by
  induction shape with
  | nil => rfl
  | cons first rest ih =>
      simp only [gather, ih, Code.operands, fetch_bind, fetch_pure, bind_assoc, pure_bind]

/-! ## Handlers -/

/-- **Every handler reads the operands of its operation's shape**, in their order, and performs
the operation with them. -/
theorem handle_eq (operation : Operation) :
    handle operation = fetch (fun code => code.operands operation.shape) >>= perform operation := by
  rw [← gather_eq]
  -- For each operation, the reads of the handler are those of the shape, one by one.
  cases operation <;> rfl

/-- **A handler reads back what the assembler has written** and goes on right behind it. -/
theorem handle_of_holds {operation : Operation} {operands : Operands operation.shape}
    (fit : Operands.Fit operation.shape operands)
    (holds : m.code.Holds m.pc (Operands.encode operation.shape operands)) :
    handle operation m =
      perform operation operands
        { m with pc := m.pc + (Operands.encode operation.shape operands).length } := by
  rw [handle_eq, Run.bind_apply, fetch, Code.operands_of_holds fit holds]

end Adventure.Machine
