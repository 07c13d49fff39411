/-!
# Banks of cells

A bank is a list whose length is fixed by its type.  Script slots, script locals,
game variables, scale slots and cutscene frames all live in banks: their number
never changes, and an index outside the bank reads as nothing and writes nowhere.

Every operation is the list operation of the same name, so `cells` is the view
through which a bank is described.
-/

set_option autoImplicit false

namespace Adventure

/-- A list of exactly `n` cells. -/
structure Bank (α : Type) (n : Nat) where
  cells : List α
  length_cells : cells.length = n
  deriving DecidableEq

namespace Bank

variable {α β : Type} {n : Nat}

theorem ext_cells {a b : Bank α n} (h : a.cells = b.cells) : a = b := by
  cases a
  cases b
  simpa using h

/-- The bank with the same value in every cell. -/
def replicate (n : Nat) (value : α) : Bank α n := ⟨List.replicate n value, by simp⟩

instance [Inhabited α] : Inhabited (Bank α n) := ⟨replicate n default⟩

/-- The cell at an index, if there is one. -/
def get? (bank : Bank α n) (index : Nat) : Option α := bank.cells[index]?

/-- The bank with one cell changed; an index outside the bank changes nothing. -/
def modify (bank : Bank α n) (index : Nat) (change : α → α) : Bank α n :=
  ⟨bank.cells.modify index change, by simp [bank.length_cells]⟩

/-- The bank with one cell replaced; an index outside the bank changes nothing. -/
def set (bank : Bank α n) (index : Nat) (value : α) : Bank α n :=
  ⟨bank.cells.set index value, by simp [bank.length_cells]⟩

/-- The bank with every cell changed. -/
def map (bank : Bank α n) (change : α → β) : Bank β n :=
  ⟨bank.cells.map change, by simp [bank.length_cells]⟩

/-- The bank with every cell changed by a rule that also sees the index. -/
def mapIdx (bank : Bank α n) (change : Nat → α → β) : Bank β n :=
  ⟨bank.cells.mapIdx change, by simp [bank.length_cells]⟩

/-- The values of a list laid over the first cells; values past the end are dropped. -/
def overlay (bank : Bank α n) (values : List α) : Bank α n :=
  ⟨(values ++ bank.cells.drop values.length).take n, by
    simp only [List.length_take, List.length_append, List.length_drop, bank.length_cells]
    omega⟩

/-- The bank that starts with a list, padded with a value or cut off to size. -/
def fit (n : Nat) (padding : α) (values : List α) : Bank α n :=
  (replicate n padding).overlay values

/-- A list as a bank, when it has the right length. -/
def ofList? (n : Nat) (values : List α) : Option (Bank α n) :=
  if h : values.length = n then some ⟨values, h⟩ else none

@[simp] theorem cells_replicate (value : α) : (replicate n value).cells = List.replicate n value := rfl

@[simp] theorem cells_modify (bank : Bank α n) (index : Nat) (change : α → α) :
    (bank.modify index change).cells = bank.cells.modify index change := rfl

@[simp] theorem cells_set (bank : Bank α n) (index : Nat) (value : α) :
    (bank.set index value).cells = bank.cells.set index value := rfl

@[simp] theorem cells_map (bank : Bank α n) (change : α → β) :
    (bank.map change).cells = bank.cells.map change := rfl

@[simp] theorem cells_mapIdx (bank : Bank α n) (change : Nat → α → β) :
    (bank.mapIdx change).cells = bank.cells.mapIdx change := rfl

theorem get?_modify (bank : Bank α n) (index : Nat) (change : α → α) (other : Nat) :
    (bank.modify index change).get? other =
      if index = other then (bank.get? other).map change else bank.get? other := by
  simp only [get?, cells_modify, List.getElem?_modify]
  split <;> simp

@[simp] theorem get?_map (bank : Bank α n) (change : α → β) (index : Nat) :
    (bank.map change).get? index = (bank.get? index).map change := by
  simp [get?]

@[simp] theorem get?_mapIdx (bank : Bank α n) (change : Nat → α → β) (index : Nat) :
    (bank.mapIdx change).get? index = (bank.get? index).map (change index) := by
  simp [get?]

/-- Two banks with the same cells at every index are the same. -/
theorem ext_get? {a b : Bank α n} (same : ∀ index, a.get? index = b.get? index) : a = b :=
  ext_cells (List.ext_getElem? same)

/-- A list of the right length is the bank's own list again. -/
theorem ofList?_cells (bank : Bank α n) : ofList? n bank.cells = some bank := by
  unfold ofList?
  rw [dif_pos bank.length_cells]

/-- The cells of a bank laid over another one replace it. -/
theorem overlay_cells (bank other : Bank α n) : bank.overlay other.cells = other := by
  apply ext_cells
  have all : bank.cells.drop other.cells.length = [] := by
    simp [other.length_cells, bank.length_cells]
  simp only [overlay, all, List.append_nil]
  exact List.take_of_length_le (Nat.le_of_eq other.length_cells)

/-- The cells of a bank fit without padding. -/
theorem fit_cells (padding : α) (bank : Bank α n) : fit n padding bank.cells = bank :=
  overlay_cells _ bank

end Bank

end Adventure
