import Adventure.Routing.Rebuild
import Mathlib.Data.Finset.Card
import Mathlib.Data.Nat.Find

/-!
# The table of shortest ways

A trek is a walk over neighbouring boxes, counted in steps.  The table that
`shortestWays` computes is compared with treks here.

Adding a pivot takes the smaller of two sums, so the table keeps three facts while
it improves: a box reaches itself in no steps, every finite entry is the length of a
trek whose first step is the recorded hop, and neighbours are at most one step apart
(`Sound`).  Once a box has served as pivot, going through it is never shorter than
the recorded way (`Through`), and later pivots keep that.  When every box has served,
no trek is shorter than the table says.

The length 255 stands for "no way".  It never stands for a real distance: a box at
distance 255 would leave a box at every smaller distance, 256 boxes in all
(`Sound.lt_unreached`).
-/

set_option autoImplicit false

namespace Adventure.Matrix

/-! ## Treks -/

/-- A walk of a number of steps over neighbouring boxes, all of them below a bound. -/
inductive Trek (neighbours : BoxId → BoxId → Bool) (count : Nat) : Nat → BoxId → BoxId → Prop where
  | stay {box : BoxId} (inside : box.toNat < count) : Trek neighbours count 0 box box
  | step {length : Nat} {source next target : BoxId} (inside : source.toNat < count)
      (adjacent : neighbours source next = true)
      (rest : Trek neighbours count length next target) :
      Trek neighbours count (length + 1) source target

/-- Some trek leads from one box to another. -/
def Reachable (neighbours : BoxId → BoxId → Bool) (count : Nat) (source target : BoxId) : Prop :=
  ∃ length, Trek neighbours count length source target

/-- The least number of steps of any trek between two boxes. -/
def IsDistance (neighbours : BoxId → BoxId → Bool) (count length : Nat) (source target : BoxId) :
    Prop :=
  Trek neighbours count length source target ∧
    ∀ other, Trek neighbours count other source target → length ≤ other

section Treks

variable {neighbours : BoxId → BoxId → Bool} {count : Nat}

theorem Trek.source_lt {length : Nat} {source target : BoxId}
    (trek : Trek neighbours count length source target) : source.toNat < count := by
  cases trek with
  | stay inside => exact inside
  | step inside _ _ => exact inside

theorem Trek.target_lt {length : Nat} {source target : BoxId}
    (trek : Trek neighbours count length source target) : target.toNat < count := by
  induction trek with
  | stay inside => exact inside
  | step _ _ _ ih => exact ih

theorem Trek.append {first second : Nat} {source middle target : BoxId}
    (before : Trek neighbours count first source middle)
    (after : Trek neighbours count second middle target) :
    Trek neighbours count (first + second) source target := by
  induction before with
  | stay _ =>
      rw [Nat.zero_add]
      exact after
  | @step length _ _ _ inside adjacent _ ih =>
      rw [Nat.add_right_comm]
      exact .step inside adjacent (ih after)

theorem IsDistance.unique {first second : Nat} {source target : BoxId}
    (one : IsDistance neighbours count first source target)
    (other : IsDistance neighbours count second source target) : first = second :=
  Nat.le_antisymm (one.2 _ other.1) (other.2 _ one.1)

/-- Boxes that can be reached have a distance. -/
theorem Reachable.exists_distance {source target : BoxId}
    (reachable : Reachable neighbours count source target) :
    ∃ length, IsDistance neighbours count length source target := by
  classical
  exact ⟨Nat.find reachable, Nat.find_spec reachable, fun _ trek => Nat.find_min' reachable trek⟩

end Treks

/-- The number of a box below the bound of routing is the box itself. -/
theorem toNat_ofNat_box {count box : Nat} (small : count ≤ unreached) (inside : box < count) :
    (UInt8.ofNat box).toNat = box := by
  have below : box < 256 := Nat.lt_of_lt_of_le inside (Nat.le_trans small (by decide))
  rw [UInt8.toNat_ofNat']
  exact Nat.mod_eq_of_lt below

/-! ## Reading the table -/

/-- A table with a given number of rows and columns. -/
structure Square (count : Nat) (table : List (List Leg)) : Prop where
  rows : table.length = count
  columns : ∀ row ∈ table, row.length = count

/-- The way between two boxes that a table records. -/
def wayAt (table : List (List Leg)) (source target : Nat) : Leg :=
  (table.getD source []).getD target ⟨unreached, none⟩

theorem wayAt_eq {table : List (List Leg)} {row : List Leg} {leg : Leg} {source target : Nat}
    (rowFound : table[source]? = some row) (legFound : row[target]? = some leg) :
    wayAt table source target = leg := by
  simp only [wayAt, List.getD_eq_getElem?_getD, rowFound, legFound, Option.getD_some]

/-- A square table has a row for every box, and in it a way to every box. -/
theorem Square.read {count : Nat} {table : List (List Leg)} (square : Square count table)
    {source target : Nat} (sourceInside : source < count) (targetInside : target < count) :
    ∃ row, table[source]? = some row ∧ row[target]? = some (wayAt table source target) := by
  have rowInside : source < table.length := by rw [square.rows]; exact sourceInside
  have legInside : target < table[source].length := by
    rw [square.columns _ (List.getElem_mem rowInside)]
    exact targetInside
  have rowFound : table[source]? = some table[source] := List.getElem?_eq_getElem rowInside
  have legFound : table[source][target]? = some table[source][target] :=
    List.getElem?_eq_getElem legInside
  exact ⟨table[source], rowFound, by rw [legFound, wayAt_eq rowFound legFound]⟩

theorem directTable_square (count : Nat) (neighbours : BoxId → BoxId → Bool) :
    Square count (directTable count neighbours) := by
  refine ⟨by simp [directTable], ?_⟩
  intro row member
  simp only [directTable, List.mem_map] at member
  obtain ⟨source, _, rfl⟩ := member
  simp

theorem wayAt_directTable {count : Nat} (neighbours : BoxId → BoxId → Bool) {source target : Nat}
    (sourceInside : source < count) (targetInside : target < count) :
    wayAt (directTable count neighbours) source target = direct neighbours source target := by
  have rowFound : (directTable count neighbours)[source]? =
      some ((List.range count).map fun target => direct neighbours source target) := by
    simp [directTable, sourceInside]
  exact wayAt_eq rowFound (by simp [targetInside])

theorem improveRow_length {count : Nat} {pivotRow row : List Leg} (pivot : Nat)
    (pivotLength : pivotRow.length = count) (rowLength : row.length = count) :
    (improveRow pivot pivotRow row).length = count := by
  unfold improveRow
  split
  · split
    · rw [List.length_zipWith, pivotLength, rowLength, Nat.min_self]
    · exact rowLength
  · exact rowLength

theorem addPivot_square {count : Nat} {table : List (List Leg)} (square : Square count table)
    (pivot : Nat) : Square count (addPivot table pivot) := by
  unfold addPivot
  split
  next pivotRow found =>
    have pivotLength : pivotRow.length = count :=
      square.columns pivotRow (List.mem_of_getElem? found)
    refine ⟨by rw [List.length_map, square.rows], ?_⟩
    intro row member
    obtain ⟨old, oldMember, rfl⟩ := List.mem_map.mp member
    exact improveRow_length pivot pivotLength (square.columns old oldMember)
  next => exact square

theorem shortestWays_square (count : Nat) (neighbours : BoxId → BoxId → Bool) :
    Square count (shortestWays count neighbours) := by
  unfold shortestWays
  generalize List.range count = pivots
  have start := directTable_square count neighbours
  generalize directTable count neighbours = table at start
  induction pivots generalizing table with
  | nil => exact start
  | cons pivot rest ih => exact ih (addPivot table pivot) (addPivot_square start pivot)

/-- The guard on the way to the pivot changes nothing: such a way is too long to improve
an entry that is not above the mark. -/
theorem wayAt_addPivot {count : Nat} {table : List (List Leg)} (square : Square count table)
    {pivot source target : Nat} (pivotInside : pivot < count) (sourceInside : source < count)
    (targetInside : target < count)
    (bounded : (wayAt table source target).length ≤ unreached) :
    wayAt (addPivot table pivot) source target =
      improve (wayAt table source pivot) (wayAt table source target)
        (wayAt table pivot target) := by
  obtain ⟨row, rowFound, toPivotFound⟩ := square.read sourceInside pivotInside
  obtain ⟨row', rowFound', knownFound⟩ := square.read sourceInside targetInside
  obtain ⟨pivotRow, pivotRowFound, fromPivotFound⟩ := square.read pivotInside targetInside
  obtain rfl : row = row' := Option.some.inj (rowFound.symm.trans rowFound')
  have newRow : (addPivot table pivot)[source]? = some (improveRow pivot pivotRow row) := by
    simp only [addPivot, pivotRowFound, List.getElem?_map, rowFound, Option.map_some]
  refine wayAt_eq newRow ?_
  unfold improveRow
  rw [toPivotFound]
  dsimp only
  split
  next near =>
    simp only [List.getElem?_zipWith, knownFound, fromPivotFound]
  next far =>
    rw [knownFound, improve, if_neg (by omega)]

/-! ## What the table keeps while it improves -/

/-- Every entry of a table is the length of a trek, or the mark for "no way". -/
structure Sound (neighbours : BoxId → BoxId → Bool) (count : Nat) (way : Nat → Nat → Leg) :
    Prop where
  /-- A box reaches itself in no steps. -/
  self : ∀ box < count, (way box box).length = 0
  /-- Neighbours are at most one step apart. -/
  adjacent : ∀ source < count, ∀ target < count,
    neighbours (UInt8.ofNat source) (UInt8.ofNat target) = true → (way source target).length ≤ 1
  /-- A finite entry between two boxes is a trek that starts with its hop. -/
  realised : ∀ source < count, ∀ target < count, source ≠ target →
    (way source target).length ≠ unreached →
      ∃ hop < count, ∃ rest, (way source target).length = rest + 1 ∧
        (way source target).hop = some (UInt8.ofNat hop) ∧
        neighbours (UInt8.ofNat source) (UInt8.ofNat hop) = true ∧
        Trek neighbours count rest (UInt8.ofNat hop) (UInt8.ofNat target)
  /-- No entry is above the mark, and an entry at the mark has no hop. -/
  bounded : ∀ source < count, ∀ target < count,
    (way source target).length ≤ unreached ∧
      ((way source target).length = unreached → (way source target).hop = none)
  /-- Every hop is a box below the bound. -/
  hops : ∀ source < count, ∀ target < count, ∀ hop,
    (way source target).hop = some hop → hop.toNat < count

/-- Going through a box is never shorter than the recorded way. -/
def Through (count : Nat) (way : Nat → Nat → Leg) (pivot : Nat) : Prop :=
  ∀ source < count, ∀ target < count,
    (way source target).length ≤ (way source pivot).length + (way pivot target).length

section Improvement

variable {neighbours : BoxId → BoxId → Bool} {count : Nat} {way : Nat → Nat → Leg}

/-- Adding a pivot to a table read as a function. -/
def viaPivot (way : Nat → Nat → Leg) (pivot source target : Nat) : Leg :=
  improve (way source pivot) (way source target) (way pivot target)

theorem viaPivot_length (way : Nat → Nat → Leg) (pivot source target : Nat) :
    (viaPivot way pivot source target).length =
      min (way source target).length ((way source pivot).length + (way pivot target).length) := by
  unfold viaPivot improve
  split
  next better => exact (Nat.min_eq_right (Nat.le_of_lt better)).symm
  next worse => exact (Nat.min_eq_left (Nat.not_lt.mp worse)).symm

/-- A finite entry is the length of a trek. -/
theorem Sound.trek (sound : Sound neighbours count way) (small : count ≤ unreached)
    {source target : Nat} (sourceInside : source < count) (targetInside : target < count)
    (finite : (way source target).length ≠ unreached) :
    Trek neighbours count (way source target).length (UInt8.ofNat source)
      (UInt8.ofNat target) := by
  have inside : (UInt8.ofNat source).toNat < count := by
    rw [toNat_ofNat_box small sourceInside]
    exact sourceInside
  by_cases same : source = target
  · subst same
    rw [sound.self source sourceInside]
    exact .stay inside
  · obtain ⟨_, _, rest, lengthEq, _, edge, onward⟩ :=
      sound.realised source sourceInside target targetInside same finite
    rw [lengthEq]
    exact .step inside edge onward

theorem Sound.viaPivot (sound : Sound neighbours count way) (small : count ≤ unreached)
    {pivot : Nat} (pivotInside : pivot < count) :
    Sound neighbours count (viaPivot way pivot) where
  self := by
    intro box inside
    rw [viaPivot_length, sound.self box inside, Nat.zero_min]
  adjacent := by
    intro source sourceInside target targetInside edge
    rw [viaPivot_length]
    exact Nat.le_trans (Nat.min_le_left _ _)
      (sound.adjacent source sourceInside target targetInside edge)
  realised := by
    intro source sourceInside target targetInside distinct finite
    have known := sound.bounded source sourceInside target targetInside
    by_cases better : (way source pivot).length + (way pivot target).length <
        (way source target).length
    · -- The way to the pivot is a real one, and it is not empty: a pivot at the source
      -- would offer what is recorded already.
      have away : source ≠ pivot := by
        intro same
        subst same
        rw [sound.self source sourceInside] at better
        omega
      obtain ⟨hop, hopInside, rest, lengthEq, hopEq, edge, onward⟩ :=
        sound.realised source sourceInside pivot pivotInside away (by omega)
      have later := sound.trek small pivotInside targetInside (by omega)
      refine ⟨hop, hopInside, rest + (way pivot target).length, ?_, ?_, edge, onward.append later⟩
      · simp only [Matrix.viaPivot, improve, if_pos better]
        omega
      · simp only [Matrix.viaPivot, improve, if_pos better]
        exact hopEq
    · simp only [Matrix.viaPivot, improve, if_neg better] at finite ⊢
      exact sound.realised source sourceInside target targetInside distinct finite
  bounded := by
    intro source sourceInside target targetInside
    have known := sound.bounded source sourceInside target targetInside
    by_cases better : (way source pivot).length + (way pivot target).length <
        (way source target).length
    · simp only [Matrix.viaPivot, improve, if_pos better]
      exact ⟨by omega, fun mark => by omega⟩
    · simp only [Matrix.viaPivot, improve, if_neg better]
      exact known
  hops := by
    intro source sourceInside target targetInside
    unfold Matrix.viaPivot improve
    split
    · exact sound.hops source sourceInside pivot pivotInside
    · exact sound.hops source sourceInside target targetInside

/-- The new pivot cannot be used for a gain any more. -/
theorem Sound.through_viaPivot (sound : Sound neighbours count way) {pivot : Nat}
    (pivotInside : pivot < count) : Through count (Matrix.viaPivot way pivot) pivot := by
  intro source _ target _
  have atPivot := sound.self pivot pivotInside
  simp only [viaPivot_length]
  omega

/-- A box that has served as pivot keeps its property when another one is added. -/
theorem Through.viaPivot {served pivot : Nat} (through : Through count way served)
    (pivotInside : pivot < count) :
    Through count (Matrix.viaPivot way pivot) served := by
  intro source sourceInside target targetInside
  have direct := through source sourceInside target targetInside
  have before := through source sourceInside pivot pivotInside
  have after := through pivot pivotInside target targetInside
  simp only [viaPivot_length]
  omega

end Improvement

/-! ## The finished table -/

section Finished

variable {neighbours : BoxId → BoxId → Bool} {count : Nat} {way other : Nat → Nat → Leg}

/-- Only the entries inside the table matter. -/
theorem Sound.of_agree (sound : Sound neighbours count way)
    (agree : ∀ source < count, ∀ target < count, other source target = way source target) :
    Sound neighbours count other where
  self := by
    intro box inside
    rw [agree box inside box inside]
    exact sound.self box inside
  adjacent := by
    intro source sourceInside target targetInside
    rw [agree source sourceInside target targetInside]
    exact sound.adjacent source sourceInside target targetInside
  realised := by
    intro source sourceInside target targetInside
    rw [agree source sourceInside target targetInside]
    exact sound.realised source sourceInside target targetInside
  bounded := by
    intro source sourceInside target targetInside
    rw [agree source sourceInside target targetInside]
    exact sound.bounded source sourceInside target targetInside
  hops := by
    intro source sourceInside target targetInside
    rw [agree source sourceInside target targetInside]
    exact sound.hops source sourceInside target targetInside

theorem Through.of_agree {pivot : Nat} (through : Through count way pivot)
    (pivotInside : pivot < count)
    (agree : ∀ source < count, ∀ target < count, other source target = way source target) :
    Through count other pivot := by
  intro source sourceInside target targetInside
  rw [agree source sourceInside target targetInside, agree source sourceInside pivot pivotInside,
    agree pivot pivotInside target targetInside]
  exact through source sourceInside target targetInside

theorem direct_sound (small : count ≤ unreached) :
    Sound neighbours count (direct neighbours) where
  self := by
    intro box _
    simp [direct]
  adjacent := by
    intro source _ target _ edge
    unfold direct
    split
    · exact Nat.zero_le 1
    · exact Nat.le_refl 1
  realised := by
    intro source sourceInside target targetInside distinct finite
    have inside : (UInt8.ofNat target).toNat < count := by
      rw [toNat_ofNat_box small targetInside]
      exact targetInside
    by_cases edge : neighbours (UInt8.ofNat source) (UInt8.ofNat target) = true
    · refine ⟨target, targetInside, 0, ?_, ?_, edge, .stay inside⟩ <;>
        simp [direct, distinct, edge]
    · simp [direct, distinct, edge] at finite
  bounded := by
    intro source _ target _
    unfold direct
    split
    · simp [unreached]
    · split <;> simp [unreached]
  hops := by
    intro source _ target targetInside hop recorded
    have named : hop = UInt8.ofNat target := by
      unfold direct at recorded
      split at recorded
      · exact (Option.some.inj recorded).symm
      · split at recorded
        · exact (Option.some.inj recorded).symm
        · cases recorded
    rw [named, toNat_ofNat_box small targetInside]
    exact targetInside

/-- One pivot after the other: the table stays square and sound, and every box that has
served keeps its property. -/
theorem foldl_addPivot (small : count ≤ unreached) (pivots : List Nat)
    (inside : ∀ pivot ∈ pivots, pivot < count) (table : List (List Leg)) (served : List Nat)
    (servedInside : ∀ pivot ∈ served, pivot < count) (square : Square count table)
    (sound : Sound neighbours count (wayAt table))
    (through : ∀ pivot ∈ served, Through count (wayAt table) pivot) :
    Sound neighbours count (wayAt (pivots.foldl addPivot table)) ∧
      ∀ pivot, pivot ∈ served ∨ pivot ∈ pivots →
        Through count (wayAt (pivots.foldl addPivot table)) pivot := by
  induction pivots generalizing table served with
  | nil =>
      refine ⟨sound, ?_⟩
      intro pivot member
      rcases member with old | new
      · exact through pivot old
      · cases new
  | cons pivot rest ih =>
      have pivotInside : pivot < count := inside pivot List.mem_cons_self
      have agree : ∀ source < count, ∀ target < count,
          wayAt (addPivot table pivot) source target = viaPivot (wayAt table) pivot source target :=
        fun source sourceInside target targetInside =>
          wayAt_addPivot square pivotInside sourceInside targetInside
            (sound.bounded source sourceInside target targetInside).1
      have step := ih (fun later member => inside later (List.mem_cons_of_mem _ member))
        (addPivot table pivot) (pivot :: served)
        (by
          intro box member
          rcases List.mem_cons.mp member with rfl | old
          · exact pivotInside
          · exact servedInside box old)
        (addPivot_square square pivot)
        ((sound.viaPivot small pivotInside).of_agree agree)
        (by
          intro box member
          rcases List.mem_cons.mp member with rfl | old
          · exact (sound.through_viaPivot pivotInside).of_agree pivotInside agree
          · exact ((through box old).viaPivot pivotInside).of_agree (servedInside box old) agree)
      refine ⟨step.1, ?_⟩
      intro box member
      refine step.2 box ?_
      rcases member with old | new
      · exact .inl (List.mem_cons_of_mem _ old)
      · rcases List.mem_cons.mp new with rfl | later
        · exact .inl List.mem_cons_self
        · exact .inr later

/-- The finished table is sound, and no box offers a gain. -/
theorem shortestWays_sound (neighbours : BoxId → BoxId → Bool) (small : count ≤ unreached) :
    Sound neighbours count (wayAt (shortestWays count neighbours)) ∧
      ∀ pivot < count, Through count (wayAt (shortestWays count neighbours)) pivot := by
  have start : Sound neighbours count (wayAt (directTable count neighbours)) :=
    (direct_sound small).of_agree fun _ sourceInside _ targetInside =>
      wayAt_directTable neighbours sourceInside targetInside
  have done := foldl_addPivot small (List.range count) (fun _ member => List.mem_range.mp member)
    (directTable count neighbours) [] (fun _ member => by cases member)
    (directTable_square count neighbours) start (fun _ member => by cases member)
  exact ⟨done.1, fun pivot inside => done.2 pivot (.inr (List.mem_range.mpr inside))⟩

/-- No trek is shorter than the table says. -/
theorem Sound.le_of_trek (sound : Sound neighbours count way)
    (through : ∀ pivot < count, Through count way pivot) {length : Nat} {source target : BoxId}
    (trek : Trek neighbours count length source target) :
    (way source.toNat target.toNat).length ≤ length := by
  induction trek with
  | stay inside => rw [sound.self _ inside]
  | @step length source next target inside adjacent rest ih =>
      have targetInside : target.toNat < count := rest.target_lt
      have near := sound.adjacent source.toNat inside next.toNat rest.source_lt
        (by simpa using adjacent)
      have split := through next.toNat rest.source_lt source.toNat inside target.toNat targetInside
      omega

/-- On a trek that starts where the table says "no way" there is a box whose way is as long
as a way can be. -/
theorem Sound.exists_longest (sound : Sound neighbours count way)
    (through : ∀ pivot < count, Through count way pivot) {length : Nat} {source target : BoxId}
    (trek : Trek neighbours count length source target)
    (mark : (way source.toNat target.toNat).length = unreached) :
    ∃ box < count, (way box target.toNat).length + 1 = unreached := by
  induction trek with
  | stay inside =>
      rw [sound.self _ inside] at mark
      exact absurd mark (by decide)
  | @step length source next target inside adjacent rest ih =>
      have targetInside : target.toNat < count := rest.target_lt
      by_cases far : (way next.toNat target.toNat).length = unreached
      · exact ih far
      · refine ⟨next.toNat, rest.source_lt, ?_⟩
        have near := sound.adjacent source.toNat inside next.toNat rest.source_lt
          (by simpa using adjacent)
        have split :=
          through next.toNat rest.source_lt source.toNat inside target.toNat targetInside
        have bound := (sound.bounded next.toNat rest.source_lt target.toNat targetInside).1
        omega

/-- Below every finite way there is one that is a step shorter: the one from its hop. -/
theorem Sound.hop_length (sound : Sound neighbours count way) (small : count ≤ unreached)
    (through : ∀ pivot < count, Through count way pivot) {source target rest : Nat}
    (sourceInside : source < count) (targetInside : target < count)
    (lengthEq : (way source target).length = rest + 1) (finite : rest + 1 ≠ unreached) :
    ∃ hop < count, (way source target).hop = some (UInt8.ofNat hop) ∧
      neighbours (UInt8.ofNat source) (UInt8.ofNat hop) = true ∧
      (way hop target).length = rest := by
  have distinct : source ≠ target := by
    intro same
    subst same
    rw [sound.self source sourceInside] at lengthEq
    omega
  obtain ⟨hop, hopInside, rest', lengthEq', hopEq, edge, onward⟩ :=
    sound.realised source sourceInside target targetInside distinct (by rw [lengthEq]; exact finite)
  refine ⟨hop, hopInside, hopEq, edge, ?_⟩
  have upper := sound.le_of_trek through onward
  rw [toNat_ofNat_box small hopInside, toNat_ofNat_box small targetInside] at upper
  have near := sound.adjacent source sourceInside hop hopInside edge
  have split := through hop hopInside source sourceInside target targetInside
  omega

/-- **The mark is never a distance.**  Were it one, boxes at all 256 lengths up to the mark
would exist, more than there are. -/
theorem Sound.lt_unreached (sound : Sound neighbours count way) (small : count ≤ unreached)
    (through : ∀ pivot < count, Through count way pivot) {length : Nat} {source target : BoxId}
    (trek : Trek neighbours count length source target) :
    (way source.toNat target.toNat).length < unreached := by
  have sourceInside := trek.source_lt
  have targetInside := trek.target_lt
  have bound := (sound.bounded source.toNat sourceInside target.toNat targetInside).1
  refine Nat.lt_of_le_of_ne bound fun mark => ?_
  have levels : ∀ drop, drop < unreached →
      ∃ box < count, (way box target.toNat).length + 1 + drop = unreached := by
    intro drop
    induction drop with
    | zero => exact fun _ => sound.exists_longest through trek mark
    | succ drop ih =>
        intro small'
        obtain ⟨box, boxInside, level⟩ := ih (by omega)
        obtain ⟨rest, restEq⟩ : ∃ rest, (way box target.toNat).length = rest + 1 :=
          ⟨(way box target.toNat).length - 1, by omega⟩
        obtain ⟨hop, hopInside, _, _, hopLength⟩ :=
          sound.hop_length small through boxInside targetInside restEq (by omega)
        exact ⟨hop, hopInside, by omega⟩
  have covered : Finset.range (unreached + 1) ⊆
      (Finset.range count).image fun box => (way box target.toNat).length := by
    intro level member
    have below := Finset.mem_range.mp member
    rw [Finset.mem_image]
    by_cases top : level = unreached
    · exact ⟨source.toNat, Finset.mem_range.mpr sourceInside, by rw [mark, top]⟩
    · obtain ⟨box, boxInside, boxLevel⟩ := levels (unreached - 1 - level) (by omega)
      exact ⟨box, Finset.mem_range.mpr boxInside, by omega⟩
  have many := Finset.card_le_card covered
  have few := Finset.card_image_le (s := Finset.range count)
    (f := fun box => (way box target.toNat).length)
  rw [Finset.card_range] at many few
  omega

end Finished

end Adventure.Matrix
