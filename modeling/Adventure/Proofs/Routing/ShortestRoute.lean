import Adventure.Proofs.Routing.Ways

/-!
# Rebuilt routing is shortest-path routing

The hops of the finished table are gathered into ranges and read back by the first
range that covers the target.  Gathering loses nothing: what a row answers about a
box is the hop that was recorded for it (`rowHop?_gather`).  With the facts about the
table, a rebuilt matrix answers with a hop exactly when the target can be reached; the
hop is a neighbour of the source and one step closer to the target, so following the
answers leads to the target along a shortest trek.
-/

set_option autoImplicit false

namespace Adventure.Matrix

/-! ## Gathering hops into ranges -/

/-- What a row answers is decided by its first entry or by the rest. -/
theorem rowHop?_cons (entry : RouteEntry) (row : List RouteEntry) (target : BoxId) :
    rowHop? (entry :: row) target =
      if entry.covers target then (if entry.hop = noHop then none else some entry.hop)
      else rowHop? row target := by
  unfold rowHop?
  rw [List.find?_cons]
  cases entry.covers target <;> rfl

/-- The hop at a position, when there is one. -/
def hopAt (hops : List (Option BoxId)) (position : Nat) : Option BoxId := (hops[position]?).join

theorem covers_iff (entry : RouteEntry) (target : BoxId) :
    entry.covers target = true ↔
      entry.low.toNat ≤ target.toNat ∧ target.toNat ≤ entry.high.toNat := by
  simp only [RouteEntry.covers, Bool.and_eq_true, decide_eq_true_eq, UInt8.le_iff_toNat_le]

/-- Every gathered range starts at the position or later and is not empty. -/
theorem gather_low_le (hops : List (Option BoxId)) (position : Nat)
    (fits : position + hops.length ≤ 256) :
    ∀ entry ∈ gather position hops,
      position ≤ entry.low.toNat ∧ entry.low.toNat ≤ entry.high.toNat := by
  induction hops generalizing position with
  | nil => intro entry member; cases member
  | cons first rest ih =>
      rw [List.length_cons] at fits
      have later := ih (position + 1) (by omega)
      have here : (UInt8.ofNat position).toNat = position := by
        rw [UInt8.toNat_ofNat']
        exact Nat.mod_eq_of_lt (by omega)
      cases first with
      | none =>
          intro entry member
          have bounds := later entry member
          exact ⟨by omega, bounds.2⟩
      | some hop =>
          rw [gather]
          split
          next entry others found =>
            have bounds := later entry (by rw [found]; exact List.mem_cons_self)
            have otherBounds : ∀ other ∈ others,
                position + 1 ≤ other.low.toNat ∧ other.low.toNat ≤ other.high.toNat :=
              fun other member => later other (by rw [found]; exact List.mem_cons_of_mem _ member)
            split
            next joins =>
              intro candidate member
              rcases List.mem_cons.mp member with rfl | member
              · simp only [here]
                omega
              · have := otherBounds candidate member
                omega
            next =>
              intro candidate member
              rcases List.mem_cons.mp member with rfl | member
              · simp only [here]
                omega
              · have := later candidate (by rw [found]; exact member)
                omega
          next =>
            intro candidate member
            rw [List.mem_singleton] at member
            subst member
            simp only [here]
            omega

/-- **Gathering loses nothing.**  A gathered row answers with the hop recorded for the target. -/
theorem rowHop?_gather (hops : List (Option BoxId)) (position : Nat)
    (fits : position + hops.length ≤ 256) (real : ∀ hop, some hop ∈ hops → hop ≠ noHop)
    (target : BoxId) :
    rowHop? (gather position hops) target =
      if position ≤ target.toNat then hopAt hops (target.toNat - position) else none := by
  induction hops generalizing position with
  | nil => simp [gather, rowHop?, hopAt]
  | cons first rest ih =>
      rw [List.length_cons] at fits
      have later := ih (position + 1) (by omega)
        (fun hop member => real hop (List.mem_cons_of_mem _ member))
      have here : (UInt8.ofNat position).toNat = position := by
        rw [UInt8.toNat_ofNat']
        exact Nat.mod_eq_of_lt (by omega)
      -- The answer of the rest of the row about any other box than the one at `position`.
      have elsewhere : target.toNat ≠ position →
          rowHop? (gather (position + 1) rest) target =
            if position ≤ target.toNat then hopAt (first :: rest) (target.toNat - position)
            else none := by
        intro away
        rw [later]
        by_cases after : position + 1 ≤ target.toNat
        · have shift : target.toNat - position = (target.toNat - (position + 1)) + 1 := by omega
          rw [if_pos after, if_pos (by omega), shift]
          rfl
        · rw [if_neg after, if_neg (by omega)]
      cases first with
      | none =>
          rw [gather]
          by_cases at_ : target.toNat = position
          · rw [later, if_neg (by omega), if_pos (by omega), at_, Nat.sub_self]
            rfl
          · exact elsewhere at_
      | some hop =>
          have hopReal : hop ≠ noHop := real hop List.mem_cons_self
          -- A first entry that ends at `position` or runs on from it answers for that box.
          have atFirst : ∀ entry row, entry.low = UInt8.ofNat position →
              position ≤ entry.high.toNat → entry.hop = hop → target.toNat = position →
              rowHop? (entry :: row) target =
                if position ≤ target.toNat then hopAt (some hop :: rest) (target.toNat - position)
                else none := by
            intro entry row lowEq highLe hopEq at_
            have covered : entry.covers target = true := by
              rw [covers_iff, lowEq, here]
              omega
            rw [rowHop?_cons, if_pos covered, hopEq, if_neg hopReal, if_pos (by omega), at_,
              Nat.sub_self]
            rfl
          have apart : target.toNat ≠ position →
              ¬ (RouteEntry.mk (UInt8.ofNat position) (UInt8.ofNat position) hop).covers target =
                true := by
            intro away covered
            rw [covers_iff] at covered
            simp only [here] at covered
            omega
          rw [gather]
          split
          next entry others found =>
            have bounds := gather_low_le rest (position + 1) (by omega) entry
              (by rw [found]; exact List.mem_cons_self)
            split
            next joins =>
              by_cases at_ : target.toNat = position
              · exact atFirst _ _ rfl (by dsimp only; omega) joins.2 at_
              · have same : ({ entry with low := UInt8.ofNat position } : RouteEntry).covers target =
                    entry.covers target := by
                  rw [Bool.eq_iff_iff, covers_iff, covers_iff]
                  simp only [here]
                  omega
                rw [← elsewhere at_, found, rowHop?_cons, rowHop?_cons, same]
            next =>
              by_cases at_ : target.toNat = position
              · exact atFirst _ _ rfl (by dsimp only; omega) rfl at_
              · rw [← elsewhere at_, found, rowHop?_cons, if_neg (apart at_)]
          next found =>
            by_cases at_ : target.toNat = position
            · exact atFirst _ _ rfl (by dsimp only; omega) rfl at_
            · rw [← elsewhere at_, found, rowHop?_cons, if_neg (apart at_)]

/-! ## The answers of a rebuilt matrix -/

/-- A rebuilt matrix answers with the hop of the finished table, and knows no other box. -/
theorem nextBox_rebuild (count : Nat) (neighbours : BoxId → BoxId → Bool) {source target : BoxId}
    (distinct : source ≠ target) :
    (rebuild count neighbours).nextBox (some source) (some target) =
      if source.toNat < routable count ∧ target.toNat < routable count then
        (wayAt (shortestWays (routable count) neighbours) source.toNat target.toNat).hop
      else none := by
  have small : routable count ≤ unreached := Nat.min_le_right _ _
  have square := shortestWays_square (routable count) neighbours
  obtain ⟨sound, _⟩ := shortestWays_sound neighbours small
  simp only [nextBox, if_neg distinct, rebuild, List.getElem?_map]
  generalize shortestWays (routable count) neighbours = table at square sound
  by_cases sourceInside : source.toNat < routable count
  · obtain ⟨row, rowFound⟩ : ∃ row, table[source.toNat]? = some row :=
      ⟨_, List.getElem?_eq_getElem (by rw [square.rows]; exact sourceInside)⟩
    have rowLength : row.length = routable count :=
      square.columns row (List.mem_of_getElem? rowFound)
    have real : ∀ hop, some hop ∈ row.map (·.hop) → hop ≠ noHop := by
      intro hop member
      obtain ⟨leg, legMember, hopEq⟩ := List.mem_map.mp member
      obtain ⟨column, columnInside, legEq⟩ := List.mem_iff_getElem.mp legMember
      have legFound : row[column]? = some leg := List.getElem?_eq_some_iff.mpr ⟨columnInside, legEq⟩
      have inside := sound.hops source.toNat sourceInside column (by omega) hop
        (by rw [wayAt_eq rowFound legFound]; exact hopEq)
      intro mark
      rw [mark] at inside
      exact absurd (Nat.lt_of_lt_of_le inside small) (by decide)
    have fits : 0 + (row.map (·.hop)).length ≤ 256 := by
      rw [List.length_map, rowLength]
      exact Nat.le_trans (by omega) (Nat.le_trans small (by decide))
    rw [rowFound, Option.map_some]
    dsimp only
    rw [rowHop?_gather (row.map (·.hop)) 0 fits real target, if_pos (Nat.zero_le _), Nat.sub_zero,
      hopAt, List.getElem?_map]
    by_cases targetInside : target.toNat < routable count
    · obtain ⟨row', rowFound', legFound⟩ := square.read sourceInside targetInside
      obtain rfl : row = row' := Option.some.inj (rowFound.symm.trans rowFound')
      rw [if_pos ⟨sourceInside, targetInside⟩, legFound]
      rfl
    · rw [if_neg (fun both => targetInside both.2),
        List.getElem?_eq_none (by omega : row.length ≤ target.toNat)]
      rfl
  · rw [if_neg (fun both => sourceInside both.1),
      List.getElem?_eq_none (by rw [square.rows]; omega : table.length ≤ source.toNat)]
    rfl

/-- The next box is a neighbour of the source and one step closer to the target. -/
theorem nextBox_rebuild_closer (count : Nat) (neighbours : BoxId → BoxId → Bool)
    {source target hop : BoxId} (distinct : source ≠ target)
    (answer : (rebuild count neighbours).nextBox (some source) (some target) = some hop) :
    neighbours source hop = true ∧
      ∃ rest, IsDistance neighbours (routable count) (rest + 1) source target ∧
        IsDistance neighbours (routable count) rest hop target := by
  have small : routable count ≤ unreached := Nat.min_le_right _ _
  obtain ⟨sound, through⟩ := shortestWays_sound neighbours small
  rw [nextBox_rebuild count neighbours distinct] at answer
  generalize wayAt (shortestWays (routable count) neighbours) = way at sound through answer
  split at answer
  next inside =>
    obtain ⟨sourceInside, targetInside⟩ := inside
    have apart : source.toNat ≠ target.toNat := fun same => distinct (UInt8.toNat_inj.mp same)
    have finite : (way source.toNat target.toNat).length ≠ unreached := by
      intro mark
      have none_ := (sound.bounded source.toNat sourceInside target.toNat targetInside).2 mark
      rw [none_] at answer
      cases answer
    obtain ⟨_, _, rest, lengthEq, _⟩ :=
      sound.realised source.toNat sourceInside target.toNat targetInside apart finite
    obtain ⟨hop', hopInside, hopEq, edge, hopLength⟩ :=
      sound.hop_length small through sourceInside targetInside lengthEq (lengthEq ▸ finite)
    obtain rfl : UInt8.ofNat hop' = hop := Option.some.inj (hopEq.symm.trans answer)
    have back : (UInt8.ofNat hop').toNat = hop' := toNat_ofNat_box small hopInside
    simp only [UInt8.ofNat_toNat] at edge
    refine ⟨edge, rest, ⟨?_, ?_⟩, ⟨?_, ?_⟩⟩
    · have trek := sound.trek small sourceInside targetInside finite
      simpa only [lengthEq, UInt8.ofNat_toNat] using trek
    · intro other trek
      have le := sound.le_of_trek through trek
      omega
    · have bound := (sound.bounded source.toNat sourceInside target.toNat targetInside).1
      have trek := sound.trek small hopInside targetInside (by omega)
      simpa only [hopLength, UInt8.ofNat_toNat] using trek
    · intro other trek
      have le := sound.le_of_trek through trek
      rw [back] at le
      omega
  next => cases answer

/-- A target that can be reached has a next box. -/
theorem exists_nextBox_rebuild (count : Nat) (neighbours : BoxId → BoxId → Bool)
    {source target : BoxId} (distinct : source ≠ target)
    (reachable : Reachable neighbours (routable count) source target) :
    ∃ hop, (rebuild count neighbours).nextBox (some source) (some target) = some hop := by
  have small : routable count ≤ unreached := Nat.min_le_right _ _
  obtain ⟨sound, through⟩ := shortestWays_sound neighbours small
  obtain ⟨_, trek⟩ := reachable
  have apart : source.toNat ≠ target.toNat := fun same => distinct (UInt8.toNat_inj.mp same)
  have finite := sound.lt_unreached small through trek
  obtain ⟨hop, _, _, _, hopEq, _⟩ :=
    sound.realised source.toNat trek.source_lt target.toNat trek.target_lt apart (by omega)
  rw [nextBox_rebuild count neighbours distinct, if_pos ⟨trek.source_lt, trek.target_lt⟩]
  exact ⟨_, hopEq⟩

/-! ## Following the answers -/

/-- The box after a number of hops toward a target. -/
def follow (matrix : Matrix) (target : BoxId) : Nat → BoxId → Option BoxId
  | 0, box => some box
  | hops + 1, box =>
    match matrix.nextBox (some box) (some target) with
    | some next => follow matrix target hops next
    | none => none

/-- Each hop of a rebuilt matrix brings the target one step closer. -/
theorem follow_rebuild (count : Nat) (neighbours : BoxId → BoxId → Bool) (target : BoxId)
    (hops : Nat) {rest : Nat} {source : BoxId}
    (distance : IsDistance neighbours (routable count) (hops + rest) source target) :
    ∃ box, follow (rebuild count neighbours) target hops source = some box ∧
      IsDistance neighbours (routable count) rest box target := by
  induction hops generalizing source with
  | zero => exact ⟨source, rfl, by rwa [Nat.zero_add] at distance⟩
  | succ hops ih =>
      have distinct : source ≠ target := by
        intro same
        subst same
        have none_ := distance.2 0 (.stay distance.1.source_lt)
        omega
      obtain ⟨hop, answer⟩ := exists_nextBox_rebuild count neighbours distinct ⟨_, distance.1⟩
      obtain ⟨_, closer, fromSource, fromHop⟩ :=
        nextBox_rebuild_closer count neighbours distinct answer
      have same := fromSource.unique distance
      obtain rfl : closer = hops + rest := by omega
      obtain ⟨box, followed, left⟩ := ih fromHop
      exact ⟨box, by simp only [follow, answer, followed], left⟩

/-- Following the answers visits no box twice on the way: each visited box has a distance of
its own. -/
theorem follow_rebuild_injective (count : Nat) (neighbours : BoxId → BoxId → Bool)
    {target source : BoxId} {length first second : Nat}
    (distance : IsDistance neighbours (routable count) length source target)
    (firstLe : first ≤ length) (secondLe : second ≤ length)
    (same : follow (rebuild count neighbours) target first source =
      follow (rebuild count neighbours) target second source) : first = second := by
  have atFirst : IsDistance neighbours (routable count) (first + (length - first)) source target := by
    rwa [Nat.add_sub_cancel' firstLe]
  have atSecond :
      IsDistance neighbours (routable count) (second + (length - second)) source target := by
    rwa [Nat.add_sub_cancel' secondLe]
  obtain ⟨box, followed, left⟩ := follow_rebuild count neighbours target first atFirst
  obtain ⟨box', followed', left'⟩ := follow_rebuild count neighbours target second atSecond
  obtain rfl : box = box' := Option.some.inj (followed.symm.trans (same.trans followed'))
  have level := left.unique left'
  omega

/-- **Rebuilt routing is shortest-path routing.**  Among the boxes that take part, a next box
is named exactly for targets that can be reached; it is a neighbour, one step closer to the
target; and following the answers arrives after as many hops as the distance, without
visiting a box twice.  About all other pairs of different boxes nothing is known. -/
theorem rebuild_routes_shortest (count : Nat) (neighbours : BoxId → BoxId → Bool)
    (source target : BoxId) (distinct : source ≠ target) :
    (source.toNat < min count 255 ∧ target.toNat < min count 255 →
      ((∃ hop, (rebuild count neighbours).nextBox (some source) (some target) = some hop) ↔
        Reachable neighbours (min count 255) source target) ∧
      (∀ hop, (rebuild count neighbours).nextBox (some source) (some target) = some hop →
        neighbours source hop = true ∧
          ∃ rest, IsDistance neighbours (min count 255) (rest + 1) source target ∧
            IsDistance neighbours (min count 255) rest hop target) ∧
      (∀ length, IsDistance neighbours (min count 255) length source target →
        follow (rebuild count neighbours) target length source = some target ∧
          ∀ first ≤ length, ∀ second ≤ length,
            follow (rebuild count neighbours) target first source =
              follow (rebuild count neighbours) target second source → first = second)) ∧
    (¬ (source.toNat < min count 255 ∧ target.toNat < min count 255) →
      (rebuild count neighbours).nextBox (some source) (some target) = none) := by
  refine ⟨fun _ => ⟨⟨?_, ?_⟩, ?_, ?_⟩, ?_⟩
  · rintro ⟨hop, answer⟩
    obtain ⟨_, rest, distance, _⟩ := nextBox_rebuild_closer count neighbours distinct answer
    exact ⟨rest + 1, distance.1⟩
  · intro reachable
    exact exists_nextBox_rebuild count neighbours distinct reachable
  · intro hop answer
    exact nextBox_rebuild_closer count neighbours distinct answer
  · intro length distance
    refine ⟨?_, fun first firstLe second secondLe same =>
      follow_rebuild_injective count neighbours distance firstLe secondLe same⟩
    obtain ⟨box, followed, arrived⟩ : ∃ box, _ ∧ IsDistance neighbours _ 0 box target :=
      follow_rebuild count neighbours target length distance
    cases arrived.1 with
    | stay _ => exact followed
  · intro outside
    rw [nextBox_rebuild count neighbours distinct]
    exact if_neg outside

/-- Boxes 0, 1 and 2 in a row; every other box stands alone. -/
def rowOfThree (first second : BoxId) : Bool :=
  (first, second) ∈ [((0 : BoxId), (1 : BoxId)), (1, 0), (1, 2), (2, 1)]

/-- The middle box leads from one end of the row to the other. -/
theorem rebuild_routes_rowOfThree :
    (rebuild 4 rowOfThree).nextBox (some 0) (some 2) = some 1 ∧ rowOfThree 0 1 = true ∧
      ∃ rest, IsDistance rowOfThree 4 (rest + 1) 0 2 ∧ IsDistance rowOfThree 4 rest 1 2 := by
  have answer : (rebuild 4 rowOfThree).nextBox (some 0) (some 2) = some 1 := by decide
  have routed := (rebuild_routes_shortest 4 rowOfThree 0 2 (by decide)).1 (by decide)
  exact ⟨answer, routed.2.1 1 answer⟩

end Adventure.Matrix
