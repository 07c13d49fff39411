import Adventure.Proofs.Geometry.Nearest

/-!
# Ramps by height

A ramp by height is a straight line through two reference points, with quotients rounded toward
zero and the result moved into the range of a byte.  Rounding and moving keep the order of
numbers, so the scale runs steadily from one reference point to the other and beyond.  At the
reference points themselves nothing is rounded.
-/

set_option autoImplicit false

namespace Adventure

variable {Allowed : Fault → Prop}

open Word

namespace ScaleRamp

variable {y1 scale1 y2 scale2 y lower : Int}

/-! ## The line -/

theorem plainAlong_first : plainAlong scale1 scale2 y1 y2 y1 = scale1 := by
  rw [plainAlong, Int.sub_self, Int.mul_zero, Int.zero_tdiv, Int.zero_add]

theorem plainAlong_second (apart : y1 ≠ y2) : plainAlong scale1 scale2 y1 y2 y2 = scale2 := by
  rw [plainAlong, Int.mul_tdiv_cancel _ (by omega)]
  omega

/-- A line that is turned upside down falls where it rose. -/
theorem plainAlong_neg (scale1 scale2 y1 y2 y : Int) :
    plainAlong (-scale1) (-scale2) y1 y2 y = -plainAlong scale1 scale2 y1 y2 y := by
  have turned : -scale2 - -scale1 = -(scale2 - scale1) := by omega
  rw [plainAlong, plainAlong, turned, Int.neg_mul, Int.neg_tdiv]
  omega

/-- A line through two reference points rises if the lower one has the greater scale, whichever of
them comes first. -/
theorem plainAlong_le (rising : 0 ≤ (scale2 - scale1) * (y2 - y1)) (apart : y1 ≠ y2)
    (le : y ≤ lower) :
    plainAlong scale1 scale2 y1 y2 y ≤ plainAlong scale1 scale2 y1 y2 lower := by
  refine Int.add_le_add_right ?_ scale1
  rcases Int.lt_or_gt_of_ne apart with forth | back
  · have up : 0 ≤ scale2 - scale1 := nonneg_of_mul_nonneg_left rising (by omega)
    exact Int.tdiv_le_tdiv (by omega) (Int.mul_le_mul_of_nonneg_left (by omega) up)
  · rw [← neg_mul_neg] at rising
    have up : 0 ≤ -(scale2 - scale1) := nonneg_of_mul_nonneg_left rising (by omega)
    -- both parts of the quotient change their sign
    rw [← Int.neg_tdiv_neg, ← Int.neg_tdiv_neg ((scale2 - scale1) * (lower - y1)), ← Int.neg_mul,
      ← Int.neg_mul]
    exact Int.tdiv_le_tdiv (by omega) (Int.mul_le_mul_of_nonneg_left (by omega) up)

theorem plainAlong_ge (falling : (scale2 - scale1) * (y2 - y1) ≤ 0) (apart : y1 ≠ y2)
    (le : y ≤ lower) :
    plainAlong scale1 scale2 y1 y2 lower ≤ plainAlong scale1 scale2 y1 y2 y := by
  have turned : 0 ≤ (-scale2 - -scale1) * (y2 - y1) := by
    have signs : -scale2 - -scale1 = -(scale2 - scale1) := by omega
    rw [signs, Int.neg_mul]
    omega
  have rises := plainAlong_le turned apart le
  rw [plainAlong_neg, plainAlong_neg] at rises
  omega

/-! ## The scale -/

theorem clampByte_le {a b : Int} (le : a ≤ b) : clampByte a ≤ clampByte b := by
  have first := toNat_clampByte a
  have second := toNat_clampByte b
  rw [UInt8.le_iff_toNat_le]
  omega

/-- A scale for every height that runs steadily through two reference points: it never decreases on
the way down if scales and heights differ in the same direction, and never increases if they
differ in opposite directions. -/
structure RunsSteadily (y1 scale1 y2 scale2 : Int) (scale : Int → UInt8) : Prop where
  rising : 0 ≤ (scale2 - scale1) * (y2 - y1) → ∀ y lower, y ≤ lower → scale y ≤ scale lower
  falling : (scale2 - scale1) * (y2 - y1) ≤ 0 → ∀ y lower, y ≤ lower → scale lower ≤ scale y
  first : scale y1 = clampByte scale1
  second : scale y2 = clampByte scale2
  between : ∀ y, Between y1 y2 y →
    Between (clampByte scale1).toNat (clampByte scale2).toNat (scale y).toNat

/-- The scale at a height, in whole numbers of any size. -/
def plainScale (y1 scale1 y2 scale2 y : Int) : UInt8 :=
  clampByte (plainAlong scale1 scale2 y1 y2 (max y 0))

theorem plainScale_runsSteadily (y1Up : 0 ≤ y1) (y2Up : 0 ≤ y2) (apart : y1 ≠ y2) :
    RunsSteadily y1 scale1 y2 scale2 (plainScale y1 scale1 y2 scale2) := by
  have rising (rising : 0 ≤ (scale2 - scale1) * (y2 - y1)) (y lower : Int) (le : y ≤ lower) :
      plainScale y1 scale1 y2 scale2 y ≤ plainScale y1 scale1 y2 scale2 lower :=
    clampByte_le (plainAlong_le rising apart (by omega))
  have falling (falling : (scale2 - scale1) * (y2 - y1) ≤ 0) (y lower : Int) (le : y ≤ lower) :
      plainScale y1 scale1 y2 scale2 lower ≤ plainScale y1 scale1 y2 scale2 y :=
    clampByte_le (plainAlong_ge falling apart (by omega))
  have first : plainScale y1 scale1 y2 scale2 y1 = clampByte scale1 := by
    rw [plainScale, max_eq_left y1Up, plainAlong_first]
  have second : plainScale y1 scale1 y2 scale2 y2 = clampByte scale2 := by
    rw [plainScale, max_eq_left y2Up, plainAlong_second apart]
  refine ⟨rising, falling, first, second, fun y between => ?_⟩
  rw [← first, ← second]
  simp only [UInt8.le_iff_toNat_le] at rising falling
  rcases Int.le_total 0 ((scale2 - scale1) * (y2 - y1)) with up | down
  · rcases Int.le_total y1 y2 with forth | back
    · have low := rising up y1 y (by omega)
      have high := rising up y y2 (by omega)
      omega
    · have low := rising up y2 y (by omega)
      have high := rising up y y1 (by omega)
      omega
  · rcases Int.le_total y1 y2 with forth | back
    · have low := falling down y1 y (by omega)
      have high := falling down y y2 (by omega)
      omega
    · have low := falling down y2 y (by omega)
      have high := falling down y y1 (by omega)
      omega

theorem scaleAt_vertical (y1Fits : InRange y1) (scale1Fits : InRange scale1) (y2Fits : InRange y2)
    (scale2Fits : InRange scale2) (apart : y1 ≠ y2) (x : Int) (yFits : Fits32 y) :
    ((vertical y1 scale1 y2 scale2).scaleAt x y).Gives Allowed
      (· = plainScale y1 scale1 y2 scale2 y) := by
  simp only [scaleAt, vertical, true_and, if_neg apart, Checked.gives_bind, if_true,
    Checked.gives_pure]
  refine (along_gives scale1Fits scale2Fits y1Fits y2Fits apart (by omega)).mono ?_
  rintro _ ⟨rfl, -⟩
  rfl

/-- **Scales are monotone along a ramp, exact at its ends and never out of range.**  A ramp by height
between two different heights from zero on, with all values in words of 16 bits, signed or not,
gives a scale at every place; the scale depends on the height alone and runs steadily through both
reference points.  In a room whose ramps keep to such words, every place of every box has a scale
between 1 and 255. -/
theorem scales_steady :
    (∀ {y1 scale1 y2 scale2 : Int}, InRange y1 → InRange scale1 → InRange y2 → InRange scale2 →
      0 ≤ y1 → 0 ≤ y2 → y1 ≠ y2 →
      ∃ scale : Int → UInt8, RunsSteadily y1 scale1 y2 scale2 scale ∧
        ∀ x y, Fits32 y → (vertical y1 scale1 y2 scale2).scaleAt x y = .ok (scale y)) ∧
    ∀ (room : Room) (id : Option BoxId) (p : Point), (∀ ramp ∈ room.ramps.cells, ramp.Narrow) →
      Fits32 p.x → Fits32 p.y →
      ∃ scale, room.boxScale id p = .ok scale ∧ 1 ≤ scale ∧ scale ≤ 255 := by
  constructor
  · intro y1 scale1 y2 scale2 y1Fits scale1Fits y2Fits scale2Fits y1Up y2Up apart
    refine ⟨_, plainScale_runsSteadily y1Up y2Up apart, fun x y yFits => ?_⟩
    obtain ⟨_, found, rfl⟩ := Checked.gives_false_iff.mp
      (scaleAt_vertical y1Fits scale1Fits y2Fits scale2Fits apart x yFits)
    exact found
  · intro room id p ramps xFits yFits
    have positive : (room.boxScale id p).Gives (fun _ => False) _ :=
      Room.boxScale_positive ramps xFits yFits
    obtain ⟨scale, found, positive⟩ := Checked.gives_false_iff.mp positive
    exact ⟨scale, found, positive, UInt8.le_iff_toNat_le.mpr (Nat.le_of_lt_succ scale.toNat_lt)⟩

/-- A ramp whose first reference point is the lower one, from beyond one end of the range to beyond
the other, and a box that is scaled by it. -/
theorem scales_steady_upward :
    let upward : ScaleRamp := .vertical 200 400 100 (-30)
    let floor : WalkBox := ⟨⟨⟨0, 0⟩, ⟨9, 0⟩, ⟨9, 300⟩, ⟨0, 300⟩⟩, 0, .none, .slot 3⟩
    let hall : Room := (Room.plain 1 [floor] .empty).setRamp 3 upward
    upward.Narrow ∧ (∀ ramp ∈ hall.ramps.cells, ramp.Narrow) ∧
      (∃ scale : Int → UInt8, RunsSteadily 200 400 100 (-30) scale ∧
        scale 200 = 255 ∧ scale 100 = 1 ∧ scale 120 ≤ scale 130 ∧
        ∀ x y, Fits32 y → upward.scaleAt x y = .ok (scale y)) ∧
      ∃ scale, hall.boxScale (some 0) ⟨5, 130⟩ = .ok scale ∧ scale = 99 ∧ 1 ≤ scale ∧
        scale ≤ 255 := by
  intro upward floor hall
  obtain ⟨steady, bounded⟩ := scales_steady
  have narrow : upward.Narrow :=
    ⟨by decide, by decide, by decide, by decide, by decide, by decide⟩
  have blank : ScaleRamp.blank.Narrow :=
    ⟨by decide, by decide, by decide, by decide, by decide, by decide⟩
  have ramps : ∀ ramp ∈ hall.ramps.cells, ramp.Narrow := by
    intro ramp member
    rcases List.mem_or_eq_of_mem_set member with unset | rfl
    · rw [List.eq_of_mem_replicate unset]
      exact blank
    · exact narrow
  obtain ⟨scale, runs, values⟩ := steady narrow.y1 narrow.scale1 narrow.y2 narrow.scale2
    (by decide) (by decide) (by decide)
  obtain ⟨here, found, low, high⟩ := bounded hall (some 0) ⟨5, 130⟩ ramps (by decide) (by decide)
  have answer : hall.boxScale (some 0) ⟨5, 130⟩ = .ok 99 := by decide
  cases found.symm.trans answer
  exact ⟨narrow, ramps,
    ⟨scale, runs, runs.first, runs.second, runs.rising (by decide) 120 130 (by decide), values⟩,
    99, answer, rfl, low, high⟩

end ScaleRamp

end Adventure
