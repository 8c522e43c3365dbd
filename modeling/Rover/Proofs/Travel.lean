import Rover.Wheel
import Rover.Proofs.Exact

set_option autoImplicit false

namespace Rover

namespace Scalar

theorem whole_part_near (q : ℚ) : |q - wholePart q| < 1 := by
  have near : ∀ p : ℚ, 0 ≤ p → |p - wholePart p| < 1 := by
    intro p nonneg
    rw [whole_part_nonneg p nonneg, Int.self_sub_floor, abs_of_nonneg (Int.fract_nonneg p)]
    exact Int.fract_lt_one p
  rcases le_total 0 q with above | below
  · exact near q above
  · have turned := near (-q) (neg_nonneg.mpr below)
    rw [whole_part_neg, Int.cast_neg, sub_neg_eq_add, neg_add_eq_sub, abs_sub_comm] at turned
    exact turned

-- Less than one to the wrong side of zero does not make a whole.
theorem whole_part_of_near_nonneg (q : ℚ) (near : -1 < q) : 0 ≤ wholePart q := by
  rcases le_total 0 q with above | below
  · exact whole_part_of_nonneg q above
  · have none : ⌊-q⌋ = 0 := by
      rw [Int.floor_eq_zero_iff]
      exact ⟨neg_nonneg.mpr below, by linarith⟩
    have turned := whole_part_nonneg (-q) (neg_nonneg.mpr below)
    rw [whole_part_neg] at turned
    omega

theorem whole_part_of_near_nonpos (q : ℚ) (near : q < 1) : wholePart q ≤ 0 := by
  have turned := whole_part_of_near_nonneg (-q) (by linarith)
  rw [whole_part_neg] at turned
  omega

end Scalar

namespace Plant

theorem steady_rate_zero (plant : Plant) : (plant.steadyRate 0 : ℚ) = 0 := by
  cases plant with
  | constant top => simp [steadyRate, Scalar.ofInt]
  | proportional top lag => simp [steadyRate, Scalar.ofInt]

def top : Plant → Int
  | constant ticksPerSecond => ticksPerSecond
  | proportional ticksPerSecond _ => ticksPerSecond

theorem steady_rate_le (plant : Plant) (duty : Int) (bounded : |duty| ≤ maxDuty) :
    |(plant.steadyRate duty : ℚ)| ≤ |plant.top| := by
  cases plant with
  | constant top =>
      have sign : |duty.sign| ≤ 1 := by
        rcases Int.sign_trichotomy duty with ahead | still | back
        · rw [ahead, abs_one]
        · rw [still, abs_zero]
          exact zero_le_one
        · rw [back, abs_neg, abs_one]
      have less : |duty.sign * top| ≤ 1 * |top| := by
        rw [abs_mul]
        exact mul_le_mul_of_nonneg_right sign (abs_nonneg top)
      rw [one_mul] at less
      change |((duty.sign * top : ℤ) : ℚ)| ≤ ((|top| : ℤ) : ℚ)
      exact_mod_cast less
  | proportional top lag =>
      have share : |(duty : ℚ)| ≤ 1023 := by exact_mod_cast bounded
      have less : |(duty : ℚ)| * |(top : ℚ)| ≤ 1023 * |(top : ℚ)| :=
        mul_le_mul_of_nonneg_right share (abs_nonneg _)
      change |(duty : ℚ) * top / ((1023 : ℤ) : ℚ)| ≤ ((|top| : ℤ) : ℚ)
      rw [Int.cast_abs, abs_div, abs_mul, Int.cast_ofNat, abs_of_pos (by norm_num : (0 : ℚ) < 1023),
        div_le_iff₀ (by norm_num), mul_comm |(top : ℚ)|]
      exact less

end Plant

namespace Wheel

section Turning

variable {α : Type}

structure Turned (steps : Int) (before after : Wheel α) : Prop where
  ticks : after.ticks = before.ticks + steps
  rate : after.rate = before.rate
  fraction : after.fraction = before.fraction

theorem roll_many_turned (direction : Direction) (count : Nat) (wheel : Wheel α) :
    Turned (direction.sign * count) wheel (wheel.rollMany direction count) := by
  induction count generalizing wheel with
  | zero => exact ⟨by simp [rollMany], rfl, rfl⟩
  | succ count ih =>
      have rest := ih (wheel.roll direction)
      refine ⟨?_, rest.rate, rest.fraction⟩
      rw [rollMany, rest.ticks, roll]
      push_cast
      ring

theorem turn_turned (steps : Int) (wheel : Wheel α) : Turned steps wheel (wheel.turn steps) := by
  rw [turn]
  by_cases back : steps < 0
  · have turned := roll_many_turned .reverse steps.natAbs wheel
    rw [if_pos back]
    rwa [Direction.sign, show (-1) * (steps.natAbs : Int) = steps by omega] at turned
  · have turned := roll_many_turned .forward steps.natAbs wheel
    rw [if_neg back]
    rwa [Direction.sign, show 1 * (steps.natAbs : Int) = steps by omega] at turned

end Turning

-- What one millisecond does. The whole part of what is carried along and what the new rate adds to it
-- becomes ticks.
structure Advanced (plant : Plant) (response : ℚ) (duty : Int) (before after : Wheel ℚ) : Prop where
  rate : after.rate = before.rate + (plant.steadyRate duty - before.rate) * response
  ticks : after.ticks = before.ticks + Scalar.wholePart (before.fraction + after.rate / 1000)
  fraction : after.fraction = before.fraction + after.rate / 1000 -
    Scalar.wholePart (before.fraction + after.rate / 1000)

theorem advance_advanced (plant : Plant) (response : ℚ) (duty : Int) (wheel : Wheel ℚ) :
    Advanced plant response duty wheel (wheel.advance plant response duty) := by
  have literal : (1000.0 : ℚ) = 1000 := by norm_num
  have rate : (wheel.advance plant response duty).rate =
      wheel.rate + (plant.steadyRate duty - wheel.rate) * response :=
    (turn_turned _ _).rate
  refine ⟨rate, ?_, ?_⟩
  · rw [rate, ← literal]
    exact (turn_turned _ _).ticks
  · rw [rate, ← literal]
    exact (turn_turned _ _).fraction

section Advanced

variable (plant : Plant) (response : ℚ) (duty : Int) (before after : Wheel ℚ)
  (advanced : Advanced plant response duty before after)

include advanced

theorem advanced_travelled :
    after.ticks + after.fraction = before.ticks + before.fraction + after.rate / 1000 := by
  rw [advanced.ticks, advanced.fraction]
  push_cast
  ring

theorem advanced_carried : |after.fraction| < 1 := by
  rw [advanced.fraction]
  exact Scalar.whole_part_near _

section Response

variable (positive : 0 < response) (share : response ≤ 1)

include positive share

theorem advanced_rate : |after.rate| ≤ max |before.rate| |(plant.steadyRate duty : ℚ)| := by
  have mixed : after.rate = (1 - response) * before.rate + response * plant.steadyRate duty := by
    rw [advanced.rate]
    ring
  generalize (plant.steadyRate duty : ℚ) = steady at mixed ⊢
  have left := le_max_left |before.rate| |steady|
  have right := le_max_right |before.rate| |steady|
  calc |after.rate|
      ≤ |(1 - response) * before.rate| + |response * steady| := by
        rw [mixed]
        exact abs_add_le _ _
    _ = (1 - response) * |before.rate| + response * |steady| := by
        rw [abs_mul, abs_mul, abs_of_nonneg (sub_nonneg.mpr share), abs_of_pos positive]
    _ ≤ (1 - response) * max |before.rate| |steady| + response * max |before.rate| |steady| :=
        add_le_add (mul_le_mul_of_nonneg_left left (sub_nonneg.mpr share))
          (mul_le_mul_of_nonneg_left right positive.le)
    _ = max |before.rate| |steady| := by ring

theorem advanced_coasts (released : duty = 0) :
    (after.rate = 0 ∨ SignType.sign after.rate = SignType.sign before.rate) ∧
      |after.rate| ≤ |before.rate| := by
  have steady : (plant.steadyRate duty : ℚ) = 0 := by
    rw [released]
    exact plant.steady_rate_zero
  have kept : after.rate = (1 - response) * before.rate := by
    rw [advanced.rate, steady]
    ring
  refine ⟨?_, ?_⟩
  · rcases share.eq_or_lt with full | part
    · exact .inl (by rw [kept, full, sub_self, zero_mul])
    · refine .inr ?_
      rw [kept, sign_mul, sign_pos (sub_pos.mpr part), one_mul]
  · have bounded := advanced_rate plant response duty before after advanced positive share
    rwa [steady, abs_zero, max_eq_left (abs_nonneg _)] at bounded

end Response

section Carried

variable (carried : |before.fraction| < 1)

include carried

-- A fraction that was carried over from the other way is made up for before the first tick.
theorem advanced_ahead (ahead : 0 ≤ after.rate) : before.ticks ≤ after.ticks := by
  have low := (abs_lt.mp carried).1
  have whole := Scalar.whole_part_of_near_nonneg (before.fraction + after.rate / 1000) (by linarith)
  rw [advanced.ticks]
  omega

theorem advanced_back (back : after.rate ≤ 0) : after.ticks ≤ before.ticks := by
  have high := (abs_lt.mp carried).2
  have whole := Scalar.whole_part_of_near_nonpos (before.fraction + after.rate / 1000) (by linarith)
  rw [advanced.ticks]
  omega

theorem advanced_few (limit : ℚ) (slow : |after.rate| ≤ limit) :
    |((after.ticks - before.ticks : ℤ) : ℚ)| < limit / 1000 + 2 := by
  have moved : ((after.ticks - before.ticks : ℤ) : ℚ) =
      before.fraction + after.rate / 1000 - after.fraction := by
    rw [advanced.fraction, advanced.ticks]
    push_cast
    ring
  obtain ⟨low, high⟩ := abs_lt.mp carried
  obtain ⟨lowToo, highToo⟩ := abs_lt.mp
    (advanced_carried plant response duty before after advanced)
  obtain ⟨slowest, fastest⟩ := abs_le.mp slow
  rw [moved, abs_lt]
  constructor <;> linarith

theorem advanced_fits (positive : 0 < response) (share : response ≤ 1)
    (slow : |before.rate| ≤ 2 ^ 63) (slowToo : |(plant.steadyRate duty : ℚ)| ≤ 2 ^ 63) :
    |after.ticks - before.ticks| < 2 ^ 63 := by
  have slowest := (advanced_rate plant response duty before after advanced positive share).trans
    (max_le slow slowToo)
  have few := advanced_few plant response duty before after advanced carried _ slowest
  have fits : |((after.ticks - before.ticks : ℤ) : ℚ)| < 2 ^ 63 := few.trans (by norm_num)
  exact_mod_cast fits

end Carried

end Advanced

section Driving

variable {α : Type} [Scalar α]

def driven (plant : Plant) (response : α) : List Int → Wheel α → Wheel α
  | [], wheel => wheel
  | duty :: rest, wheel => driven plant response rest (wheel.advance plant response duty)

def rates (plant : Plant) (response : α) : List Int → Wheel α → List α
  | [], _ => []
  | duty :: rest, wheel =>
      let next := wheel.advance plant response duty
      next.rate :: rates plant response rest next

end Driving

section Run

variable (plant : Plant) (response : ℚ) (duties : List Int) (wheel : Wheel ℚ)

theorem driven_travelled : (wheel.driven plant response duties).ticks +
    (wheel.driven plant response duties).fraction =
      wheel.ticks + wheel.fraction + ((wheel.rates plant response duties).map (· / 1000)).sum := by
  induction duties generalizing wheel with
  | nil => simp [driven, rates]
  | cons duty rest ih =>
      have first := advanced_travelled plant response duty wheel _
        (advance_advanced plant response duty wheel)
      rw [driven, ih, first, rates, List.map_cons, List.sum_cons]
      ring

theorem driven_carried (carried : |wheel.fraction| < 1) :
    |(wheel.driven plant response duties).fraction| < 1 := by
  induction duties generalizing wheel with
  | nil => exact carried
  | cons duty rest ih =>
      exact ih _ (advanced_carried plant response duty wheel _
        (advance_advanced plant response duty wheel))

theorem driven_rate (positive : 0 < response) (share : response ≤ 1) :
    |(wheel.driven plant response duties).rate| ≤ |wheel.rate| ∨
      ∃ duty ∈ duties, |(wheel.driven plant response duties).rate| ≤
        |(plant.steadyRate duty : ℚ)| := by
  induction duties generalizing wheel with
  | nil => exact .inl le_rfl
  | cons duty rest ih =>
      have first := advanced_rate plant response duty wheel _
        (advance_advanced plant response duty wheel) positive share
      rw [driven]
      rcases ih (wheel.advance plant response duty) with slower | ⟨other, member, slower⟩
      · rcases le_max_iff.mp (slower.trans first) with kept | steady
        · exact .inl kept
        · exact .inr ⟨duty, List.mem_cons_self, steady⟩
      · exact .inr ⟨other, List.mem_cons_of_mem _ member, slower⟩

end Run

structure Conserves (plant : Plant) (response : ℚ) (duties : List Int) (rest wheel : Wheel ℚ) :
    Prop where
  travelled : wheel.ticks + wheel.fraction =
    ((rest.rates plant response duties).map (· / 1000)).sum
  carried : |wheel.fraction| < 1
  bounded : wheel.rate = 0 ∨ ∃ duty ∈ duties, |wheel.rate| ≤ |(plant.steadyRate duty : ℚ)|
  ahead : ∀ duty, 0 ≤ (wheel.advance plant response duty).rate →
    wheel.ticks ≤ (wheel.advance plant response duty).ticks
  back : ∀ duty, (wheel.advance plant response duty).rate ≤ 0 →
    (wheel.advance plant response duty).ticks ≤ wheel.ticks
  coasting : ((wheel.advance plant response 0).rate = 0 ∨
      SignType.sign (wheel.advance plant response 0).rate = SignType.sign wheel.rate) ∧
    |(wheel.advance plant response 0).rate| ≤ |wheel.rate|
  -- No millisecond takes more ticks than 64 bits hold, provided that they hold the top rate.
  counted : (∀ duty ∈ duties, |duty| ≤ maxDuty) → |plant.top| ≤ 2 ^ 63 →
    ∀ duty, |duty| ≤ maxDuty →
      |(wheel.advance plant response duty).ticks - wheel.ticks| < 2 ^ 63

theorem new_at_rest (pulses : Nat) (inverted : Bool) :
    (Wheel.new pulses inverted : Wheel ℚ).rate = 0 ∧
      (Wheel.new pulses inverted : Wheel ℚ).fraction = 0 := by
  have literal : (0.0 : ℚ) = 0 := by norm_num
  exact ⟨literal, literal⟩

theorem travel_conserved (plant : Plant) (response : ℚ) (positive : 0 < response)
    (share : response ≤ 1) (pulses : Nat) (inverted : Bool) (duties : List Int) :
    Conserves plant response duties (.new pulses inverted)
      (driven plant response duties (.new pulses inverted)) := by
  obtain ⟨slow, whole⟩ := new_at_rest pulses inverted
  have travelled := driven_travelled plant response duties (.new pulses inverted)
  have carried := driven_carried plant response duties (.new pulses inverted) (by simp [whole])
  have slower := driven_rate plant response duties (.new pulses inverted) positive share
  rw [whole] at travelled
  rw [slow, abs_zero] at slower
  generalize driven plant response duties (.new pulses inverted) = wheel at *
  have next := fun duty => advance_advanced plant response duty wheel
  refine ⟨?_, carried, ?_, ?_, ?_, ?_, ?_⟩
  · rw [travelled]
    simp [Wheel.new]
  · exact slower.imp_left fun none => abs_nonpos_iff.mp none
  · exact fun duty => advanced_ahead _ _ _ _ _ (next duty) carried
  · exact fun duty => advanced_back _ _ _ _ _ (next duty) carried
  · exact advanced_coasts _ _ _ _ _ (next 0) positive share rfl
  · intro bounded top duty within
    have limit : ∀ duty, |duty| ≤ maxDuty → |(plant.steadyRate duty : ℚ)| ≤ 2 ^ 63 :=
      fun duty within => (plant.steady_rate_le duty within).trans (by exact_mod_cast top)
    have slowest : |wheel.rate| ≤ 2 ^ 63 := by
      rcases slower with none | ⟨other, member, steady⟩
      · exact none.trans (by norm_num)
      · exact steady.trans (limit other (bounded other member))
    exact advanced_fits _ _ _ _ _ (next duty) carried positive share slowest (limit duty within)

def reversals : List Int := [1023, -1023, 0, 1023]

def reversing : Wheel ℚ := driven (.proportional 4092 150) (1 / 2) reversals (.new 4 true)

theorem reversing_conserved : (0 : ℚ) < 1 / 2 ∧ (1 / 2 : ℚ) ≤ 1 ∧
    reversing.ticks = 2 ∧ reversing.fraction = 1207 / 4000 ∧
    Conserves (.proportional 4092 150) (1 / 2) reversals (.new 4 true) reversing := by
  refine ⟨by norm_num, by norm_num, by decide +kernel, by decide +kernel, ?_⟩
  exact travel_conserved _ (1 / 2) (by norm_num) (by norm_num) 4 true reversals

end Wheel

end Rover
