import Rover.Proofs.Abreast
import Rover.Proofs.Fractions

/-!
The angles of two counts are far enough apart for their order to survive every rounding.
-/

set_option autoImplicit false

namespace Rover

open Scalar

def Points (x : Float) (n : Int) : Prop := (0.0 < x ↔ 0 < n) ∧ (x < 0.0 ↔ n < 0)

theorem points_of_sign (x : Float) (q : ℚ) (n : Int) (reads : Reads x q)
    (sign : SignType.sign q = SignType.sign n) : Points x n := by
  constructor
  · rw [positive_reads x q reads, ← sign_eq_one_iff, sign, sign_eq_one_iff]
  · rw [negative_reads x q reads, ← sign_eq_neg_one_iff, sign, sign_eq_neg_one_iff]

namespace Encoder

def pitch (pulses : Nat) : ℚ := 2 * piFraction / pulses

theorem pitch_bounds (pulses : Nat) (some_pulses : 1 ≤ pulses) (few : pulses < 2 ^ 32) :
    1 / 2 ^ 30 ≤ pitch pulses ∧ pitch pulses ≤ 2 ^ 3 := by
  have least : (1 : ℚ) ≤ pulses := by exact_mod_cast some_pulses
  have most : (pulses : ℚ) ≤ 2 ^ 32 := by exact_mod_cast few.le
  rw [pitch, piFraction, le_div_iff₀ (by linarith), div_le_iff₀ (by linarith)]
  constructor <;> linarith

theorem twice_rounded (exact once twice divisor : ℚ) (first : Rounded exact once)
    (second : Rounded (once / divisor) twice) :
    |twice - exact / divisor| ≤ |exact / divisor| / 2 ^ 50 := by
  have far : |once / divisor - exact / divisor| ≤ |exact / divisor| / 2 ^ 52 := by
    rw [← sub_div, abs_div, abs_div, div_right_comm]
    exact div_le_div_of_nonneg_right first.near (abs_nonneg divisor)
  have size : |once / divisor| ≤ 2 * |exact / divisor| := by
    rw [abs_div, abs_div, ← mul_div_assoc]
    exact div_le_div_of_nonneg_right (rounded_bounds exact once first).2 (abs_nonneg divisor)
  have nonneg := abs_nonneg (exact / divisor)
  calc |twice - exact / divisor| ≤
        |twice - once / divisor| + |once / divisor - exact / divisor| := abs_sub_le _ _ _
    _ ≤ |once / divisor| / 2 ^ 52 + |exact / divisor| / 2 ^ 52 := add_le_add second.near far
    _ ≤ |exact / divisor| / 2 ^ 50 := by linarith

theorem arc_nears (count : Int) (small : |count| ≤ 2 ^ 31) :
    Nears (Float.ofInt count * 2.0 * pi) (count * 2 * piFraction) ∧
      Sized 34 (count * 2 * piFraction) := by
  have twofold : |count * 2| ≤ 2 ^ 32 := by
    rw [abs_le] at small ⊢
    omega
  have half : Sized 32 (count * 2) := by exact_mod_cast sized_whole 32 (count * 2) twofold
  have doubled : Reads (Float.ofInt count * 2.0) (count * 2) := by
    have nears := mul_nears _ _ _ _ (of_int_reads count (by omega)) two_reads
      (sized_mono 32 200 _ (by omega) half)
    exact_mod_cast whole_nears _ (count * 2) (by omega) (by exact_mod_cast nears)
  have arc : Sized 34 (count * 2 * piFraction) :=
    sized_mul 32 2 _ _ half (.inr (by rw [piFraction]; norm_num))
  exact ⟨mul_nears _ _ _ _ doubled pi_reads (sized_mono 34 200 _ (by omega) arc), arc⟩

variable (encoder : Encoder) (some_pulses : 1 ≤ encoder.pulses) (few : encoder.pulses < 2 ^ 32)

include some_pulses few

theorem radians_near : ∃ angle, Reads (encoder.radians : Float) angle ∧
    |angle - encoder.position.toInt * pitch encoder.pulses| ≤ pitch encoder.pulses / 4 := by
  have low := encoder.position.le_toInt
  have high := encoder.position.toInt_lt
  rw [radians]
  generalize encoder.position.toInt = count at *
  have small : |count| ≤ 2 ^ 31 := abs_le.mpr ⟨by omega, by omega⟩
  have gear : (encoder.pulses : ℚ) ≠ 0 := by exact_mod_cast (by omega : encoder.pulses ≠ 0)
  obtain ⟨⟨once, first, turned⟩, arc⟩ := arc_nears count small
  have divisor : Sized 32 encoder.pulses :=
    sized_whole 32 encoder.pulses (abs_le.mpr ⟨by omega, by omega⟩)
  obtain ⟨twice, second, reads⟩ := div_nears _ _ _ _ turned
    (of_nat_reads encoder.pulses (by omega)) gear
    (sized_mono 67 200 _ (by omega) (sized_div 35 32 _ _ (sized_rounded _ _ first 34 arc) divisor))
  refine ⟨twice, reads, ?_⟩
  have near := twice_rounded _ _ _ _ first second
  have exact : (count : ℚ) * 2 * piFraction / encoder.pulses = count * pitch encoder.pulses := by
    rw [pitch]
    ring
  have positive : 0 < pitch encoder.pulses :=
    lt_of_lt_of_le (by positivity) (pitch_bounds _ some_pulses few).1
  have counted : |(count : ℚ)| ≤ 2 ^ 31 := by exact_mod_cast small
  rw [exact, abs_mul, abs_of_pos positive] at near
  nlinarith

end Encoder

theorem turn_kept (pitch turn : ℚ) (n : Int) (least : 1 / 2 ^ 30 ≤ pitch) (most : pitch ≤ 2 ^ 3)
    (moved : n ≠ 0) (small : |n| ≤ 2 ^ 32) (near : |turn - n * pitch| ≤ pitch / 2) :
    Sized 36 turn ∧ SignType.sign turn = SignType.sign n := by
  have off := abs_le.mp near
  have small : |(n : ℚ)| ≤ 2 ^ 32 := by exact_mod_cast small
  have range := abs_le.mp small
  rcases lt_or_gt_of_ne moved with back | ahead
  · have unit : (n : ℚ) ≤ -1 := by exact_mod_cast Int.le_sub_one_of_lt back
    have above : turn ≤ -(pitch / 2) := by nlinarith
    have below : -(2 ^ 32 * 2 ^ 3 + 2 ^ 3) ≤ turn := by nlinarith
    have negative : turn < 0 := by linarith
    refine ⟨.inr ?_, (sign_neg negative).trans (sign_neg back).symm⟩
    rw [abs_of_neg negative]
    constructor <;> linarith
  · have unit : (1 : ℚ) ≤ n := by exact_mod_cast ahead
    have below : pitch / 2 ≤ turn := by nlinarith
    have above : turn ≤ 2 ^ 32 * 2 ^ 3 + 2 ^ 3 := by nlinarith
    have positive : 0 < turn := by linarith
    refine ⟨.inr ?_, (sign_pos positive).trans (sign_pos ahead).symm⟩
    rw [abs_of_pos positive]
    constructor <;> linarith

section Sampling

variable (first second : Encoder) (same : second.pulses = first.pulses)
  (some_pulses : 1 ≤ first.pulses) (few : first.pulses < 2 ^ 32)
  (moved : second.position.toInt ≠ first.position.toInt)

include same some_pulses few moved

theorem turn_nears : ∃ turn, Nears (second.radians - first.radians : Float) turn ∧
    Sized 36 turn ∧
    SignType.sign turn = SignType.sign (second.position.toInt - first.position.toInt) := by
  obtain ⟨before, reads, near⟩ := first.radians_near some_pulses few
  obtain ⟨after, readsToo, nearToo⟩ := second.radians_near (by rwa [same]) (by rwa [same])
  obtain ⟨least, most⟩ := Encoder.pitch_bounds first.pulses some_pulses few
  have low := first.position.le_toInt
  have high := first.position.toInt_lt
  have lowToo := second.position.le_toInt
  have highToo := second.position.toInt_lt
  rw [same] at nearToo
  generalize Encoder.pitch first.pulses = pitch at *
  generalize first.position.toInt = count at *
  generalize second.position.toInt = countToo at *
  have off : |after - before - (countToo - count : ℤ) * pitch| ≤ pitch / 2 := by
    rw [abs_le] at near nearToo ⊢
    push_cast
    constructor <;> linarith
  obtain ⟨sized, sign⟩ := turn_kept pitch (after - before) (countToo - count) least most (by omega)
    (abs_le.mpr ⟨by omega, by omega⟩) off
  exact ⟨after - before, sub_nears _ _ _ _ readsToo reads (sized_mono 36 200 _ (by omega) sized),
    sized, sign⟩

theorem speed_points (window : Nat) (lasting : 1 ≤ window) (short : window < 2 ^ 32) (way : Int)
    (shown : SignType.sign (second.position.toInt - first.position.toInt) = SignType.sign way) :
    Points ((second.radians - first.radians) / (Float.ofInt window / 1000.0)) way := by
  obtain ⟨turn, ⟨turned, next, reads⟩, sized, sign⟩ :=
    turn_nears first second same some_pulses few moved
  obtain ⟨period, readsToo, length, positive⟩ :=
    seconds_reads window (abs_le.mpr ⟨by omega, by omega⟩)
  have forward : 0 < period := by
    rw [← sign_eq_one_iff, positive, sign_eq_one_iff]
    omega
  have rate : Sized 80 (turned / period) :=
    sized_div 37 43 _ _ (sized_rounded _ _ next 36 sized) length
  obtain ⟨speed, last, came⟩ := div_nears _ _ _ _ reads readsToo forward.ne'
    (sized_mono 80 200 _ (by omega) rate)
  apply points_of_sign _ speed _ came
  rw [sign_rounded _ _ last, div_eq_mul_inv, sign_mul, sign_pos (inv_pos.mpr forward), mul_one,
    sign_rounded _ _ next, sign, shown]

end Sampling

-- The way that a counter shows for a travel of fewer than 2 ^ 31 ticks: the other way when it
-- wraps.
def shownWay (before : Int32) (travel : Int) : Int :=
  if Word (before.toInt + travel) then travel else -travel

theorem counted_way (before after : Int32) (travel : Int)
    (counted : after = before + Int32.ofInt travel) (moved : 0 < |travel|)
    (short : |travel| < 2 ^ 31) :
    after.toInt ≠ before.toInt ∧
      SignType.sign (after.toInt - before.toInt) = SignType.sign (shownWay before travel) := by
  have low := before.le_toInt
  have high := before.toInt_lt
  have range := abs_lt.mp short
  have went := abs_pos.mp moved
  have stands : after.toInt = (before.toInt + travel).bmod 4294967296 := by
    rw [counted, Int32.toInt_add, Int32.toInt_ofInt]
    exact Int.add_bmod_bmod
  rw [Int.bmod_def] at stands
  by_cases fits : Word (before.toInt + travel)
  · rw [shownWay, if_pos fits]
    rw [Word] at fits
    have straight : after.toInt - before.toInt = travel := by omega
    rw [straight]
    exact ⟨by omega, rfl⟩
  · rw [shownWay, if_neg fits]
    rw [Word] at fits
    rcases lt_or_gt_of_ne went with back | ahead
    · rw [sign_pos (show 0 < after.toInt - before.toInt by omega), sign_pos (by omega)]
      exact ⟨by omega, rfl⟩
    · rw [sign_neg (show after.toInt - before.toInt < 0 by omega), sign_neg (by omega)]
      exact ⟨by omega, rfl⟩

variable {α : Type}

theorem Chassis.accounts_between (mark : Mark) (before after : Chassis α) (side : Side)
    (accounts : before.Accounts mark) (accountsToo : after.Accounts mark) :
    (after.wheels.get side).encoder.position = (before.wheels.get side).encoder.position +
      Int32.ofInt ((after.wheels.get side).ticks - (before.wheels.get side).ticks) := by
  rw [(accountsToo side).counted, (accounts side).counted, Int32.add_assoc, ← Int32.ofInt_add]
  congr 2
  omega

variable [Scalar α]

theorem SpeedControl.run_regulates (percents : Both Int) (control : SpeedControl α) (side : Side) :
    ((Action.final (run percents) control).states.get side).previousError =
      Scalar.ofInt (clampTo 100 (percents.get side)) * (control.config.maxSpeed / 100.0) -
        (control.speeds control.config.intervalMillis).1.get side := by
  rw [final_run, drive_states]
  cases side <;> rfl

namespace Drive

theorem reachable_pulses (drive : Drive α) (reached : drive.Reachable) (side : Side) :
    1 ≤ (drive.world.wheels.get side).encoder.pulses := by
  induction reached with
  | fresh => cases side <;> exact Nat.le_max_right _ _
  | step drive step _ ih => exact ih.trans_eq (step.act_gears drive side).symm

variable (drive : Drive Float) (reached : drive.Reachable) (side : Side)
  (few : (drive.world.wheels.get side).encoder.pulses < 2 ^ 32)

include reached few

-- What a speed says about a travel of fewer than 2 ^ 31 ticks in its window, be it reported for
-- both wheels or for one, or be it what a run takes off the speed that it asks for: it has the sign
-- of the travel, except that a counter that wraps in the window turns the sign over.
theorem speed_shows_way (millis : Nat) (brief : millis < 2 ^ 32) (travel : Int)
    (travelled : (drive.speed.speeds millis).2.world.ticks.get side =
      drive.world.ticks.get side + travel) (moved : 0 < |travel|) (short : |travel| < 2 ^ 31) :
    let way := shownWay (drive.world.positions.get side) travel
    Points ((drive.speed.speeds millis).1.get side) way ∧
    Points (drive.speed.speedOf side millis).1 way ∧
    (millis = drive.speed.config.intervalMillis → ∀ percents, ∃ heard, Points heard way ∧
      ((Action.final (SpeedControl.run percents) drive.speed).states.get side).previousError =
        Scalar.ofInt (clampTo 100 (percents.get side)) * (drive.speed.config.maxSpeed / 100.0) -
          heard) := by
  intro way
  obtain ⟨mark, accounts⟩ := drive.reachable_accounts reached
  have waited := World.rolls_delay (max millis 1) drive.world
  have accountsToo := (World.accounted_rolls mark _ _ accounts waited).reached
  have same := World.evolves_gears _ _ (World.evolves_of_rolls _ _ waited) side
  have counted := Chassis.accounts_between mark _ _ side accounts accountsToo
  have ticked : ((drive.world.delay (max millis 1)).wheels.get side).ticks -
      (drive.world.wheels.get side).ticks = travel := by
    cases side <;> exact Int.sub_eq_iff_eq_add'.mpr travelled
  rw [ticked] at counted
  obtain ⟨apart, sign⟩ := counted_way _ _ _ counted moved short
  have points := speed_points _ _ same (reachable_pulses drive reached side) few apart
    (max millis 1) (Nat.le_max_right _ _) (by omega) _ sign
  have shown : Points ((drive.speed.speeds millis).1.get side) way := by
    cases side <;> exact points
  refine ⟨shown, shown, ?_⟩
  rintro rfl percents
  exact ⟨_, shown, SpeedControl.run_regulates percents drive.speed side⟩

omit reached few

def brimming : Drive Float :=
  (parked 2376 1000).after [.preset ⟨2147483647, 0⟩, .drive ⟨500, 500⟩]

theorem brimming_shows_way : brimming.Reachable ∧
    (∀ side, (brimming.world.wheels.get side).encoder.pulses < 2 ^ 32 ∧
      (brimming.speed.speeds 1).2.world.ticks.get side = brimming.world.ticks.get side + 1) ∧
    Points (brimming.speed.speeds 1).1.left (-1) ∧ Points (brimming.speed.speeds 1).1.right 1 := by
  have reached : brimming.Reachable := reachable_after _ _ (parked_reachable 2376 1000)
  have few : ∀ side, (brimming.world.wheels.get side).encoder.pulses < 2 ^ 32 := by
    intro side
    cases side <;> decide +kernel
  have travelled : ∀ side, (brimming.speed.speeds 1).2.world.ticks.get side =
      brimming.world.ticks.get side + 1 := by
    intro side
    cases side <;> decide +kernel
  exact ⟨reached, fun side => ⟨few side, travelled side⟩,
    (speed_shows_way brimming reached .left (few .left) 1 (by decide) 1 (travelled .left)
      (by decide) (by decide)).1,
    (speed_shows_way brimming reached .right (few .right) 1 (by decide) 1 (travelled .right)
      (by decide) (by decide)).1⟩

theorem wrapped_speed_backward : brimming.Reachable ∧
    (brimming.speed.speeds 1).2.world.ticks.left = brimming.world.ticks.left + 1 ∧
    (brimming.speed.speeds 1).1.left < 0.0 := by
  exact ⟨reachable_after _ _ (parked_reachable 2376 1000), by decide +kernel, by decide +kernel⟩

end Drive

end Rover
