import Rover.Proofs.Effects
import Rover.Proofs.Fractions

set_option autoImplicit false

namespace Rover

open Scalar

theorem clamp_saturate (n : Int) : clampTo 100 (saturate n) = clampTo 100 n := by
  simp only [clampTo, saturate]
  omega

section Quotients

theorem quotient_high (amount : Int) (high : 10000 ≤ amount) :
    clampTo 100 (amount.tdiv 100) = 100 := by
  rw [Int.tdiv_eq_ediv_of_nonneg (by omega), clampTo]
  omega

@[simp] theorem quotient_neg (amount : Int) :
    clampTo 100 ((-amount).tdiv 100) = -clampTo 100 (amount.tdiv 100) := by
  rw [Int.neg_tdiv]
  simp only [clampTo]
  omega

theorem quotient_low (amount : Int) (low : amount ≤ -10000) :
    clampTo 100 (amount.tdiv 100) = -100 := by
  have high := quotient_high (-amount) (by omega)
  rw [quotient_neg] at high
  omega

theorem quotient_saturated_ahead (sum factor : Int) (ahead : 0 < factor) :
    clampTo 100 ((saturate sum * factor).tdiv 100) = clampTo 100 ((sum * factor).tdiv 100) := by
  rcases lt_or_ge sum (-2147483648) with below | within
  · have cut : saturate sum = -2147483648 := by
      rw [saturate]
      omega
    rw [cut, quotient_low _ (by nlinarith), quotient_low _ (by nlinarith)]
  · rcases lt_or_ge 2147483647 sum with above | withinToo
    · have cut : saturate sum = 2147483647 := by
        rw [saturate]
        omega
      rw [cut, quotient_high _ (by nlinarith), quotient_high _ (by nlinarith)]
    · have kept : saturate sum = sum := by
        rw [saturate]
        omega
      rw [kept]

theorem quotient_saturated (sum factor : Int) :
    clampTo 100 ((saturate sum * factor).tdiv 100) = clampTo 100 ((sum * factor).tdiv 100) := by
  rcases lt_trichotomy factor 0 with back | rfl | ahead
  · have turned := quotient_saturated_ahead sum (-factor) (by omega)
    rw [mul_neg, mul_neg, quotient_neg, quotient_neg] at turned
    exact neg_injective turned
  · rw [mul_zero, mul_zero]
  · exact quotient_saturated_ahead sum factor ahead

end Quotients

section Rounding

variable (amount : ℤ) (product quotient : ℚ) (once : Rounded amount product)
  (twice : Rounded (product / 100) quotient)

include once twice

-- Below the whole speed the product is exact, and the quotient stays on its side of the next whole
-- number; from there on only the side of the whole speed counts.
theorem percent_rounded_nonneg (nonneg : 0 ≤ amount) :
    clampTo 100 (wholePart quotient) = clampTo 100 (amount.tdiv 100) := by
  have start : (0 : ℚ) ≤ product := by
    exact_mod_cast once.floor 0 (by norm_num) (by exact_mod_cast nonneg)
  have startToo : (0 : ℚ) ≤ quotient := by
    exact_mod_cast twice.floor 0 (by norm_num) (by push_cast; positivity)
  rw [whole_part_nonneg quotient startToo]
  rcases le_or_gt 10000 amount with beyond | short
  · have high : (10000 : ℤ) ≤ product := once.floor 10000 (by norm_num) (by exact_mod_cast beyond)
    have highToo : (100 : ℤ) ≤ ⌊quotient⌋ := by
      rw [Int.le_floor]
      exact twice.floor 100 (by norm_num) (by push_cast at high ⊢; linarith)
    rw [quotient_high amount beyond, clampTo]
    omega
  · have exact : product = amount :=
      rounded_whole amount product (by rw [abs_of_nonneg nonneg]; omega) once
    generalize reached : amount / 100 = whole
    have least : 100 * whole ≤ amount := by omega
    have most : amount ≤ 100 * whole + 99 := by omega
    have leastToo : (100 : ℚ) * whole ≤ product := by
      rw [exact]
      exact_mod_cast least
    have mostToo : product ≤ (100 : ℚ) * whole + 99 := by
      rw [exact]
      exact_mod_cast most
    have small : product ≤ 9999 := by
      rw [exact]
      exact_mod_cast (by omega : amount ≤ 9999)
    have low : (whole : ℚ) ≤ quotient := by
      refine twice.floor whole ?_ (by linarith)
      rw [abs_of_nonneg (by omega)]
      omega
    have high : quotient < whole + 1 := by
      have near := (abs_le.mp twice.near).2
      rw [abs_of_nonneg (by positivity)] at near
      norm_num at near
      linarith
    rw [Int.floor_eq_iff.mpr ⟨low, high⟩, Int.tdiv_eq_ediv_of_nonneg nonneg, reached]

theorem percent_rounded :
    clampTo 100 (wholePart quotient) = clampTo 100 (amount.tdiv 100) := by
  rcases le_or_gt 0 amount with ahead | back
  · exact percent_rounded_nonneg amount product quotient once twice ahead
  · have turned := percent_rounded_nonneg (-amount) (-product) (-quotient)
      (by exact_mod_cast rounded_neg _ _ once)
      (by rw [neg_div]; exact rounded_neg _ _ twice) (by omega)
    rw [whole_part_neg, quotient_neg] at turned
    simp only [clampTo] at turned ⊢
    omega

end Rounding

namespace Profile

section Products

variable (command speed : Int) (direction : Direction) (small : |command| ≤ 2 ^ 31)
  (smallToo : |speed| ≤ 2 ^ 31)

theorem sign_size : |direction.sign| = 1 := by
  cases direction <;> rfl

include small smallToo

theorem product_size : |command * (direction.sign * speed)| ≤ 2 ^ 62 := by
  rw [abs_mul, abs_mul, sign_size, one_mul]
  calc |command| * |speed| ≤ 2 ^ 31 * 2 ^ 31 :=
        mul_le_mul small smallToo (abs_nonneg _) (by norm_num)
    _ = 2 ^ 62 := by norm_num

theorem product_nears :
    Nears (Float.ofInt command * Float.ofInt direction.sign * Float.ofInt speed)
      (command * (direction.sign * speed) : ℤ) := by
  have turned : |command * direction.sign| ≤ 2 ^ 31 := by rwa [abs_mul, sign_size, mul_one]
  have way : Nears (Float.ofInt command * Float.ofInt direction.sign)
      (command * direction.sign : ℤ) := by
    rw [Int.cast_mul]
    apply mul_nears _ _ _ _ (of_int_reads _ (small.trans_lt (by norm_num)))
      (of_int_reads _ (by rw [sign_size]; norm_num))
    exact_mod_cast sized_whole 200 _ (turned.trans (by norm_num))
  have reads := whole_nears _ _ (turned.trans_lt (by norm_num)) way
  rw [← mul_assoc, Int.cast_mul]
  apply mul_nears _ _ _ _ reads (of_int_reads _ (smallToo.trans_lt (by norm_num)))
  rw [← Int.cast_mul, mul_assoc]
  have whole := product_size command speed direction small smallToo
  exact sized_whole 200 _ (whole.trans (by norm_num))

theorem scaled_exact : clampTo 100 (scaled Float command direction speed) =
    clampTo 100 ((command * (direction.sign * speed)).tdiv 100) := by
  obtain ⟨product, once, reads⟩ := product_nears command speed direction small smallToo
  have whole := product_size command speed direction small smallToo
  have sized := sized_rounded _ _ once 62 (sized_whole 62 _ whole)
  have hundred : Sized 7 (100 : ℤ) := sized_whole 7 100 (by norm_num)
  obtain ⟨quotient, twice, readsToo⟩ := div_nears _ _ _ _ reads hundred_reads (by norm_num)
    (sized_mono 70 200 _ (by norm_num) (sized_div 63 7 product 100 sized hundred))
  have fits : |quotient| < 2 ^ 64 := by
    have near := (rounded_bounds _ _ once).2
    have nearToo := (rounded_bounds _ _ twice).2
    have wholeToo : |((command * (direction.sign * speed) : ℤ) : ℚ)| ≤ 2 ^ 62 := by
      exact_mod_cast whole
    generalize |((command * (direction.sign * speed) : ℤ) : ℚ)| = size at near wholeToo
    rw [abs_div] at nearToo
    norm_num at nearToo wholeToo ⊢
    linarith
  change clampTo 100 (saturate (truncateFloat
    (Float.ofInt command * Float.ofInt direction.sign * Float.ofInt speed / 100.0))) = _
  rw [clamp_saturate, truncate_reads _ quotient readsToo fits]
  exact percent_rounded _ product quotient once twice

end Products

section SoftStart

theorem half_reads : Reads 0.5 (1 / 2) :=
  literal_reads _ 4503599627370496 (-53) (1 / 2) (by decide) (by decide +kernel) rfl (by norm_num)

theorem soft_start_reads (elapsed : UInt32) :
    ∃ power, Reads (softStart elapsed) power ∧ 1 / 4 ≤ power ∧ power ≤ 1 := by
  by_cases early : elapsed < softStartMillis
  · have small : elapsed.toNat < 500 := early
    have least : (0 : ℚ) ≤ (elapsed.toNat : ℤ) / 1000 := by positivity
    have most : ((elapsed.toNat : ℤ) : ℚ) / 1000 ≤ 499 / 1000 := by
      have counted : ((elapsed.toNat : ℤ) : ℚ) ≤ 499 := by
        exact_mod_cast (by omega : elapsed.toNat ≤ 499)
      linarith
    have thousand : Sized 10 (1000 : ℤ) := sized_whole 10 1000 (by norm_num)
    obtain ⟨share, near, reads⟩ := div_nears (Float.ofInt elapsed.toNat) _ _ _
      (of_int_reads _ (by rw [abs_of_nonneg (by omega)]; omega)) thousand_reads (by norm_num)
      (sized_mono 19 200 _ (by norm_num) (sized_div 9 10 _ _
        (sized_whole 9 _ (by rw [abs_of_nonneg (by omega)]; omega)) thousand))
    have low : 0 ≤ share := by
      exact_mod_cast near.floor 0 (by norm_num) (by exact_mod_cast least)
    have high : share ≤ 1 / 2 := by
      have above := (abs_le.mp near.near).2
      rw [abs_of_nonneg least] at above
      norm_num at above most ⊢
      linarith
    obtain ⟨power, nearToo, readsToo⟩ := add_nears _ _ _ _ half_reads reads (by
      right
      rw [abs_of_nonneg (by positivity)]
      constructor <;> norm_num <;> linarith)
    refine ⟨power, ?_, ?_, ?_⟩
    · rw [softStart, if_pos early]
      exact readsToo
    · have below := (abs_le.mp nearToo.near).1
      rw [abs_of_nonneg (by positivity)] at below
      norm_num at below
      linarith
    · exact_mod_cast nearToo.ceiling 1 (by norm_num) (by push_cast; linarith)
  · refine ⟨1, ?_, by norm_num, le_rfl⟩
    rw [softStart, if_neg early]
    exact one_reads

theorem whole_part_bound (q : ℚ) (limit : ℤ) (bound : |q| ≤ limit) : |wholePart q| ≤ limit := by
  have floor : ⌊|q|⌋ ≤ limit := by
    have := Int.floor_le_floor bound
    rwa [Int.floor_intCast] at this
  have nonneg : 0 ≤ ⌊|q|⌋ := Int.floor_nonneg.mpr (abs_nonneg q)
  rw [wholePart]
  split
  · rwa [abs_neg, abs_of_nonneg nonneg]
  · rwa [abs_of_nonneg nonneg]

theorem saturate_abs (n limit : Int) (small : |n| ≤ limit) (word : limit ≤ 2147483647) :
    |saturate n| ≤ limit := by
  rw [abs_le] at small ⊢
  rw [saturate]
  omega

theorem softened_bound (command : Int) (elapsed : UInt32) (small : |command| ≤ commandLimit) :
    |softened command (softStart elapsed : Float)| ≤ commandLimit := by
  obtain ⟨power, reads, low, high⟩ := soft_start_reads elapsed
  have limit : |(command : ℚ)| ≤ 75 := by exact_mod_cast small
  have less : |(command : ℚ) * power| ≤ (75 : ℤ) := by
    rw [abs_mul, abs_of_nonneg (by linarith : 0 ≤ power)]
    calc |(command : ℚ)| * power ≤ 75 * 1 := mul_le_mul limit high (by linarith) (by norm_num)
      _ = (75 : ℤ) := by norm_num
  have powerSize : Sized 2 power := by
    right
    rw [abs_of_nonneg (by linarith)]
    constructor <;> norm_num <;> linarith
  have commandSize : Sized 7 (command : ℚ) := by
    apply sized_whole
    exact le_trans small (by decide)
  obtain ⟨product, near, readsToo⟩ := mul_nears (Float.ofInt command) _ _ _
    (of_int_reads _ (lt_of_le_of_lt small (by decide))) reads
    (sized_mono 9 200 _ (by norm_num) (sized_mul 7 2 _ _ commandSize powerSize))
  have within : |product| ≤ (75 : ℤ) := by
    rw [abs_le] at less ⊢
    refine ⟨?_, near.ceiling 75 (by norm_num) less.2⟩
    exact_mod_cast near.floor (-75) (by norm_num) (by exact_mod_cast less.1)
  apply saturate_abs _ _ _ (by decide)
  change |truncateFloat (Float.ofInt command * softStart elapsed)| ≤ 75
  rw [truncate_reads _ product readsToo (within.trans_lt (by norm_num))]
  exact whole_part_bound product 75 within

end SoftStart

def exactPercent (command bias : Int) (direction : Direction) (speed : Int) : Int :=
  clampTo 100 (((command + bias) * direction.sign * speed).tdiv 100)

def exactTimedPercent (base bias : Int) (direction : Direction) : Int :=
  clampTo 100 ((base + bias) * direction.sign)

variable (command base bias speed : Int) (direction : Direction)

theorem exact_percent_sign :
    (0 ≤ (command + bias) * direction.sign * speed →
      0 ≤ exactPercent command bias direction speed) ∧
    ((command + bias) * direction.sign * speed ≤ 0 →
      exactPercent command bias direction speed ≤ 0) := by
  unfold exactPercent
  generalize (command + bias) * direction.sign * speed = amount
  constructor
  · intro ahead
    have kept := Int.tdiv_nonneg ahead (by norm_num : (0 : Int) ≤ 100)
    rw [clampTo]
    omega
  · intro back
    have kept := Int.tdiv_nonneg (a := -amount) (by omega) (by norm_num : (0 : Int) ≤ 100)
    rw [Int.neg_tdiv] at kept
    rw [clampTo]
    omega

theorem percent_exact (speedWord : Word speed) :
    clampTo 100 (scaled Float (saturate (command + bias)) direction speed) =
      exactPercent command bias direction speed := by
  have small : |saturate (command + bias)| ≤ 2 ^ 31 := by
    have bounds := saturate_bounds (command + bias)
    rw [abs_le]
    omega
  have smallToo : |speed| ≤ 2 ^ 31 := by
    rw [Word] at speedWord
    rw [abs_le]
    omega
  rw [scaled_exact _ speed direction small smallToo, quotient_saturated, ← mul_assoc, exactPercent]

theorem timed_percent_exact :
    clampTo 100 (saturate (saturate (base + bias) * direction.sign)) =
      exactTimedPercent base bias direction := by
  cases direction <;> simp only [exactTimedPercent, Direction.sign, clampTo, saturate] <;> omega

theorem clamp_twice (n : Int) : clampTo 100 (clampTo 100 n) = clampTo 100 n := by
  simp only [clampTo]
  omega

end Profile

theorem SpeedControl.run_clamped {α : Type} [Scalar α] (percents other : Both Int)
    (left : clampTo 100 percents.left = clampTo 100 other.left)
    (right : clampTo 100 percents.right = clampTo 100 other.right) :
    (run percents : Action (SpeedControl α) Unit) = run other := by
  have same : percents.map (clampTo 100) = other.map (clampTo 100) := by
    rw [Both.map, Both.map, left, right]
  funext control
  rw [run_apply, run_apply, planned, planned, same]

namespace Drive

def softenedCommands (commands : Both Int) (elapsed : UInt32) : Both Int :=
  commands.map fun command =>
    Profile.softened (clampTo Profile.commandLimit command) (Profile.softStart elapsed : Float)

def exactPercents (motion : Motion Float) (commands push : Both Int) : Both Int :=
  ⟨Profile.exactPercent commands.left push.left motion.heading.left motion.speed,
    Profile.exactPercent commands.right push.right motion.heading.right motion.speed⟩

def exactTimedPercents (heading : Heading) (base : Int) (push : Both Int) : Both Int :=
  Both.zipWith (Profile.exactTimedPercent base) push heading

theorem softened_commands_bound (commands : Both Int) (elapsed : UInt32) (side : Side) :
    |(softenedCommands commands elapsed).get side| ≤ Profile.commandLimit := by
  have clamped : ∀ command : Int, |clampTo Profile.commandLimit command| ≤ Profile.commandLimit :=
    fun command => abs_le.mpr (clamp_to_bounds Profile.commandLimit command (by decide))
  cases side <;> exact Profile.softened_bound _ elapsed (clamped _)

variable (gain : Float) (elapsed : UInt32) (progress : Both Float)

theorem run_percents_exact (motion : Motion Float) (commands : Both Int)
    (speedWord : Word motion.speed) :
    (SpeedControl.run (percents motion gain elapsed commands progress) :
      Action (SpeedControl Float) Unit) =
    SpeedControl.run (exactPercents motion (softenedCommands commands elapsed)
      (Profile.straightCorrection (errors motion progress) progress gain)) := by
  apply SpeedControl.run_clamped
  · exact (Profile.percent_exact _ _ _ _ speedWord).trans (Profile.clamp_twice _).symm
  · exact (Profile.percent_exact _ _ _ _ speedWord).trans (Profile.clamp_twice _).symm

theorem run_timed_percents_exact (config : DriveConfig Float) (heading : Heading) :
    (SpeedControl.run (timedPercents config heading elapsed progress) :
      Action (SpeedControl Float) Unit) =
    SpeedControl.run (exactTimedPercents heading
      (Profile.softened config.slowSpeed (Profile.softStart elapsed : Float))
      (Profile.progressCorrection progress config.straightGain)) := by
  apply SpeedControl.run_clamped
  · exact (Profile.timed_percent_exact _ _ _).trans (Profile.clamp_twice _).symm
  · exact (Profile.timed_percent_exact _ _ _).trans (Profile.clamp_twice _).symm

-- What a run is asked for is what unbounded whole numbers would ask for, whatever the correction
-- adds; so it never turns a wheel against the sign of its command.
theorem saturation_never_shows (command base bias speed : Int) (direction : Direction)
    (motion : Motion Float) (commands : Both Int) (config : DriveConfig Float) (heading : Heading)
    (speedWord : Word speed) (motionWord : Word motion.speed) :
    let percent := clampTo 100 (Profile.scaled Float (saturate (command + bias)) direction speed)
    (percent = Profile.exactPercent command bias direction speed ∧
      (0 ≤ (command + bias) * direction.sign * speed → 0 ≤ percent) ∧
      ((command + bias) * direction.sign * speed ≤ 0 → percent ≤ 0)) ∧
    clampTo 100 (saturate (saturate (base + bias) * direction.sign)) =
      Profile.exactTimedPercent base bias direction ∧
    (∀ side, |(softenedCommands commands elapsed).get side| ≤ Profile.commandLimit) ∧
    (SpeedControl.run (percents motion gain elapsed commands progress) :
        Action (SpeedControl Float) Unit) =
      SpeedControl.run (exactPercents motion (softenedCommands commands elapsed)
        (Profile.straightCorrection (errors motion progress) progress gain)) ∧
    (SpeedControl.run (timedPercents config heading elapsed progress) :
        Action (SpeedControl Float) Unit) =
      SpeedControl.run (exactTimedPercents heading
        (Profile.softened config.slowSpeed (Profile.softStart elapsed : Float))
        (Profile.progressCorrection progress config.straightGain)) := by
  intro percent
  have exact : percent = Profile.exactPercent command bias direction speed :=
    Profile.percent_exact command bias speed direction speedWord
  refine ⟨⟨exact, ?_⟩, Profile.timed_percent_exact base bias direction,
    softened_commands_bound commands elapsed,
    run_percents_exact gain elapsed progress motion commands motionWord,
    run_timed_percents_exact elapsed progress config heading⟩
  rw [exact]
  exact Profile.exact_percent_sign command bias speed direction

theorem steepest_correction_exact :
    Word (-2147483648) ∧
    Word (distanceMotion .standard (.straight .reverse) 65 1000.0 : Motion Float).speed ∧
    clampTo 100 (Profile.scaled Float (saturate (75 + 2147483647)) .reverse (-2147483648)) = 100 ∧
    clampTo 100 (saturate (saturate (2147483647 + 2147483647) * Direction.reverse.sign)) =
      -100 := by
  have small : Word (-2147483648) := by decide
  have smallToo :
      Word (distanceMotion .standard (.straight .reverse) 65 1000.0 : Motion Float).speed := by
    change Word 65
    decide
  have shown := saturation_never_shows 1000000000000.0 600 ⟨1.0, 0.0⟩ 75 2147483647 2147483647
    (-2147483648) .reverse (distanceMotion .standard (.straight .reverse) 65 1000.0) ⟨100, 100⟩
    .standard (.straight .reverse) small smallToo
  exact ⟨small, smallToo, shown.1.1.trans (by decide), shown.2.1.trans (by decide)⟩

end Drive

end Rover
