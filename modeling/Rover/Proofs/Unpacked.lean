import Mathlib
import Rover.Bridge

/-!
Rounding works on the size of a number and leaves the sign alone, so operations carry a turn of
their arguments over to their results. Zero counts as its own turn.
-/

set_option autoImplicit false

namespace Rover

namespace Direction

def times : Direction → Direction → Direction
  | forward, other => other
  | reverse, other => other.flip

theorem times_forward (direction : Direction) : direction.times .forward = direction := by
  cases direction <;> rfl

end Direction

namespace Scalar

open Float.Model (UnpackedFloat Format)
open Float.Model.UnpackedFloat

def turned : Direction → Sign → Sign
  | .forward, sign => sign
  | .reverse, sign => -sign

inductive Turned (direction : Direction) : UnpackedFloat → UnpackedFloat → Prop where
  | infinity (sign : Sign) : Turned direction (.infinity sign) (.infinity (turned direction sign))
  | notANumber : Turned direction .notANumber .notANumber
  | zero (first second : Sign) : Turned direction (.zero first) (.zero second)
  | finite (sign : Sign) (mantissa : Nat) (exponent : Int) (positive : 0 < mantissa) :
      Turned direction (.finite sign mantissa exponent positive)
        (.finite (turned direction sign) mantissa exponent positive)

theorem turned_refl (x : UnpackedFloat) : Turned .forward x x := by
  cases x with
  | infinity sign => exact .infinity sign
  | notANumber => exact .notANumber
  | zero sign => exact .zero sign sign
  | finite sign mantissa exponent positive => exact .finite sign mantissa exponent positive

theorem turned_components (spec : Format) (sign : Sign) (exponent : BitVec spec.exponentBits)
    (mantissa : BitVec spec.mantissaBitsWithoutImplicit) (direction : Direction) :
    Turned direction (unpack spec (packComponents spec sign exponent mantissa))
      (unpack spec (packComponents spec (turned direction sign) exponent mantissa)) := by
  simp only [unpack, unpackMantissa_packComponents, unpackExponent_packComponents,
    unpackSign_packComponents, Sign.ofBitVec_toBitVec]
  split
  · split
    · exact .infinity sign
    · exact .notANumber
  · split
    · split
      · exact .zero _ _
      · exact .finite _ _ _ _
    · exact .finite _ _ _ _

theorem turned_pack (direction : Direction) (first second : UnpackedFloat)
    (same : Turned direction first second) :
    Turned direction (unpack .binary64 (pack .binary64 first))
      (unpack .binary64 (pack .binary64 second)) := by
  cases same with
  | infinity sign => exact turned_components _ sign _ _ direction
  | notANumber =>
      simp only [pack, unpack_packedNaN]
      exact .notANumber
  | zero first second =>
      simp only [pack, unpack_packedZero]
      exact .zero _ _
  | finite sign mantissa exponent positive =>
      simp only [pack]
      split
      · exact turned_components _ sign _ _ direction
      · split
        · exact turned_components _ sign _ _ direction
        · exact turned_components _ sign _ _ direction

theorem turned_round (direction : Direction) (spec : Format) (sign : Sign) (mantissa : Nat)
    (exponent : Int) (accuracy : Accuracy) :
    Turned direction (roundWithAccuracy spec sign mantissa exponent accuracy)
      (roundWithAccuracy spec (turned direction sign) mantissa exponent accuracy) := by
  simp only [roundWithAccuracy]
  split
  · exact .zero _ _
  · exact .finite _ _ _ _

section Normalizing

variable (spec : Format) (mantissa exponent : Int)

theorem normalize_below (below : mantissa < 0) : normalize spec mantissa exponent .positive =
    UnpackedFloat.round spec .negative (-mantissa).toNat exponent := by
  rw [UnpackedFloat.normalize, Int.compare_eq_lt.mpr below]

theorem normalize_above (above : 0 < mantissa) : normalize spec mantissa exponent .positive =
    UnpackedFloat.round spec .positive mantissa.toNat exponent := by
  rw [UnpackedFloat.normalize, Int.compare_eq_gt.mpr above]

theorem turned_normalize (direction : Direction) :
    Turned direction (normalize spec mantissa exponent .positive)
      (normalize spec (direction.sign * mantissa) exponent .positive) := by
  cases direction with
  | forward =>
      simp only [Direction.sign, Int.one_mul]
      exact turned_refl _
  | reverse =>
      simp only [Direction.sign, Int.neg_mul, Int.one_mul]
      rcases Int.lt_trichotomy mantissa 0 with below | none | above
      · rw [normalize_below spec _ _ below, normalize_above spec _ _ (Int.neg_pos_of_neg below)]
        exact turned_round .reverse _ .negative _ _ _
      · rw [none]
        exact .zero _ _
      · rw [normalize_above spec _ _ above, normalize_below spec _ _ (Int.neg_neg_of_pos above),
          Int.neg_neg]
        exact turned_round .reverse _ .positive _ _ _

end Normalizing

section Signs

variable (direction : Direction) (sign other : Sign)

theorem turned_beq : (turned direction sign == turned direction other) = (sign == other) := by
  cases direction <;> cases sign <;> cases other <;> rfl

theorem minus_apply (amount : Int) : (-sign).apply amount = -sign.apply amount := by
  cases sign with
  | negative => exact (Int.neg_neg amount).symm
  | positive => rfl

theorem turned_apply (amount : Int) :
    (turned direction sign).apply amount = direction.sign * sign.apply amount := by
  cases direction with
  | forward => rw [Direction.sign, Int.one_mul, turned]
  | reverse => rw [Direction.sign, Int.neg_mul, Int.one_mul, turned, minus_apply]

theorem turned_minus : -turned direction sign = turned direction (-sign) := by
  cases direction <;> cases sign <;> rfl

theorem turned_times (directionToo : Direction) :
    turned direction sign * turned directionToo other =
      turned (direction.times directionToo) (sign * other) := by
  cases direction <;> cases directionToo <;> cases sign <;> cases other <;> rfl

theorem turned_over : turned direction sign / other = turned direction (sign / other) := by
  cases direction <;> cases sign <;> cases other <;> rfl

end Signs

section Operations

variable (direction directionToo : Direction) (spec : Format) (x u y v : UnpackedFloat)

theorem turned_neg (same : Turned direction x u) : Turned direction x.neg u.neg := by
  cases same with
  | infinity sign =>
      simp only [UnpackedFloat.neg, turned_minus]
      exact .infinity (-sign)
  | notANumber => exact .notANumber
  | zero sign other => exact .zero _ _
  | finite sign mantissa exponent positive =>
      simp only [UnpackedFloat.neg, turned_minus]
      exact .finite (-sign) mantissa exponent positive

theorem turned_add (first : Turned direction x u) (second : Turned direction y v) :
    Turned direction (add spec x y) (add spec u v) := by
  cases first with
  | notANumber =>
      simp only [add]
      exact .notANumber
  | infinity sign =>
      cases second with
      | notANumber => exact .notANumber
      | infinity other =>
          simp only [add, turned_beq]
          split
          · exact .infinity sign
          · exact .notANumber
      | zero | finite => exact .infinity sign
  | zero sign other =>
      cases second with
      | notANumber => exact .notANumber
      | infinity sign => exact .infinity sign
      | zero sign other =>
          simp only [add]
          split <;> split <;> exact .zero _ _
      | finite => exact .finite _ _ _ _
  | finite sign mantissa exponent positive =>
      cases second with
      | notANumber => exact .notANumber
      | infinity sign => exact .infinity sign
      | zero => exact .finite _ _ _ _
      | finite other mantissaToo exponentToo positiveToo =>
          simp only [add, turned_apply, ← Int.mul_add]
          exact turned_normalize spec _ _ direction

theorem sub_add_neg : sub spec x y = add spec x y.neg := by
  cases x <;> cases y <;>
    simp only [sub, add, UnpackedFloat.neg, minus_apply, Int.sub_eq_add_neg]

theorem turned_mul (first : Turned direction x u) (second : Turned directionToo y v) :
    Turned (direction.times directionToo) (mul spec x y) (mul spec u v) := by
  cases first with
  | notANumber =>
      simp only [mul]
      exact .notANumber
  | infinity sign =>
      cases second with
      | notANumber | zero => exact .notANumber
      | infinity other | finite other =>
          simp only [mul, turned_times]
          exact .infinity _
  | zero sign other =>
      cases second with
      | notANumber | infinity => exact .notANumber
      | zero | finite => exact .zero _ _
  | finite sign mantissa exponent positive =>
      cases second with
      | notANumber => exact .notANumber
      | infinity other =>
          simp only [mul, turned_times]
          exact .infinity _
      | zero => exact .zero _ _
      | finite other mantissaToo exponentToo positiveToo =>
          simp only [mul, turned_times]
          exact turned_round _ spec _ _ _ _

theorem turned_div (same : Turned direction x u) :
    Turned direction (div spec x y) (div spec u y) := by
  cases same with
  | notANumber =>
      simp only [div]
      exact .notANumber
  | infinity sign =>
      cases y with
      | notANumber | infinity => exact .notANumber
      | zero other | finite other =>
          simp only [div, turned_over]
          exact .infinity _
  | zero sign other =>
      cases y with
      | notANumber | zero => exact .notANumber
      | infinity | finite => exact .zero _ _
  | finite sign mantissa exponent positive =>
      cases y with
      | notANumber => exact .notANumber
      | infinity => exact .zero _ _
      | zero other =>
          simp only [div, turned_over]
          exact .infinity _
      | finite other mantissaToo exponentToo positiveToo =>
          simp only [div, turned_over]
          exact turned_round _ spec _ _ _ _

theorem turned_sub (first : Turned direction x u) (second : Turned direction y v) :
    Turned direction (sub spec x y) (sub spec u v) := by
  rw [sub_add_neg, sub_add_neg]
  exact turned_add direction spec _ _ _ _ first (turned_neg direction _ _ second)

theorem turned_abs (same : Turned direction x u) : u.abs = x.abs := by
  cases same <;> rfl

theorem infinity_apply (sign : Sign) (amount : Int) :
    (if (UnpackedFloat.infinity sign).compare (.zero .positive) = some .lt then -amount
      else amount) = sign.apply amount := by
  cases sign <;> rfl

theorem finite_apply (sign : Sign) (mantissa : Nat) (exponent : Int) (positive : 0 < mantissa)
    (amount : Int) :
    (if (UnpackedFloat.finite sign mantissa exponent positive).compare (.zero .positive) = some .lt
      then -amount else amount) = sign.apply amount := by
  cases sign <;> rfl

theorem zero_compare (sign other : Sign) :
    (UnpackedFloat.zero sign).compare y = (UnpackedFloat.zero other).compare y ∧
      y.compare (.zero sign) = y.compare (.zero other) := by
  cases y with
  | notANumber | zero => exact ⟨rfl, rfl⟩
  | infinity way | finite way => cases way <;> exact ⟨rfl, rfl⟩

theorem turned_compare (first : Turned .forward x u) (second : Turned .forward y v) :
    u.compare v = x.compare y := by
  have left : u.compare v = x.compare v := by
    cases first with
    | zero sign other => exact (zero_compare v _ _).1
    | notANumber | infinity | finite => rfl
  have right : x.compare v = x.compare y := by
    cases second with
    | zero sign other => exact (zero_compare x _ _).2
    | notANumber | infinity | finite => rfl
  exact left.trans right

theorem compare_refl (some_number : x ≠ .notANumber) : x.compare x = some .eq :=
  eq_of_beq ((beq_iff_ne_notANumber_and_eq x x).mpr ⟨some_number, some_number, .inl rfl⟩)

theorem same_of_compare (equal : x.compare y = some .eq) : Turned .forward x y := by
  have equals : x.beq y = true := beq_iff_eq.mpr equal
  obtain ⟨_, _, rfl | ⟨rfl, rfl⟩ | ⟨rfl, rfl⟩⟩ := (beq_iff_ne_notANumber_and_eq x y).mp equals
  · exact turned_refl x
  · exact .zero _ _
  · exact .zero _ _

theorem turned_twice (sign : Sign) : turned directionToo (turned direction sign) =
    turned (direction.times directionToo) sign := by
  cases direction <;> cases directionToo <;> cases sign <;> rfl

theorem turned_trans (first : Turned direction x y) (second : Turned directionToo y v) :
    Turned (direction.times directionToo) x v := by
  cases first with
  | notANumber =>
      cases second
      exact .notANumber
  | zero =>
      cases second
      exact .zero _ _
  | infinity sign =>
      cases second
      rw [turned_twice]
      exact .infinity sign
  | finite sign mantissa exponent positive =>
      cases second
      rw [turned_twice]
      exact .finite sign mantissa exponent positive

theorem turned_nan (same : Turned direction .notANumber u) : u = .notANumber := by
  cases same
  rfl

theorem turned_symm (same : Turned direction x u) : Turned direction u x := by
  cases same with
  | notANumber => exact .notANumber
  | zero sign other => exact .zero other sign
  | infinity sign => cases direction <;> cases sign <;> exact .infinity _
  | finite sign => cases direction <;> cases sign <;> exact .finite _ _ _ _

end Operations

end Scalar

end Rover
