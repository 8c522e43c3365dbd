import Rover.Scalar
import Rover.Proofs.Unpacked

/-!
Two numbers are aligned in a direction when the second is the first, or the negative of the first,
up to the sign of zero.
-/

set_option autoImplicit false

namespace Rover

namespace Scalar

section Aligned

variable {α : Type} [Scalar α]

-- Equal as numbers: zero has no sign, and what is not a number is like itself.
def Same (x y : α) : Prop := (x == y) = true ∨ (x == x) = false ∧ (y == y) = false

def Aligned : Direction → α → α → Prop
  | .forward, x, y => Same x y
  | .reverse, x, y => Same (-x) y

end Aligned

-- What the control loops need of numbers to treat a motion and its reverse alike.
structure Odd (α : Type) [Scalar α] : Prop where
  refl : ∀ x : α, Aligned .forward x x
  zero : ∀ direction, Aligned direction (0.0 : α) 0.0
  ofInt : ∀ direction amount,
    Aligned direction (Scalar.ofInt amount : α) (Scalar.ofInt (direction.sign * amount))
  add : ∀ direction (x y u v : α), Aligned direction x u → Aligned direction y v →
    Aligned direction (x + y) (u + v)
  sub : ∀ direction (x y u v : α), Aligned direction x u → Aligned direction y v →
    Aligned direction (x - y) (u - v)
  mul : ∀ direction other (x y u v : α), Aligned direction x u → Aligned other y v →
    Aligned (direction.times other) (x * y) (u * v)
  div : ∀ direction (x y u : α), Aligned direction x u → Aligned direction (x / y) (u / y)
  abs : ∀ direction (x u : α), Aligned direction x u → Scalar.abs u = Scalar.abs x
  lt : ∀ x y u v : α, Aligned .forward x u → Aligned .forward y v → (x < y ↔ u < v)
  truncate : ∀ direction (x u : α), Aligned direction x u →
    Scalar.truncate u = direction.sign * Scalar.truncate x
  round : ∀ direction (x u : α), Aligned direction x u →
    Scalar.round u = direction.sign * Scalar.round x

namespace Odd

variable {α : Type} [Scalar α] (odd : Odd α) (direction : Direction) (x u k : α)

include odd

theorem gain (aligned : Aligned direction x u) : Aligned direction (k * x) (k * u) :=
  odd.mul .forward direction _ _ _ _ (odd.refl k) aligned

theorem factor (aligned : Aligned direction x u) : Aligned direction (x * k) (u * k) := by
  have turned := odd.mul direction .forward _ _ _ _ aligned (odd.refl k)
  rwa [direction.times_forward] at turned

theorem of_int_neg (amount : Int) :
    Aligned .reverse (Scalar.ofInt amount : α) (Scalar.ofInt (-amount)) := by
  have turned := odd.ofInt .reverse amount
  rwa [Direction.sign, Int.neg_mul, Int.one_mul] at turned

theorem truncate_neg (aligned : Aligned .reverse x u) :
    Scalar.truncate u = -Scalar.truncate x := by
  rw [odd.truncate .reverse x u aligned, Direction.sign, Int.neg_mul, Int.one_mul]

theorem truncate_same (aligned : Aligned .forward x u) :
    Scalar.truncate u = Scalar.truncate x := by
  rw [odd.truncate .forward x u aligned, Direction.sign, Int.one_mul]

end Odd

section Numbers

open Float.Model (UnpackedFloat Format)
open Float.Model.UnpackedFloat

def number (x : Float) : UnpackedFloat := x.toModel.unpack

variable (direction directionToo : Direction) (x y u v : Float)

theorem number_kept : unpack .binary64 (pack .binary64 (number x)) = number x :=
  congrArg (unpack .binary64) (pack_unpack_of_valid x.toModel.valid)

theorem turned_neg_number : Turned .reverse (number x) (number (-x)) := by
  have flipped : Turned .reverse (number x) (number x).neg := by
    cases number x with
    | infinity sign => exact .infinity sign
    | notANumber => exact .notANumber
    | zero sign => exact .zero sign (-sign)
    | finite sign mantissa exponent positive => exact .finite sign mantissa exponent positive
  have packed := turned_pack .reverse _ _ flipped
  rw [number_kept] at packed
  exact packed

theorem beq_compare : (x == y) = ((number x).compare (number y) == some .eq) := by
  rfl

theorem lt_compare : x < y ↔ (number x).compare (number y) = some .lt := by
  change decide (((number x).compare (number y) == some .lt) = true) = true ↔ _
  rw [decide_eq_true_iff, beq_iff_eq]

theorem nan_iff : (x == x) = false ↔ number x = .notANumber := by
  rw [beq_compare]
  constructor
  · intro differs
    by_cases nan : number x = .notANumber
    · exact nan
    · rw [compare_refl _ nan] at differs
      cases differs
  · intro nan
    rw [nan]
    rfl

theorem same_iff_turned : Same x y ↔ Turned .forward (number x) (number y) := by
  constructor
  · rintro (equal | ⟨nan, nanToo⟩)
    · rw [beq_compare, beq_iff_eq] at equal
      exact same_of_compare _ _ equal
    · rw [(nan_iff x).mp nan, (nan_iff y).mp nanToo]
      exact .notANumber
  · intro same
    by_cases nan : number x = .notANumber
    · rw [nan] at same
      exact .inr ⟨(nan_iff x).mpr nan, (nan_iff y).mpr (turned_nan _ _ same)⟩
    · left
      rw [beq_compare, beq_iff_eq, turned_compare _ _ _ _ (turned_refl _) same]
      exact compare_refl _ nan

theorem aligned_iff_turned : Aligned direction x y ↔ Turned direction (number x) (number y) := by
  cases direction with
  | forward => exact same_iff_turned x y
  | reverse =>
      have flipped := turned_neg_number x
      refine (same_iff_turned (-x) y).trans ⟨fun same => ?_, fun same => ?_⟩
      · exact turned_trans .reverse .forward _ _ _ flipped same
      · exact turned_trans .reverse .reverse _ _ _ (turned_symm _ _ _ flipped) same

variable (first : Aligned direction x u)

include first

theorem float_add (second : Aligned direction y v) : Aligned direction (x + y) (u + v) := by
  rw [aligned_iff_turned] at first second ⊢
  exact turned_pack _ _ _ (turned_add _ _ _ _ _ _ first second)

theorem float_sub (second : Aligned direction y v) : Aligned direction (x - y) (u - v) := by
  rw [aligned_iff_turned] at first second ⊢
  exact turned_pack _ _ _ (turned_sub _ _ _ _ _ _ first second)

theorem float_mul (second : Aligned directionToo y v) :
    Aligned (direction.times directionToo) (x * y) (u * v) := by
  rw [aligned_iff_turned] at first second ⊢
  exact turned_pack _ _ _ (turned_mul _ _ _ _ _ _ _ first second)

theorem float_div : Aligned direction (x / y) (u / y) := by
  rw [aligned_iff_turned] at first ⊢
  exact turned_pack _ _ _ (turned_div _ _ _ _ _ first)

theorem float_abs : Scalar.abs u = Scalar.abs x := by
  rw [aligned_iff_turned] at first
  exact congrArg (fun size => Float.ofModel (.pack size)) (turned_abs _ _ _ first)

omit first in
theorem float_lt (left : Same x u) (right : Same y v) : x < y ↔ u < v := by
  rw [same_iff_turned] at left right
  rw [lt_compare, lt_compare, turned_compare _ _ _ _ left right]

omit first in
theorem float_of_int (amount : Int) :
    Aligned direction (Float.ofInt amount) (Float.ofInt (direction.sign * amount)) := by
  rw [aligned_iff_turned]
  cases direction with
  | forward =>
      rw [Direction.sign, Int.one_mul]
      exact turned_refl _
  | reverse =>
      rw [Direction.sign, Int.neg_mul, Int.one_mul]
      cases amount with
      | ofNat size =>
          cases size with
          | zero => exact .zero .positive .positive
          | succ size => exact turned_neg_number _
      | negSucc size => exact turned_symm _ _ _ (turned_neg_number _)

end Numbers

def signed (measure : Float → Int) (x : Float) : Int :=
  if x < 0.0 then -measure x.abs else measure x.abs

theorem truncate_signed : truncateFloat = signed fun size => size.toUInt64.toNat := by
  rfl

theorem round_signed : roundFloat = signed fun size =>
    if 0.5 ≤ size - size.toUInt64.toFloat then size.toUInt64.toNat + 1
    else size.toUInt64.toNat := by
  rfl

theorem number_zero : number 0.0 = .zero .positive := by
  rfl

theorem float_signed (direction : Direction) (measure : Float → Int) (x u : Float)
    (zero : measure (.ofModel (.pack (.zero .positive))) = 0)
    (nan : measure (.ofModel (.pack .notANumber)) = 0) (first : Aligned direction x u) :
    signed measure u = direction.sign * signed measure x := by
  have size : u.abs = x.abs := float_abs _ _ _ first
  rw [aligned_iff_turned] at first
  simp only [signed, size, lt_compare, number_zero]
  change (if _ then -measure (.ofModel (.pack (number x).abs)) else
      measure (.ofModel (.pack (number x).abs))) =
    direction.sign * if _ then -measure (.ofModel (.pack (number x).abs)) else
      measure (.ofModel (.pack (number x).abs))
  generalize number x = came at first
  generalize number u = cameToo at first
  cases first with
  | notANumber =>
      simp only [Float.Model.UnpackedFloat.abs, nan, Int.neg_zero, ite_self, Int.mul_zero]
  | zero sign other =>
      simp only [Float.Model.UnpackedFloat.abs, zero, Int.neg_zero, ite_self, Int.mul_zero]
  | infinity sign => rw [infinity_apply, infinity_apply, turned_apply]
  | finite sign mantissa exponent positive => rw [finite_apply, finite_apply, turned_apply]

theorem float_truncate (direction : Direction) (x u : Float) (first : Aligned direction x u) :
    truncateFloat u = direction.sign * truncateFloat x := by
  rw [truncate_signed]
  exact float_signed direction _ x u rfl rfl first

theorem float_round (direction : Direction) (x u : Float) (first : Aligned direction x u) :
    roundFloat u = direction.sign * roundFloat x := by
  rw [round_signed]
  exact float_signed direction _ x u (by decide +kernel) (by decide +kernel) first

theorem float_odd : Odd Float where
  refl x := (aligned_iff_turned .forward x x).mpr (turned_refl _)
  zero direction := (aligned_iff_turned direction 0.0 0.0).mpr (.zero .positive .positive)
  ofInt := float_of_int
  add := float_add
  sub := float_sub
  mul := float_mul
  div := float_div
  abs := float_abs
  lt x y u v := float_lt x y u v
  truncate := float_truncate
  round := float_round

end Scalar

end Rover
