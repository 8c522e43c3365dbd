import Rover.Proofs.Windup

/-!
Machine numbers without a sign of their own: zero, and what is not a number.
-/

set_option autoImplicit false

namespace Rover

namespace Scalar

open Float.Model (Format totalExponent UnpackedFloat)
open Float.Model.UnpackedFloat

inductive Blank : UnpackedFloat → Prop where
  | zero (sign : Sign) : Blank (.zero sign)
  | notANumber : Blank .notANumber

def IsZero (x : Float) : Prop := ∃ sign, number x = .zero sign

section Results

variable (x y : Float)

theorem number_div :
    number (x / y) = unpack .binary64 (pack .binary64 (div .binary64 (number x) (number y))) := by
  rfl

theorem number_sub :
    number (x - y) = unpack .binary64 (pack .binary64 (sub .binary64 (number x) (number y))) := by
  rfl

theorem number_add :
    number (x + y) = unpack .binary64 (pack .binary64 (add .binary64 (number x) (number y))) := by
  rfl

theorem zero_kept (sign : Sign) : unpack .binary64 (pack .binary64 (.zero sign)) = .zero sign := by
  simp only [pack, unpack_packedZero]

theorem blank_kept (size : UnpackedFloat) (blank : Blank size) :
    Blank (unpack .binary64 (pack .binary64 size)) := by
  cases blank with
  | zero sign =>
      rw [zero_kept]
      exact .zero sign
  | notANumber =>
      rw [nan_kept]
      exact .notANumber

theorem blank_of_zero (zero : IsZero x) : Blank (number x) := by
  obtain ⟨sign, same⟩ := zero
  rw [same]
  exact .zero sign

theorem beq_of_zero (zero : IsZero x) : (x == 0.0) = true := by
  obtain ⟨sign, same⟩ := zero
  rw [beq_compare, same]
  cases sign <;> rfl

theorem zero_of_reads (reads : Reads x 0) : IsZero x := by
  rw [Reads] at reads
  generalize zero : (0 : ℚ) = q at reads
  generalize came : number x = size at reads
  cases reads with
  | zero sign => exact ⟨sign, came⟩
  | finite sign mantissa exponent positive full =>
      have size : (0 : ℚ) < mantissa * 2 ^ exponent := by positivity
      have none := toward_abs sign (mantissa * 2 ^ exponent)
      rw [← zero, abs_zero, abs_of_pos size] at none
      exact absurd none size.ne

theorem zero_of_int : IsZero (Scalar.ofInt 0) :=
  zero_of_reads _ (of_int_reads 0 (by norm_num))

theorem not_blank_of_reads (q : ℚ) (reads : Reads x q) (nonzero : q ≠ 0) : ¬Blank (number x) := by
  rw [Reads] at reads
  generalize number x = size at *
  intro blank
  cases reads with
  | zero sign => exact nonzero rfl
  | finite sign mantissa exponent positive full => cases blank

theorem blank_aligned (blank : Blank (number x)) : Aligned .reverse x x := by
  rw [aligned_iff_turned]
  generalize number x = size at *
  cases blank with
  | zero sign => exact .zero _ _
  | notANumber => exact .notANumber

theorem blank_abs (blank : Blank (number x)) : Blank (number x.abs) := by
  rw [number_abs]
  apply blank_kept
  generalize number x = size at *
  cases blank with
  | zero sign => exact .zero _
  | notANumber => exact .notANumber

theorem blank_mul (blank : Blank (number x)) : Blank (number (x * y)) := by
  rw [number_mul]
  apply blank_kept
  generalize number x = size at *
  cases blank with
  | notANumber => exact .notANumber
  | zero sign => cases number y with
    | zero other | finite other mantissa exponent positive => exact .zero _
    | infinity other | notANumber => exact .notANumber

theorem blank_div (blank : Blank (number x)) : Blank (number (x / y)) := by
  rw [number_div]
  apply blank_kept
  generalize number x = size at *
  cases blank with
  | notANumber => exact .notANumber
  | zero sign => cases number y with
    | infinity other | finite other mantissa exponent positive => exact .zero _
    | zero other | notANumber => exact .notANumber

theorem zero_mul_finite (zero : IsZero x) (finite : y.isFinite = true) : IsZero (x * y) := by
  obtain ⟨sign, same⟩ := zero
  rw [finite_number] at finite
  rw [IsZero, number_mul, same]
  generalize number y = size at *
  cases size with
  | infinity other | notANumber => cases finite
  | zero other | finite other mantissa exponent positive => exact ⟨_, zero_kept _⟩

theorem zero_div_signed (zero : IsZero x) (signed : ¬Blank (number y)) : IsZero (x / y) := by
  obtain ⟨sign, same⟩ := zero
  rw [IsZero, number_div, same]
  generalize number y = size at *
  cases size with
  | zero other => exact absurd (.zero other) signed
  | notANumber => exact absurd .notANumber signed
  | infinity other | finite other mantissa exponent positive => exact ⟨_, zero_kept _⟩

theorem sub_zero_aligned (zero : IsZero y) : Aligned .forward x (x - y) := by
  obtain ⟨sign, same⟩ := zero
  rw [aligned_iff_turned, number_sub, same]
  have kept := number_kept x
  generalize number x = size at kept
  cases size with
  | zero other =>
      simp only [UnpackedFloat.sub]
      split <;> rw [zero_kept] <;> exact .zero _ _
  | notANumber =>
      change Turned .forward _ (unpack .binary64 (pack .binary64 .notANumber))
      rw [kept]
      exact .notANumber
  | infinity other =>
      change Turned .forward _ (unpack .binary64 (pack .binary64 (.infinity other)))
      rw [kept]
      exact turned_refl _
  | finite other mantissa exponent positive =>
      change Turned .forward _
        (unpack .binary64 (pack .binary64 (.finite other mantissa exponent positive)))
      rw [kept]
      exact turned_refl _

end Results

section Rounding

variable (sign : Sign) (mantissa : ℕ) (exponent : Int) (accuracy : Accuracy)

end Rounding

def notNumber : Float := .ofModel (.pack .notANumber)

theorem number_not_number : number notNumber = .notANumber := nan_kept

section NotANumber

variable (x y : Float) (nan : number x = .notANumber)

include nan

theorem nan_mul : number (y * x) = .notANumber := by
  rw [number_mul, nan]
  cases number y <;> exact nan_kept

theorem nan_div : number (x / y) = .notANumber := by
  rw [number_div, nan]
  cases number y <;> exact nan_kept

theorem nan_add : number (x + y) = .notANumber := by
  rw [number_add, nan]
  cases number y <;> exact nan_kept

theorem nan_sub : x - y = notNumber := by
  change Float.ofModel (.pack (sub .binary64 (number x) (number y))) = _
  rw [nan]
  cases number y <;> rfl

end NotANumber

theorem blank_truncate (x : Float) (blank : Blank (number x)) : truncateFloat x = 0 := by
  have turned := float_truncate .reverse x x (blank_aligned x blank)
  rw [Direction.sign] at turned
  omega

theorem neg_below_iff (x : Float) (signed : ¬Blank (number x)) : -x < 0.0 ↔ ¬x < 0.0 := by
  have turned := turned_neg_number x
  rw [lt_compare, lt_compare, number_zero]
  generalize number x = size at *
  generalize number (-x) = sizeToo at *
  cases turned with
  | zero sign other => exact absurd (.zero sign) signed
  | notANumber => exact absurd .notANumber signed
  | infinity sign | finite sign mantissa exponent positive =>
      cases sign <;> simp [UnpackedFloat.compare, turned]

end Scalar

end Rover
