import Rover.Proofs.Precision

set_option autoImplicit false

namespace Rover

def Word (n : Int) : Prop := -2147483648 ≤ n ∧ n ≤ 2147483647

instance (n : Int) : Decidable (Word n) := inferInstanceAs (Decidable (_ ∧ _))

namespace Scalar

open Float.Model (UnpackedFloat Format)
open Float.Model.UnpackedFloat

def Reads (x : Float) (q : ℚ) : Prop := Denotes (number x) q

def Nears (x : Float) (q : ℚ) : Prop := ∃ rounded, Rounded q rounded ∧ Reads x rounded

section Arithmetic

variable (x y : Float) (p q : ℚ)

theorem number_abs : number x.abs = unpack .binary64 (pack .binary64 (number x).abs) := by
  rfl

theorem number_mul :
    number (x * y) = unpack .binary64 (pack .binary64 (mul .binary64 (number x) (number y))) := by
  rfl

theorem comes_reads (reads : Reads x p) : Comes (number x) p := by
  refine ⟨p, rounded_refl p, ?_⟩
  rw [number_kept]
  exact reads

theorem neg_reads (reads : Reads x p) : Reads (-x) (-p) := by
  have turned := turned_neg_number x
  rw [Reads] at reads ⊢
  generalize number x = came at *
  generalize number (-x) = cameToo at *
  cases reads with
  | zero sign =>
      cases turned
      rw [neg_zero]
      exact .zero _
  | finite sign mantissa exponent positive full =>
      cases turned
      exact denotes_neg _ _ (.finite sign mantissa exponent positive full)

theorem abs_reads (reads : Reads x p) : Reads x.abs |p| := by
  have kept := number_kept x
  have turned := turned_neg_number x
  rw [Reads, number_abs]
  change Turned .reverse (number x) (unpack .binary64 (pack .binary64 (number x).neg)) at turned
  rw [Reads] at reads
  generalize number x = came at *
  cases reads with
  | zero sign =>
      simp only [UnpackedFloat.abs, pack, unpack_packedZero, abs_zero]
      exact .zero _
  | finite sign mantissa exponent positive full =>
      have size : (0 : ℚ) ≤ mantissa * 2 ^ exponent := by positivity
      rw [toward_abs, abs_of_nonneg size]
      cases sign with
      | positive =>
          simp only [UnpackedFloat.abs, kept]
          exact .finite .positive mantissa exponent positive full
      | negative =>
          have same : (UnpackedFloat.finite .negative mantissa exponent positive).abs =
              (UnpackedFloat.finite .negative mantissa exponent positive).neg := rfl
          rw [same]
          generalize unpack .binary64 (pack .binary64
            (UnpackedFloat.finite .negative mantissa exponent positive).neg) = back at *
          cases turned
          exact .finite .positive mantissa exponent positive full

variable (first : Reads x p) (second : Reads y q)

include first second

theorem add_nears (moderate : Moderate (p + q)) : Nears (x + y) (p + q) :=
  comes_add _ _ p q first second (comes_reads x p first) (comes_reads y q second) moderate

theorem sub_nears (moderate : Moderate (p - q)) : Nears (x - y) (p - q) := by
  have alone : Comes (number y).neg (-q) := ⟨-q, rounded_refl _, neg_reads y q second⟩
  rw [sub_eq_add_neg] at moderate ⊢
  have sum := comes_add _ _ p (-q) first (denotes_neg _ _ second) (comes_reads x p first) alone
    moderate
  rw [← sub_add_neg] at sum
  exact sum

theorem mul_nears (moderate : Moderate (p * q)) : Nears (x * y) (p * q) :=
  comes_mul _ _ p q first second moderate

theorem div_nears (nonzero : q ≠ 0) (moderate : Moderate (p / q)) : Nears (x / y) (p / q) :=
  comes_div _ _ p q first second nonzero moderate

end Arithmetic

section Signs

variable (x : Float) (q : ℚ) (reads : Reads x q)

include reads

theorem positive_reads : 0.0 < x ↔ 0 < q := by
  rw [lt_compare, number_zero]
  rw [Reads] at reads
  generalize number x = came at *
  cases reads with
  | zero sign => simp [UnpackedFloat.compare]
  | finite sign mantissa exponent positive full =>
      have size : (0 : ℚ) < mantissa * 2 ^ exponent := by positivity
      cases sign with
      | positive => simp only [UnpackedFloat.compare, toward, size]
      | negative => simp [UnpackedFloat.compare, toward, size.le]

theorem negative_reads : x < 0.0 ↔ q < 0 := by
  rw [lt_compare, number_zero]
  rw [Reads] at reads
  generalize number x = came at *
  cases reads with
  | zero sign => simp [UnpackedFloat.compare]
  | finite sign mantissa exponent positive full =>
      have size : (0 : ℚ) < mantissa * 2 ^ exponent := by positivity
      cases sign with
      | positive => simp [UnpackedFloat.compare, toward, size.le]
      | negative => simp [UnpackedFloat.compare, toward, size]

end Signs

def wholePart (q : ℚ) : ℤ := if q < 0 then -⌊|q|⌋ else ⌊|q|⌋

theorem whole_part_nonneg (q : ℚ) (nonneg : 0 ≤ q) : wholePart q = ⌊q⌋ := by
  rw [wholePart, if_neg (not_lt.mpr nonneg), abs_of_nonneg nonneg]

@[simp] theorem whole_part_neg (q : ℚ) : wholePart (-q) = -wholePart q := by
  simp only [wholePart, abs_neg, Left.neg_neg_iff]
  rcases lt_trichotomy q 0 with below | rfl | above
  · rw [if_neg below.not_gt, if_pos below, neg_neg]
  · simp
  · rw [if_pos above, if_neg above.not_gt]

section Whole

theorem round_to_int_floor (mantissa : ℕ) (exponent : Int) :
    roundToInt .positive mantissa exponent = ⌊(mantissa * 2 ^ exponent : ℚ)⌋ := by
  simp only [roundToInt, decreaseExponent, shiftToExponent, ExtendedMantissa.ofMantissaAndAccuracy,
    shift_mantissa, Sign.apply, Nat.shiftLeft_eq]
  rcases le_or_gt 0 exponent with whole | part
  · obtain ⟨places, rfl⟩ := Int.eq_ofNat_of_zero_le whole
    have none : (0 - ((places : ℤ) - (((places : ℤ) - 0).toNat : ℕ))).toNat = 0 := by omega
    have all : ((places : ℤ) - 0).toNat = places := by omega
    rw [none, all, zpow_natCast, Nat.pow_zero, Nat.div_one]
    have counted : (mantissa : ℚ) * 2 ^ places = ((mantissa * 2 ^ places : ℕ) : ℤ) := by
      push_cast
      ring
    rw [counted, Int.floor_intCast]
  · obtain ⟨places, negative⟩ := Int.eq_ofNat_of_zero_le (a := -exponent) (by omega)
    have none : (exponent - 0).toNat = 0 := by omega
    have all : (0 - (exponent - (0 : ℕ))).toNat = places := by omega
    rw [none, all, Nat.pow_zero, Nat.mul_one, ← neg_neg exponent, negative, zpow_neg, zpow_natCast,
      ← div_eq_mul_inv, tells_floor mantissa places .exact mantissa (tells_exact mantissa)]

variable (x : Float) (q : ℚ) (reads : Reads x q)

include reads

theorem to_nat_reads (nonneg : 0 ≤ q) (fits : q < 2 ^ 64) : (x.toUInt64.toNat : ℤ) = ⌊q⌋ := by
  change ((UInt64.ofNatClamp (toInt 0 (UInt64.size - 1) (number x)).toNat).toNat : ℤ) = _
  have clamped : ∀ n : ℕ, n < 2 ^ 64 → (UInt64.ofNatClamp n).toNat = n := by
    intro n small
    rw [UInt64.ofNatClamp, dif_pos (show n < UInt64.size from small)]
    rfl
  rw [Reads] at reads
  generalize number x = came at *
  cases reads with
  | zero sign =>
      rw [toInt, clamped _ (by norm_num), Int.floor_zero]
      rfl
  | finite sign mantissa exponent positive full =>
      have size : (0 : ℚ) < mantissa * 2 ^ exponent := by positivity
      cases sign with
      | negative =>
          rw [toward] at nonneg
          linarith
      | positive =>
          rw [toward] at fits ⊢
          have floor : (0 : ℤ) ≤ ⌊(mantissa * 2 ^ exponent : ℚ)⌋ := Int.floor_nonneg.mpr size.le
          have below : ⌊(mantissa * 2 ^ exponent : ℚ)⌋ < 2 ^ 64 := by
            rw [Int.floor_lt]
            exact_mod_cast fits
          rw [toInt, round_to_int_floor, clamped _ (by omega), Int.toNat_of_nonneg floor]

theorem truncate_reads (fits : |q| < 2 ^ 64) : truncateFloat x = wholePart q := by
  have size := to_nat_reads x.abs |q| (abs_reads x q reads) (abs_nonneg q) fits
  simp only [truncateFloat, negative_reads x q reads, size, wholePart]

end Whole

section Integers

theorem whole_nears (x : Float) (n : ℤ) (small : |n| < 2 ^ 53) (nears : Nears x n) :
    Reads x n := by
  obtain ⟨rounded, next, reads⟩ := nears
  rwa [rounded_whole n rounded small next] at reads

theorem literal_reads (x : Float) (mantissa : ℕ) (exponent : ℤ) (q : ℚ) (positive : 0 < mantissa)
    (full : mantissa.log2 = 52) (same : number x = .finite .positive mantissa exponent positive)
    (value : (mantissa : ℚ) * 2 ^ exponent = q) : Reads x q := by
  rw [Reads, same, ← value]
  exact .finite .positive mantissa exponent positive full

theorem one_reads : Reads (Float.ofBits 4607182418800017408) 1 :=
  literal_reads _ 4503599627370496 (-52) 1 (by decide) (by decide +kernel) rfl (by norm_num)

theorem whole_bound (n : ℕ) (small : n < 2 ^ 53) : |(n : ℤ)| < 2 ^ 53 := by
  rw [abs_of_nonneg (by omega)]
  exact_mod_cast small

theorem word_reads (n : ℕ) (small : n < 2 ^ 53) : Reads n.toUInt64.toFloat (n : ℤ) := by
  have bound := whole_bound n small
  have moderate : Moderate ((n : ℤ) : ℚ) := sized_whole 200 n (bound.le.trans (by norm_num))
  have word : n.toUInt64.toNat = n := UInt64.toNat_ofNat_of_lt (small.trans (by norm_num))
  apply whole_nears _ n bound
  have comes := comes_normalize n 0
  rw [zpow_zero, mul_one] at comes
  change Comes (normalize .binary64 (n.toUInt64.toNat : ℤ) 0 .positive) (n : ℤ)
  rw [word]
  exact comes moderate

theorem of_nat_reads (n : ℕ) (small : n < 2 ^ 53) : Reads (Float.ofNat n) n := by
  have bound := whole_bound n small
  have moderate : Moderate ((n : ℤ) : ℚ) := sized_whole 200 n (bound.le.trans (by norm_num))
  have product := mul_nears _ _ _ _ (word_reads n small) one_reads (by rwa [mul_one])
  rw [mul_one] at product
  have times : Float.ofNat n = n.toUInt64.toFloat * Float.ofBits 4607182418800017408 := by
    change Float.ofScientific n false 0 = _
    rw [Float.ofScientific, dif_pos ⟨small, by norm_num⟩]
    rfl
  rw [times]
  exact_mod_cast whole_nears _ n bound product

theorem of_int_reads (n : ℤ) (small : |n| < 2 ^ 53) : Reads (Float.ofInt n) n := by
  rw [Int.abs_eq_natAbs] at small
  cases n with
  | ofNat size => exact of_nat_reads size (by exact_mod_cast small)
  | negSucc size =>
      have reads := of_nat_reads size.succ (by exact_mod_cast small)
      exact_mod_cast neg_reads _ _ reads

end Integers

section Constants

theorem two_reads : Reads 2.0 2 :=
  literal_reads _ 4503599627370496 (-51) 2 (by decide) (by decide +kernel) rfl (by norm_num)

theorem hundred_reads : Reads 100.0 100 :=
  literal_reads _ 7036874417766400 (-46) 100 (by decide) (by decide +kernel) rfl (by norm_num)

theorem thousand_reads : Reads 1000.0 1000 :=
  literal_reads _ 8796093022208000 (-43) 1000 (by decide) (by decide +kernel) rfl (by norm_num)

def piFraction : ℚ := 884279719003555 / 281474976710656

theorem pi_reads : Reads pi piFraction :=
  literal_reads _ 7074237752028440 (-51) piFraction (by decide) (by decide +kernel) rfl
    (by norm_num [piFraction])

theorem seconds_reads (millis : ℤ) (small : |millis| ≤ 2 ^ 32) :
    ∃ seconds, Reads (Float.ofInt millis / 1000.0) seconds ∧ Sized 43 seconds ∧
      SignType.sign seconds = SignType.sign millis := by
  have length : Sized 32 millis := sized_whole 32 millis small
  have exact : Sized 42 (millis / 1000 : ℚ) := sized_div 32 10 _ _ length (.inr (by norm_num))
  obtain ⟨seconds, next, reads⟩ := div_nears _ _ _ _ (of_int_reads millis (by omega))
    thousand_reads (by norm_num) (sized_mono 42 200 _ (by omega) exact)
  refine ⟨seconds, reads, sized_rounded _ _ next 42 exact, ?_⟩
  rw [sign_rounded _ _ next, div_eq_mul_inv, sign_mul, sign_pos (by norm_num : (0 : ℚ) < 1000⁻¹),
    mul_one, sign_intCast]

end Constants

end Scalar

end Rover
