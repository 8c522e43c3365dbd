import Rover.Proofs.Oddness

/-!
An operation whose exact result is of a moderate size comes to a number next to it: off by less than
one part in 2 ^ 52, and on no other side of a whole number.
-/

set_option autoImplicit false

namespace Rover

namespace Scalar

open Float.Model (Format totalExponent UnpackedFloat)
open Float.Model.UnpackedFloat

def toward : Sign → ℚ → ℚ
  | .positive, q => q
  | .negative, q => -q

-- The fraction that a machine number stands for. Numbers too small for a full mantissa are left
-- out.
inductive Denotes : UnpackedFloat → ℚ → Prop where
  | zero (sign : Sign) : Denotes (.zero sign) 0
  | finite (sign : Sign) (mantissa : Nat) (exponent : Int) (positive : 0 < mantissa)
      (full : mantissa.log2 = 52) :
      Denotes (.finite sign mantissa exponent positive) (toward sign (mantissa * 2 ^ exponent))

structure Rounded (exact rounded : ℚ) : Prop where
  near : |rounded - exact| ≤ |exact| / 2 ^ 52
  floor : ∀ n : ℤ, |n| < 2 ^ 53 → (n : ℚ) ≤ exact → (n : ℚ) ≤ rounded
  ceiling : ∀ n : ℤ, |n| < 2 ^ 53 → exact ≤ n → rounded ≤ n

def Sized (digits : ℕ) (q : ℚ) : Prop := q = 0 ∨ 1 / 2 ^ digits ≤ |q| ∧ |q| ≤ 2 ^ digits

abbrev Moderate (q : ℚ) : Prop := Sized 200 q

section Rounding

theorem rounded_refl (q : ℚ) : Rounded q q := by
  refine ⟨?_, fun _ _ below => below, fun _ _ above => above⟩
  rw [sub_self, abs_zero]
  positivity

theorem rounded_neg (exact rounded : ℚ) (next : Rounded exact rounded) :
    Rounded (-exact) (-rounded) := by
  refine ⟨?_, ?_, ?_⟩
  · rw [abs_neg, neg_sub_neg, abs_sub_comm]
    exact next.near
  · intro n small below
    have bound := next.ceiling (-n) (by rwa [abs_neg]) (by push_cast; linarith)
    push_cast at bound
    linarith
  · intro n small above
    have bound := next.floor (-n) (by rwa [abs_neg]) (by push_cast; linarith)
    push_cast at bound
    linarith

theorem rounded_toward (sign : Sign) (exact rounded : ℚ) (next : Rounded exact rounded) :
    Rounded (toward sign exact) (toward sign rounded) := by
  cases sign with
  | positive => exact next
  | negative => exact rounded_neg exact rounded next

theorem rounded_whole (n : ℤ) (rounded : ℚ) (small : |n| < 2 ^ 53) (next : Rounded n rounded) :
    rounded = n :=
  le_antisymm (next.ceiling n small le_rfl) (next.floor n small le_rfl)

section Sizes

variable (digits more : ℕ) (p q : ℚ)

theorem sized_mono (fewer : digits ≤ more) (sized : Sized digits q) : Sized more q := by
  refine sized.imp id (fun bounds => ⟨le_trans ?_ bounds.1, bounds.2.trans ?_⟩)
  · exact one_div_le_one_div_of_le (by positivity) (pow_le_pow_right₀ (by norm_num) fewer)
  · exact pow_le_pow_right₀ (by norm_num) fewer

theorem sized_whole (n : ℤ) (small : |n| ≤ 2 ^ digits) : Sized digits n := by
  by_cases zero : n = 0
  · exact .inl (by exact_mod_cast zero)
  · have least : (1 : ℚ) ≤ |(n : ℚ)| := by exact_mod_cast Int.one_le_abs zero
    refine .inr ⟨le_trans ?_ least, by exact_mod_cast small⟩
    rw [div_le_one (by positivity)]
    exact one_le_pow₀ (by norm_num)

theorem sized_inv (sized : Sized digits q) : Sized digits q⁻¹ := by
  rcases sized with rfl | ⟨least, most⟩
  · exact .inl inv_zero
  · have positive : 0 < |q| := lt_of_lt_of_le (by positivity) least
    rw [Sized, abs_inv]
    refine .inr ⟨?_, ?_⟩
    · rw [one_div]
      exact inv_anti₀ positive most
    · rw [one_div] at least
      exact inv_le_of_inv_le₀ (by positivity) least

variable (first : Sized digits p) (second : Sized more q)

include first second

theorem sized_mul : Sized (digits + more) (p * q) := by
  rcases first with rfl | ⟨least, most⟩
  · exact .inl (zero_mul q)
  · rcases second with rfl | ⟨leastToo, mostToo⟩
    · exact .inl (mul_zero p)
    · right
      rw [abs_mul, pow_add]
      refine ⟨?_, mul_le_mul most mostToo (abs_nonneg q) (by positivity)⟩
      calc 1 / (2 ^ digits * 2 ^ more) = 1 / 2 ^ digits * (1 / 2 ^ more) := by field_simp
        _ ≤ |p| * |q| := mul_le_mul least leastToo (by positivity) (abs_nonneg p)

theorem sized_div : Sized (digits + more) (p / q) := by
  rw [div_eq_mul_inv]
  exact sized_mul digits more p q⁻¹ first (sized_inv more q second)

end Sizes

section Nearness

variable (exact rounded : ℚ) (next : Rounded exact rounded)

include next

theorem rounded_bounds : |exact| / 2 ≤ |rounded| ∧ |rounded| ≤ 2 * |exact| := by
  have far := (abs_sub_abs_le_abs_sub rounded exact).trans next.near
  have farToo :=
    ((abs_sub_abs_le_abs_sub exact rounded).trans_eq (abs_sub_comm _ _)).trans next.near
  have nonneg := abs_nonneg exact
  constructor <;> norm_num at far farToo ⊢ <;> linarith

theorem sized_rounded (digits : ℕ) (sized : Sized digits exact) : Sized (digits + 1) rounded := by
  obtain ⟨low, high⟩ := rounded_bounds exact rounded next
  rcases sized with zero | ⟨least, most⟩
  · left
    rw [zero, abs_zero, mul_zero] at high
    exact abs_eq_zero.mp (le_antisymm high (abs_nonneg rounded))
  · right
    rw [pow_succ, ← div_div]
    constructor <;> linarith

theorem sign_rounded : SignType.sign rounded = SignType.sign exact := by
  have far := abs_le.mp next.near
  rcases lt_trichotomy exact 0 with below | rfl | above
  · rw [abs_of_neg below] at far
    rw [sign_neg below, sign_neg (by norm_num at far; linarith)]
  · rw [sub_zero, abs_zero, zero_div, neg_zero] at far
    rw [le_antisymm far.2 far.1]
  · rw [abs_of_pos above] at far
    rw [sign_pos above, sign_pos (by norm_num at far; linarith)]

end Nearness

section Grid

variable (exact : ℚ) (unit : ℤ) (count : ℕ)

theorem grid_whole (n : ℤ) (fine : unit ≤ 0) : ∃ steps : ℤ, (n : ℚ) = steps * 2 ^ unit := by
  refine ⟨n * 2 ^ (-unit).toNat, ?_⟩
  have back : (2 : ℚ) ^ (-unit).toNat * 2 ^ unit = 1 := by
    rw [← zpow_natCast, Int.toNat_of_nonneg (by omega), ← zpow_add₀ (by norm_num),
      neg_add_cancel, zpow_zero]
  push_cast
  rw [mul_assoc, back, mul_one]

theorem grid_coarse (coarse : 0 < unit) : (2 : ℚ) ^ 53 ≤ 2 ^ 52 * 2 ^ unit := by
  have double : (2 : ℚ) ≤ 2 ^ unit := by
    calc (2 : ℚ) = 2 ^ (1 : ℤ) := by norm_num
      _ ≤ 2 ^ unit := zpow_le_zpow_right₀ (by norm_num) (by omega)
  linarith

variable (full : 2 ^ 52 * 2 ^ unit ≤ exact) (low : ⌊exact / 2 ^ unit⌋ ≤ count)
  (high : count ≤ ⌈exact / 2 ^ unit⌉)

include full low high

theorem grid_near : |count * 2 ^ unit - exact| ≤ |exact| / 2 ^ 52 := by
  have step : (0 : ℚ) < 2 ^ unit := by positivity
  have scaled : exact / 2 ^ unit * 2 ^ unit = exact := div_mul_cancel₀ _ step.ne'
  have below : exact / 2 ^ unit - 1 < count :=
    lt_of_lt_of_le (Int.sub_one_lt_floor _) (by exact_mod_cast low)
  have above : (count : ℚ) < exact / 2 ^ unit + 1 :=
    lt_of_le_of_lt (by exact_mod_cast high) (Int.ceil_lt_add_one _)
  have size : (2 : ℚ) ^ unit ≤ |exact| / 2 ^ 52 := by
    rw [le_div_iff₀ (by positivity), mul_comm]
    exact full.trans (le_abs_self exact)
  refine le_trans ?_ size
  rw [abs_le]
  constructor <;> nlinarith

theorem rounded_of_grid : Rounded exact (count * 2 ^ unit) := by
  have step : (0 : ℚ) < 2 ^ unit := by positivity
  refine ⟨grid_near exact unit count full low high, ?_, ?_⟩
  · intro n small below
    rcases le_or_gt unit 0 with fine | coarse
    · obtain ⟨steps, spread⟩ := grid_whole unit n fine
      rw [spread] at below ⊢
      have reached : steps ≤ ⌊exact / 2 ^ unit⌋ := Int.le_floor.mpr ((le_div_iff₀ step).mpr below)
      have counted : (steps : ℚ) ≤ count := by exact_mod_cast reached.trans low
      exact mul_le_mul_of_nonneg_right counted step.le
    · have many : (2 : ℤ) ^ 52 ≤ ⌊exact / 2 ^ unit⌋ := by
        rw [Int.le_floor, le_div_iff₀ step]
        exact_mod_cast full
      have counted : (2 : ℚ) ^ 52 ≤ count := by exact_mod_cast many.trans low
      have bound : (n : ℚ) < 2 ^ 53 := by exact_mod_cast lt_of_abs_lt small
      have far := grid_coarse unit coarse
      nlinarith
  · intro n small above
    rcases le_or_gt unit 0 with fine | coarse
    · obtain ⟨steps, spread⟩ := grid_whole unit n fine
      rw [spread] at above ⊢
      have reached : ⌈exact / 2 ^ unit⌉ ≤ steps := Int.ceil_le.mpr ((div_le_iff₀ step).mpr above)
      have counted : (count : ℚ) ≤ steps := by exact_mod_cast high.trans reached
      exact mul_le_mul_of_nonneg_right counted step.le
    · have bound : (n : ℚ) < 2 ^ 53 := by exact_mod_cast lt_of_abs_lt small
      have far := grid_coarse unit coarse
      linarith

end Grid

end Rounding

section Shifting

-- What a mantissa and what is known of the digits behind it say about the exact size: the size lies
-- within one unit above the mantissa, and is the mantissa itself only if no digits follow.
structure Tells (mantissa : ℕ) (accuracy : Accuracy) (size : ℚ) : Prop where
  least : (mantissa : ℚ) ≤ size
  beyond : size < mantissa + 1
  known : size = mantissa → accuracy = .exact

theorem tells_exact (mantissa : ℕ) : Tells mantissa .exact mantissa :=
  ⟨le_rfl, lt_add_one _, fun _ => rfl⟩

theorem shift_mantissa (extended : ExtendedMantissa) (places : ℕ) :
    (extended >>> places).mantissa = extended.mantissa / 2 ^ places := by
  change (Nat.repeat ExtendedMantissa.shiftRightOne places extended).mantissa = _
  induction places with
  | zero => rw [Nat.repeat, Nat.pow_zero, Nat.div_one]
  | succ places ih =>
      rw [Nat.repeat, ExtendedMantissa.shiftRightOne, ih, Nat.div_div_eq_div_mul, Nat.pow_succ]

theorem shift_exact (mantissa places : ℕ) :
    ExtendedMantissa.mk (mantissa * 2 ^ places) false false >>> places =
      ⟨mantissa, false, false⟩ := by
  change Nat.repeat ExtendedMantissa.shiftRightOne places _ = _
  induction places generalizing mantissa with
  | zero => rw [Nat.repeat, Nat.pow_zero, Nat.mul_one]
  | succ places ih =>
      rw [Nat.repeat, Nat.pow_succ', ← Nat.mul_assoc, ih, ExtendedMantissa.shiftRightOne]
      simp

theorem rounded_mantissa_bounds (extended : ExtendedMantissa) :
    extended.mantissa ≤ extended.roundedMantissa ∧
      extended.roundedMantissa ≤ extended.mantissa + 1 := by
  rcases extended with ⟨mantissa, _ | _, _ | _⟩ <;>
    simp only [ExtendedMantissa.roundedMantissa, ExtendedMantissa.accuracy,
      Accuracy.roundToNearestEven] <;> omega

variable (mantissa places : ℕ) (accuracy : Accuracy) (size : ℚ)
  (tells : Tells mantissa accuracy size)

def shifted : ExtendedMantissa :=
  ExtendedMantissa.ofMantissaAndAccuracy mantissa accuracy >>> places

theorem shifted_mantissa : (shifted mantissa places accuracy).mantissa = mantissa / 2 ^ places := by
  rw [shifted, shift_mantissa]
  rcases accuracy with _ | _ | _ | _ <;> rfl

include tells

theorem tells_floor : ⌊size / 2 ^ places⌋ = ((mantissa / 2 ^ places : ℕ) : ℤ) := by
  rw [Int.floor_eq_iff]
  have whole : (0 : ℚ) < 2 ^ places := by positivity
  have low := Nat.div_mul_le_self mantissa (2 ^ places)
  have high : mantissa + 1 ≤ (mantissa / 2 ^ places + 1) * 2 ^ places :=
    Nat.lt_mul_of_div_lt (Nat.lt_succ_self _) (Nat.two_pow_pos places)
  have lowToo : ((mantissa / 2 ^ places : ℕ) : ℚ) * 2 ^ places ≤ mantissa := by exact_mod_cast low
  have highToo : (mantissa : ℚ) + 1 ≤ (((mantissa / 2 ^ places : ℕ) : ℚ) + 1) * 2 ^ places := by
    exact_mod_cast high
  constructor
  · rw [le_div_iff₀ whole]
    exact_mod_cast lowToo.trans tells.least
  · rw [div_lt_iff₀ whole]
    exact_mod_cast tells.beyond.trans_le highToo

theorem shifted_low :
    ⌊size / 2 ^ places⌋ ≤ ((shifted mantissa places accuracy).roundedMantissa : ℤ) := by
  rw [tells_floor mantissa places accuracy size tells, ← shifted_mantissa mantissa places accuracy]
  exact_mod_cast (rounded_mantissa_bounds _).1

theorem shifted_high :
    ((shifted mantissa places accuracy).roundedMantissa : ℤ) ≤ ⌈size / 2 ^ places⌉ := by
  have floor := tells_floor mantissa places accuracy size tells
  have next := (rounded_mantissa_bounds (shifted mantissa places accuracy)).2
  rw [shifted_mantissa] at next
  by_cases onGrid : size / 2 ^ places = ((mantissa / 2 ^ places : ℕ) : ℤ)
  · have spread : size = ((mantissa / 2 ^ places * 2 ^ places : ℕ) : ℚ) := by
      rw [div_eq_iff (by positivity)] at onGrid
      exact_mod_cast onGrid
    have multiple : mantissa / 2 ^ places * 2 ^ places = mantissa := by
      apply le_antisymm (Nat.div_mul_le_self _ _)
      have above : (mantissa : ℚ) ≤ ((mantissa / 2 ^ places * 2 ^ places : ℕ) : ℚ) :=
        tells.least.trans_eq spread
      exact_mod_cast above
    have exact : accuracy = .exact := tells.known (by rw [spread, multiple])
    have kept : shifted mantissa places accuracy = ⟨mantissa / 2 ^ places, false, false⟩ := by
      rw [exact, shifted, ExtendedMantissa.ofMantissaAndAccuracy]
      conv_lhs => rw [← multiple]
      exact shift_exact _ _
    rw [kept, onGrid, Int.ceil_intCast]
    exact le_rfl
  · have above : ((mantissa / 2 ^ places : ℕ) : ℤ) < ⌈size / 2 ^ places⌉ := by
      rw [Int.lt_ceil]
      exact lt_of_le_of_ne (Int.le_floor.mp floor.ge) (Ne.symm onGrid)
    have counted : ((shifted mantissa places accuracy).roundedMantissa : ℤ) ≤
        ((mantissa / 2 ^ places : ℕ) : ℤ) + 1 := by exact_mod_cast next
    omega

end Shifting

theorem long_nonzero (mantissa : ℕ) (long : 52 ≤ mantissa.log2) : mantissa ≠ 0 := by
  rintro rfl
  simp at long

theorem long_of_le (mantissa : ℕ) (least : 2 ^ 52 ≤ mantissa) : 52 ≤ mantissa.log2 :=
  (Nat.le_log2 (by omega)).mpr least

theorem full_bounds (mantissa : ℕ) (full : mantissa.log2 = 52) :
    2 ^ 52 ≤ mantissa ∧ mantissa < 2 ^ 53 :=
  (Nat.log2_eq_iff (long_nonzero mantissa full.ge)).mp full

section Packing

variable (sign : Sign) (mantissa : ℕ) (exponent : Int) (positive : 0 < mantissa)
  (full : mantissa.log2 = 52)

include full

theorem leading_digit : (1#1 ++ BitVec.ofNat 52 mantissa).toNat = mantissa := by
  have bounds := full_bounds mantissa full
  rw [BitVec.toNat_append, BitVec.toNat_ofNat, BitVec.toNat_ofNat, Nat.shiftLeft_eq, Nat.mul_comm,
    ← Nat.two_pow_add_eq_or_of_lt (Nat.mod_lt _ (Nat.two_pow_pos 52))]
  omega

theorem unpack_pack_full (low : -1074 ≤ exponent) (high : exponent ≤ 971) :
    unpack .binary64 (pack .binary64 (.finite sign mantissa exponent positive)) =
      .finite sign mantissa exponent positive := by
  have fits : ¬ 2 ^ Format.binary64.exponentBits ≤ (exponent + Format.binary64.exponentBias +
      Format.binary64.mantissaBitsWithoutImplicit).toNat + 1 := by
    change ¬ 2048 ≤ (exponent + 1023 + 52).toNat + 1
    omega
  have stored : (BitVec.ofNat 11 (exponent + 1023 + 52).toNat).toNat =
      (exponent + 1023 + 52).toNat := by
    rw [BitVec.toNat_ofNat]
    omega
  have notAll : BitVec.ofNat 11 (exponent + 1023 + 52).toNat ≠ -1#11 := by
    intro all
    have most := congrArg BitVec.toNat all
    rw [stored] at most
    change _ = 2047 at most
    omega
  have notNone : BitVec.ofNat 11 (exponent + 1023 + 52).toNat ≠ 0#11 := by
    intro none
    have least := congrArg BitVec.toNat none
    rw [stored] at least
    change _ = 0 at least
    omega
  have back : (((exponent + 1023 + 52).toNat : ℕ) : ℤ) - (1023 + 52) = exponent := by omega
  simp only [pack, if_neg fits, full]
  rw [if_pos (show 52 + 1 = Format.binary64.mantissaBits from rfl)]
  simp only [unpack, unpackMantissa_packComponents, unpackExponent_packComponents,
    unpackSign_packComponents, Sign.ofBitVec_toBitVec]
  change (if BitVec.ofNat 11 (exponent + 1023 + 52).toNat = -1#11 then _ else _) = _
  rw [if_neg notAll]
  change (if BitVec.ofNat 11 (exponent + 1023 + 52).toNat = 0#11 then _ else _) = _
  rw [if_neg notNone]
  congr 1
  · exact leading_digit mantissa full
  · change (((BitVec.ofNat 11 (exponent + 1023 + 52).toNat).toNat : ℕ) : ℤ) - (1023 + 52) = _
    rw [stored, back]

end Packing

section Normalizing

variable (sign : Sign) (mantissa : ℕ) (exponent : Int) (accuracy : Accuracy)

def excess : ℕ := mantissa.log2 - 52

theorem round_of_shifts (first last : ExtendedMantissa) (unit unitToo : Int)
    (once : shiftToTargetExponent .binary64 mantissa exponent accuracy = (first, unit))
    (twice : shiftToTargetExponent .binary64 first.roundedMantissa unit .exact = (last, unitToo))
    (positive : 0 < last.mantissa) :
    roundWithAccuracy .binary64 sign mantissa exponent accuracy =
      .finite sign last.mantissa unitToo positive := by
  simp only [roundWithAccuracy, once, twice]
  rw [dif_neg positive.ne']

theorem target_long (long : 52 ≤ mantissa.log2) (low : -1074 ≤ exponent + excess mantissa) :
    shiftToTargetExponent .binary64 mantissa exponent accuracy =
      (shifted mantissa (excess mantissa) accuracy, exponent + excess mantissa) := by
  have places :
      (Format.binary64.targetExponent (totalExponent mantissa exponent) - exponent).toNat =
        excess mantissa := by
    simp only [Format.targetExponent, totalExponent, Format.mantissaBits, Format.minExponent,
      excess]
    simp only [excess] at low
    omega
  rw [shiftToTargetExponent, shiftToExponent, places, shifted]

theorem round_long (unit : Int) (count : ℕ) (long : 52 ≤ mantissa.log2)
    (placed : exponent + excess mantissa = unit)
    (counted : (shifted mantissa (excess mantissa) accuracy).roundedMantissa = count)
    (least : 2 ^ 52 ≤ count) (most : count ≤ 2 ^ 53) (low : -1074 ≤ unit) (high : unit ≤ 970) :
    Denotes (unpack .binary64 (pack .binary64
      (roundWithAccuracy .binary64 sign mantissa exponent accuracy)))
      (toward sign (count * 2 ^ unit)) := by
  subst placed counted
  have once := target_long mantissa exponent accuracy long low
  generalize shifted mantissa (excess mantissa) accuracy = first at *
  generalize exponent + excess mantissa = unit at *
  rcases most.lt_or_eq with less | carry
  · have full : first.roundedMantissa.log2 = 52 :=
      (Nat.log2_eq_iff (by omega)).mpr ⟨least, less⟩
    have none : excess first.roundedMantissa = 0 := by rw [excess, full]
    have twice := target_long first.roundedMantissa unit .exact full.ge (by omega)
    have same : (shifted first.roundedMantissa 0 .exact).mantissa = first.roundedMantissa := by
      rw [shifted_mantissa, Nat.pow_zero, Nat.div_one]
    rw [none, Nat.cast_zero, add_zero] at twice
    rw [round_of_shifts _ _ _ _ first _ unit unit once twice (by omega)]
    simp only [same]
    rw [unpack_pack_full _ _ _ _ full low (by omega)]
    exact .finite _ _ _ _ full
  · have one : excess (2 ^ 53) = 1 := by rw [excess, Nat.log2_two_pow]
    have twice := target_long (2 ^ 53) unit .exact (by rw [Nat.log2_two_pow]; omega) (by omega)
    have half : (shifted (2 ^ 53) 1 .exact).mantissa = 2 ^ 52 := by
      rw [shifted_mantissa]
      rfl
    rw [one, Nat.cast_one, ← carry] at twice
    rw [round_of_shifts _ _ _ _ first _ unit (unit + 1) once twice (by rw [carry, half]; norm_num)]
    simp only [carry, half]
    rw [unpack_pack_full _ _ _ _ Nat.log2_two_pow (by omega) (by omega)]
    have value : (((2 : ℕ) ^ 53 : ℕ) : ℚ) * 2 ^ unit = ((2 ^ 52 : ℕ) : ℚ) * 2 ^ (unit + 1) := by
      rw [zpow_add₀ (by norm_num : (2 : ℚ) ≠ 0) _ 1, zpow_one]
      push_cast
      ring
    rw [value]
    exact .finite _ _ _ _ Nat.log2_two_pow

theorem unit_low (unit : ℤ) (digits : ℕ) (least : 1 / 2 ^ 200 < (2 : ℚ) ^ digits * 2 ^ unit) :
    -200 - (digits : ℤ) < unit := by
  have split : (2 : ℚ) ^ (-200 - (digits : ℤ)) * 2 ^ digits = 1 / 2 ^ 200 := by
    rw [← zpow_natCast, ← zpow_add₀ (by norm_num), sub_add_cancel]
    norm_num
  have power : (2 : ℚ) ^ (-200 - (digits : ℤ)) < 2 ^ unit := by
    rw [← split, mul_comm] at least
    exact lt_of_mul_lt_mul_left least (by positivity)
  exact (zpow_lt_zpow_iff_right₀ (by norm_num)).mp power

section Moderation

variable (size : ℚ) (tells : Tells mantissa accuracy size) (long : 52 ≤ mantissa.log2)

include tells long

theorem size_bounds :
    2 ^ 52 ≤ size / 2 ^ excess mantissa ∧ size / 2 ^ excess mantissa < 2 ^ 53 := by
  have split : mantissa.log2 = 52 + excess mantissa := by
    rw [excess]
    omega
  have bounds := (Nat.log2_eq_iff (long_nonzero mantissa long)).mp split
  have low : (2 : ℚ) ^ (52 + excess mantissa) ≤ mantissa := by exact_mod_cast bounds.1
  have high : (mantissa : ℚ) + 1 ≤ 2 ^ (52 + excess mantissa + 1) := by exact_mod_cast bounds.2
  constructor
  · rw [le_div_iff₀ (by positivity), ← pow_add]
    exact low.trans tells.least
  · have next : 53 + excess mantissa = 52 + excess mantissa + 1 := by omega
    rw [div_lt_iff₀ (by positivity), ← pow_add, next]
    exact tells.beyond.trans_le high

theorem round_moderate (least : 1 / 2 ^ 200 ≤ size * 2 ^ exponent)
    (most : size * 2 ^ exponent ≤ 2 ^ 200) : ∃ rounded, Rounded (size * 2 ^ exponent) rounded ∧
    Denotes (unpack .binary64 (pack .binary64
      (roundWithAccuracy .binary64 sign mantissa exponent accuracy))) (toward sign rounded) := by
  have bounds := size_bounds mantissa accuracy size tells long
  have low := shifted_low mantissa (excess mantissa) accuracy size tells
  have high := shifted_high mantissa (excess mantissa) accuracy size tells
  generalize placed : exponent + excess mantissa = unit
  generalize counted : (shifted mantissa (excess mantissa) accuracy).roundedMantissa = count
  rw [counted] at low high
  have step : (0 : ℚ) < 2 ^ unit := by positivity
  have spread : size * 2 ^ exponent / 2 ^ unit = size / 2 ^ excess mantissa := by
    rw [← placed, zpow_add₀ (by norm_num : (2 : ℚ) ≠ 0), zpow_natCast]
    field_simp
  have full : 2 ^ 52 * 2 ^ unit ≤ size * 2 ^ exponent := by
    rw [← le_div_iff₀ step, spread]
    exact bounds.1
  have close : size * 2 ^ exponent < 2 ^ 53 * 2 ^ unit := by
    rw [← div_lt_iff₀ step, spread]
    exact bounds.2
  have unitLow := unit_low unit 53 (least.trans_lt close)
  have unitHigh : unit ≤ 148 := by
    have power : (2 : ℚ) ^ unit ≤ 2 ^ (148 : ℤ) := by
      norm_num at most full ⊢
      linarith
    exact (zpow_le_zpow_iff_right₀ (by norm_num)).mp power
  refine ⟨count * 2 ^ unit, rounded_of_grid _ unit count full (spread ▸ low) (spread ▸ high), ?_⟩
  apply round_long sign mantissa exponent accuracy unit count long placed counted _ _ (by omega)
    (by omega)
  · have many : (2 : ℤ) ^ 52 ≤ ⌊size / 2 ^ excess mantissa⌋ := by
      rw [Int.le_floor]
      exact_mod_cast bounds.1
    exact_mod_cast many.trans low
  · have few : ⌈size / 2 ^ excess mantissa⌉ ≤ (2 : ℤ) ^ 53 := by
      rw [Int.ceil_le]
      exact_mod_cast bounds.2.le
    exact_mod_cast high.trans few

end Moderation

end Normalizing

section Toward

variable (sign other : Sign) (p q : ℚ)

theorem toward_abs : |toward sign q| = |q| := by
  cases sign with
  | positive => rfl
  | negative => exact abs_neg q

theorem toward_mul : toward sign p * toward other q = toward (sign * other) (p * q) := by
  cases sign with
  | positive => cases other with
    | positive => rfl
    | negative => exact mul_neg p q
  | negative => cases other with
    | positive => exact neg_mul p q
    | negative => exact neg_mul_neg p q

theorem toward_div : toward sign p / toward other q = toward (sign / other) (p / q) := by
  cases sign with
  | positive => cases other with
    | positive => rfl
    | negative => exact div_neg p
  | negative => cases other with
    | positive => exact neg_div q p
    | negative => exact neg_div_neg_eq p q

theorem toward_apply (amount : ℤ) : toward sign amount = (sign.apply amount : ℤ) := by
  cases sign with
  | positive => rfl
  | negative => exact (Int.cast_neg amount).symm

theorem moderate_size (positive : 0 < q) (moderate : Moderate (toward sign q)) :
    1 / 2 ^ 200 ≤ q ∧ q ≤ 2 ^ 200 := by
  simp only [Moderate, Sized] at moderate
  rw [← abs_eq_zero, toward_abs, abs_of_pos positive] at moderate
  exact moderate.resolve_left positive.ne'

end Toward

section Operations

variable (x y : UnpackedFloat) (p q : ℚ)

def Comes (result : UnpackedFloat) (exact : ℚ) : Prop :=
  ∃ rounded, Rounded exact rounded ∧ Denotes (unpack .binary64 (pack .binary64 result)) rounded

theorem comes_zero (sign : Sign) : Comes (.zero sign) 0 := by
  refine ⟨0, rounded_refl 0, ?_⟩
  simp only [pack, unpack_packedZero]
  exact .zero sign

theorem comes_round (sign : Sign) (mantissa : ℕ) (exponent : Int) (accuracy : Accuracy) (size : ℚ)
    (tells : Tells mantissa accuracy size) (long : 52 ≤ mantissa.log2)
    (moderate : Moderate (toward sign (size * 2 ^ exponent))) :
    Comes (roundWithAccuracy .binary64 sign mantissa exponent accuracy)
      (toward sign (size * 2 ^ exponent)) := by
  have counted : (0 : ℚ) < mantissa := by
    exact_mod_cast Nat.pos_of_ne_zero (long_nonzero mantissa long)
  have positive : 0 < size * 2 ^ exponent := by
    have := counted.trans_le tells.least
    positivity
  obtain ⟨least, most⟩ := moderate_size sign _ positive moderate
  obtain ⟨rounded, next, denotes⟩ :=
    round_moderate sign mantissa exponent accuracy size tells long least most
  exact ⟨toward sign rounded, rounded_toward sign _ _ next, denotes⟩

theorem comes_mul (first : Denotes x p) (second : Denotes y q) (moderate : Moderate (p * q)) :
    Comes (mul .binary64 x y) (p * q) := by
  cases first with
  | zero sign =>
      rw [zero_mul]
      cases second with
      | zero | finite => exact comes_zero _
  | finite sign mantissa exponent positive full =>
      cases second with
      | zero other =>
          rw [mul_zero]
          exact comes_zero _
      | finite other mantissaToo exponentToo positiveToo fullToo =>
          have value : (mantissa : ℚ) * 2 ^ exponent * (mantissaToo * 2 ^ exponentToo) =
              ((mantissa * mantissaToo : ℕ) : ℚ) * 2 ^ (exponent + exponentToo) := by
            rw [zpow_add₀ (by norm_num : (2 : ℚ) ≠ 0)]
            push_cast
            ring
          rw [toward_mul, value] at moderate ⊢
          refine comes_round _ _ _ .exact _ (tells_exact _) (long_of_le _ ?_) moderate
          exact (full_bounds mantissa full).1.trans (Nat.le_mul_of_pos_right _ positiveToo)

theorem tells_fraction (size divisor : ℕ) (positive : 0 < divisor) :
    Tells (size / divisor) (accuracyOfFraction (size % divisor) divisor) (size / divisor : ℚ) := by
  have some_part : (0 : ℚ) < divisor := by exact_mod_cast positive
  refine ⟨Nat.cast_div_le, ?_, ?_⟩
  · rw [div_lt_iff₀ some_part]
    exact_mod_cast Nat.lt_mul_of_div_lt (Nat.lt_succ_self _) positive
  · intro whole
    rw [div_eq_iff some_part.ne'] at whole
    have multiple : size = size / divisor * divisor := by exact_mod_cast whole
    have none : size % divisor = 0 := Nat.mod_eq_zero_of_dvd ⟨_, multiple.trans (Nat.mul_comm _ _)⟩
    rw [accuracyOfFraction, if_pos none]

theorem div_core_full (mantissa mantissaToo : ℕ) (exponent exponentToo : Int)
    (full : mantissa.log2 = 52) (fullToo : mantissaToo.log2 = 52)
    (low : -1021 ≤ exponent - exponentToo) :
    divCore .binary64 mantissa exponent mantissaToo exponentToo =
      (mantissa * 2 ^ 53 / mantissaToo, exponent - exponentToo - 53,
        accuracyOfFraction (mantissa * 2 ^ 53 % mantissaToo) mantissaToo) := by
  have target : min (exponent - exponentToo) (Format.binary64.targetExponent
      (totalExponent mantissa exponent - totalExponent mantissaToo exponentToo)) =
      exponent - exponentToo - 53 := by
    simp only [Format.targetExponent, totalExponent, Format.mantissaBits, Format.minExponent, full,
      fullToo]
    omega
  have places : (exponent - exponentToo - (exponent - exponentToo - 53)).toNat = 53 := by omega
  simp only [divCore, target, places, Nat.shiftLeft_eq]

theorem comes_div (first : Denotes x p) (second : Denotes y q) (nonzero : q ≠ 0)
    (moderate : Moderate (p / q)) : Comes (div .binary64 x y) (p / q) := by
  cases second with
  | zero => exact absurd rfl nonzero
  | finite other mantissaToo exponentToo positiveToo fullToo =>
      cases first with
      | zero sign =>
          rw [zero_div]
          exact comes_zero _
      | finite sign mantissa exponent positive full =>
          have bounds := full_bounds mantissa full
          have boundsToo := full_bounds mantissaToo fullToo
          have some_part : (0 : ℚ) < mantissaToo := by exact_mod_cast positiveToo
          have value : (mantissa : ℚ) * 2 ^ exponent / (mantissaToo * 2 ^ exponentToo) =
              ((mantissa * 2 ^ 53 : ℕ) : ℚ) / mantissaToo * 2 ^ (exponent - exponentToo - 53) := by
            rw [zpow_sub₀ (by norm_num : (2 : ℚ) ≠ 0), zpow_sub₀ (by norm_num : (2 : ℚ) ≠ 0)]
            push_cast
            field_simp
          rw [toward_div, value] at moderate ⊢
          have low : -1021 ≤ exponent - exponentToo := by
            obtain ⟨least, _⟩ := moderate_size _ _ (by positivity) moderate
            have few : ((mantissa * 2 ^ 53 : ℕ) : ℚ) / mantissaToo < 2 ^ 54 := by
              rw [div_lt_iff₀ some_part]
              exact_mod_cast (by nlinarith : mantissa * 2 ^ 53 < 2 ^ 54 * mantissaToo)
            have unit := unit_low (exponent - exponentToo - 53) 54
              (least.trans_lt (mul_lt_mul_of_pos_right few (by positivity)))
            omega
          have long : 52 ≤ (mantissa * 2 ^ 53 / mantissaToo).log2 := by
            apply long_of_le
            rw [Nat.le_div_iff_mul_le positiveToo]
            nlinarith
          simp only [div, div_core_full _ _ _ _ full fullToo low]
          exact comes_round _ _ _ _ _ (tells_fraction _ _ positiveToo) long moderate

theorem comes_filled (sign : Sign) (mantissa : ℕ) (exponent : Int) (positive : 0 < mantissa)
    (moderate : Moderate (toward sign (mantissa * 2 ^ exponent))) :
    Comes (UnpackedFloat.round .binary64 sign mantissa exponent)
      (toward sign (mantissa * 2 ^ exponent)) := by
  have counted : (0 : ℚ) < mantissa := by exact_mod_cast positive
  obtain ⟨least, _⟩ := moderate_size sign _ (by positivity) moderate
  have bounds := (Nat.log2_eq_iff positive.ne').mp rfl
  have few : (mantissa : ℚ) < 2 ^ (mantissa.log2 + 1) := by exact_mod_cast bounds.2
  have unit := unit_low exponent (mantissa.log2 + 1)
    (least.trans_lt (mul_lt_mul_of_pos_right few (by positivity)))
  generalize filled : (exponent - Format.binary64.targetExponent
    (totalExponent mantissa exponent)).toNat = places
  have enough : 52 ≤ mantissa.log2 + places := by
    simp only [Format.targetExponent, totalExponent, Format.mantissaBits,
      Format.minExponent] at filled
    omega
  have value : (mantissa : ℚ) * 2 ^ exponent =
      ((mantissa * 2 ^ places : ℕ) : ℚ) * 2 ^ (exponent - places) := by
    rw [zpow_sub₀ (by norm_num : (2 : ℚ) ≠ 0), zpow_natCast]
    push_cast
    field_simp
  rw [value] at moderate ⊢
  simp only [UnpackedFloat.round, decreaseExponent, filled, Nat.shiftLeft_eq]
  refine comes_round _ _ _ .exact _ (tells_exact _) (long_of_le _ ?_) moderate
  calc 2 ^ 52 ≤ 2 ^ (mantissa.log2 + places) := Nat.pow_le_pow_right (by norm_num) enough
    _ = 2 ^ mantissa.log2 * 2 ^ places := Nat.pow_add _ _ _
    _ ≤ mantissa * 2 ^ places := Nat.mul_le_mul_right _ bounds.1

theorem comes_normalize (amount exponent : Int) (moderate : Moderate (amount * 2 ^ exponent)) :
    Comes (normalize .binary64 amount exponent .positive) (amount * 2 ^ exponent) := by
  rcases lt_trichotomy amount 0 with below | rfl | above
  · have size : (amount : ℚ) * 2 ^ exponent =
        toward .negative (((-amount).toNat : ℕ) * 2 ^ exponent) := by
      have turned : (((-amount).toNat : ℕ) : ℚ) = -amount := by
        exact_mod_cast Int.toNat_of_nonneg (by omega)
      rw [toward, turned, neg_mul, neg_neg]
    rw [size] at moderate ⊢
    rw [normalize_below _ _ _ below]
    exact comes_filled _ _ _ (by omega) moderate
  · rw [Int.cast_zero, zero_mul]
    exact comes_zero _
  · have size : (amount : ℚ) * 2 ^ exponent =
        toward .positive ((amount.toNat : ℕ) * 2 ^ exponent) := by
      have same : ((amount.toNat : ℕ) : ℚ) = amount := by
        exact_mod_cast Int.toNat_of_nonneg (by omega)
      rw [toward, same]
    rw [size] at moderate ⊢
    rw [normalize_above _ _ _ above]
    exact comes_filled _ _ _ (by omega) moderate

theorem denotes_neg (denotes : Denotes x p) : Denotes x.neg (-p) := by
  cases denotes with
  | zero sign =>
      rw [neg_zero]
      exact .zero _
  | finite sign mantissa exponent positive full =>
      have turned : -toward sign (mantissa * 2 ^ exponent) =
          toward (-sign) (mantissa * 2 ^ exponent) := by
        cases sign with
        | positive => rfl
        | negative => exact neg_neg _
      rw [turned]
      exact .finite _ _ _ positive full

theorem comes_add_finite (sign other : Sign) (mantissa mantissaToo : ℕ)
    (exponent exponentToo : Int) (positive : 0 < mantissa) (positiveToo : 0 < mantissaToo)
    (moderate : Moderate (toward sign (mantissa * 2 ^ exponent) +
      toward other (mantissaToo * 2 ^ exponentToo))) :
    Comes (add .binary64 (.finite sign mantissa exponent positive)
      (.finite other mantissaToo exponentToo positiveToo))
      (toward sign (mantissa * 2 ^ exponent) + toward other (mantissaToo * 2 ^ exponentToo)) := by
  have lowered : ∀ (way : Sign) (size : ℕ) (power lower : Int), lower ≤ power →
      toward way (size * 2 ^ power) =
        ((way.apply (size <<< (power - lower).toNat : ℕ) : ℤ) : ℚ) * 2 ^ lower := by
    intro way size power lower below
    have split : (2 : ℚ) ^ power = 2 ^ (power - lower).toNat * 2 ^ lower := by
      rw [← zpow_natCast, ← zpow_add₀ (by norm_num), Int.toNat_of_nonneg (by omega),
        sub_add_cancel]
    rw [split, Nat.shiftLeft_eq, ← mul_assoc, ← toward_apply]
    cases way with
    | positive => simp [toward]
    | negative => simp [toward]
  rw [lowered sign mantissa exponent _ (min_le_left exponent exponentToo),
    lowered other mantissaToo exponentToo _ (min_le_right exponent exponentToo), ← add_mul,
    ← Int.cast_add] at moderate ⊢
  simp only [add, decreaseExponent]
  exact comes_normalize _ _ moderate

theorem comes_add (first : Denotes x p) (second : Denotes y q) (alone : Comes x p)
    (aloneToo : Comes y q) (moderate : Moderate (p + q)) : Comes (add .binary64 x y) (p + q) := by
  cases first with
  | zero sign =>
      rw [zero_add]
      cases second with
      | zero other =>
          simp only [add]
          split <;> exact comes_zero _
      | finite => exact aloneToo
  | finite sign mantissa exponent positive full =>
      cases second with
      | zero =>
          rw [add_zero]
          exact alone
      | finite other mantissaToo exponentToo positiveToo fullToo =>
          exact comes_add_finite sign other _ _ _ _ positive positiveToo moderate

end Operations

end Scalar

end Rover
