import Rover.Proofs.Fractions
import Rover.Proofs.Grammar

set_option autoImplicit false

namespace Rover.Json

section Digits

def onward (held : Nat) (digits : List UInt8) : Nat :=
  digits.foldl (fun value digit => 10 * value + digitValue digit) held

theorem onward_grows (held : Nat) (digits : List UInt8) : held ≤ onward held digits := by
  induction digits generalizing held with
  | nil => exact Nat.le_refl held
  | cons digit rest ih =>
      refine Nat.le_trans ?_ (ih (10 * held + digitValue digit))
      omega

-- The first digits have room in 64 bits behind what is held there, the next one has none, and
-- neither has any behind it.
structure Packed (held : Nat) (digits : List UInt8) (value lost : Nat) : Prop where
  split : ∃ taken left, digits = taken ++ left ∧ onward held taken = value ∧ left.length = lost ∧
    ∀ digit ∈ left.head?, 2 ^ 64 ≤ 10 * value + digitValue digit
  room : value < 2 ^ 64

theorem packed_all (held : ℕ) (digits : List UInt8) (room : onward held digits < 2 ^ 64) :
    Packed held digits (onward held digits) 0 :=
  ⟨⟨digits, [], (List.append_nil digits).symm, rfl, rfl, by simp⟩, room⟩

theorem keep_cons (held : Nat) (digit : UInt8) (rest : List UInt8) : keep held (digit :: rest) =
    if 10 * held + digitValue digit < 2 ^ 64 then keep (10 * held + digitValue digit) rest
    else (held, rest.length + 1) := by
  rfl

theorem keep_packed (held : Nat) (digits : List UInt8) (room : held < 2 ^ 64) :
    Packed held digits (keep held digits).1 (keep held digits).2 := by
  induction digits generalizing held with
  | nil => exact ⟨⟨[], [], rfl, rfl, rfl, by simp⟩, room⟩
  | cons digit rest ih =>
      rw [keep_cons]
      by_cases fits : 10 * held + digitValue digit < 2 ^ 64
      · rw [if_pos fits]
        obtain ⟨⟨taken, left, rfl, value, lost, full⟩, bound⟩ := ih _ fits
        exact ⟨⟨digit :: taken, left, rfl, value, lost, full⟩, bound⟩
      · rw [if_neg fits]
        refine ⟨⟨[], digit :: rest, rfl, rfl, rfl, fun first head => ?_⟩, room⟩
        cases head
        exact Nat.le_of_not_lt fits

theorem keep_of_packed (held : Nat) (digits : List UInt8) (value lost : Nat)
    (packed : Packed held digits value lost) : keep held digits = (value, lost) := by
  obtain ⟨⟨taken, left, rfl, value, lost, full⟩, room⟩ := packed
  subst value lost
  induction taken generalizing held with
  | nil =>
      cases left with
      | nil => rfl
      | cons digit rest =>
          have none : ¬10 * held + digitValue digit < 2 ^ 64 := Nat.not_lt.mpr (full digit rfl)
          rw [List.nil_append, keep_cons, if_neg none]
          rfl
  | cons digit rest ih =>
      have fits : 10 * held + digitValue digit < 2 ^ 64 :=
        Nat.lt_of_le_of_lt (onward_grows _ rest) room
      rw [List.cons_append, keep_cons, if_pos fits]
      exact ih _ room full

theorem packed_iff (held : Nat) (digits : List UInt8) (value lost : Nat) (room : held < 2 ^ 64) :
    Packed held digits value lost ↔ keep held digits = (value, lost) := by
  constructor
  · exact keep_of_packed held digits value lost
  · intro kept
    have packed := keep_packed held digits room
    rwa [kept] at packed

end Digits

section Scaling

-- A value times a power of ten. Powers among the floats are taken at once; a lower one is reached
-- over the lowest of them, and a higher one is out of range for anything but zero.
inductive Scaled : Float → Int → Float → Prop where
  | up (value : Float) (power : Nat) (listed : power ≤ maxPower)
      (finite : (value * tenTo power).isInf = false) : Scaled value power (value * tenTo power)
  | down (value : Float) (power : Nat) (some : 0 < power) (listed : power ≤ maxPower) :
      Scaled value (-power) (value / tenTo power)
  | nothing (value : Float) (power : Int) (beyond : maxPower < power.natAbs)
      (zero : (value == 0.0) = true) : Scaled value power value
  | lower (value : Float) (power : Int) (result : Float) (beyond : power < -maxPower)
      (some : (value == 0.0) = false)
      (rest : Scaled (value / tenTo maxPower) (power + maxPower) result) :
      Scaled value power result

theorem scaled_below (value : Float) (digits : Nat) :
    scaled? value (-(digits + 1 : Nat)) =
      some (lowered (digits / maxPower) value (digits % maxPower + 1)) := by
  rw [scaled?, if_neg (by omega)]
  have size : (-((digits + 1 : Nat) : Int)).natAbs - 1 = digits := by omega
  rw [size]

theorem scaled_of_some (value : Float) (power : Int) (result : Float)
    (scaled : Scaled value power result) : scaled? value power = some result := by
  induction scaled with
  | up value power listed finite =>
      rw [scaled?, if_pos (Int.natCast_nonneg power), Int.toNat_natCast, raised?, if_pos listed]
      simp only [finite]
      rfl
  | down value power some listed =>
      obtain ⟨digits, rfl⟩ := Nat.exists_eq_succ_of_ne_zero some.ne'
      have few : digits < maxPower := listed
      rw [Nat.succ_eq_add_one, scaled_below, Nat.div_eq_of_lt few, Nat.mod_eq_of_lt few, lowered]
  | nothing value power beyond zero =>
      rw [scaled?]
      by_cases up : 0 ≤ power
      · rw [if_pos up, raised?, if_neg (by omega), if_pos zero]
      · have more : 0 < (power.natAbs - 1) / maxPower :=
          Nat.div_pos (by omega) (by decide)
        obtain ⟨times, many⟩ := Nat.exists_eq_succ_of_ne_zero more.ne'
        rw [if_neg up]
        simp only [many]
        rw [lowered, if_pos zero]
  | lower value power result beyond some rest ih =>
      obtain ⟨digits, below⟩ := Int.eq_ofNat_of_zero_le
        (show 0 ≤ -(power + maxPower) - 1 by omega)
      have here : power = -((digits + maxPower + 1 : Nat) : Int) := by omega
      have next : power + maxPower = -((digits + 1 : Nat) : Int) := by omega
      rw [next, scaled_below] at ih
      rw [here, scaled_below, Nat.add_div_right _ (by decide), Nat.add_mod_right, lowered,
        if_neg (by rw [some]; decide), ih]

theorem lowered_scaled (times : Nat) (value : Float) (power : Nat) (few : power < maxPower) :
    Scaled value (-(maxPower * times + power + 1 : Nat)) (lowered times value (power + 1)) := by
  induction times generalizing value with
  | zero =>
      rw [Nat.mul_zero, Nat.zero_add, lowered]
      exact .down value (power + 1) (Nat.succ_pos power) few
  | succ times ih =>
      have more : maxPower * (times + 1) = maxPower * times + maxPower := Nat.mul_succ _ _
      rw [lowered]
      cases zero : value == 0.0 with
      | true => exact .nothing value _ (by omega) zero
      | false =>
          refine .lower value _ _ (by omega) zero ?_
          have next : -((maxPower * (times + 1) + power + 1 : Nat) : Int) + maxPower =
              -((maxPower * times + power + 1 : Nat) : Int) := by omega
          rw [next]
          exact ih _

theorem scaled_iff (value : Float) (power : Int) (result : Float) :
    Scaled value power result ↔ scaled? value power = some result := by
  refine ⟨scaled_of_some value power result, fun came => ?_⟩
  rw [scaled?] at came
  by_cases up : 0 ≤ power
  · obtain ⟨power, rfl⟩ := Int.eq_ofNat_of_zero_le up
    rw [if_pos up, Int.toNat_natCast, raised?] at came
    by_cases listed : power ≤ maxPower
    · rw [if_pos listed] at came
      cases finite : (value * tenTo power).isInf with
      | true =>
          simp only [finite] at came
          cases came
      | false =>
          simp only [finite] at came
          cases came
          exact .up value power listed finite
    · rw [if_neg listed] at came
      cases zero : value == 0.0 with
      | true =>
          rw [zero] at came
          cases came
          exact .nothing value power (by omega) zero
      | false =>
          rw [zero] at came
          cases came
  · rw [if_neg up] at came
    cases came
    generalize digits_eq : power.natAbs - 1 = digits
    have few : digits % maxPower < maxPower := Nat.mod_lt _ (by decide)
    have scaled := lowered_scaled (digits / maxPower) value (digits % maxPower) few
    have all : power = -((maxPower * (digits / maxPower) + digits % maxPower + 1 : Nat) : Int) := by
      rw [Nat.div_add_mod]
      omega
    rwa [← all] at scaled

end Scaling

namespace Literal

variable (literal : Literal)

def behind : List UInt8 := (literal.decimals.map Digits.bytes).getD []

def tens : Int := (literal.power.map Power.value).getD 0

def Plain : Prop :=
  literal.decimals = none ∧ literal.power = none ∧ ofDigits literal.whole.bytes < 2 ^ 64

-- The digits before the point are packed first. Those behind it may find room again.
def Packs (significand : Nat) (exponent : Int) : Prop :=
  ∃ held lost lostToo, Packed 0 literal.whole.bytes held lost ∧
    Packed held literal.behind significand lostToo ∧
    exponent = (lost + lostToo : Nat) - literal.behind.length + literal.tens

inductive Size : Float → Prop where
  | plain (whole : literal.Plain) : Size (ofDigits literal.whole.bytes).toUInt64.toFloat
  | scaled (significand : Nat) (exponent : Int) (size : Float) (broken : ¬literal.Plain)
      (packs : literal.Packs significand exponent)
      (scaled : Scaled significand.toUInt64.toFloat exponent size) : Size size

def Real (x : Float) : Prop :=
  ∃ size, literal.Size size ∧ (if literal.negative then -size else size) = x

def Whole (n : Int) : Prop :=
  literal.decimals = none ∧ literal.power = none ∧
    if literal.negative then n = -ofDigits literal.whole.bytes ∧ n ≠ 0
    else n = ofDigits literal.whole.bytes

theorem numeral_packed (held lost significand lostToo : Nat)
    (whole : keep 0 literal.whole.bytes = (held, lost))
    (decimals : keep held literal.behind = (significand, lostToo)) :
    literal.numeral = {
      negative := literal.negative
      significand
      exponent := (lost + lostToo : Nat) - literal.behind.length + literal.tens
      plain := lost = 0 && literal.decimals.isNone && literal.power.isNone } := by
  rw [behind] at decimals
  rw [numeral, Reader.ofParts, whole]
  dsimp only
  rw [decimals, Option.isNone_map, Option.isNone_map]
  rfl

theorem packs_iff (significand : Nat) (exponent : Int) :
    literal.Packs significand exponent ↔
      literal.numeral.significand = significand ∧ literal.numeral.exponent = exponent := by
  rcases whole : keep 0 literal.whole.bytes with ⟨held, lost⟩
  have first := (packed_iff 0 literal.whole.bytes held lost (by decide)).mpr whole
  rcases decimals : keep held literal.behind with ⟨kept, lostToo⟩
  have second := (packed_iff held literal.behind kept lostToo first.room).mpr decimals
  rw [numeral_packed literal held lost kept lostToo whole decimals]
  constructor
  · rintro ⟨heldToo, left, leftToo, before, after, rfl⟩
    cases whole.symm.trans (keep_of_packed _ _ _ _ before)
    cases decimals.symm.trans (keep_of_packed _ _ _ _ after)
    exact ⟨rfl, rfl⟩
  · rintro ⟨rfl, rfl⟩
    exact ⟨held, lost, lostToo, first, second, rfl⟩

theorem plain_iff : literal.numeral.plain = true ↔ literal.Plain := by
  rcases whole : keep 0 literal.whole.bytes with ⟨held, lost⟩
  have packed := (packed_iff 0 literal.whole.bytes held lost (by decide)).mpr whole
  rw [numeral_packed literal held lost _ _ whole rfl]
  simp only [Plain, Bool.and_eq_true, decide_eq_true_eq, Option.isNone_iff_eq_none]
  have all : lost = 0 ↔ ofDigits literal.whole.bytes < 2 ^ 64 := by
    constructor
    · rintro rfl
      obtain ⟨taken, left, cut, value, none, -⟩ := packed.split
      rw [List.length_eq_zero_iff.mp none, List.append_nil] at cut
      rw [cut, ofDigits]
      exact Nat.lt_of_le_of_lt (Nat.le_of_eq value) packed.room
    · intro room
      cases whole.symm.trans (keep_of_packed _ _ _ _ (packed_all 0 literal.whole.bytes room))
      rfl
  rw [all]
  tauto

theorem plain_significand (plain : literal.Plain) :
    literal.numeral.significand = ofDigits literal.whole.bytes := by
  obtain ⟨point, -, room⟩ := plain
  have kept := keep_of_packed _ _ _ _ (packed_all 0 literal.whole.bytes room)
  have none : literal.behind = [] := by rw [behind, point]; rfl
  rw [numeral_packed literal _ 0 _ 0 kept (by rw [none]; rfl)]
  rfl

theorem size_iff (size : Float) : literal.Size size ↔ literal.numeral.size? = some size := by
  rw [Numeral.size?]
  by_cases plain : literal.Plain
  · rw [if_pos ((plain_iff literal).mpr plain), plain_significand literal plain]
    constructor
    · intro sized
      cases sized with
      | plain => rfl
      | scaled _ _ _ broken => exact absurd plain broken
    · rintro ⟨⟩
      exact .plain plain
  · rw [if_neg (mt (plain_iff literal).mp plain), ← scaled_iff]
    constructor
    · intro sized
      cases sized with
      | plain whole => exact absurd whole plain
      | scaled significand exponent _ _ packs scaled =>
          obtain ⟨rfl, rfl⟩ := (packs_iff literal _ _).mp packs
          exact scaled
    · exact .scaled _ _ size plain ((packs_iff literal _ _).mpr ⟨rfl, rfl⟩)

theorem real_iff (x : Float) : literal.Real x ↔ literal.numeral.float? = some x := by
  simp only [Real, size_iff, Numeral.float?, Option.map_eq_some_iff]
  rfl

-- Whole numbers of 32 bits are far from the end of 64.
theorem whole_iff (n : Int) (low : -2147483648 ≤ n) (high : n ≤ 4294967295) :
    literal.Whole n ↔ literal.numeral.toInt? = some n := by
  have sign : literal.numeral.negative = literal.negative := rfl
  rw [Numeral.toInt?, sign]
  by_cases plain : literal.Plain
  · have kept := (plain_iff literal).mpr plain
    simp only [kept, plain_significand literal plain, Whole, plain.1, plain.2.1, true_and]
    cases literal.negative <;> simp <;> omega
  · have broken : literal.numeral.plain = false :=
      Bool.eq_false_iff.mpr (mt (plain_iff literal).mp plain)
    simp only [broken]
    constructor
    · rintro ⟨point, power, value⟩
      refine absurd ⟨point, power, ?_⟩ plain
      split at value <;> omega
    · intro none
      cases none

end Literal

section Short

open Scalar

theorem finite_reads (x : Float) (q : ℚ) (reads : Reads x q) : x.isInf = false := by
  change (number x).isInf = false
  rw [Reads] at reads
  generalize number x = came at reads
  cases reads <;> rfl

theorem ten_reads (power : ℕ) (few : power ≤ 22) : Reads (tenTo power) (10 ^ power) := by
  generalize shift_eq : 52 - (5 ^ power).log2 = shift
  have positive : 0 < 5 ^ power * 2 ^ shift := by positivity
  refine literal_reads _ (5 ^ power * 2 ^ shift) (power - shift) _ positive ?_ ?_ ?_
  · subst shift_eq
    interval_cases power <;> decide +kernel
  · subst shift_eq
    interval_cases power <;> rfl
  · push_cast
    rw [mul_assoc, ← zpow_natCast 2 shift, ← zpow_add₀ (by norm_num), add_sub_cancel, zpow_natCast,
      ← mul_pow]
    norm_num

theorem ten_sized (power : ℕ) (few : power ≤ 22) : Sized 74 (10 ^ power : ℚ) := by
  have least : (1 : ℚ) ≤ 10 ^ power := one_le_pow₀ (by norm_num)
  have most : (10 : ℚ) ^ power ≤ 10 ^ 22 := pow_le_pow_right₀ (by norm_num) few
  right
  rw [abs_of_pos (by positivity)]
  exact ⟨le_trans (by norm_num) least, most.trans (by norm_num)⟩

theorem scaled_nears (significand : ℕ) (power : ℤ) (small : significand < 2 ^ 53)
    (low : -22 ≤ power) (high : power ≤ 22) :
    ∃ size, Scaled significand.toUInt64.toFloat power size ∧ Nears size (significand * 10 ^ power) := by
  have value : Reads significand.toUInt64.toFloat (significand : ℚ) := word_reads significand small
  have sized : Sized 53 (significand : ℚ) := sized_whole 53 significand (whole_bound _ small).le
  rcases le_or_gt 0 power with up | down
  · obtain ⟨power, rfl⟩ := Int.eq_ofNat_of_zero_le up
    have few : power ≤ 22 := by omega
    have moderate := sized_mono _ 200 _ (by norm_num) (sized_mul 53 74 _ _ sized (ten_sized power few))
    have nears := mul_nears _ _ _ _ value (ten_reads power few) moderate
    obtain ⟨rounded, -, reads⟩ := id nears
    rw [zpow_natCast]
    exact ⟨_, .up _ power (by rw [maxPower]; omega) (finite_reads _ _ reads), nears⟩
  · obtain ⟨power, rfl⟩ := Int.eq_negSucc_of_lt_zero down
    have few : power + 1 ≤ 22 := by omega
    have moderate := sized_mono _ 200 _ (by norm_num)
      (sized_div 53 74 _ _ sized (ten_sized (power + 1) few))
    have nears := div_nears _ _ _ _ value (ten_reads (power + 1) few) (by positivity) moderate
    rw [zpow_negSucc, ← div_eq_mul_inv]
    exact ⟨_, .down _ (power + 1) (Nat.succ_pos power) (by rw [maxPower]; omega), nears⟩

namespace Literal

variable (literal : Literal)

def digits : ℕ := ofDigits (literal.whole.bytes ++ literal.behind)

def value : ℚ :=
  let size : ℚ := literal.digits * 10 ^ (literal.tens - literal.behind.length)
  if literal.negative then -size else size

structure Short : Prop where
  digits : literal.digits < 2 ^ 53
  low : -22 ≤ literal.tens - literal.behind.length
  high : literal.tens - literal.behind.length ≤ 22

theorem digits_onward :
    literal.digits = onward (onward 0 literal.whole.bytes) literal.behind :=
  List.foldl_append

theorem short_packs (short : literal.Short) :
    literal.Packs literal.digits (literal.tens - literal.behind.length) := by
  have room : literal.digits < 2 ^ 64 := short.digits.trans (by norm_num)
  rw [digits_onward] at room ⊢
  have before := packed_all 0 literal.whole.bytes ((onward_grows _ literal.behind).trans_lt room)
  exact ⟨_, 0, 0, before, packed_all _ _ room, by omega⟩

-- A number of some fifteen digits, not far from the point, is read as one rounding reads it.
theorem real_of_short (short : literal.Short) :
    ∃ x, literal.Real x ∧ Nears x literal.value := by
  have sized : ∃ size, literal.Size size ∧
      Nears size (literal.digits * 10 ^ (literal.tens - literal.behind.length)) := by
    by_cases plain : literal.Plain
    · obtain ⟨point, power, -⟩ := id plain
      have none : literal.behind = [] := by rw [behind, point]; rfl
      have all : literal.digits = ofDigits literal.whole.bytes := by
        rw [digits, none, List.append_nil]
      have one : literal.tens - literal.behind.length = 0 := by rw [tens, power, none]; rfl
      rw [one, zpow_zero, mul_one, all]
      have small := short.digits
      rw [all] at small
      exact ⟨_, .plain plain, _, rounded_refl _, word_reads _ small⟩
    · obtain ⟨size, scaled, nears⟩ := scaled_nears _ _ short.digits short.low short.high
      exact ⟨size, .scaled _ _ size plain (short_packs literal short) scaled, nears⟩
  obtain ⟨size, sized, rounded, next, reads⟩ := sized
  refine ⟨_, ⟨size, sized, rfl⟩, ?_⟩
  rw [value]
  cases literal.negative with
  | false => exact ⟨rounded, next, reads⟩
  | true => exact ⟨-rounded, rounded_neg _ _ next, neg_reads size rounded reads⟩

end Literal

end Short

end Rover.Json
