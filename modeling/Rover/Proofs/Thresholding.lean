import Mathlib.Data.Nat.Bitwise
import Rover.Proofs.Mirror

set_option autoImplicit false

namespace Rover.Line

def binary (digits : List Bool) : Nat := digits.foldl (fun number digit => Nat.bit digit number) 0

theorem push_digit (bits : UInt8) (digit : Bool) (room : bits.toNat < 128) :
    (bits <<< 1 ||| digit.toUInt8).toNat = Nat.bit digit bits.toNat := by
  have shifted : (bits <<< 1).toNat = bits.toNat <<< 1 := by
    rw [UInt8.toNat_shiftLeft]
    apply Nat.mod_eq_of_lt
    change bits.toNat <<< 1 < 256
    rw [Nat.shiftLeft_eq]
    omega
  have low : digit.toNat < 2 ^ 1 := Bool.toNat_lt digit
  have same : digit.toUInt8.toNat = digit.toNat := by
    cases digit <;> rfl
  rw [UInt8.toNat_or, shifted, same, ← Nat.shiftLeft_add_eq_or_of_lt low, Nat.shiftLeft_eq,
    Nat.bit_val, Nat.mul_comm]

-- As long as there is room for them, no digit is pushed out at the top.
theorem packed_from (digits : List Bool) (bits : UInt8)
    (room : (bits.toNat + 1) * 2 ^ digits.length ≤ 256) :
    (digits.foldl (fun (bits : UInt8) digit => bits <<< 1 ||| digit.toUInt8) bits).toNat =
      digits.foldl (fun number digit => Nat.bit digit number) bits.toNat := by
  induction digits generalizing bits with
  | nil => rfl
  | cons digit rest ih =>
      rw [List.length_cons, Nat.pow_succ] at room
      have positive : 1 ≤ 2 ^ rest.length := Nat.one_le_two_pow
      have pushed := push_digit bits digit (by nlinarith)
      have grown : Nat.bit digit bits.toNat + 1 ≤ (bits.toNat + 1) * 2 := by
        have low := Bool.toNat_lt digit
        rw [Nat.bit_val]
        omega
      rw [List.foldl_cons, List.foldl_cons, ih, pushed]
      rw [pushed]
      calc (Nat.bit digit bits.toNat + 1) * 2 ^ rest.length
          ≤ (bits.toNat + 1) * 2 * 2 ^ rest.length := Nat.mul_le_mul_right _ grown
        _ = (bits.toNat + 1) * (2 ^ rest.length * 2) := by ring
        _ ≤ 256 := room

theorem packed_binary (digits : List Bool) (short : digits.length ≤ 8) :
    (packed digits).toNat = binary digits := by
  have room : 2 ^ digits.length ≤ 2 ^ 8 := Nat.pow_le_pow_right (by decide) short
  exact packed_from digits 0 (by simpa using room)

theorem binary_snoc (digits : List Bool) (digit : Bool) :
    binary (digits ++ [digit]) = Nat.bit digit (binary digits) := by
  rw [binary, List.foldl_append]
  rfl

theorem binary_digit (digits : List Bool) (place : Nat) :
    (binary digits).testBit place = digits.reverse.getD place false := by
  induction digits using List.reverseRecOn generalizing place with
  | nil => simp [binary]
  | append_singleton digits digit ih =>
      rw [binary_snoc, List.reverse_append]
      cases place with
      | zero => simp
      | succ place => simpa [Nat.testBit_bit_succ] using ih place

-- Whether a pattern shows a channel: channel 0 is the top bit, channel 7 the lowest.
def shows (bits : UInt8) (channel : Fin 8) : Bool := bits.toNat.testBit (7 - channel)

theorem shows_ext (bits other : UInt8)
    (same : ∀ channel, shows bits channel = shows other channel) : bits = other := by
  apply UInt8.toNat_inj.mp
  apply Nat.eq_of_testBit_eq
  intro place
  by_cases within : place < 8
  · have here := same ⟨7 - place, by omega⟩
    simp only [shows] at here
    rwa [show 7 - (7 - place) = place by omega] at here
  · have beyond : 2 ^ 8 ≤ 2 ^ place := Nat.pow_le_pow_right (by decide) (by omega)
    rw [Nat.testBit_lt_two_pow (bits.toNat_lt.trans_le beyond),
      Nat.testBit_lt_two_pow (other.toNat_lt.trans_le beyond)]

def flags (readings : Readings) : List Bool :=
  readings.toList.map fun reading => decide (threshold readings ≤ reading)

theorem pattern_binary (readings : Readings) :
    (pattern readings).toNat = binary (flags readings) := by
  rw [pattern_packed]
  exact packed_binary (flags readings) (by simp [flags])

theorem pattern_shows (readings : Readings) (channel : Fin 8) :
    shows (pattern readings) channel = true ↔ threshold readings ≤ readings.get channel := by
  have eight : (flags readings).length = 8 := by simp [flags]
  have place : 8 - 1 - (7 - channel.val) = channel.val := by omega
  rw [shows, pattern_binary, binary_digit, List.getD_eq_getElem?_getD,
    List.getElem?_reverse (by omega), eight, place]
  simp [flags, Vector.get]

theorem shows_upward (readings : Readings) (channel other : Fin 8)
    (shown : shows (pattern readings) channel = true)
    (above : readings.get channel ≤ readings.get other) :
    shows (pattern readings) other = true := by
  rw [pattern_shows] at shown ⊢
  exact UInt16.le_trans shown above

theorem shows_full (channel : Fin 8) : shows 0xff channel = true := by
  revert channel
  decide

theorem shows_none (channel : Fin 8) : shows 0 channel = false := by
  revert channel
  decide

theorem span_ordered (readings : Readings) (low high : UInt16) (span : Span readings low high) :
    low ≤ high := by
  obtain ⟨channel, found⟩ := span.lowest
  rw [← found]
  exact span.high channel

section Contrast

variable (readings : Readings) (low high : UInt16)
  (middle : (threshold readings).toNat = low.toNat + (high.toNat - low.toNat) / 2)

include middle

-- Half of a contrast of 1 is rounded down to nothing, and half of a greater one is not.
theorem hides_darkest (channel : Fin 8) (bottom : readings.get channel = low) :
    shows (pattern readings) channel = false ↔ 2 ≤ high.toNat - low.toNat := by
  rw [← Bool.not_eq_true, pattern_shows, bottom, UInt16.le_iff_toNat_le]
  omega

variable (span : Span readings low high)

include span

theorem shows_brightest (channel : Fin 8) (top : readings.get channel = high) :
    shows (pattern readings) channel = true := by
  have ordered := UInt16.le_iff_toNat_le.mp (span_ordered readings low high span)
  rw [pattern_shows, top, UInt16.le_iff_toNat_le]
  omega

theorem pattern_full_iff : pattern readings = 0xff ↔ high.toNat - low.toNat ≤ 1 := by
  obtain ⟨bottom, lowermost⟩ := span.lowest
  have hides := hides_darkest readings low high middle bottom lowermost
  constructor
  · intro full
    rw [full, shows_full] at hides
    simp only [Bool.true_eq_false, false_iff] at hides
    omega
  · intro flat
    have shown : shows (pattern readings) bottom = true := by
      by_contra hidden
      have apart := hides.mp (Bool.eq_false_iff.mpr hidden)
      omega
    apply shows_ext
    intro channel
    rw [shows_full]
    apply shows_upward readings bottom channel shown
    rw [lowermost]
    exact span.low channel

theorem pattern_lit : pattern readings ≠ 0 := by
  obtain ⟨top, topmost⟩ := span.highest
  have shown := shows_brightest readings low high middle span top topmost
  intro none
  rw [none, shows_none] at shown
  cases shown

end Contrast

theorem pattern_shifted (readings other : Readings) (offset : Int)
    (shifted : ∀ channel, ((other.get channel).toNat : Int) = (readings.get channel).toNat + offset) :
    pattern other = pattern readings := by
  have back : ∀ channel : Fin 8, other.reverse.get channel.rev = other.get channel := by
    intro channel
    change other.reverse[channel.rev.val] = other[channel.val]
    rw [Vector.getElem_reverse]
    congr 1
    simp only [Fin.val_rev]
    omega
  have turned : Mirrored readings other.reverse := by
    refine ⟨offset, fun channel => ?_⟩
    rw [back, shifted]
  have turnedBack : Mirrored other.reverse other := by
    refine ⟨0, fun channel => ?_⟩
    have same := back channel.rev
    rw [Fin.rev_rev] at same
    rw [same, Int.add_zero]
  rw [pattern_mirrored _ _ turnedBack, pattern_mirrored _ _ turned, flipped_flipped]

structure Thresholded (readings : Readings) (low high : UInt16) : Prop where
  span : Span readings low high
  -- All words of the computation hold the numbers that they stand for.
  middle : low ≤ high ∧ (threshold readings).toNat = low.toNat + (high.toNat - low.toNat) / 2
  digits : (pattern readings).toNat = binary (flags readings)
  placed : ∀ channel, shows (pattern readings) channel = true ↔
    threshold readings ≤ readings.get channel
  upward : ∀ channel other, shows (pattern readings) channel = true →
    readings.get channel ≤ readings.get other → shows (pattern readings) other = true
  brightest : ∀ channel, readings.get channel = high → shows (pattern readings) channel = true
  darkest : ∀ channel, readings.get channel = low →
    (shows (pattern readings) channel = false ↔ 2 ≤ high.toNat - low.toNat)
  full : pattern readings = 0xff ↔ high.toNat - low.toNat ≤ 1
  lit : pattern readings ≠ 0
  shifted : ∀ (other : Readings) (offset : Int),
    (∀ channel, ((other.get channel).toNat : Int) = (readings.get channel).toNat + offset) →
    pattern other = pattern readings

theorem threshold_pattern_sound (readings : Readings) :
    ∃ low high, Thresholded readings low high := by
  obtain ⟨low, high, span, middle⟩ := threshold_span readings
  refine ⟨low, high, ⟨span, ⟨span_ordered readings low high span, middle⟩, pattern_binary readings,
    pattern_shows readings, shows_upward readings, ?_, ?_, ?_, ?_, pattern_shifted readings⟩⟩
  · exact shows_brightest readings low high middle span
  · exact hides_darkest readings low high middle
  · exact pattern_full_iff readings low high middle span
  · exact pattern_lit readings low high middle span

-- The middle of the full scale is rounded down, and a reading right on it counts as bright.
example : pattern #v[0, 65535, 32767, 32766, 32768, 0, 1, 65534] = 0b01101001 := by decide +kernel

end Rover.Line
