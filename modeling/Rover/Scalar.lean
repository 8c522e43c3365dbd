/-!
The control loops are written over a `Scalar`, so that one definition runs on machine floats and is
reasoned about over exact fractions.
-/

set_option autoImplicit false

namespace Rover

class Scalar (α : Type) extends
    Add α, Sub α, Mul α, Div α, Neg α, LT α, LE α, BEq α, OfScientific α where
  [decidableLT : DecidableLT α]
  [decidableLE : DecidableLE α]
  abs : α → α
  ofInt : Int → α
  -- The whole part, toward zero. What is not a number has whole part 0.
  truncate : α → Int
  -- The nearest whole number, a half goes away from zero. What is not a number gives 0.
  round : α → Int

attribute [reducible, instance] Scalar.decidableLT Scalar.decidableLE

namespace Scalar

def pi {α : Type} [Scalar α] : α := 3.141592653589793

-- Whole parts outside 64 bits stay at the largest one.
def truncateFloat (x : Float) : Int :=
  let whole : Int := x.abs.toUInt64.toNat
  if x < 0.0 then -whole else whole

def roundFloat (x : Float) : Int :=
  let whole := x.abs.toUInt64
  let nearest : Int := if 0.5 ≤ x.abs - whole.toFloat then whole.toNat + 1 else whole.toNat
  if x < 0.0 then -nearest else nearest

instance : Scalar Float where
  abs := Float.abs
  ofInt := Float.ofInt
  truncate := truncateFloat
  round := roundFloat

end Scalar

def clampTo (limit n : Int) : Int := max (-limit) (min limit n)

def saturate (n : Int) : Int := max (-2147483648) (min 2147483647 n)

-- The size of a 32 bit number, in 32 bits: the lowest number has none and stays as it is.
def magnitude (n : Int) : Int := (n.natAbs + 2147483648) % 4294967296 - 2147483648

theorem clamp_to_bounds (limit n : Int) (nonneg : 0 ≤ limit) :
    -limit ≤ clampTo limit n ∧ clampTo limit n ≤ limit := by
  unfold clampTo
  omega

theorem clamp_to_of_within (limit n : Int) (lower : -limit ≤ n) (upper : n ≤ limit) :
    clampTo limit n = n := by
  unfold clampTo
  omega

@[simp]
theorem magnitude_neg (n : Int) : magnitude (-n) = magnitude n := by
  simp only [magnitude, Int.natAbs_neg]

theorem magnitude_of_within (n : Int) (lower : -2147483648 < n) (upper : n ≤ 2147483647) :
    magnitude n = n.natAbs := by
  unfold magnitude
  omega

theorem saturate_bounds (n : Int) : -2147483648 ≤ saturate n ∧ saturate n ≤ 2147483647 := by
  unfold saturate
  omega

def toMillis (n : Int) : UInt32 := UInt32.ofNat (min n.toNat 4294967295)

end Rover
