import Rover.Bridge
import Rover.Quadrature

set_option autoImplicit false

namespace Rover

variable {α : Type} [Scalar α]

def maxDuty : Int := 1023

-- Ticks per second are a number of 64 bits whose negative is one, too.
inductive Plant where
  | constant (ticksPerSecond : Int)
  -- The steady rate is proportional to the duty and is reached with the time constant `lag`,
  -- in milliseconds.
  | proportional (ticksPerSecond : Int) (lag : Nat)
deriving DecidableEq, Repr

namespace Plant

def steadyRate (plant : Plant) (duty : Int) : α :=
  match plant with
  | constant ticksPerSecond => Scalar.ofInt (duty.sign * ticksPerSecond)
  | proportional ticksPerSecond _ =>
      Scalar.ofInt duty * Scalar.ofInt ticksPerSecond / Scalar.ofInt maxDuty

-- The share of the gap to the steady rate that one millisecond closes.
def response : Plant → Float
  | constant _ => 1.0
  | proportional _ lag =>
      if lag = 0 then 1.0 else 1.0 - Float.exp (-1.0 / Float.ofNat lag)

end Plant

structure Wheel (α : Type) where
  encoder : Encoder
  phase : Phase := .rest
  rate : α
  -- The travel that is not yet a whole tick.
  fraction : α
  ticks : Int := 0
deriving Repr

namespace Wheel

def new (pulses : Nat) (inverted : Bool) : Wheel α where
  encoder := Encoder.new pulses inverted
  rate := 0.0
  fraction := 0.0

-- A wheel with an inverted encoder is mounted the other way round: its pins see the opposite
-- sequence.
def pinDirection (wheel : Wheel α) (direction : Direction) : Direction :=
  if wheel.encoder.inverted then direction.flip else direction

def roll (wheel : Wheel α) (direction : Direction) : Wheel α :=
  let phase := match wheel.pinDirection direction with
    | .forward => wheel.phase.next
    | .reverse => wheel.phase.prev
  { wheel with phase, ticks := wheel.ticks + direction.sign, encoder := wheel.encoder.edge phase }

def rollMany (direction : Direction) : Nat → Wheel α → Wheel α
  | 0, wheel => wheel
  | count + 1, wheel => rollMany direction count (wheel.roll direction)

def turn (wheel : Wheel α) (steps : Int) : Wheel α :=
  wheel.rollMany (if steps < 0 then .reverse else .forward) steps.natAbs

def advance (plant : Plant) (response : α) (duty : Int) (wheel : Wheel α) : Wheel α :=
  let rate := wheel.rate + (plant.steadyRate duty - wheel.rate) * response
  let travel := wheel.fraction + rate / 1000.0
  let whole := Scalar.truncate travel
  { wheel with rate, fraction := travel - Scalar.ofInt whole }.turn whole

end Wheel

end Rover
