import Rover.Scalar

/-!
One PID algorithm for wheel speeds and wheel angles. A regulator holds only its gains: the state
goes in and comes back with every step.
-/

set_option autoImplicit false

namespace Rover

variable {α : Type} [Scalar α]

structure Gains (α : Type) where
  kp : α
  ki : α
  kd : α
deriving BEq, Repr

inductive Mode where
  | speed
  | angle
deriving DecidableEq, Repr

namespace Mode

-- The integral grows only while the proportional term is below this.
def windupThreshold : Mode → α
  | speed => 25.0
  | angle => 35.0

def outputScale : Mode → α
  | speed => 4.0
  | angle => 1.0

def outputLimit : Mode → Int
  | speed => 1023
  | angle => 100

-- How far ahead of now a reset places the time of the last step.
def resetLead : Mode → UInt32
  | speed => 3
  | angle => 2

end Mode

structure RegulatorState (α : Type) where
  integral : α
  previousError : α
  -- The millisecond of the last step, on a clock that wraps.
  lastTime : UInt32
deriving Repr

structure Regulator (α : Type) where
  mode : Mode
  gains : Gains α
deriving Repr

def elapsedSeconds (now last : UInt32) : α := Scalar.ofInt (now - last).toInt32.toInt / 1000.0

namespace Regulator

def reset (regulator : Regulator α) (now : UInt32) : RegulatorState α where
  integral := 0.0
  previousError := 0.0
  lastTime := now + regulator.mode.resetLead

def integrate (regulator : Regulator α) (error dt : α) (state : RegulatorState α) : α :=
  if 0.0 < dt ∧ Scalar.abs (regulator.gains.kp * error) < regulator.mode.windupThreshold then
    state.integral + error * dt
  else state.integral

-- No time since the last step means no slope.
def derivative (regulator : Regulator α) (error dt : α) (state : RegulatorState α) : α :=
  if 0.0 < dt then regulator.gains.kd * (error - state.previousError) / dt else 0.0

def step (regulator : Regulator α) (error : α) (state : RegulatorState α) (now : UInt32) :
    Int × RegulatorState α :=
  let dt := elapsedSeconds now state.lastTime
  let integral := regulator.integrate error dt state
  let output := regulator.gains.kp * error + regulator.gains.ki * integral +
    regulator.derivative error dt state
  (clampTo regulator.mode.outputLimit (Scalar.round (output * regulator.mode.outputScale)),
    { integral, previousError := error, lastTime := now })

end Regulator

end Rover
