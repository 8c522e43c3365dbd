import Rover.World

set_option autoImplicit false

namespace Rover

variable {α : Type} [Scalar α]

def Bridge.carrying (duty : Int) : Bridge :=
  let duty := clampTo maxDuty duty
  if duty < 0 then ⟨0, duty.natAbs⟩ else ⟨duty.natAbs, 0⟩

structure Motor where
  name : String
  side : Side
  -- The duty of the last command that succeeded.
  duty : Int := 0
deriving DecidableEq, Repr

namespace Motor

def new : Side → Motor
  | .left => { name := "left", side := .left }
  | .right => { name := "right", side := .right }

def write (motor : Motor) (direction : Direction) (duty : Nat) : Action (World α) Unit :=
  World.write ⟨motor.side, direction⟩ duty

def noteDrive (motor : Motor) (duty : Int) (world : World α) : World α :=
  let carried := Bridge.carrying duty
  world.say .trace .motor
    s!"{motor.name}: drive duty={duty} forward={carried.forward} reverse={carried.reverse}"

def drive (motor : Motor) (duty : Int) : Action (World α) Motor := do
  let duty := clampTo maxDuty duty
  let carried := Bridge.carrying duty
  let idle : Direction := if duty < 0 then .forward else .reverse
  modify (motor.noteDrive duty)
  motor.write idle (carried.get idle)
  motor.write idle.flip (carried.get idle.flip)
  return { motor with duty }

def stop (motor : Motor) : Action (World α) Motor := do
  motor.write .forward 0
  motor.write .reverse 0
  return { motor with duty := 0 }

end Motor

end Rover
