import Rover.Motor
import Rover.Regulator

set_option autoImplicit false

namespace Rover

variable {α : Type} [Scalar α]

structure SpeedConfig (α : Type) where
  -- The window of a speed measurement, in microseconds.
  interval : Nat := 50000
  maxSpeed : α
  gains : Both (Gains α)
deriving Repr

namespace SpeedConfig

def standard : SpeedConfig α where
  maxSpeed := 15.0
  gains := ⟨⟨41.5, 0.0, 0.5⟩, ⟨28.0, 0.0, 0.1⟩⟩

-- Whole milliseconds, as far as 32 bits hold them.
def intervalMillis (config : SpeedConfig α) : Nat := config.interval / 1000 % 4294967296

end SpeedConfig

structure SpeedControl (α : Type) where
  world : World α
  motors : Both Motor
  config : SpeedConfig α
  states : Both (RegulatorState α)

namespace SpeedControl

def regulator (config : SpeedConfig α) (side : Side) : Regulator α :=
  { mode := .speed, gains := config.gains.get side }

def resetStates (config : SpeedConfig α) (now : UInt32) : Both (RegulatorState α) :=
  ⟨(regulator config .left).reset now, (regulator config .right).reset now⟩

def new (world : World α) (config : SpeedConfig α) : SpeedControl α where
  world := world
  motors := ⟨.new .left, .new .right⟩
  config := config
  states := resetStates config world.now

def say (control : SpeedControl α) (level : Level) (source : Source) (text : String) :
    SpeedControl α :=
  { control with world := control.world.say level source text }

def delay (control : SpeedControl α) (millis : Nat) : SpeedControl α :=
  { control with world := control.world.delay millis }

def resetRegulators (control : SpeedControl α) : SpeedControl α :=
  { control with states := resetStates control.config control.world.now }

def resetEncoders (control : SpeedControl α) : SpeedControl α :=
  { control with world := control.world.preset (.const 0) }

def speeds (control : SpeedControl α) (millis : Nat) : Both α × SpeedControl α :=
  let window := max millis 1
  let next := control.delay window
  let speed (last angle : α) : α := (angle - last) / (Scalar.ofInt window / 1000.0)
  (Both.zipWith speed control.world.angles next.world.angles, next)

def speedOf (control : SpeedControl α) (side : Side) (millis : Nat) : α × SpeedControl α :=
  let (measured, next) := control.speeds millis
  (measured.get side, next)

-- A fault is logged where it meets the motor, and the motor keeps its last duty.
def command (side : Side) (action : Motor → Action (World α) Motor) :
    Action (SpeedControl α) Unit := fun control =>
  match action (control.motors.get side) control.world with
  | .ok motor world => .ok () { control with world, motors := control.motors.set side motor }
  | .error fault world =>
      .error fault ({ control with world }.say .error .speedControl
        s!"motor command failed: {fault.message}")

def driveWheel (side : Side) (duty : Int) : Action (SpeedControl α) Unit :=
  command side fun motor => motor.drive duty

def stopWheel (side : Side) : Action (SpeedControl α) Unit := command side Motor.stop

def drive (duties : Both Int) : Action (SpeedControl α) Unit := do
  driveWheel .left duties.left
  driveWheel .right duties.right

-- The right wheel is stopped even when the left one fails.
def stop : Action (SpeedControl α) Unit := do
  let left ← Action.attempt (stopWheel .left)
  let right ← Action.attempt (stopWheel .right)
  Action.ofResult left
  Action.ofResult right

def regulate (control : SpeedControl α) (percents : Both Int) (measured : Both α) :
    Both Int × SpeedControl α :=
  let unit := control.config.maxSpeed / 100.0
  let step (side : Side) : Int × RegulatorState α :=
    let error := Scalar.ofInt (percents.get side) * unit - measured.get side
    (regulator control.config side).step error (control.states.get side) control.world.now
  let left := step .left
  let right := step .right
  (⟨left.1, right.1⟩, { control with states := ⟨left.2, right.2⟩ })

def noteRun (control : SpeedControl α) (duties : Both Int) : SpeedControl α :=
  let stepped := (control.say .trace .regulator "left step").say .trace .regulator "right step"
  stepped.say .trace .speedControl s!"run: duty={duties.left}/{duties.right}"

def run (percents : Both Int) : Action (SpeedControl α) Unit := do
  let control ← get
  let (measured, waited) := control.speeds control.config.intervalMillis
  let (duties, regulated) := waited.regulate (percents.map (clampTo 100)) measured
  set (regulated.noteRun duties)
  drive duties

def duties (control : SpeedControl α) : Both Int := control.motors.map (·.duty)

end SpeedControl

end Rover
