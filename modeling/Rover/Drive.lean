import Rover.Profile
import Rover.SpeedControl

set_option autoImplicit false

namespace Rover

variable {α : Type} [Scalar α]

structure DriveConfig (α : Type) where
  wheelRadius : α
  -- Half the distance between the points where the wheels touch the ground.
  halfSeparation : α
  angle : Gains α
  straightGain : α
  standardSpeed : Int := 65
  slowSpeed : Int := 50
deriving Repr

def DriveConfig.standard : DriveConfig α where
  wheelRadius := 3.05
  halfSeparation := 9.2
  angle := ⟨45.0, 100.0, 2.5⟩
  straightGain := 80.0

inductive Outcome where
  | converged
  | timedOut
  | completed
  | blocked
deriving DecidableEq, Repr

def Outcome.name : Outcome → String
  | converged => "Converged"
  | timedOut => "TimedOut"
  | completed => "Completed"
  | blocked => "Blocked"

abbrev Heading := Both Direction

namespace Heading

def straight (direction : Direction) : Heading := .const direction

def spin : Side → Heading
  | .left => ⟨.reverse, .forward⟩
  | .right => ⟨.forward, .reverse⟩

theorem spin_get (side wheel : Side) :
    (spin side).get wheel = if wheel = side then .reverse else .forward := by
  cases side <;> cases wheel <;> rfl

def flip (heading : Heading) : Heading := heading.map Direction.flip

-- A negative amount goes the other way.
def along (heading : Heading) (amount : α) : Heading :=
  if amount < 0.0 then heading.flip else heading

end Heading

structure Motion (α : Type) where
  heading : Heading
  target : α
  tolerance : α
  timeout : UInt32
  speed : Int
deriving Repr

structure Drive (α : Type) where
  speed : SpeedControl α
  config : DriveConfig α
  -- The wheel angle of the motion under way, or of the last one.
  target : α

namespace Drive

def sayAs (drive : Drive α) (source : Source) (level : Level) (text : String) : Drive α :=
  { drive with speed := drive.speed.say level source text }

def say (drive : Drive α) (level : Level) (text : String) : Drive α :=
  drive.sayAs .drive level text

def new (world : World α) (speed : SpeedConfig α) (config : DriveConfig α) : Drive α :=
  let drive : Drive α := { speed := .new world speed, config, target := 0.0 }
  drive.say .info "drive ready"

def world (drive : Drive α) : World α := drive.speed.world

def isBlocked (drive : Drive α) : Bool := drive.world.isBlocked

def delay (drive : Drive α) (millis : Nat) : Drive α :=
  { drive with speed := drive.speed.delay millis }

def regulator (drive : Drive α) : Regulator α := { mode := .angle, gains := drive.config.angle }

def onSpeed {β : Type} (action : Action (SpeedControl α) β) : Action (Drive α) β :=
  within (·.speed) (fun speed drive => { drive with speed }) action

def stop : Action (Drive α) Unit := onSpeed SpeedControl.stop

-- Clears everything that a motion before this one left in the encoders and regulators.
def start (drive : Drive α) (target : α) : Drive α :=
  { drive with target, speed := drive.speed.resetEncoders.resetRegulators }

-- The wheel angles, with the way each wheel is to turn counted positive.
def progress (drive : Drive α) (heading : Heading) : Both α :=
  Both.zipWith (fun angle direction => angle * Scalar.ofInt direction.sign)
    drive.world.angles heading

def errors (motion : Motion α) (progress : Both α) : Both α :=
  progress.map fun made => motion.target - made

def arrived (motion : Motion α) (errors : Both α) : Bool :=
  Scalar.abs errors.left ≤ motion.tolerance && Scalar.abs errors.right ≤ motion.tolerance

def percents (motion : Motion α) (straightGain : α) (elapsed : UInt32) (commands : Both Int)
    (progress : Both α) : Both Int :=
  let power : α := Profile.softStart elapsed
  let push := Profile.straightCorrection (errors motion progress) progress straightGain
  let percent (command bias : Int) (direction : Direction) : Int :=
    let softened := Profile.softened (clampTo Profile.commandLimit command) power
    Profile.scaled α (saturate (softened + bias)) direction motion.speed
  ⟨percent commands.left push.left motion.heading.left,
    percent commands.right push.right motion.heading.right⟩

def noteRound (drive : Drive α) (elapsed : UInt32) (percents : Both Int) : Drive α :=
  drive.say .trace s!"{elapsed}ms: run={percents.left}/{percents.right}"

def noteStep (drive : Drive α) : Drive α :=
  (drive.sayAs .regulator .trace "left step").sayAs .regulator .trace "right step"

def regulate (drive : Drive α) (motion : Motion α) (start : UInt32)
    (states : Both (RegulatorState α)) : Both Int × Both (RegulatorState α) :=
  let progress := drive.progress motion.heading
  let errors := errors motion progress
  let left := drive.regulator.step errors.left states.left drive.world.now
  let right := drive.regulator.step errors.right states.right drive.world.now
  (percents motion drive.config.straightGain (drive.world.elapsed start) ⟨left.1, right.1⟩ progress,
    ⟨left.2, right.2⟩)

def follow (motion : Motion α) (start : UInt32) (states : Both (RegulatorState α)) :
    Action (Drive α) (Both (RegulatorState α)) := do
  let drive ← get
  let asked := drive.regulate motion start states
  set (drive.noteStep.noteRound (drive.world.elapsed start) asked.1)
  onSpeed (SpeedControl.run asked.1)
  return asked.2

def hasArrived (motion : Motion α) (drive : Drive α) : Bool :=
  arrived motion (errors motion (drive.progress motion.heading))

def steer (motion : Motion α) (start : UInt32) (states : Both (RegulatorState α)) :
    Action (Drive α) (Outcome ⊕ Both (RegulatorState α)) := do
  let drive ← get
  let elapsed := drive.world.elapsed start
  if hasArrived motion drive then
    set (drive.say .debug s!"converged after {elapsed}ms")
    return .inl .converged
  else if motion.timeout ≤ elapsed then
    set (drive.say .warn s!"timed out after {elapsed}ms")
    return .inl .timedOut
  else
    return .inr (← follow motion start states)

-- The first step sees no slope: the error before it counts as the whole target.
def freshState (drive : Drive α) (target : α) : RegulatorState α :=
  { drive.regulator.reset drive.world.now with previousError := target }

def converge (motion : Motion α) : Action (Drive α) (Option Outcome) := do
  let drive := (← get).start motion.target
  set drive
  Action.rounds (steer motion drive.world.now) (.const (drive.freshState motion.target))

def timedPercents (config : DriveConfig α) (heading : Heading) (elapsed : UInt32)
    (progress : Both α) : Both Int :=
  let power : α := Profile.softStart elapsed
  let base := Profile.softened config.slowSpeed power
  let push := Profile.progressCorrection progress config.straightGain
  Both.zipWith (fun bias direction => saturate (saturate (base + bias) * direction.sign))
    push heading

def cruise (heading : Heading) (period start : UInt32) :
    Unit → Action (Drive α) (Outcome ⊕ Unit) := fun _ => do
  let drive ← get
  let elapsed := drive.world.elapsed start
  if period ≤ elapsed then
    set (drive.say .debug s!"ran for {elapsed}ms")
    return .inl .completed
  else
    let percents := timedPercents drive.config heading elapsed (drive.progress heading)
    set (drive.noteRound elapsed percents)
    onSpeed (SpeedControl.run percents)
    return .inr ()

def runTimed (heading : Heading) (seconds : α) : Action (Drive α) (Option Outcome) := do
  let drive := (← get).start 0.0
  set drive
  Action.rounds (cruise heading (Profile.timedPeriod seconds) drive.world.now) ()

-- Stops both motors however the motion ended. The first fault is the one reported, and only a
-- motion that ended well waits for the chassis to settle.
def finish (settle : Nat) (motion : Action (Drive α) (Option Outcome)) :
    Action (Drive α) (Option Outcome) := do
  match ← Action.attempt motion with
  | .ok none => return none
  | .ok (some outcome) =>
      stop
      modify fun drive => (drive.delay settle).say .info outcome.name
      return some outcome
  | .error fault =>
      let _ ← Action.attempt stop
      modify fun drive => drive.say .error s!"motion aborted: {fault.driveMessage}"
      throw fault

-- The block is looked at once, when a motion starts.
def unlessBlocked (name : String) (motion : Action (Drive α) (Option Outcome)) :
    Action (Drive α) (Option Outcome) := do
  let drive ← get
  if drive.isBlocked then
    set (drive.say .warn s!"{name}: blocked")
    return some .blocked
  else
    set (drive.say .info name)
    motion

def distanceMotion (config : DriveConfig α) (heading : Heading) (speed : Int) (distance : α) :
    Motion α where
  heading := heading
  target := Profile.distanceTarget distance config.wheelRadius
  tolerance := Profile.distanceTolerance
  timeout := Profile.distanceTimeout speed distance
  speed := magnitude speed

def turnMotion (config : DriveConfig α) (heading : Heading) (degrees : α) : Motion α where
  heading := heading
  target := Profile.turnTarget degrees config.halfSeparation config.wheelRadius
  tolerance := Profile.turnTolerance
  timeout := Profile.turnTimeout degrees
  speed := config.standardSpeed

def move (heading : Heading) (speed : Int) (distance : α) : Action (Drive α) (Option Outcome) :=
  unlessBlocked "move" do
    finish 0 <| converge <| distanceMotion (← get).config heading speed distance

def turn (heading : Heading) (degrees : α) : Action (Drive α) (Option Outcome) :=
  unlessBlocked "turn" do
    finish Profile.settleMillis <| converge <| turnMotion (← get).config heading degrees

def moveAt (direction : Direction) (speed : Int) (distance : α) :
    Action (Drive α) (Option Outcome) :=
  move ((Heading.straight direction).along distance) speed (Scalar.abs distance)

def moveBy (direction : Direction) (distance : α) : Action (Drive α) (Option Outcome) := do
  moveAt direction (← get).config.standardSpeed distance

def moveFor (direction : Direction) (seconds : α) : Action (Drive α) (Option Outcome) :=
  unlessBlocked "timed move" <| finish 0 <| runTimed (.straight direction) seconds

-- A spin in place; to the left is counter-clockwise.
def turnBy (side : Side) (degrees : α) : Action (Drive α) (Option Outcome) :=
  turn ((Heading.spin side).along degrees) (Scalar.abs degrees)

def quarterTurn (side : Side) : Action (Drive α) (Option Outcome) := turnBy side 90.0

def rotate : Action (Drive α) (Option Outcome) := turnBy .right 180.0

end Drive

end Rover
