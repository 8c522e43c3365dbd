import Rover.Drive

set_option autoImplicit false

namespace Rover

-- Lengths are in the unit of the wheel radius, angles in degrees, times in seconds but for a
-- pause.
inductive Command (β : Type) where
  | forward (distance : β)
  | backward (distance : β)
  | forwardAt (speed : Int) (distance : β)
  | backwardAt (speed : Int) (distance : β)
  | forwardFor (seconds : β)
  | backwardFor (seconds : β)
  | turnLeft (degrees : β)
  | turnRight (degrees : β)
  | rotate
  | pause (millis : Nat)
  | stop
deriving DecidableEq, Repr

namespace Command

variable {β γ : Type}

def name : Command β → String
  | forward _ => "Forward"
  | backward _ => "Backward"
  | forwardAt _ _ => "ForwardAt"
  | backwardAt _ _ => "BackwardAt"
  | forwardFor _ => "ForwardFor"
  | backwardFor _ => "BackwardFor"
  | turnLeft _ => "TurnLeft"
  | turnRight _ => "TurnRight"
  | rotate => "Rotate"
  | pause _ => "Pause"
  | stop => "Stop"

def map (f : β → γ) : Command β → Command γ
  | forward distance => forward (f distance)
  | backward distance => backward (f distance)
  | forwardAt speed distance => forwardAt speed (f distance)
  | backwardAt speed distance => backwardAt speed (f distance)
  | forwardFor seconds => forwardFor (f seconds)
  | backwardFor seconds => backwardFor (f seconds)
  | turnLeft degrees => turnLeft (f degrees)
  | turnRight degrees => turnRight (f degrees)
  | rotate => rotate
  | pause millis => pause millis
  | stop => stop

def text (command : Command Nat) : String :=
  match command with
  | forward amount | backward amount | forwardFor amount | backwardFor amount | turnLeft amount
  | turnRight amount => s!"{command.name}({amount}.0)"
  | forwardAt speed distance | backwardAt speed distance =>
      s!"{command.name}({speed}, {distance}.0)"
  | pause millis => s!"{command.name}({millis})"
  | rotate | stop => command.name

end Command

namespace Drive

variable {α : Type} [Scalar α]

-- Only motions heed the block: a pause and a stop are carried out in any case.
def execute (command : Command α) : Action (Drive α) (Option Outcome) :=
  match command with
  | .forward distance => moveBy .forward distance
  | .backward distance => moveBy .reverse distance
  | .forwardAt speed distance => moveAt .forward speed distance
  | .backwardAt speed distance => moveAt .reverse speed distance
  | .forwardFor seconds => moveFor .forward seconds
  | .backwardFor seconds => moveFor .reverse seconds
  | .turnLeft degrees => turnBy .left degrees
  | .turnRight degrees => turnBy .right degrees
  | .rotate => rotate
  | .pause millis => do
      modify fun drive => drive.delay millis
      return some .completed
  | .stop => do
      stop
      return some .completed

end Drive

end Rover
