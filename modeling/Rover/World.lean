import Rover.Action
import Rover.Log
import Rover.Wheel

/-!
Time moves only when somebody waits. Which channels fail, and whether a supervisor blocks the robot,
is laid down per moment, a count of the milliseconds and channel writes so far. Journal and
recording are kept newest first.
-/

set_option autoImplicit false

namespace Rover

variable {α : Type} [Scalar α]

structure Chassis (α : Type) where
  now : UInt32
  plant : Plant
  response : α
  bridges : Both Bridge
  wheels : Both (Wheel α)
deriving Repr

namespace Chassis

def tick (chassis : Chassis α) : Chassis α :=
  { chassis with
    now := chassis.now + 1
    wheels := Both.zipWith
      (fun bridge wheel => wheel.advance chassis.plant chassis.response bridge.net)
      chassis.bridges chassis.wheels }

end Chassis

structure PwmWrite where
  time : UInt32
  channel : Channel
  duty : Nat
  accepted : Bool
deriving DecidableEq, Repr

structure World (α : Type) extends Chassis α where
  peaks : Both Bridge := .const {}
  moment : Nat := 0
  failing : Nat → Channel → Bool := fun _ _ => false
  blocked : Nat → Bool := fun _ => false
  journal : List PwmWrite := []
  recording : List (Chassis α) := []
  log : Log := {}

namespace World

def new (pulses : Nat) (plant : Plant) (response : α) (start : UInt32) : World α where
  now := start
  plant := plant
  response := response
  bridges := .const {}
  wheels := ⟨.new pulses false, .new pulses true⟩

def simulated (pulses : Nat) (plant : Plant) (start : UInt32) : World Float :=
  new pulses plant plant.response start

def tick (world : World α) : World α :=
  let chassis := world.toChassis.tick
  { world with
    toChassis := chassis
    moment := world.moment + 1
    recording := chassis :: world.recording }

def delay : Nat → World α → World α
  | 0, world => world
  | millis + 1, world => delay millis world.tick

theorem now_delay (millis : Nat) (world : World α) :
    (world.delay millis).now = world.now + UInt32.ofNat millis := by
  induction millis generalizing world with
  | zero => simp [delay]
  | succ count ih =>
      rw [delay, ih]
      simp [tick, Chassis.tick, UInt32.ofNat_add, UInt32.add_assoc, UInt32.add_comm]

def elapsed (world : World α) (since : UInt32) : UInt32 := world.now - since

def setDuty (channel : Channel) (duty : Nat) : Action (World α) Unit := fun world =>
  let next := { world with moment := world.moment + 1 }
  if world.failing world.moment channel then .error ⟨channel⟩ next
  else
    let bridges := world.bridges.withDuty channel duty
    .ok () { next with bridges, peaks := Both.zipWith Bridge.max world.peaks bridges }

def write (channel : Channel) (duty : Nat) : Action (World α) Unit := fun world =>
  let note (accepted : Bool) (next : World α) : World α :=
    { next with journal := { time := world.now, channel, duty, accepted } :: world.journal }
  match setDuty channel duty world with
  | .ok _ next => .ok () (note true next)
  | .error fault next => .error fault (note false next)

-- What the journal holds beyond an earlier one, oldest first.
def writesSince (world before : World α) : List PwmWrite :=
  (world.journal.take (world.journal.length - before.journal.length)).reverse

def preset (world : World α) (positions : Both Int32) : World α :=
  { world with
    wheels := Both.zipWith
      (fun wheel position => { wheel with encoder := wheel.encoder.preset position })
      world.wheels positions }

def fail (world : World α) (channel : Channel) : World α :=
  { world with failing := fun moment other => other = channel || world.failing moment other }

def heal (world : World α) (channel : Channel) : World α :=
  { world with failing := fun moment other => other ≠ channel && world.failing moment other }

def block (world : World α) : World α := { world with blocked := fun _ => true }

def unblock (world : World α) : World α := { world with blocked := fun _ => false }

def isBlocked (world : World α) : Bool := world.blocked world.moment

def ticks (world : World α) : Both Int := world.wheels.map (·.ticks)

def positions (world : World α) : Both Int32 := world.wheels.map (·.encoder.position)

def angles (world : World α) : Both α := world.wheels.map (·.encoder.radians)

def say (world : World α) (level : Level) (source : Source) (text : String) : World α :=
  { world with log := world.log.say level source text }

end World

end Rover
