import Rover.Proofs.Effects

set_option autoImplicit false

namespace Rover

variable {α : Type} [Scalar α]

-- The program of the robot asks for the steps down to `perform`, the others come from outside. Only
-- `setDuty` writes to a channel behind the back of the motors.
inductive Step (β : Type) where
  | run (percents : Both Int)
  | drive (duties : Both Int)
  | driveWheel (side : Side) (duty : Int)
  | stop
  | stopWheel (side : Side)
  | speeds (millis : Nat)
  | speedOf (side : Side) (millis : Nat)
  | resetRegulators
  | resetEncoders
  | perform (primitive : Primitive β)
  | delay (millis : Nat)
  | elapsed (since : UInt32)
  | preset (positions : Both Int32)
  | setDuty (channel : Channel) (duty : Nat)
  | fail (channel : Channel)
  | heal (channel : Channel)
  | block
  | unblock

inductive Answer (β : Type) where
  | done
  | outcome (outcome : Option Outcome)
  | speeds (measured : Both β)
  | speed (measured : β)
  | elapsed (millis : UInt32)

namespace Drive

def onWorld {β : Type} (action : Action (World α) β) : Action (Drive α) β :=
  onSpeed (within (·.world) (fun world control => { control with world }) action)

omit [Scalar α] in
@[simp] theorem world_on_world {β : Type} (action : Action (World α) β) (drive : Drive α) :
    (Action.final (onWorld action) drive).world = Action.final action drive.world := by
  rw [onWorld, world_on_speed, Action.final_within]
  rfl

end Drive

namespace Step

def act : Step α → Action (Drive α) (Answer α)
  | run percents => do
      Drive.onSpeed (SpeedControl.run percents)
      return .done
  | drive duties => do
      Drive.onSpeed (SpeedControl.drive duties)
      return .done
  | driveWheel side duty => do
      Drive.onSpeed (SpeedControl.driveWheel side duty)
      return .done
  | stop => do
      Drive.stop
      return .done
  | stopWheel side => do
      Drive.onSpeed (SpeedControl.stopWheel side)
      return .done
  | speeds millis => fun drive =>
      .ok (.speeds (drive.speed.speeds millis).1)
        { drive with speed := (drive.speed.speeds millis).2 }
  | speedOf side millis => fun drive =>
      .ok (.speed (drive.speed.speedOf side millis).1)
        { drive with speed := (drive.speed.speedOf side millis).2 }
  | resetRegulators => do
      modify fun drive => { drive with speed := drive.speed.resetRegulators }
      return .done
  | resetEncoders => do
      modify fun drive => { drive with speed := drive.speed.resetEncoders }
      return .done
  | perform primitive => do
      return .outcome (← primitive.run)
  | delay millis => do
      modify fun drive => drive.delay millis
      return .done
  | elapsed since => fun drive => .ok (.elapsed (drive.world.elapsed since)) drive
  | preset positions => do
      modify (Drive.withWorld (World.preset · positions))
      return .done
  | setDuty channel duty => do
      Drive.onWorld (World.setDuty channel duty)
      return .done
  | fail channel => do
      modify (Drive.withWorld (World.fail · channel))
      return .done
  | heal channel => do
      modify (Drive.withWorld (World.heal · channel))
      return .done
  | block => do
      modify (Drive.withWorld World.block)
      return .done
  | unblock => do
      modify (Drive.withWorld World.unblock)
      return .done

def sparesChannels : Step α → Bool
  | setDuty _ _ => false
  | _ => true

end Step

namespace Drive

def after (steps : List (Step α)) (drive : Drive α) : Drive α :=
  steps.foldl (fun drive step => Action.final step.act drive) drive

def trace : List (Step α) → Drive α → List (Except PwmFault (Answer α) × Drive α)
  | [], _ => []
  | step :: rest, drive =>
      match step.act drive with
      | .ok answer next => (.ok answer, next) :: trace rest next
      | .error fault next => (.error fault, next) :: trace rest next

-- Which channels fail when, and when the robot is blocked, is laid down before the session begins.
def fresh (pulses : Nat) (plant : Plant) (response : α) (start : UInt32)
    (failing : Nat → Channel → Bool) (blocked : Nat → Bool) (threshold : Option Level)
    (speed : SpeedConfig α) (config : DriveConfig α) : Drive α :=
  Drive.new { World.new pulses plant response start with failing, blocked, log := { threshold } }
    speed config

inductive Reachable : Drive α → Prop where
  | fresh (pulses : Nat) (plant : Plant) (response : α) (start : UInt32)
      (failing : Nat → Channel → Bool) (blocked : Nat → Bool) (threshold : Option Level)
      (speed : SpeedConfig α) (config : DriveConfig α) :
      Reachable (fresh pulses plant response start failing blocked threshold speed config)
  | step (drive : Drive α) (step : Step α) (reached : Reachable drive) :
      Reachable (Action.final step.act drive)

theorem reachable_after (drive : Drive α) (steps : List (Step α)) (reached : Reachable drive) :
    Reachable (drive.after steps) := by
  induction steps generalizing drive with
  | nil => exact reached
  | cons step rest ih => exact ih _ (.step drive step reached)

def parked (pulses : Nat) (rate : Int) : Drive Float :=
  fresh pulses (.constant rate) 1.0 0 (fun _ _ => false) (fun _ => false) none
    { SpeedConfig.standard with interval := 1000 } .standard

theorem parked_reachable (pulses : Nat) (rate : Int) : (parked pulses rate).Reachable :=
  .fresh _ _ _ _ _ _ _ _ _

end Drive

def SpeedControl.Wired (control : SpeedControl α) : Prop :=
  ∀ side, (control.motors.get side).side = side

def World.Conditioned (before after : World α) : Prop :=
  ∃ failing blocked, after = { before with failing, blocked }

def World.Anything (_ _ : World α) : Prop := True

namespace Step

def effect : Step α → World α → World α → Prop
  | setDuty _ _ => World.Anything
  | fail _ | heal _ | block | unblock => World.Conditioned
  | _ => World.Evolves

theorem act_over (step : Step α) : Action.Keeps (Drive.Over step.effect) step.act := by
  have touched : ∀ before after : Drive α, Drive.Over World.Touched before after →
      Drive.Over World.Evolves before after := fun before after =>
    drive_over_mono before after World.evolves_of_touched
  have commanded : ∀ command : Action (SpeedControl α) Unit,
      Action.Keeps (SpeedControl.Over World.Touched) command →
      Action.Keeps (Drive.Over World.Evolves) (Drive.onSpeed command) := fun command kept =>
    Action.keeps_mono _ touched (Drive.on_speed_over _ _ kept)
  have conditioned : ∀ change : World α → World α,
      (∀ world, World.Conditioned world (change world)) →
      Action.Keeps (Drive.Over World.Conditioned)
        (modify (Drive.withWorld change) >>= fun _ => pure Answer.done : Action (Drive α) (Answer α)) :=
    fun change changed => Action.keeps_bind_pure _ _ (Drive.with_world_over _ change changed)
  cases step with
  | run percents => exact Action.keeps_bind_pure _ _ (Drive.run_over percents)
  | drive duties => exact Action.keeps_bind_pure _ _ (commanded _ (SpeedControl.drive_over duties))
  | driveWheel side duty =>
      exact Action.keeps_bind_pure _ _ (commanded _ (SpeedControl.drive_wheel_over side duty))
  | stop => exact Action.keeps_bind_pure _ _ (commanded _ SpeedControl.stop_over)
  | stopWheel side =>
      exact Action.keeps_bind_pure _ _ (commanded _ (SpeedControl.stop_wheel_over side))
  | speeds millis | speedOf _ millis =>
      exact fun drive => drive_over_world drive _ (World.evolves_delay _ drive.world)
  | resetRegulators => exact fun _ => ⟨⟨.refl, rfl, fun _ => rfl⟩, rfl⟩
  | resetEncoders => exact fun _ => ⟨⟨.single (.preset _ _), rfl, fun _ => rfl⟩, rfl⟩
  | perform primitive => exact Action.keeps_bind_pure _ _ primitive.run_over
  | delay millis =>
      exact Action.keeps_bind_pure _ _
        (Action.keeps_modify _ fun drive => Drive.delay_over drive millis)
  | elapsed since => exact Drive.evolves_refl
  | preset positions =>
      exact Action.keeps_bind_pure _ _ (Drive.with_world_over _ _ fun _ => .single (.preset _ _))
  | setDuty channel duty =>
      refine Action.keeps_bind_pure _ _ (Drive.on_speed_over World.Anything _ fun control => ?_)
      simpa using ⟨trivial, rfl, fun _ => rfl⟩
  | fail channel => exact conditioned _ fun _ => ⟨_, _, rfl⟩
  | heal channel => exact conditioned _ fun _ => ⟨_, _, rfl⟩
  | block => exact conditioned _ fun _ => ⟨_, _, rfl⟩
  | unblock => exact conditioned _ fun _ => ⟨_, _, rfl⟩

end Step

theorem Drive.reachable_wired (drive : Drive α) (reached : drive.Reachable) :
    drive.speed.Wired := by
  induction reached with
  | fresh => exact fun side => by cases side <;> rfl
  | step drive step _ wired =>
      exact fun side => ((step.act_over drive).speed.sides side).trans (wired side)

end Rover
