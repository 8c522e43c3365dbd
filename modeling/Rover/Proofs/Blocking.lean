import Mathlib.Data.List.Forall2
import Rover.Pilot
import Rover.Proofs.Deadline
import Rover.Proofs.Exclusion
import Rover.Proofs.Faults
import Rover.Proofs.Likeness

set_option autoImplicit false

namespace Rover

variable {α : Type}

def World.under (schedule : Nat → Bool) (world : World α) : World α :=
  { world with blocked := schedule }

def Drive.under (schedule : Nat → Bool) (drive : Drive α) : Drive α :=
  drive.withWorld (World.under schedule)

def World.Supervised (world other : World α) : Prop := ∃ schedule, other = world.under schedule

def Drive.Supervised (drive other : Drive α) : Prop := ∃ schedule, other = drive.under schedule

theorem World.write_supervised (channel : Channel) (duty : Nat) :
    Action.Agree Supervised Eq (write channel duty : Action (World α) Unit)
      (write channel duty) := by
  intro world other supervised
  obtain ⟨schedule, rfl⟩ := supervised
  have same : (world.under schedule).failing (world.under schedule).moment channel =
      world.failing world.moment channel := rfl
  rw [write_apply, write_apply, same]
  by_cases refused : world.failing world.moment channel
  · rw [if_pos refused, if_pos refused]
    exact .error _ _ _ ⟨schedule, rfl⟩
  · rw [if_neg refused, if_neg refused]
    exact .ok _ _ _ _ rfl ⟨schedule, rfl⟩

variable [Scalar α]

def Likeness.supervised : Likeness α where
  shift := 0
  worlds := World.Supervised
  motors := Eq
  now world other supervised := by
    obtain ⟨schedule, rfl⟩ := supervised
    exact (UInt32.add_zero _).symm
  angles world other supervised := by
    obtain ⟨schedule, rfl⟩ := supervised
    rfl
  write := World.write_supervised
  say world other level source text supervised := by
    obtain ⟨schedule, rfl⟩ := supervised
    exact ⟨schedule, rfl⟩
  tick world other supervised := by
    obtain ⟨schedule, rfl⟩ := supervised
    exact ⟨schedule, rfl⟩
  named := Motor.same_named
  commanded := Motor.same_commanded

namespace Primitive

variable (primitive : Primitive α) (drive : Drive α)

end Primitive

-- The writes that release one wheel: where its forward channel refuses, the other one is not tried.
inductive Releases (now : UInt32) (side : Side) : List PwmWrite → Prop where
  | refused : Releases now side [⟨now, ⟨side, .forward⟩, 0, false⟩]
  | taken (accepted : Bool) : Releases now side
      [⟨now, ⟨side, .forward⟩, 0, true⟩, ⟨now, ⟨side, .reverse⟩, 0, accepted⟩]

section Stopping

omit [Scalar α]

theorem Motor.stop_releases (motor : Motor) (world : World α) :
    Releases world.now motor.side ((Action.final motor.stop world).writesSince world) := by
  rcases motor.stop_final world with refused | ⟨accepted, released⟩
  · rw [refused, World.writes_since_append world _ [_] rfl]
    exact .refused
  · rw [released, World.writes_since_append world _ [_, _] rfl]
    exact .taken accepted

theorem SpeedControl.stop_wheel_releases (side : Side) (control : SpeedControl α) :
    Releases control.world.now (control.motors.get side).side
      ((Action.final (stopWheel side) control).world.writesSince control.world) := by
  have released := (control.motors.get side).stop_releases control.world
  simp only [Action.final] at released ⊢
  simp only [stopWheel, command]
  rcases came : (control.motors.get side).stop control.world with ⟨motor, world⟩ | ⟨fault, world⟩ <;>
    rw [came] at released <;> exact released

theorem SpeedControl.stop_releases (control : SpeedControl α) :
    ∃ left right, (Action.final stop control).world.writesSince control.world = left ++ right ∧
      Releases control.world.now control.motors.left.side left ∧
      Releases control.world.now control.motors.right.side right := by
  have left := stop_wheel_over .left control
  have right := stop_wheel_over .right (Action.final (stopWheel .left) control)
  have released := stop_wheel_releases .right (Action.final (stopWheel .left) control)
  rw [left.sides, (World.touched_still _ _ left.world).1] at released
  refine ⟨_, _, ?_, stop_wheel_releases .left control, released⟩
  rw [final_stop]
  exact World.writes_since_trans _ _ _ (World.touched_extends _ _ left.world)
    (World.touched_extends _ _ right.world)

end Stopping

inductive Call (β : Type) where
  | motion (primitive : Primitive β)
  | pause (millis : Nat)
  | stop

namespace Call

def act : Call α → Action (Drive α) (Option Outcome)
  | motion primitive => primitive.run
  | pause millis => do
      modify fun drive => drive.delay millis
      return some .completed
  | stop => do
      Drive.stop
      return some .completed

def refused (call : Call α) (drive : Drive α) : Bool :=
  match call with
  | motion _ => drive.isBlocked
  | pause _ | stop => false

def underway (rounds : Nat) (call : Call α) (drive : Drive α) : Drive α :=
  match call with
  | motion primitive => primitive.underway rounds drive
  | pause _ | stop => drive

theorem stop_apply (drive : Drive α) : stop.act drive = match Drive.stop drive with
    | .ok _ next => .ok (some .completed) next
    | .error fault next => .error fault next := by
  rw [act, Action.bind_apply]
  cases Drive.stop drive <;> rfl

theorem stop_final (drive : Drive α) : Action.landing (stop.act drive) = drive.stopped :=
  Action.final_bind_pure Drive.stop (fun _ => some Outcome.completed) drive

end Call

def Command.call : Command α → Call α
  | forward distance => .motion (.moveBy .forward distance)
  | backward distance => .motion (.moveBy .reverse distance)
  | forwardAt speed distance => .motion (.moveAt .forward speed distance)
  | backwardAt speed distance => .motion (.moveAt .reverse speed distance)
  | forwardFor seconds => .motion (.moveFor .forward seconds)
  | backwardFor seconds => .motion (.moveFor .reverse seconds)
  | turnLeft degrees => .motion (.turnBy .left degrees)
  | turnRight degrees => .motion (.turnBy .right degrees)
  | rotate => .motion .rotate
  | pause millis => .pause millis
  | stop => .stop

theorem Drive.execute_call (command : Command α) : execute command = command.call.act := by
  cases command <;> rfl

namespace Drive

def entrusted (drive : Drive α) (command : Command α) : Call α × Drive α :=
  (command.call, drive.sayAs .pilot .info command.name)

theorem perform_apply (drive : Drive α) (command : Command α) :
    drive.perform command = match command.call.act (drive.entrusted command).2 with
      | .ok outcome next => (⟨command, .ok outcome⟩, next)
      | .error fault next => (⟨command, .error fault⟩,
          next.sayAs .pilot .error s!"{command.name} failed: {fault.driveMessage}") := by
  rw [← execute_call]
  rfl

end Drive

-- What a program does next. One that has no pilot makes its calls itself.
inductive Move (β : Type) where
  | call (call : Call β)
  | send (command : Command β)
  | work
  | receive

-- A supervisor may set the flag anew before every move, and lay down what it does during it.
structure Order (β : Type) where
  schedule : Nat → Bool
  move : Move β

namespace Pilot

structure Supervised (pilot other : Pilot α) : Prop where
  drive : pilot.drive.Supervised other.drive
  queue : other.queue = pilot.queue
  reports : other.reports = pilot.reports

def under (schedule : Nat → Bool) (pilot : Pilot α) : Pilot α :=
  { pilot with drive := pilot.drive.under schedule }

def next (pilot : Pilot α) : List (Call α × Drive α) :=
  (pilot.queue.take 1).map pilot.drive.entrusted

def begins (pilot : Pilot α) : Move α → List (Call α × Drive α)
  | .call call => [(call, pilot.drive)]
  | .send _ => []
  | .work => pilot.next
  | .receive => if pilot.reports.isEmpty then pilot.next else []

def make (pilot : Pilot α) : Move α → Pilot α
  | .call call => { pilot with drive := Action.final call.act pilot.drive }
  | .send command => pilot.send command
  | .work => pilot.work
  | .receive => match pilot.receive with
      | none => pilot
      | some (_, next) => next

def after (pilot : Pilot α) : List (Order α) → Pilot α
  | [] => pilot
  | order :: rest => ((pilot.under order.schedule).make order.move).after rest

def calls (pilot : Pilot α) : List (Order α) → List (Call α × Drive α)
  | [] => []
  | order :: rest =>
      let entered := pilot.under order.schedule
      entered.begins order.move ++ (entered.make order.move).calls rest

def refusal (begun : Call α × Drive α) : Bool := begun.1.refused begun.2

def refusals (pilot : Pilot α) (orders : List (Order α)) : List Bool :=
  (pilot.calls orders).map refusal

variable (pilot other : Pilot α) (supervised : pilot.Supervised other)

include supervised

omit supervised

-- A turn that is refused, and a move by the pilot during which the flag goes up.
def guarded (during : Nat → Bool) : List (Order Float) :=
  [⟨fun _ => true, .call (.motion (.turnBy .left 30.0))⟩, ⟨fun _ => false, .send (.forward 5.0)⟩,
    ⟨during, .work⟩]

end Pilot

end Rover
