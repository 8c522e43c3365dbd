import Rover.Drive
import Rover.Proofs.Action

/-!
All motions are of one make: unless the drive is blocked, a control loop runs to its end, and then
both motors are stopped.
-/

set_option autoImplicit false

namespace Rover

variable {α : Type} [Scalar α]

inductive Primitive (β : Type) where
  | moveAt (direction : Direction) (speed : Int) (distance : β)
  | moveBy (direction : Direction) (distance : β)
  | moveFor (direction : Direction) (seconds : β)
  | turnBy (side : Side) (degrees : β)
  | quarterTurn (side : Side)
  | rotate

inductive Course (β : Type) where
  | toward (motion : Motion β)
  | lasting (heading : Heading) (seconds : β)

def Course.loop : Course α → Action (Drive α) (Option Outcome)
  | .toward motion => Drive.converge motion
  | .lasting heading seconds => Drive.runTimed heading seconds

def Course.loopWithin (limit : Nat) : Course α → Action (Drive α) (Option Outcome)
  | .toward motion => do
      let drive := (← get).start motion.target
      set drive
      Action.roundsWithin (Drive.steer motion drive.world.now) limit
        (.const (drive.freshState motion.target))
  | .lasting heading seconds => do
      let drive := (← get).start 0.0
      set drive
      Action.roundsWithin (Drive.cruise heading (Profile.timedPeriod seconds) drive.world.now)
        limit ()

def Course.underway (limit : Nat) : Course α → Drive α → Drive α
  | .toward motion, drive =>
      let begun := drive.start motion.target
      Action.reached (Drive.steer motion begun.world.now) limit
        (.const (begun.freshState motion.target)) begun
  | .lasting heading seconds, drive =>
      let begun := drive.start 0.0
      Action.reached (Drive.cruise heading (Profile.timedPeriod seconds) begun.world.now) limit ()
        begun

theorem Course.loop_eq_within (limit : Nat) (course : Course α) (drive : Drive α)
    (ended : Action.returns (course.loopWithin limit drive) = true) :
    course.loop drive = course.loopWithin limit drive := by
  cases course with
  | toward motion => exact Action.rounds_eq_within _ limit _ _ ended
  | lasting heading seconds => exact Action.rounds_eq_within _ limit _ _ ended

theorem Course.underway_beyond (limit more : Nat) (course : Course α) (drive : Drive α)
    (ended : Action.returns (course.loopWithin limit drive) = true) :
    course.underway (limit + more) drive = course.underway limit drive := by
  cases course with
  | toward motion =>
      obtain ⟨result, within⟩ := Action.ended_of_returns _ _ _ _ ended
      exact Action.reached_beyond _ limit more _ _ result within
  | lasting heading seconds =>
      obtain ⟨result, within⟩ := Action.ended_of_returns _ _ _ _ ended
      exact Action.reached_beyond _ limit more _ _ result within

namespace Drive

omit [Scalar α] in
theorem unless_blocked_apply (name : String) (motion : Action (Drive α) (Option Outcome))
    (drive : Drive α) :
    unlessBlocked name motion drive =
      if drive.isBlocked then .ok (some .blocked) (drive.say .warn s!"{name}: blocked")
      else motion (drive.say .info name) := by
  simp only [unlessBlocked]
  by_cases blocked : drive.isBlocked
  · rw [if_pos blocked]
    change (if drive.isBlocked then _ else _ : Action (Drive α) (Option Outcome)) drive = _
    rw [if_pos blocked]
    rfl
  · rw [if_neg blocked]
    change (if drive.isBlocked then _ else _ : Action (Drive α) (Option Outcome)) drive = _
    rw [if_neg blocked]
    rfl

theorem finish_apply (settle : Nat) (motion : Action (Drive α) (Option Outcome))
    (drive : Drive α) :
    finish settle motion drive = match motion drive with
      | .ok none ended => .ok none ended
      | .ok (some outcome) ended => match stop ended with
          | .ok _ stopped => .ok (some outcome) ((stopped.delay settle).say .info outcome.name)
          | .error fault stopped => .error fault stopped
      | .error fault ended =>
          .error fault ((Action.final stop ended).say .error
            s!"motion aborted: {fault.driveMessage}") := by
  simp only [finish]
  rw [Action.bind_apply, Action.attempt_apply]
  rcases motion drive with ⟨none | outcome, ended⟩ | ⟨fault, ended⟩
  · rfl
  · dsimp only
    rw [Action.bind_apply]
    cases stop ended <;> rfl
  · dsimp only
    rw [Action.bind_apply, Action.attempt_apply]
    simp only [Action.final]
    cases stop ended <;> rfl

theorem move_apply (heading : Heading) (speed : Int) (distance : α) (drive : Drive α) :
    move heading speed distance drive = unlessBlocked "move"
      (finish 0 (converge (distanceMotion drive.config heading speed distance))) drive := by
  rw [move, unless_blocked_apply, unless_blocked_apply]
  split
  · rfl
  · rw [Action.bind_apply]
    rfl

theorem turn_apply (heading : Heading) (degrees : α) (drive : Drive α) :
    turn heading degrees drive = unlessBlocked "turn"
      (finish Profile.settleMillis (converge (turnMotion drive.config heading degrees))) drive := by
  rw [turn, unless_blocked_apply, unless_blocked_apply]
  split
  · rfl
  · rw [Action.bind_apply]
    rfl

end Drive

namespace Primitive

def run : Primitive α → Action (Drive α) (Option Outcome)
  | moveAt direction speed distance => Drive.moveAt direction speed distance
  | moveBy direction distance => Drive.moveBy direction distance
  | moveFor direction seconds => Drive.moveFor direction seconds
  | turnBy side degrees => Drive.turnBy side degrees
  | quarterTurn side => Drive.quarterTurn side
  | rotate => Drive.rotate

def course (config : DriveConfig α) : Primitive α → Course α
  | moveAt direction speed distance => .toward
      (Drive.distanceMotion config ((Heading.straight direction).along distance) speed
        (Scalar.abs distance))
  | moveBy direction distance => .toward
      (Drive.distanceMotion config ((Heading.straight direction).along distance)
        config.standardSpeed (Scalar.abs distance))
  | moveFor direction seconds => .lasting (Heading.straight direction) seconds
  | turnBy side degrees => .toward
      (Drive.turnMotion config ((Heading.spin side).along degrees) (Scalar.abs degrees))
  | quarterTurn side => .toward
      (Drive.turnMotion config ((Heading.spin side).along (90.0 : α)) (Scalar.abs (90.0 : α)))
  | rotate => .toward
      (Drive.turnMotion config ((Heading.spin .right).along (180.0 : α)) (Scalar.abs (180.0 : α)))

def name : Primitive α → String
  | moveAt _ _ _ | moveBy _ _ => "move"
  | moveFor _ _ => "timed move"
  | turnBy _ _ | quarterTurn _ | rotate => "turn"

def settle : Primitive α → Nat
  | moveAt _ _ _ | moveBy _ _ | moveFor _ _ => 0
  | turnBy _ _ | quarterTurn _ | rotate => Profile.settleMillis

theorem run_apply (primitive : Primitive α) (drive : Drive α) :
    primitive.run drive = Drive.unlessBlocked primitive.name
      (Drive.finish primitive.settle (primitive.course drive.config).loop) drive := by
  cases primitive with
  | moveAt direction speed distance => exact Drive.move_apply _ _ _ _
  | moveBy direction distance => exact Drive.move_apply _ _ _ _
  | moveFor direction seconds => rfl
  | turnBy side degrees => exact Drive.turn_apply _ _ _
  | quarterTurn side => exact Drive.turn_apply _ _ _
  | rotate => exact Drive.turn_apply _ _ _

theorem run_unblocked (primitive : Primitive α) (drive : Drive α)
    (unblocked : drive.isBlocked = false) :
    primitive.run drive = Drive.finish primitive.settle (primitive.course drive.config).loop
      (drive.say .info primitive.name) := by
  rw [run_apply, Drive.unless_blocked_apply, if_neg (by simp [unblocked])]

def underway (limit : Nat) (primitive : Primitive α) (drive : Drive α) : Drive α :=
  if drive.isBlocked then drive
  else (primitive.course drive.config).underway limit (drive.say .info primitive.name)

def runWithin (limit : Nat) (primitive : Primitive α) : Action (Drive α) (Option Outcome) :=
  fun drive => Drive.unlessBlocked primitive.name
    (Drive.finish primitive.settle ((primitive.course drive.config).loopWithin limit)) drive

theorem run_eq_within (limit : Nat) (primitive : Primitive α) (drive : Drive α)
    (ended : Action.returns (primitive.runWithin limit drive) = true) :
    primitive.run drive = primitive.runWithin limit drive := by
  simp only [runWithin] at ended ⊢
  rw [run_apply]
  rw [Drive.unless_blocked_apply] at ended ⊢
  rw [Drive.unless_blocked_apply]
  by_cases blocked : drive.isBlocked
  · rw [if_pos blocked, if_pos blocked]
  · rw [if_neg blocked] at ended ⊢
    rw [if_neg blocked]
    have looped : Action.returns ((primitive.course drive.config).loopWithin limit
        (drive.say .info primitive.name)) = true := by
      rw [Drive.finish_apply] at ended
      rcases came : (primitive.course drive.config).loopWithin limit
        (drive.say .info primitive.name) with ⟨none | outcome, next⟩ | ⟨fault, next⟩
      · rw [came] at ended
        exact ended
      · rfl
      · rfl
    rw [Drive.finish_apply, Drive.finish_apply, Course.loop_eq_within limit _ _ looped]

end Primitive

end Rover
