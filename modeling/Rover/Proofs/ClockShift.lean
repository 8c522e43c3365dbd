import Rover.Proofs.Likeness
import Rover.Proofs.Session

set_option autoImplicit false

namespace Rover

variable {α : Type}

def Chassis.later (d : UInt32) (chassis : Chassis α) : Chassis α :=
  { chassis with now := chassis.now + d }

def PwmWrite.later (d : UInt32) (write : PwmWrite) : PwmWrite :=
  { write with time := write.time + d }

def World.later (d : UInt32) (world : World α) : World α :=
  { world with
    toChassis := world.toChassis.later d
    journal := world.journal.map (PwmWrite.later d)
    recording := world.recording.map (Chassis.later d) }

def SpeedControl.later (d : UInt32) (control : SpeedControl α) : SpeedControl α :=
  { control with
    world := control.world.later d
    states := control.states.map (RegulatorState.later d) }

def Drive.later (d : UInt32) (drive : Drive α) : Drive α :=
  { drive with speed := drive.speed.later d }

def Step.later (d : UInt32) : Step α → Step α
  | elapsed since => elapsed (since + d)
  | step => step

def World.Later (d : UInt32) (world other : World α) : Prop := other = world.later d

def SpeedControl.Later (d : UInt32) (control other : SpeedControl α) : Prop :=
  other = control.later d

def Drive.Later (d : UInt32) (drive other : Drive α) : Prop := other = drive.later d

section Channels

variable (d : UInt32)

theorem World.write_later (channel : Channel) (duty : Nat) :
    Action.Agree (Later d) Eq (write channel duty : Action (World α) Unit) (write channel duty) := by
  rintro world _ rfl
  rw [write_apply, write_apply]
  have same : (world.later d).failing (world.later d).moment channel =
      world.failing world.moment channel := rfl
  rw [same]
  by_cases refused : world.failing world.moment channel
  · rw [if_pos refused, if_pos refused]
    exact .error _ _ _ rfl
  · rw [if_neg refused, if_neg refused]
    exact .ok _ _ _ _ rfl rfl

theorem World.set_duty_later (channel : Channel) (duty : Nat) :
    Action.Agree (Later d) Eq (setDuty channel duty : Action (World α) Unit)
      (setDuty channel duty) := by
  rintro world _ rfl
  by_cases refused : world.failing world.moment channel
  · have refusedToo : (world.later d).failing (world.later d).moment channel = true := refused
    simp only [setDuty, if_pos refused, if_pos refusedToo]
    exact .error _ _ _ rfl
  · have takenToo : ¬ (world.later d).failing (world.later d).moment channel = true := refused
    simp only [setDuty, if_neg refused, if_neg takenToo]
    exact .ok _ _ _ _ rfl rfl

end Channels

variable [Scalar α] (d : UInt32)

theorem World.tick_later (world : World α) : (world.later d).tick = world.tick.later d := by
  have turned : (world.toChassis.later d).tick = world.toChassis.tick.later d := by
    simp only [Chassis.later, Chassis.tick, advance_later]
  simp only [later, tick, List.map_cons, turned]

def Likeness.later : Likeness α where
  shift := d
  worlds := World.Later d
  motors := Eq
  now world _ later := by
    cases later
    rfl
  angles world _ later := by
    cases later
    rfl
  write := World.write_later d
  say world _ level source text later := by
    cases later
    rfl
  tick world _ later := by
    cases later
    exact world.tick_later d
  named := Motor.same_named
  commanded := Motor.same_commanded

theorem Likeness.controls_later :
    (Likeness.later d : Likeness α).Controls = SpeedControl.Later d := by
  funext control other
  apply propext
  constructor
  · intro alike
    obtain ⟨worlds, motors, config, states⟩ := alike
    have same : control.motors = other.motors := congrArg₂ Both.mk (motors .left) (motors .right)
    cases other
    cases worlds
    cases same
    cases config
    cases states
    rfl
  · intro later
    cases later
    exact ⟨rfl, fun _ => rfl, rfl, rfl⟩

theorem Likeness.drives_later : (Likeness.later d : Likeness α).Drives = Drive.Later d := by
  funext drive other
  apply propext
  constructor
  · intro alike
    obtain ⟨speed, config, target⟩ := alike
    rw [controls_later] at speed
    cases other
    cases speed
    cases config
    cases target
    rfl
  · intro later
    cases later
    refine ⟨?_, rfl, rfl⟩
    rw [controls_later]
    rfl

namespace SpeedControl

theorem new_later (world : World α) (config : SpeedConfig α) :
    new (world.later d) config = (new world config).later d := by
  have states := reset_states_later config world.now d
  simp only [new, later, ← states]
  rfl

theorem reset_regulators_later (control : SpeedControl α) :
    (control.later d).resetRegulators = control.resetRegulators.later d := by
  have states := reset_states_later control.config control.world.now d
  simp only [resetRegulators, later, ← states]
  rfl

end SpeedControl

theorem Primitive.run_later (primitive : Primitive α) :
    Action.Agree (Drive.Later d) Eq primitive.run primitive.run := by
  intro drive _ later
  cases later
  by_cases blocked : drive.isBlocked
  · have blockedToo : (drive.later d).isBlocked := blocked
    rw [run_blocked primitive drive blocked, run_blocked primitive _ blockedToo]
    exact .ok _ _ _ _ rfl rfl
  · have unblocked : drive.isBlocked = false := by simpa using blocked
    have begun : (Likeness.later d).Drives (primitive.begun drive)
        (primitive.begun (drive.later d)) := by
      rw [Primitive.begun, Primitive.begun, Course.begun_start, Course.begun_start]
      exact (Likeness.later d).start _ _ _ rfl (fun _ => rfl) rfl rfl
    have same := (Likeness.later d).primitive_run primitive drive (drive.later d) rfl begun
      unblocked unblocked
    rwa [Likeness.drives_later] at same

namespace Step

theorem act_later (step : Step α) :
    Action.Agree (Drive.Later d) Eq step.act (step.later d).act := by
  have modified : ∀ change : Drive α → Drive α,
      (∀ drive, change (drive.later d) = (change drive).later d) →
      Action.Agree (Drive.Later d) Eq (modify change >>= fun _ => pure Answer.done)
        (modify change >>= fun _ => pure Answer.done : Action (Drive α) (Answer α)) := by
    intro change kept
    refine Action.agree_bind _ _ _ _ (Action.agree_modify _ _ ?_) fun _ _ _ =>
      Action.agree_pure _ _ rfl
    rintro drive _ rfl
    exact kept drive
  have commanded : ∀ command : Action (SpeedControl α) Unit,
      Action.Agree (Likeness.later d).Controls Eq command command →
      Action.Agree (Drive.Later d) Eq (Drive.onSpeed command >>= fun _ => pure Answer.done)
        (Drive.onSpeed command >>= fun _ => pure Answer.done : Action (Drive α) (Answer α)) := by
    intro command same
    rw [← Likeness.drives_later]
    exact Action.agree_bind _ _ _ _ ((Likeness.later d).on_speed _ same) fun _ _ _ =>
      Action.agree_pure _ _ rfl
  have measured : ∀ (millis : Nat) (answer : Both α → Answer α), Action.Agree (Drive.Later d) Eq
      (fun drive => .ok (answer (drive.speed.speeds millis).1)
        { drive with speed := (drive.speed.speeds millis).2 })
      (fun drive => .ok (answer (drive.speed.speeds millis).1)
        { drive with speed := (drive.speed.speeds millis).2 }) := by
    rw [← Likeness.drives_later]
    intro millis answer drive other alike
    have same := (Likeness.later d).speeds _ _ alike.speed millis
    exact .ok _ _ _ _ (congrArg answer same.1.symm) ⟨same.2, alike.config, alike.target⟩
  cases step with
  | run percents => exact commanded _ ((Likeness.later d).run percents)
  | drive duties => exact commanded _ ((Likeness.later d).drive duties)
  | driveWheel side duty => exact commanded _ ((Likeness.later d).drive_wheel side duty)
  | stop => exact commanded _ (Likeness.later d).stop
  | stopWheel side => exact commanded _ ((Likeness.later d).stop_wheel side)
  | speeds millis => exact measured millis .speeds
  | speedOf side millis => exact measured millis fun both => .speed (both.get side)
  | resetRegulators =>
      refine modified _ fun drive => ?_
      have same := SpeedControl.reset_regulators_later d drive.speed
      exact congrArg (fun speed => { drive with speed }) same
  | resetEncoders => exact modified _ fun _ => rfl
  | perform primitive =>
      refine Action.agree_bind _ _ _ _ (primitive.run_later d) ?_
      rintro outcome _ rfl
      exact Action.agree_pure _ _ rfl
  | delay millis =>
      rw [← Likeness.drives_later]
      refine Action.agree_bind _ _ _ _ (Action.agree_modify _ _ ?_) fun _ _ _ =>
        Action.agree_pure _ _ rfl
      exact fun drive other alike => (Likeness.later d).drive_delay drive other alike millis
  | elapsed since =>
      rintro drive _ rfl
      exact .ok _ _ _ _ (congrArg Answer.elapsed (elapsed_later _ _ _).symm) rfl
  | preset positions => exact modified _ fun _ => rfl
  | setDuty channel duty =>
      refine commanded _ ?_
      rw [Likeness.controls_later]
      refine Action.agree_within _ _ _ _ _ _ _ ?_ ?_ (World.set_duty_later d channel duty)
      · intro control _ later
        cases later
        rfl
      · intro control _ world _ later written
        cases later
        cases written
        rfl
  | fail channel | heal channel => exact modified _ fun _ => rfl
  | block | unblock => exact modified _ fun _ => rfl

end Step

namespace Drive

theorem trace_later (steps : List (Step α)) (drive : Drive α) :
    trace (steps.map (Step.later d)) (drive.later d) =
      (trace steps drive).map fun (result, left) => (result, left.later d) := by
  induction steps generalizing drive with
  | nil => rfl
  | cons step rest ih =>
      have stepped := step.act_later d drive _ rfl
      simp only [List.map_cons, trace]
      generalize step.act drive = first at stepped
      generalize (step.later d).act (drive.later d) = second at stepped
      cases stepped with
      | ok answer _ next _ equal related =>
          cases equal
          cases related
          simp only [List.map_cons, ih]
      | error fault next _ related =>
          cases related
          simp only [List.map_cons, ih]

theorem new_later (world : World α) (speed : SpeedConfig α) (config : DriveConfig α) :
    new (world.later d) speed config = (new world speed config).later d := by
  simp only [new, SpeedControl.new_later]
  rfl

-- Two robots, alike but for the clock: what every step comes to and all that it leaves are alike
-- but for the clock.
theorem clock_shift_invisible (pulses : Nat) (plant : Plant) (response : α) (start : UInt32)
    (failing : Nat → Channel → Bool) (blocked : Nat → Bool) (threshold : Option Level)
    (speed : SpeedConfig α) (config : DriveConfig α) (steps : List (Step α)) :
    trace (steps.map (Step.later d))
        (fresh pulses plant response (start + d) failing blocked threshold speed config) =
      (trace steps (fresh pulses plant response start failing blocked threshold speed config)).map
        fun (result, left) => (result, left.later d) := by
  have begun : fresh pulses plant response (start + d) failing blocked threshold speed config =
      (fresh pulses plant response start failing blocked threshold speed config).later d :=
    new_later d { World.new pulses plant response start with
      failing, blocked, log := { threshold } } speed config
  rw [begun]
  exact trace_later d steps _

end Drive

end Rover
