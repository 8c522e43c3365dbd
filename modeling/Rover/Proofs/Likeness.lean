import Rover.Proofs.Effects
import Rover.Proofs.Lockstep

/-!
A likeness relates worlds and motors in a way that every write, millisecond and reading respects,
but for a shift of the clock. What two alike robots do then agrees round by round.
-/

set_option autoImplicit false

namespace Rover

variable {α : Type}

def RegulatorState.later (d : UInt32) (state : RegulatorState α) : RegulatorState α :=
  { state with lastTime := state.lastTime + d }

@[simp] theorem RegulatorState.later_zero (state : RegulatorState α) : state.later 0 = state := by
  simp only [later, UInt32.add_zero]

theorem elapsed_later (now since d : UInt32) : now + d - (since + d) = now - since := by
  grind

theorem advance_later (now lead d : UInt32) : now + d + lead = now + lead + d := by
  grind

variable [Scalar α]

namespace Regulator

theorem reset_later (regulator : Regulator α) (now d : UInt32) :
    regulator.reset (now + d) = (regulator.reset now).later d := by
  simp only [reset, RegulatorState.later, advance_later]

theorem step_later (regulator : Regulator α) (error : α) (state : RegulatorState α)
    (now d : UInt32) : regulator.step error (state.later d) (now + d) =
      ((regulator.step error state now).1, (regulator.step error state now).2.later d) := by
  have same : (elapsedSeconds (now + d) (state.later d).lastTime : α) =
      elapsedSeconds now state.lastTime := by
    simp only [elapsedSeconds, RegulatorState.later, elapsed_later]
  simp only [step, same]
  rfl

end Regulator

theorem SpeedControl.reset_states_later (config : SpeedConfig α) (now d : UInt32) :
    resetStates config (now + d) = (resetStates config now).map (RegulatorState.later d) := by
  simp only [resetStates, Both.map, Regulator.reset_later]

theorem Motor.same_named (motor other : Motor) (same : motor = other) :
    other.name = motor.name ∧ other.side = motor.side := by
  rw [same]
  exact ⟨rfl, rfl⟩

theorem Motor.same_commanded (motor other : Motor) (duty : Int) (same : motor = other) :
    { motor with duty } = { other with duty } := by
  rw [same]

structure Likeness (α : Type) [Scalar α] where
  shift : UInt32
  worlds : World α → World α → Prop
  motors : Motor → Motor → Prop
  now : ∀ world other, worlds world other → other.now = world.now + shift
  angles : ∀ world other, worlds world other → other.angles = world.angles
  write : ∀ channel duty, Action.Agree worlds Eq (World.write channel duty)
    (World.write channel duty)
  say : ∀ world other level source text, worlds world other →
    worlds (world.say level source text) (other.say level source text)
  tick : ∀ world other, worlds world other → worlds world.tick other.tick
  named : ∀ motor other, motors motor other → other.name = motor.name ∧ other.side = motor.side
  commanded : ∀ motor other duty, motors motor other →
    motors { motor with duty } { other with duty }

namespace Likeness

variable (like : Likeness α)

structure Controls (control other : SpeedControl α) : Prop where
  worlds : like.worlds control.world other.world
  motors : ∀ side, like.motors (control.motors.get side) (other.motors.get side)
  config : other.config = control.config
  states : other.states = control.states.map (RegulatorState.later like.shift)

structure Drives (drive other : Drive α) : Prop where
  speed : like.Controls drive.speed other.speed
  config : other.config = drive.config
  target : other.target = drive.target

theorem elapsed (world other : World α) (alike : like.worlds world other) (start : UInt32) :
    other.elapsed (start + like.shift) = world.elapsed start := by
  rw [World.elapsed, World.elapsed, like.now world other alike, elapsed_later]

theorem delay (millis : Nat) (world other : World α) (alike : like.worlds world other) :
    like.worlds (world.delay millis) (other.delay millis) := by
  induction millis generalizing world other with
  | zero => exact alike
  | succ count ih => exact ih _ _ (like.tick world other alike)

section Motors

variable (motor other : Motor) (alike : like.motors motor other)

include alike

theorem motor_load (idle : Direction) (duty : Nat) :
    Action.Agree like.worlds Eq (motor.load idle duty) (other.load idle duty) := by
  simp only [Motor.load, Motor.write]
  rw [(like.named motor other alike).2]
  exact Action.agree_bind _ _ _ _ (like.write _ _) fun _ _ _ => like.write _ _

theorem motor_stop : Action.Agree like.worlds like.motors motor.stop other.stop := by
  rw [Motor.stop_eq, Motor.stop_eq]
  refine Action.agree_bind _ _ _ _ (like.motor_load motor other alike _ _) fun _ _ _ => ?_
  exact Action.agree_pure _ _ (like.commanded motor other 0 alike)

theorem motor_drive (duty : Int) :
    Action.Agree like.worlds like.motors (motor.drive duty) (other.drive duty) := by
  rw [Motor.drive_eq, Motor.drive_eq]
  refine Action.agree_bind _ _ _ _ (Action.agree_modify _ _ ?_) fun _ _ _ => ?_
  · intro world another related
    rw [Motor.noteDrive, Motor.noteDrive, (like.named motor other alike).1]
    exact like.say world another _ _ _ related
  · refine Action.agree_bind _ _ _ _ (like.motor_load motor other alike _ _) fun _ _ _ => ?_
    exact Action.agree_pure _ _ (like.commanded motor other _ alike)

end Motors

section Controls

theorem command (side : Side) (action : Motor → Action (World α) Motor)
    (same : ∀ motor other, like.motors motor other →
      Action.Agree like.worlds like.motors (action motor) (action other)) :
    Action.Agree like.Controls Eq (SpeedControl.command side action)
      (SpeedControl.command side action) := by
  intro control other alike
  have ended := same _ _ (alike.motors side) _ _ alike.worlds
  simp only [SpeedControl.command]
  generalize action (control.motors.get side) control.world = result at ended
  generalize action (other.motors.get side) other.world = another at ended
  cases ended with
  | ok motor twin world next driven related =>
      refine .ok _ _ _ _ rfl ⟨related, fun which => ?_, alike.config, alike.states⟩
      by_cases own : which = side
      · simpa [own] using driven
      · simpa [own] using alike.motors which
  | error fault world next related =>
      exact .error _ _ _ ⟨like.say _ _ _ _ _ related, alike.motors, alike.config, alike.states⟩

theorem drive_wheel (side : Side) (duty : Int) :
    Action.Agree like.Controls Eq (SpeedControl.driveWheel side duty)
      (SpeedControl.driveWheel side duty) :=
  like.command side _ fun motor other alike => like.motor_drive motor other alike duty

theorem stop_wheel (side : Side) :
    Action.Agree like.Controls Eq (SpeedControl.stopWheel side) (SpeedControl.stopWheel side) :=
  like.command side _ like.motor_stop

theorem drive (duties : Both Int) :
    Action.Agree like.Controls Eq (SpeedControl.drive duties) (SpeedControl.drive duties) :=
  Action.agree_bind _ _ _ _ (like.drive_wheel .left duties.left) fun _ _ _ =>
    like.drive_wheel .right duties.right

theorem stop : Action.Agree like.Controls Eq SpeedControl.stop SpeedControl.stop := by
  refine Action.agree_bind _ _ _ _ (Action.agree_attempt _ _ (like.stop_wheel .left)) ?_
  intro left _ same
  subst same
  refine Action.agree_bind _ _ _ _ (Action.agree_attempt _ _ (like.stop_wheel .right)) ?_
  intro right _ same
  subst same
  exact Action.agree_bind _ _ _ _ (Action.agree_of_result left) fun _ _ _ =>
    Action.agree_of_result right

variable (control other : SpeedControl α) (alike : like.Controls control other)

include alike

theorem speeds (millis : Nat) :
    (other.speeds millis).1 = (control.speeds millis).1 ∧
      like.Controls (control.speeds millis).2 (other.speeds millis).2 := by
  have waited := like.delay (max millis 1) _ _ alike.worlds
  refine ⟨?_, waited, alike.motors, alike.config, alike.states⟩
  simp only [SpeedControl.speeds, SpeedControl.delay]
  rw [like.angles _ _ alike.worlds, like.angles _ _ waited]

theorem regulate (percents : Both Int) (measured : Both α) :
    (other.regulate percents measured).1 = (control.regulate percents measured).1 ∧
      like.Controls (control.regulate percents measured).2
        (other.regulate percents measured).2 := by
  have state : ∀ side, (control.states.map (RegulatorState.later like.shift)).get side =
      (control.states.get side).later like.shift := fun side => by cases side <;> rfl
  refine ⟨?_, alike.worlds, alike.motors, alike.config, ?_⟩
  · simp only [SpeedControl.regulate, alike.config, alike.states, state,
      like.now _ _ alike.worlds, Regulator.step_later]
  · simp only [SpeedControl.regulate, alike.config, alike.states, state,
      like.now _ _ alike.worlds, Regulator.step_later]
    rfl

theorem planned (percents : Both Int) :
    (other.planned percents).1 = (control.planned percents).1 ∧
      like.Controls (control.planned percents).2 (other.planned percents).2 := by
  have measured := like.speeds control other alike control.config.intervalMillis
  have regulated := like.regulate _ _ measured.2 (percents.map (clampTo 100))
    (control.speeds control.config.intervalMillis).1
  simp only [SpeedControl.planned]
  rw [alike.config, measured.1, regulated.1]
  refine ⟨rfl, ?_, regulated.2.motors, regulated.2.config, regulated.2.states⟩
  exact like.say _ _ _ _ _ (like.say _ _ _ _ _ (like.say _ _ _ _ _ regulated.2.worlds))

omit alike in
theorem run (percents : Both Int) :
    Action.Agree like.Controls Eq (SpeedControl.run percents) (SpeedControl.run percents) := by
  intro control other alike
  have planned := like.planned control other alike percents
  rw [SpeedControl.run_apply, SpeedControl.run_apply, planned.1]
  exact like.drive _ _ _ planned.2

end Controls

section Drives

theorem on_speed {β : Type} (action : Action (SpeedControl α) β)
    (same : Action.Agree like.Controls Eq action action) :
    Action.Agree like.Drives Eq (Drive.onSpeed action) (Drive.onSpeed action) := by
  refine Action.agree_within like.Controls _ _ _ _ _ _ ?_ ?_ same
  · exact fun _ _ alike => alike.speed
  · exact fun _ _ _ _ alike speed => ⟨speed, alike.config, alike.target⟩

theorem drive_stop : Action.Agree like.Drives Eq Drive.stop Drive.stop :=
  like.on_speed _ like.stop

theorem drive_run (percents : Both Int) : Action.Agree like.Drives Eq
    (Drive.onSpeed (SpeedControl.run percents)) (Drive.onSpeed (SpeedControl.run percents)) :=
  like.on_speed _ (like.run percents)

section Alike

variable (drive other : Drive α) (alike : like.Drives drive other)

include alike

theorem drive_say (source : Source) (level : Level) (text : String) :
    like.Drives (drive.sayAs source level text) (other.sayAs source level text) :=
  ⟨⟨like.say _ _ _ _ _ alike.speed.worlds, alike.speed.motors, alike.speed.config,
    alike.speed.states⟩, alike.config, alike.target⟩

theorem drive_delay (millis : Nat) : like.Drives (drive.delay millis) (other.delay millis) :=
  ⟨⟨like.delay millis _ _ alike.speed.worlds, alike.speed.motors, alike.speed.config,
    alike.speed.states⟩, alike.config, alike.target⟩

theorem drive_now : other.world.now = drive.world.now + like.shift :=
  like.now _ _ alike.speed.worlds

theorem drive_elapsed (start : UInt32) :
    other.world.elapsed (start + like.shift) = drive.world.elapsed start :=
  like.elapsed _ _ alike.speed.worlds start

theorem progress (heading : Heading) : other.progress heading = drive.progress heading := by
  have angles : other.world.angles = drive.world.angles := like.angles _ _ alike.speed.worlds
  simp only [Drive.progress, angles]

theorem has_arrived (motion : Motion α) :
    Drive.hasArrived motion other = Drive.hasArrived motion drive := by
  simp only [Drive.hasArrived, like.progress drive other alike]

theorem fresh_state (target : α) :
    other.freshState target = (drive.freshState target).later like.shift := by
  simp only [Drive.freshState, Drive.regulator, alike.config, like.drive_now drive other alike,
    Regulator.reset_later]
  rfl

theorem drive_regulate (motion : Motion α) (start : UInt32) (states : Both (RegulatorState α)) :
    other.regulate motion (start + like.shift) (states.map (RegulatorState.later like.shift)) =
      ((drive.regulate motion start states).1,
        (drive.regulate motion start states).2.map (RegulatorState.later like.shift)) := by
  simp only [Drive.regulate, Drive.regulator, alike.config, like.progress drive other alike,
    like.drive_now drive other alike, like.drive_elapsed drive other alike, Both.map,
    Regulator.step_later]

end Alike

theorem follow (motion : Motion α) (start : UInt32) (states : Both (RegulatorState α)) :
    Action.Agree like.Drives (fun kept other => other = kept.map (RegulatorState.later like.shift))
      (Drive.follow motion start states)
      (Drive.follow motion (start + like.shift)
        (states.map (RegulatorState.later like.shift))) := by
  refine Action.agree_get_bind _ _ ?_
  intro drive other alike
  simp only [like.drive_regulate drive other alike, like.drive_elapsed drive other alike]
  refine Action.matching_set_bind _ _ _ _ _ _ ?_ ?_
  · exact like.drive_say _ _ (like.drive_say _ _ (like.drive_say _ _ alike _ _ _) _ _ _) _ _ _
  · exact Action.agree_bind _ _ _ _ (like.drive_run _) fun _ _ _ => Action.agree_pure _ _ rfl

theorem steer (motion : Motion α) (start : UInt32) (states others : Both (RegulatorState α))
    (handed : others = states.map (RegulatorState.later like.shift)) :
    Action.Agree like.Drives (Sum.LiftRel Eq fun kept other =>
        other = kept.map (RegulatorState.later like.shift))
      (Drive.steer motion start states) (Drive.steer motion (start + like.shift) others) := by
  subst handed
  refine Action.agree_get_bind _ _ ?_
  intro drive other alike
  simp only [like.has_arrived drive other alike, like.drive_elapsed drive other alike]
  by_cases there : Drive.hasArrived motion drive
  · simp only [if_pos there]
    exact .ok _ _ _ _ (.inl rfl) (like.drive_say drive other alike _ _ _)
  · by_cases late : motion.timeout ≤ drive.world.elapsed start
    · simp only [if_neg there, if_pos late]
      exact .ok _ _ _ _ (.inl rfl) (like.drive_say drive other alike _ _ _)
    · simp only [if_neg there, if_neg late]
      refine Action.agree_bind _ _ _ _ (like.follow motion start states) ?_ _ _ alike
      exact fun _ _ handed => Action.agree_pure _ _ (.inr handed)

theorem cruise (heading : Heading) (period start : UInt32) :
    Action.Agree like.Drives (Sum.LiftRel Eq Eq) (Drive.cruise heading period start ())
      (Drive.cruise heading period (start + like.shift) ()) := by
  refine Action.agree_get_bind _ _ ?_
  intro drive other alike
  simp only [like.drive_elapsed drive other alike, like.progress drive other alike, alike.config]
  by_cases due : period ≤ drive.world.elapsed start
  · simp only [if_pos due]
    exact .ok _ _ _ _ (.inl rfl) (like.drive_say drive other alike _ _ _)
  · simp only [if_neg due]
    refine Action.matching_set_bind _ _ _ _ _ _ (like.drive_say drive other alike _ _ _) ?_
    exact Action.agree_bind _ _ _ _ (like.drive_run _) fun _ _ _ =>
      Action.agree_pure _ _ (.inr rfl)

variable (drive other : Drive α)

-- Only where the loop begins do the two robots have to be alike: what it clears may differ before.
theorem steer_rounds (motion : Motion α)
    (begun : like.Drives (drive.start motion.target) (other.start motion.target)) :
    ∀ states others, others = states.map (RegulatorState.later like.shift) →
      Action.Agree like.Drives (Sum.LiftRel Eq fun kept other =>
          other = kept.map (RegulatorState.later like.shift))
        (Drive.steer motion (drive.start motion.target).world.now states)
        (Drive.steer motion (other.start motion.target).world.now others) := by
  intro states others handed
  rw [like.drive_now _ _ begun]
  exact like.steer motion _ states others handed

theorem cruise_rounds (heading : Heading) (period : UInt32)
    (begun : like.Drives (drive.start 0.0) (other.start 0.0)) :
    ∀ given handed : Unit, given = handed → Action.Agree like.Drives (Sum.LiftRel Eq Eq)
      (Drive.cruise heading period (drive.start 0.0).world.now given)
      (Drive.cruise heading period (other.start 0.0).world.now handed) := by
  intro _ _ _
  rw [like.drive_now _ _ begun]
  exact like.cruise heading period _

theorem loop (course : Course α) (begun : like.Drives (course.begun drive) (course.begun other)) :
    Action.Matching like.Drives Eq (course.loop drive) (course.loop other) := by
  cases course with
  | toward motion =>
      have states := congrArg Both.const (like.fresh_state _ _ begun motion.target)
      exact Action.agree_rounds _ _ (like.steer_rounds drive other motion begun) _ _ states _ _
        begun
  | lasting heading seconds =>
      exact Action.agree_rounds _ _ (like.cruise_rounds drive other heading _ begun) () () rfl _ _
        begun

theorem underway (rounds : Nat) (course : Course α)
    (begun : like.Drives (course.begun drive) (course.begun other)) :
    like.Drives (course.underway rounds drive) (course.underway rounds other) := by
  cases course with
  | toward motion =>
      have states := congrArg Both.const (like.fresh_state _ _ begun motion.target)
      exact Action.agree_reached _ _ (like.steer_rounds drive other motion begun) rounds _ _ _ _
        states begun
  | lasting heading seconds =>
      exact Action.agree_reached _ _ (like.cruise_rounds drive other heading _ begun) rounds () () _ _
        rfl begun

theorem start (target : α)
    (worlds : like.worlds (drive.world.preset (.const 0)) (other.world.preset (.const 0)))
    (motors : ∀ side, like.motors (drive.speed.motors.get side) (other.speed.motors.get side))
    (speedConfig : other.speed.config = drive.speed.config) (config : other.config = drive.config) :
    like.Drives (drive.start target) (other.start target) := by
  refine ⟨⟨worlds, motors, speedConfig, ?_⟩, config, rfl⟩
  have now := like.now _ _ worlds
  change other.world.now = drive.world.now + like.shift at now
  change SpeedControl.resetStates other.speed.config other.world.now = _
  rw [speedConfig, now, SpeedControl.reset_states_later]
  rfl

theorem finish (settle : Nat) (motion another : Action (Drive α) (Option Outcome))
    (same : Action.Matching like.Drives Eq (motion drive) (another other)) :
    Action.Matching like.Drives Eq (Drive.finish settle motion drive)
      (Drive.finish settle another other) := by
  rw [Drive.finish_apply, Drive.finish_apply]
  generalize motion drive = ended at same
  generalize another other = endedToo at same
  cases same with
  | ok outcome _ ended last equal related =>
      subst equal
      cases outcome with
      | none => exact .ok _ _ _ _ rfl related
      | some outcome =>
          have halted := like.drive_stop _ _ related
          dsimp only
          generalize Drive.stop ended = stopped at halted
          generalize Drive.stop last = stoppedToo at halted
          cases halted with
          | ok _ _ stopped halted _ related =>
              exact .ok _ _ _ _ rfl (like.drive_say _ _ (like.drive_delay _ _ related settle) _ _ _)
          | error fault stopped halted related => exact .error _ _ _ related
  | error fault ended last related =>
      have halted := Action.agree_attempt _ _ like.drive_stop _ _ related
      refine .error _ _ _ (like.drive_say _ _ ?_ _ _ _)
      rw [← Action.final_attempt, ← Action.final_attempt Drive.stop last]
      simp only [Action.final]
      generalize Action.attempt Drive.stop ended = stopped at halted
      generalize Action.attempt Drive.stop last = stoppedToo at halted
      cases halted with
      | ok _ _ _ _ _ related | error _ _ _ related => exact related

end Drives

section Primitives

variable (primitive : Primitive α) (drive other : Drive α) (config : other.config = drive.config)
  (begun : like.Drives (primitive.begun drive) (primitive.begun other))
  (unblocked : drive.isBlocked = false) (unblockedToo : other.isBlocked = false)

include config begun unblocked unblockedToo

theorem primitive_run :
    Action.Matching like.Drives Eq (primitive.run drive) (primitive.run other) := by
  rw [primitive.run_unblocked drive unblocked, primitive.run_unblocked other unblockedToo, config]
  simp only [Primitive.begun, config] at begun
  exact like.finish _ _ primitive.settle _ _ (like.loop _ _ _ begun)

theorem primitive_underway (rounds : Nat) :
    like.Drives (primitive.underway rounds drive) (primitive.underway rounds other) := by
  rw [Primitive.underway, Primitive.underway, if_neg (by simp [unblocked]),
    if_neg (by simp [unblockedToo]), config]
  simp only [Primitive.begun, config] at begun
  exact like.underway _ _ rounds _ begun

end Primitives

end Likeness

end Rover
