import Rover.Proofs.Faults
import Rover.Proofs.Odometer

set_option autoImplicit false

namespace Rover

variable {α : Type}

structure Wheel.Paired (since : Both Int) (left right : Wheel α) : Prop where
  rate : left.rate = right.rate
  fraction : left.fraction = right.fraction
  ticks : left.ticks - since.left = right.ticks - since.right
  position : left.encoder.position = right.encoder.position
  pulses : left.encoder.pulses = right.encoder.pulses
  seen : left.encoder.phase = left.phase
  seenToo : right.encoder.phase = right.phase

structure Chassis.Matched (since : Both Int) (chassis : Chassis α) : Prop where
  bridges : chassis.bridges.left = chassis.bridges.right
  wheels : Wheel.Paired since chassis.wheels.left chassis.wheels.right

structure World.Abreast (entry world : World α) : Prop where
  recorded : ∃ fresh, world.recording = fresh ++ entry.recording ∧
    ∀ chassis ∈ fresh, chassis.Matched entry.ticks
  reached : world.toChassis.Matched entry.ticks

structure SpeedControl.Abreast (entry : World α) (control : SpeedControl α) : Prop where
  world : World.Abreast entry control.world
  states : control.states.left = control.states.right
  gains : control.config.gains.left = control.config.gains.right
  wired : control.Wired

def Drive.Abreast (entry : World α) (drive : Drive α) : Prop := drive.speed.Abreast entry

namespace Wheel

variable (since : Both Int) (left right : Wheel α)

theorem roll_paired (direction : Direction) (paired : Paired since left right) :
    Paired since (left.roll direction) (right.roll direction) := by
  refine ⟨paired.rate, paired.fraction, ?_, ?_, paired.pulses, rfl, rfl⟩
  · have ticks := paired.ticks
    simp only [roll]
    omega
  · rw [roll_position left direction paired.seen, roll_position right direction paired.seenToo,
      paired.position]

theorem roll_many_paired (direction : Direction) (count : Nat)
    (paired : Paired since left right) :
    Paired since (left.rollMany direction count) (right.rollMany direction count) := by
  induction count generalizing left right with
  | zero => exact paired
  | succ count ih => exact ih _ _ (roll_paired since left right direction paired)

theorem advance_paired [Scalar α] (plant : Plant) (response : α) (duty : Int)
    (paired : Paired since left right) :
    Paired since (left.advance plant response duty) (right.advance plant response duty) := by
  obtain ⟨rate, fraction, ticks, position, pulses, seen, seenToo⟩ := paired
  simp only [advance, rate, fraction]
  exact roll_many_paired since _ _ _ _ ⟨rfl, rfl, ticks, position, pulses, seen, seenToo⟩

theorem roll_many_pulses (direction : Direction) (count : Nat) (wheel : Wheel α) :
    (wheel.rollMany direction count).encoder.pulses = wheel.encoder.pulses := by
  induction count generalizing wheel with
  | zero => rfl
  | succ count ih => exact ih (wheel.roll direction)

end Wheel

theorem Chassis.tick_matched [Scalar α] (since : Both Int) (chassis : Chassis α)
    (matched : chassis.Matched since) : chassis.tick.Matched since := by
  refine ⟨matched.bridges, ?_⟩
  simp only [tick, Both.zipWith, matched.bridges]
  exact Wheel.advance_paired since _ _ _ _ _ matched.wheels

namespace World

variable (entry world : World α)

variable [Scalar α]

theorem tick_abreast (abreast : Abreast entry world) : Abreast entry world.tick := by
  obtain ⟨⟨fresh, grown, all⟩, reached⟩ := abreast
  have ticked := Chassis.tick_matched entry.ticks world.toChassis reached
  refine ⟨⟨world.toChassis.tick :: fresh, ?_, ?_⟩, ticked⟩
  · simp only [tick, grown, List.cons_append]
  · intro chassis member
    rcases List.mem_cons.mp member with now | before
    · rw [now]
      exact ticked
    · exact all chassis before

theorem delay_abreast (millis : Nat) (abreast : Abreast entry world) :
    Abreast entry (world.delay millis) := by
  induction millis generalizing world with
  | zero => exact abreast
  | succ count ih => exact ih _ (tick_abreast entry world abreast)

theorem angles_abreast (abreast : Abreast entry world) :
    world.angles.left = world.angles.right := by
  obtain ⟨_, _, _, position, pulses, _⟩ := abreast.reached.wheels
  simp only [angles, Both.map, Encoder.radians, position, pulses]

end World

theorem Motor.drive_loaded (motor next : Motor) (duty : Int) (world after : World α)
    (driven : motor.drive duty world = .ok next after) :
    after.bridges = world.bridges.set motor.side (Bridge.carrying duty) := by
  rw [drive_eq] at driven
  obtain ⟨_, said, telling, driven⟩ := Action.ok_of_bind _ _ _ _ _ driven
  cases telling
  obtain ⟨_, _, loaded, returned⟩ := Action.ok_of_bind _ _ _ _ _ driven
  have carried := load_ok _ _ _ _ _ _ loaded
  cases returned
  rw [carried]
  rcases motor with ⟨name, side, last⟩
  simp only [Bridge.carrying, idle]
  by_cases back : clampTo maxDuty duty < 0
  · cases side <;> simp only [if_pos back] <;> rfl
  · cases side <;> simp only [if_neg back] <;> rfl

namespace SpeedControl

theorem drive_bridges (duties : Both Int) (control next : SpeedControl α) (value : Unit)
    (wired : control.Wired) (driven : drive duties control = .ok value next) :
    next.world.bridges = duties.map Bridge.carrying := by
  obtain ⟨_, middle, first, second⟩ := Action.ok_of_bind _ _ _ _ _ driven
  obtain ⟨left, between, leftDriven, rfl⟩ := command_ok _ _ _ _ _ first
  obtain ⟨right, after, rightDriven, rfl⟩ := command_ok _ _ _ _ _ second
  have leftLoaded := Motor.drive_loaded _ _ _ _ _ leftDriven
  have rightLoaded := Motor.drive_loaded _ _ _ _ _ rightDriven
  rw [wired .left] at leftLoaded
  rw [show ((control.motors.set .left left).get .right).side = .right from wired .right,
    leftLoaded] at rightLoaded
  exact rightLoaded

def SameStates (before after : SpeedControl α) : Prop := after.states = before.states

theorem same_states_trans (first second third : SpeedControl α) (one : SameStates first second)
    (two : SameStates second third) : SameStates first third :=
  two.trans one

theorem command_states (side : Side) (action : Motor → Action (World α) Motor) :
    Action.Keeps SameStates (command side action) := by
  intro control
  simp only [SameStates, Action.final, command]
  cases action (control.motors.get side) control.world <;> rfl

theorem drive_states (duties : Both Int) :
    Action.Keeps SameStates (drive duties : Action (SpeedControl α) Unit) :=
  Action.keeps_bind same_states_trans _ _ (command_states .left _) fun _ => command_states .right _

theorem stop_states : Action.Keeps SameStates (stop : Action (SpeedControl α) Unit) := by
  have still : ∀ control : SpeedControl α, SameStates control control := fun _ => rfl
  refine Action.keeps_bind same_states_trans _ _
    (Action.keeps_attempt _ (command_states .left _)) fun left => ?_
  refine Action.keeps_bind same_states_trans _ _
    (Action.keeps_attempt _ (command_states .right _)) fun right => ?_
  exact Action.keeps_bind same_states_trans _ _ (Action.keeps_of_result still left)
    fun _ => Action.keeps_of_result still right

variable (entry : World α) (control next : SpeedControl α)

theorem touched_abreast (abreast : control.Abreast entry) (carried : Over World.Touched control next)
    (states : next.states = control.states)
    (bridges : next.world.bridges.left = next.world.bridges.right) : next.Abreast entry := by
  have wheels := (World.touched_still _ _ carried.world).2
  refine ⟨⟨?_, ⟨bridges, ?_⟩⟩, ?_, ?_, fun side => (carried.sides side).trans (abreast.wired side)⟩
  · rw [World.touched_recording _ _ carried.world]
    exact abreast.world.recorded
  · rw [wheels]
    exact abreast.world.reached.wheels
  · rw [states]
    exact abreast.states
  · rw [carried.config]
    exact abreast.gains

theorem drive_abreast (duties : Both Int) (same : duties.left = duties.right) :
    Action.Holds (Abreast entry) (drive duties) fun _ => Abreast entry := by
  intro control value next abreast driven
  have carried := drive_over duties control
  have states := drive_states duties control
  simp only [Action.final, driven, Action.landing] at carried states
  apply touched_abreast entry control next abreast carried states
  rw [drive_bridges duties control next value abreast.wired driven]
  simp only [Both.map, same]

theorem stop_abreast : Action.Holds (Abreast entry) stop fun _ => Abreast entry := by
  intro control value next abreast stopped
  have carried := stop_over control
  have states := stop_states control
  simp only [Action.final, stopped, Action.landing] at carried states
  apply touched_abreast entry control next abreast carried states
  rw [(stop_released control next value abreast.wired stopped).1]
  rfl

variable [Scalar α] (abreast : control.Abreast entry)

include abreast

theorem delay_abreast (millis : Nat) : (control.delay millis).Abreast entry :=
  ⟨World.delay_abreast entry control.world millis abreast.world, abreast.states, abreast.gains,
    abreast.wired⟩

theorem speeds_abreast (millis : Nat) :
    (control.speeds millis).1.left = (control.speeds millis).1.right ∧
      (control.speeds millis).2.Abreast entry := by
  have waited := delay_abreast entry control abreast (max millis 1)
  refine ⟨?_, waited⟩
  simp only [speeds, Both.zipWith]
  rw [World.angles_abreast entry _ abreast.world, World.angles_abreast entry _ waited.world]

theorem regulate_abreast (percents : Both Int) (measured : Both α)
    (asked : percents.left = percents.right) (same : measured.left = measured.right) :
    (control.regulate percents measured).1.left = (control.regulate percents measured).1.right ∧
      (control.regulate percents measured).2.Abreast entry := by
  have step : ∀ side, (regulator control.config side).step
        (Scalar.ofInt (percents.get side) * (control.config.maxSpeed / 100.0) - measured.get side)
        (control.states.get side) control.world.now =
      (regulator control.config .right).step
        (Scalar.ofInt percents.right * (control.config.maxSpeed / 100.0) - measured.right)
        control.states.right control.world.now := by
    intro side
    cases side with
    | left =>
        simp only [regulator, Both.get, abreast.gains, abreast.states, asked, same]
    | right => rfl
  refine ⟨congrArg (·.1) (step .left), abreast.world, congrArg (·.2) (step .left), abreast.gains,
    abreast.wired⟩

theorem planned_abreast (percents : Both Int) (asked : percents.left = percents.right) :
    (control.planned percents).1.left = (control.planned percents).1.right ∧
      (control.planned percents).2.Abreast entry := by
  obtain ⟨same, measured⟩ := speeds_abreast entry control abreast control.config.intervalMillis
  obtain ⟨duties, regulated⟩ := regulate_abreast entry _ measured (percents.map (clampTo 100)) _
    (congrArg (clampTo 100) asked) same
  exact ⟨duties, ⟨⟨regulated.world.recorded, regulated.world.reached⟩, regulated.states,
    regulated.gains, regulated.wired⟩⟩

omit abreast in
theorem run_abreast (percents : Both Int) (asked : percents.left = percents.right) :
    Action.Holds (Abreast entry) (run percents) fun _ => Abreast entry := by
  intro control value next abreast ran
  obtain ⟨duties, planned⟩ := planned_abreast entry control abreast percents asked
  rw [run_apply] at ran
  exact drive_abreast entry _ duties _ value next planned ran

end SpeedControl

-- A comparison that no number passes against itself breaks ties by pushing neither wheel.
def Scalar.Irreflexive (α : Type) [Scalar α] : Prop := ∀ x : α, ¬ x < x

variable [Scalar α]

namespace Profile

theorem straight_correction_tie (errors progress : Both α) (k : α)
    (irreflexive : Scalar.Irreflexive α) (tie : errors.left = errors.right) :
    straightCorrection errors progress k = ⟨0, 0⟩ := by
  simp only [straightCorrection, tie, if_neg (irreflexive _)]

theorem progress_correction_tie (progress : Both α) (k : α)
    (irreflexive : Scalar.Irreflexive α) (tie : progress.left = progress.right) :
    progressCorrection progress k = ⟨0, 0⟩ := by
  simp only [progressCorrection, tie, if_neg (irreflexive _)]

end Profile

namespace Drive

variable (entry : World α)

omit [Scalar α] in
theorem say_abreast (drive : Drive α) (source : Source) (level : Level) (text : String)
    (abreast : drive.Abreast entry) : (drive.sayAs source level text).Abreast entry :=
  ⟨⟨abreast.world.recorded, abreast.world.reached⟩, abreast.states, abreast.gains, abreast.wired⟩

theorem run_abreast (percents : Both Int) (asked : percents.left = percents.right) :
    Action.Holds (Abreast entry) (onSpeed (SpeedControl.run percents)) fun _ => Abreast entry :=
  Action.holds_within (SpeedControl.Abreast entry) _ _ _ (fun _ abreast => abreast)
    (fun _ _ _ abreast => abreast) (SpeedControl.run_abreast entry percents asked)

omit [Scalar α] in
theorem stop_abreast : Action.Holds (Abreast entry) stop fun _ => Abreast entry :=
  Action.holds_within (SpeedControl.Abreast entry) _ _ _ (fun _ abreast => abreast)
    (fun _ _ _ abreast => abreast) (SpeedControl.stop_abreast entry)

theorem progress_abreast (drive : Drive α) (heading : Heading)
    (straight : heading.left = heading.right) (abreast : drive.Abreast entry) :
    (drive.progress heading).left = (drive.progress heading).right := by
  have angles : drive.world.angles.left = drive.world.angles.right :=
    World.angles_abreast entry _ abreast.world
  simp only [progress, Both.zipWith, angles, straight]

section Cruising

variable (irreflexive : Scalar.Irreflexive α) (heading : Heading)
  (straight : heading.left = heading.right)

include irreflexive straight

theorem timed_percents_abreast (config : DriveConfig α) (elapsed : UInt32) (progress : Both α)
    (tie : progress.left = progress.right) :
    (timedPercents config heading elapsed progress).left =
      (timedPercents config heading elapsed progress).right := by
  simp only [timedPercents, Profile.progress_correction_tie progress _ irreflexive tie,
    Both.zipWith, straight]

theorem cruise_abreast (period start : UInt32) : Action.HoldsRound (Abreast entry)
    (fun _ => True) (cruise heading period start : Unit → Action (Drive α) _) := by
  intro _ _
  refine Action.holds_get_bind _ _ fun drive abreast value last cruised => ?_
  dsimp only at cruised
  by_cases due : period ≤ drive.world.elapsed start
  · rw [if_pos due] at cruised
    cases cruised
    exact ⟨say_abreast entry drive _ _ _ abreast, fun _ _ => trivial⟩
  · rw [if_neg due] at cruised
    have progress := progress_abreast entry drive heading straight abreast
    generalize elapsedEq : drive.world.elapsed start = elapsed at cruised
    have asked := timed_percents_abreast irreflexive heading straight drive.config elapsed _
      progress
    have running := Action.holds_bind _ (fun (_ : Outcome ⊕ Unit) drive => Abreast entry drive) _ _
      (run_abreast entry _ asked) fun _ => Action.holds_pure (.inr ()) _ fun _ abreast => abreast
    have noted : (drive.noteRound elapsed (timedPercents drive.config heading elapsed
        (drive.progress heading))).Abreast entry := say_abreast entry drive _ _ _ abreast
    exact ⟨running _ value last noted cruised, fun _ _ => trivial⟩

end Cruising

section Steering

variable (irreflexive : Scalar.Irreflexive α) (motion : Motion α)
  (straight : motion.heading.left = motion.heading.right)

include irreflexive straight

theorem percents_abreast (k : α) (elapsed : UInt32) (commands : Both Int) (progress : Both α)
    (same : commands.left = commands.right) (tie : progress.left = progress.right) :
    (percents motion k elapsed commands progress).left =
      (percents motion k elapsed commands progress).right := by
  have errors : (errors motion progress).left = (errors motion progress).right := by
    simp only [Drive.errors, Both.map, tie]
  simp only [percents, Profile.straight_correction_tie _ _ _ irreflexive errors, same, straight]

theorem regulate_abreast (drive : Drive α) (start : UInt32) (states : Both (RegulatorState α))
    (abreast : drive.Abreast entry) (alike : states.left = states.right) :
    (drive.regulate motion start states).1.left = (drive.regulate motion start states).1.right ∧
      (drive.regulate motion start states).2.left =
        (drive.regulate motion start states).2.right := by
  have progress := progress_abreast entry drive motion.heading straight abreast
  have errors : (errors motion (drive.progress motion.heading)).left =
      (errors motion (drive.progress motion.heading)).right := by
    simp only [Drive.errors, Both.map, progress]
  refine ⟨?_, ?_⟩
  · apply percents_abreast irreflexive motion straight _ _ _ _ _ progress
    simp only [errors, alike]
  · simp only [regulate, errors, alike]

theorem follow_abreast (start : UInt32) (states : Both (RegulatorState α))
    (alike : states.left = states.right) :
    Action.Holds (Abreast entry) (follow motion start states) fun next drive =>
      drive.Abreast entry ∧ next.left = next.right := by
  refine Action.holds_get_bind _ _ fun drive abreast value last followed => ?_
  obtain ⟨asked, next⟩ := regulate_abreast entry irreflexive motion straight drive start states
    abreast alike
  have running := Action.holds_bind _ (fun next drive => Abreast entry drive ∧ next.left = next.right)
    _ _ (run_abreast entry (drive.regulate motion start states).1 asked) fun _ =>
      Action.holds_pure (drive.regulate motion start states).2 _ fun _ abreast => ⟨abreast, next⟩
  have noted : (drive.noteStep.noteRound (drive.world.elapsed start)
      (drive.regulate motion start states).1).Abreast entry :=
    say_abreast entry _ _ _ _ (say_abreast entry _ _ _ _ (say_abreast entry drive _ _ _ abreast))
  exact running _ value last noted followed

theorem steer_abreast (start : UInt32) : Action.HoldsRound (Abreast entry)
    (fun states => states.left = states.right) (steer motion start) := by
  intro states alike
  refine Action.holds_get_bind _ _ fun drive abreast value last steered => ?_
  by_cases there : hasArrived motion drive
  · rw [if_pos there] at steered
    cases steered
    exact ⟨say_abreast entry drive _ _ _ abreast, fun _ went => by cases went⟩
  · by_cases late : motion.timeout ≤ drive.world.elapsed start
    · rw [if_neg there, if_pos late] at steered
      cases steered
      exact ⟨say_abreast entry drive _ _ _ abreast, fun _ went => by cases went⟩
    · rw [if_neg there, if_neg late] at steered
      obtain ⟨kept, next, followed, returned⟩ := Action.ok_of_bind _ _ _ _ _ steered
      obtain ⟨abreast, alike⟩ := follow_abreast entry irreflexive motion straight start states alike
        _ _ _ abreast followed
      cases returned
      refine ⟨abreast, fun _ went => ?_⟩
      cases went
      exact alike

end Steering

end Drive

namespace Course

def heading : Course α → Heading
  | toward motion => motion.heading
  | lasting heading _ => heading

variable (entry : World α) (course : Course α) (drive : Drive α)
  (irreflexive : Scalar.Irreflexive α) (straight : course.heading.left = course.heading.right)
  (begun : (course.begun drive).Abreast entry)

include irreflexive straight begun

theorem loop_abreast (value : Option Outcome) (next : Drive α)
    (ended : course.loop drive = .ok value next) : next.Abreast entry := by
  cases course with
  | toward motion =>
      have held := Drive.steer_abreast entry irreflexive motion straight
        (drive.start motion.target).world.now
      exact Action.holds_rounds _ held _ rfl (drive.start motion.target) value next begun ended
  | lasting heading seconds =>
      have held := Drive.cruise_abreast entry irreflexive heading straight
        (Profile.timedPeriod seconds) (drive.start 0.0).world.now
      exact Action.holds_rounds _ held () trivial (drive.start 0.0) value next begun ended

theorem underway_abreast (rounds : Nat) : (course.underway rounds drive).Abreast entry ∨
    ∃ fault next, course.loop drive = .error fault next := by
  cases course with
  | toward motion =>
      have held := Drive.steer_abreast entry irreflexive motion straight
        (drive.start motion.target).world.now
      obtain abreast | ⟨fault, next, failed⟩ := Action.holds_reached _ held rounds
        (.const ((drive.start motion.target).freshState motion.target)) _ rfl begun
      · exact .inl abreast
      · exact .inr ⟨fault, next, Action.rounds_of_failed _ rounds _ _ next fault failed⟩
  | lasting heading seconds =>
      have held := Drive.cruise_abreast entry irreflexive heading straight
        (Profile.timedPeriod seconds) (drive.start 0.0).world.now
      obtain abreast | ⟨fault, next, failed⟩ := Action.holds_reached _ held rounds () _ trivial begun
      · exact .inl abreast
      · exact .inr ⟨fault, next, Action.rounds_of_failed _ rounds _ _ next fault failed⟩

end Course

namespace World

def SameGears (before after : World α) : Prop :=
  ∀ side, (after.wheels.get side).encoder.pulses = (before.wheels.get side).encoder.pulses

theorem evolves_gears (before after : World α) (evolves : Evolves before after) :
    SameGears before after := by
  induction evolves with
  | refl => exact fun _ => rfl
  | tail _ event ih =>
      refine fun side => Eq.trans ?_ (ih side)
      cases event with
      | touch _ touch => rw [(touch_still _ _ touch).2]
      | tick => cases side <;> exact Wheel.roll_many_pulses _ _ _
      | preset positions => cases side <;> rfl

end World

theorem Step.act_gears (step : Step α) (drive : Drive α) :
    World.SameGears drive.world (Action.final step.act drive).world := by
  have carried := (step.act_over drive).speed.world
  cases step with
  | setDuty channel duty =>
      have still := World.set_duty_still channel duty drive.world
      intro side
      simpa [act] using congrArg (fun wheels => (wheels.get side).encoder.pulses) still.1
  | fail channel | heal channel | block | unblock => exact fun _ => rfl
  | _ => exact World.evolves_gears _ _ carried

namespace Drive

theorem reachable_accounts (drive : Drive α) (reached : drive.Reachable) :
    ∃ mark, drive.world.toChassis.Accounts mark := by
  induction reached with
  | fresh => exact ⟨_, fresh_accounts _ _ _ _ _ _ _ _ _⟩
  | step drive step _ ih =>
      obtain ⟨mark, accounts⟩ := ih
      exact ⟨_, (step.act_accounted mark drive accounts).reached⟩

theorem reachable_geared (drive : Drive α) (reached : drive.Reachable) :
    drive.world.wheels.left.encoder.pulses = drive.world.wheels.right.encoder.pulses := by
  induction reached with
  | fresh => rfl
  | step drive step _ ih =>
      have kept := step.act_gears drive
      exact (kept .left).trans (ih.trans (kept .right).symm)

structure Even (drive : Drive α) : Prop where
  gains : drive.speed.config.gains.left = drive.speed.config.gains.right
  rate : drive.world.wheels.left.rate = drive.world.wheels.right.rate
  fraction : drive.world.wheels.left.fraction = drive.world.wheels.right.fraction
  bridges : drive.world.bridges.left = drive.world.bridges.right

end Drive

namespace Primitive

def Straight : Primitive α → Prop
  | moveAt _ _ _ | moveBy _ _ | moveFor _ _ => True
  | turnBy _ _ | quarterTurn _ | rotate => False

theorem straight_heading (primitive : Primitive α) (config : DriveConfig α)
    (straight : primitive.Straight) :
    (primitive.course config).heading.left = (primitive.course config).heading.right := by
  have along : ∀ direction (amount : α), ((Heading.straight direction).along amount).left =
      ((Heading.straight direction).along amount).right := by
    intro direction amount
    simp only [Heading.along]
    by_cases back : amount < 0.0
    · rw [if_pos back]
      rfl
    · rw [if_neg back]
      rfl
  cases primitive with
  | moveAt direction speed distance => exact along direction distance
  | moveBy direction distance => exact along direction distance
  | moveFor direction seconds => rfl
  | turnBy | quarterTurn | rotate => cases straight

variable (primitive : Primitive α) (drive : Drive α) (reached : drive.Reachable) (even : drive.Even)

include reached even

theorem begun_abreast : (primitive.begun drive).Abreast drive.world := by
  obtain ⟨mark, accounts⟩ := drive.reachable_accounts reached
  have geared := drive.reachable_geared reached
  rw [begun, Course.begun_start]
  refine ⟨⟨⟨[], rfl, ?_⟩, even.bridges, even.rate, even.fraction, ?_, rfl, geared,
    (accounts .left).seen, (accounts .right).seen⟩, rfl, even.gains, drive.reachable_wired reached⟩
  · intro chassis member
    cases member
  · exact (Int.sub_self _).trans (Int.sub_self _).symm

variable (irreflexive : Scalar.Irreflexive α) (straight : primitive.Straight)
  (unblocked : drive.isBlocked = false)

include irreflexive straight unblocked

theorem run_abreast (outcome : Outcome) (after : Drive α)
    (returned : primitive.run drive = .ok (some outcome) after) : after.Abreast drive.world := by
  rw [primitive.run_unblocked drive unblocked] at returned
  obtain ⟨ended, stopped, value, looped, halted, rfl⟩ := Drive.finish_ok _ _ _ _ _ returned
  have abreast := Course.loop_abreast drive.world _ _ irreflexive
    (primitive.straight_heading _ straight) (primitive.begun_abreast drive reached even) _ _ looped
  have stopped := Drive.stop_abreast drive.world ended value stopped abreast halted
  exact Drive.say_abreast _ _ _ _ _ (SpeedControl.delay_abreast _ _ stopped _)

theorem underway_abreast (rounds : Nat)
    (taken : ∀ write, primitive.Attempted drive write → write.accepted = true) :
    (primitive.underway rounds drive).Abreast drive.world := by
  rw [underway, if_neg (by simp [unblocked])]
  obtain abreast | ⟨fault, next, failed⟩ := Course.underway_abreast drive.world _ _ irreflexive
    (primitive.straight_heading _ straight) (primitive.begun_abreast drive reached even) rounds
  · exact abreast
  · have surfaced := (primitive.run_surfaces drive unblocked).fails.mp ⟨fault, by
      rw [primitive.run_unblocked drive unblocked, Drive.finish_apply, failed]
      exact ⟨_, rfl⟩⟩
    obtain ⟨write, tried, refused⟩ := surfaced
    rw [taken write tried] at refused
    cases refused

end Primitive

open Float.Model in
theorem Scalar.float_irreflexive : Irreflexive Float := by
  intro x below
  have below : x.toModel.unpack.compare x.toModel.unpack = some .lt := by
    have asked : (x.toModel.unpack.compare x.toModel.unpack == some .lt) = true :=
      of_decide_eq_true below
    exact eq_of_beq asked
  generalize x.toModel.unpack = unpacked at below
  cases unpacked with
  | infinity sign => cases sign <;> cases below
  | notANumber | zero sign => cases below
  | finite sign mantissa exponent nonzero =>
      cases sign with
      | positive =>
          change some ((compare exponent exponent).then (compare mantissa mantissa)) = some .lt at below
          simp at below
      | negative =>
          change some ((compare exponent exponent).then (compare mantissa mantissa)).swap =
            some .lt at below
          simp at below

namespace Drive

-- A robot whose sides are alike drives straight on the dot: in every millisecond of a straight motion
-- none of whose writes is refused, both wheels have made the same ticks since its start, carry the
-- same duties and show the same counters, and their regulators are in the same state. In the middle
-- of a window, some milliseconds after a number of rounds, the regulators are as the round left them.
theorem wheels_stay_abreast (drive : Drive Float) (reached : drive.Reachable) (even : drive.Even)
    (unblocked : drive.isBlocked = false) (primitive : Primitive Float)
    (straight : primitive.Straight)
    (taken : ∀ write, primitive.Attempted drive write → write.accepted = true) :
    (∀ rounds millis,
      ((primitive.underway rounds drive).delay millis).Abreast drive.world) ∧
    ∀ outcome after, primitive.run drive = .ok (some outcome) after → after.Abreast drive.world := by
  refine ⟨fun rounds millis => ?_, fun outcome after => ?_⟩
  · exact SpeedControl.delay_abreast _ _ (primitive.underway_abreast drive reached even
      Scalar.float_irreflexive straight unblocked rounds taken) millis
  · exact primitive.run_abreast drive reached even Scalar.float_irreflexive straight unblocked
      outcome after

def level : Drive Float :=
  fresh 4 (.proportional 7563 150) 0.5 0 (fun _ _ => false) (fun _ => false) none
    { SpeedConfig.standard with interval := 1000, gains := .const ⟨41.5, 0.0, 0.5⟩ } .standard

theorem level_stays_abreast : level.Reachable ∧ level.Even ∧ level.isBlocked = false ∧
    (∀ write, (Primitive.moveBy .reverse (12.0 : Float)).Attempted level write →
      write.accepted = true) ∧
    ∀ rounds millis, (((Primitive.moveBy .reverse 12.0).underway rounds level).delay
      millis).Abreast level.world := by
  have reached : level.Reachable := .fresh _ _ _ _ _ _ _ _ _
  have taken : ∀ write, (Primitive.moveBy .reverse (12.0 : Float)).Attempted level write →
      write.accepted = true := by
    intro write attempted
    obtain member | ⟨rounds, member⟩ := attempted
    · exact (World.evolves_accepted _ _ (Primitive.run_over _ level).speed.world
        (fun _ _ => rfl)).2 write member
    · exact (World.evolves_accepted _ _ (Primitive.underway_over rounds _ level).speed.world
        (fun _ _ => rfl)).2 write member
  exact ⟨reached, ⟨rfl, rfl, rfl, rfl⟩, rfl, taken,
    (wheels_stay_abreast level reached ⟨rfl, rfl, rfl, rfl⟩ rfl (.moveBy .reverse 12.0) trivial
      taken).1⟩

end Drive

end Rover
