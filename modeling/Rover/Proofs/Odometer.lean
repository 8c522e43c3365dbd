import Rover.Proofs.Session

set_option autoImplicit false

namespace Rover

variable {α : Type}

structure Mark where
  positions : Both Int32
  ticks : Both Int
deriving DecidableEq, Repr

def Mark.blank : Mark := ⟨.const 0, .const 0⟩

structure Wheel.Accounts (position : Int32) (since : Int) (wheel : Wheel α) : Prop where
  counted : wheel.encoder.position = position + Int32.ofInt (wheel.ticks - since)
  seen : wheel.encoder.phase = wheel.phase

namespace Wheel

-- A mirrored wheel turns its pins the other way and its encoder counts the other way, and the two
-- cancel.
theorem roll_position (wheel : Wheel α) (direction : Direction)
    (seen : wheel.encoder.phase = wheel.phase) : (wheel.roll direction).encoder.position =
      wheel.encoder.position + Int32.ofInt direction.sign := by
  simp only [roll, Encoder.edge]
  rw [seen]
  by_cases mirrored : wheel.encoder.inverted
  · cases direction with
    | forward => simp [pinDirection, mirrored, Direction.flip, transition_prev, Direction.sign]
    | reverse => simp [pinDirection, mirrored, Direction.flip, transition_next, Direction.sign]
  · cases direction with
    | forward => simp [pinDirection, mirrored, transition_next, Direction.sign]
    | reverse => simp [pinDirection, mirrored, transition_prev, Direction.sign]

theorem roll_accounts (wheel : Wheel α) (direction : Direction) (position : Int32) (since : Int)
    (accounts : wheel.Accounts position since) :
    (wheel.roll direction).Accounts position since := by
  refine ⟨?_, rfl⟩
  have travelled : (wheel.roll direction).ticks - since =
      wheel.ticks - since + direction.sign := by
    simp only [roll]
    omega
  rw [roll_position wheel direction accounts.seen, accounts.counted, travelled, Int32.ofInt_add,
    Int32.add_assoc]

theorem roll_many_accounts (direction : Direction) (count : Nat) (wheel : Wheel α)
    (position : Int32) (since : Int) (accounts : wheel.Accounts position since) :
    (wheel.rollMany direction count).Accounts position since := by
  induction count generalizing wheel with
  | zero => exact accounts
  | succ count ih => exact ih _ (roll_accounts wheel direction position since accounts)

theorem advance_accounts [Scalar α] (plant : Plant) (response : α) (duty : Int) (wheel : Wheel α)
    (position : Int32) (since : Int) (accounts : wheel.Accounts position since) :
    (wheel.advance plant response duty).Accounts position since := by
  apply roll_many_accounts
  exact ⟨accounts.counted, accounts.seen⟩

end Wheel

def Chassis.Accounts (mark : Mark) (chassis : Chassis α) : Prop :=
  ∀ side, (chassis.wheels.get side).Accounts (mark.positions.get side) (mark.ticks.get side)

theorem Chassis.tick_accounts [Scalar α] (mark : Mark) (chassis : Chassis α)
    (accounts : chassis.Accounts mark) : chassis.tick.Accounts mark := by
  intro side
  cases side with
  | left => exact Wheel.advance_accounts _ _ _ _ _ _ (accounts .left)
  | right => exact Wheel.advance_accounts _ _ _ _ _ _ (accounts .right)

namespace World

structure Accounted (mark : Mark) (before after : World α) : Prop where
  recorded : ∃ fresh, after.recording = fresh ++ before.recording ∧
    ∀ chassis ∈ fresh, chassis.Accounts mark
  reached : after.toChassis.Accounts mark

theorem accounted_silent (mark : Mark) (before after : World α)
    (accounts : after.toChassis.Accounts mark) (recording : after.recording = before.recording) :
    Accounted mark before after := by
  refine ⟨⟨[], recording, ?_⟩, accounts⟩
  intro chassis member
  cases member

theorem accounted_still (mark : Mark) (before after : World α)
    (accounts : before.toChassis.Accounts mark) (wheels : after.wheels = before.wheels)
    (recording : after.recording = before.recording) : Accounted mark before after := by
  apply accounted_silent mark before after _ recording
  simpa only [Chassis.Accounts, wheels] using accounts

theorem accounted_trans (mark : Mark) (first second third : World α)
    (one : Accounted mark first second) (two : Accounted mark second third) :
    Accounted mark first third := by
  obtain ⟨early, grown, all⟩ := one.recorded
  obtain ⟨late, grownToo, allToo⟩ := two.recorded
  refine ⟨⟨late ++ early, by rw [grownToo, grown, List.append_assoc], ?_⟩, two.reached⟩
  intro chassis member
  rcases List.mem_append.mp member with new | old
  · exact allToo chassis new
  · exact all chassis old

theorem preset_accounts (mark : Mark) (world : World α) (positions : Both Int32)
    (accounts : world.toChassis.Accounts mark) :
    (world.preset positions).toChassis.Accounts ⟨positions, world.ticks⟩ := by
  intro side
  have seen := (accounts side).seen
  cases side <;>
    exact ⟨by simp [preset, Both.zipWith, Both.get, ticks, Both.map, Encoder.preset], seen⟩

theorem set_duty_still (channel : Channel) (duty : Nat) (world : World α) :
    (Action.final (setDuty channel duty) world).wheels = world.wheels ∧
      (Action.final (setDuty channel duty) world).recording = world.recording := by
  simp only [Action.final, setDuty]
  by_cases refused : world.failing world.moment channel
  · rw [if_pos refused]
    exact ⟨rfl, rfl⟩
  · rw [if_neg refused]
    exact ⟨rfl, rfl⟩

variable [Scalar α]

theorem accounted_tick (mark : Mark) (world : World α)
    (accounts : world.toChassis.Accounts mark) : Accounted mark world world.tick := by
  have ticked := Chassis.tick_accounts mark world.toChassis accounts
  refine ⟨⟨[world.toChassis.tick], rfl, ?_⟩, ticked⟩
  intro chassis member
  rw [List.mem_singleton.mp member]
  exact ticked

theorem accounted_rolls (mark : Mark) (before after : World α)
    (accounts : before.toChassis.Accounts mark) (rolls : Rolls before after) :
    Accounted mark before after := by
  induction rolls with
  | refl => exact accounted_still mark before before accounts rfl rfl
  | tail _ roll ih =>
      refine accounted_trans mark _ _ _ ih ?_
      cases roll with
      | touch _ touch =>
          cases touch with
          | write channel duty safe =>
              rw [final_write]
              exact accounted_still mark _ _ ih.reached rfl rfl
          | say level source text => exact accounted_still mark _ _ ih.reached rfl rfl
      | tick => exact accounted_tick mark _ ih.reached

end World

variable [Scalar α]

-- The mark after a step. A motion clears the counters when it starts, and a blocked one does not
-- start.
def Step.mark (mark : Mark) (drive : Drive α) : Step α → Mark
  | resetEncoders => ⟨.const 0, drive.world.ticks⟩
  | preset positions => ⟨positions, drive.world.ticks⟩
  | perform _ => if drive.isBlocked then mark else ⟨.const 0, drive.world.ticks⟩
  | _ => mark

def Drive.lastMark : List (Step α) → Mark → Drive α → Mark
  | [], mark, _ => mark
  | step :: rest, mark, drive =>
      lastMark rest (step.mark mark drive) (Action.final step.act drive)

namespace Primitive

theorem begun_accounted (primitive : Primitive α) (mark : Mark) (drive : Drive α)
    (accounts : drive.world.toChassis.Accounts mark) :
    World.Accounted ⟨.const 0, drive.world.ticks⟩ drive.world (primitive.begun drive).world := by
  have cleared : (primitive.begun drive).world =
      (drive.say .info primitive.name).world.preset (.const 0) := by
    simp only [begun]
    cases primitive.course drive.config <;> rfl
  rw [cleared]
  apply World.accounted_silent
  · exact World.preset_accounts mark (drive.say .info primitive.name).world (.const 0) accounts
  · rfl

theorem run_accounted (primitive : Primitive α) (mark : Mark) (drive : Drive α)
    (accounts : drive.world.toChassis.Accounts mark) :
    World.Accounted ((Step.perform primitive).mark mark drive) drive.world
      (Action.final primitive.run drive).world := by
  cases blocked : drive.isBlocked with
  | true =>
      rw [Action.final, run_blocked primitive drive blocked, Step.mark, if_pos blocked]
      exact World.accounted_still mark _ _ accounts rfl rfl
  | false =>
      rw [Step.mark, if_neg (by simp [blocked])]
      have cleared := primitive.begun_accounted mark drive accounts
      have rolled := primitive.run_rolls drive blocked
      exact World.accounted_trans _ _ _ _ cleared
        (World.accounted_rolls _ _ _ cleared.reached rolled.speed.world)

theorem underway_accounted (primitive : Primitive α) (rounds : Nat) (mark : Mark) (drive : Drive α)
    (accounts : drive.world.toChassis.Accounts mark) :
    World.Accounted ((Step.perform primitive).mark mark drive) drive.world
      (primitive.underway rounds drive).world := by
  cases blocked : drive.isBlocked with
  | true =>
      rw [underway, if_pos blocked, Step.mark, if_pos blocked]
      exact World.accounted_still mark _ _ accounts rfl rfl
  | false =>
      rw [Step.mark, if_neg (by simp [blocked])]
      have cleared := primitive.begun_accounted mark drive accounts
      have rolled := primitive.underway_rolls rounds drive blocked
      exact World.accounted_trans _ _ _ _ cleared
        (World.accounted_rolls _ _ _ cleared.reached rolled.speed.world)

end Primitive

theorem Step.act_accounted (step : Step α) (mark : Mark) (drive : Drive α)
    (accounts : drive.world.toChassis.Accounts mark) :
    World.Accounted (step.mark mark drive) drive.world (Action.final step.act drive).world := by
  have still : ∀ world : World α, world.wheels = drive.world.wheels →
      world.recording = drive.world.recording → World.Accounted mark drive.world world :=
    fun world => World.accounted_still mark drive.world world accounts
  have rolled : ∀ after : Drive α, Drive.Over World.Rolls drive after →
      World.Accounted mark drive.world after.world := fun after rolled =>
    World.accounted_rolls mark drive.world after.world accounts rolled.speed.world
  have commanded : ∀ command : Action (SpeedControl α) Unit,
      Action.Keeps (SpeedControl.Over World.Touched) command →
      World.Accounted mark drive.world
        (Action.final (Drive.onSpeed command >>= fun _ => pure Answer.done :
          Action (Drive α) (Answer α)) drive).world := by
    intro command kept
    have touched := Drive.on_speed_over _ _ kept drive
    simpa using rolled _ (drive_over_mono _ _ World.rolls_of_touched touched)
  cases step with
  | run percents =>
      simpa [act, Step.mark] using rolled _ (Drive.run_rolls percents drive)
  | drive duties => exact commanded _ (SpeedControl.drive_over duties)
  | driveWheel side duty => exact commanded _ (SpeedControl.drive_wheel_over side duty)
  | stop => exact commanded _ SpeedControl.stop_over
  | stopWheel side => exact commanded _ (SpeedControl.stop_wheel_over side)
  | speeds millis | speedOf _ millis => exact rolled _ (Drive.delay_rolls drive (max millis 1))
  | delay millis => exact rolled _ (Drive.delay_rolls drive millis)
  | resetEncoders =>
      exact World.accounted_silent _ _ _ (World.preset_accounts mark _ (.const 0) accounts) rfl
  | preset positions =>
      exact World.accounted_silent _ _ _ (World.preset_accounts mark _ positions accounts) rfl
  | perform primitive =>
      simpa [act, Step.mark] using primitive.run_accounted mark drive accounts
  | setDuty channel duty =>
      have kept := World.set_duty_still channel duty drive.world
      exact still _ (by simpa [act] using kept.1) (by simpa [act] using kept.2)
  | resetRegulators | elapsed _ | fail _ | heal _ | block | unblock => exact still _ rfl rfl

namespace Drive

theorem after_accounts (steps : List (Step α)) (mark : Mark) (drive : Drive α)
    (accounts : drive.world.toChassis.Accounts mark) :
    (drive.after steps).world.toChassis.Accounts (lastMark steps mark drive) := by
  induction steps generalizing mark drive with
  | nil => exact accounts
  | cons step rest ih => exact ih _ _ (step.act_accounted mark drive accounts).reached

theorem fresh_accounts (pulses : Nat) (plant : Plant) (response : α) (start : UInt32)
    (failing : Nat → Channel → Bool) (blocked : Nat → Bool) (threshold : Option Level)
    (speed : SpeedConfig α) (config : DriveConfig α) :
    (fresh pulses plant response start failing blocked threshold speed
      config).world.toChassis.Accounts Mark.blank := by
  intro side
  cases side <;> exact ⟨rfl, rfl⟩

-- At the end of every session, in every millisecond of whatever comes next, and after every round
-- of a motion, no tick is lost and none is counted twice.
theorem counters_account_for_travel (pulses : Nat) (plant : Plant) (response : α) (start : UInt32)
    (failing : Nat → Channel → Bool) (blocked : Nat → Bool) (threshold : Option Level)
    (speed : SpeedConfig α) (config : DriveConfig α) (steps : List (Step α)) :
    let begun := fresh pulses plant response start failing blocked threshold speed config
    let mark := lastMark steps .blank begun
    (begun.after steps).world.toChassis.Accounts mark ∧
    (∀ step : Step α, World.Accounted (step.mark mark (begun.after steps))
      (begun.after steps).world (Action.final step.act (begun.after steps)).world) ∧
    ∀ (primitive : Primitive α) (rounds : Nat),
      World.Accounted ((Step.perform primitive).mark mark (begun.after steps))
        (begun.after steps).world (primitive.underway rounds (begun.after steps)).world := by
  intro begun mark
  have accounts := after_accounts steps .blank begun
    (fresh_accounts pulses plant response start failing blocked threshold speed config)
  refine ⟨accounts, ?_, ?_⟩
  · intro step
    exact step.act_accounted mark _ accounts
  · intro primitive rounds
    exact primitive.underway_accounted rounds mark _ accounts

end Drive

end Rover
