import Rover.Proofs.Deadline
import Rover.Proofs.Opposed
import Rover.Proofs.Tandem

set_option autoImplicit false

namespace Rover

variable {α : Type} [Scalar α]

-- Two robots going opposite ways since they entered. What they say to their logs is not compared.
structure Drive.Opposed (entry entryToo : World α) (drive other : Drive α) : Prop where
  speed : drive.speed.Opposed entry entryToo other.speed
  config : other.config = drive.config

def Motion.flip (motion : Motion α) : Motion α := { motion with heading := motion.heading.flip }

def Course.flip : Course α → Course α
  | toward motion => toward motion.flip
  | lasting heading seconds => lasting heading.flip seconds

theorem Heading.along_flip (heading : Heading) (amount : α) :
    heading.flip.along amount = (heading.along amount).flip := by
  simp only [along]
  by_cases back : amount < 0.0
  · rw [if_pos back, if_pos back]
  · rw [if_neg back, if_neg back]

namespace Drive

variable (entry entryToo : World α) (drive other : Drive α)

theorem say_opposed (source : Source) (level levelToo : Level) (text textToo : String)
    (opposed : drive.Opposed entry entryToo other) :
    (drive.sayAs source level text).Opposed entry entryToo
      (other.sayAs source levelToo textToo) :=
  ⟨⟨⟨opposed.speed.world.recorded, opposed.speed.world.reached⟩, opposed.speed.config,
    opposed.speed.states, opposed.speed.wired, opposed.speed.wiredToo⟩, opposed.config⟩

theorem note_round_opposed (elapsed : UInt32) (percents percentsToo : Both Int)
    (opposed : drive.Opposed entry entryToo other) :
    (drive.noteRound elapsed percents).Opposed entry entryToo
      (other.noteRound elapsed percentsToo) :=
  say_opposed entry entryToo drive other _ _ _ _ _ opposed

theorem note_step_opposed (opposed : drive.Opposed entry entryToo other) :
    drive.noteStep.Opposed entry entryToo other.noteStep :=
  say_opposed entry entryToo _ _ _ _ _ _ _ (say_opposed entry entryToo drive other _ _ _ _ _ opposed)

theorem elapsed_same (start : UInt32) (opposed : drive.Opposed entry entryToo other) :
    other.world.elapsed start = drive.world.elapsed start :=
  congrArg (· - start) opposed.speed.world.reached.now

theorem hold_apply (heading : Heading) (start : UInt32) (given : Unit) (drive : Drive α) :
    hold heading start given drive =
      let elapsed := drive.world.elapsed start
      let percents := timedPercents drive.config heading elapsed (drive.progress heading)
      onSpeed (SpeedControl.run percents) (drive.noteRound elapsed percents) := by
  rfl

theorem stop_opposed (next nextToo : Drive α) (value valueToo : Unit)
    (opposed : drive.Opposed entry entryToo other) (stopped : stop drive = .ok value next)
    (stoppedToo : stop other = .ok valueToo nextToo) : next.Opposed entry entryToo nextToo := by
  obtain ⟨speed, halted, rfl⟩ := on_speed_ok _ _ _ _ stopped
  obtain ⟨speedToo, haltedToo, rfl⟩ := on_speed_ok _ _ _ _ stoppedToo
  exact ⟨SpeedControl.stop_opposed entry entryToo _ _ _ _ _ _ opposed.speed halted haltedToo,
    opposed.config⟩

variable (odd : Scalar.Odd α)

include odd

theorem run_opposed (next nextToo : Drive α) (percents percentsToo : Both Int)
    (asked : Contrary percents percentsToo) (value valueToo : Unit)
    (opposed : drive.Opposed entry entryToo other) (before : World.Short entry drive.world)
    (after : World.Short entry next.world)
    (ran : onSpeed (SpeedControl.run percents) drive = .ok value next)
    (ranToo : onSpeed (SpeedControl.run percentsToo) other = .ok valueToo nextToo) :
    next.Opposed entry entryToo nextToo := by
  obtain ⟨speed, run, rfl⟩ := on_speed_ok _ _ _ _ ran
  obtain ⟨speedToo, runToo, rfl⟩ := on_speed_ok _ _ _ _ ranToo
  exact ⟨SpeedControl.run_opposed entry entryToo _ _ _ _ odd opposed.speed percents percentsToo asked
    value valueToo before after run runToo, opposed.config⟩

theorem progress_aligned (heading : Heading) (opposed : drive.Opposed entry entryToo other)
    (short : World.Short entry drive.world) (side : Side) :
    Scalar.Aligned .forward ((drive.progress heading).get side)
      ((other.progress heading.flip).get side) := by
  have angle := World.angles_opposed entry entryToo _ _ odd opposed.speed.world short side
  have sign : Scalar.Aligned .reverse (Scalar.ofInt (heading.get side).sign : α)
      (Scalar.ofInt (heading.get side).flip.sign) := by
    rw [Direction.sign_flip]
    exact odd.of_int_neg _
  have progress := odd.mul .reverse .reverse _ _ _ _ angle sign
  cases side with
  | left => exact progress
  | right => exact progress

section Cruising

variable (heading : Heading)

theorem timed_percents_contrary (config : DriveConfig α) (elapsed : UInt32)
    (progress progressToo : Both α)
    (went : ∀ side, Scalar.Aligned .forward (progress.get side) (progressToo.get side)) :
    Contrary (timedPercents config heading elapsed progress)
      (timedPercents config heading.flip elapsed progressToo) := by
  have push := Profile.progress_correction_same odd progress progressToo config.straightGain
    (went .left) (went .right)
  have turned : ∀ (command : Int) (direction : Direction),
      clampTo 100 (saturate (command * direction.flip.sign)) =
        -clampTo 100 (saturate (command * direction.sign)) := by
    intro command direction
    rw [Direction.sign_flip, Int.mul_neg]
    exact clamp_to_saturated 100 _ (by decide) (by decide)
  intro side
  simp only [timedPercents, push]
  cases side with
  | left => exact turned _ _
  | right => exact turned _ _

theorem hold_tandem (start : UInt32) : Action.TandemWork (Drive.Opposed entry entryToo)
    (fun _ _ => True) (fun drive => World.Short entry drive.world) (hold heading start)
    (hold heading.flip start) := by
  intro _ _ drive other value valueToo next nextToo _ opposed before after held heldToo
  have asked := timed_percents_contrary odd heading drive.config (drive.world.elapsed start) _ _
    (progress_aligned entry entryToo drive other odd heading opposed before)
  rw [hold_apply] at held heldToo
  rw [elapsed_same entry entryToo drive other start opposed, opposed.config] at heldToo
  dsimp only at held heldToo
  generalize timedPercents drive.config heading _ _ = percents at asked held
  generalize timedPercents drive.config heading.flip _ _ = percentsToo at asked heldToo
  have noted := note_round_opposed entry entryToo drive other (drive.world.elapsed start) percents
    percentsToo opposed
  exact ⟨trivial, run_opposed entry entryToo _ _ odd next nextToo percents percentsToo asked value
    valueToo noted before after held heldToo⟩

theorem cruise_tandem (period start : UInt32) : Action.Tandem (Drive.Opposed entry entryToo)
    (fun _ _ => True) (fun drive => World.Short entry drive.world) (cruise heading period start)
    (cruise heading.flip period start) := by
  refine Action.tandem_guarded (cruise_guarded heading period start)
    (cruise_guarded heading.flip period start) ?_ ?_ (hold_tandem entry entryToo odd heading start)
  · intro drive other opposed _
    rw [elapsed_same entry entryToo drive other start opposed]
    exact ⟨Iff.rfl, rfl⟩
  · rintro drive other _ _ opposed ⟨level, text, rfl⟩ ⟨levelToo, textToo, rfl⟩
    exact say_opposed entry entryToo drive other _ _ _ _ _ opposed

end Cruising

section Steering

variable (motion : Motion α)

theorem errors_aligned (progress progressToo : Both α)
    (went : ∀ side, Scalar.Aligned .forward (progress.get side) (progressToo.get side))
    (side : Side) : Scalar.Aligned .forward ((errors motion progress).get side)
      ((errors motion.flip progressToo).get side) := by
  have left := odd.sub .forward _ _ _ _ (odd.refl motion.target) (went side)
  cases side <;> exact left

theorem percents_contrary (k : α) (elapsed : UInt32) (commands commandsToo : Both Int)
    (progress progressToo : Both α) (same : commandsToo = commands)
    (went : ∀ side, Scalar.Aligned .forward (progress.get side) (progressToo.get side)) :
    Contrary (percents motion k elapsed commands progress)
      (percents motion.flip k elapsed commandsToo progressToo) := by
  have missing := errors_aligned odd motion progress progressToo went
  have push := Profile.straight_correction_same odd _ _ progress progressToo k (went .left)
    (went .right) (missing .left) (missing .right)
  intro side
  simp only [percents, push, same]
  cases side with
  | left => exact Profile.scaled_contrary odd _ _ _
  | right => exact Profile.scaled_contrary odd _ _ _

theorem regulate_opposed (start : UInt32) (states statesToo : Both (RegulatorState α))
    (alike : ∀ side, (states.get side).Aligned .forward (statesToo.get side))
    (opposed : drive.Opposed entry entryToo other) (short : World.Short entry drive.world) :
    Contrary (drive.regulate motion start states).1
        (other.regulate motion.flip start statesToo).1 ∧
      ∀ side, ((drive.regulate motion start states).2.get side).Aligned .forward
        ((other.regulate motion.flip start statesToo).2.get side) := by
  have went := progress_aligned entry entryToo drive other odd motion.heading opposed short
  have stepped := fun side => Regulator.step_aligned odd drive.regulator .forward _ _ _ _
    (errors_aligned odd motion _ _ went side) (alike side) drive.world.now
  simp only [Direction.sign, Int.one_mul] at stepped
  have regulator : other.regulator = drive.regulator := by
    simp only [Drive.regulator, opposed.config]
  have now : other.world.now = drive.world.now := opposed.speed.world.reached.now
  simp only [regulate, regulator, now, opposed.config,
    elapsed_same entry entryToo drive other start opposed]
  refine ⟨?_, fun side => ?_⟩
  · exact percents_contrary odd motion _ _ _ _ _ _
      (congrArg₂ Both.mk (stepped .left).1 (stepped .right).1) went
  · cases side with
    | left => exact (stepped .left).2
    | right => exact (stepped .right).2

theorem has_arrived_same (opposed : drive.Opposed entry entryToo other)
    (short : World.Short entry drive.world) :
    hasArrived motion.flip other = hasArrived motion drive := by
  have missing := errors_aligned odd motion _ _
    (progress_aligned entry entryToo drive other odd motion.heading opposed short)
  have left := odd.abs .forward _ _ (missing .left)
  have right := odd.abs .forward _ _ (missing .right)
  change arrived motion (errors motion.flip (other.progress motion.heading.flip)) = _
  simp only [Both.get] at left right
  simp only [hasArrived, arrived]
  rw [left, right]

omit odd in
theorem follow_apply (start : UInt32) (states : Both (RegulatorState α)) :
    follow motion start states drive =
      let asked := drive.regulate motion start states
      (onSpeed (SpeedControl.run asked.1) >>= fun _ => pure asked.2)
        (drive.noteStep.noteRound (drive.world.elapsed start) asked.1) := by
  rfl

theorem follow_tandem (start : UInt32) : Action.TandemWork (Drive.Opposed entry entryToo)
    (fun states statesToo => ∀ side, (states.get side).Aligned .forward (statesToo.get side))
    (fun drive => World.Short entry drive.world) (follow motion start)
    (follow motion.flip start) := by
  intro states statesToo drive other kept keptToo next nextToo alike opposed before after followed
    followedToo
  have regulated := regulate_opposed entry entryToo drive other odd motion start _ _ alike opposed
    before
  rw [follow_apply] at followed followedToo
  rw [elapsed_same entry entryToo drive other start opposed] at followedToo
  generalize drive.regulate motion start states = plan at regulated followed
  generalize other.regulate motion.flip start statesToo = planToo at regulated followedToo
  obtain ⟨value, ended, ran, returned⟩ := Action.ok_of_bind _ _ _ _ _ followed
  obtain ⟨valueToo, endedToo, ranToo, returnedToo⟩ := Action.ok_of_bind _ _ _ _ _ followedToo
  cases returned
  cases returnedToo
  have noted := note_round_opposed entry entryToo drive.noteStep other.noteStep
    (drive.world.elapsed start) plan.1 planToo.1 (note_step_opposed entry entryToo drive other opposed)
  exact ⟨regulated.2, run_opposed entry entryToo _ _ odd next nextToo plan.1 planToo.1 regulated.1
    value valueToo noted before after ran ranToo⟩

theorem steer_tandem (start : UInt32) : Action.Tandem (Drive.Opposed entry entryToo)
    (fun states statesToo => ∀ side, (states.get side).Aligned .forward (statesToo.get side))
    (fun drive => World.Short entry drive.world) (steer motion start)
    (steer motion.flip start) := by
  refine Action.tandem_guarded (steer_guarded motion start) (steer_guarded motion.flip start) ?_ ?_
    (follow_tandem entry entryToo odd motion start)
  · intro drive other opposed short
    rw [verdict, verdict, has_arrived_same entry entryToo drive other odd motion opposed short,
      elapsed_same entry entryToo drive other start opposed]
    exact ⟨Iff.rfl, rfl⟩
  · rintro drive other _ _ opposed ⟨level, text, rfl⟩ ⟨levelToo, textToo, rfl⟩
    exact say_opposed entry entryToo drive other _ _ _ _ _ opposed

end Steering

theorem fresh_state_aligned (target : α) (opposed : drive.Opposed entry entryToo other) :
    (drive.freshState target).Aligned .forward (other.freshState target) := by
  have now : other.world.now = drive.world.now := opposed.speed.world.reached.now
  simp only [freshState, Drive.regulator, now, opposed.config]
  exact ⟨odd.zero .forward, odd.refl target, rfl⟩

theorem finish_opposed (settle : Nat) (motion motionToo : Action (Drive α) (Option Outcome))
    (matched : Action.Matching (Drive.Opposed entry entryToo) Eq (motion drive) (motionToo other))
    (sound : ∀ fault after, finish settle motion drive ≠ .error fault after)
    (soundToo : ∀ fault after, finish settle motionToo other ≠ .error fault after) :
    ∃ outcome after afterToo, finish settle motion drive = .ok outcome after ∧
      finish settle motionToo other = .ok outcome afterToo ∧
      after.Opposed entry entryToo afterToo := by
  rw [finish_apply] at sound soundToo
  rw [finish_apply, finish_apply]
  generalize motion drive = result at matched sound
  generalize motionToo other = resultToo at matched soundToo
  cases matched with
  | error fault ended endedToo related => exact absurd rfl (sound fault _)
  | ok value _ ended endedToo same related =>
      subst same
      cases value with
      | none => exact ⟨none, ended, endedToo, rfl, rfl, related⟩
      | some outcome =>
          dsimp only at sound soundToo ⊢
          cases halted : stop ended with
          | error fault stopped =>
              rw [halted] at sound
              exact absurd rfl (sound fault stopped)
          | ok _ stopped =>
              cases haltedToo : stop endedToo with
              | error fault stopped =>
                  rw [haltedToo] at soundToo
                  exact absurd rfl (soundToo fault stopped)
              | ok _ stoppedToo =>
                  have still := stop_opposed entry entryToo ended endedToo stopped stoppedToo _ _
                    related halted haltedToo
                  have settled : (stopped.delay settle).Opposed entry entryToo
                      (stoppedToo.delay settle) :=
                    ⟨SpeedControl.delay_opposed entry entryToo _ _ odd still.speed settle,
                      still.config⟩
                  exact ⟨some outcome, _, _, rfl, rfl,
                    say_opposed entry entryToo _ _ _ _ _ _ _ settled⟩

end Drive

namespace Course

variable (entry entryToo : World α) (course : Course α) (drive other : Drive α)
  (odd : Scalar.Odd α) (begun : (course.begun drive).Opposed entry entryToo (course.flip.begun other))
  (sound : ∀ fault after, course.loop drive ≠ .error fault after)
  (soundToo : ∀ fault after, course.flip.loop other ≠ .error fault after)
  (short : ∀ rounds, World.Short entry (course.underway rounds drive).world)

include odd begun sound soundToo short

theorem tandem : (∀ rounds, (course.underway rounds drive).Opposed entry entryToo
      (course.flip.underway rounds other)) ∧
    Action.Matching (Drive.Opposed entry entryToo) Eq (course.loop drive)
      (course.flip.loop other) := by
  cases course with
  | toward motion =>
      have now : (other.start motion.target).world.now = (drive.start motion.target).world.now :=
        begun.speed.world.reached.now
      have together := Drive.steer_tandem entry entryToo odd motion
        (drive.start motion.target).world.now
      nth_rewrite 2 [← now] at together
      have fresh := Drive.fresh_state_aligned entry entryToo _ _ odd motion.target begun
      have unfailing := Action.unfailing_of_rounds _ _ _ sound
      have unfailingToo := Action.unfailing_of_rounds _ _ _ soundToo
      have alike : ∀ side, ((Both.const ((drive.start motion.target).freshState motion.target)).get
          side).Aligned .forward ((Both.const ((other.start motion.target).freshState
            motion.target)).get side) := by
        intro side
        cases side <;> exact fresh
      exact ⟨fun limit => (Action.tandem_within _ _ together _ _ _ _ alike begun unfailing
          unfailingToo short limit).1,
        Action.tandem_rounds _ _ together _ _ _ _ alike begun unfailing unfailingToo short⟩
  | lasting heading seconds =>
      have now : (other.start 0.0).world.now = (drive.start 0.0).world.now :=
        begun.speed.world.reached.now
      have together := Drive.cruise_tandem entry entryToo odd heading (Profile.timedPeriod seconds)
        (drive.start 0.0).world.now
      nth_rewrite 2 [← now] at together
      have unfailing := Action.unfailing_of_rounds _ _ _ sound
      have unfailingToo := Action.unfailing_of_rounds _ _ _ soundToo
      exact ⟨fun limit => (Action.tandem_within _ _ together _ _ _ _ trivial begun unfailing
          unfailingToo short limit).1,
        Action.tandem_rounds _ _ together _ _ _ _ trivial begun unfailing unfailingToo short⟩

end Course

def Side.flip : Side → Side
  | left => right
  | right => left

namespace Primitive

def reversed : Primitive α → Primitive α
  | moveAt direction speed distance => moveAt direction.flip speed distance
  | moveBy direction distance => moveBy direction.flip distance
  | moveFor direction seconds => moveFor direction.flip seconds
  | turnBy side degrees => turnBy side.flip degrees
  | quarterTurn side => quarterTurn side.flip
  | rotate => turnBy .left 180.0

variable (primitive : Primitive α)

theorem reversed_settle : primitive.reversed.settle = primitive.settle := by
  cases primitive <;> rfl

theorem reversed_course (config : DriveConfig α) :
    primitive.reversed.course config = (primitive.course config).flip := by
  have straight : ∀ (direction : Direction) (amount : α),
      (Heading.straight direction.flip).along amount =
        ((Heading.straight direction).along amount).flip :=
    fun direction => Heading.along_flip (.straight direction)
  have spin : ∀ (side : Side) (amount : α),
      (Heading.spin side.flip).along amount = ((Heading.spin side).along amount).flip := by
    intro side amount
    rw [← Heading.along_flip]
    cases side <;> rfl
  cases primitive with
  | moveAt direction speed distance | moveBy direction distance =>
      simp only [reversed, course, straight]
      rfl
  | moveFor direction seconds => rfl
  | turnBy side degrees | quarterTurn side =>
      simp only [reversed, course, spin]
      rfl
  | rotate =>
      have turned := spin .right (180.0 : α)
      simp only [Side.flip] at turned
      simp only [reversed, course, turned]
      rfl

end Primitive

structure Drive.TurnedRound (drive other : Drive α) : Prop where
  speed : other.speed.config = drive.speed.config
  config : other.config = drive.config
  now : other.world.now = drive.world.now
  plant : other.world.plant = drive.world.plant
  response : other.world.response = drive.world.response
  bridges : ∀ side,
    other.world.bridges.get side = (drive.world.bridges.get side).swapped
  pulses : ∀ side, (other.world.wheels.get side).encoder.pulses =
    (drive.world.wheels.get side).encoder.pulses
  rate : ∀ side, Scalar.Aligned .reverse (drive.world.wheels.get side).rate
    (other.world.wheels.get side).rate
  fraction : ∀ side, Scalar.Aligned .reverse (drive.world.wheels.get side).fraction
    (other.world.wheels.get side).fraction

namespace Primitive

variable (primitive : Primitive α) (drive other : Drive α) (odd : Scalar.Odd α)
  (reached : drive.Reachable) (reachedToo : other.Reachable) (turned : drive.TurnedRound other)

include odd reached reachedToo turned

theorem begun_opposed :
    (primitive.begun drive).Opposed drive.world other.world (primitive.reversed.begun other) := by
  obtain ⟨mark, accounts⟩ := drive.reachable_accounts reached
  obtain ⟨markToo, accountsToo⟩ := other.reachable_accounts reachedToo
  have wheels := fun side => Wheel.cleared_opposed _ _ (turned.rate side) (turned.fraction side)
    (turned.pulses side) (accounts side).seen (accountsToo side).seen
  have states : ∀ side, ((SpeedControl.resetStates drive.speed.config drive.world.now).get
      side).Aligned .reverse ((SpeedControl.resetStates other.speed.config other.world.now).get
        side) := by
    intro side
    rw [turned.now, turned.speed]
    cases side <;> exact Regulator.reset_aligned odd _ _ _
  rw [begun, begun, Course.begun_start, Course.begun_start]
  refine ⟨⟨⟨⟨[], [], rfl, rfl, .nil⟩, turned.now, turned.plant, turned.response, turned.bridges,
    fun side => ?_⟩, turned.speed, states, drive.reachable_wired reached,
    other.reachable_wired reachedToo⟩, turned.config⟩
  cases side with
  | left => exact wheels .left
  | right => exact wheels .right

end Primitive

theorem Primitive.run_sound (primitive : Primitive α) (drive : Drive α)
    (taken : ∀ write ∈ (Action.final primitive.run drive).world.writesSince drive.world,
      write.accepted = true) (fault : PwmFault) (after : Drive α) :
    primitive.run drive ≠ .error fault after := by
  intro failed
  have clean := primitive.run_clean drive taken
  rw [failed] at clean
  cases clean

theorem Primitive.loop_sound (primitive : Primitive α) (drive : Drive α)
    (unblocked : drive.isBlocked = false)
    (sound : ∀ fault after, primitive.run drive ≠ .error fault after) (fault : PwmFault)
    (after : Drive α) :
    (primitive.course drive.config).loop (drive.say .info primitive.name) ≠ .error fault after := by
  intro failed
  apply sound fault
  rw [run_unblocked primitive drive unblocked, Drive.finish_apply, failed]

namespace Primitive

variable (primitive : Primitive α) (drive other : Drive α) (odd : Scalar.Odd α)
  (reached : drive.Reachable) (reachedToo : other.Reachable) (turned : drive.TurnedRound other)
  (unblocked : drive.isBlocked = false) (unblockedToo : other.isBlocked = false)
  (sound : ∀ fault after, primitive.run drive ≠ .error fault after)
  (soundToo : ∀ fault after, primitive.reversed.run other ≠ .error fault after)
  (short : ∀ rounds, World.Short drive.world (primitive.underway rounds drive).world)

include odd reached reachedToo turned unblocked unblockedToo sound soundToo short

theorem run_opposed :
    (∃ outcome after afterToo, primitive.run drive = .ok outcome after ∧
      primitive.reversed.run other = .ok outcome afterToo ∧
      after.Opposed drive.world other.world afterToo) ∧
    ∀ rounds, (primitive.underway rounds drive).Opposed drive.world other.world
      (primitive.reversed.underway rounds other) := by
  have course : primitive.reversed.course other.config = (primitive.course drive.config).flip := by
    rw [primitive.reversed_course, turned.config]
  have begun := primitive.begun_opposed drive other odd reached reachedToo turned
  have looped := primitive.loop_sound drive unblocked sound
  have loopedToo := primitive.reversed.loop_sound other unblockedToo soundToo
  rw [Primitive.begun, Primitive.begun, course] at begun
  rw [course] at loopedToo
  simp only [underway, unblocked, unblockedToo, course, Bool.false_eq_true, if_false] at short ⊢
  obtain ⟨together, ended⟩ := Course.tandem drive.world other.world _ _ _ odd begun looped loopedToo
    short
  refine ⟨?_, together⟩
  rw [run_unblocked _ _ unblocked] at sound ⊢
  rw [run_unblocked _ _ unblockedToo, course, reversed_settle] at soundToo ⊢
  exact Drive.finish_opposed drive.world other.world _ _ odd _ _ _ ended sound soundToo

end Primitive

namespace Drive

-- Told to go the other way, a robot that is turned round mirrors the first one: it answers the same
-- at the same time, and in every millisecond it has made the opposite ticks and carries the opposite
-- duties, also on the way of a motion that never ends. No wheel may come so far that 32 bits do not
-- count it both ways when the encoders are read.
theorem reversal_mirror_symmetric (drive other : Drive Float) (reached : drive.Reachable)
    (reachedToo : other.Reachable) (turned : drive.TurnedRound other)
    (unblocked : drive.isBlocked = false) (unblockedToo : other.isBlocked = false)
    (primitive : Primitive Float)
    (taken : ∀ write ∈ (Action.final primitive.run drive).world.writesSince drive.world,
      write.accepted = true)
    (takenToo : ∀ write ∈ (Action.final primitive.reversed.run other).world.writesSince other.world,
      write.accepted = true)
    (short : ∀ rounds, World.Short drive.world (primitive.underway rounds drive).world) :
    (∃ outcome after afterToo, primitive.run drive = .ok outcome after ∧
      primitive.reversed.run other = .ok outcome afterToo ∧
      after.Opposed drive.world other.world afterToo) ∧
    ∀ rounds, (primitive.underway rounds drive).Opposed drive.world other.world
      (primitive.reversed.underway rounds other) :=
  primitive.run_opposed drive other Scalar.float_odd reached reachedToo turned unblocked unblockedToo
    (primitive.run_sound drive taken) (primitive.reversed.run_sound other takenToo) short

def rolling (direction : Direction) : Drive Float :=
  (parked 4 1000).after [.drive (.const (direction.sign * 300)), .delay 1]

def dash : Primitive Float := .moveFor .forward 0.002

theorem rolling_reachable (direction : Direction) : (rolling direction).Reachable :=
  reachable_after _ _ (parked_reachable 4 1000)

theorem rolling_over (direction : Direction) :
    Over World.Evolves (parked 4 1000) (rolling direction) :=
  evolves_trans _ _ _ (Step.act_over (.drive (.const (direction.sign * 300))) _)
    (Step.act_over (.delay 1) _)

theorem rolling_turned : (rolling .forward).TurnedRound (rolling .reverse) := by
  have one := rolling_over .forward
  have two := rolling_over .reverse
  refine ⟨two.speed.config.trans one.speed.config.symm, two.config.trans one.config.symm,
    by decide +kernel, by decide +kernel, by decide +kernel, fun side => ?_, fun side => ?_,
    fun side => ?_, fun side => ?_⟩
  · cases side <;> decide +kernel
  · cases side <;> decide +kernel
  · cases side <;> exact .inl (by decide +kernel)
  · cases side <;> exact .inl (by decide +kernel)

theorem rolling_taken (direction : Direction) (primitive : Primitive Float) : ∀ write ∈
    (Action.final primitive.run (rolling direction)).world.writesSince (rolling direction).world,
      write.accepted = true :=
  (World.evolves_accepted _ _ (primitive.run_over (rolling direction)).speed.world
    (fun _ _ => rfl)).2

theorem dash_within : Action.returns ((dash.course (rolling .forward).config).loopWithin 3
    ((rolling .forward).say .info dash.name)) = true := by
  decide +kernel

theorem dash_short (rounds : Nat) :
    World.Short (rolling .forward).world (dash.underway rounds (rolling .forward)).world := by
  have counted : ∀ early : Fin 4, ((dash.underway early (rolling .forward)).world.ticks.left -
        (rolling .forward).world.ticks.left).natAbs < 2147483648 ∧
      ((dash.underway early (rolling .forward)).world.ticks.right -
        (rolling .forward).world.ticks.right).natAbs < 2147483648 := by
    decide +kernel
  have within : ∀ early ≤ 3, World.Short (rolling .forward).world
      (dash.underway early (rolling .forward)).world := by
    intro early below side
    have near := counted ⟨early, by omega⟩
    cases side with
    | left => exact near.1
    | right => exact near.2
  by_cases early : rounds ≤ 3
  · exact within rounds early
  · obtain ⟨more, rfl⟩ := Nat.exists_eq_add_of_le (Nat.le_of_not_le early)
    have settled : dash.underway (3 + more) (rolling .forward) =
        dash.underway 3 (rolling .forward) := by
      simp only [Primitive.underway, Course.underway_beyond 3 more _ _ dash_within]
    rw [settled]
    exact within 3 (Nat.le_refl 3)

theorem rolling_mirrored : (rolling .forward).TurnedRound (rolling .reverse) ∧
    (∀ rounds, World.Short (rolling .forward).world
      (dash.underway rounds (rolling .forward)).world) ∧
    (∃ outcome after afterToo, dash.run (rolling .forward) = .ok outcome after ∧
      dash.reversed.run (rolling .reverse) = .ok outcome afterToo ∧
      after.Opposed (rolling .forward).world (rolling .reverse).world afterToo) ∧
    ∀ rounds, (dash.underway rounds (rolling .forward)).Opposed (rolling .forward).world
      (rolling .reverse).world (dash.reversed.underway rounds (rolling .reverse)) :=
  ⟨rolling_turned, dash_short, reversal_mirror_symmetric _ _ (rolling_reachable .forward)
    (rolling_reachable .reverse) rolling_turned rfl rfl dash
    (rolling_taken .forward dash) (rolling_taken .reverse dash.reversed) dash_short⟩

end Drive

end Rover
