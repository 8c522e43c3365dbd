import Rover.Proofs.Reversal
import Rover.Proofs.Standstill

/-!
The sign of an amount turns the heading round, unless the amount has no sign: then the calls do go
opposite ways, and it is the control loop that makes nothing of it.
-/

set_option autoImplicit false

namespace Rover

open Scalar

structure Primitive.Agrees {α : Type} [Scalar α] (drive : Drive α) (first second : Primitive α) :
    Prop where
  run : first.run drive = second.run drive
  underway : ∀ rounds, first.underway rounds drive = second.underway rounds drive

theorem Primitive.agrees_of_course {α : Type} [Scalar α] (drive : Drive α)
    (first second : Primitive α) (name : first.name = second.name)
    (settle : first.settle = second.settle)
    (loop : (first.course drive.config).loop (drive.say .info first.name) =
      (second.course drive.config).loop (drive.say .info first.name))
    (underway : ∀ rounds,
      (first.course drive.config).underway rounds (drive.say .info first.name) =
        (second.course drive.config).underway rounds (drive.say .info first.name)) :
    Agrees drive first second := by
  refine ⟨?_, fun rounds => ?_⟩
  · rw [run_apply, run_apply, Drive.unless_blocked_apply, Drive.unless_blocked_apply,
      Drive.finish_apply, Drive.finish_apply, ← name, ← settle, loop]
  · rw [Primitive.underway, Primitive.underway, ← name, underway]

theorem Action.same_at_once {σ β γ : Type} (first second : Round σ β γ) (given : γ) (state : σ)
    (value : β) (next : σ) (ended : first given state = .ok (.inl value) next)
    (same : second given state = first given state) :
    rounds second given state = rounds first given state ∧
      ∀ limit, reached second limit given state = reached first limit given state := by
  refine ⟨?_, fun limit => ?_⟩
  · rw [rounds, rounds, repeated, repeated, same, ended]
  · cases limit with
    | zero => rfl
    | succ count => rw [reached, reached, same, ended]

namespace Profile

theorem no_command (x : Float) (blank : Blank (number x)) :
    saturate (Scalar.truncate x) = 0 := by
  change saturate (truncateFloat x) = 0
  rw [blank_truncate x blank]
  rfl

theorem blank_none : Blank (number (Scalar.ofInt 0 : Float)) :=
  blank_of_zero _ zero_of_int

theorem blank_timeout (speed : Int) (distance : Float) (blank : Blank (number distance)) :
    distanceTimeout speed distance = 0 := by
  have length := blank_abs distance blank
  change (if decide (speed = 0) || distance.abs == 0.0 then (0 : UInt32) else _) = 0
  split_ifs with timeless
  · rfl
  · have nan : number distance.abs = .notANumber := by
      rw [Bool.or_eq_true, not_or] at timeless
      generalize came : number distance.abs = size at *
      cases length with
      | zero sign => exact absurd (beq_of_zero _ ⟨sign, came⟩) timeless.2
      | notANumber => rfl
    have time := nan_add _ 3000.0 (nan_div _ (Scalar.ofInt speed.natAbs / 100.0)
      (nan_mul _ 200.0 nan))
    have whole := blank_truncate _ (by rw [time]; exact .notANumber)
    change min (toMillis (truncateFloat
      (200.0 * distance.abs / (Scalar.ofInt speed.natAbs / 100.0) + 3000.0))) _ = 0
    rw [whole]
    rfl

theorem softened_none (power : Float) : softened 0 power = 0 :=
  no_command _ (blank_mul _ _ blank_none)

theorem scaled_none (direction : Direction) (speed : Int) : scaled Float 0 direction speed = 0 :=
  no_command _ (blank_div _ _ (blank_mul _ _ (blank_mul _ _ blank_none)))

end Profile

theorem Regulator.step_not_number (regulator : Regulator Float) (state : RegulatorState Float)
    (now : UInt32) : (regulator.step notNumber state now).1 = 0 := by
  apply command_silent
  change (number (regulator.gains.kp * notNumber + _ + _)).isNaN = true
  rw [nan_add _ _ (nan_add _ _ (nan_mul _ _ number_not_number))]
  rfl

def Motion.headed {α : Type} (motion : Motion α) (heading : Heading) : Motion α :=
  { motion with heading }

namespace Drive

variable (motion : Motion Float) (heading : Heading)

section Blank

variable (blank : Blank (number motion.target))

include blank

theorem blank_error (angle : Float) (direction other : Direction) :
    Scalar.abs (motion.target - angle * Scalar.ofInt other.sign) =
      Scalar.abs (motion.target - angle * Scalar.ofInt direction.sign) := by
  by_cases same : other = direction
  · rw [same]
  · have turned : other.sign = -direction.sign := by
      cases other <;> cases direction <;> first | rfl | exact absurd rfl same
    have made : Aligned .reverse (angle * Scalar.ofInt direction.sign)
        (angle * Scalar.ofInt other.sign) := by
      rw [turned]
      exact float_odd.gain .reverse _ _ angle (float_odd.of_int_neg direction.sign)
    exact float_odd.abs .reverse _ _
      (float_odd.sub .reverse _ _ _ _ (blank_aligned _ blank) made)

theorem near_headed (drive : Drive Float) :
    drive.Near (motion.headed heading) ↔ drive.Near motion := by
  refine forall_congr' fun side => ?_
  have same := blank_error motion blank (drive.world.angles.get side) (motion.heading.get side)
    (heading.get side)
  simp only [Motion.headed, same]

theorem has_arrived_headed (drive : Drive Float) :
    hasArrived (motion.headed heading) drive = hasArrived motion drive := by
  rw [Bool.eq_iff_iff, has_arrived_iff, has_arrived_iff]
  exact near_headed motion heading blank drive

theorem steer_headed_due (start : UInt32) (states : Both (RegulatorState Float))
    (drive : Drive Float)
    (due : hasArrived motion drive = true ∨ motion.timeout ≤ drive.world.elapsed start) :
    steer (motion.headed heading) start states drive = steer motion start states drive := by
  have same := has_arrived_headed motion heading blank drive
  change (if hasArrived (motion.headed heading) drive then _ else
      if motion.timeout ≤ drive.world.elapsed start then _ else _ : Action (Drive Float) _) drive =
    (if hasArrived motion drive then _ else
      if motion.timeout ≤ drive.world.elapsed start then _ else _ : Action (Drive Float) _) drive
  rw [same]
  by_cases there : hasArrived motion drive
  · rw [if_pos there, if_pos there]
  · have late := due.resolve_left there
    rw [if_neg there, if_neg there, if_pos late, if_pos late]

end Blank

section NotANumber

variable (nan : number motion.target = .notANumber)

include nan

theorem nan_errors (progress : Both Float) : errors motion progress = .const notNumber := by
  simp only [errors, Both.map, nan_sub _ _ nan]
  rfl

-- Nothing is asked of the wheels, whichever way they are to turn.
theorem nan_percents (gain : Float) (elapsed : UInt32) (progress : Both Float) :
    percents motion gain elapsed ⟨0, 0⟩ progress = ⟨0, 0⟩ := by
  have push : Profile.straightCorrection (.const notNumber) progress gain = ⟨0, 0⟩ :=
    Profile.straight_correction_tie _ _ _ Scalar.float_irreflexive rfl
  have softened : Profile.softened (clampTo Profile.commandLimit 0)
      (Profile.softStart elapsed : Float) = 0 := Profile.softened_none _
  have none : saturate (0 + 0) = 0 := rfl
  simp only [percents, nan_errors motion nan, push, softened, none, Profile.scaled_none]

theorem nan_regulate (drive : Drive Float) (start : UInt32)
    (states : Both (RegulatorState Float)) : drive.regulate motion start states =
      (⟨0, 0⟩, ⟨(drive.regulator.step notNumber states.left drive.world.now).2,
        (drive.regulator.step notNumber states.right drive.world.now).2⟩) := by
  simp only [regulate, nan_errors motion nan, Both.const, Regulator.step_not_number,
    nan_percents motion nan]

theorem follow_headed (start : UInt32) (states : Both (RegulatorState Float)) :
    follow (motion.headed heading) start states = follow motion start states := by
  have nanToo : number (motion.headed heading).target = .notANumber := nan
  simp only [follow, nan_regulate _ nan, nan_regulate _ nanToo]

theorem steer_headed (start : UInt32) :
    steer (motion.headed heading) start = steer motion start := by
  have blank : Blank (number motion.target) := by
    rw [nan]
    exact .notANumber
  funext states drive
  by_cases due : hasArrived motion drive = true ∨ motion.timeout ≤ drive.world.elapsed start
  · exact steer_headed_due motion heading blank start states drive due
  · rw [not_or, Bool.not_eq_true, UInt32.not_le] at due
    have dueToo : Underway (motion.headed heading) start drive :=
      ⟨(has_arrived_headed motion heading blank drive).trans due.1, due.2⟩
    rw [steer_underway motion start states drive due,
      steer_underway (motion.headed heading) start states drive dueToo,
      follow_headed motion heading nan]

end NotANumber

end Drive

-- A target without a sign leaves it open which way to go, and nothing comes of either.
theorem Course.headed_alike (motion : Motion Float) (heading : Heading) (entered : Drive Float)
    (blank : Blank (number motion.target))
    (idle : number motion.target = .notANumber ∨
      (entered.start motion.target).Near motion ∨ motion.timeout = 0) :
    (toward (motion.headed heading)).loop entered = (toward motion).loop entered ∧
    ∀ rounds, (toward (motion.headed heading)).underway rounds entered =
      (toward motion).underway rounds entered := by
  rcases idle with nan | due
  · have same := Drive.steer_headed motion heading nan (entered.start motion.target).world.now
    refine ⟨?_, fun rounds => ?_⟩
    · change Action.rounds (Drive.steer (motion.headed heading) _) _ _ =
        Action.rounds (Drive.steer motion _) _ _
      rw [← same]
      rfl
    · change Action.reached (Drive.steer (motion.headed heading) _) _ _ _ =
        Action.reached (Drive.steer motion _) _ _ _
      rw [← same]
      rfl
  · have looked := Drive.due_at_once motion (entered.start motion.target) due
    obtain ⟨level, text, ended⟩ := Drive.steer_ends motion _
      (.const ((entered.start motion.target).freshState motion.target)) _ looked
    exact Action.same_at_once _ _ _ _ _ _ ended
      (Drive.steer_headed_due motion heading blank _ _ _ looked)

theorem Heading.along_neg (heading : Heading) (amount : Float) (signed : ¬Blank (number amount)) :
    heading.flip.along (-amount) = heading.along amount := by
  have below := neg_below_iff amount signed
  rw [along_flip, along, along]
  by_cases back : amount < 0.0
  · rw [if_neg (by rw [below]; exact not_not_intro back), if_pos back]
  · rw [if_pos (below.mpr back), if_neg back]
    rcases heading with ⟨_ | _, _ | _⟩ <;> rfl

namespace Primitive

variable (drive : Drive Float)

theorem agrees_of_same_course (first second : Primitive Float) (name : first.name = second.name)
    (settle : first.settle = second.settle)
    (same : second.course drive.config = first.course drive.config) :
    Agrees drive first second := by
  apply agrees_of_course drive first second name settle
  · rw [same]
  · intro rounds
    rw [same]

theorem agrees_of_headed (first second : Primitive Float) (motion : Motion Float)
    (heading : Heading) (name : first.name = second.name) (settle : first.settle = second.settle)
    (toward : first.course drive.config = .toward motion)
    (towardToo : second.course drive.config = .toward (motion.headed heading))
    (blank : Blank (number motion.target))
    (idle : number motion.target = .notANumber ∨
      ((drive.say .info first.name).start motion.target).Near motion ∨ motion.timeout = 0) :
    Agrees drive first second := by
  obtain ⟨loop, underway⟩ :=
    Course.headed_alike motion heading (drive.say .info first.name) blank idle
  apply agrees_of_course drive first second name settle
  · rw [toward, towardToo, loop]
  · intro rounds
    rw [toward, towardToo, underway]

variable (amount : Float)

@[simp] theorem size_neg : Scalar.abs (-amount) = Scalar.abs amount :=
  float_odd.abs .reverse amount (-amount)
    ((aligned_iff_turned .reverse amount (-amount)).mpr (turned_neg_number amount))

theorem move_agrees (direction : Direction) (speed : Int) :
    Agrees drive (moveAt direction speed amount) (moveAt direction.flip speed (-amount)) := by
  have straight : Heading.straight direction.flip = (Heading.straight direction).flip := rfl
  by_cases blank : Blank (number amount)
  · have none : Blank (number (Scalar.abs amount)) := blank_abs amount blank
    apply agrees_of_headed drive (moveAt direction speed amount)
      (moveAt direction.flip speed (-amount)) (Drive.distanceMotion drive.config
        ((Heading.straight direction).along amount) speed (Scalar.abs amount))
      ((Heading.straight direction.flip).along (-amount)) rfl rfl rfl
    · rw [course, size_neg]
      rfl
    · exact blank_mul _ _ (blank_div _ _ none)
    · exact .inr (.inr (Profile.blank_timeout speed _ none))
  · apply agrees_of_same_course drive (moveAt direction speed amount)
      (moveAt direction.flip speed (-amount)) rfl rfl
    rw [course, course, straight, Heading.along_neg _ amount blank, size_neg]

theorem move_speed_agrees (direction : Direction) (speed : Int) :
    Agrees drive (moveAt direction speed amount) (moveAt direction (-speed) amount) := by
  apply agrees_of_same_course drive (moveAt direction speed amount)
    (moveAt direction (-speed) amount) rfl rfl
  simp only [course, Drive.distanceMotion, Profile.distanceTimeout, magnitude_neg, Int.natAbs_neg,
    neg_eq_zero]

theorem turn_agrees (side : Side)
    (some_pulses : ∀ side, 1 ≤ (drive.world.wheels.get side).encoder.pulses)
    (few : ∀ side, (drive.world.wheels.get side).encoder.pulses < 2 ^ 32) :
    Agrees drive (turnBy side amount) (turnBy side.flip (-amount)) := by
  have spin : Heading.spin side.flip = (Heading.spin side).flip := by cases side <;> rfl
  by_cases blank : Blank (number amount)
  · generalize planned : Drive.turnMotion drive.config ((Heading.spin side).along amount)
      (Scalar.abs amount) = motion
    have target : Blank (number motion.target) := by
      rw [← planned]
      exact blank_div _ _ (blank_mul _ _ (blank_mul _ _ (blank_abs amount blank)))
    have near := Drive.near_start_iff motion (drive.say .info "turn") some_pulses few
    apply agrees_of_headed drive (turnBy side amount) (turnBy side.flip (-amount)) motion
      ((Heading.spin side.flip).along (-amount)) rfl rfl
    · rw [course, planned]
    · rw [course, size_neg, ← planned]
      rfl
    · exact target
    · generalize came : number motion.target = size at target
      cases target with
      | zero sign =>
          right
          left
          refine near.mpr ?_
          have within := (zero_within motion.target ⟨sign, came⟩).2
          rw [← planned] at within ⊢
          exact within
      | notANumber => exact .inl rfl
  · apply agrees_of_same_course drive (turnBy side amount) (turnBy side.flip (-amount)) rfl rfl
    rw [course, course, spin, Heading.along_neg _ amount blank, size_neg]

-- The result, every write and its time, and the state at the end. Zeros of both signs, infinities and
-- what is not a number are amounts like any other.
theorem signed_arguments_agree (reached : drive.Reachable)
    (few : ∀ side, (drive.world.wheels.get side).encoder.pulses < 2 ^ 32)
    (direction : Direction) (side : Side) (speed : Int) :
    Agrees drive (moveAt direction speed amount) (moveAt direction.flip speed (-amount)) ∧
    Agrees drive (moveAt direction speed amount) (moveAt direction (-speed) amount) ∧
    Agrees drive (turnBy side amount) (turnBy side.flip (-amount)) :=
  ⟨move_agrees drive amount direction speed, move_speed_agrees drive amount direction speed,
    turn_agrees drive amount side (Drive.reachable_pulses drive reached) few⟩

theorem rushed_turns_alike : rushed.Reachable ∧
    (∀ side, (rushed.world.wheels.get side).encoder.pulses < 2 ^ 32) ∧
    Agrees rushed (turnBy .left 0.0) (turnBy .right (-0.0)) := by
  have agree := signed_arguments_agree rushed 0.0 rushed_reachable rushed_few .forward .left 60
  exact ⟨rushed_reachable, rushed_few, agree.2.2⟩

end Primitive

end Rover
