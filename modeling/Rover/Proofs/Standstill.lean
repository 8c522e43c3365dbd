import Rover.Proofs.Deadline
import Rover.Proofs.Speedometer
import Rover.Proofs.Zeros

set_option autoImplicit false

namespace Rover

section Stopping

variable {α : Type}

namespace World

def stopWrites (now : UInt32) : List PwmWrite :=
  [⟨now, ⟨.left, .forward⟩, 0, true⟩, ⟨now, ⟨.left, .reverse⟩, 0, true⟩,
    ⟨now, ⟨.right, .forward⟩, 0, true⟩, ⟨now, ⟨.right, .reverse⟩, 0, true⟩]

def released (world : World α) (side : Side) : World α :=
  (world.noted ⟨side, .forward⟩ 0 true).noted ⟨side, .reverse⟩ 0 true

end World

theorem Motor.stop_world (motor next : Motor) (world after : World α)
    (stopped : motor.stop world = .ok next after) : after = world.released motor.side := by
  rw [stop_eq] at stopped
  obtain ⟨_, _, loaded, returned⟩ := Action.ok_of_bind _ _ _ _ _ stopped
  have released := load_ok _ _ _ _ _ _ loaded
  cases returned
  exact released

namespace SpeedControl

variable (control next : SpeedControl α) (value : Unit) (wired : control.Wired)

include wired

theorem stop_wheel_world (side : Side) (stopped : stopWheel side control = .ok value next) :
    next.world = control.world.released side := by
  obtain ⟨motor, world, came, rfl⟩ := command_ok side Motor.stop control next value stopped
  have released := Motor.stop_world _ _ _ _ came
  rwa [wired side] at released

theorem stop_world (stopped : stop control = .ok value next) :
    next.world = (control.world.released .left).released .right := by
  obtain ⟨middle, left, right⟩ := stop_ok control next value stopped
  have kept := stop_wheel_over .left control
  simp only [Action.final, left, Action.landing] at kept
  have wiredToo : middle.Wired := fun side => (kept.sides side).trans (wired side)
  rw [stop_wheel_world middle next () wiredToo .right right,
    stop_wheel_world control middle () wired .left left]

end SpeedControl

end Stopping

section Loop

variable {α : Type} [Scalar α]

structure Drive.Rests (millis : Nat) (before after : Drive α) : Prop where
  writes : after.world.writesSince before.world = World.stopWrites before.world.now
  lasts : World.Lasts millis before.world after.world

theorem Drive.due_at_once (motion : Motion α) (begun : Drive α)
    (due : begun.Near motion ∨ motion.timeout = 0) :
    hasArrived motion begun = true ∨ motion.timeout ≤ begun.world.elapsed begun.world.now := by
  refine due.imp (has_arrived_iff motion begun).mpr fun none => ?_
  rw [none]
  exact UInt32.le_iff_toNat_le.mpr (Nat.zero_le _)

end Loop

open Scalar

theorem Encoder.zero_at_rest (encoder : Encoder) (some_pulses : 1 ≤ encoder.pulses)
    (few : encoder.pulses < 2 ^ 32) (rest : encoder.position = 0) :
    IsZero (encoder.radians : Float) := by
  have gear : (encoder.pulses : ℚ) ≠ 0 := by exact_mod_cast (by omega : encoder.pulses ≠ 0)
  rw [radians, rest]
  apply zero_div_signed
  · apply zero_mul_finite _ _ _ (by decide +kernel)
    exact zero_mul_finite _ _ zero_of_int (by decide +kernel)
  · exact not_blank_of_reads _ _ (of_nat_reads encoder.pulses (by omega)) gear

namespace Profile

variable (amount radius : Float) (none : (amount == 0.0) = true)
  (finite : radius.isFinite = true) (nonzero : (radius == 0.0) = false)

include none finite nonzero

end Profile

theorem zero_within (target : Float) (zero : IsZero target) :
    Scalar.abs target ≤ Profile.distanceTolerance ∧ Scalar.abs target ≤ Profile.turnTolerance := by
  have same : Aligned .forward 0.0 target := by
    obtain ⟨sign, came⟩ := zero
    rw [aligned_iff_turned, came, number_zero]
    exact .zero _ _
  rw [float_odd.abs .forward _ _ same]
  decide +kernel

namespace Drive

theorem near_start_iff (motion : Motion Float) (drive : Drive Float)
    (some_pulses : ∀ side, 1 ≤ (drive.world.wheels.get side).encoder.pulses)
    (few : ∀ side, (drive.world.wheels.get side).encoder.pulses < 2 ^ 32) :
    (drive.start motion.target).Near motion ↔ Scalar.abs motion.target ≤ motion.tolerance := by
  have still : ∀ side, Scalar.abs (motion.target -
      (drive.start motion.target).world.angles.get side *
        Scalar.ofInt (motion.heading.get side).sign) = Scalar.abs motion.target := by
    intro side
    have angle : IsZero ((drive.start motion.target).world.angles.get side) := by
      cases side with
      | left => exact Encoder.zero_at_rest _ (some_pulses .left) (few .left) rfl
      | right => exact Encoder.zero_at_rest _ (some_pulses .right) (few .right) rfl
    have made := zero_mul_finite _ (Scalar.ofInt (motion.heading.get side).sign) angle
      (by cases motion.heading.get side <;> decide +kernel)
    exact float_odd.abs .forward _ _ (sub_zero_aligned motion.target _ made)
  simp only [Near, still]
  exact ⟨fun near => near .left, fun within _ => within⟩

end Drive

namespace Primitive

def Still (primitive : Primitive Float) (drive : Drive Float) (outcome : Outcome) : Prop :=
  ∃ after, primitive.run drive = .ok (some outcome) after ∧
    Drive.Rests primitive.settle drive after

def rushed : Drive Float :=
  (Drive.parked 2376 1000).after [.run ⟨60, -35⟩, .preset ⟨1000, -77⟩]

theorem rushed_reachable : rushed.Reachable :=
  Drive.reachable_after _ _ (Drive.parked_reachable 2376 1000)

theorem rushed_few (side : Side) : (rushed.world.wheels.get side).encoder.pulses < 2 ^ 32 := by
  cases side <;> decide +kernel

end Primitive

end Rover
