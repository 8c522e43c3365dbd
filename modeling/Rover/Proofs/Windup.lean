import Rover.Regulator
import Rover.Proofs.Fractions

set_option autoImplicit false

namespace Rover

namespace Scalar

open Float.Model (UnpackedFloat Format)
open Float.Model.UnpackedFloat

theorem finite_number (x : Float) : x.isFinite = (number x).isFinite := by
  rfl

theorem infinity_kept (sign : Sign) :
    unpack .binary64 (pack .binary64 (.infinity sign)) = .infinity sign := by
  cases sign <;> rfl

theorem nan_kept : unpack .binary64 (pack .binary64 .notANumber) = .notANumber :=
  unpack_packedNaN

section Wild

variable (x y : Float)

-- A factor of zero does not make a number of what is not finite.
theorem wild_product (wild : y.isFinite = false) : (x * y).isFinite = false := by
  rw [finite_number] at wild ⊢
  rw [number_mul]
  generalize number y = came at *
  cases came with
  | zero sign | finite sign mantissa exponent positive => cases wild
  | notANumber => cases number x <;> simp only [UnpackedFloat.mul, nan_kept, isFinite]
  | infinity sign =>
      cases number x <;> simp only [UnpackedFloat.mul, nan_kept, infinity_kept, isFinite]

-- Infinity is below nothing, and what is not a number is neither.
theorem wild_size (wild : x.isFinite = false) : ¬ x.abs < y := by
  rw [finite_number] at wild
  rw [lt_compare, number_abs]
  generalize number x = came at *
  cases came with
  | zero sign | finite sign mantissa exponent positive => cases wild
  | notANumber => simp [UnpackedFloat.abs, nan_kept, UnpackedFloat.compare]
  | infinity sign =>
      rw [UnpackedFloat.abs, infinity_kept]
      cases number y with
      | infinity other => cases other <;> simp [UnpackedFloat.compare]
      | _ => simp [UnpackedFloat.compare]

theorem nan_number (nan : x.isNaN = true) : number x = .notANumber := by
  change (number x).isNaN = true at nan
  generalize number x = came at *
  cases came with
  | notANumber => rfl
  | zero sign | infinity sign | finite sign mantissa exponent positive => cases nan

theorem nan_product (nan : x.isNaN = true) : (x * y).isNaN = true := by
  change (number (x * y)).isNaN = true
  rw [number_mul, nan_number x nan]
  cases number y <;> simp only [UnpackedFloat.mul, nan_kept, isNaN]

theorem nan_round (nan : x.isNaN = true) : roundFloat x = 0 := by
  have same : Aligned .forward x (0.0 / 0.0) :=
    .inr ⟨(nan_iff x).mpr (nan_number x nan), by decide +kernel⟩
  have alike := float_round .forward x (0.0 / 0.0) same
  rw [Direction.sign, Int.one_mul] at alike
  rw [← alike]
  decide +kernel

end Wild

end Scalar

-- The milliseconds since the last step. They are negative when the clock has gone back, and also
-- before the lead of a reset has run out.
def RegulatorState.wait (state : RegulatorState Float) (now : UInt32) : Int :=
  (now - state.lastTime).toInt32.toInt

theorem elapsed_positive (state : RegulatorState Float) (now : UInt32) :
    0.0 < (elapsedSeconds now state.lastTime : Float) ↔ 0 < state.wait now := by
  have low := (now - state.lastTime).toInt32.le_toInt
  have high := (now - state.lastTime).toInt32.toInt_lt
  change 0.0 < Float.ofInt (state.wait now) / 1000.0 ↔ _
  rw [RegulatorState.wait]
  generalize (now - state.lastTime).toInt32.toInt = millis at *
  have small : |millis| ≤ 2 ^ 32 := abs_le.mpr ⟨by omega, by omega⟩
  obtain ⟨seconds, reads, _, sign⟩ := Scalar.seconds_reads millis small
  rw [Scalar.positive_reads _ seconds reads, ← sign_eq_one_iff, sign, sign_eq_one_iff]

namespace Regulator

inductive Call where
  | step (error : Float) (now : UInt32)
  | reset (now : UInt32)

def Call.of : Float × UInt32 → Call
  | (error, now) => .step error now

structure Moment where
  before : RegulatorState Float
  error : Float
  now : UInt32
  command : Int
  after : RegulatorState Float

variable (regulator : Regulator Float)

def output (error : Float) (state : RegulatorState Float) (now : UInt32) : Float :=
  let dt := elapsedSeconds now state.lastTime
  regulator.gains.kp * error + regulator.gains.ki * regulator.integrate error dt state +
    regulator.derivative error dt state

def run : List Call → RegulatorState Float → RegulatorState Float
  | [], state => state
  | .step error now :: rest, state => run rest (regulator.step error state now).2
  | .reset now :: rest, _ => run rest (regulator.reset now)

def moment (error : Float) (state : RegulatorState Float) (now : UInt32) : Moment :=
  let (command, after) := regulator.step error state now
  { before := state, error, now, command, after }

def moments : List Call → RegulatorState Float → List Moment
  | [], _ => []
  | .step error now :: rest, state =>
      regulator.moment error state now :: moments rest (regulator.step error state now).2
  | .reset now :: rest, _ => moments rest (regulator.reset now)

structure Gathers (moment : Moment) : Prop where
  later : 0 < moment.before.wait moment.now
  unsaturated : (regulator.gains.kp * moment.error).abs < regulator.mode.windupThreshold
  finite : moment.error.isFinite = true

structure Sound (moment : Moment) : Prop where
  bounded : -regulator.mode.outputLimit ≤ moment.command ∧
    moment.command ≤ regulator.mode.outputLimit
  silent : (regulator.output moment.error moment.before moment.now).isNaN = true →
    moment.command = 0
  gathered : regulator.Gathers moment → moment.after.integral = moment.before.integral +
    moment.error * elapsedSeconds moment.now moment.before.lastTime
  held : ¬ regulator.Gathers moment → moment.after.integral = moment.before.integral
  error : moment.after.previousError = moment.error
  time : moment.after.lastTime = moment.now

-- The two tests before the integral grows let no error through that is not finite.
theorem gathers_iff (moment : Moment) : regulator.Gathers moment ↔
    0.0 < (elapsedSeconds moment.now moment.before.lastTime : Float) ∧
      (regulator.gains.kp * moment.error).abs < regulator.mode.windupThreshold := by
  rw [elapsed_positive]
  constructor
  · rintro ⟨later, unsaturated, _⟩
    exact ⟨later, unsaturated⟩
  · rintro ⟨later, unsaturated⟩
    refine ⟨later, unsaturated, ?_⟩
    by_contra wild
    exact Scalar.wild_size _ _ (Scalar.wild_product _ _ (eq_false_of_ne_true wild)) unsaturated

theorem step_command (error : Float) (state : RegulatorState Float) (now : UInt32) :
    (regulator.step error state now).1 = clampTo regulator.mode.outputLimit
      (Scalar.roundFloat (regulator.output error state now * regulator.mode.outputScale)) := by
  rfl

theorem command_silent (error : Float) (state : RegulatorState Float) (now : UInt32)
    (nan : (regulator.output error state now).isNaN = true) :
    (regulator.step error state now).1 = 0 := by
  rw [step_command, Scalar.nan_round _ (Scalar.nan_product _ _ nan)]
  cases regulator.mode <;> rfl

theorem step_sound (error : Float) (state : RegulatorState Float) (now : UInt32) :
    regulator.Sound (regulator.moment error state now) := by
  have gathers := regulator.gathers_iff (regulator.moment error state now)
  refine ⟨?_, regulator.command_silent error state now, ?_, ?_, rfl, rfl⟩
  · apply clamp_to_bounds
    cases regulator.mode <;> decide
  · intro gathered
    exact if_pos (gathers.mp gathered)
  · intro held
    exact if_neg (mt gathers.mpr held)

theorem moments_sound (calls : List Call) (start : RegulatorState Float) :
    ∀ moment ∈ regulator.moments calls start, regulator.Sound moment := by
  induction calls generalizing start with
  | nil =>
      intro moment member
      cases member
  | cons call rest ih =>
      cases call with
      | step error now =>
          intro moment member
          rcases List.mem_cons.mp member with first | later
          · rw [first]
            exact regulator.step_sound error start now
          · exact ih _ moment later
      | reset now => exact ih _

theorem run_append (calls more : List Call) (start : RegulatorState Float) :
    regulator.run (calls ++ more) start = regulator.run more (regulator.run calls start) := by
  induction calls generalizing start with
  | nil => rfl
  | cons call rest ih => cases call <;> exact ih _

theorem run_held (steps : List (Float × UInt32)) (start : RegulatorState Float)
    (held : ∀ moment ∈ regulator.moments (steps.map Call.of) start, ¬ regulator.Gathers moment) :
    (regulator.run (steps.map Call.of) start).integral = start.integral := by
  induction steps generalizing start with
  | nil => rfl
  | cons step rest ih =>
      obtain ⟨error, now⟩ := step
      have first := (regulator.step_sound error start now).held (held _ (.head _))
      have later := ih (regulator.step error start now).2 fun moment member =>
        held moment (.tail _ member)
      exact later.trans first

-- However long a regulator runs, on whatever errors and times: every step is sound, and a stretch
-- of steps none of which gathers leaves the integral as it finds it.
theorem run_windup_safe (calls : List Call) (start : RegulatorState Float) :
    (∀ moment ∈ regulator.moments calls start, regulator.Sound moment) ∧
    ∀ steps : List (Float × UInt32),
      (∀ moment ∈ regulator.moments (steps.map Call.of) (regulator.run calls start),
        ¬ regulator.Gathers moment) →
      (regulator.run (calls ++ steps.map Call.of) start).integral =
        (regulator.run calls start).integral := by
  refine ⟨regulator.moments_sound calls start, fun steps held => ?_⟩
  rw [run_append]
  exact regulator.run_held steps _ held

instance (moment : Moment) : Decidable (regulator.Gathers moment) :=
  decidable_of_iff _ (regulator.gathers_iff moment).symm

def angular : Regulator Float := { mode := .angle, gains := ⟨45.0, 100.0, 2.5⟩ }

theorem wild_steps_held :
    let start := angular.run [.step 0.5 12] (angular.reset 0)
    let steps := [(0.0 / 0.0, 20), (1.0 / 0.0, 30), (4.0, 40), (0.5, 4294967295)]
    0.0 < start.integral ∧
    (∀ moment ∈ angular.moments (steps.map Call.of) start, ¬ angular.Gathers moment) ∧
    (angular.run ([.step 0.5 12] ++ steps.map Call.of) (angular.reset 0)).integral =
      start.integral := by
  intro start steps
  have held : ∀ moment ∈ angular.moments (steps.map Call.of) start, ¬ angular.Gathers moment := by
    decide +kernel
  exact ⟨by decide +kernel, held, (angular.run_windup_safe [.step 0.5 12] _).2 steps held⟩

end Regulator

end Rover
