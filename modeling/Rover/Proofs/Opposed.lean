import Mathlib.Data.List.Forall2
import Rover.Proofs.Abreast
import Rover.Proofs.Oddness

set_option autoImplicit false

namespace Rover

namespace Direction

@[simp] theorem sign_flip (direction : Direction) : direction.flip.sign = -direction.sign := by
  cases direction <;> rfl

end Direction

theorem clamp_to_turned (limit n : Int) (direction : Direction) (nonneg : 0 ≤ limit) :
    clampTo limit (direction.sign * n) = direction.sign * clampTo limit n := by
  cases direction <;> simp only [Direction.sign, clampTo] <;> omega

-- 32 bits reach one farther down than up, but no percentage comes near either end.
theorem clamp_to_saturated (limit n : Int) (nonneg : 0 ≤ limit) (narrow : limit ≤ 2147483647) :
    clampTo limit (saturate (-n)) = -clampTo limit (saturate n) := by
  simp only [clampTo, saturate]
  omega

def Contrary (percents percentsToo : Both Int) : Prop :=
  ∀ side, clampTo 100 (percentsToo.get side) = -clampTo 100 (percents.get side)

namespace Bridge

def swapped (bridge : Bridge) : Bridge := ⟨bridge.reverse, bridge.forward⟩

theorem net_swapped (bridge : Bridge) : bridge.swapped.net = -bridge.net := by
  simp only [net, swapped]
  omega

theorem carrying_neg (duty : Int) : carrying (-duty) = (carrying duty).swapped := by
  have turned := clamp_to_turned maxDuty duty .reverse (by decide)
  rw [Direction.sign, Int.neg_mul, Int.one_mul, Int.neg_mul, Int.one_mul] at turned
  simp only [carrying, turned]
  generalize clampTo maxDuty duty = carried
  rcases Int.lt_trichotomy carried 0 with back | still | ahead
  · rw [if_neg (by omega), if_pos back, swapped, Int.natAbs_neg]
  · subst still
    rfl
  · rw [if_pos (by omega), if_neg (by omega), swapped, Int.natAbs_neg]

end Bridge

variable {α : Type} [Scalar α]

structure RegulatorState.Aligned (direction : Direction) (state other : RegulatorState α) :
    Prop where
  integral : Scalar.Aligned direction state.integral other.integral
  previousError : Scalar.Aligned direction state.previousError other.previousError
  lastTime : other.lastTime = state.lastTime

structure Wheel.Opposed (since sinceToo : Int) (wheel other : Wheel α) : Prop where
  rate : Scalar.Aligned .reverse wheel.rate other.rate
  fraction : Scalar.Aligned .reverse wheel.fraction other.fraction
  ticks : other.ticks - sinceToo = -(wheel.ticks - since)
  pulses : other.encoder.pulses = wheel.encoder.pulses
  accounts : wheel.Accounts 0 since
  accountsToo : other.Accounts 0 sinceToo

structure Chassis.Opposed (since sinceToo : Both Int) (chassis other : Chassis α) : Prop where
  now : other.now = chassis.now
  plant : other.plant = chassis.plant
  response : other.response = chassis.response
  bridges : ∀ side, other.bridges.get side = (chassis.bridges.get side).swapped
  wheels : ∀ side, Wheel.Opposed (since.get side) (sinceToo.get side) (chassis.wheels.get side)
    (other.wheels.get side)

namespace Wheel

variable (since sinceToo : Int) (wheel other : Wheel α)

theorem cleared_opposed (rate : Scalar.Aligned .reverse wheel.rate other.rate)
    (fraction : Scalar.Aligned .reverse wheel.fraction other.fraction)
    (pulses : other.encoder.pulses = wheel.encoder.pulses)
    (seen : wheel.encoder.phase = wheel.phase) (seenToo : other.encoder.phase = other.phase) :
    Opposed wheel.ticks other.ticks { wheel with encoder := wheel.encoder.preset 0 }
      { other with encoder := other.encoder.preset 0 } := by
  refine ⟨rate, fraction, ?_, pulses, ⟨?_, seen⟩, ⟨?_, seenToo⟩⟩
  · rw [Int.sub_self, Int.sub_self, Int.neg_zero]
  · rw [Int.sub_self]
    rfl
  · rw [Int.sub_self]
    rfl

theorem roll_opposed (direction : Direction) (opposed : Opposed since sinceToo wheel other) :
    Opposed since sinceToo (wheel.roll direction) (other.roll direction.flip) := by
  refine ⟨opposed.rate, opposed.fraction, ?_, opposed.pulses,
    roll_accounts wheel direction 0 since opposed.accounts,
    roll_accounts other direction.flip 0 sinceToo opposed.accountsToo⟩
  have ticks := opposed.ticks
  simp only [roll, Direction.sign_flip]
  omega

theorem roll_many_opposed (direction : Direction) (count : Nat)
    (opposed : Opposed since sinceToo wheel other) :
    Opposed since sinceToo (wheel.rollMany direction count)
      (other.rollMany direction.flip count) := by
  induction count generalizing wheel other with
  | zero => exact opposed
  | succ count ih => exact ih _ _ (roll_opposed since sinceToo wheel other direction opposed)

theorem turn_opposed (steps : Int) (opposed : Opposed since sinceToo wheel other) :
    Opposed since sinceToo (wheel.turn steps) (other.turn (-steps)) := by
  simp only [turn, Int.natAbs_neg]
  rcases Int.lt_trichotomy steps 0 with back | still | ahead
  · rw [if_pos back, if_neg (by omega)]
    exact roll_many_opposed since sinceToo wheel other .reverse _ opposed
  · subst still
    exact opposed
  · rw [if_neg (by omega), if_pos (by omega)]
    exact roll_many_opposed since sinceToo wheel other .forward _ opposed

-- Exactly one count in 32 bits has no opposite, and no wheel has come so far.
theorem position_opposed (opposed : Opposed since sinceToo wheel other)
    (short : (wheel.ticks - since).natAbs < 2147483648) :
    other.encoder.position.toInt = -wheel.encoder.position.toInt := by
  rw [opposed.accounts.counted, opposed.accountsToo.counted, opposed.ticks, Int32.zero_add,
    Int32.zero_add, Int32.toInt_ofInt_of_le (by omega) (by omega),
    Int32.toInt_ofInt_of_le (by omega) (by omega)]

end Wheel

section Odd

variable (odd : Scalar.Odd α)

include odd

namespace Regulator

variable (regulator : Regulator α) (direction : Direction)

theorem reset_aligned (now : UInt32) :
    (regulator.reset now).Aligned direction (regulator.reset now) :=
  ⟨odd.zero direction, odd.zero direction, rfl⟩

variable (error errorToo dt : α) (state stateToo : RegulatorState α)
  (errors : Scalar.Aligned direction error errorToo) (states : state.Aligned direction stateToo)

include errors states

theorem integrate_aligned : Scalar.Aligned direction (regulator.integrate error dt state)
    (regulator.integrate errorToo dt stateToo) := by
  simp only [integrate, odd.abs direction _ _ (odd.gain direction _ _ _ errors)]
  by_cases grows : 0.0 < dt ∧
      Scalar.abs (regulator.gains.kp * error) < regulator.mode.windupThreshold
  · rw [if_pos grows, if_pos grows]
    exact odd.add direction _ _ _ _ states.integral (odd.factor direction _ _ dt errors)
  · rw [if_neg grows, if_neg grows]
    exact states.integral

theorem derivative_aligned : Scalar.Aligned direction (regulator.derivative error dt state)
    (regulator.derivative errorToo dt stateToo) := by
  simp only [derivative]
  by_cases later : 0.0 < dt
  · rw [if_pos later, if_pos later]
    have slope := odd.sub direction _ _ _ _ errors states.previousError
    exact odd.div direction _ _ _ (odd.gain direction _ _ _ slope)
  · rw [if_neg later, if_neg later]
    exact odd.zero direction

theorem step_aligned (now : UInt32) :
    (regulator.step errorToo stateToo now).1 =
        direction.sign * (regulator.step error state now).1 ∧
      (regulator.step error state now).2.Aligned direction
        (regulator.step errorToo stateToo now).2 := by
  simp only [step, states.lastTime]
  generalize (elapsedSeconds now state.lastTime : α) = dt
  have integral := integrate_aligned odd regulator direction error errorToo dt state stateToo errors
    states
  have derivative := derivative_aligned odd regulator direction error errorToo dt state stateToo
    errors states
  have output := odd.add direction _ _ _ _
    (odd.add direction _ _ _ _ (odd.gain direction _ _ regulator.gains.kp errors)
      (odd.gain direction _ _ regulator.gains.ki integral)) derivative
  have command := odd.round direction _ _
    (odd.factor direction _ _ regulator.mode.outputScale output)
  refine ⟨?_, integral, errors, rfl⟩
  rw [command, clamp_to_turned _ _ _ (by cases regulator.mode <;> decide)]

end Regulator

namespace Profile

theorem bias_same (lead leadToo k : α) (leads : Scalar.Aligned .forward lead leadToo) :
    bias leadToo k = bias lead k := by
  rw [bias, bias, odd.truncate_same _ _ (odd.factor .forward _ _ k leads)]

variable (errors errorsToo progress progressToo : Both α) (k : α)
  (wentLeft : Scalar.Aligned .forward progress.left progressToo.left)
  (wentRight : Scalar.Aligned .forward progress.right progressToo.right)

include wentLeft wentRight

theorem lead_same : bias (progressToo.left - progressToo.right) k =
      bias (progress.left - progress.right) k ∧
    bias (progressToo.right - progressToo.left) k = bias (progress.right - progress.left) k :=
  ⟨bias_same odd _ _ k (odd.sub .forward _ _ _ _ wentLeft wentRight),
    bias_same odd _ _ k (odd.sub .forward _ _ _ _ wentRight wentLeft)⟩

theorem straight_correction_same
    (missingLeft : Scalar.Aligned .forward errors.left errorsToo.left)
    (missingRight : Scalar.Aligned .forward errors.right errorsToo.right) :
    straightCorrection errorsToo progressToo k = straightCorrection errors progress k := by
  obtain ⟨left, right⟩ := lead_same odd progress progressToo k wentLeft wentRight
  simp only [straightCorrection, odd.abs _ _ _ missingLeft, odd.abs _ _ _ missingRight, left, right]

theorem progress_correction_same :
    progressCorrection progressToo k = progressCorrection progress k := by
  obtain ⟨left, right⟩ := lead_same odd progress progressToo k wentLeft wentRight
  simp only [progressCorrection, left, right, ← odd.lt _ _ _ _ wentLeft wentRight,
    ← odd.lt _ _ _ _ wentRight wentLeft]

omit wentLeft wentRight in
theorem scaled_contrary (command : Int) (direction : Direction) (speed : Int) :
    clampTo 100 (scaled α command direction.flip speed) =
      -clampTo 100 (scaled α command direction speed) := by
  have turned := odd.of_int_neg direction.sign
  rw [← direction.sign_flip] at turned
  have asked := odd.factor .reverse _ _ (Scalar.ofInt speed)
    (odd.gain .reverse _ _ (Scalar.ofInt command) turned)
  rw [scaled, scaled, odd.truncate_neg _ _ (odd.div .reverse _ (100.0 : α) _ asked)]
  exact clamp_to_saturated 100 _ (by decide) (by decide)

end Profile

theorem Plant.steady_rate_aligned (plant : Plant) (duty : Int) :
    Scalar.Aligned .reverse (plant.steadyRate duty : α) (plant.steadyRate (-duty)) := by
  cases plant with
  | constant rate =>
      simp only [steadyRate, Int.sign_neg, Int.neg_mul]
      exact odd.of_int_neg (duty.sign * rate)
  | proportional rate lag =>
      exact odd.div .reverse _ _ _ (odd.factor .reverse _ _ _ (odd.of_int_neg duty))

namespace Wheel

variable (since sinceToo : Int) (wheel other : Wheel α)

theorem advance_opposed (plant : Plant) (response : α) (duty : Int)
    (opposed : Opposed since sinceToo wheel other) :
    Opposed since sinceToo (wheel.advance plant response duty)
      (other.advance plant response (-duty)) := by
  have gap := odd.sub .reverse _ _ _ _ (plant.steady_rate_aligned odd duty) opposed.rate
  have rate := odd.add .reverse _ _ _ _ opposed.rate (odd.factor .reverse _ _ response gap)
  have travel := odd.add .reverse _ _ _ _ opposed.fraction
    (odd.div .reverse _ (1000.0 : α) _ rate)
  simp only [advance, odd.truncate_neg _ _ travel]
  have rest := odd.sub .reverse _ _ _ _ travel (odd.of_int_neg (Scalar.truncate (wheel.fraction +
    (wheel.rate + (plant.steadyRate duty - wheel.rate) * response) / 1000.0)))
  apply turn_opposed
  exact ⟨rate, rest, opposed.ticks, opposed.pulses, ⟨opposed.accounts.counted, opposed.accounts.seen⟩,
    ⟨opposed.accountsToo.counted, opposed.accountsToo.seen⟩⟩

theorem radians_opposed (opposed : Opposed since sinceToo wheel other)
    (short : (wheel.ticks - since).natAbs < 2147483648) :
    Scalar.Aligned .reverse (wheel.encoder.radians : α) other.encoder.radians := by
  have counted : Scalar.Aligned .reverse (Scalar.ofInt wheel.encoder.position.toInt : α) _ :=
    odd.of_int_neg wheel.encoder.position.toInt
  rw [← position_opposed since sinceToo wheel other opposed short] at counted
  simp only [Encoder.radians, opposed.pulses]
  exact odd.div .reverse _ _ _
    (odd.factor .reverse _ _ Scalar.pi (odd.factor .reverse _ _ (2.0 : α) counted))

end Wheel

theorem Chassis.tick_opposed (since sinceToo : Both Int) (chassis other : Chassis α)
    (opposed : Opposed since sinceToo chassis other) :
    Opposed since sinceToo chassis.tick other.tick := by
  have advanced : ∀ side, Wheel.Opposed (since.get side) (sinceToo.get side)
      ((chassis.wheels.get side).advance chassis.plant chassis.response
        (chassis.bridges.get side).net)
      ((other.wheels.get side).advance other.plant other.response (other.bridges.get side).net) := by
    intro side
    rw [opposed.plant, opposed.response, opposed.bridges, Bridge.net_swapped]
    exact Wheel.advance_opposed odd _ _ _ _ _ _ _ (opposed.wheels side)
  refine ⟨?_, opposed.plant, opposed.response, opposed.bridges, fun side => ?_⟩
  · simp only [tick, opposed.now]
  · cases side with
    | left => exact advanced .left
    | right => exact advanced .right

end Odd

structure World.Opposed (entry entryToo world other : World α) : Prop where
  recorded : ∃ fresh freshToo, world.recording = fresh ++ entry.recording ∧
    other.recording = freshToo ++ entryToo.recording ∧
    List.Forall₂ (Chassis.Opposed entry.ticks entryToo.ticks) fresh freshToo
  reached : world.toChassis.Opposed entry.ticks entryToo.ticks other.toChassis

structure SpeedControl.Opposed (entry entryToo : World α) (control other : SpeedControl α) :
    Prop where
  world : World.Opposed entry entryToo control.world other.world
  config : other.config = control.config
  states : ∀ side, (control.states.get side).Aligned .reverse (other.states.get side)
  wired : control.Wired
  wiredToo : other.Wired

def World.Short (entry world : World α) : Prop :=
  ∀ side, (world.ticks.get side - entry.ticks.get side).natAbs < 2147483648

namespace World

omit [Scalar α] in
theorem touched_built (before after : World α) (touched : Touched before after) :
    after.plant = before.plant ∧ after.response = before.response := by
  induction touched with
  | refl => exact ⟨rfl, rfl⟩
  | tail _ touch ih =>
      rw [← ih.1, ← ih.2]
      cases touch with
      | write channel duty safe =>
          rw [final_write]
          exact ⟨rfl, rfl⟩
      | say level source text => exact ⟨rfl, rfl⟩

variable (entry entryToo world other : World α)

theorem tick_opposed (odd : Scalar.Odd α) (opposed : Opposed entry entryToo world other) :
    Opposed entry entryToo world.tick other.tick := by
  obtain ⟨⟨fresh, freshToo, grown, grownToo, all⟩, reached⟩ := opposed
  have ticked := Chassis.tick_opposed odd _ _ _ _ reached
  refine ⟨⟨world.toChassis.tick :: fresh, other.toChassis.tick :: freshToo, ?_, ?_,
    .cons ticked all⟩, ticked⟩
  · simp only [tick, grown, List.cons_append]
  · simp only [tick, grownToo, List.cons_append]

theorem delay_opposed (odd : Scalar.Odd α) (millis : Nat)
    (opposed : Opposed entry entryToo world other) :
    Opposed entry entryToo (world.delay millis) (other.delay millis) := by
  induction millis generalizing world other with
  | zero => exact opposed
  | succ count ih => exact ih _ _ (tick_opposed entry entryToo world other odd opposed)

theorem angles_opposed (odd : Scalar.Odd α) (opposed : Opposed entry entryToo world other)
    (short : Short entry world) (side : Side) :
    Scalar.Aligned .reverse (world.angles.get side) (other.angles.get side) := by
  have wheels := opposed.reached.wheels side
  have near := short side
  cases side <;> exact Wheel.radians_opposed odd _ _ _ _ wheels near

end World

namespace SpeedControl

variable (entry entryToo : World α) (control other next nextToo : SpeedControl α)

theorem touched_opposed (opposed : control.Opposed entry entryToo other)
    (carried : Over World.Touched control next) (carriedToo : Over World.Touched other nextToo)
    (states : next.states = control.states) (statesToo : nextToo.states = other.states)
    (bridges : ∀ side,
      nextToo.world.bridges.get side = (next.world.bridges.get side).swapped) :
    next.Opposed entry entryToo nextToo := by
  obtain ⟨⟨recorded, reached⟩, config, aligned, wired, wiredToo⟩ := opposed
  have still := World.touched_still _ _ carried.world
  have stillToo := World.touched_still _ _ carriedToo.world
  have built := World.touched_built _ _ carried.world
  have builtToo := World.touched_built _ _ carriedToo.world
  refine ⟨⟨?_, ?_, ?_, ?_, bridges, ?_⟩, ?_, ?_, fun side => (carried.sides side).trans (wired side),
    fun side => (carriedToo.sides side).trans (wiredToo side)⟩
  · rw [World.touched_recording _ _ carried.world, World.touched_recording _ _ carriedToo.world]
    exact recorded
  · rw [still.1, stillToo.1]
    exact reached.now
  · rw [built.1, builtToo.1]
    exact reached.plant
  · rw [built.2, builtToo.2]
    exact reached.response
  · rw [still.2, stillToo.2]
    exact reached.wheels
  · rw [carried.config, carriedToo.config]
    exact config
  · rw [states, statesToo]
    exact aligned

theorem drive_opposed (duties dutiesToo : Both Int) (value valueToo : Unit)
    (turned : ∀ side, dutiesToo.get side = -duties.get side)
    (opposed : control.Opposed entry entryToo other)
    (driven : drive duties control = .ok value next)
    (drivenToo : drive dutiesToo other = .ok valueToo nextToo) :
    next.Opposed entry entryToo nextToo := by
  have carried := drive_over duties control
  have carriedToo := drive_over dutiesToo other
  have states := drive_states duties control
  have statesToo := drive_states dutiesToo other
  simp only [Action.final, driven, drivenToo, Action.landing] at carried carriedToo states statesToo
  apply touched_opposed entry entryToo control other next nextToo opposed carried carriedToo states
    statesToo
  intro side
  rw [drive_bridges duties control next value opposed.wired driven,
    drive_bridges dutiesToo other nextToo valueToo opposed.wiredToo drivenToo]
  have loaded := Bridge.carrying_neg (duties.get side)
  rw [← turned side] at loaded
  cases side <;> exact loaded

theorem stop_opposed (value valueToo : Unit) (opposed : control.Opposed entry entryToo other)
    (stopped : stop control = .ok value next) (stoppedToo : stop other = .ok valueToo nextToo) :
    next.Opposed entry entryToo nextToo := by
  have carried := stop_over control
  have carriedToo := stop_over other
  have states := stop_states control
  have statesToo := stop_states other
  simp only [Action.final, stopped, stoppedToo, Action.landing] at carried carriedToo states statesToo
  apply touched_opposed entry entryToo control other next nextToo opposed carried carriedToo states
    statesToo
  intro side
  rw [(stop_released control next value opposed.wired stopped).1,
    (stop_released other nextToo valueToo opposed.wiredToo stoppedToo).1]
  cases side <;> rfl

variable (odd : Scalar.Odd α) (opposed : control.Opposed entry entryToo other)

include odd opposed

theorem delay_opposed (millis : Nat) :
    (control.delay millis).Opposed entry entryToo (other.delay millis) :=
  ⟨World.delay_opposed entry entryToo _ _ odd millis opposed.world, opposed.config, opposed.states,
    opposed.wired, opposed.wiredToo⟩

theorem speeds_opposed (millis : Nat) (before : World.Short entry control.world)
    (after : World.Short entry (control.speeds millis).2.world) :
    (∀ side, Scalar.Aligned .reverse ((control.speeds millis).1.get side)
        ((other.speeds millis).1.get side)) ∧
      (control.speeds millis).2.Opposed entry entryToo (other.speeds millis).2 := by
  have waited := delay_opposed entry entryToo control other odd opposed (max millis 1)
  refine ⟨fun side => ?_, waited⟩
  have last := World.angles_opposed entry entryToo _ _ odd opposed.world before side
  have angle := World.angles_opposed entry entryToo _ _ odd waited.world after side
  have speed := odd.div .reverse _ (Scalar.ofInt (max millis 1 : Nat) / 1000.0) _
    (odd.sub .reverse _ _ _ _ angle last)
  cases side <;> exact speed

theorem regulate_opposed (percents percentsToo : Both Int) (measured measuredToo : Both α)
    (asked : ∀ side, percentsToo.get side = -percents.get side)
    (read : ∀ side, Scalar.Aligned .reverse (measured.get side) (measuredToo.get side)) :
    (∀ side, (other.regulate percentsToo measuredToo).1.get side =
        -(control.regulate percents measured).1.get side) ∧
      (control.regulate percents measured).2.Opposed entry entryToo
        (other.regulate percentsToo measuredToo).2 := by
  have stepped : ∀ side, _ := fun side => Regulator.step_aligned odd
    (regulator control.config side) .reverse _ _ _ _
    (odd.sub .reverse _ _ _ _ (odd.factor .reverse _ _ (control.config.maxSpeed / 100.0)
      (odd.of_int_neg (percents.get side))) (read side))
    (opposed.states side) control.world.now
  simp only [Direction.sign, Int.neg_mul, Int.one_mul, ← asked] at stepped
  refine ⟨fun side => ?_, opposed.world, opposed.config, fun side => ?_, opposed.wired,
    opposed.wiredToo⟩
  · simp only [regulate, opposed.config, opposed.world.reached.now]
    cases side with
    | left => exact (stepped .left).1
    | right => exact (stepped .right).1
  · simp only [regulate, opposed.config, opposed.world.reached.now]
    cases side with
    | left => exact (stepped .left).2
    | right => exact (stepped .right).2

omit odd in
theorem note_run_opposed (duties dutiesToo : Both Int) :
    (control.noteRun duties).Opposed entry entryToo (other.noteRun dutiesToo) :=
  ⟨⟨opposed.world.recorded, opposed.world.reached⟩, opposed.config, opposed.states, opposed.wired,
    opposed.wiredToo⟩

theorem planned_opposed (percents percentsToo : Both Int) (asked : Contrary percents percentsToo)
    (before : World.Short entry control.world)
    (after : World.Short entry (control.speeds control.config.intervalMillis).2.world) :
    (∀ side, (other.planned percentsToo).1.get side = -(control.planned percents).1.get side) ∧
      (control.planned percents).2.Opposed entry entryToo (other.planned percentsToo).2 := by
  have clamped : ∀ side, (percentsToo.map (clampTo 100)).get side =
      -(percents.map (clampTo 100)).get side := by
    intro side
    cases side with
    | left => exact asked .left
    | right => exact asked .right
  obtain ⟨read, waited⟩ := speeds_opposed entry entryToo control other odd opposed
    control.config.intervalMillis before after
  simp only [planned, opposed.config]
  obtain ⟨duties, regulated⟩ := regulate_opposed entry entryToo _ _ odd waited
    (percents.map (clampTo 100)) (percentsToo.map (clampTo 100)) _ _ clamped read
  exact ⟨duties, note_run_opposed entry entryToo _ _ regulated _ _⟩

theorem run_opposed (percents percentsToo : Both Int) (asked : Contrary percents percentsToo)
    (value valueToo : Unit) (before : World.Short entry control.world)
    (after : World.Short entry next.world) (ran : run percents control = .ok value next)
    (ranToo : run percentsToo other = .ok valueToo nextToo) :
    next.Opposed entry entryToo nextToo := by
  rw [run_apply] at ran ranToo
  have carried := (drive_over (control.planned percents).1 (control.planned percents).2).world
  simp only [Action.final, ran, Action.landing] at carried
  -- the motors are set at the end of the window, when the wheels have come to where they are
  have wheels : next.world.wheels = (control.speeds control.config.intervalMillis).2.world.wheels :=
    (World.touched_still _ _ carried).2
  have window : World.Short entry (control.speeds control.config.intervalMillis).2.world := by
    intro side
    rw [World.ticks, ← wheels]
    exact after side
  obtain ⟨turned, planned⟩ := planned_opposed entry entryToo control other odd opposed percents
    percentsToo asked before window
  exact drive_opposed entry entryToo _ _ next nextToo _ _ value valueToo turned planned ran ranToo

end SpeedControl

end Rover
