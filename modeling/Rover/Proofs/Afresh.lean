import Rover.Proofs.Faults
import Rover.Proofs.Likeness

/-!
Two robots in the same physical state go through a motion alike, whatever was left in their
counters, regulators, targets and motors. Only the duty that a motor remembers can outlive a motion,
and only one that a fault ended.
-/

set_option autoImplicit false

namespace Rover

variable {α : Type}

structure Passage (α : Type) where
  moments : Nat := 0
  peaks : Both Bridge := .const {}
  journal : List PwmWrite := []
  recording : List (Chassis α) := []
  entries : List Entry := []

namespace World

def continued (world : World α) (chassis : Chassis α) (passage : Passage α) : World α :=
  { world with
    toChassis := chassis
    moment := world.moment + passage.moments
    peaks := Both.zipWith Bridge.max world.peaks passage.peaks
    journal := passage.journal ++ world.journal
    recording := passage.recording ++ world.recording
    log := { world.log with entries := passage.entries ++ world.log.entries } }

def Onward (first second world other : World α) : Prop :=
  ∃ chassis passage, world = first.continued chassis passage ∧
    other = second.continued chassis passage

structure SameAhead (first second : World α) : Prop where
  failing : ∀ moments channel, second.failing (second.moment + moments) channel =
    first.failing (first.moment + moments) channel
  threshold : second.log.threshold = first.log.threshold

theorem peaks_blank (peaks : Both Bridge) : Both.zipWith Bridge.max peaks (.const {}) = peaks := by
  simp [Both.zipWith, Both.const, Bridge.max]

theorem peaks_assoc (first second third : Both Bridge) :
    Both.zipWith Bridge.max (Both.zipWith Bridge.max first second) third =
      Both.zipWith Bridge.max first (Both.zipWith Bridge.max second third) := by
  simp [Both.zipWith, Bridge.max, Nat.max_assoc]

theorem continued_blank (world : World α) (chassis : Chassis α) :
    world.continued chassis {} = { world with toChassis := chassis } := by
  simp [continued, peaks_blank]

variable (first second world other : World α)

theorem onward_chassis (onward : Onward first second world other) :
    other.toChassis = world.toChassis := by
  obtain ⟨chassis, passage, rfl, rfl⟩ := onward
  rfl

theorem onward_writes (onward : Onward first second world other) :
    other.writesSince second = world.writesSince first := by
  obtain ⟨chassis, passage, rfl, rfl⟩ := onward
  rw [writes_since_append first _ passage.journal rfl,
    writes_since_append second _ passage.journal rfl]

theorem onward_noted (onward : Onward first second world other) (channel : Channel) (duty : Nat)
    (accepted : Bool) :
    Onward first second (world.noted channel duty accepted)
      (other.noted channel duty accepted) := by
  obtain ⟨chassis, passage, rfl, rfl⟩ := onward
  cases accepted with
  | false =>
      refine ⟨chassis, { passage with
        moments := passage.moments + 1
        journal := ⟨chassis.now, channel, duty, false⟩ :: passage.journal }, rfl, rfl⟩
  | true =>
      refine ⟨{ chassis with bridges := chassis.bridges.withDuty channel duty }, { passage with
        moments := passage.moments + 1
        peaks := Both.zipWith Bridge.max passage.peaks (chassis.bridges.withDuty channel duty)
        journal := ⟨chassis.now, channel, duty, true⟩ :: passage.journal }, ?_, ?_⟩
      · simp only [continued, ← peaks_assoc]
        rfl
      · simp only [continued, ← peaks_assoc]
        rfl

theorem onward_failing (ahead : SameAhead first second) (onward : Onward first second world other)
    (channel : Channel) :
    other.failing other.moment channel = world.failing world.moment channel := by
  obtain ⟨chassis, passage, rfl, rfl⟩ := onward
  exact ahead.failing passage.moments channel

theorem onward_write (ahead : SameAhead first second) (channel : Channel) (duty : Nat) :
    Action.Agree (Onward first second) Eq (write channel duty) (write channel duty) := by
  intro world other onward
  have noted := onward_noted first second world other onward channel duty
  rw [write_apply, write_apply, onward_failing first second world other ahead onward]
  by_cases refused : world.failing world.moment channel
  · rw [if_pos refused, if_pos refused]
    exact .error _ _ _ (noted false)
  · rw [if_neg refused, if_neg refused]
    exact .ok _ _ _ _ rfl (noted true)

theorem continued_say (chassis : Chassis α) (passage : Passage α) (level : Level) (source : Source)
    (text : String) : (first.continued chassis passage).say level source text =
      first.continued chassis { passage with
        entries := if level.passes first.log.threshold
          then ⟨level, source, text⟩ :: passage.entries else passage.entries } := by
  have threshold : (first.continued chassis passage).log.threshold = first.log.threshold := rfl
  simp only [say, Log.say, threshold]
  by_cases kept : level.passes first.log.threshold
  · simp only [if_pos kept]
    rfl
  · simp only [if_neg kept]

theorem onward_say (ahead : SameAhead first second) (onward : Onward first second world other)
    (level : Level) (source : Source) (text : String) :
    Onward first second (world.say level source text) (other.say level source text) := by
  obtain ⟨chassis, passage, rfl, rfl⟩ := onward
  rw [continued_say, continued_say, ahead.threshold]
  exact ⟨chassis, _, rfl, rfl⟩

theorem onward_tick [Scalar α] (onward : Onward first second world other) :
    Onward first second world.tick other.tick := by
  obtain ⟨chassis, passage, rfl, rfl⟩ := onward
  exact ⟨chassis.tick, { passage with
    moments := passage.moments + 1
    recording := chassis.tick :: passage.recording }, rfl, rfl⟩

end World

def Motor.Twin (motor other : Motor) : Prop := ∃ duty, other = { motor with duty }

variable [Scalar α]

def Likeness.onward (first second : World α) (ahead : World.SameAhead first second) :
    Likeness α where
  shift := 0
  worlds := World.Onward first second
  motors := Motor.Twin
  now world other onward := by
    rw [World.onward_chassis first second world other onward, UInt32.add_zero]
  angles world other onward := by
    simp only [World.angles, World.onward_chassis first second world other onward]
  write := World.onward_write first second ahead
  say world other level source text onward :=
    World.onward_say first second world other ahead onward level source text
  tick world other onward := World.onward_tick first second world other onward
  named motor other twin := by
    obtain ⟨duty, rfl⟩ := twin
    exact ⟨rfl, rfl⟩
  commanded motor other duty twin := by
    obtain ⟨_, rfl⟩ := twin
    exact ⟨duty, rfl⟩

namespace Drive

-- Two robots in the same physical state, on the same configurations: one could be the other after a
-- preset of its counters. Their regulators, targets, remembered duties and pasts are their own.
structure Beside (drive other : Drive α) : Prop where
  chassis : ∃ positions, other.world.toChassis = (drive.world.preset positions).toChassis
  ahead : World.SameAhead drive.world other.world
  motors : ∀ side, (drive.speed.motors.get side).Twin (other.speed.motors.get side)
  speedConfig : other.speed.config = drive.speed.config
  config : other.config = drive.config

structure Sequel (drive other after last : Drive α) : Prop where
  chassis : last.world.toChassis = after.world.toChassis
  writes : last.world.writesSince other.world = after.world.writesSince drive.world
  onward : World.Onward drive.world other.world after.world last.world
  states : last.speed.states = after.speed.states
  motors : ∀ side, (after.speed.motors.get side).Twin (last.speed.motors.get side)
  target : last.target = after.target
  speedConfig : last.speed.config = after.speed.config
  config : last.config = after.config

theorem sequel_of_alike (drive other after last : Drive α)
    (ahead : World.SameAhead drive.world other.world)
    (alike : (Likeness.onward drive.world other.world ahead).Drives after last) :
    Sequel drive other after last := by
  obtain ⟨⟨onward, motors, speedConfig, states⟩, config, target⟩ := alike
  refine ⟨World.onward_chassis _ _ _ _ onward, World.onward_writes _ _ _ _ onward, onward, ?_,
    motors, target, speedConfig, config⟩
  rw [states]
  simp only [Likeness.onward, Both.map, RegulatorState.later_zero]

theorem begun_alike (drive other : Drive α) (beside : Beside drive other) (primitive : Primitive α) :
    (Likeness.onward drive.world other.world beside.ahead).Drives (primitive.begun drive)
      (primitive.begun other) := by
  have cleared : World.Onward drive.world other.world (drive.world.preset (.const 0))
      (other.world.preset (.const 0)) := by
    obtain ⟨positions, same⟩ := beside.chassis
    refine ⟨(drive.world.preset (.const 0)).toChassis, {}, ?_, ?_⟩
    · rw [World.continued_blank]
      rfl
    · rw [World.continued_blank]
      simp only [World.preset, same]
      rfl
  have said := World.onward_say _ _ _ _ beside.ahead cleared .info .drive primitive.name
  rw [Primitive.begun, Primitive.begun, Course.begun_start, Course.begun_start, beside.config]
  exact Likeness.start _ _ _ _ said beside.motors beside.speedConfig beside.config

-- A duty that both motors remember as 0 is no difference.
omit [Scalar α] in
theorem motors_same (drive other : Drive α)
    (motors : ∀ side, (drive.speed.motors.get side).Twin (other.speed.motors.get side))
    (idle : drive.speed.duties = .const 0) (idleToo : other.speed.duties = .const 0) :
    other.speed.motors = drive.speed.motors := by
  have released : ∀ (drive : Drive α) side, drive.speed.duties = .const 0 →
      (drive.speed.motors.get side).duty = 0 := by
    intro drive side idle
    have duty := congrArg (Both.get · side) idle
    cases side <;> exact duty
  have same : ∀ side, other.speed.motors.get side = drive.speed.motors.get side := by
    intro side
    obtain ⟨duty, twin⟩ := motors side
    have zero := released other side idleToo
    rw [twin] at zero ⊢
    change duty = 0 at zero
    rw [zero, ← released drive side idle]
  exact congrArg₂ Both.mk (same .left) (same .right)

theorem run_idle (primitive : Primitive α) (drive after : Drive α) (outcome : Outcome)
    (unblocked : drive.isBlocked = false)
    (returned : primitive.run drive = .ok (some outcome) after) :
    after.speed.duties = .const 0 := by
  rw [primitive.run_unblocked drive unblocked] at returned
  obtain ⟨ended, stopped, value, _, halted, rfl⟩ := finish_ok _ _ _ _ _ returned
  exact stop_duties ended stopped value halted

-- Both motions come to the same result by the same writes, and what they leave differs in nothing but
-- the pasts and, after a fault, the duties that motors remember. One that never ends makes the same
-- writes all along.
theorem motion_starts_afresh (drive other : Drive α) (beside : Beside drive other)
    (unblocked : drive.isBlocked = false) (unblockedToo : other.isBlocked = false)
    (primitive : Primitive α) :
    Action.Matching (Sequel drive other) Eq (primitive.run drive) (primitive.run other) ∧
    (∀ outcome after last, primitive.run drive = .ok (some outcome) after →
      primitive.run other = .ok (some outcome) last →
      last.speed.motors = after.speed.motors) ∧
    ∀ rounds, Sequel drive other (primitive.underway rounds drive)
      (primitive.underway rounds other) := by
  have begun := begun_alike drive other beside primitive
  have sequel := fun after last => sequel_of_alike drive other after last beside.ahead
  have matched := Action.matching_mono sequel _ _ (Likeness.primitive_run _ primitive drive other
    beside.config begun unblocked unblockedToo)
  refine ⟨matched, ?_, fun rounds => sequel _ _ (Likeness.primitive_underway _ primitive drive other
    beside.config begun unblocked unblockedToo rounds)⟩
  intro outcome after last returned returnedToo
  have idle := run_idle primitive drive after outcome unblocked returned
  have idleToo := run_idle primitive other last outcome unblockedToo returnedToo
  rw [returned, returnedToo] at matched
  cases matched with
  | ok _ _ _ _ _ sequel => exact motors_same after last sequel.motors idle idleToo

-- A robot with everything that a motion may leave behind: counters that stand somewhere, wound up
-- regulators, a target, and a motor that remembers a duty it does not have.
def worn : Drive Float :=
  let drive := (parked 4 1000).after [.preset ⟨40, -7⟩]
  { drive with
    target := 3.0
    speed := { drive.speed with
      motors := drive.speed.motors.set .left { drive.speed.motors.left with duty := 300 }
      states := .const ⟨5.0, -2.0, 17⟩ } }

theorem worn_starts_afresh : Beside (parked 4 1000) worn ∧ (parked 4 1000).isBlocked = false ∧
    worn.isBlocked = false ∧
    Action.Matching (Sequel (parked 4 1000) worn) Eq
      ((Primitive.turnBy .left 30.0).run (parked 4 1000))
      ((Primitive.turnBy .left 30.0).run worn) := by
  have beside : Beside (parked 4 1000) worn := by
    refine ⟨⟨⟨40, -7⟩, rfl⟩, ⟨fun _ _ => rfl, rfl⟩, fun side => ?_, rfl, rfl⟩
    cases side with
    | left => exact ⟨300, rfl⟩
    | right => exact ⟨0, rfl⟩
  exact ⟨beside, rfl, rfl, (motion_starts_afresh _ worn beside rfl rfl (.turnBy .left 30.0)).1⟩

end Drive

end Rover
