import Mathlib.Algebra.Order.Floor.Div
import Mathlib.Data.Int.GCD
import Rover.Proofs.DistanceMove

/-!
The clock of a motion is read once a window and wraps, so that it comes to some readings and never
to others. A motion whose deadline lies above all of them runs until it arrives.
-/

set_option autoImplicit false

namespace Rover

variable {α : Type} [Scalar α]

namespace Clock

def reading (window rounds : Nat) : Nat := rounds * window % 4294967296

-- The highest of all readings. They are the multiples of what the window and the wrap share.
def highest (window : Nat) : Nat := 4294967296 - Nat.gcd window 4294967296

theorem reading_le_highest (window rounds : Nat) : reading window rounds ≤ highest window := by
  have shared : Nat.gcd window 4294967296 ∣ reading window rounds :=
    (Nat.dvd_mod_iff (Nat.gcd_dvd_right _ _)).mpr
      (Nat.dvd_mul_left_of_dvd (Nat.gcd_dvd_left _ _) rounds)
  have below : reading window rounds < 4294967296 := Nat.mod_lt _ (by decide)
  have room := Nat.le_of_dvd (by omega) (Nat.dvd_sub (Nat.gcd_dvd_right window 4294967296) shared)
  simp only [highest]
  omega

theorem highest_read (window : Nat) (positive : 0 < window) (narrow : window < 4294967296) :
    ∃ rounds, reading window rounds = highest window := by
  have smaller := Nat.gcd_le_left 4294967296 positive
  have shared := Nat.gcd_pos_of_pos_left 4294967296 positive
  obtain ⟨unit, _, found⟩ := Nat.exists_mul_mod_eq_gcd (Nat.lt_of_le_of_lt smaller narrow)
  -- one unit reads what is shared, so one less than a whole turn of units reads its negation
  refine ⟨unit * 4294967295, ?_⟩
  have turned : unit * 4294967295 * window = window * unit * 4294967295 := by
    rw [Nat.mul_right_comm, Nat.mul_comm unit window]
  simp only [reading, highest]
  rw [turned, Nat.mul_mod, found]
  omega

theorem reached_iff (window deadline : Nat) (positive : 0 < window) (narrow : window < 4294967296) :
    (∃ rounds, deadline ≤ reading window rounds) ↔ deadline ≤ highest window := by
  constructor
  · intro reached
    obtain ⟨rounds, late⟩ := reached
    exact Nat.le_trans late (reading_le_highest window rounds)
  · intro below
    obtain ⟨rounds, top⟩ := highest_read window positive narrow
    exact ⟨rounds, by rw [top]; exact below⟩

theorem late_at_ceiling (window deadline : Nat) (positive : 0 < window)
    (fits : deadline ⌈/⌉ window * window < 4294967296) :
    deadline ≤ reading window (deadline ⌈/⌉ window) := by
  simp only [reading]
  rw [Nat.mod_eq_of_lt fits, Nat.mul_comm]
  exact (ceilDiv_le_iff_le_mul positive).mp (Nat.le_refl _)

-- The first late reading comes after as many windows as cover the deadline, unless the clock wraps
-- in the last of them.
theorem first_late_iff (window deadline rounds : Nat) (positive : 0 < window)
    (narrow : window < 4294967296) (late : deadline ≤ reading window rounds)
    (early : ∀ earlier < rounds, reading window earlier < deadline) :
    rounds = deadline ⌈/⌉ window ↔ deadline ⌈/⌉ window * window < 4294967296 := by
  have covers : deadline ⌈/⌉ window ≤ rounds := by
    rw [ceilDiv_le_iff_le_mul positive, Nat.mul_comm]
    exact Nat.le_trans late (Nat.mod_le _ _)
  constructor
  · intro onTime
    subst onTime
    cases count : deadline ⌈/⌉ window with
    | zero => omega
    | succ before =>
        have short : window * before < deadline := by
          rw [← Nat.not_le, ← ceilDiv_le_iff_le_mul positive, count]
          omega
        simp only [reading] at late
        rw [count, Nat.add_mul, Nat.one_mul, Nat.mul_comm before] at late
        rw [Nat.add_mul, Nat.one_mul, Nat.mul_comm before]
        omega
  · intro fits
    have notBefore := mt (early (deadline ⌈/⌉ window))
      (Nat.not_lt.mpr (late_at_ceiling window deadline positive fits))
    omega

theorem ceiling_below_highest (window deadline : Nat) (positive : 0 < window)
    (fits : deadline ⌈/⌉ window * window < 4294967296) : deadline ≤ highest window :=
  Nat.le_trans (late_at_ceiling window deadline positive fits) (reading_le_highest _ _)

end Clock

namespace Drive

def hold (heading : Heading) (start : UInt32) : Unit → Action (Drive α) Unit := fun _ => do
  let drive ← get
  let elapsed := drive.world.elapsed start
  let percents := timedPercents drive.config heading elapsed (drive.progress heading)
  set (drive.noteRound elapsed percents)
  onSpeed (SpeedControl.run percents)

def held (heading : Heading) (drive : Drive α) (rounds : Nat) : Drive α :=
  (Action.worked (hold heading drive.world.now) () (drive.start 0.0) rounds).2

theorem hold_rolls (heading : Heading) (start : UInt32) :
    Action.Keeps (Over World.Rolls) (hold heading start () : Action (Drive α) Unit) := by
  refine Action.keeps_get_bind _ fun drive => ?_
  exact Action.keeps_set_bind rolls_trans _ _ _ (note_round_rolls drive _ _) (run_rolls _)

theorem hold_lasts (heading : Heading) (start : UInt32) (drive : Drive α) :
    World.Lasts (SpeedControl.window drive.speed.config) drive.world
      (Action.final (hold heading start ()) drive).world := by
  generalize asked_eq : timedPercents drive.config heading (drive.world.elapsed start)
    (drive.progress heading) = asked
  have ran := SpeedControl.run_lasts asked (drive.noteRound (drive.world.elapsed start) asked).speed
  have lasts : World.Lasts (SpeedControl.window drive.speed.config) drive.world _ :=
    World.lasts_from _ drive.world _ _ ran rfl rfl
  simpa [hold, asked_eq] using lasts

theorem held_lasts (heading : Heading) (drive : Drive α) (rounds : Nat) :
    World.Lasts (rounds * SpeedControl.window drive.speed.config) drive.world
      (held heading drive rounds).world := by
  exact World.lasts_from _ drive.world _ _ (worked_lasts _ (fun _ => hold_rolls heading _)
    (fun _ => hold_lasts heading _) () (drive.start 0.0) rounds) rfl rfl

theorem cruise_guarded (heading : Heading) (period start : UInt32) :
    Action.Guarded (cruise heading period start : Action.Round (Drive α) Outcome Unit)
      (hold heading start) (fun drive => period ≤ drive.world.elapsed start)
      (fun _ => .completed) (fun drive next => ∃ level text, next = drive.say level text) := by
  refine ⟨fun _ drive late => ?_, fun _ drive early => ?_⟩
  · change ∃ next, _ ∧ (if period ≤ drive.world.elapsed start then _ else _ :
      Action (Drive α) (Outcome ⊕ Unit)) drive = _
    rw [if_pos late]
    exact ⟨_, ⟨_, _, rfl⟩, rfl⟩
  · change (if period ≤ drive.world.elapsed start then _ else _ :
      Action (Drive α) (Outcome ⊕ Unit)) drive = _
    rw [if_neg early]
    rfl

end Drive

namespace Course

def deadline : Course α → UInt32
  | toward motion => motion.timeout
  | lasting _ seconds => Profile.timedPeriod seconds

def worked (course : Course α) (drive : Drive α) (rounds : Nat) : Drive α :=
  match course with
  | toward motion => (Drive.followed motion drive rounds).2
  | lasting heading _ => Drive.held heading drive rounds

def Arrived (course : Course α) (drive : Drive α) : Prop :=
  match course with
  | toward motion => drive.Near motion
  | lasting _ _ => False

def outcome (course : Course α) (drive : Drive α) : Outcome :=
  match course with
  | toward motion => Drive.verdict motion drive
  | lasting _ _ => .completed

theorem worked_lasts (course : Course α) (drive : Drive α) (rounds : Nat) :
    World.Lasts (rounds * SpeedControl.window drive.speed.config) drive.world
      (course.worked drive rounds).world := by
  cases course with
  | toward motion => exact Drive.followed_lasts motion drive rounds
  | lasting heading seconds => exact Drive.held_lasts heading drive rounds

def Due (course : Course α) (drive : Drive α) (rounds : Nat) : Prop :=
  course.Arrived (course.worked drive rounds) ∨ course.deadline.toNat ≤
    Clock.reading (SpeedControl.window drive.speed.config) rounds

theorem late_iff (course : Course α) (drive : Drive α) (rounds : Nat) :
    course.deadline ≤ (course.worked drive rounds).world.elapsed drive.world.now ↔
      course.deadline.toNat ≤ Clock.reading (SpeedControl.window drive.speed.config) rounds := by
  rw [World.elapsed, (worked_lasts course drive rounds).now, UInt32.add_comm, UInt32.add_sub_cancel, UInt32.le_iff_toNat_le,
    UInt32.toNat_ofNat']
  rfl

theorem loop_ends (course : Course α) (drive : Drive α) :
    (∃ fault next, course.loop drive = .error fault next) ∨
      (∃ rounds, (∀ earlier < rounds, ¬ course.Due drive earlier) ∧ course.Due drive rounds ∧
        ∃ level text, course.loop drive = .ok (some (course.outcome (course.worked drive rounds)))
          ((course.worked drive rounds).say level text)) ∨
      ((∀ rounds, ¬ course.Due drive rounds) ∧ ∃ next, course.loop drive = .ok none next) := by
  simp only [Due, ← late_iff]
  cases course with
  | toward motion =>
      have ways := Action.rounds_guarded (Drive.steer_guarded motion drive.world.now)
        (.const ((drive.start motion.target).freshState motion.target)) (drive.start motion.target)
      simp only [← Drive.followed_worked, Drive.has_arrived_iff] at ways
      rcases ways with failed | ⟨rounds, early, due, next, ⟨level, text, rfl⟩, ended⟩ | ⟨never, endless⟩
      · exact .inl failed
      · exact .inr (.inl ⟨rounds, early, due, level, text, ended⟩)
      · exact .inr (.inr ⟨never, _, endless⟩)
  | lasting heading seconds =>
      have ways := Action.rounds_guarded
        (Drive.cruise_guarded heading (Profile.timedPeriod seconds) drive.world.now) ()
        (drive.start 0.0)
      simp only [Arrived, false_or]
      rcases ways with failed | ⟨rounds, early, due, next, ⟨level, text, rfl⟩, ended⟩ | ⟨never, endless⟩
      · exact .inl failed
      · exact .inr (.inl ⟨rounds, early, due, level, text, ended⟩)
      · exact .inr (.inr ⟨never, _, endless⟩)

def windows (course : Course α) (drive : Drive α) : Nat :=
  course.deadline.toNat ⌈/⌉ SpeedControl.window drive.speed.config

def Expires (course : Course α) (drive : Drive α) : Prop :=
  course.deadline.toNat ≤ Clock.highest (SpeedControl.window drive.speed.config) ∨
    ∃ rounds, course.Arrived (course.worked drive rounds)

theorem expires_iff (course : Course α) (drive : Drive α) :
    course.Expires drive ↔ ∃ rounds, course.Due drive rounds := by
  have positive : 0 < SpeedControl.window drive.speed.config := Nat.le_max_right _ _
  simp only [Expires, Due]
  rw [← Clock.reached_iff _ _ positive (SpeedControl.window_lt _), exists_or, or_comm]

theorem expires_of_fits (course : Course α) (drive : Drive α)
    (fits : course.windows drive * SpeedControl.window drive.speed.config < 4294967296) :
    course.Expires drive :=
  .inl (Clock.ceiling_below_highest _ _ (Nat.le_max_right _ _) fits)

structure Ended (course : Course α) (settle : Nat) (drive : Drive α) (rounds : Nat)
    (outcome : Outcome) (after : Drive α) : Prop where
  ran : ∃ level text, after =
    (((course.worked drive rounds).say level text).stopped.delay settle).say .info outcome.name
  clock : after.world.now = drive.world.now +
    UInt32.ofNat (rounds * SpeedControl.window drive.speed.config + settle)
  outcome : outcome = course.outcome (course.worked drive rounds)
  due : course.Due drive rounds
  first : ∀ earlier < rounds, ¬ course.Due drive earlier
  bounded : course.windows drive * SpeedControl.window drive.speed.config < 4294967296 →
    rounds ≤ course.windows drive
  inFull : ¬ course.Arrived (course.worked drive rounds) → (rounds = course.windows drive ↔
    course.windows drive * SpeedControl.window drive.speed.config < 4294967296)

theorem finished_lasts (course : Course α) (settle : Nat) (drive : Drive α) (rounds : Nat)
    (level : Level) (text said : String) :
    World.Lasts (rounds * SpeedControl.window drive.speed.config + settle) drive.world
      ((((course.worked drive rounds).say level text).stopped.delay settle).say .info
        said).world := by
  have halted := (Drive.stop_over ((course.worked drive rounds).say level text)).speed.world
  have touched : World.Touched (course.worked drive rounds).world
      ((course.worked drive rounds).say level text).stopped.world :=
    .head (.say _ _ _ _) halted
  have stopped := World.lasts_trans _ _ _ _ _ (course.worked_lasts drive rounds)
    (World.lasts_touched _ _ touched)
  have settled := World.lasts_trans _ _ _ _ _ stopped (World.lasts_delay settle _)
  exact World.lasts_trans _ 0 _ _ _ settled (World.lasts_touched _ _ (.single (.say _ _ _ _)))

theorem ended_of_due (course : Course α) (settle : Nat) (drive : Drive α) (rounds : Nat)
    (level : Level) (text : String) (due : course.Due drive rounds)
    (first : ∀ earlier < rounds, ¬ course.Due drive earlier) :
    course.Ended settle drive rounds (course.outcome (course.worked drive rounds))
      ((((course.worked drive rounds).say level text).stopped.delay settle).say .info
        (course.outcome (course.worked drive rounds)).name) := by
  have positive : 0 < SpeedControl.window drive.speed.config := Nat.le_max_right _ _
  have narrow := SpeedControl.window_lt drive.speed.config
  refine ⟨⟨level, text, rfl⟩, (course.finished_lasts settle drive rounds level text _).now, rfl,
    due, first, ?_, ?_⟩
  · intro fits
    by_contra beyond
    exact first _ (Nat.lt_of_not_le beyond) (.inr (Clock.late_at_ceiling _ _ positive fits))
  · intro away
    apply Clock.first_late_iff _ _ rounds positive narrow (due.resolve_left away)
    intro earlier below
    have running := first earlier below
    exact Nat.lt_of_not_le fun late => running (.inr late)

end Course

namespace Primitive

theorem run_clean (primitive : Primitive α) (drive : Drive α)
    (taken : ∀ write ∈ (Action.final primitive.run drive).world.writesSince drive.world,
      write.accepted = true) : Action.failure (primitive.run drive) = none := by
  have told := (primitive.run_truthful drive).fault
  rw [(first_refused_none_iff _).mpr taken] at told
  exact told

theorem run_ends (primitive : Primitive α) (drive : Drive α) (unblocked : drive.isBlocked = false)
    (clean : Action.failure (primitive.run drive) = none)
    (expires : (primitive.course drive.config).Expires (drive.say .info primitive.name)) :
    ∃ rounds outcome after, primitive.run drive = .ok (some outcome) after ∧
      (primitive.course drive.config).Ended primitive.settle (drive.say .info primitive.name)
        rounds outcome after := by
  rw [run_unblocked primitive drive unblocked, Drive.finish_apply] at clean
  rw [run_unblocked primitive drive unblocked, Drive.finish_apply]
  rcases (primitive.course drive.config).loop_ends (drive.say .info primitive.name) with
    ⟨fault, next, failed⟩ | ⟨rounds, first, due, level, text, ended⟩ | ⟨never, _⟩
  · rw [failed] at clean
    cases clean
  · have finished := Course.ended_of_due _ primitive.settle _ rounds level text due first
    rw [ended] at clean ⊢
    simp only [Drive.stopped, Action.final] at finished
    cases came : Drive.stop (((primitive.course drive.config).worked
        (drive.say .info primitive.name) rounds).say level text) with
    | error fault next =>
        simp only [came] at clean
        cases clean
    | ok value next =>
        simp only [came] at finished ⊢
        exact ⟨rounds, _, _, rfl, finished⟩
  · obtain ⟨rounds, due⟩ := (Course.expires_iff _ _).mp expires
    exact absurd due (never rounds)

theorem run_endless (primitive : Primitive α) (drive : Drive α)
    (unblocked : drive.isBlocked = false) (clean : Action.failure (primitive.run drive) = none)
    (endless : ¬ (primitive.course drive.config).Expires (drive.say .info primitive.name)) :
    Action.returns (primitive.run drive) = false := by
  rw [run_unblocked primitive drive unblocked, Drive.finish_apply] at clean
  rw [run_unblocked primitive drive unblocked, Drive.finish_apply]
  rcases (primitive.course drive.config).loop_ends (drive.say .info primitive.name) with
    ⟨fault, next, failed⟩ | ⟨rounds, _, due, _⟩ | ⟨_, next, never⟩
  · rw [failed] at clean
    cases clean
  · exact absurd ((Course.expires_iff _ _).mpr ⟨rounds, due⟩) endless
  · rw [never]
    rfl

-- A motion none of whose writes is refused ends when its deadline or its arrival says, as read on a
-- clock that wraps, and runs for ever when that clock comes to neither. In the ordinary range, where
-- the deadline is covered before the clock wraps, it always ends, and in time.
theorem ends_by_deadline (primitive : Primitive α) (drive : Drive α)
    (unblocked : drive.isBlocked = false)
    (taken : ∀ write ∈ (Action.final primitive.run drive).world.writesSince drive.world,
      write.accepted = true) :
    let course := primitive.course drive.config
    let entered := drive.say .info primitive.name
    (course.Expires entered → ∃ rounds outcome after,
      primitive.run drive = .ok (some outcome) after ∧
        course.Ended primitive.settle entered rounds outcome after) ∧
    (¬ course.Expires entered → Action.returns (primitive.run drive) = false) ∧
    (course.windows entered * SpeedControl.window entered.speed.config < 4294967296 →
      course.Expires entered) := by
  intro course entered
  have clean := primitive.run_clean drive taken
  refine ⟨?_, ?_, course.expires_of_fits entered⟩
  · exact primitive.run_ends drive unblocked clean
  · exact primitive.run_endless drive unblocked clean

def creep : Primitive Float := .moveFor .forward 0.003

theorem creep_within : Action.returns (creep.runWithin 4 (Drive.parked 4 1000)) = true ∧
    ∀ write ∈ (Action.landing (creep.runWithin 4 (Drive.parked 4 1000))).world.writesSince
      (Drive.parked 4 1000).world, write.accepted = true := by
  decide +kernel

theorem creep_deadline : (creep.course (Drive.parked 4 1000).config).deadline = 3 := by
  decide +kernel

theorem creep_ends : (Drive.parked 4 1000).isBlocked = false ∧
    (∀ write ∈ (Action.final creep.run (Drive.parked 4 1000)).world.writesSince
      (Drive.parked 4 1000).world, write.accepted = true) ∧
    ∃ after, creep.run (Drive.parked 4 1000) = .ok (some .completed) after ∧
      (creep.course (Drive.parked 4 1000).config).Ended creep.settle
        ((Drive.parked 4 1000).say .info creep.name) 3 .completed after := by
  have computed := creep.run_eq_within 4 (Drive.parked 4 1000) creep_within.1
  have taken : ∀ write ∈ (Action.final creep.run (Drive.parked 4 1000)).world.writesSince
      (Drive.parked 4 1000).world, write.accepted = true := by
    rw [Action.final, computed]
    exact creep_within.2
  have covered : (creep.course (Drive.parked 4 1000).config).windows
      ((Drive.parked 4 1000).say .info creep.name) = 3 := by
    rw [Course.windows, creep_deadline]
    rfl
  obtain ⟨ends, _, ordinary⟩ := ends_by_deadline creep (Drive.parked 4 1000) rfl taken
  rw [covered] at ordinary
  obtain ⟨rounds, outcome, after, ran, ended⟩ := ends (ordinary (by decide))
  have count := (ended.inFull id).mpr (by rw [covered]; decide)
  have completed : outcome = .completed := ended.outcome
  rw [covered] at count
  subst count completed
  exact ⟨rfl, taken, after, ran, ended⟩

-- A robot on the usual measuring window, none of whose channels fails, and a timed move without
-- end. The deadline is the highest number there is, but the clock is read every 50 milliseconds and
-- never shows an odd one.
def tireless : Drive Float :=
  Drive.fresh 2376 (.constant 1000000) 1.0 0 (fun _ _ => false) (fun _ => false) none
    { SpeedConfig.standard with maxSpeed := 1e300 } .standard

def endless : Primitive Float := .moveFor .forward (1.0 / 0.0)

theorem endless_deadline : (endless.course tireless.config).deadline = 4294967295 := by
  decide +kernel

theorem endless_never_expires :
    ¬ (endless.course tireless.config).Expires (tireless.say .info endless.name) := by
  intro expires
  rcases expires with reached | ⟨_, arrived⟩
  · rw [endless_deadline] at reached
    revert reached
    decide
  · exact arrived

theorem tireless_never_ends : tireless.Reachable ∧ tireless.isBlocked = false ∧
    (∀ write ∈ (Action.final endless.run tireless).world.writesSince tireless.world,
      write.accepted = true) ∧
    Action.returns (endless.run tireless) = false := by
  have taken := (World.evolves_accepted _ _ (endless.run_over tireless).speed.world
    (fun _ _ => rfl)).2
  exact ⟨.fresh _ _ _ _ _ _ _ _ _, rfl, taken,
    endless.run_endless tireless rfl (endless.run_clean tireless taken) endless_never_expires⟩

end Primitive

end Rover
