import Rover.Proofs.Approach
import Rover.Proofs.Session

set_option autoImplicit false

namespace Rover

variable {α : Type} [Scalar α]

theorem Profile.distance_timeout_bound (speed : Int) (distance : α) :
    (distanceTimeout speed distance).toNat ≤ 30000 := by
  simp only [distanceTimeout]
  split
  · decide
  · generalize toMillis _ = millis
    change (if millis ≤ maxDistanceTimeout then millis else maxDistanceTimeout).toNat ≤ 30000
    by_cases small : millis ≤ maxDistanceTimeout
    · rw [if_pos small]
      exact UInt32.le_iff_toNat_le.mp small
    · rw [if_neg small]
      decide

omit [Scalar α] in
theorem SpeedControl.window_lt (config : SpeedConfig α) : window config < 4294967296 := by
  simp only [window, SpeedConfig.intervalMillis]
  omega

namespace Drive

def Near (motion : Motion α) (drive : Drive α) : Prop :=
  ∀ side, Scalar.abs (motion.target -
    drive.world.angles.get side * Scalar.ofInt (motion.heading.get side).sign) ≤ motion.tolerance

theorem has_arrived_iff (motion : Motion α) (drive : Drive α) :
    hasArrived motion drive = true ↔ drive.Near motion := by
  simp only [hasArrived, arrived, Bool.and_eq_true, decide_eq_true_eq]
  constructor
  · intro both side
    cases side with
    | left => exact both.1
    | right => exact both.2
  · intro near
    exact ⟨near .left, near .right⟩

theorem near_still (motion : Motion α) (before after : Drive α)
    (wheels : after.world.wheels = before.world.wheels) :
    after.Near motion ↔ before.Near motion := by
  simp only [Near, World.angles, wheels]

theorem verdict_converged_iff (motion : Motion α) (drive : Drive α) :
    verdict motion drive = .converged ↔ drive.Near motion := by
  rw [← has_arrived_iff, verdict]
  by_cases there : hasArrived motion drive
  · simp [there]
  · simp [there]

theorem move_truthful (heading : Heading) (speed : Int) (distance : α) (drive : Drive α) :
    Action.Told Drive.world drive (Action.final (move heading speed distance) drive)
      (Action.fault? (move heading speed distance) drive) := by
  simp only [Action.final, Action.fault?, move_apply]
  exact unless_blocked_truthful _ _ (finish_truthful 0 _ (converge_truthful _)) drive

theorem distance_fits (heading : Heading) (speed : Int) (distance : α) (drive : Drive α)
    (rounds : Nat) (early : rounds * SpeedControl.window drive.speed.config <
      (distanceMotion drive.config heading speed distance).timeout.toNat) :
    (rounds + 1) * SpeedControl.window drive.speed.config < 4294967296 := by
  have bound : (distanceMotion drive.config heading speed distance).timeout.toNat ≤ 30000 :=
    Profile.distance_timeout_bound speed distance
  have narrow := SpeedControl.window_lt drive.speed.config
  generalize SpeedControl.window drive.speed.config = window at early narrow ⊢
  cases rounds with
  | zero => omega
  | succ count =>
      have one : window ≤ (count + 1) * window := Nat.le_mul_of_pos_left _ (Nat.succ_pos count)
      rw [Nat.add_mul, Nat.one_mul]
      omega

-- What a distance move came to after a number of rounds, each of them one run of the speed control.
-- The stop at its end takes no time and leaves the wheels where they are.
structure Travelled (motion : Motion α) (drive : Drive α) (rounds : Nat) (outcome : Outcome)
    (after : Drive α) : Prop where
  ran : ∃ level text, after =
    (stopped ((followed motion (drive.say .info "move") rounds).2.say level text)).say .info
      outcome.name
  clock : after.world.now =
    drive.world.now + UInt32.ofNat (rounds * SpeedControl.window drive.speed.config)
  short : rounds * SpeedControl.window drive.speed.config <
    motion.timeout.toNat + SpeedControl.window drive.speed.config
  immediate : motion.timeout = 0 → rounds = 0
  converged : outcome = .converged ↔ after.Near motion
  timedOut : ¬ after.Near motion → outcome = .timedOut ∧
    motion.timeout.toNat ≤ rounds * SpeedControl.window drive.speed.config
  first : ∀ earlier < rounds,
    ¬ (followed motion (drive.say .info "move") earlier).2.Near motion ∧
      earlier * SpeedControl.window drive.speed.config < motion.timeout.toNat

theorem travelled_of_first (motion : Motion α) (drive : Drive α) (rounds : Nat) (level : Level)
    (text : String)
    (first : ∀ earlier < rounds,
      hasArrived motion (followed motion (drive.say .info "move") earlier).2 = false ∧
        earlier * SpeedControl.window drive.speed.config < motion.timeout.toNat)
    (due : hasArrived motion (followed motion (drive.say .info "move") rounds).2 = true ∨
      motion.timeout.toNat ≤ rounds * SpeedControl.window drive.speed.config) :
    Travelled motion drive rounds
      (verdict motion (followed motion (drive.say .info "move") rounds).2)
      ((stopped ((followed motion (drive.say .info "move") rounds).2.say level text)).say .info
        (verdict motion (followed motion (drive.say .info "move") rounds).2).name) := by
  have now := now_followed motion (drive.say .info "move") rounds
  generalize reachedEq : (followed motion (drive.say .info "move") rounds).2 = reached at now due ⊢
  have halted := stop_over (reached.say level text)
  have still := World.touched_still _ _ halted.speed.world
  have near : ((stopped (reached.say level text)).say .info (verdict motion reached).name).Near
      motion ↔ reached.Near motion := near_still motion _ _ still.2
  refine ⟨⟨level, text, by rw [reachedEq]⟩, still.1.trans now, ?_, ?_, ?_, ?_, ?_⟩
  · cases rounds with
    | zero =>
        have positive : 1 ≤ SpeedControl.window drive.speed.config := Nat.le_max_right _ _
        omega
    | succ count =>
        have early := (first count (Nat.lt_succ_self count)).2
        rw [Nat.add_mul, Nat.one_mul]
        omega
  · intro zero
    cases rounds with
    | zero => rfl
    | succ count =>
        have early := (first count (Nat.lt_succ_self count)).2
        rw [zero] at early
        exact absurd early (Nat.not_lt_zero _)
  · rw [near, verdict_converged_iff]
  · intro away
    rw [near, ← has_arrived_iff] at away
    exact ⟨by simp [verdict, away], due.resolve_left away⟩
  · intro earlier below
    rw [← has_arrived_iff, (first earlier below).1]
    exact ⟨Bool.false_ne_true, (first earlier below).2⟩

theorem distance_move_contract (heading : Heading) (speed : Int) (distance : α) (drive : Drive α)
    (unblocked : drive.isBlocked = false)
    (taken : ∀ write ∈ (Action.final (move heading speed distance) drive).world.writesSince
      drive.world, write.accepted = true) :
    ∃ (rounds : Nat) (outcome : Outcome) (after : Drive α),
      move heading speed distance drive = .ok (some outcome) after ∧
        Travelled (distanceMotion drive.config heading speed distance) drive rounds outcome after := by
  have clean : Action.fault? (move heading speed distance) drive = none := by
    rw [(move_truthful heading speed distance drive).fault, first_refused_none_iff]
    exact taken
  obtain ⟨rounds, first, due, ended⟩ :=
    converge_first (distanceMotion drive.config heading speed distance) (drive.say .info "move")
      (distance_fits heading speed distance drive)
  have entered : move heading speed distance drive =
      finish 0 (converge (distanceMotion drive.config heading speed distance))
        (drive.say .info "move") := by
    rw [move_apply, unless_blocked_apply, if_neg (by simp [unblocked])]
  rw [Action.fault?, entered, finish_apply] at clean
  rw [entered, finish_apply]
  rcases ended with ⟨fault, next, failed⟩ | ⟨level, text, ended⟩
  · rw [failed] at clean
    cases clean
  · rw [ended] at clean ⊢
    have travelled := travelled_of_first _ drive rounds level text first due
    simp only [stopped, Action.final] at travelled
    cases came : stop ((followed (distanceMotion drive.config heading speed distance)
        (drive.say .info "move") rounds).2.say level text) with
    | error fault next =>
        simp only [came] at clean
        cases clean
    | ok value next =>
        simp only [came] at travelled ⊢
        exact ⟨rounds, _, _, rfl, travelled⟩

-- A move of about one tick of a coarse encoder, which takes two windows.
def nudge : Primitive Float := .moveAt .forward 65 4.69

def nudged : Motion Float :=
  distanceMotion (parked 4 1000).config ((Heading.straight .forward).along (4.69 : Float)) 65
    (Scalar.abs (4.69 : Float))

theorem nudge_within : Action.returns (nudge.runWithin 3 (parked 4 1000)) = true ∧
    (∀ write ∈ (Action.landing (nudge.runWithin 3 (parked 4 1000))).world.writesSince
      (parked 4 1000).world, write.accepted = true) ∧
    hasArrived nudged (Action.landing (nudge.runWithin 3 (parked 4 1000))) = true ∧
    (Action.landing (nudge.runWithin 3 (parked 4 1000))).world.now = 2 := by
  decide +kernel

theorem nudge_travelled : (parked 4 1000).isBlocked = false ∧
    (∀ write ∈ (Action.final nudge.run (parked 4 1000)).world.writesSince (parked 4 1000).world,
      write.accepted = true) ∧
    ∃ after, nudge.run (parked 4 1000) = .ok (some .converged) after ∧
      Travelled nudged (parked 4 1000) 2 .converged after := by
  obtain ⟨ended, accepted, arrived, now⟩ := nudge_within
  rw [← nudge.run_eq_within 3 (parked 4 1000) ended] at accepted arrived now
  refine ⟨rfl, accepted, ?_⟩
  obtain ⟨rounds, outcome, after, ran, travelled⟩ :=
    distance_move_contract _ 65 _ (parked 4 1000) rfl accepted
  have last : Action.landing (nudge.run (parked 4 1000)) = after := congrArg Action.landing ran
  rw [last] at arrived now
  have converged : outcome = .converged := travelled.converged.mpr ((has_arrived_iff _ _).mp arrived)
  have windows : rounds = 2 := by
    have clock := travelled.clock
    have short := travelled.short
    have bound := Profile.distance_timeout_bound 65 (Scalar.abs (4.69 : Float))
    have window : SpeedControl.window (parked 4 1000).speed.config = 1 := rfl
    have begun : (parked 4 1000).world.now = 0 := rfl
    simp only [distanceMotion] at short
    generalize (Profile.distanceTimeout 65 (Scalar.abs (4.69 : Float))).toNat = limit at bound short
    rw [now, window, Nat.mul_one, begun, UInt32.zero_add] at clock
    rw [window, Nat.mul_one] at short
    have fits : rounds < 4294967296 := by omega
    have rounded := congrArg UInt32.toNat clock
    rw [UInt32.toNat_ofNat_of_lt' fits] at rounded
    exact rounded.symm
  subst converged windows
  exact ⟨after, ran, travelled⟩

end Drive

end Rover
