import Rover.Proofs.Journal
import Rover.Proofs.Rounds

/-!
Each round takes one measuring window, so the clock tells the rounds until it has gone all the way
round.
-/

set_option autoImplicit false

namespace Rover.Drive

variable {α : Type} [Scalar α]

def followed (motion : Motion α) (drive : Drive α) : Nat → Both (RegulatorState α) × Drive α
  | 0 => (.const ((drive.start motion.target).freshState motion.target), drive.start motion.target)
  | rounds + 1 =>
      let before := followed motion drive rounds
      match follow motion drive.world.now before.1 before.2 with
      | .ok states next => (states, next)
      | .error _ next => (before.1, next)

theorem followed_worked (motion : Motion α) (drive : Drive α) (rounds : Nat) :
    followed motion drive rounds = Action.worked (follow motion drive.world.now)
      (.const ((drive.start motion.target).freshState motion.target)) (drive.start motion.target)
      rounds := by
  induction rounds with
  | zero => rfl
  | succ count ih =>
      simp only [followed, Action.worked, ih]
      generalize follow motion drive.world.now _ _ = result
      cases result <;> rfl

theorem follow_lasts (motion : Motion α) (start : UInt32) (states : Both (RegulatorState α))
    (drive : Drive α) : World.Lasts (SpeedControl.window drive.speed.config) drive.world
      (Action.final (follow motion start states) drive).world := by
  generalize asked_eq : (drive.regulate motion start states).1 = asked
  have ran := SpeedControl.run_lasts asked
    (drive.noteStep.noteRound (drive.world.elapsed start) asked).speed
  have lasts : World.Lasts (SpeedControl.window drive.speed.config) drive.world _ :=
    World.lasts_from _ drive.world _ _ ran rfl rfl
  simpa [follow, asked_eq] using lasts

theorem worked_lasts {γ : Type} (work : γ → Action (Drive α) γ)
    (rolls : ∀ given, Action.Keeps (Over World.Rolls) (work given))
    (takes : ∀ given drive, World.Lasts (SpeedControl.window drive.speed.config) drive.world
      (Action.final (work given) drive).world)
    (given : γ) (drive : Drive α) (rounds : Nat) :
    World.Lasts (rounds * SpeedControl.window drive.speed.config) drive.world
      (Action.worked work given drive rounds).2.world := by
  induction rounds with
  | zero =>
      rw [Nat.zero_mul]
      exact World.lasts_touched _ _ .refl
  | succ count ih =>
      have config :=
        (Action.keeps_worked rolls_refl rolls_trans work rolls given drive count).speed.config
      have next := takes (Action.worked work given drive count).1
        (Action.worked work given drive count).2
      rw [config] at next
      rw [Action.worked_next, Nat.add_mul, Nat.one_mul]
      exact World.lasts_trans _ _ _ _ _ ih next

theorem followed_lasts (motion : Motion α) (drive : Drive α) (rounds : Nat) :
    World.Lasts (rounds * SpeedControl.window drive.speed.config) drive.world
      (followed motion drive rounds).2.world := by
  rw [followed_worked]
  exact World.lasts_from _ drive.world _ _ (worked_lasts _ (follow_rolls motion _)
    (follow_lasts motion _) _ (drive.start motion.target) rounds) rfl rfl

theorem now_followed (motion : Motion α) (drive : Drive α) (rounds : Nat) :
    (followed motion drive rounds).2.world.now =
      drive.world.now + UInt32.ofNat (rounds * SpeedControl.window drive.speed.config) :=
  (followed_lasts motion drive rounds).now

theorem elapsed_followed (motion : Motion α) (drive : Drive α) (rounds : Nat)
    (fits : rounds * SpeedControl.window drive.speed.config < 4294967296) :
    ((followed motion drive rounds).2.world.elapsed drive.world.now).toNat =
      rounds * SpeedControl.window drive.speed.config := by
  rw [World.elapsed, now_followed, UInt32.add_comm, UInt32.add_sub_cancel]
  exact UInt32.toNat_ofNat_of_lt' fits

def Underway (motion : Motion α) (start : UInt32) (drive : Drive α) : Prop :=
  hasArrived motion drive = false ∧ drive.world.elapsed start < motion.timeout

def verdict (motion : Motion α) (drive : Drive α) : Outcome :=
  if hasArrived motion drive then .converged else .timedOut

theorem steer_underway (motion : Motion α) (start : UInt32) (states : Both (RegulatorState α))
    (drive : Drive α) (underway : Underway motion start drive) :
    steer motion start states drive = match follow motion start states drive with
      | .ok kept next => .ok (.inr kept) next
      | .error fault next => .error fault next := by
  have away : ¬ hasArrived motion drive = true := by simp [underway.1]
  have early : ¬ motion.timeout ≤ drive.world.elapsed start := by
    simpa only [UInt32.not_le] using underway.2
  change (if hasArrived motion drive then _ else if motion.timeout ≤ drive.world.elapsed start
    then _ else _ : Action (Drive α) _) drive = _
  rw [if_neg away, if_neg early, Action.bind_apply]
  cases follow motion start states drive <;> rfl

theorem steer_ends (motion : Motion α) (start : UInt32) (states : Both (RegulatorState α))
    (drive : Drive α)
    (due : hasArrived motion drive = true ∨ motion.timeout ≤ drive.world.elapsed start) :
    ∃ level text, steer motion start states drive =
      .ok (.inl (verdict motion drive)) (drive.say level text) := by
  change ∃ level text, (if hasArrived motion drive then _ else if motion.timeout ≤
    drive.world.elapsed start then _ else _ : Action (Drive α) _) drive = _
  by_cases there : hasArrived motion drive
  · rw [if_pos there, verdict, if_pos there]
    exact ⟨_, _, rfl⟩
  · have late := due.resolve_left there
    rw [if_neg there, if_pos late, verdict, if_neg there]
    exact ⟨_, _, rfl⟩

theorem steer_guarded (motion : Motion α) (start : UInt32) :
    Action.Guarded (steer motion start) (follow motion start)
      (fun drive => hasArrived motion drive = true ∨ motion.timeout ≤ drive.world.elapsed start)
      (verdict motion) (fun drive next => ∃ level text, next = drive.say level text) := by
  refine ⟨fun states drive due => ?_, fun states drive early => ?_⟩
  · obtain ⟨level, text, ended⟩ := steer_ends motion start states drive due
    exact ⟨_, ⟨level, text, rfl⟩, ended⟩
  · rw [not_or, Bool.not_eq_true, UInt32.not_le] at early
    rw [steer_underway motion start states drive early, Action.bind_apply]
    cases follow motion start states drive <;> rfl

def onward (motion : Motion α) (drive : Drive α) (rounds : Nat) :
    Option (EStateM.Result PwmFault (Drive α) Outcome) :=
  Action.repeated (steer motion drive.world.now) (followed motion drive rounds).1
    (followed motion drive rounds).2

theorem onward_followed (motion : Motion α) (drive : Drive α) (rounds : Nat)
    (underway : ∀ earlier < rounds,
      Underway motion drive.world.now (followed motion drive earlier).2) :
    (∃ fault next, onward motion drive 0 = some (.error fault next)) ∨
      onward motion drive 0 = onward motion drive rounds := by
  simp only [onward]
  simp only [followed_worked] at underway ⊢
  apply Action.repeated_worked (steer_guarded motion drive.world.now)
  intro earlier below
  rw [not_or, Bool.not_eq_true, UInt32.not_le]
  exact underway earlier below

theorem converge_followed (motion : Motion α) (drive : Drive α) (rounds : Nat)
    (underway : ∀ earlier < rounds,
      Underway motion drive.world.now (followed motion drive earlier).2)
    (due : hasArrived motion (followed motion drive rounds).2 = true ∨
      motion.timeout ≤ (followed motion drive rounds).2.world.elapsed drive.world.now) :
    (∃ fault next, converge motion drive = .error fault next) ∨
      ∃ level text, converge motion drive =
        .ok (some (verdict motion (followed motion drive rounds).2))
          ((followed motion drive rounds).2.say level text) := by
  have entered : converge motion drive = Action.rounds (steer motion drive.world.now)
      (followed motion drive 0).1 (followed motion drive 0).2 := rfl
  have reached := onward_followed motion drive rounds underway
  rw [entered, Action.rounds]
  simp only [onward] at reached
  rcases reached with ⟨fault, next, failed⟩ | same
  · rw [failed]
    exact .inl ⟨fault, next, rfl⟩
  · obtain ⟨level, text, ended⟩ := steer_ends motion drive.world.now
      (followed motion drive rounds).1 _ due
    rw [same, Action.repeated, ended]
    exact .inr ⟨level, text, rfl⟩

-- The motion ends at the first round that finds it arrived or late. The clock cannot be read too
-- low at the deadline, as the window before it does not reach round to it.
theorem converge_first (motion : Motion α) (drive : Drive α)
    (fits : ∀ rounds, rounds * SpeedControl.window drive.speed.config < motion.timeout.toNat →
      (rounds + 1) * SpeedControl.window drive.speed.config < 4294967296) :
    ∃ rounds,
      (∀ earlier < rounds, hasArrived motion (followed motion drive earlier).2 = false ∧
        earlier * SpeedControl.window drive.speed.config < motion.timeout.toNat) ∧
      (hasArrived motion (followed motion drive rounds).2 = true ∨
        motion.timeout.toNat ≤ rounds * SpeedControl.window drive.speed.config) ∧
      ((∃ fault next, converge motion drive = .error fault next) ∨
        ∃ level text, converge motion drive =
          .ok (some (verdict motion (followed motion drive rounds).2))
            ((followed motion drive rounds).2.say level text)) := by
  generalize windowEq : SpeedControl.window drive.speed.config = window at fits ⊢
  have positive : 0 < window := by
    rw [← windowEq]
    exact Nat.lt_of_lt_of_le Nat.one_pos (Nat.le_max_right _ _)
  have exists_end : ∃ rounds, hasArrived motion (followed motion drive rounds).2 = true ∨
      motion.timeout.toNat ≤ rounds * window :=
    ⟨motion.timeout.toNat, .inr (Nat.le_mul_of_pos_right _ positive)⟩
  have first : ∀ earlier < Nat.find exists_end,
      hasArrived motion (followed motion drive earlier).2 = false ∧
        earlier * window < motion.timeout.toNat := by
    intro earlier below
    have running := Nat.find_min exists_end below
    rw [not_or, Bool.not_eq_true, Nat.not_le] at running
    exact running
  have elapsed : ∀ rounds ≤ Nat.find exists_end,
      ((followed motion drive rounds).2.world.elapsed drive.world.now).toNat = rounds * window := by
    intro rounds within
    have small : rounds * window < 4294967296 := by
      cases rounds with
      | zero => omega
      | succ count => exact fits count (first count within).2
    rw [← windowEq] at small ⊢
    exact elapsed_followed motion drive rounds small
  have underway : ∀ earlier < Nat.find exists_end,
      Underway motion drive.world.now (followed motion drive earlier).2 := by
    intro earlier below
    refine ⟨(first earlier below).1, ?_⟩
    rw [UInt32.lt_iff_toNat_lt, elapsed earlier (Nat.le_of_lt below)]
    exact (first earlier below).2
  have ends := Nat.find_spec exists_end
  refine ⟨Nat.find exists_end, first, ends, ?_⟩
  refine converge_followed motion drive _ underway (ends.imp_right fun late => ?_)
  rw [UInt32.le_iff_toNat_le, elapsed _ (Nat.le_refl _)]
  exact late

end Rover.Drive
