import Rover.Proofs.Blocking

/-!
The errors of the speed control are counted against the journal, those of the drive against the
motions whose loops a fault ended.
-/

set_option autoImplicit false

namespace Rover

variable {α : Type}

namespace Log

variable (log : Log) (level : Level) (source : Source) (text : String)

@[simp] theorem threshold_say : (log.say level source text).threshold = log.threshold := by
  simp only [say]
  split <;> rfl

theorem count_say_same (heard : level.passes log.threshold = true) :
    (log.say level source text).count level source = log.count level source + 1 := by
  simp [say, count, heard]

theorem count_say_other (told : Level) (teller : Source)
    (other : ¬ (level = told ∧ source = teller)) :
    (log.say level source text).count told teller = log.count told teller := by
  simp only [say]
  split
  · simp [count, other]
  · rfl

end Log

namespace World

def refusals (world : World α) : Nat := world.journal.countP fun write => !write.accepted

theorem refusals_noted (world : World α) (channel : Channel) (duty : Nat) (accepted : Bool) :
    (world.noted channel duty accepted).refusals = world.refusals + (!accepted).toNat := by
  cases accepted <;> simp [refusals, noted]

structure Tally (aborted : Nat) (world : World α) : Prop where
  heard : Level.error.passes world.log.threshold = true
  refused : world.log.count .error .speedControl = world.refusals
  aborted : world.log.count .error .drive = aborted

theorem tally_same (aborted : Nat) (before after : World α) (log : after.log = before.log)
    (journal : after.journal = before.journal) (tally : before.Tally aborted) :
    after.Tally aborted := by
  refine ⟨?_, ?_, ?_⟩
  · rw [log]
    exact tally.heard
  · rw [log, tally.refused]
    simp only [refusals, journal]
  · rw [log]
    exact tally.aborted

theorem tally_say (aborted : Nat) (world : World α) (level : Level) (source : Source)
    (text : String) (beside : level = .error → source ≠ .speedControl ∧ source ≠ .drive)
    (tally : world.Tally aborted) : (world.say level source text).Tally aborted := by
  refine ⟨?_, ?_, ?_⟩
  · simpa [say] using tally.heard
  · refine (Log.count_say_other _ _ _ _ _ _ fun same => ?_).trans tally.refused
    exact (beside same.1).1 same.2
  · refine (Log.count_say_other _ _ _ _ _ _ fun same => ?_).trans tally.aborted
    exact (beside same.1).2 same.2

theorem tally_aborted (aborted : Nat) (world : World α) (text : String)
    (tally : world.Tally aborted) : (world.say .error .drive text).Tally (aborted + 1) := by
  refine ⟨?_, ?_, ?_⟩
  · simpa [say] using tally.heard
  · refine (Log.count_say_other _ _ _ _ _ _ fun same => ?_).trans tally.refused
    cases same.2
  · refine (Log.count_say_same _ _ _ _ tally.heard).trans ?_
    rw [tally.aborted]

def Tallies (before after : World α) : Prop :=
  ∀ aborted, before.Tally aborted → after.Tally aborted

theorem tallies_refl (world : World α) : Tallies world world := fun _ tally => tally

theorem tallies_trans (first second third : World α) (one : Tallies first second)
    (two : Tallies second third) : Tallies first third :=
  fun aborted tally => two aborted (one aborted tally)

-- What a command of a motor leaves to be told: a refused write, if that was its end.
structure Owes (before after : World α) (fault : Option PwmFault) : Prop where
  threshold : after.log.threshold = before.log.threshold
  silent : ∀ source, after.log.count .error source = before.log.count .error source
  refusals : after.refusals = before.refusals + fault.isSome.toNat

def Owing {β : Type} (action : Action (World α) β) : Prop :=
  ∀ world, Owes world (Action.final action world) (Action.fault? action world)

theorem tally_paid (aborted : Nat) (before after : World α) (owes : Owes before after none)
    (tally : before.Tally aborted) : after.Tally aborted := by
  refine ⟨?_, ?_, ?_⟩
  · rw [owes.threshold]
    exact tally.heard
  · rw [owes.silent, tally.refused, owes.refusals]
    rfl
  · rw [owes.silent, tally.aborted]

theorem tally_owed (aborted : Nat) (before after : World α) (fault : PwmFault) (text : String)
    (owes : Owes before after (some fault)) (tally : before.Tally aborted) :
    (after.say .error .speedControl text).Tally aborted := by
  have heard : Level.error.passes after.log.threshold = true := by
    rw [owes.threshold]
    exact tally.heard
  refine ⟨?_, ?_, ?_⟩
  · simpa [say] using heard
  · refine (Log.count_say_same _ _ _ _ heard).trans ?_
    rw [owes.silent, tally.refused]
    exact owes.refusals.symm
  · refine (Log.count_say_other _ _ _ _ _ _ fun same => ?_).trans
      ((owes.silent _).trans tally.aborted)
    cases same.2

theorem owes_trans (first second third : World α) (fault : Option PwmFault)
    (one : Owes first second none) (two : Owes second third fault) : Owes first third fault := by
  refine ⟨two.threshold.trans one.threshold,
    fun source => (two.silent source).trans (one.silent source), ?_⟩
  rw [two.refusals, one.refusals]
  rfl

theorem owing_bind {β γ : Type} (first : Action (World α) β) (rest : β → Action (World α) γ)
    (head : Owing first) (tail : ∀ value, Owing (rest value)) : Owing (first >>= rest) := by
  intro world
  have owes := head world
  rw [Action.final_bind, Action.fault_bind]
  simp only [Action.final, Action.fault?] at owes
  rcases came : first world with ⟨value, next⟩ | ⟨fault, next⟩ <;> rw [came] at owes
  · exact owes_trans _ _ _ _ owes (tail value next)
  · exact owes

theorem owing_pure {β : Type} (value : β) : Owing (pure value : Action (World α) β) :=
  fun _ => ⟨rfl, fun _ => rfl, rfl⟩

theorem owing_write (channel : Channel) (duty : Nat) :
    Owing (write channel duty : Action (World α) Unit) := by
  intro world
  simp only [Action.final, Action.fault?]
  rw [write_apply]
  by_cases refused : world.failing world.moment channel
  · rw [if_pos refused]
    exact ⟨rfl, fun _ => rfl, refusals_noted world channel duty false⟩
  · rw [if_neg refused]
    exact ⟨rfl, fun _ => rfl, refusals_noted world channel duty true⟩

end World

namespace Motor

open World

theorem owing_load (motor : Motor) (idle : Direction) (duty : Nat) :
    Owing (motor.load idle duty : Action (World α) Unit) :=
  owing_bind _ _ (owing_write _ _) fun _ => owing_write _ _

theorem owing_stop (motor : Motor) : Owing (motor.stop : Action (World α) Motor) := by
  rw [stop_eq]
  exact owing_bind _ _ (owing_load motor _ _) fun _ => owing_pure _

theorem owing_drive (motor : Motor) (duty : Int) :
    Owing (motor.drive duty : Action (World α) Motor) := by
  rw [drive_eq]
  refine owing_bind _ _ (fun world => ?_) fun _ => ?_
  · refine ⟨Log.threshold_say _ _ _ _, fun source => ?_, rfl⟩
    exact Log.count_say_other _ _ _ _ _ _ fun same => by cases same.1
  · exact owing_bind _ _ (owing_load motor _ _) fun _ => owing_pure _

end Motor

namespace SpeedControl

theorem command_tallies (side : Side) (action : Motor → Action (World α) Motor)
    (owing : ∀ motor, World.Owing (action motor)) (control : SpeedControl α) :
    World.Tallies control.world (Action.final (command side action) control).world := by
  intro aborted tally
  have owes := owing (control.motors.get side) control.world
  simp only [Action.final, Action.fault?] at owes ⊢
  simp only [command]
  rcases came : action (control.motors.get side) control.world with ⟨motor, world⟩ | ⟨fault, world⟩ <;>
    rw [came] at owes
  · exact World.tally_paid aborted _ world owes tally
  · exact World.tally_owed aborted _ world fault _ owes tally

theorem drive_wheel_tallies (side : Side) (duty : Int) :
    Action.Keeps (Over World.Tallies) (driveWheel side duty : Action (SpeedControl α) Unit) :=
  fun control =>
    have kept := drive_wheel_over side duty control
    ⟨command_tallies side _ (fun motor => motor.owing_drive duty) control, kept.config, kept.sides⟩

theorem stop_wheel_tallies (side : Side) :
    Action.Keeps (Over World.Tallies) (stopWheel side : Action (SpeedControl α) Unit) :=
  fun control =>
    have kept := stop_wheel_over side control
    ⟨command_tallies side _ (fun motor => motor.owing_stop) control, kept.config, kept.sides⟩

theorem drive_tallies (duties : Both Int) :
    Action.Keeps (Over World.Tallies) (drive duties : Action (SpeedControl α) Unit) :=
  keeps_drive World.tallies_trans drive_wheel_tallies duties

theorem stop_tallies :
    Action.Keeps (Over World.Tallies) (stop : Action (SpeedControl α) Unit) :=
  keeps_stop World.tallies_refl World.tallies_trans stop_wheel_tallies

end SpeedControl

theorem Drive.stop_tallies :
    Action.Keeps (Over World.Tallies) (stop : Action (Drive α) Unit) :=
  on_speed_over _ _ SpeedControl.stop_tallies

theorem World.set_duty_untold (world : World α) (channel : Channel) (duty : Nat) :
    (Action.final (setDuty channel duty) world).log = world.log ∧
      (Action.final (setDuty channel duty) world).journal = world.journal := by
  simp only [Action.final, setDuty]
  split <;> exact ⟨rfl, rfl⟩

variable [Scalar α]

theorem World.tallies_steady : Steady (Tallies : World α → World α → Prop) where
  refl := tallies_refl
  trans := tallies_trans
  tick world aborted tally := tally_same aborted world _ rfl rfl tally
  say world _ _ _ quiet aborted tally :=
    tally_say aborted world _ _ _ (fun error => absurd error quiet) tally
  wheel := SpeedControl.drive_wheel_tallies

theorem World.tally_delay (aborted millis : Nat) (world : World α) (tally : world.Tally aborted) :
    (world.delay millis).Tally aborted :=
  steady_delay tallies_steady millis world aborted tally

-- A fault of the loop is told, after the stop; one that only the stop meets is not told again.
theorem Drive.finish_tally (settle aborted : Nat) (motion : Action (Drive α) (Option Outcome))
    (drive : Drive α) (looped : (Action.final motion drive).world.Tally aborted) :
    (Action.final (finish settle motion) drive).world.Tally
      (aborted + (Action.fault? motion drive).isSome.toNat) := by
  simp only [Action.final, Action.fault?] at looped ⊢
  rw [finish_apply]
  rcases came : motion drive with ⟨none | outcome, ended⟩ | ⟨fault, ended⟩ <;>
    rw [came] at looped
  · exact looped
  · have halted := (stop_tallies ended).speed.world aborted looped
    simp only [Action.final] at halted
    dsimp only [Action.landing]
    rcases came : stop ended with ⟨_, stopped⟩ | ⟨fault, stopped⟩ <;> rw [came] at halted
    · have settled := World.tally_delay aborted settle _ halted
      exact World.tally_say aborted _ .info .drive _ (by decide) settled
    · exact halted
  · have halted := (stop_tallies ended).speed.world aborted looped
    exact World.tally_aborted aborted _ _ halted

namespace Primitive

variable (primitive : Primitive α) (drive : Drive α)

def aborts : Bool :=
  !drive.isBlocked && (Action.fault? (primitive.course drive.config).loop
    (drive.say .info primitive.name)).isSome

theorem aborts_blocked (blocked : drive.isBlocked = true) : primitive.aborts drive = false := by
  rw [aborts, blocked]
  rfl

theorem aborts_unblocked (unblocked : drive.isBlocked = false) : primitive.aborts drive =
    (Action.fault? (primitive.course drive.config).loop
      (drive.say .info primitive.name)).isSome := by
  rw [aborts, unblocked]
  rfl

theorem begun_tally (aborted : Nat) (tally : drive.world.Tally aborted) :
    (primitive.begun drive).world.Tally aborted := by
  rw [begun, Course.begun_start]
  have named := World.tally_say aborted drive.world .info .drive primitive.name (by decide) tally
  exact World.tally_same aborted (drive.world.say .info .drive primitive.name) _ rfl rfl named

theorem underway_tally (aborted rounds : Nat) (tally : drive.world.Tally aborted) :
    (primitive.underway rounds drive).world.Tally aborted := by
  cases blocked : drive.isBlocked with
  | true =>
      rw [underway, if_pos blocked]
      exact tally
  | false =>
      rw [underway, if_neg (by simp [blocked])]
      exact ((primitive.course drive.config).steady_underway World.tallies_steady rounds
        _).speed.world aborted (primitive.begun_tally drive aborted tally)

theorem run_tally (aborted : Nat) (tally : drive.world.Tally aborted) :
    (Action.final primitive.run drive).world.Tally
      (aborted + (primitive.aborts drive).toNat) := by
  cases blocked : drive.isBlocked with
  | true =>
      rw [primitive.aborts_blocked drive blocked, Action.final, primitive.run_blocked drive blocked]
      exact World.tally_say aborted drive.world .warn .drive _ (by decide) tally
  | false =>
      have looped := ((primitive.course drive.config).steady_loop World.tallies_steady
        _).speed.world aborted (primitive.begun_tally drive aborted tally)
      have finished := Drive.finish_tally primitive.settle aborted _ _ looped
      simp only [Action.final] at finished ⊢
      rw [primitive.aborts_unblocked drive blocked, primitive.run_unblocked drive blocked]
      exact finished

end Primitive

theorem Action.reached_of_fails {σ β γ : Type} (round : Action.Round σ β γ) (given : γ)
    (state after : σ) (fault : PwmFault)
    (failed : Action.rounds round given state = .error fault after) :
    ∃ limit, Action.reached round limit given state = after := by
  simp only [Action.rounds] at failed
  cases came : Action.repeated round given state with
  | none =>
      rw [came] at failed
      cases failed
  | some result =>
      obtain ⟨limit, within⟩ := Action.within_of_repeated round given state result came
      refine ⟨limit, (Action.reached_of_within round limit given state result within).trans ?_⟩
      cases result with
      | ok value next =>
          rw [came] at failed
          cases failed
      | error cause next =>
          rw [came] at failed
          cases failed
          rfl

theorem Course.underway_of_fails (course : Course α) (drive after : Drive α) (fault : PwmFault)
    (failed : course.loop drive = .error fault after) :
    ∃ rounds, course.underway rounds drive = after := by
  cases course with
  | toward motion => exact Action.reached_of_fails _ _ _ after fault failed
  | lasting heading seconds => exact Action.reached_of_fails _ _ _ after fault failed

theorem Primitive.aborts_iff (primitive : Primitive α) (drive : Drive α) :
    primitive.aborts drive = true ↔
      ∃ rounds, ∃ write ∈ (primitive.underway rounds drive).world.writesSince drive.world,
        write.accepted = false := by
  cases blocked : drive.isBlocked with
  | true =>
      rw [primitive.aborts_blocked drive blocked]
      refine ⟨fun never => Bool.noConfusion never, ?_⟩
      rintro ⟨rounds, write, member, _⟩
      simp [underway, blocked] at member
  | false =>
      rw [primitive.aborts_unblocked drive blocked]
      simp only [underway, blocked, Bool.false_eq_true, if_false]
      constructor
      · intro aborted
        obtain ⟨fault, failed⟩ := Option.isSome_iff_exists.mp aborted
        have told := (primitive.course drive.config).loop_truthful (drive.say .info primitive.name)
        simp only [Action.final, Action.fault?] at failed told
        cases came : (primitive.course drive.config).loop (drive.say .info primitive.name) with
        | ok outcome after =>
            rw [came] at failed
            cases failed
        | error cause after =>
            rw [came] at told
            obtain ⟨write, member, refused, _⟩ := first_refused_some _ cause told.fault.symm
            obtain ⟨rounds, reached⟩ := Course.underway_of_fails _ _ _ _ came
            exact ⟨rounds, write, by rw [reached]; exact member, refused⟩
      · rintro ⟨rounds, write, member, refused⟩
        obtain ⟨fault, first⟩ := first_refused_of_mem _ write member refused
        obtain ⟨next, failed⟩ := Course.loop_fails_of_underway _ rounds _ fault first
        simp only [Action.fault?, failed]
        rfl

namespace Call

def aborts : Call α → Drive α → Bool
  | motion primitive, drive => primitive.aborts drive
  | pause _, _ | stop, _ => false

variable (call : Call α) (drive : Drive α)

theorem aborts_iff : call.aborts drive = true ↔
    ∃ rounds, ∃ write ∈ (call.underway rounds drive).world.writesSince drive.world,
      write.accepted = false := by
  cases call with
  | motion primitive => exact primitive.aborts_iff drive
  | pause millis | stop =>
      refine ⟨fun never => Bool.noConfusion never, ?_⟩
      rintro ⟨rounds, write, member, _⟩
      simp [underway] at member

theorem underway_tally (aborted rounds : Nat) (tally : drive.world.Tally aborted) :
    (call.underway rounds drive).world.Tally aborted := by
  cases call with
  | motion primitive => exact primitive.underway_tally drive aborted rounds tally
  | pause millis | stop => exact tally

theorem act_tally (aborted : Nat) (tally : drive.world.Tally aborted) :
    (Action.final call.act drive).world.Tally (aborted + (call.aborts drive).toNat) := by
  cases call with
  | motion primitive => exact primitive.run_tally drive aborted tally
  | pause millis => exact World.tally_delay aborted millis drive.world tally
  | stop =>
      simpa [act, aborts, Drive.world] using (Drive.stop_tallies drive).speed.world aborted tally

end Call

def Pilot.aborted (begun : Call α × Drive α) : Bool := begun.1.aborts begun.2

omit [Scalar α] in
theorem Drive.entrusted_tally (drive : Drive α) (command : Command α) (aborted : Nat)
    (tally : drive.world.Tally aborted) : (drive.entrusted command).2.world.Tally aborted :=
  World.tally_say aborted drive.world .info .pilot _ (by decide) tally

theorem Drive.perform_tally (drive : Drive α) (command : Command α) (aborted : Nat)
    (tally : drive.world.Tally aborted) : (drive.perform command).2.world.Tally
      (aborted + (Pilot.aborted (drive.entrusted command)).toNat) := by
  have ran := command.call.act_tally _ aborted (drive.entrusted_tally command aborted tally)
  simp only [Action.final] at ran
  rw [perform_apply]
  rcases came : command.call.act (drive.entrusted command).2 with ⟨outcome, next⟩ | ⟨fault, next⟩ <;>
    rw [came] at ran
  · exact ran
  · exact World.tally_say _ next.world .error .pilot _ (by decide) ran

-- Everything that can be asked of a robot: of its speed control and its drive, which are also in the
-- hands of the world around it, and of its pilot.
inductive Deed (β : Type) where
  | step (step : Step β)
  | move (move : Move β)
  | finish

namespace Pilot

theorem aborted_once (begun : Call α × Drive α) :
    [begun].countP aborted = (aborted begun).toNat := by
  rw [List.countP_singleton, Bool.toNat, Bool.cond_eq_ite]

def worked : Nat → Pilot α → List (Call α × Drive α)
  | 0, _ => []
  | count + 1, pilot => pilot.next ++ worked count pilot.work

def asks (pilot : Pilot α) : Deed α → List (Call α × Drive α)
  | .step (.perform primitive) => [(.motion primitive, pilot.drive)]
  | .step _ => []
  | .move move => pilot.begins move
  | .finish => pilot.worked pilot.queue.length

def does (pilot : Pilot α) : Deed α → Pilot α
  | .step step => { pilot with drive := Action.final step.act pilot.drive }
  | .move move => pilot.make move
  | .finish => { drive := pilot.finish.2 }

def did (pilot : Pilot α) : List (Deed α) → Pilot α
  | [] => pilot
  | deed :: rest => (pilot.does deed).did rest

def asked (pilot : Pilot α) : List (Deed α) → List (Call α × Drive α)
  | [] => []
  | deed :: rest => pilot.asks deed ++ (pilot.does deed).asked rest

theorem step_tally (pilot : Pilot α) (step : Step α) (count : Nat)
    (tally : pilot.drive.world.Tally count) :
    (Action.final step.act pilot.drive).world.Tally
      (count + (pilot.asks (.step step)).countP aborted) := by
  have commanded : ∀ command : Action (SpeedControl α) Unit,
      Action.Keeps (SpeedControl.Over World.Tallies) command →
      (Action.final (Drive.onSpeed command >>= fun _ => pure Answer.done :
        Action (Drive α) (Answer α)) pilot.drive).world.Tally count := fun command kept =>
    (Action.keeps_bind_pure _ _ (Drive.on_speed_over _ _ kept) pilot.drive).speed.world count tally
  cases step with
  | run percents => exact commanded _ (SpeedControl.steady_run World.tallies_steady percents)
  | drive duties => exact commanded _ (SpeedControl.drive_tallies duties)
  | driveWheel side duty => exact commanded _ (SpeedControl.drive_wheel_tallies side duty)
  | stop => exact commanded _ SpeedControl.stop_tallies
  | stopWheel side => exact commanded _ (SpeedControl.stop_wheel_tallies side)
  | perform primitive =>
      rw [asks, aborted_once, Step.act, Action.final_bind_pure]
      exact primitive.run_tally pilot.drive count tally
  | speeds millis | speedOf _ millis | delay millis =>
      exact World.tally_delay count _ pilot.drive.world tally
  | setDuty channel duty =>
      obtain ⟨log, journal⟩ := pilot.drive.world.set_duty_untold channel duty
      simpa [Step.act, asks] using World.tally_same count pilot.drive.world _ log journal tally
  | resetRegulators | resetEncoders | elapsed _ | preset _ | fail _ | heal _ | block | unblock =>
      exact World.tally_same count pilot.drive.world _ rfl rfl tally

theorem work_tally (pilot : Pilot α) (count : Nat) (tally : pilot.drive.world.Tally count) :
    pilot.work.drive.world.Tally (count + pilot.next.countP aborted) := by
  simp only [work, next]
  cases pilot.queue with
  | nil => exact tally
  | cons command rest =>
      change World.Tally (count + [pilot.drive.entrusted command].countP aborted) _
      rw [aborted_once]
      exact pilot.drive.perform_tally command count tally

theorem worked_tally (pilot : Pilot α) (commands count : Nat)
    (tally : pilot.drive.world.Tally count) : (pilot.workMany commands).drive.world.Tally
      (count + (pilot.worked commands).countP aborted) := by
  induction commands generalizing pilot count with
  | zero => exact tally
  | succ left ih =>
      have later := ih _ _ (pilot.work_tally count tally)
      rwa [Nat.add_assoc, ← List.countP_append] at later

theorem drive_of_idle (pilot : Pilot α) (idle : pilot.work.reports = []) :
    pilot.drive = pilot.work.drive := by
  simp only [work] at idle ⊢
  cases queue : pilot.queue with
  | nil => rfl
  | cons command rest => simp [queue] at idle

theorem received_drive (pilot : Pilot α) : (pilot.make .receive).drive =
    if pilot.reports.isEmpty then pilot.work.drive else pilot.drive := by
  simp only [make, receive]
  by_cases none : pilot.reports.isEmpty
  · simp only [if_pos none, receive?]
    cases reports : pilot.work.reports with
    | nil => exact pilot.drive_of_idle reports
    | cons report rest => rfl
  · simp only [if_neg none, receive?]
    cases pilot.reports <;> rfl

theorem make_tally (pilot : Pilot α) (move : Move α) (count : Nat)
    (tally : pilot.drive.world.Tally count) : (pilot.make move).drive.world.Tally
      (count + (pilot.begins move).countP aborted) := by
  cases move with
  | call call =>
      rw [begins, aborted_once]
      exact call.act_tally pilot.drive count tally
  | send command => exact tally
  | work => exact pilot.work_tally count tally
  | receive =>
      rw [received_drive, begins]
      by_cases none : pilot.reports.isEmpty
      · rw [if_pos none, if_pos none]
        exact pilot.work_tally count tally
      · rw [if_neg none, if_neg none]
        exact tally

theorem does_tally (pilot : Pilot α) (deed : Deed α) (count : Nat)
    (tally : pilot.drive.world.Tally count) : (pilot.does deed).drive.world.Tally
      (count + (pilot.asks deed).countP aborted) := by
  cases deed with
  | step step => exact pilot.step_tally step count tally
  | move move => exact pilot.make_tally move count tally
  | finish =>
      have caught := pilot.worked_tally pilot.queue.length count tally
      exact World.tally_say _ pilot.catchUp.drive.world .info .pilot _ (by decide) caught

theorem did_tally (deeds : List (Deed α)) (pilot : Pilot α) (count : Nat)
    (tally : pilot.drive.world.Tally count) : (pilot.did deeds).drive.world.Tally
      (count + (pilot.asked deeds).countP aborted) := by
  induction deeds generalizing pilot count with
  | nil => exact tally
  | cons deed rest ih =>
      have later := ih _ _ (pilot.does_tally deed count tally)
      rwa [Nat.add_assoc, ← List.countP_append] at later

theorem fresh_tally (pulses : Nat) (plant : Plant) (response : α) (start : UInt32)
    (failing : Nat → Channel → Bool) (blocked : Nat → Bool) (level : Level)
    (speed : SpeedConfig α) (config : DriveConfig α) :
    (Drive.fresh pulses plant response start failing blocked (some level) speed config).world.Tally
      0 := by
  have heard : Level.error.passes (some level) = true := by cases level <;> rfl
  exact World.tally_say 0 _ .info .drive _ (by decide) ⟨heard, rfl, rfl⟩

def Upcoming (pilot : Pilot α) (begun : Call α × Drive α) : Prop :=
  begun.2 = pilot.drive ∨ begun ∈ pilot.next

omit [Scalar α] in
theorem upcoming_tally (pilot : Pilot α) (begun : Call α × Drive α) (count : Nat)
    (upcoming : pilot.Upcoming begun) (tally : pilot.drive.world.Tally count) :
    begun.2.world.Tally count := by
  rcases upcoming with own | entrusted
  · rw [own]
    exact tally
  · obtain ⟨command, _, rfl⟩ := List.mem_map.mp entrusted
    exact pilot.drive.entrusted_tally command count tally

structure Tells (pilot : Pilot α) (calls : List (Call α × Drive α)) : Prop where
  errors : pilot.drive.world.Tally (calls.countP aborted)
  -- Also in the middle of a call, be it a motion whose loop never ends.
  underway : ∀ begun, pilot.Upcoming begun → ∀ rounds,
    (begun.1.underway rounds begun.2).world.Tally (calls.countP aborted)
  -- The stop at the end of a motion is no part of its loop.
  aborted : ∀ begun ∈ calls, aborted begun = true ↔
    ∃ rounds, ∃ write ∈ (begun.1.underway rounds begun.2).world.writesSince begun.2.world,
      write.accepted = false

theorem refusals_told_once (pulses : Nat) (plant : Plant) (response : α) (start : UInt32)
    (failing : Nat → Channel → Bool) (blocked : Nat → Bool) (level : Level)
    (speed : SpeedConfig α) (config : DriveConfig α) (deeds : List (Deed α)) :
    let pilot : Pilot α :=
      { drive := .fresh pulses plant response start failing blocked (some level) speed config }
    (pilot.did deeds).Tells (pilot.asked deeds) := by
  intro pilot
  have begun : pilot.drive.world.Tally 0 :=
    fresh_tally pulses plant response start failing blocked level speed config
  have tally := did_tally deeds pilot 0 begun
  rw [Nat.zero_add] at tally
  refine ⟨tally, fun next upcoming rounds => ?_, fun next _ => next.1.aborts_iff next.2⟩
  exact next.1.underway_tally next.2 _ rounds (upcoming_tally _ next _ upcoming tally)

-- Both wheels refuse to stop, and the left one then refuses to be driven.
example :
    let drive : Drive Float := (Drive.fresh 4 (.constant 0) 1.0 0 (fun _ _ => true)
      (fun _ => false) (some .error) .standard .standard).after [.stop, .drive ⟨5, 5⟩]
    drive.world.refusals = 3 ∧ drive.world.log.count .error .speedControl = 3 ∧
      drive.world.log.count .error .drive = 0 := by
  decide +kernel

end Pilot

end Rover
