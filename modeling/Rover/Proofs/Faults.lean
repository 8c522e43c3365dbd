import Rover.Proofs.SafeStop

set_option autoImplicit false

namespace Rover

variable {α : Type}

theorem Motor.load_ok (motor : Motor) (idle : Direction) (duty : Nat) (world after : World α)
    (value : Unit) (loaded : motor.load idle duty world = .ok value after) :
    after = (world.noted ⟨motor.side, idle⟩ 0 true).noted ⟨motor.side, idle.flip⟩ duty true := by
  obtain ⟨_, released, first, second⟩ := Action.ok_of_bind _ _ _ _ _ loaded
  obtain ⟨_, rfl⟩ := World.write_ok _ _ _ _ _ first
  obtain ⟨_, rfl⟩ := World.write_ok _ _ _ _ _ second
  rfl

theorem Motor.stop_released (motor next : Motor) (world after : World α)
    (stopped : motor.stop world = .ok next after) :
    next.duty = 0 ∧ after.bridges = world.bridges.set motor.side {} := by
  rw [stop_eq] at stopped
  obtain ⟨_, _, loaded, returned⟩ := Action.ok_of_bind _ _ _ _ _ stopped
  have released := load_ok _ _ _ _ _ _ loaded
  cases returned
  refine ⟨rfl, ?_⟩
  rw [released]
  rcases motor with ⟨name, side, duty⟩
  cases side <;> rfl

namespace SpeedControl

theorem command_ok (side : Side) (action : Motor → Action (World α) Motor)
    (control next : SpeedControl α) (value : Unit)
    (ended : command side action control = .ok value next) :
    ∃ motor world, action (control.motors.get side) control.world = .ok motor world ∧
      next = { control with world, motors := control.motors.set side motor } := by
  simp only [command] at ended
  cases came : action (control.motors.get side) control.world with
  | error fault world =>
      rw [came] at ended
      cases ended
  | ok motor world =>
      rw [came] at ended
      cases ended
      exact ⟨motor, world, rfl, rfl⟩

theorem stop_wheel_duties (side : Side) (control next : SpeedControl α) (value : Unit)
    (stopped : stopWheel side control = .ok value next) :
    next.duties = control.duties.set side 0 := by
  obtain ⟨motor, world, came, rfl⟩ := command_ok side Motor.stop control next value stopped
  have idle := (Motor.stop_released _ _ _ _ came).1
  cases side <;> simp only [duties, Both.map, Both.set, idle]

theorem stop_wheel_bridges (side : Side) (control next : SpeedControl α) (value : Unit)
    (wired : control.Wired) (stopped : stopWheel side control = .ok value next) :
    next.world.bridges = control.world.bridges.set side {} := by
  obtain ⟨motor, world, came, rfl⟩ := command_ok side Motor.stop control next value stopped
  have released := (Motor.stop_released _ _ _ _ came).2
  rw [wired side] at released
  exact released

theorem stop_ok (control next : SpeedControl α) (value : Unit)
    (stopped : stop control = .ok value next) :
    ∃ middle, stopWheel .left control = .ok () middle ∧ stopWheel .right middle = .ok () next := by
  rw [stop_apply] at stopped
  cases came : stopWheel .left control with
  | error fault middle =>
      rw [came] at stopped
      cases stopped
  | ok _ middle =>
      rw [came] at stopped
      exact ⟨middle, rfl, stopped⟩

theorem stop_duties (control next : SpeedControl α) (value : Unit)
    (stopped : stop control = .ok value next) : next.duties = .const 0 := by
  obtain ⟨middle, left, right⟩ := stop_ok control next value stopped
  rw [stop_wheel_duties _ _ _ _ right, stop_wheel_duties _ _ _ _ left]
  rfl

theorem stop_released (control next : SpeedControl α) (value : Unit) (wired : control.Wired)
    (stopped : stop control = .ok value next) :
    next.world.bridges = .const {} ∧ next.duties = .const 0 := by
  refine ⟨?_, stop_duties control next value stopped⟩
  obtain ⟨middle, left, right⟩ := stop_ok control next value stopped
  have kept := stop_wheel_over .left control
  simp only [Action.final] at kept
  rw [left] at kept
  have wiredToo : middle.Wired := fun side => (kept.sides side).trans (wired side)
  rw [stop_wheel_bridges _ _ _ _ wiredToo right, stop_wheel_bridges _ _ _ _ wired left]
  rfl

end SpeedControl

namespace Drive

def Released (drive : Drive α) : Prop :=
  drive.world.bridges = .const {} ∧ drive.speed.duties = .const 0

theorem on_speed_ok {β : Type} (action : Action (SpeedControl α) β) (drive next : Drive α)
    (value : β) (ended : onSpeed action drive = .ok value next) :
    ∃ speed, action drive.speed = .ok value speed ∧ next = { drive with speed } := by
  simp only [onSpeed, within] at ended
  cases came : action drive.speed with
  | error fault speed =>
      rw [came] at ended
      cases ended
  | ok result speed =>
      rw [came] at ended
      cases ended
      exact ⟨speed, rfl, rfl⟩

theorem stop_ok (drive after : Drive α) (value : Unit) (stopped : stop drive = .ok value after) :
    SpeedControl.stop drive.speed = .ok value after.speed := by
  obtain ⟨speed, halted, rfl⟩ := on_speed_ok _ _ _ _ stopped
  exact halted

theorem stop_duties (drive after : Drive α) (value : Unit)
    (stopped : stop drive = .ok value after) : after.speed.duties = .const 0 :=
  SpeedControl.stop_duties _ _ value (stop_ok drive after value stopped)

theorem stop_released (drive after : Drive α) (value : Unit) (wired : drive.speed.Wired)
    (stopped : stop drive = .ok value after) : after.Released :=
  SpeedControl.stop_released _ _ value wired (stop_ok drive after value stopped)

end Drive

variable [Scalar α]

theorem Drive.finish_ok (settle : Nat) (motion : Action (Drive α) (Option Outcome))
    (drive after : Drive α) (outcome : Outcome)
    (finished : finish settle motion drive = .ok (some outcome) after) :
    ∃ ended stopped value, motion drive = .ok (some outcome) ended ∧
      stop ended = .ok value stopped ∧
      after = (stopped.delay settle).say .info outcome.name := by
  rw [finish_apply] at finished
  rcases came : motion drive with ⟨none | reached, ended⟩ | ⟨fault, ended⟩ <;>
    rw [came] at finished
  · cases finished
  · cases halted : stop ended with
    | error fault stopped =>
        simp only [halted] at finished
        cases finished
    | ok value stopped =>
        simp only [halted] at finished
        cases finished
        exact ⟨ended, stopped, value, rfl, halted, rfl⟩
  · cases finished

theorem Course.loop_fails_of_underway (course : Course α) (limit : Nat) (drive : Drive α)
    (fault : PwmFault)
    (refused : firstRefused ((course.underway limit drive).world.writesSince drive.world) =
      some fault) :
    ∃ next, course.loop drive = .error fault next := by
  cases course with
  | toward motion =>
      exact Action.rounds_fail_of_reached _ (Drive.steer_truthful motion _)
        limit _ _ fault refused
  | lasting heading seconds =>
      exact Action.rounds_fail_of_reached _
        (fun _ => Drive.cruise_truthful heading _ _) limit _ _ fault refused

namespace Drive

-- A call fails exactly when one of the writes it attempted is refused, and its fault is that of the
-- first one it came to, whatever happened to the writes after it.
structure Surfaces {β : Type} (before : Drive α) (ended : EStateM.Result PwmFault (Drive α) β)
    (attempted : PwmWrite → Prop) : Prop where
  fails : (∃ fault after, ended = .error fault after) ↔
    ∃ write, attempted write ∧ write.accepted = false
  first : ∀ fault after, ended = .error fault after →
    firstRefused (after.world.writesSince before.world) = some fault

omit [Scalar α] in
theorem surfaces_of_told {β : Type} (before : Drive α)
    (ended : EStateM.Result PwmFault (Drive α) β) (attempted : PwmWrite → Prop)
    (told : Action.Told Drive.world before (Action.landing ended) (Action.failure ended))
    (covered : ∀ write ∈ (Action.landing ended).world.writesSince before.world, attempted write)
    (fatal : ∀ write, attempted write → write.accepted = false →
      ∃ fault, Action.failure ended = some fault) : Surfaces before ended attempted := by
  refine ⟨⟨?_, ?_⟩, ?_⟩
  · intro failed
    obtain ⟨fault, after, rfl⟩ := failed
    obtain ⟨write, member, refused, _⟩ := first_refused_some _ fault told.fault.symm
    exact ⟨write, covered write member, refused⟩
  · intro refusal
    obtain ⟨write, tried, refused⟩ := refusal
    obtain ⟨fault, failed⟩ := fatal write tried refused
    cases ended with
    | ok value after => cases failed
    | error cause after => exact ⟨cause, after, rfl⟩
  · intro fault after failed
    subst failed
    exact told.fault.symm

end Drive

def Primitive.Attempted (primitive : Primitive α) (drive : Drive α) (write : PwmWrite) : Prop :=
  write ∈ (Action.final primitive.run drive).world.writesSince drive.world ∨
    ∃ rounds, write ∈ (primitive.underway rounds drive).world.writesSince drive.world

theorem Primitive.run_fails_of_underway (primitive : Primitive α) (rounds : Nat) (drive : Drive α)
    (unblocked : drive.isBlocked = false) (fault : PwmFault)
    (refused : firstRefused ((primitive.underway rounds drive).world.writesSince drive.world) =
      some fault) :
    Action.failure (primitive.run drive) = some fault := by
  rw [underway, if_neg (by simp [unblocked])] at refused
  obtain ⟨next, failed⟩ := (primitive.course drive.config).loop_fails_of_underway rounds
    (drive.say .info primitive.name) fault refused
  rw [run_unblocked primitive drive unblocked, Drive.finish_apply, failed]
  rfl

theorem Primitive.run_surfaces (primitive : Primitive α) (drive : Drive α)
    (unblocked : drive.isBlocked = false) :
    Drive.Surfaces drive (primitive.run drive) (primitive.Attempted drive) := by
  have told := primitive.run_truthful drive
  simp only [Action.final, Action.fault?] at told
  apply Drive.surfaces_of_told _ _ _ told
  · exact fun write member => .inl member
  · intro write tried refused
    rcases tried with atEnd | ⟨rounds, onTheWay⟩
    · obtain ⟨fault, first⟩ := first_refused_of_mem _ write atEnd refused
      exact ⟨fault, told.fault.trans first⟩
    · obtain ⟨fault, first⟩ := first_refused_of_mem _ write onTheWay refused
      exact ⟨fault, primitive.run_fails_of_underway rounds drive unblocked fault first⟩

theorem Primitive.run_released (primitive : Primitive α) (drive after : Drive α) (outcome : Outcome)
    (wired : drive.speed.Wired) (unblocked : drive.isBlocked = false)
    (returned : primitive.run drive = .ok (some outcome) after) : after.Released := by
  rw [run_unblocked primitive drive unblocked] at returned
  obtain ⟨ended, stopped, value, looped, halted, rfl⟩ := Drive.finish_ok _ _ _ _ _ returned
  have kept := (primitive.course drive.config).loop_over (drive.say .info primitive.name)
  simp only [Action.final, looped, Action.landing] at kept
  have wiredToo : ended.speed.Wired := fun side => (kept.speed.sides side).trans (wired side)
  obtain ⟨bridges, duties⟩ := Drive.stop_released ended stopped value wiredToo halted
  exact ⟨(World.bridges_delay primitive.settle stopped.world).trans bridges, duties⟩

namespace Drive

-- No fault is lost, neither in a motion nor in the stop at its end, and a motion that reports none
-- has released all four channels.
theorem faults_surface (drive : Drive α) (reached : drive.Reachable) :
    (Surfaces drive (stop drive) (· ∈ drive.stopped.world.writesSince drive.world) ∧
      ∀ value after, stop drive = .ok value after → after.Released) ∧
    ∀ primitive : Primitive α, drive.isBlocked = false →
      Surfaces drive (primitive.run drive) (primitive.Attempted drive) ∧
        ∀ outcome after, primitive.run drive = .ok (some outcome) after → after.Released := by
  have wired := reachable_wired drive reached
  refine ⟨⟨?_, fun value after => stop_released drive after value wired⟩, ?_⟩
  · have told := stop_truthful drive
    simp only [Action.final, Action.fault?] at told
    apply surfaces_of_told _ _ _ told
    · exact fun write member => member
    · intro write tried refused
      obtain ⟨fault, first⟩ := first_refused_of_mem _ write tried refused
      exact ⟨fault, told.fault.trans first⟩
  · intro primitive unblocked
    exact ⟨primitive.run_surfaces drive unblocked,
      fun outcome after => primitive.run_released drive after outcome wired unblocked⟩

def limping : Drive Float :=
  (parked 2376 0).after [.fail ⟨.left, .reverse⟩, .fail ⟨.right, .forward⟩]

theorem limping_reachable : limping.Reachable := reachable_after _ _ (parked_reachable 2376 0)

theorem limping_within : Action.returns (backing.runWithin 1 limping) = true ∧
    Action.failure (backing.runWithin 1 limping) = some ⟨.left, .reverse⟩ := by
  decide +kernel

theorem limping_surfaces : limping.Reachable ∧ limping.isBlocked = false ∧
    ∃ after, backing.run limping = .error ⟨.left, .reverse⟩ after ∧
      firstRefused (after.world.writesSince limping.world) = some ⟨.left, .reverse⟩ := by
  have unblocked : limping.isBlocked = false := by decide
  have surfaces := ((faults_surface limping limping_reachable).2 backing unblocked).1
  have computed := backing.run_eq_within 1 limping limping_within.1
  have failed := limping_within.2
  rw [← computed] at failed
  cases ran : backing.run limping with
  | ok outcome after =>
      rw [ran] at failed
      cases failed
  | error fault after =>
      rw [ran] at failed
      cases failed
      exact ⟨limping_reachable, unblocked, after, rfl, surfaces.first _ after ran⟩

end Drive

end Rover
