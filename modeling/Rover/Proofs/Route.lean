import Rover.Demo
import Rover.Proofs.Blocking
import Rover.Proofs.Deadline
import Rover.Proofs.Faults
import Rover.Proofs.Mission

set_option autoImplicit false

namespace Rover

variable {α : Type}

structure World.Calm (world : World α) : Prop where
  healthy : ∀ moment channel, world.failing moment channel = false
  free : ∀ moment, world.blocked moment = false

variable [Scalar α]

theorem World.evolves_calm (before after : World α) (evolves : Evolves before after)
    (calm : before.Calm) : after.Calm := by
  induction evolves with
  | refl => exact calm
  | tail _ event ih =>
      cases event with
      | touch _ touch =>
          cases touch with
          | write channel duty safe =>
              rw [final_write]
              exact ⟨ih.healthy, ih.free⟩
          | say level source text => exact ⟨ih.healthy, ih.free⟩
      | tick | preset positions => exact ⟨ih.healthy, ih.free⟩

structure Drive.Ready (drive : Drive α) : Prop where
  calm : drive.world.Calm
  wired : drive.speed.Wired
  released : drive.Released

theorem Drive.ready_over (before after : Drive α) (ready : before.Ready)
    (evolved : Over World.Evolves before after) (released : after.Released) : after.Ready :=
  ⟨World.evolves_calm _ _ evolved.speed.world ready.calm,
    fun side => (evolved.speed.sides side).trans (ready.wired side), released⟩

def Course.span (speed : SpeedConfig α) (course : Course α) : Nat :=
  course.deadline.toNat ⌈/⌉ SpeedControl.window speed * SpeedControl.window speed

namespace Call

def endings : Call α → List Outcome
  | motion (.moveFor _ _) | pause _ | stop => [.completed]
  | motion _ => [.converged, .timedOut]

def allowance (speed : SpeedConfig α) (config : DriveConfig α) : Call α → Nat
  | motion primitive => (primitive.course config).span speed + primitive.settle
  | pause millis => millis
  | stop => 0

def Fits (speed : SpeedConfig α) (config : DriveConfig α) : Call α → Prop
  | motion primitive => (primitive.course config).span speed < 4294967296
  | pause _ | stop => True

theorem fits_of_allowance (call : Call α) (speed : SpeedConfig α)
    (config : DriveConfig α) (short : call.allowance speed config < 4294967296) :
    call.Fits speed config := by
  cases call with
  | motion primitive => exact Nat.lt_of_le_of_lt (Nat.le_add_right _ _) short
  | pause _ | stop => trivial

structure Done (call : Call α) (drive : Drive α) (outcome : Outcome) (after : Drive α) : Prop where
  returned : call.act drive = .ok (some outcome) after
  ending : outcome ∈ call.endings
  evolved : Drive.Over World.Evolves drive after
  ready : after.Ready
  lasted : ∃ millis ≤ call.allowance drive.speed.config drive.config,
    World.Lasts millis drive.world after.world

theorem outcome_ending (primitive : Primitive α) (config : DriveConfig α) (drive : Drive α) :
    (primitive.course config).outcome drive ∈ endings (.motion primitive) := by
  have judged : ∀ motion : Motion α, Drive.verdict motion drive ∈ [Outcome.converged, .timedOut] := by
    intro motion
    rw [Drive.verdict]
    by_cases there : Drive.hasArrived motion drive
    · rw [if_pos there]
      exact List.mem_cons_self
    · rw [if_neg there]
      exact List.mem_cons_of_mem _ (List.mem_singleton_self _)
  cases primitive with
  | moveFor direction seconds => exact List.mem_singleton_self _
  | moveAt _ _ _ | moveBy _ _ | turnBy _ _ | quarterTurn _ | rotate => exact judged _

theorem motion_done (primitive : Primitive α) (drive : Drive α) (ready : drive.Ready)
    (fits : (primitive.course drive.config).span drive.speed.config < 4294967296) :
    ∃ outcome after, (motion primitive).Done drive outcome after := by
  have unblocked : drive.isBlocked = false := ready.calm.free _
  have evolved := primitive.run_over drive
  have taken := (World.evolves_accepted _ _ evolved.speed.world ready.calm.healthy).2
  obtain ⟨rounds, outcome, after, ran, ended⟩ := primitive.run_ends drive unblocked
    (primitive.run_clean drive taken) (Course.expires_of_fits _ _ fits)
  rw [Action.final, ran] at evolved
  obtain ⟨level, text, shape⟩ := ended.ran
  have lasts := Course.finished_lasts (primitive.course drive.config) primitive.settle
    (drive.say .info primitive.name) rounds level text outcome.name
  rw [← shape] at lasts
  have short : rounds * SpeedControl.window drive.speed.config ≤
      (primitive.course drive.config).span drive.speed.config :=
    Nat.mul_le_mul_right _ (ended.bounded fits)
  refine ⟨outcome, after, ran, ?_, evolved, ?_, ?_⟩
  · rw [ended.outcome]
    exact outcome_ending primitive _ _
  · exact Drive.ready_over drive after ready evolved
      (primitive.run_released drive after outcome ready.wired unblocked ran)
  · exact ⟨_, Nat.add_le_add_right short primitive.settle,
      World.lasts_from _ drive.world _ _ lasts rfl rfl⟩

theorem pause_done (millis : Nat) (drive : Drive α) (ready : drive.Ready) :
    (pause millis).Done drive .completed (drive.delay millis) where
  returned := rfl
  ending := List.mem_singleton_self _
  evolved := drive.delay_over millis
  ready := Drive.ready_over drive _ ready (drive.delay_over millis)
    ⟨(World.bridges_delay millis drive.world).trans ready.released.1, ready.released.2⟩
  lasted := ⟨millis, Nat.le_refl _, World.lasts_delay millis drive.world⟩

theorem stop_done (drive : Drive α) (ready : drive.Ready) :
    stop.Done drive .completed drive.stopped := by
  have touched := Drive.stop_over drive
  have evolved := drive_over_mono _ _ World.evolves_of_touched touched
  have taken := (World.evolves_accepted _ _ evolved.speed.world ready.calm.healthy).2
  have clean : Action.fault? Drive.stop drive = none :=
    (Drive.stop_truthful drive).fault.trans ((first_refused_none_iff _).mpr taken)
  cases came : Drive.stop drive with
  | error fault after =>
      rw [Action.fault?, came] at clean
      cases clean
  | ok value after =>
      have reached : drive.stopped = after := by
        rw [Drive.stopped, Action.final, came]
        rfl
      have returned : stop.act drive = .ok (some .completed) after := by
        rw [stop_apply, came]
      rw [← reached] at came returned
      exact ⟨returned, List.mem_singleton_self _, evolved,
        Drive.ready_over drive _ ready evolved (Drive.stop_released drive _ value ready.wired came),
        0, Nat.le_refl _, World.lasts_touched _ _ touched.speed.world⟩

theorem act_done (call : Call α) (drive : Drive α) (ready : drive.Ready)
    (fits : call.Fits drive.speed.config drive.config) :
    ∃ outcome after, call.Done drive outcome after := by
  cases call with
  | motion primitive => exact motion_done primitive drive ready fits
  | pause millis => exact ⟨_, _, pause_done millis drive ready⟩
  | stop => exact ⟨_, _, stop_done drive ready⟩

end Call

namespace Drive

def reported (command : Command α) (outcome : Outcome) : Report α :=
  { command, result := .ok (some outcome) }

structure Carried (commands : List (Command α)) (drive : Drive α) (outcomes : List Outcome)
    (after : Drive α) : Prop where
  reports : drive.performAll commands = (List.zipWith reported commands outcomes, after)
  endings : List.Forall₂ (fun command outcome => outcome ∈ command.call.endings) commands outcomes
  evolved : Over World.Evolves drive after
  ready : after.Ready
  lasted : ∃ millis ≤ (commands.map fun command =>
      command.call.allowance drive.speed.config drive.config).sum,
    World.Lasts millis drive.world after.world

theorem perform_done (drive : Drive α) (command : Command α) (ready : drive.Ready)
    (fits : command.call.Fits drive.speed.config drive.config) :
    ∃ outcome after, drive.perform command = (reported command outcome, after) ∧
      command.call.Done (drive.entrusted command).2 outcome after := by
  obtain ⟨outcome, after, done⟩ := command.call.act_done (drive.entrusted command).2
    ⟨⟨ready.calm.healthy, ready.calm.free⟩, ready.wired, ready.released⟩ fits
  refine ⟨outcome, after, ?_, done⟩
  rw [perform_apply, done.returned]
  rfl

theorem perform_all_carried (commands : List (Command α)) (drive : Drive α) (ready : drive.Ready)
    (fits : ∀ command ∈ commands, command.call.Fits drive.speed.config drive.config) :
    ∃ outcomes after, Carried commands drive outcomes after := by
  induction commands generalizing drive with
  | nil =>
      exact ⟨[], drive, rfl, .nil, evolves_refl drive, ready, 0, Nat.le_refl _,
        World.lasts_touched _ _ .refl⟩
  | cons command rest ih =>
      obtain ⟨outcome, next, performed, done⟩ :=
        perform_done drive command ready (fits command List.mem_cons_self)
      have entered := over_evolves _ _ (say_rolls drive .info .pilot command.name)
      have evolved := evolves_trans _ _ _ entered done.evolved
      have speed := evolved.speed.config
      have config := evolved.config
      obtain ⟨outcomes, after, carried⟩ := ih next done.ready fun other member => by
        rw [speed, config]
        exact fits other (List.mem_cons_of_mem command member)
      obtain ⟨first, soon, firstLasts⟩ := done.lasted
      obtain ⟨others, later, othersLast⟩ := carried.lasted
      rw [speed, config] at later
      refine ⟨outcome :: outcomes, after, ?_, .cons done.ending carried.endings,
        evolves_trans _ _ _ evolved carried.evolved, carried.ready, first + others, ?_, ?_⟩
      · rw [performAll, performed, carried.reports]
        rfl
      · rw [List.map_cons, List.sum_cons]
        exact Nat.add_le_add soon later
      · exact World.lasts_trans _ _ _ _ _ (World.lasts_from _ drive.world _ _ firstLasts rfl rfl)
          othersLast

end Drive

namespace Demo

theorem drive_ready (settings : Settings) (log : Log) : (drive settings log).Ready where
  calm := ⟨fun _ _ => rfl, fun _ => rfl⟩
  wired side := by cases side <;> rfl
  released := ⟨rfl, rfl⟩

theorem route_deadlines : Profile.timedPeriod (Float.ofNat 3) = 3000 ∧
    Profile.turnTimeout (Scalar.abs (Float.ofNat 90)) = 12200 ∧
    Profile.distanceTimeout 80 (Scalar.abs (Float.ofNat 50)) = 15500 := by
  decide +kernel

theorem settings_window (settings : Settings) :
    SpeedControl.window settings.speedConfig = 50 := by
  simp only [SpeedControl.window, SpeedConfig.intervalMillis, Settings.speedConfig]
  decide

theorem route_allowance (settings : Settings) :
    (commands.map fun command =>
      command.call.allowance settings.speedConfig settings.driveConfig) =
      [3000, 2000, 12700, 2000, 12700, 2000, 15500] := by
  obtain ⟨timed, turned, travelled⟩ := route_deadlines
  have span : ∀ course : Course Float, course.span settings.speedConfig =
      course.deadline.toNat ⌈/⌉ 50 * 50 := by
    intro course
    rw [Course.span, settings_window]
  simp only [commands, route, List.map_cons, List.map_nil, Command.map, Command.call,
    Call.allowance, Primitive.settle, Primitive.course, span, Course.deadline, Drive.turnMotion,
    Drive.distanceMotion, timed, turned, travelled]
  decide

theorem route_fits (settings : Settings) : ∀ command ∈ commands,
    command.call.Fits settings.speedConfig settings.driveConfig := by
  intro command member
  have allowed := List.mem_map_of_mem (f := fun command : Command Float =>
    command.call.allowance settings.speedConfig settings.driveConfig) member
  rw [route_allowance] at allowed
  have short : ∀ millis ∈ [3000, 2000, 12700, 2000, 12700, 2000, 15500], millis < 4294967296 := by
    decide
  exact command.call.fits_of_allowance _ _ (short _ allowed)

def told (outcomes : List Outcome) (after : Drive Float) : Log :=
  let log := (route.zip outcomes).foldl
    (fun log (command, outcome) => log.say .info .demo s!"{command.text}: {outcome.name}")
    after.world.log
  let ticks := after.world.ticks
  log.say .info .demo
    s!"simulated {after.world.now}ms, wheels moved {ticks.left}/{ticks.right} ticks"

theorem results_told (route : List (Command Nat)) (outcomes : List Outcome) (log : Log) :
    (route.zip (List.zipWith Drive.reported (route.map (Command.map Float.ofNat)) outcomes)).foldl
      (fun log (command, report) => sayResult log command report.result) log =
    (route.zip outcomes).foldl
      (fun log (command, outcome) => log.say .info .demo s!"{command.text}: {outcome.name}")
      log := by
  induction route generalizing outcomes log with
  | nil => rfl
  | cons command rest ih =>
      cases outcomes with
      | nil => rfl
      | cons outcome others => exact ih others _

-- The end of the demonstration: every command of the route is reported with an outcome of its own
-- kind, the robot stands still and its program has come to its last line.
structure Arrived (file : SettingsFile) (log : Log) (outcomes : List Outcome)
    (after : Drive Float) : Prop where
  reports : travel (Settings.load file log).1 (Settings.load file log).2 =
    (List.zipWith Drive.reported commands outcomes, after)
  endings : List.Forall₂ (fun command outcome => outcome ∈ command.call.endings) commands outcomes
  recorded : after.world.recording.length ≤ 49900
  clock : after.world.now.toNat = after.world.recording.length
  released : ∀ channel, after.world.bridges.duty channel = 0
  returned : run file log = told outcomes after

theorem route_always_ends (file : SettingsFile) (log : Log) :
    ∃ outcomes after, Arrived file log outcomes after := by
  generalize loaded : Settings.load file log = pair
  obtain ⟨settings, opened⟩ := pair
  obtain ⟨outcomes, after, carried⟩ := Drive.perform_all_carried commands (drive settings opened)
    (drive_ready settings opened) (route_fits settings)
  have travelled : travel settings opened =
      (List.zipWith Drive.reported commands outcomes, after.sayAs .pilot .info "pilot done") := by
    rw [travel, Pilot.finish_sent, carried.reports]
  obtain ⟨millis, short, lasts⟩ := carried.lasted
  have allowance := congrArg List.sum (route_allowance settings)
  have bound : millis ≤ 49900 := Nat.le_trans short (Nat.le_of_eq allowance)
  have recorded : after.world.recording.length = millis := lasts.recorded.trans (Nat.zero_add millis)
  have clock : after.world.now = UInt32.ofNat millis := lasts.now.trans (UInt32.zero_add _)
  refine ⟨outcomes, after.sayAs .pilot .info "pilot done", ?_, carried.endings, ?_, ?_, ?_, ?_⟩
  · rw [loaded]
    exact travelled
  · exact Nat.le_trans (Nat.le_of_eq recorded) bound
  · change after.world.now.toNat = after.world.recording.length
    rw [clock, recorded]
    exact UInt32.toNat_ofNat_of_lt' (Nat.lt_of_le_of_lt bound (by decide))
  · intro channel
    change after.world.bridges.duty channel = 0
    rw [carried.ready.released.1]
    rcases channel with ⟨_ | _, _ | _⟩ <;> rfl
  · simp only [run, loaded, travelled]
    rw [commands, results_told]
    rfl

example : commands.map (·.call.endings) = [[.completed], [.completed], [.converged, .timedOut],
    [.completed], [.converged, .timedOut], [.completed], [.converged, .timedOut]] := by
  rfl

end Demo

end Rover
