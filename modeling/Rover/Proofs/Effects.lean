import Mathlib.Logic.Relation
import Rover.Proofs.Primitive

/-!
What a program can do to its world: write to the channels of its motors, say something, let time
pass and preset the encoders.
-/

set_option autoImplicit false

namespace Rover

open Relation (ReflTransGen)

variable {α : Type}

def Channel.partner (channel : Channel) : Channel := ⟨channel.side, channel.direction.flip⟩

namespace World

def noted (world : World α) (channel : Channel) (duty : Nat) (accepted : Bool) : World α :=
  let bridges := if accepted then world.bridges.withDuty channel duty else world.bridges
  { world with
    moment := world.moment + 1
    bridges
    peaks := if accepted then Both.zipWith Bridge.max world.peaks bridges else world.peaks
    journal := { time := world.now, channel, duty, accepted } :: world.journal }

theorem write_apply (channel : Channel) (duty : Nat) (world : World α) :
    write channel duty world = if world.failing world.moment channel
      then .error ⟨channel⟩ (world.noted channel duty false)
      else .ok () (world.noted channel duty true) := by
  simp only [write, setDuty]
  by_cases refused : world.failing world.moment channel
  · simp only [if_pos refused]
    rfl
  · simp only [if_neg refused]
    rfl

theorem final_write (channel : Channel) (duty : Nat) (world : World α) :
    Action.final (write channel duty) world =
      world.noted channel duty (!world.failing world.moment channel) := by
  simp only [Action.final]
  rw [write_apply]
  by_cases refused : world.failing world.moment channel
  · rw [if_pos refused, refused]
    rfl
  · rw [if_neg refused, Bool.eq_false_iff.mpr refused]
    rfl

theorem write_ok (channel : Channel) (duty : Nat) (world next : World α) (value : Unit)
    (wrote : write channel duty world = .ok value next) :
    world.failing world.moment channel = false ∧ next = world.noted channel duty true := by
  rw [write_apply] at wrote
  by_cases refused : world.failing world.moment channel
  · rw [if_pos refused] at wrote
    cases wrote
  · rw [if_neg refused] at wrote
    cases wrote
    exact ⟨Bool.eq_false_iff.mpr refused, rfl⟩

theorem write_error (channel : Channel) (duty : Nat) (world next : World α) (fault : PwmFault)
    (failed : write channel duty world = .error fault next) :
    world.failing world.moment channel = true ∧ fault = ⟨channel⟩ ∧
      next = world.noted channel duty false := by
  rw [write_apply] at failed
  by_cases refused : world.failing world.moment channel
  · rw [if_pos refused] at failed
    cases failed
    exact ⟨refused, rfl, rfl⟩
  · rw [if_neg refused] at failed
    cases failed

@[simp] theorem noted_duty (world : World α) (channel : Channel) (duty : Nat) :
    (world.noted channel duty true).bridges.duty channel = duty :=
  Both.duty_with_duty_same _ _ _

@[simp] theorem noted_duty_other (world : World α) (channel other : Channel) (duty : Nat)
    (accepted : Bool) (different : other ≠ channel) :
    (world.noted channel duty accepted).bridges.duty other = world.bridges.duty other := by
  cases accepted with
  | false => rfl
  | true => exact Both.duty_with_duty_other _ _ _ _ different

-- The side of a bridge that carries nothing is released before the other one is driven.
inductive Touch : World α → World α → Prop where
  | write (world : World α) (channel : Channel) (duty : Nat)
      (safe : duty ≠ 0 → (duty : Int) ≤ maxDuty ∧ world.bridges.duty channel.partner = 0) :
      Touch world (Action.final (write channel duty) world)
  | say (world : World α) (level : Level) (source : Source) (text : String) :
      Touch world (world.say level source text)

def Touched : World α → World α → Prop := ReflTransGen Touch

theorem touch_still (before after : World α) (touch : Touch before after) :
    after.now = before.now ∧ after.wheels = before.wheels := by
  cases touch with
  | write channel duty safe =>
      rw [final_write]
      exact ⟨rfl, rfl⟩
  | say level source text => exact ⟨rfl, rfl⟩

theorem touched_still (before after : World α) (touched : Touched before after) :
    after.now = before.now ∧ after.wheels = before.wheels := by
  induction touched with
  | refl => exact ⟨rfl, rfl⟩
  | tail _ touch ih =>
      have still := touch_still _ _ touch
      exact ⟨still.1.trans ih.1, still.2.trans ih.2⟩

theorem touched_recording (before after : World α) (touched : Touched before after) :
    after.recording = before.recording := by
  induction touched with
  | refl => rfl
  | tail _ touch ih =>
      rw [← ih]
      cases touch with
      | write channel duty safe =>
          rw [final_write]
          rfl
      | say level source text => rfl

end World

-- How a relation of worlds is carried by what holds the world. What is laid down when a robot is
-- built stays: the configurations, and which motor drives which wheel.
structure SpeedControl.Over (relation : World α → World α → Prop) (before after : SpeedControl α) :
    Prop where
  world : relation before.world after.world
  config : after.config = before.config
  sides : ∀ side, (after.motors.get side).side = (before.motors.get side).side

structure Drive.Over (relation : World α → World α → Prop) (before after : Drive α) : Prop where
  speed : SpeedControl.Over relation before.speed after.speed
  config : after.config = before.config

section Over

variable {relation : World α → World α → Prop}

theorem control_over_refl (reflexive : ∀ world, relation world world) (control : SpeedControl α) :
    SpeedControl.Over relation control control :=
  ⟨reflexive _, rfl, fun _ => rfl⟩

theorem control_over_trans (transitive : ∀ a b c, relation a b → relation b c → relation a c)
    (first second third : SpeedControl α) (one : SpeedControl.Over relation first second)
    (two : SpeedControl.Over relation second third) : SpeedControl.Over relation first third :=
  ⟨transitive _ _ _ one.world two.world, two.config.trans one.config,
    fun side => (two.sides side).trans (one.sides side)⟩

theorem drive_over_refl (reflexive : ∀ world, relation world world) (drive : Drive α) :
    Drive.Over relation drive drive :=
  ⟨control_over_refl reflexive _, rfl⟩

theorem drive_over_trans (transitive : ∀ a b c, relation a b → relation b c → relation a c)
    (first second third : Drive α) (one : Drive.Over relation first second)
    (two : Drive.Over relation second third) : Drive.Over relation first third :=
  ⟨control_over_trans transitive _ _ _ one.speed two.speed, two.config.trans one.config⟩

theorem drive_over_mono {weaker : World α → World α → Prop} (before after : Drive α)
    (implies : ∀ before after, relation before after → weaker before after)
    (carried : Drive.Over relation before after) : Drive.Over weaker before after :=
  ⟨⟨implies _ _ carried.speed.world, carried.speed.config, carried.speed.sides⟩, carried.config⟩

theorem drive_over_world (before : Drive α) (world : World α)
    (changed : relation before.world world) :
    Drive.Over relation before { before with speed := { before.speed with world } } :=
  ⟨⟨changed, rfl, fun _ => rfl⟩, rfl⟩

end Over

namespace Drive

@[simp] theorem world_on_speed {β : Type} (action : Action (SpeedControl α) β) (drive : Drive α) :
    (Action.final (onSpeed action) drive).world = (Action.final action drive.speed).world := by
  simp [onSpeed, Drive.world]

def withWorld (change : World α → World α) (drive : Drive α) : Drive α :=
  { drive with speed := { drive.speed with world := change drive.world } }

theorem with_world_over (relation : World α → World α → Prop) (change : World α → World α)
    (changed : ∀ world, relation world (change world)) :
    Action.Keeps (Over relation) (modify (withWorld change) : Action (Drive α) PUnit) :=
  Action.keeps_modify _ fun drive => drive_over_world drive _ (changed drive.world)

end Drive

namespace Motor

-- Both commands of a motor are two writes: one side of its bridge is released, then the other one
-- is loaded.
def load (motor : Motor) (idle : Direction) (duty : Nat) : Action (World α) Unit := do
  motor.write idle 0
  motor.write idle.flip duty

def idle (duty : Int) : Direction := if clampTo maxDuty duty < 0 then .forward else .reverse

theorem carrying_idle (duty : Int) : (Bridge.carrying duty).get (idle duty) = 0 := by
  simp only [Bridge.carrying, idle]
  by_cases back : clampTo maxDuty duty < 0
  · simp only [if_pos back, Bridge.get]
  · simp only [if_neg back, Bridge.get]

theorem carrying_loaded (duty : Int) :
    (Bridge.carrying duty).get (idle duty).flip = (clampTo maxDuty duty).natAbs := by
  simp only [Bridge.carrying, idle]
  by_cases back : clampTo maxDuty duty < 0
  · simp only [if_pos back, Bridge.get, Direction.flip]
  · simp only [if_neg back, Bridge.get, Direction.flip]

theorem clamped_magnitude (duty : Int) : ((clampTo maxDuty duty).natAbs : Int) ≤ maxDuty := by
  have bounds := clamp_to_bounds maxDuty duty (by decide)
  omega

@[simp] theorem clamp_clamped (duty : Int) :
    clampTo maxDuty (clampTo maxDuty duty) = clampTo maxDuty duty := by
  have bounds := clamp_to_bounds maxDuty duty (by decide)
  exact clamp_to_of_within _ _ bounds.1 bounds.2

theorem stop_eq (motor : Motor) : (motor.stop : Action (World α) Motor) = do
    motor.load .forward 0
    return { motor with duty := 0 } := by
  simp only [stop, load]
  simp only [bind_assoc]
  rfl

theorem drive_eq (motor : Motor) (duty : Int) : (motor.drive duty : Action (World α) Motor) = do
    modify (motor.noteDrive (clampTo maxDuty duty))
    motor.load (idle duty) (clampTo maxDuty duty).natAbs
    return { motor with duty := clampTo maxDuty duty } := by
  have released := carrying_idle (clampTo maxDuty duty)
  have loaded := carrying_loaded (clampTo maxDuty duty)
  have same : idle (clampTo maxDuty duty) = idle duty := by simp [idle]
  rw [same] at released loaded
  rw [clamp_clamped] at loaded
  simp only [load]
  rw [← loaded, ← released]
  simp only [bind_assoc]
  rfl

theorem stop_side (motor next : Motor) (world after : World α)
    (stopped : motor.stop world = .ok next after) : next.side = motor.side := by
  rw [stop_eq] at stopped
  obtain ⟨_, _, _, returned⟩ := Action.ok_of_bind _ _ _ _ _ stopped
  cases returned
  rfl

theorem drive_side (motor next : Motor) (duty : Int) (world after : World α)
    (driven : motor.drive duty world = .ok next after) : next.side = motor.side := by
  rw [drive_eq] at driven
  obtain ⟨_, _, _, loaded⟩ := Action.ok_of_bind _ _ _ _ _ driven
  obtain ⟨_, _, _, returned⟩ := Action.ok_of_bind _ _ _ _ _ loaded
  cases returned
  rfl

theorem load_touches (motor : Motor) (idle : Direction) (duty : Nat)
    (bounded : (duty : Int) ≤ maxDuty) :
    Action.Keeps World.Touched (motor.load idle duty : Action (World α) Unit) := by
  intro world
  have released : World.Touch world (Action.final (World.write ⟨motor.side, idle⟩ 0) world) :=
    .write world _ 0 (fun nonzero => absurd rfl nonzero)
  simp only [load, write]
  rw [Action.final_bind]
  simp only [Action.final] at released
  cases came : World.write ⟨motor.side, idle⟩ 0 world with
  | error fault next =>
      rw [came] at released
      exact .single released
  | ok value next =>
      rw [came] at released
      obtain ⟨_, rfl⟩ := World.write_ok _ _ _ _ _ came
      refine .tail (.single released) (.write _ _ duty fun _ => ⟨bounded, ?_⟩)
      have partner : Channel.partner ⟨motor.side, idle.flip⟩ = ⟨motor.side, idle⟩ := by
        cases idle <;> rfl
      rw [partner]
      exact World.noted_duty world ⟨motor.side, idle⟩ 0

theorem touched_trans (first second third : World α) (one : World.Touched first second)
    (two : World.Touched second third) : World.Touched first third :=
  ReflTransGen.trans one two

theorem stop_touches (motor : Motor) :
    Action.Keeps World.Touched (motor.stop : Action (World α) Motor) := by
  rw [stop_eq]
  refine Action.keeps_bind touched_trans _ _ (load_touches motor .forward 0 (by decide)) ?_
  exact fun _ _ => .refl

theorem drive_touches (motor : Motor) (duty : Int) :
    Action.Keeps World.Touched (motor.drive duty : Action (World α) Motor) := by
  rw [drive_eq]
  refine Action.keeps_bind touched_trans _ _ (fun world => .single (.say world _ _ _)) fun _ => ?_
  refine Action.keeps_bind touched_trans _ _ (load_touches motor _ _ (clamped_magnitude duty)) ?_
  exact fun _ _ => .refl

end Motor

namespace SpeedControl

theorem command_over (side : Side) (action : Motor → Action (World α) Motor)
    (touches : ∀ motor, Action.Keeps World.Touched (action motor))
    (sided : ∀ motor world next after, action motor world = .ok next after →
      next.side = motor.side) :
    Action.Keeps (Over World.Touched) (command side action) := by
  intro control
  have touched := touches (control.motors.get side) control.world
  simp only [Action.final] at touched ⊢
  simp only [command]
  cases came : action (control.motors.get side) control.world with
  | error fault world =>
      rw [came] at touched
      exact ⟨.tail touched (.say world .error .speedControl _), rfl, fun _ => rfl⟩
  | ok motor world =>
      rw [came] at touched
      refine ⟨touched, rfl, fun other => ?_⟩
      by_cases same : other = side
      · subst other
        simpa [Action.landing] using sided _ _ _ _ came
      · simp [Action.landing, same]

theorem drive_wheel_over (side : Side) (duty : Int) :
    Action.Keeps (Over World.Touched) (driveWheel side duty : Action (SpeedControl α) Unit) := by
  exact command_over side _ (fun motor => motor.drive_touches duty)
    fun motor world next after came => motor.drive_side next duty world after came

theorem stop_wheel_over (side : Side) :
    Action.Keeps (Over World.Touched) (stopWheel side : Action (SpeedControl α) Unit) := by
  exact command_over side _ (fun motor => motor.stop_touches)
    fun motor world next after came => motor.stop_side next world after came

section Keeping

variable {relation : World α → World α → Prop}

theorem keeps_drive (transitive : ∀ a b c, relation a b → relation b c → relation a c)
    (driven : ∀ side duty,
      Action.Keeps (Over relation) (driveWheel side duty : Action (SpeedControl α) Unit))
    (duties : Both Int) :
    Action.Keeps (Over relation) (drive duties : Action (SpeedControl α) Unit) :=
  Action.keeps_bind (control_over_trans transitive) _ _ (driven .left duties.left)
    fun _ => driven .right duties.right

theorem keeps_stop (reflexive : ∀ world, relation world world)
    (transitive : ∀ a b c, relation a b → relation b c → relation a c)
    (stopped : ∀ side,
      Action.Keeps (Over relation) (stopWheel side : Action (SpeedControl α) Unit)) :
    Action.Keeps (Over relation) (stop : Action (SpeedControl α) Unit) := by
  have still : ∀ control : SpeedControl α, Over relation control control :=
    control_over_refl reflexive
  have joined := control_over_trans transitive
  refine Action.keeps_bind joined _ _ (Action.keeps_attempt _ (stopped .left)) fun left => ?_
  refine Action.keeps_bind joined _ _ (Action.keeps_attempt _ (stopped .right)) fun right => ?_
  exact Action.keeps_bind joined _ _ (Action.keeps_of_result still left)
    fun _ => Action.keeps_of_result still right

end Keeping

theorem drive_over (duties : Both Int) :
    Action.Keeps (Over World.Touched) (drive duties : Action (SpeedControl α) Unit) :=
  keeps_drive Motor.touched_trans drive_wheel_over duties

theorem stop_over :
    Action.Keeps (Over World.Touched) (stop : Action (SpeedControl α) Unit) :=
  keeps_stop (fun _ => .refl) Motor.touched_trans stop_wheel_over

end SpeedControl

variable [Scalar α]

namespace World

inductive Event : World α → World α → Prop where
  | touch (world next : World α) (touch : Touch world next) : Event world next
  | tick (world : World α) : Event world world.tick
  | preset (world : World α) (positions : Both Int32) : Event world (world.preset positions)

def Evolves : World α → World α → Prop := ReflTransGen Event

inductive Roll : World α → World α → Prop where
  | touch (world next : World α) (touch : Touch world next) : Roll world next
  | tick (world : World α) : Roll world world.tick

def Rolls : World α → World α → Prop := ReflTransGen Roll

theorem evolves_of_rolls (before after : World α) (rolls : Rolls before after) :
    Evolves before after := by
  refine ReflTransGen.mono (fun world next roll => ?_) before after rolls
  cases roll with
  | touch _ touch => exact .touch world next touch
  | tick => exact .tick world

theorem rolls_of_touched (before after : World α) (touched : Touched before after) :
    Rolls before after :=
  ReflTransGen.mono (fun world next touch => Roll.touch world next touch) before after touched

theorem evolves_of_touched (before after : World α) (touched : Touched before after) :
    Evolves before after :=
  evolves_of_rolls before after (rolls_of_touched before after touched)

structure Lasts (millis : Nat) (before after : World α) : Prop where
  now : after.now = before.now + UInt32.ofNat millis
  recorded : after.recording.length = before.recording.length + millis

omit [Scalar α] in
theorem lasts_touched (before after : World α) (touched : Touched before after) :
    Lasts 0 before after := by
  refine ⟨?_, congrArg List.length (touched_recording before after touched)⟩
  exact (touched_still before after touched).1.trans (UInt32.add_zero _).symm

omit [Scalar α] in
theorem lasts_trans (first second : Nat) (before middle after : World α)
    (one : Lasts first before middle) (two : Lasts second middle after) :
    Lasts (first + second) before after := by
  refine ⟨?_, ?_⟩
  · rw [two.now, one.now, UInt32.ofNat_add, UInt32.add_assoc]
  · rw [two.recorded, one.recorded, Nat.add_assoc]

omit [Scalar α] in
theorem lasts_from (millis : Nat) (start before after : World α)
    (lasts : Lasts millis before after) (now : before.now = start.now)
    (recording : before.recording = start.recording) : Lasts millis start after := by
  refine ⟨?_, ?_⟩
  · rw [lasts.now, now]
  · rw [lasts.recorded, recording]

theorem lasts_delay (millis : Nat) (world : World α) : Lasts millis world (world.delay millis) := by
  refine ⟨now_delay millis world, ?_⟩
  induction millis generalizing world with
  | zero => rfl
  | succ count ih =>
      rw [delay, ih, tick, List.length_cons]
      omega

end World

-- A relation of worlds that no control loop breaks: time keeps it, so does whatever is said of the
-- work short of an error, and a command of a wheel keeps it whether its writes are taken or not.
structure World.Steady (relation : World α → World α → Prop) : Prop where
  refl : ∀ world, relation world world
  trans : ∀ first second third, relation first second → relation second third →
    relation first third
  tick : ∀ world : World α, relation world world.tick
  say : ∀ (world : World α) level source text, level ≠ .error →
    relation world (world.say level source text)
  wheel : ∀ side duty, Action.Keeps (SpeedControl.Over relation)
    (SpeedControl.driveWheel side duty : Action (SpeedControl α) Unit)

theorem World.rolls_steady : Steady (Rolls : World α → World α → Prop) where
  refl _ := .refl
  trans _ _ _ := ReflTransGen.trans
  tick world := .single (.tick world)
  say world _ _ _ _ := .single (.touch _ _ (.say world _ _ _))
  wheel side duty control :=
    have driven := SpeedControl.drive_wheel_over side duty control
    ⟨rolls_of_touched _ _ driven.world, driven.config, driven.sides⟩

theorem World.steady_delay {relation : World α → World α → Prop} (steady : Steady relation)
    (millis : Nat) (world : World α) : relation world (world.delay millis) := by
  induction millis generalizing world with
  | zero => exact steady.refl world
  | succ count ih => exact steady.trans _ _ _ (steady.tick world) (ih world.tick)

theorem World.rolls_delay (millis : Nat) (world : World α) : Rolls world (world.delay millis) :=
  steady_delay rolls_steady millis world

theorem World.evolves_delay (millis : Nat) (world : World α) :
    Evolves world (world.delay millis) :=
  evolves_of_rolls _ _ (rolls_delay millis world)

theorem Drive.rolls_trans (first second third : Drive α) (one : Over World.Rolls first second)
    (two : Over World.Rolls second third) : Over World.Rolls first third :=
  drive_over_trans (fun _ _ _ => ReflTransGen.trans) first second third one two

theorem Drive.evolves_trans (first second third : Drive α) (one : Over World.Evolves first second)
    (two : Over World.Evolves second third) : Over World.Evolves first third :=
  drive_over_trans (fun _ _ _ => ReflTransGen.trans) first second third one two

namespace SpeedControl

def planned (percents : Both Int) (control : SpeedControl α) : Both Int × SpeedControl α :=
  let measured := control.speeds control.config.intervalMillis
  let regulated := measured.2.regulate (percents.map (clampTo 100)) measured.1
  (regulated.1, regulated.2.noteRun regulated.1)

theorem run_apply (percents : Both Int) (control : SpeedControl α) :
    run percents control = drive (control.planned percents).1 (control.planned percents).2 := by
  rfl

theorem final_run (percents : Both Int) (control : SpeedControl α) :
    Action.final (run percents) control =
      Action.final (drive (control.planned percents).1) (control.planned percents).2 := by
  simp only [Action.final, run_apply]

def window (config : SpeedConfig α) : Nat := max config.intervalMillis 1

theorem planned_world (percents : Both Int) (control : SpeedControl α) :
    World.Touched (control.world.delay (window control.config))
      (control.planned percents).2.world :=
  .tail (.tail (.single (.say _ _ _ _)) (.say _ _ _ _)) (.say _ _ _ _)

theorem steady_run {relation : World α → World α → Prop} (steady : World.Steady relation)
    (percents : Both Int) :
    Action.Keeps (Over relation) (run percents : Action (SpeedControl α) Unit) := by
  intro control
  have measured := World.steady_delay steady (window control.config) control.world
  have said := fun world source text => steady.say world .trace source text (by decide)
  have planned : relation control.world (control.planned percents).2.world :=
    steady.trans _ _ _ (steady.trans _ _ _ measured (said _ _ _))
      (steady.trans _ _ _ (said _ _ _) (said _ _ _))
  rw [final_run]
  exact control_over_trans steady.trans _ _ _ ⟨planned, rfl, fun _ => rfl⟩
    (keeps_drive steady.trans steady.wheel _ _)

theorem run_lasts (percents : Both Int) (control : SpeedControl α) :
    World.Lasts (window control.config) control.world
      (Action.final (run percents) control).world := by
  have driven := drive_over (control.planned percents).1 (control.planned percents).2
  have planned := World.lasts_trans _ _ _ _ _ (World.lasts_delay _ control.world)
    (World.lasts_touched _ _ (planned_world percents control))
  rw [final_run]
  exact World.lasts_trans _ _ _ _ _ planned (World.lasts_touched _ _ driven.world)

end SpeedControl

namespace Drive

omit [Scalar α] in
theorem on_speed_over {β : Type} (relation : World α → World α → Prop)
    (action : Action (SpeedControl α) β)
    (kept : Action.Keeps (SpeedControl.Over relation) action) :
    Action.Keeps (Over relation) (onSpeed action) :=
  Action.keeps_within (SpeedControl.Over relation) _ _ action
    (fun _ _ speed => ⟨speed, rfl⟩) kept

omit [Scalar α] in
theorem stop_over : Action.Keeps (Over World.Touched) (stop : Action (Drive α) Unit) :=
  on_speed_over _ _ SpeedControl.stop_over

def stopped (drive : Drive α) : Drive α := Action.final stop drive

theorem over_evolves (before after : Drive α) (rolls : Over World.Rolls before after) :
    Over World.Evolves before after :=
  drive_over_mono before after World.evolves_of_rolls rolls

theorem rolls_refl (drive : Drive α) : Over World.Rolls drive drive :=
  drive_over_refl (fun _ => .refl) drive

theorem evolves_refl (drive : Drive α) : Over World.Evolves drive drive :=
  over_evolves drive drive (rolls_refl drive)

theorem say_rolls (drive : Drive α) (level : Level) (source : Source) (text : String) :
    Over World.Rolls drive (drive.sayAs source level text) :=
  drive_over_world drive _ (.single (.touch _ _ (.say _ _ _ _)))

theorem start_over (drive : Drive α) (target : α) :
    Over World.Evolves drive (drive.start target) :=
  ⟨⟨.single (.preset _ _), rfl, fun _ => rfl⟩, rfl⟩

theorem delay_rolls (drive : Drive α) (millis : Nat) : Over World.Rolls drive (drive.delay millis) :=
  drive_over_world drive _ (World.rolls_delay millis drive.world)

theorem delay_over (drive : Drive α) (millis : Nat) :
    Over World.Evolves drive (drive.delay millis) :=
  over_evolves _ _ (delay_rolls drive millis)

theorem run_rolls (percents : Both Int) :
    Action.Keeps (Over World.Rolls) (onSpeed (SpeedControl.run percents) : Action (Drive α) Unit) :=
  on_speed_over _ _ (SpeedControl.steady_run World.rolls_steady percents)

theorem run_over (percents : Both Int) :
    Action.Keeps (Over World.Evolves) (onSpeed (SpeedControl.run percents) : Action (Drive α) Unit) :=
  Action.keeps_mono _ over_evolves (run_rolls percents)

theorem stop_rolls : Action.Keeps (Over World.Rolls) (stop : Action (Drive α) Unit) :=
  Action.keeps_mono _ (fun before after carried =>
    drive_over_mono before after World.rolls_of_touched carried) stop_over

theorem note_round_rolls (drive : Drive α) (elapsed : UInt32) (percents : Both Int) :
    Over World.Rolls drive (drive.noteRound elapsed percents) :=
  say_rolls drive _ _ _

section Steady

variable {relation : World α → World α → Prop} (steady : World.Steady relation)

include steady

theorem steady_refl (drive : Drive α) : Over relation drive drive :=
  drive_over_refl steady.refl drive

theorem steady_trans (first second third : Drive α) (one : Over relation first second)
    (two : Over relation second third) : Over relation first third :=
  drive_over_trans steady.trans first second third one two

theorem steady_say (drive : Drive α) (source : Source) (level : Level) (text : String)
    (quiet : level ≠ .error) : Over relation drive (drive.sayAs source level text) :=
  drive_over_world drive _ (steady.say _ _ _ _ quiet)

theorem steady_run (percents : Both Int) :
    Action.Keeps (Over relation) (onSpeed (SpeedControl.run percents) : Action (Drive α) Unit) :=
  on_speed_over _ _ (SpeedControl.steady_run steady percents)

theorem steady_follow (motion : Motion α) (start : UInt32) (states : Both (RegulatorState α)) :
    Action.Keeps (Over relation) (follow motion start states) := by
  have joined := steady_trans steady
  have noted := fun drive source text => steady_say steady drive source .trace text (by decide)
  refine Action.keeps_get_bind _ fun drive => ?_
  refine Action.keeps_set_bind joined _ _ _ ?_ ?_
  · exact joined _ _ _ (joined _ _ _ (noted _ .regulator _) (noted _ .regulator _))
      (noted _ .drive _)
  · exact Action.keeps_bind joined _ _ (steady_run steady _)
      (Action.keeps_pure (steady_refl steady))

theorem steady_steer (motion : Motion α) (start : UInt32) (states : Both (RegulatorState α)) :
    Action.Keeps (Over relation) (steer motion start states) := by
  refine Action.keeps_get_bind _ fun drive => ?_
  dsimp only
  split
  · exact steady_say steady drive _ _ _ (by decide)
  · split
    · exact steady_say steady drive _ _ _ (by decide)
    · exact Action.keeps_bind (steady_trans steady) _ _ (steady_follow steady motion start states)
        (fun _ => Action.keeps_pure (steady_refl steady) _) drive

theorem steady_cruise (heading : Heading) (period start : UInt32) :
    Action.Keeps (Over relation) (cruise heading period start () : Action (Drive α) _) := by
  have joined := steady_trans steady
  refine Action.keeps_get_bind _ fun drive => ?_
  dsimp only
  split
  · exact steady_say steady drive _ _ _ (by decide)
  · refine Action.keeps_set_bind joined _ _ _ (steady_say steady drive _ .trace _ (by decide)) ?_
    exact Action.keeps_bind joined _ _ (steady_run steady _)
      fun _ => Action.keeps_pure (steady_refl steady) _

end Steady

theorem follow_rolls (motion : Motion α) (start : UInt32) (states : Both (RegulatorState α)) :
    Action.Keeps (Over World.Rolls) (follow motion start states) :=
  steady_follow World.rolls_steady motion start states

theorem finish_rolls (settle : Nat) (motion : Action (Drive α) (Option Outcome)) (drive : Drive α) :
    Over World.Rolls (Action.final motion drive) (Action.final (finish settle motion) drive) := by
  simp only [Action.final]
  rw [finish_apply]
  rcases motion drive with ⟨none | outcome, ended⟩ | ⟨fault, ended⟩
  · exact rolls_refl ended
  · have halted := stop_rolls ended
    simp only [Action.final] at halted
    dsimp only [Action.landing]
    rcases came : stop ended with ⟨_, after⟩ | ⟨fault, after⟩ <;> rw [came] at halted
    · refine rolls_trans _ _ _ halted ?_
      exact rolls_trans _ _ _ (delay_rolls after settle) (say_rolls _ _ _ _)
    · exact halted
  · exact rolls_trans _ _ _ (stop_rolls ended) (say_rolls _ _ _ _)

end Drive

def Course.begun : Course α → Drive α → Drive α
  | .toward motion, drive => drive.start motion.target
  | .lasting _ _, drive => drive.start 0.0

def Course.target : Course α → α
  | .toward motion => motion.target
  | .lasting _ _ => 0.0

theorem Course.begun_start (course : Course α) (drive : Drive α) :
    course.begun drive = drive.start course.target := by
  cases course <;> rfl

theorem Course.begun_over (course : Course α) (drive : Drive α) :
    Drive.Over World.Evolves drive (course.begun drive) := by
  cases course <;> exact Drive.start_over drive _

section Steady

variable {relation : World α → World α → Prop} (steady : World.Steady relation)

include steady

theorem Course.steady_loop (course : Course α) (drive : Drive α) :
    Drive.Over relation (course.begun drive) (Action.final course.loop drive) := by
  cases course with
  | toward motion =>
      exact Action.keeps_rounds (Drive.steady_refl steady) (Drive.steady_trans steady) _
        (Drive.steady_steer steady motion (drive.start motion.target).world.now)
        (.const ((drive.start motion.target).freshState motion.target))
        (drive.start motion.target)
  | lasting heading seconds =>
      exact Action.keeps_rounds (Drive.steady_refl steady) (Drive.steady_trans steady) _
        (fun _ => Drive.steady_cruise steady heading (Profile.timedPeriod seconds) drive.world.now)
        () (drive.start 0.0)

theorem Course.steady_underway (limit : Nat) (course : Course α) (drive : Drive α) :
    Drive.Over relation (course.begun drive) (course.underway limit drive) := by
  cases course with
  | toward motion =>
      exact Action.keeps_reached (Drive.steady_refl steady) (Drive.steady_trans steady) _
        (Drive.steady_steer steady motion _) limit _ _
  | lasting heading seconds =>
      exact Action.keeps_reached (Drive.steady_refl steady) (Drive.steady_trans steady) _
        (fun _ => Drive.steady_cruise steady heading _ _) limit _ _

end Steady

theorem Course.loop_rolls (course : Course α) (drive : Drive α) :
    Drive.Over World.Rolls (course.begun drive) (Action.final course.loop drive) :=
  course.steady_loop World.rolls_steady drive

theorem Course.loop_over (course : Course α) :
    Action.Keeps (Drive.Over World.Evolves) course.loop := fun drive =>
  Drive.evolves_trans _ _ _ (course.begun_over drive)
    (Drive.over_evolves _ _ (course.loop_rolls drive))

namespace Primitive

def begun (primitive : Primitive α) (drive : Drive α) : Drive α :=
  (primitive.course drive.config).begun (drive.say .info primitive.name)

theorem begun_over (primitive : Primitive α) (drive : Drive α) :
    Drive.Over World.Evolves drive (primitive.begun drive) :=
  Drive.evolves_trans _ _ _ (Drive.over_evolves _ _ (Drive.say_rolls drive _ _ _))
    (Course.begun_over _ _)

theorem underway_rolls (limit : Nat) (primitive : Primitive α) (drive : Drive α)
    (unblocked : drive.isBlocked = false) :
    Drive.Over World.Rolls (primitive.begun drive) (primitive.underway limit drive) := by
  rw [underway, if_neg (by simp [unblocked])]
  exact (primitive.course drive.config).steady_underway World.rolls_steady limit _

theorem run_rolls (primitive : Primitive α) (drive : Drive α)
    (unblocked : drive.isBlocked = false) :
    Drive.Over World.Rolls (primitive.begun drive) (Action.final primitive.run drive) := by
  have looped := (primitive.course drive.config).loop_rolls (drive.say .info primitive.name)
  have finished := Drive.finish_rolls primitive.settle (primitive.course drive.config).loop
    (drive.say .info primitive.name)
  simp only [Action.final] at looped finished ⊢
  rw [run_unblocked primitive drive unblocked]
  exact Drive.rolls_trans _ _ _ looped finished

theorem run_blocked (primitive : Primitive α) (drive : Drive α)
    (blocked : drive.isBlocked = true) :
    primitive.run drive =
      .ok (some .blocked) (drive.say .warn s!"{primitive.name}: blocked") := by
  rw [run_apply, Drive.unless_blocked_apply, if_pos blocked]

theorem underway_over (limit : Nat) (primitive : Primitive α) (drive : Drive α) :
    Drive.Over World.Evolves drive (primitive.underway limit drive) := by
  cases blocked : drive.isBlocked with
  | true =>
      rw [underway, if_pos blocked]
      exact Drive.evolves_refl drive
  | false =>
      exact Drive.evolves_trans _ _ _ (primitive.begun_over drive)
        (Drive.over_evolves _ _ (primitive.underway_rolls limit drive blocked))

theorem run_over (primitive : Primitive α) :
    Action.Keeps (Drive.Over World.Evolves) primitive.run := by
  intro drive
  cases blocked : drive.isBlocked with
  | true =>
      rw [Action.final, run_blocked primitive drive blocked]
      exact Drive.over_evolves _ _ (Drive.say_rolls drive _ _ _)
  | false =>
      exact Drive.evolves_trans _ _ _ (primitive.begun_over drive)
        (Drive.over_evolves _ _ (primitive.run_rolls drive blocked))

end Primitive

end Rover
