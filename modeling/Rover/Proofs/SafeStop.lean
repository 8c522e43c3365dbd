import Rover.Proofs.Journal
import Rover.Proofs.Session

/-!
A channel that takes the writes of a stop is left without a duty, with one exception: where the
forward channel of a motor refuses, the reverse one is left as it was.
-/

set_option autoImplicit false

namespace Rover

variable {α : Type}

namespace World

def Refused (before after : World α) (channel : Channel) : Prop :=
  ∃ write ∈ after.writesSince before, write.channel = channel ∧ write.accepted = false

def Stranded (before after : World α) (channel : Channel) : Prop :=
  channel.direction = .reverse ∧ Refused before after channel.partner ∧
    before.bridges.duty channel ≠ 0

structure Halts (side : Side) (before after : World α) : Prop where
  grown : Extends before after
  own : ∀ write ∈ after.writesSince before, write.channel.side = side
  other : ∀ channel : Channel, channel.side ≠ side →
    after.bridges.duty channel = before.bridges.duty channel
  forward : ¬ Refused before after ⟨side, .forward⟩ → after.bridges.duty ⟨side, .forward⟩ = 0
  reverse : ¬ Refused before after ⟨side, .forward⟩ → ¬ Refused before after ⟨side, .reverse⟩ →
    after.bridges.duty ⟨side, .reverse⟩ = 0
  kept : Refused before after ⟨side, .forward⟩ →
    after.bridges.duty ⟨side, .reverse⟩ = before.bridges.duty ⟨side, .reverse⟩

theorem halts_refused (side : Side) (world : World α) :
    Halts side world (world.noted ⟨side, .forward⟩ 0 false) := by
  have writes : (world.noted ⟨side, .forward⟩ 0 false).writesSince world =
      [⟨world.now, ⟨side, .forward⟩, 0, false⟩] :=
    writes_since_append _ _ [_] rfl
  have refused : Refused world (world.noted ⟨side, .forward⟩ 0 false) ⟨side, .forward⟩ := by
    refine ⟨⟨world.now, ⟨side, .forward⟩, 0, false⟩, ?_, rfl, rfl⟩
    rw [writes]
    exact List.mem_singleton_self _
  refine ⟨⟨[_], rfl⟩, ?_, fun _ _ => rfl, fun taken => absurd refused taken,
    fun taken _ => absurd refused taken, fun _ => rfl⟩
  intro write member
  rw [writes] at member
  rw [List.mem_singleton.mp member]

theorem halts_released (side : Side) (world : World α) (accepted : Bool) :
    Halts side world
      ((world.noted ⟨side, .forward⟩ 0 true).noted ⟨side, .reverse⟩ 0 accepted) := by
  generalize after_eq : (world.noted ⟨side, .forward⟩ 0 true).noted ⟨side, .reverse⟩ 0 accepted = after
  have writes : after.writesSince world = [⟨world.now, ⟨side, .forward⟩, 0, true⟩,
      ⟨world.now, ⟨side, .reverse⟩, 0, accepted⟩] := by
    rw [← after_eq]
    exact writes_since_append _ _ [_, _] rfl
  have released : after.bridges.duty ⟨side, .forward⟩ = 0 := by
    rw [← after_eq]
    simp
  refine ⟨?_, ?_, ?_, fun _ => released, ?_, ?_⟩
  · rw [← after_eq]
    exact ⟨[_, _], rfl⟩
  · intro write member
    rw [writes] at member
    simp only [List.mem_cons, List.not_mem_nil, or_false] at member
    rcases member with same | same <;> rw [same]
  · intro channel elsewhere
    have apart : ∀ direction, channel ≠ ⟨side, direction⟩ := fun direction same =>
      elsewhere (congrArg Channel.side same)
    rw [← after_eq]
    simp [apart]
  · intro _ taken
    cases accepted with
    | true =>
        rw [← after_eq]
        simp
    | false =>
        refine absurd ⟨⟨world.now, ⟨side, .reverse⟩, 0, false⟩, ?_, rfl, rfl⟩ taken
        simp [writes]
  · rintro ⟨write, member, onForward, refused⟩
    rw [writes] at member
    simp only [List.mem_cons, List.not_mem_nil, or_false] at member
    rcases member with same | same <;> rw [same] at onForward refused
    · cases refused
    · cases onForward

theorem halts_wheel (before after : World α) (channel : Channel)
    (halts : Halts channel.side before after) (taken : ¬ Refused before after channel) :
    after.bridges.duty channel = 0 ↔ ¬ Stranded before after channel := by
  rcases channel with ⟨side, _ | _⟩
  · refine ⟨fun _ stranded => ?_, fun _ => halts.forward taken⟩
    cases stranded.1
  · by_cases refused : Refused before after ⟨side, .forward⟩
    · rw [halts.kept refused]
      refine ⟨fun zero stranded => stranded.2.2 zero, fun free => ?_⟩
      exact Classical.byContradiction fun duty => free ⟨rfl, refused, duty⟩
    · exact ⟨fun _ stranded => refused stranded.2.1, fun _ => halts.reverse refused taken⟩

theorem refused_trans (before middle after : World α) (one : Extends before middle)
    (two : Extends middle after) (channel : Channel) :
    Refused before after channel ↔
      Refused before middle channel ∨ Refused middle after channel := by
  simp only [Refused]
  rw [writes_since_trans before middle after one two]
  constructor
  · rintro ⟨write, member, refused⟩
    rcases List.mem_append.mp member with early | late
    · exact .inl ⟨write, early, refused⟩
    · exact .inr ⟨write, late, refused⟩
  · rintro (⟨write, early, refused⟩ | ⟨write, late, refused⟩)
    · exact ⟨write, List.mem_append_left _ early, refused⟩
    · exact ⟨write, List.mem_append_right _ late, refused⟩

theorem halts_elsewhere (side : Side) (before after : World α) (halts : Halts side before after)
    (channel : Channel) (elsewhere : channel.side ≠ side) : ¬ Refused before after channel := by
  rintro ⟨write, member, onChannel, _⟩
  exact elsewhere (onChannel ▸ halts.own write member)

-- What the stop of the other wheel adds to the journal, before or after, is not about this wheel.
theorem halts_both (before middle after : World α) (left : Halts .left before middle)
    (right : Halts .right middle after) (channel : Channel)
    (taken : ¬ Refused before after channel) :
    after.bridges.duty channel = 0 ↔ ¬ Stranded before after channel := by
  have joined := refused_trans before middle after left.grown right.grown
  rcases channel with ⟨_ | _, direction⟩
  · have refused : ∀ towards, Refused before after ⟨.left, towards⟩ ↔
        Refused before middle ⟨.left, towards⟩ := fun towards =>
      (joined _).trans (or_iff_left (halts_elsewhere _ _ _ right _ (by simp)))
    have stranded : Stranded before after ⟨.left, direction⟩ ↔
        Stranded before middle ⟨.left, direction⟩ := by
      simp only [Stranded, Channel.partner]
      rw [refused]
    rw [right.other _ (by simp), stranded]
    exact halts_wheel _ _ _ left (fun was => taken ((refused _).mpr was))
  · have refused : ∀ towards, Refused before after ⟨.right, towards⟩ ↔
        Refused middle after ⟨.right, towards⟩ := fun towards =>
      (joined _).trans (or_iff_right (halts_elsewhere _ _ _ left _ (by simp)))
    have stranded : Stranded before after ⟨.right, direction⟩ ↔
        Stranded middle after ⟨.right, direction⟩ := by
      simp only [Stranded, Channel.partner]
      rw [refused, left.other _ (by simp)]
    rw [stranded]
    exact halts_wheel _ _ _ right (fun was => taken ((refused _).mpr was))

theorem halts_same (side : Side) (before after next : World α) (halts : Halts side before after)
    (journal : next.journal = after.journal) (bridges : next.bridges = after.bridges) :
    Halts side before next := by
  have writes : next.writesSince before = after.writesSince before := by
    simp only [writesSince]
    rw [journal]
  have refused : ∀ channel, Refused before next channel ↔ Refused before after channel := by
    intro channel
    simp only [Refused]
    rw [writes]
  refine ⟨?_, ?_, ?_, ?_, ?_, ?_⟩
  · simp only [Extends]
    rw [journal]
    exact halts.grown
  · rw [writes]
    exact halts.own
  · rw [bridges]
    exact halts.other
  · rw [refused, bridges]
    exact halts.forward
  · rw [refused, refused, bridges]
    exact halts.reverse
  · rw [refused, bridges]
    exact halts.kept

end World

theorem Motor.stop_final (motor : Motor) (world : World α) :
    Action.final motor.stop world = world.noted ⟨motor.side, .forward⟩ 0 false ∨
      ∃ accepted, Action.final motor.stop world =
        (world.noted ⟨motor.side, .forward⟩ 0 true).noted ⟨motor.side, .reverse⟩ 0 accepted := by
  rw [stop_eq, Action.final_bind_pure, load, Action.final_bind]
  simp only [write]
  cases came : World.write ⟨motor.side, .forward⟩ 0 world with
  | error fault next =>
      obtain ⟨_, _, rfl⟩ := World.write_error _ _ _ _ _ came
      exact .inl rfl
  | ok value next =>
      obtain ⟨_, rfl⟩ := World.write_ok _ _ _ _ _ came
      exact .inr ⟨_, World.final_write _ _ _⟩

theorem Motor.stop_halts (motor : Motor) :
    Action.Keeps (World.Halts motor.side) (motor.stop : Action (World α) Motor) := by
  intro world
  rcases motor.stop_final world with refused | ⟨accepted, released⟩
  · rw [refused]
    exact World.halts_refused motor.side world
  · rw [released]
    exact World.halts_released motor.side world accepted

namespace SpeedControl

theorem stop_wheel_halts (side : Side) (control : SpeedControl α) (wired : control.Wired) :
    World.Halts side control.world (Action.final (stopWheel side) control).world := by
  have halts := (control.motors.get side).stop_halts control.world
  rw [wired side] at halts
  simp only [Action.final] at halts ⊢
  simp only [stopWheel, command]
  rcases came : (control.motors.get side).stop control.world with ⟨motor, world⟩ | ⟨fault, world⟩ <;>
    rw [came] at halts
  · exact halts
  · exact World.halts_same _ _ _ _ halts rfl rfl

theorem final_stop (control : SpeedControl α) : Action.final stop control =
    Action.final (stopWheel .right) (Action.final (stopWheel .left) control) := by
  simp only [Action.final]
  rw [stop_apply]
  rcases stopWheel .left control with ⟨_, next⟩ | ⟨fault, next⟩ <;> rfl

theorem stop_channel (control : SpeedControl α) (wired : control.Wired) (channel : Channel)
    (taken : ¬ World.Refused control.world (Action.final stop control).world channel) :
    (Action.final stop control).world.bridges.duty channel = 0 ↔
      ¬ World.Stranded control.world (Action.final stop control).world channel := by
  have left := stop_wheel_over .left control
  have wiredToo : (Action.final (stopWheel .left) control).Wired :=
    fun side => (left.sides side).trans (wired side)
  rw [final_stop] at taken ⊢
  exact World.halts_both _ _ _ (stop_wheel_halts .left control wired)
    (stop_wheel_halts .right _ wiredToo) channel taken

end SpeedControl

variable [Scalar α]

@[simp] theorem World.bridges_delay (millis : Nat) (world : World α) :
    (world.delay millis).bridges = world.bridges := by
  induction millis generalizing world with
  | zero => rfl
  | succ count ih => exact ih world.tick

namespace Drive

omit [Scalar α] in
theorem stopped_world (drive : Drive α) :
    drive.stopped.world = (Action.final SpeedControl.stop drive.speed).world := by
  simp [stopped, stop]

theorem finish_stopped (settle : Nat) (motion : Action (Drive α) (Option Outcome))
    (drive : Drive α) (returned : Action.returns (finish settle motion drive) = true) :
    (Action.final (finish settle motion) drive).world.journal =
        (stopped (Action.final motion drive)).world.journal ∧
      (Action.final (finish settle motion) drive).world.bridges =
        (stopped (Action.final motion drive)).world.bridges := by
  rw [finish_apply] at returned
  simp only [stopped, Action.final]
  rw [finish_apply]
  rcases came : motion drive with ⟨none | outcome, ended⟩ | ⟨fault, ended⟩
  · rw [came] at returned
    cases returned
  · dsimp only [Action.landing]
    rcases stop ended with ⟨_, next⟩ | ⟨fault, next⟩
    · exact ⟨World.journal_delay settle next.world, World.bridges_delay settle next.world⟩
    · exact ⟨rfl, rfl⟩
  · exact ⟨rfl, rfl⟩

end Drive

def Primitive.ended (primitive : Primitive α) (drive : Drive α) : Drive α :=
  Action.final (primitive.course drive.config).loop (drive.say .info primitive.name)

theorem Primitive.run_channel (primitive : Primitive α) (drive : Drive α)
    (wired : drive.speed.Wired) (unblocked : drive.isBlocked = false)
    (returned : Action.returns (primitive.run drive) = true) (channel : Channel)
    (taken : ¬ World.Refused drive.world (Action.final primitive.run drive).world channel) :
    (Action.final primitive.run drive).world.bridges.duty channel = 0 ↔
      ¬ World.Stranded (primitive.ended drive).world (Action.final primitive.run drive).world
        channel := by
  have looped := (primitive.course drive.config).loop_over (drive.say .info primitive.name)
  have wiredToo : (primitive.ended drive).speed.Wired :=
    fun side => (looped.speed.sides side).trans (wired side)
  have begun : World.Extends drive.world (primitive.ended drive).world := by
    have grown := World.evolves_extends _ _ looped.speed.world
    exact grown
  have halted : World.Extends (primitive.ended drive).world (primitive.ended drive).stopped.world :=
    World.touched_extends _ _ (Drive.stop_over (primitive.ended drive)).speed.world
  have same : Action.final primitive.run drive = Action.final
      (Drive.finish primitive.settle (primitive.course drive.config).loop)
      (drive.say .info primitive.name) := by
    simp only [Action.final]
    rw [run_unblocked primitive drive unblocked]
  rw [run_unblocked primitive drive unblocked] at returned
  obtain ⟨journal, bridges⟩ := Drive.finish_stopped _ _ _ returned
  rw [← same] at journal bridges
  generalize Action.final primitive.run drive = after at taken journal bridges ⊢
  have writes : ∀ before : World α, after.world.writesSince before =
      (primitive.ended drive).stopped.world.writesSince before := by
    intro before
    simp only [World.writesSince]
    rw [journal]
    rfl
  have refused : ∀ before other, World.Refused before after.world other ↔
      World.Refused before (primitive.ended drive).stopped.world other := by
    intro before other
    simp only [World.Refused]
    rw [writes]
  have takenByStop : ¬ World.Refused (primitive.ended drive).world
      (primitive.ended drive).stopped.world channel := by
    rw [refused, World.refused_trans _ _ _ begun halted] at taken
    exact fun was => taken (.inr was)
  have stopped := SpeedControl.stop_channel (primitive.ended drive).speed wiredToo channel
  rw [← Drive.stopped_world] at stopped
  have stranded : World.Stranded (primitive.ended drive).world after.world channel ↔
      World.Stranded (primitive.ended drive).world (primitive.ended drive).stopped.world channel := by
    simp only [World.Stranded]
    rw [refused]
  rw [bridges, stranded]
  exact stopped takenByStop

namespace Drive

-- A stop, and a motion that comes to its end with a stop, leave a channel that took all their
-- writes without a duty, unless that stop left it stranded.
theorem released_unless_stranded (drive : Drive α) (reached : drive.Reachable) :
    (∀ channel, ¬ World.Refused drive.world drive.stopped.world channel →
      (drive.stopped.world.bridges.duty channel = 0 ↔
        ¬ World.Stranded drive.world drive.stopped.world channel)) ∧
    ∀ primitive : Primitive α, drive.isBlocked = false →
      Action.returns (primitive.run drive) = true →
      ∀ channel, ¬ World.Refused drive.world (Action.final primitive.run drive).world channel →
        ((Action.final primitive.run drive).world.bridges.duty channel = 0 ↔
          ¬ World.Stranded (primitive.ended drive).world (Action.final primitive.run drive).world
            channel) := by
  have wired := reachable_wired drive reached
  refine ⟨fun channel taken => ?_, fun primitive unblocked returned channel taken =>
    primitive.run_channel drive wired unblocked returned channel taken⟩
  rw [stopped_world] at taken ⊢
  exact SpeedControl.stop_channel drive.speed wired channel taken

def reversing : Drive Float :=
  (parked 2376 0).after [.drive ⟨-500, 0⟩, .fail ⟨.left, .forward⟩]

theorem reversing_reachable : reversing.Reachable := reachable_after _ _ (parked_reachable 2376 0)

instance (before after : World α) (channel : Channel) :
    Decidable (World.Refused before after channel) :=
  inferInstanceAs (Decidable (∃ write ∈ after.writesSince before,
    write.channel = channel ∧ write.accepted = false))

theorem healthy_channel_left_driven : reversing.Reachable ∧
    ¬ World.Refused reversing.world reversing.stopped.world ⟨.left, .reverse⟩ ∧
    reversing.stopped.world.bridges.duty ⟨.left, .reverse⟩ = 500 := by
  exact ⟨reversing_reachable, by decide +kernel, by decide +kernel⟩

-- The same robot is then asked to move backward: its first command fails at once, and so does the
-- stop after it.
def backing : Primitive Float := .moveAt .reverse 65 10.0

theorem backing_within :
    Action.returns (backing.runWithin 1 reversing) = true ∧
      ¬ World.Refused reversing.world (Action.landing (backing.runWithin 1 reversing)).world
        ⟨.left, .reverse⟩ := by
  decide +kernel

theorem backing_left_stranded :
    (Action.returns (backing.run reversing) = true ∧
      ¬ World.Refused reversing.world (Action.final backing.run reversing).world
        ⟨.left, .reverse⟩) ∧
    ((Action.final backing.run reversing).world.bridges.duty ⟨.left, .reverse⟩ = 0 ↔
      ¬ World.Stranded (backing.ended reversing).world (Action.final backing.run reversing).world
        ⟨.left, .reverse⟩) := by
  have computed := backing.run_eq_within 1 reversing backing_within.1
  have returned : Action.returns (backing.run reversing) = true := by
    rw [computed]
    exact backing_within.1
  have taken : ¬ World.Refused reversing.world (Action.final backing.run reversing).world
      ⟨.left, .reverse⟩ := by
    rw [Action.final, computed]
    exact backing_within.2
  exact ⟨⟨returned, taken⟩, (released_unless_stranded reversing reversing_reachable).2 backing
    (by decide) returned _ taken⟩

end Drive

end Rover
