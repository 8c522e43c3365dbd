import Mathlib.Data.List.Induction
import Rover.Proofs.Effects

/-!
A motor remembers its duty at the end of a call, so that a call cut short between its two writes
leaves the duty of an earlier one behind.
-/

set_option autoImplicit false

namespace Rover

variable {α : Type}

namespace Bridge

theorem carrying_net (duty : Int) (within : clampTo maxDuty duty = duty) :
    (carrying duty).net = duty := by
  simp only [carrying, net, within]
  by_cases back : duty < 0
  · simp only [if_pos back]
    omega
  · simp only [if_neg back]
    omega

theorem set_idle (bridge : Bridge) (direction : Direction) (idle : bridge.get direction = 0) :
    bridge.set direction 0 = bridge := by
  rw [← idle]
  cases direction <;> rfl

theorem carrying_released (duty : Int) (direction : Direction)
    (carried : (carrying duty).get direction ≠ 0) :
    duty ≠ 0 ∧ (carrying duty).set direction 0 = {} := by
  refine ⟨?_, ?_⟩
  · rintro rfl
    cases direction <;> exact carried rfl
  · simp only [carrying] at carried ⊢
    by_cases back : clampTo maxDuty duty < 0
    · simp only [if_pos back] at carried ⊢
      cases direction with
      | forward => exact absurd rfl carried
      | reverse => rfl
    · simp only [if_neg back] at carried ⊢
      cases direction with
      | forward => rfl
      | reverse => exact absurd rfl carried

end Bridge

namespace Motor

inductive Call where
  | drive (duty : Int)
  | stop
deriving DecidableEq, Repr

namespace Call

def duty : Call → Int
  | drive duty => clampTo maxDuty duty
  | stop => 0

def released : Call → Direction
  | drive duty => idle duty
  | stop => .forward

def act : Call → Motor → Action (World α) Motor
  | drive duty, motor => motor.drive duty
  | stop, motor => motor.stop

def told (call : Call) (motor : Motor) (world : World α) : World α :=
  match call with
  | drive duty => motor.noteDrive (clampTo maxDuty duty) world
  | stop => world

theorem duty_clamped (call : Call) : clampTo maxDuty call.duty = call.duty := by
  cases call with
  | drive duty => exact clamp_clamped duty
  | stop => rfl

theorem act_eq (call : Call) (motor : Motor) : (call.act motor : Action (World α) Motor) = do
    modify (call.told motor)
    motor.load call.released call.duty.natAbs
    return { motor with duty := call.duty } := by
  cases call with
  | drive duty => exact drive_eq motor duty
  | stop => exact stop_eq motor

theorem act_apply (call : Call) (motor : Motor) (world : World α) :
    call.act motor world =
      match motor.load call.released call.duty.natAbs (call.told motor world) with
      | .ok _ next => .ok { motor with duty := call.duty } next
      | .error fault next => .error fault next := by
  rw [act_eq]
  change (motor.load call.released call.duty.natAbs >>= fun _ => pure _) (call.told motor world) = _
  rw [Action.bind_apply]
  cases motor.load call.released call.duty.natAbs (call.told motor world) <;> rfl

@[simp] theorem told_bridges (call : Call) (motor : Motor) (world : World α) :
    (call.told motor world).bridges = world.bridges := by
  cases call <;> rfl

@[simp] theorem told_failing (call : Call) (motor : Motor) (world : World α) :
    (call.told motor world).failing = world.failing := by
  cases call <;> rfl

@[simp] theorem told_moment (call : Call) (motor : Motor) (world : World α) :
    (call.told motor world).moment = world.moment := by
  cases call <;> rfl

@[simp] theorem loaded_carrying (call : Call) (bridge : Bridge) :
    (bridge.set call.released 0).set call.released.flip call.duty.natAbs =
      Bridge.carrying call.duty := by
  cases call with
  | drive duty =>
      simp only [released, Call.duty, idle, Bridge.carrying, clamp_clamped]
      by_cases back : clampTo maxDuty duty < 0
      · simp only [if_pos back, Direction.flip, Bridge.set]
      · simp only [if_neg back, Direction.flip, Bridge.set]
  | stop => rfl

end Call

theorem load_apply (motor : Motor) (idle : Direction) (duty : Nat) (world : World α) :
    motor.load idle duty world =
      if world.failing world.moment ⟨motor.side, idle⟩ then
        .error ⟨motor.side, idle⟩ (world.noted ⟨motor.side, idle⟩ 0 false)
      else
        let released := world.noted ⟨motor.side, idle⟩ 0 true
        if world.failing (world.moment + 1) ⟨motor.side, idle.flip⟩ then
          .error ⟨motor.side, idle.flip⟩ (released.noted ⟨motor.side, idle.flip⟩ duty false)
        else .ok () (released.noted ⟨motor.side, idle.flip⟩ duty true) := by
  simp only [load, write, Action.bind_apply, World.write_apply]
  by_cases refused : world.failing world.moment ⟨motor.side, idle⟩
  · simp only [if_pos refused]
  · simp only [if_neg refused]
    rfl

end Motor

open Motor (Call)

-- A motor on the bench: nobody but its own calls writes to its channels.
structure Bench (α : Type) where
  motor : Motor
  world : World α

namespace Bench

variable (bench : Bench α) (call : Call)

def bridge : Bridge := bench.world.bridges.get bench.motor.side

def make : Bench α :=
  match call.act bench.motor bench.world with
  | .ok motor world => ⟨motor, world⟩
  | .error _ world => { bench with world }

def after (calls : List Call) : Bench α := calls.foldl make bench

def Fails : Prop := ∃ fault world, call.act bench.motor bench.world = .error fault world

-- The call took a duty off the wheel and could not lay the new one on.
structure CutShort : Prop where
  carried : bench.bridge.get call.released ≠ 0
  accepted : bench.world.failing bench.world.moment ⟨bench.motor.side, call.released⟩ = false
  refused : bench.world.failing (bench.world.moment + 1)
    ⟨bench.motor.side, call.released.flip⟩ = true

inductive Lapsed : List Call → Prop where
  | cut (calls : List Call) (call : Call) (short : (bench.after calls).CutShort call) :
      Lapsed (calls ++ [call])
  | still (calls : List Call) (call : Call) (lapsed : Lapsed calls)
      (fails : (bench.after calls).Fails call) : Lapsed (calls ++ [call])

theorem lapsed_snoc (calls : List Call) : bench.Lapsed (calls ++ [call]) ↔
    (bench.after calls).CutShort call ∨
      bench.Lapsed calls ∧ (bench.after calls).Fails call := by
  constructor
  · intro lapsed
    generalize whole : calls ++ [call] = history at lapsed
    cases lapsed with
    | cut before last short =>
        obtain ⟨rfl, rfl⟩ := List.append_singleton_inj.mp whole
        exact .inl short
    | still before last lapsed fails =>
        obtain ⟨rfl, rfl⟩ := List.append_singleton_inj.mp whole
        exact .inr ⟨lapsed, fails⟩
  · rintro (short | ⟨lapsed, fails⟩)
    · exact .cut calls call short
    · exact .still calls call lapsed fails

-- What a call can come to. One that is refused its second write has touched nothing either, unless
-- it took a duty off the wheel.
inductive Made (next : Bench α) : Prop where
  | untouched (whole : ¬bench.CutShort call) (fails : bench.Fails call)
      (motor : next.motor = bench.motor) (bridge : next.bridge = bench.bridge)
  | cut (short : bench.CutShort call) (fails : bench.Fails call)
      (motor : next.motor = bench.motor) (bridge : next.bridge = bench.bridge.set call.released 0)
  | loaded (whole : ¬bench.CutShort call) (through : ¬bench.Fails call)
      (motor : next.motor = { bench.motor with duty := call.duty })
      (bridge : next.bridge = Bridge.carrying call.duty)

theorem made : bench.Made call (bench.make call) := by
  have acted := call.act_apply bench.motor bench.world
  rw [Motor.load_apply, Call.told_failing, Call.told_moment] at acted
  by_cases first : bench.world.failing bench.world.moment ⟨bench.motor.side, call.released⟩
  · rw [if_pos first] at acted
    refine .untouched (fun short => ?_) ⟨_, _, acted⟩ ?_ ?_
    · rw [short.accepted] at first
      cases first
    · simp only [make, acted]
    · simp [make, acted, bridge, World.noted]
  rw [if_neg first] at acted
  by_cases second : bench.world.failing (bench.world.moment + 1)
      ⟨bench.motor.side, call.released.flip⟩
  · simp only [if_pos second] at acted
    have motor : (bench.make call).motor = bench.motor := by simp only [make, acted]
    have bridge : (bench.make call).bridge = bench.bridge.set call.released 0 := by
      simp [make, acted, bridge, World.noted, Both.withDuty]
    by_cases idle : bench.bridge.get call.released = 0
    · rw [Bridge.set_idle _ _ idle] at bridge
      exact .untouched (fun short => short.carried idle) ⟨_, _, acted⟩ motor bridge
    · exact .cut ⟨idle, Bool.eq_false_iff.mpr first, second⟩ ⟨_, _, acted⟩ motor bridge
  · simp only [if_neg second] at acted
    refine .loaded (fun short => second short.refused) ?_ ?_ ?_
    · rintro ⟨fault, world, failed⟩
      rw [acted] at failed
      cases failed
    · simp only [make, acted]
    · simp [make, acted, bridge, World.noted, Both.withDuty]

structure Carries : Prop where
  within : clampTo maxDuty bench.motor.duty = bench.motor.duty
  carried : bench.bridge = Bridge.carrying bench.motor.duty

structure LetGo : Prop where
  within : clampTo maxDuty bench.motor.duty = bench.motor.duty
  remembered : bench.motor.duty ≠ 0
  free : bench.bridge = {}

section Make

variable {bench call} {next : Bench α}

theorem loaded_carries (motor : next.motor = { bench.motor with duty := call.duty })
    (bridge : next.bridge = Bridge.carrying call.duty) : next.Carries := by
  have same : next.motor.duty = call.duty := by rw [motor]
  exact ⟨by rw [same, call.duty_clamped], by rw [same, bridge]⟩

theorem made_carries (made : bench.Made call next) (carries : bench.Carries) :
    (bench.CutShort call → next.LetGo) ∧ (¬bench.CutShort call → next.Carries) := by
  cases made with
  | untouched whole fails motor bridge =>
      refine ⟨fun short => absurd short whole, fun _ => ⟨?_, ?_⟩⟩
      · rw [motor, carries.within]
      · rw [motor, bridge, carries.carried]
  | cut short fails motor bridge =>
      have carried := short.carried
      rw [carries.carried] at carried bridge
      obtain ⟨remembered, free⟩ := Bridge.carrying_released _ _ carried
      refine ⟨fun _ => ⟨?_, ?_, bridge.trans free⟩, fun whole => absurd short whole⟩
      · rw [motor, carries.within]
      · rwa [motor]
  | loaded whole through motor bridge =>
      exact ⟨fun short => absurd short whole, fun _ => loaded_carries motor bridge⟩

theorem let_go_whole (free : bench.LetGo) : ¬bench.CutShort call := by
  intro short
  have carried := short.carried
  rw [free.free] at carried
  cases came : call.released <;> rw [came] at carried <;> exact carried rfl

theorem made_let_go (made : bench.Made call next) (free : bench.LetGo) :
    (bench.Fails call → next.LetGo) ∧ (¬bench.Fails call → next.Carries) := by
  cases made with
  | untouched whole fails motor bridge =>
      refine ⟨fun _ => ⟨?_, ?_, bridge.trans free.free⟩, fun through => absurd fails through⟩
      · rw [motor, free.within]
      · rw [motor]
        exact free.remembered
  | cut short fails motor bridge => exact absurd short (let_go_whole free)
  | loaded whole through motor bridge =>
      exact ⟨fun fails => absurd fails through, fun _ => loaded_carries motor bridge⟩

end Make

-- By induction on the calls: the last one starts either from a wheel that carries what the motor
-- remembers or from one that was let go.
theorem told_apart (carries : bench.Carries) (calls : List Call) :
    (bench.Lapsed calls → (bench.after calls).LetGo) ∧
    (¬bench.Lapsed calls → (bench.after calls).Carries) := by
  induction calls using List.reverseRecOn with
  | nil =>
      refine ⟨fun lapsed => ?_, fun _ => carries⟩
      generalize nothing : ([] : List Call) = history at lapsed
      cases lapsed <;> simp at nothing
  | append_singleton calls call ih =>
      have step : bench.after (calls ++ [call]) = (bench.after calls).make call := by
        simp only [after, List.foldl_append, List.foldl_cons, List.foldl_nil]
      rw [lapsed_snoc, step]
      by_cases lapsed : bench.Lapsed calls
      · obtain ⟨failed, through⟩ := made_let_go ((bench.after calls).made call) (ih.1 lapsed)
        refine ⟨?_, fun ended => through fun fails => ended (.inr ⟨lapsed, fails⟩)⟩
        rintro (short | ⟨_, fails⟩)
        · exact absurd short (let_go_whole (ih.1 lapsed))
        · exact failed fails
      · obtain ⟨cut, went⟩ := made_carries ((bench.after calls).made call) (ih.2 lapsed)
        refine ⟨?_, fun ended => went fun short => ended (.inl short)⟩
        rintro (short | ⟨before, _⟩)
        · exact cut short
        · exact absurd before lapsed

theorem reported_unless_lapsed (side : Side) (world : World α)
    (idle : world.bridges.get side = {}) (calls : List Call) :
    let ended := (⟨.new side, world⟩ : Bench α).after calls
    (ended.motor.duty = ended.bridge.net ↔ ¬Lapsed ⟨.new side, world⟩ calls) ∧
    (ended.bridge = Bridge.carrying ended.motor.duty ∨ ended.bridge = {}) := by
  have carries : Carries (⟨.new side, world⟩ : Bench α) := by
    cases side <;> exact ⟨rfl, idle⟩
  obtain ⟨lapse, agree⟩ := told_apart _ carries calls
  dsimp only
  by_cases lapsed : Lapsed ⟨.new side, world⟩ calls
  · have free := lapse lapsed
    refine ⟨⟨fun same => ?_, fun never => absurd lapsed never⟩, .inr free.free⟩
    rw [free.free] at same
    exact absurd same free.remembered
  · have held := agree lapsed
    refine ⟨⟨fun _ => lapsed, fun _ => ?_⟩, .inl held.carried⟩
    rw [held.carried, Bridge.carrying_net _ held.within]

def pinched : Bench Float where
  motor := .new .left
  world := { World.simulated 2376 (.constant 0) 0 with
    failing := fun moment channel => 2 ≤ moment && moment < 4 && channel = ⟨.left, .reverse⟩ }

theorem cut_reversal_misreported :
    (pinched.after [.drive 500, .drive (-300)]).motor.duty = 500 ∧
    (pinched.after [.drive 500, .drive (-300)]).bridge.net = 0 := by
  exact ⟨rfl, rfl⟩

theorem pinched_agrees_again : pinched.world.bridges.get .left = {} ∧
    Lapsed pinched [.drive 500, .drive (-300)] ∧
    ¬Lapsed pinched [.drive 500, .drive (-300), .drive 200] := by
  have idle : pinched.world.bridges.get .left = {} := rfl
  refine ⟨idle, ?_, ?_⟩
  · by_contra never
    have same := (reported_unless_lapsed .left pinched.world idle _).1.mpr never
    exact absurd same (by decide)
  · exact (reported_unless_lapsed .left pinched.world idle _).1.mp rfl

end Bench

end Rover
