import Rover.Proofs.Journal
import Rover.Proofs.Session

/-!
That both channels of a bridge are never driven holds between any two writes of a motor, so it is
stated of the journal, whose writes are played back one by one.
-/

set_option autoImplicit false

namespace Rover

variable {α : Type}

def Bridge.Safe (bridge : Bridge) : Prop :=
  (bridge.forward = 0 ∨ bridge.reverse = 0) ∧
    (bridge.forward : Int) ≤ maxDuty ∧ (bridge.reverse : Int) ≤ maxDuty

def Both.Safe (bridges : Both Bridge) : Prop := ∀ side, (bridges.get side).Safe

theorem safe_set (bridge : Bridge) (direction : Direction) (duty : Nat) (safe : bridge.Safe)
    (free : duty ≠ 0 → (duty : Int) ≤ maxDuty ∧ bridge.get direction.flip = 0) :
    (bridge.set direction duty).Safe := by
  obtain ⟨exclusive, forward, reverse⟩ := safe
  have positive : 0 ≤ maxDuty := by decide
  by_cases released : duty = 0
  · subst released
    cases direction with
    | forward => exact ⟨.inl rfl, positive, reverse⟩
    | reverse => exact ⟨.inr rfl, forward, positive⟩
  · obtain ⟨bounded, partner⟩ := free released
    cases direction with
    | forward => exact ⟨.inr partner, bounded, reverse⟩
    | reverse => exact ⟨.inl partner, forward, bounded⟩

theorem safe_with_duty (bridges : Both Bridge) (channel : Channel) (duty : Nat)
    (safe : bridges.Safe)
    (free : duty ≠ 0 → (duty : Int) ≤ maxDuty ∧ bridges.duty channel.partner = 0) :
    (bridges.withDuty channel duty).Safe := by
  intro side
  by_cases own : side = channel.side
  · simpa [own, Both.withDuty] using safe_set _ _ _ (safe channel.side) free
  · simpa [own, Both.withDuty] using safe side

def PwmWrite.applied (bridges : Both Bridge) (write : PwmWrite) : Both Bridge :=
  if write.accepted then bridges.withDuty write.channel write.duty else bridges

def replay (bridges : Both Bridge) (writes : List PwmWrite) : Both Bridge :=
  writes.foldl PwmWrite.applied bridges

theorem replay_append (bridges : Both Bridge) (early late : List PwmWrite) :
    replay bridges (early ++ late) = replay (replay bridges early) late :=
  List.foldl_append

namespace World

theorem replayed_noted (before after : World α) (channel : Channel) (duty : Nat) (accepted : Bool)
    (grown : Extends before after)
    (replayed : after.bridges = replay before.bridges (after.writesSince before)) :
    (after.noted channel duty accepted).bridges =
      replay before.bridges ((after.noted channel duty accepted).writesSince before) := by
  rw [writes_since_noted _ _ _ _ _ grown, replay_append, ← replayed]
  rfl

-- The journal accounts for the duties, and all along it the bridges were safe.
structure Exclusive (before after : World α) : Prop where
  grown : Extends before after
  replayed : after.bridges = replay before.bridges (after.writesSince before)
  safe : ∀ past, past <+: after.writesSince before → (replay before.bridges past).Safe

theorem exclusive_refl (world : World α) (safe : world.bridges.Safe) : Exclusive world world := by
  refine ⟨extends_refl world, by simp [replay], fun past early => ?_⟩
  rw [writes_since_self, List.prefix_nil] at early
  rw [early]
  exact safe

theorem exclusive_safe (before after : World α) (exclusive : Exclusive before after) :
    after.bridges.Safe := by
  rw [exclusive.replayed]
  exact exclusive.safe _ List.prefix_rfl

theorem exclusive_same (before after next : World α) (exclusive : Exclusive before after)
    (journal : next.journal = after.journal) (bridges : next.bridges = after.bridges) :
    Exclusive before next := by
  have writes : next.writesSince before = after.writesSince before := by
    simp only [writesSince, journal]
  refine ⟨?_, ?_, ?_⟩
  · simpa only [Extends, journal] using exclusive.grown
  · rw [bridges, writes]
    exact exclusive.replayed
  · rw [writes]
    exact exclusive.safe

theorem exclusive_noted (before after : World α) (channel : Channel) (duty : Nat) (accepted : Bool)
    (exclusive : Exclusive before after)
    (free : duty ≠ 0 → (duty : Int) ≤ maxDuty ∧ after.bridges.duty channel.partner = 0) :
    Exclusive before (after.noted channel duty accepted) := by
  have safe := exclusive_safe before after exclusive
  have played := replayed_noted _ _ channel duty accepted exclusive.grown exclusive.replayed
  refine ⟨extends_trans _ _ _ exclusive.grown ⟨[_], rfl⟩, played, fun past early => ?_⟩
  rw [writes_since_noted _ _ _ _ _ exclusive.grown, List.prefix_concat_iff] at early
  rcases early with whole | earlier
  · rw [whole, ← writes_since_noted _ _ _ _ _ exclusive.grown, ← played]
    cases accepted with
    | true => exact safe_with_duty _ _ _ safe free
    | false => exact safe
  · exact exclusive.safe past earlier

theorem exclusive_event [Scalar α] (before after next : World α) (exclusive : Exclusive before after)
    (event : Event after next) : Exclusive before next := by
  cases event with
  | touch _ touch =>
      cases touch with
      | write channel duty free =>
          rw [final_write]
          exact exclusive_noted _ _ _ _ _ exclusive free
      | say level source text => exact exclusive_same _ _ _ exclusive rfl rfl
  | tick => exact exclusive_same _ _ _ exclusive rfl rfl
  | preset positions => exact exclusive_same _ _ _ exclusive rfl rfl

theorem exclusive_evolves [Scalar α] (before after next : World α)
    (exclusive : Exclusive before after) (evolves : Evolves after next) : Exclusive before next := by
  induction evolves with
  | refl => exact exclusive
  | tail _ event ih => exact exclusive_event _ _ _ ih event

end World

variable [Scalar α]

theorem Step.act_exclusive (step : Step α) (spared : step.sparesChannels = true) (before : World α)
    (drive : Drive α) (exclusive : World.Exclusive before drive.world) :
    World.Exclusive before (Action.final step.act drive).world := by
  have effect := (step.act_over drive).speed.world
  have conditioned : World.Conditioned drive.world (Action.final step.act drive).world →
      World.Exclusive before (Action.final step.act drive).world := by
    rintro ⟨failing, blocked, changed⟩
    rw [changed]
    exact World.exclusive_same _ _ _ exclusive rfl rfl
  cases step with
  | setDuty channel duty => cases spared
  | fail _ | heal _ | block | unblock => exact conditioned effect
  | _ => exact World.exclusive_evolves _ _ _ exclusive effect

namespace Drive

theorem after_exclusive (steps : List (Step α))
    (spared : ∀ step ∈ steps, step.sparesChannels = true) (before : World α) (drive : Drive α)
    (exclusive : World.Exclusive before drive.world) :
    World.Exclusive before (drive.after steps).world := by
  induction steps generalizing drive with
  | nil => exact exclusive
  | cons step rest ih =>
      obtain ⟨head, tail⟩ := List.forall_mem_cons.mp spared
      exact ih tail _ (step.act_exclusive head before drive exclusive)

-- A motion need not end, so the writes of one under way are looked at too, round by round.
theorem channels_exclusive (drive : Drive α) (steps : List (Step α))
    (idle : drive.world.bridges = .const {})
    (spared : ∀ step ∈ steps, step.sparesChannels = true) :
    World.Exclusive drive.world (drive.after steps).world ∧
    ∀ (primitive : Primitive α) (rounds : Nat),
      World.Exclusive drive.world (primitive.underway rounds (drive.after steps)).world := by
  have safe : drive.world.bridges.Safe := by
    rw [idle]
    intro side
    cases side <;> exact ⟨.inl rfl, by decide, by decide⟩
  have exclusive := after_exclusive steps spared drive.world drive
    (World.exclusive_refl drive.world safe)
  exact ⟨exclusive, fun primitive rounds => World.exclusive_evolves _ _ _ exclusive
    (primitive.underway_over rounds _).speed.world⟩

def reversal : List (Step Float) :=
  [.drive ⟨700, -700⟩, .fail ⟨.left, .reverse⟩, .drive ⟨-2000, 2000⟩, .run ⟨40, 40⟩]

theorem reversal_exclusive : (parked 2376 0).world.bridges = .const {} ∧
    (∀ step ∈ reversal, step.sparesChannels = true) ∧
    World.Exclusive (parked 2376 0).world ((parked 2376 0).after reversal).world := by
  have spared : ∀ step ∈ reversal, step.sparesChannels = true := by decide
  exact ⟨rfl, spared, (channels_exclusive (parked 2376 0) reversal rfl spared).1⟩

end Drive

end Rover
