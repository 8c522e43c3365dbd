import Rover.Proofs.Effects

set_option autoImplicit false

namespace Rover

variable {α σ β γ : Type}

namespace World

def Extends (before after : World α) : Prop := ∃ fresh, after.journal = fresh ++ before.journal

theorem extends_refl (world : World α) : Extends world world := ⟨[], rfl⟩

theorem extends_trans (first second third : World α) (one : Extends first second)
    (two : Extends second third) : Extends first third := by
  obtain ⟨early, grown⟩ := one
  obtain ⟨late, grownToo⟩ := two
  exact ⟨late ++ early, by rw [grownToo, grown, List.append_assoc]⟩

theorem writes_since_append (before after : World α) (fresh : List PwmWrite)
    (grown : after.journal = fresh ++ before.journal) : after.writesSince before = fresh.reverse := by
  simp only [writesSince]
  rw [grown, List.length_append, Nat.add_sub_cancel, List.take_left]

theorem writes_since_trans (first second third : World α) (one : Extends first second)
    (two : Extends second third) :
    third.writesSince first = second.writesSince first ++ third.writesSince second := by
  obtain ⟨early, grown⟩ := one
  obtain ⟨late, grownToo⟩ := two
  have all : third.journal = (late ++ early) ++ first.journal := by
    rw [grownToo, grown, List.append_assoc]
  rw [writes_since_append _ _ _ grown, writes_since_append _ _ _ grownToo,
    writes_since_append _ _ _ all, List.reverse_append]

theorem writes_since_same (before after : World α) (same : after.journal = before.journal) :
    after.writesSince before = [] :=
  writes_since_append before after [] same

@[simp] theorem writes_since_self (world : World α) : world.writesSince world = [] :=
  writes_since_same world world rfl

theorem writes_since_noted (before after : World α) (channel : Channel) (duty : Nat)
    (accepted : Bool) (grown : Extends before after) :
    (after.noted channel duty accepted).writesSince before =
      after.writesSince before ++ [⟨after.now, channel, duty, accepted⟩] := by
  have fresh : Extends after (after.noted channel duty accepted) := ⟨[_], rfl⟩
  rw [writes_since_trans _ _ _ grown fresh, writes_since_append after _ [_] rfl]
  rfl

theorem touch_extends (before after : World α) (touch : Touch before after) :
    Extends before after := by
  cases touch with
  | write channel duty safe =>
      rw [final_write]
      exact ⟨[_], rfl⟩
  | say level source text => exact extends_refl before

theorem touched_extends (before after : World α) (touched : Touched before after) :
    Extends before after := by
  induction touched with
  | refl => exact extends_refl before
  | tail _ touch ih => exact extends_trans _ _ _ ih (touch_extends _ _ touch)

theorem evolves_extends [Scalar α] (before after : World α) (evolves : Evolves before after) :
    Extends before after := by
  induction evolves with
  | refl => exact extends_refl before
  | tail _ event ih =>
      refine extends_trans _ _ _ ih ?_
      cases event with
      | touch _ touch => exact touch_extends _ _ touch
      | tick => exact extends_refl _
      | preset positions => exact extends_refl _

theorem event_accepted [Scalar α] (before after : World α) (event : Event before after)
    (healthy : ∀ moment channel, before.failing moment channel = false) :
    after.failing = before.failing ∧ ∀ write ∈ after.writesSince before, write.accepted = true := by
  have silent : ∀ next : World α, next.journal = before.journal →
      ∀ write ∈ next.writesSince before, write.accepted = true := by
    intro next same write member
    rw [writes_since_same _ _ same] at member
    cases member
  cases event with
  | touch _ touch =>
      cases touch with
      | write channel duty safe =>
          rw [final_write]
          refine ⟨rfl, fun write member => ?_⟩
          rw [writes_since_noted _ _ _ _ _ (extends_refl before), writes_since_self] at member
          rw [List.mem_singleton.mp member, healthy]
          rfl
      | say level source text => exact ⟨rfl, silent _ rfl⟩
  | tick => exact ⟨rfl, silent _ rfl⟩
  | preset positions => exact ⟨rfl, silent _ rfl⟩

theorem evolves_accepted [Scalar α] (before after : World α) (evolves : Evolves before after)
    (healthy : ∀ moment channel, before.failing moment channel = false) :
    after.failing = before.failing ∧ ∀ write ∈ after.writesSince before, write.accepted = true := by
  induction evolves with
  | refl => exact ⟨rfl, by simp⟩
  | tail early event ih =>
      have step := event_accepted _ _ event (by rw [ih.1]; exact healthy)
      refine ⟨step.1.trans ih.1, fun write member => ?_⟩
      rw [writes_since_trans _ _ _ (evolves_extends _ _ early)
        (evolves_extends _ _ (.single event)), List.mem_append] at member
      exact member.elim (ih.2 write) (step.2 write)

end World

def firstRefused (writes : List PwmWrite) : Option PwmFault :=
  (writes.find? fun write => !write.accepted).map fun write => ⟨write.channel⟩

theorem first_refused_append (early late : List PwmWrite) :
    firstRefused (early ++ late) = (firstRefused early).or (firstRefused late) := by
  simp only [firstRefused]
  rw [List.find?_append]
  cases early.find? fun write => !write.accepted <;> rfl

theorem first_refused_none_iff (writes : List PwmWrite) :
    firstRefused writes = none ↔ ∀ write ∈ writes, write.accepted = true := by
  simp only [firstRefused]
  simp

theorem first_refused_some (writes : List PwmWrite) (fault : PwmFault)
    (first : firstRefused writes = some fault) :
    ∃ write ∈ writes, write.accepted = false ∧ fault = ⟨write.channel⟩ := by
  simp only [firstRefused] at first
  obtain ⟨write, found, rfl⟩ := Option.map_eq_some_iff.mp first
  exact ⟨write, List.mem_of_find?_eq_some found, by simpa using List.find?_some found, rfl⟩

theorem first_refused_of_mem (writes : List PwmWrite) (write : PwmWrite) (member : write ∈ writes)
    (refused : write.accepted = false) : ∃ fault, firstRefused writes = some fault := by
  apply Option.ne_none_iff_exists'.mp
  intro none
  have accepted := (first_refused_none_iff writes).mp none write member
  rw [refused] at accepted
  cases accepted

namespace Action

-- `view` is where a state keeps its world.
structure Told (view : σ → World α) (before after : σ) (fault : Option PwmFault) : Prop where
  grown : World.Extends (view before) (view after)
  fault : fault = firstRefused ((view after).writesSince (view before))

def Truthful (view : σ → World α) (action : Action σ β) : Prop :=
  ∀ state, Told view state (final action state) (fault? action state)

variable {view : σ → World α}

theorem told_silent (before after : σ) (same : (view after).journal = (view before).journal) :
    Told view before after none := by
  refine ⟨⟨[], same⟩, ?_⟩
  rw [World.writes_since_same _ _ same]
  rfl

theorem told_trans (first second third : σ) (early late : Option PwmFault)
    (one : Told view first second early) (two : Told view second third late) :
    Told view first third (early.or late) := by
  refine ⟨World.extends_trans _ _ _ one.grown two.grown, ?_⟩
  rw [World.writes_since_trans _ _ _ one.grown two.grown, first_refused_append, ← one.fault,
    ← two.fault]

theorem truthful_silent (action : Action σ β) (succeeds : ∀ state, fault? action state = none)
    (same : ∀ state, (view (final action state)).journal = (view state).journal) :
    Truthful view action := by
  intro state
  rw [succeeds]
  exact told_silent _ _ (same state)

theorem truthful_bind (first : Action σ β) (rest : β → Action σ γ) (head : Truthful view first)
    (tail : ∀ value, Truthful view (rest value)) : Truthful view (first >>= rest) := by
  intro state
  have told := head state
  rw [final_bind, fault_bind]
  simp only [final, fault?] at told
  rcases came : first state with ⟨value, next⟩ | ⟨fault, next⟩ <;> rw [came] at told
  · exact told_trans _ _ _ none _ told (tail value next)
  · exact told

theorem truthful_get_bind (rest : σ → Action σ β)
    (tail : ∀ state, Told view state (final (rest state) state) (fault? (rest state) state)) :
    Truthful view (get >>= rest) :=
  fun state => tail state

theorem told_set_bind (state next : σ) (rest : PUnit → Action σ β)
    (same : (view next).journal = (view state).journal) (tail : Truthful view (rest ⟨⟩)) :
    Told view state (final (set next >>= rest) state) (fault? (set next >>= rest) state) :=
  told_trans _ _ _ none _ (told_silent state next same) (tail next)

theorem truthful_pure (value : β) : Truthful view (pure value) :=
  truthful_silent _ (fun _ => rfl) fun _ => rfl

theorem truthful_modify (change : σ → σ)
    (same : ∀ state, (view (change state)).journal = (view state).journal) :
    Truthful view (modify change) :=
  truthful_silent _ (fun _ => rfl) same

theorem truthful_within {τ : Type} {inner : τ → World α} (part : σ → τ) (put : τ → σ → σ)
    (action : Action τ β) (enters : ∀ state, inner (part state) = view state)
    (leaves : ∀ state next, view (put next state) = inner next)
    (truthful : Truthful inner action) : Truthful view (within part put action) := by
  intro state
  have told := truthful (part state)
  rw [final_within, fault_within]
  refine ⟨?_, ?_⟩
  · rw [leaves, ← enters]
    exact told.grown
  · rw [leaves, ← enters]
    exact told.fault

theorem told_repeated_within (round : Round σ β γ)
    (truthful : ∀ given, Truthful view (round given)) (limit : Nat) (given : γ) (state : σ)
    (result : EStateM.Result PwmFault σ β)
    (ended : repeatedWithin round limit given state = some result) :
    Told view state (landing result) (failure result) := by
  induction limit generalizing given state with
  | zero => cases ended
  | succ count ih =>
      have told := truthful given state
      simp only [final, fault?] at told
      rw [repeatedWithin] at ended
      rcases came : round given state with ⟨value | next, after⟩ | ⟨fault, after⟩ <;>
        rw [came] at told ended
      · cases ended
        exact told
      · exact told_trans _ _ _ none _ told (ih next after ended)
      · cases ended
        exact told

theorem told_reached (round : Round σ β γ) (truthful : ∀ given, Truthful view (round given))
    (limit : Nat) (given : γ) (state : σ)
    (underway : repeatedWithin round limit given state = none) :
    Told view state (reached round limit given state) none := by
  induction limit generalizing given state with
  | zero => exact told_silent state state rfl
  | succ count ih =>
      have told := truthful given state
      simp only [final, fault?] at told
      rw [repeatedWithin] at underway
      rw [reached]
      rcases came : round given state with ⟨value | next, after⟩ | ⟨fault, after⟩ <;>
        rw [came] at told underway
      · cases underway
      · exact told_trans _ _ _ none none told (ih next after underway)
      · cases underway

theorem rounds_fail_of_reached (round : Round σ β γ)
    (truthful : ∀ given, Truthful view (round given)) (limit : Nat) (given : γ) (state : σ)
    (fault : PwmFault)
    (refused : firstRefused ((view (reached round limit given state)).writesSince (view state)) =
      some fault) :
    ∃ next, rounds round given state = .error fault next := by
  cases came : repeatedWithin round limit given state with
  | none =>
      have silent := (told_reached round truthful limit given state came).fault
      rw [refused] at silent
      cases silent
  | some result =>
      have told := (told_repeated_within round truthful limit given state result came).fault
      rw [← reached_of_within round limit given state result came, refused] at told
      cases result with
      | ok value next => cases told
      | error cause next =>
          cases told
          exact ⟨next, rounds_of_failed round limit given state next _ came⟩

theorem truthful_rounds (round : Round σ β γ)
    (truthful : ∀ given, Truthful view (round given)) (given : γ) :
    Truthful view (rounds round given) := by
  intro state
  simp only [final, fault?, rounds]
  cases came : repeated round given state with
  | none => exact told_silent state state rfl
  | some result =>
      obtain ⟨limit, ended⟩ := within_of_repeated round given state result came
      have told := told_repeated_within round truthful limit given state result ended
      cases result <;> exact told

end Action

theorem World.write_truthful (channel : Channel) (duty : Nat) :
    Action.Truthful id (World.write channel duty : Action (World α) Unit) := by
  intro world
  rw [World.final_write]
  refine ⟨⟨[_], rfl⟩, ?_⟩
  rw [id, id, World.writes_since_noted _ _ _ _ _ (World.extends_refl world),
    World.writes_since_self]
  simp only [Action.fault?]
  rw [World.write_apply]
  by_cases refused : world.failing world.moment channel
  · rw [if_pos refused, refused]
    rfl
  · rw [if_neg refused, Bool.eq_false_iff.mpr refused]
    rfl

namespace Motor

theorem load_truthful (motor : Motor) (idle : Direction) (duty : Nat) :
    Action.Truthful id (motor.load idle duty : Action (World α) Unit) :=
  Action.truthful_bind _ _ (World.write_truthful _ _) fun _ => World.write_truthful _ _

theorem stop_truthful (motor : Motor) :
    Action.Truthful id (motor.stop : Action (World α) Motor) := by
  rw [stop_eq]
  exact Action.truthful_bind _ _ (motor.load_truthful _ _) fun _ => Action.truthful_pure _

theorem drive_truthful (motor : Motor) (duty : Int) :
    Action.Truthful id (motor.drive duty : Action (World α) Motor) := by
  rw [drive_eq]
  refine Action.truthful_bind _ _ (Action.truthful_modify _ fun _ => rfl) fun _ => ?_
  exact Action.truthful_bind _ _ (motor.load_truthful _ _) fun _ => Action.truthful_pure _

end Motor

namespace SpeedControl

theorem command_truthful (side : Side) (action : Motor → Action (World α) Motor)
    (truthful : ∀ motor, Action.Truthful id (action motor)) :
    Action.Truthful SpeedControl.world (command side action) := by
  intro control
  have told := truthful (control.motors.get side) control.world
  simp only [Action.final, Action.fault?] at told ⊢
  simp only [command]
  rcases came : action (control.motors.get side) control.world with ⟨motor, world⟩ | ⟨fault, world⟩ <;>
    rw [came] at told
  · exact ⟨told.grown, told.fault⟩
  · exact ⟨told.grown, told.fault⟩

theorem drive_wheel_truthful (side : Side) (duty : Int) :
    Action.Truthful SpeedControl.world (driveWheel side duty : Action (SpeedControl α) Unit) :=
  command_truthful side _ fun motor => motor.drive_truthful duty

theorem stop_wheel_truthful (side : Side) :
    Action.Truthful SpeedControl.world (stopWheel side : Action (SpeedControl α) Unit) :=
  command_truthful side _ fun motor => motor.stop_truthful

theorem drive_truthful (duties : Both Int) :
    Action.Truthful SpeedControl.world (drive duties : Action (SpeedControl α) Unit) :=
  Action.truthful_bind _ _ (drive_wheel_truthful .left duties.left)
    fun _ => drive_wheel_truthful .right duties.right

theorem stop_apply (control : SpeedControl α) :
    stop control = match stopWheel .left control with
      | .ok _ next => stopWheel .right next
      | .error fault next => .error fault (Action.final (stopWheel .right) next) := by
  simp only [stop]
  rw [Action.bind_apply, Action.attempt_apply]
  rcases stopWheel .left control with ⟨_, next⟩ | ⟨fault, next⟩ <;> dsimp only <;>
    rw [Action.bind_apply, Action.attempt_apply]
  · rcases stopWheel .right next with ⟨_, after⟩ | ⟨fault, after⟩ <;> rfl
  · simp only [Action.final]
    rcases stopWheel .right next with ⟨_, after⟩ | ⟨fault, after⟩ <;> rfl

theorem stop_truthful :
    Action.Truthful SpeedControl.world (stop : Action (SpeedControl α) Unit) := by
  intro control
  have left := stop_wheel_truthful .left control
  simp only [Action.final, Action.fault?] at left ⊢
  rw [stop_apply]
  rcases came : stopWheel .left control with ⟨_, next⟩ | ⟨fault, next⟩ <;> rw [came] at left
  · exact Action.told_trans _ _ _ none _ left (stop_wheel_truthful .right next)
  · exact Action.told_trans _ _ _ (some fault) _ left (stop_wheel_truthful .right next)

end SpeedControl

variable [Scalar α]

@[simp] theorem World.journal_delay (millis : Nat) (world : World α) :
    (world.delay millis).journal = world.journal := by
  induction millis generalizing world with
  | zero => rfl
  | succ count ih => exact ih world.tick

theorem SpeedControl.planned_journal (percents : Both Int) (control : SpeedControl α) :
    (control.planned percents).2.world.journal = control.world.journal :=
  World.journal_delay (window control.config) control.world

theorem SpeedControl.run_truthful (percents : Both Int) :
    Action.Truthful SpeedControl.world (run percents : Action (SpeedControl α) Unit) := by
  intro control
  have driven := drive_truthful (control.planned percents).1 (control.planned percents).2
  simp only [Action.final, Action.fault?] at driven ⊢
  rw [run_apply]
  exact Action.told_trans _ _ _ none _
    (Action.told_silent _ _ (planned_journal percents control)) driven

namespace Drive

omit [Scalar α] in
theorem on_speed_truthful (action : Action (SpeedControl α) β)
    (truthful : Action.Truthful SpeedControl.world action) :
    Action.Truthful Drive.world (onSpeed action) :=
  Action.truthful_within _ _ action (fun _ => rfl) (fun _ _ => rfl) truthful

omit [Scalar α] in
theorem stop_truthful : Action.Truthful Drive.world (stop : Action (Drive α) Unit) :=
  on_speed_truthful _ SpeedControl.stop_truthful

theorem run_truthful (percents : Both Int) :
    Action.Truthful Drive.world (onSpeed (SpeedControl.run percents) : Action (Drive α) Unit) :=
  on_speed_truthful _ (SpeedControl.run_truthful percents)

theorem follow_truthful (motion : Motion α) (start : UInt32) (states : Both (RegulatorState α)) :
    Action.Truthful Drive.world (follow motion start states) := by
  refine Action.truthful_get_bind _ fun drive => Action.told_set_bind _ _ _ rfl ?_
  exact Action.truthful_bind _ _ (run_truthful _) fun _ => Action.truthful_pure _

theorem steer_truthful (motion : Motion α) (start : UInt32) (states : Both (RegulatorState α)) :
    Action.Truthful Drive.world (steer motion start states) := by
  refine Action.truthful_get_bind _ fun drive => ?_
  dsimp only
  split
  · exact Action.told_silent _ _ rfl
  · split
    · exact Action.told_silent _ _ rfl
    · exact Action.truthful_bind _ _ (follow_truthful motion start states)
        (fun _ => Action.truthful_pure _) drive

theorem converge_truthful (motion : Motion α) :
    Action.Truthful Drive.world (converge motion) :=
  Action.truthful_get_bind _ fun _ => Action.told_set_bind _ _ _ rfl
    (Action.truthful_rounds _ (steer_truthful motion _) _)

theorem cruise_truthful (heading : Heading) (period start : UInt32) :
    Action.Truthful Drive.world (cruise heading period start () : Action (Drive α) _) := by
  refine Action.truthful_get_bind _ fun drive => ?_
  dsimp only
  split
  · exact Action.told_silent _ _ rfl
  · refine Action.told_set_bind _ _ _ rfl ?_
    exact Action.truthful_bind _ _ (run_truthful _) fun _ => Action.truthful_pure _

theorem run_timed_truthful (heading : Heading) (seconds : α) :
    Action.Truthful Drive.world (runTimed heading seconds) :=
  Action.truthful_get_bind _ fun _ => Action.told_set_bind _ _ _ rfl
    (Action.truthful_rounds _ (fun _ => cruise_truthful heading _ _) _)

theorem finish_truthful (settle : Nat) (motion : Action (Drive α) (Option Outcome))
    (truthful : Action.Truthful Drive.world motion) :
    Action.Truthful Drive.world (finish settle motion) := by
  intro drive
  have told := truthful drive
  simp only [Action.final, Action.fault?] at told ⊢
  rw [finish_apply]
  rcases came : motion drive with ⟨none | outcome, ended⟩ | ⟨fault, ended⟩ <;> rw [came] at told
  · exact told
  · have halted := stop_truthful ended
    simp only [Action.final, Action.fault?] at halted
    dsimp only
    rcases cameToo : stop ended with ⟨_, stopped⟩ | ⟨fault, stopped⟩ <;> rw [cameToo] at halted
    · have silent : Action.Told Drive.world stopped
          ((stopped.delay settle).say .info outcome.name) none :=
        Action.told_silent _ _ (World.journal_delay settle stopped.world)
      exact Action.told_trans _ _ _ none _ told (Action.told_trans _ _ _ none _ halted silent)
    · exact Action.told_trans _ _ _ none _ told halted
  · have halted := stop_truthful ended
    exact Action.told_trans _ _ _ (some fault) _ told
      (Action.told_trans _ _ _ _ none halted (Action.told_silent _ _ rfl))

omit [Scalar α] in
theorem unless_blocked_truthful (name : String) (motion : Action (Drive α) (Option Outcome))
    (truthful : Action.Truthful Drive.world motion) :
    Action.Truthful Drive.world (unlessBlocked name motion) := by
  intro drive
  simp only [Action.final, Action.fault?, unless_blocked_apply]
  by_cases blocked : drive.isBlocked
  · rw [if_pos blocked]
    exact Action.told_silent _ _ rfl
  · rw [if_neg blocked]
    have told := truthful (drive.say .info name)
    exact ⟨told.grown, told.fault⟩

end Drive

theorem Course.loop_truthful (course : Course α) :
    Action.Truthful Drive.world course.loop := by
  cases course with
  | toward motion => exact Drive.converge_truthful motion
  | lasting heading seconds => exact Drive.run_timed_truthful heading seconds

theorem Primitive.run_truthful (primitive : Primitive α) :
    Action.Truthful Drive.world primitive.run := by
  intro drive
  have finished := Drive.finish_truthful primitive.settle _
    (primitive.course drive.config).loop_truthful
  have told := Drive.unless_blocked_truthful primitive.name _ finished drive
  simp only [Action.final, Action.fault?] at told ⊢
  rw [run_apply]
  exact told

end Rover
