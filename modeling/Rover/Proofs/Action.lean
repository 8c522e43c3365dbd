import Rover.Action

set_option autoImplicit false

namespace Rover.Action

variable {σ τ β γ δ ε : Type}

def landing : EStateM.Result PwmFault σ β → σ
  | .ok _ next => next
  | .error _ next => next

def failure : EStateM.Result PwmFault σ β → Option PwmFault
  | .ok _ _ => none
  | .error fault _ => some fault

def final (action : Action σ β) (state : σ) : σ := landing (action state)

def fault? (action : Action σ β) (state : σ) : Option PwmFault := failure (action state)

theorem bind_apply (first : Action σ β) (rest : β → Action σ γ) (state : σ) :
    (first >>= rest) state = match first state with
      | .ok value next => rest value next
      | .error fault next => .error fault next := by
  change EStateM.bind first rest state = _
  simp only [EStateM.bind]
  cases first state <;> rfl

theorem ok_of_bind (first : Action σ β) (rest : β → Action σ γ) (state after : σ) (result : γ)
    (ended : (first >>= rest) state = .ok result after) :
    ∃ value next, first state = .ok value next ∧ rest value next = .ok result after := by
  rw [bind_apply] at ended
  rcases came : first state with ⟨value, next⟩ | ⟨fault, next⟩ <;> rw [came] at ended
  · exact ⟨value, next, rfl, ended⟩
  · cases ended

theorem final_bind (first : Action σ β) (rest : β → Action σ γ) (state : σ) :
    final (first >>= rest) state = match first state with
      | .ok value next => final (rest value) next
      | .error _ next => next := by
  simp only [final]
  rw [bind_apply]
  cases first state <;> rfl

theorem fault_bind (first : Action σ β) (rest : β → Action σ γ) (state : σ) :
    fault? (first >>= rest) state = match first state with
      | .ok value next => fault? (rest value) next
      | .error fault _ => some fault := by
  simp only [fault?]
  rw [bind_apply]
  cases first state <;> rfl

@[simp] theorem final_get_bind (rest : σ → Action σ β) (state : σ) :
    final (get >>= rest) state = final (rest state) state := by
  rfl

@[simp] theorem final_set_bind (next state : σ) (rest : PUnit → Action σ β) :
    final (set next >>= rest) state = final (rest ⟨⟩) next := by
  rfl

theorem final_bind_pure (action : Action σ β) (answer : β → γ) (state : σ) :
    final (action >>= fun value => pure (answer value)) state = final action state := by
  rw [final_bind]
  simp only [final]
  cases action state <;> rfl

@[simp] theorem final_map (action : Action σ β) (answer : β → γ) (state : σ) :
    final (answer <$> action) state = final action state := by
  rw [← bind_pure_comp, final_bind_pure]

theorem attempt_apply (action : Action σ β) (state : σ) :
    attempt action state = match action state with
      | .ok result next => .ok (.ok result) next
      | .error fault next => .ok (.error fault) next := by
  rfl

@[simp] theorem final_attempt (action : Action σ β) (state : σ) :
    final (attempt action) state = final action state := by
  simp only [final, attempt]
  cases action state <;> rfl

@[simp] theorem final_within (part : σ → τ) (put : τ → σ → σ) (action : Action τ β) (state : σ) :
    final (within part put action) state = put (final action (part state)) state := by
  simp only [final, within]
  cases action (part state) <;> rfl

@[simp] theorem fault_within (part : σ → τ) (put : τ → σ → σ) (action : Action τ β) (state : σ) :
    fault? (within part put action) state = fault? action (part state) := by
  simp only [fault?, within]
  cases action (part state) <;> rfl

-- A loop cut off after a number of rounds. It is how a loop without a limit is reasoned about: an
-- end that a loop comes to, it comes to within some number of rounds.
def repeatedWithin (round : Round σ β γ) :
    Nat → γ → σ → Option (EStateM.Result PwmFault σ β)
  | 0, _, _ => none
  | limit + 1, given, state =>
      match round given state with
      | .ok (.inl result) next => some (.ok result next)
      | .ok (.inr kept) next => repeatedWithin round limit kept next
      | .error fault next => some (.error fault next)

theorem repeated_of_within (round : Round σ β γ) (limit : Nat) (given : γ) (state : σ)
    (result : EStateM.Result PwmFault σ β)
    (ended : repeatedWithin round limit given state = some result) :
    repeated round given state = some result := by
  induction limit generalizing given state with
  | zero => cases ended
  | succ count ih =>
      rw [repeated]
      rw [repeatedWithin] at ended
      rcases came : round given state with ⟨value | kept, next⟩ | ⟨fault, next⟩ <;>
        rw [came] at ended
      · exact ended
      · exact ih kept next ended
      · exact ended

theorem within_of_repeated (round : Round σ β γ) (given : γ) (state : σ)
    (result : EStateM.Result PwmFault σ β) (ended : repeated round given state = some result) :
    ∃ limit, repeatedWithin round limit given state = some result := by
  refine repeated.partial_correctness round
    (fun given state result => ∃ limit, repeatedWithin round limit given state = some result)
    ?_ given state result ended
  intro rest ih given state result ended
  split at ended
  · rename_i value next came
    exact ⟨1, by rw [repeatedWithin, came]; exact ended⟩
  · rename_i kept next came
    obtain ⟨limit, within⟩ := ih kept next result ended
    exact ⟨limit + 1, by rw [repeatedWithin, came]; exact within⟩
  · rename_i fault next came
    exact ⟨1, by rw [repeatedWithin, came]; exact ended⟩

-- The state after a number of rounds, or at the end of the loop where that comes first. It follows
-- a loop that never ends too.
def reached (round : Round σ β γ) : Nat → γ → σ → σ
  | 0, _, state => state
  | limit + 1, given, state =>
      match round given state with
      | .ok (.inl _) next => next
      | .ok (.inr kept) next => reached round limit kept next
      | .error _ next => next

theorem reached_of_within (round : Round σ β γ) (limit : Nat) (given : γ) (state : σ)
    (result : EStateM.Result PwmFault σ β)
    (ended : repeatedWithin round limit given state = some result) :
    reached round limit given state = landing result := by
  induction limit generalizing given state with
  | zero => cases ended
  | succ count ih =>
      rw [repeatedWithin] at ended
      rw [reached]
      rcases came : round given state with ⟨value | kept, next⟩ | ⟨fault, next⟩ <;>
        rw [came] at ended
      · cases ended
        rfl
      · exact ih kept next ended
      · cases ended
        rfl

theorem reached_beyond (round : Round σ β γ) (limit more : Nat) (given : γ) (state : σ)
    (result : EStateM.Result PwmFault σ β)
    (ended : repeatedWithin round limit given state = some result) :
    reached round (limit + more) given state = reached round limit given state := by
  induction limit generalizing given state with
  | zero => cases ended
  | succ count ih =>
      rw [repeatedWithin] at ended
      rw [Nat.succ_add, reached, reached]
      rcases came : round given state with ⟨value | kept, next⟩ | ⟨fault, next⟩
      · rfl
      · rw [came] at ended
        exact ih kept next ended
      · rfl

theorem repeated_of_continue (round : Round σ β γ) (given kept : γ) (state next : σ)
    (went : round given state = .ok (.inr kept) next) :
    repeated round given state = repeated round kept next := by
  rw [repeated, went]

def returns : EStateM.Result PwmFault σ (Option β) → Bool
  | .ok none _ => false
  | _ => true

def roundsWithin (round : Round σ β γ) (limit : Nat) (given : γ) :
    Action σ (Option β) := fun state =>
  match repeatedWithin round limit given state with
  | some (.ok result next) => .ok (some result) next
  | some (.error fault next) => .error fault next
  | none => .ok none state

theorem ended_of_returns (round : Round σ β γ) (limit : Nat) (given : γ) (state : σ)
    (ended : returns (roundsWithin round limit given state) = true) :
    ∃ result, repeatedWithin round limit given state = some result := by
  simp only [roundsWithin] at ended
  cases came : repeatedWithin round limit given state with
  | some result => exact ⟨result, rfl⟩
  | none =>
      rw [came] at ended
      cases ended

theorem rounds_eq_within (round : Round σ β γ) (limit : Nat) (given : γ) (state : σ)
    (ended : returns (roundsWithin round limit given state) = true) :
    rounds round given state = roundsWithin round limit given state := by
  obtain ⟨result, within⟩ := ended_of_returns round limit given state ended
  have ended := repeated_of_within round limit given state result within
  simp only [rounds, roundsWithin]
  cases result <;> simp only [within, ended]

theorem rounds_of_failed (round : Round σ β γ) (limit : Nat) (given : γ) (state next : σ)
    (fault : PwmFault)
    (failed : repeatedWithin round limit given state = some (.error fault next)) :
    rounds round given state = .error fault next := by
  simp only [rounds, repeated_of_within round limit given state _ failed]

def Keeps (relation : σ → σ → Prop) (action : Action σ β) : Prop :=
  ∀ state, relation state (final action state)

section Keeping

variable {relation : σ → σ → Prop}

theorem keeps_mono {weaker : σ → σ → Prop} (action : Action σ β)
    (implies : ∀ before after, relation before after → weaker before after)
    (kept : Keeps relation action) : Keeps weaker action :=
  fun state => implies _ _ (kept state)

theorem keeps_bind (transitive : ∀ a b c, relation a b → relation b c → relation a c)
    (first : Action σ β) (rest : β → Action σ γ) (head : Keeps relation first)
    (tail : ∀ value, Keeps relation (rest value)) : Keeps relation (first >>= rest) := by
  intro state
  have before := head state
  rw [final_bind]
  simp only [final] at before
  rcases came : first state with ⟨value, next⟩ | ⟨fault, next⟩ <;> rw [came] at before
  · exact transitive _ _ _ before (tail value next)
  · exact before

theorem keeps_pure (reflexive : ∀ state, relation state state) (value : β) :
    Keeps relation (pure value) :=
  fun state => reflexive state

theorem keeps_bind_pure (action : Action σ β) (answer : β → γ) (kept : Keeps relation action) :
    Keeps relation (action >>= fun value => pure (answer value)) := by
  intro state
  simpa using kept state

theorem keeps_modify (change : σ → σ) (kept : ∀ state, relation state (change state)) :
    Keeps relation (modify change) :=
  fun state => kept state

theorem keeps_get_bind (rest : σ → Action σ β)
    (tail : ∀ state, relation state (final (rest state) state)) : Keeps relation (get >>= rest) :=
  fun state => tail state

theorem keeps_set_bind (transitive : ∀ a b c, relation a b → relation b c → relation a c)
    (state next : σ) (rest : PUnit → Action σ β) (changed : relation state next)
    (tail : Keeps relation (rest ⟨⟩)) : relation state (final (set next >>= rest) state) :=
  transitive _ _ _ changed (tail next)

theorem keeps_attempt (action : Action σ β) (kept : Keeps relation action) :
    Keeps relation (attempt action) := by
  intro state
  simpa using kept state

theorem keeps_of_result (reflexive : ∀ state, relation state state)
    (outcome : Except PwmFault β) : Keeps relation (ofResult outcome) := by
  intro state
  cases outcome <;> exact reflexive state

theorem keeps_within (before : τ → τ → Prop) (part : σ → τ) (put : τ → σ → σ)
    (action : Action τ β) (lift : ∀ state next, before (part state) next → relation state (put next state))
    (kept : Keeps before action) : Keeps relation (within part put action) := by
  intro state
  simpa using lift state _ (kept (part state))

theorem keeps_reached (reflexive : ∀ state, relation state state)
    (transitive : ∀ a b c, relation a b → relation b c → relation a c)
    (round : Round σ β γ) (kept : ∀ given, Keeps relation (round given)) (limit : Nat)
    (given : γ) (state : σ) : relation state (reached round limit given state) := by
  induction limit generalizing given state with
  | zero => exact reflexive state
  | succ count ih =>
      have step := kept given state
      simp only [final] at step
      rw [reached]
      rcases came : round given state with ⟨value | next, after⟩ | ⟨fault, after⟩ <;>
        rw [came] at step
      · exact step
      · exact transitive _ _ _ step (ih next after)
      · exact step

theorem keeps_rounds (reflexive : ∀ state, relation state state)
    (transitive : ∀ a b c, relation a b → relation b c → relation a c)
    (round : Round σ β γ) (kept : ∀ given, Keeps relation (round given)) (given : γ) :
    Keeps relation (rounds round given) := by
  intro state
  simp only [final, rounds]
  cases came : repeated round given state with
  | none => exact reflexive state
  | some result =>
      obtain ⟨limit, ended⟩ := within_of_repeated round given state result came
      have all := keeps_reached reflexive transitive round kept limit given state
      rw [reached_of_within round limit given state result ended] at all
      cases result <;> exact all

end Keeping

def Holds (before : σ → Prop) (action : Action σ β) (after : β → σ → Prop) : Prop :=
  ∀ state value next, before state → action state = .ok value next → after value next

section Holding

variable {before : σ → Prop}

theorem holds_bind (between : β → σ → Prop) (after : γ → σ → Prop) (first : Action σ β)
    (rest : β → Action σ γ) (head : Holds before first between)
    (tail : ∀ value, Holds (between value) (rest value) after) :
    Holds before (first >>= rest) after := by
  intro state result last holds ended
  obtain ⟨value, next, came, ended⟩ := ok_of_bind _ _ _ _ _ ended
  exact tail value next result last (head state value next holds came) ended

theorem holds_pure (value : β) (after : β → σ → Prop)
    (implies : ∀ state, before state → after value state) : Holds before (pure value) after := by
  intro state result next holds ended
  cases ended
  exact implies state holds

theorem holds_get_bind (rest : σ → Action σ β) (after : β → σ → Prop)
    (tail : ∀ state, before state → ∀ value next, rest state state = .ok value next →
      after value next) : Holds before (get >>= rest) after :=
  fun state value next holds ended => tail state holds value next ended

theorem holds_within (inside : τ → Prop) (part : σ → τ) (put : τ → σ → σ) (action : Action τ β)
    (down : ∀ state, before state → inside (part state))
    (up : ∀ state next, before state → inside next → before (put next state))
    (held : Holds inside action fun _ => inside) :
    Holds before (within part put action) fun _ => before := by
  intro state value last holds ended
  simp only [within] at ended
  cases came : action (part state) with
  | error fault next =>
      rw [came] at ended
      cases ended
  | ok result next =>
      rw [came] at ended
      cases ended
      exact up state next holds (held _ _ _ (down state holds) came)

def HoldsRound (before : σ → Prop) (fit : γ → Prop) (round : Round σ β γ) : Prop :=
  ∀ given, fit given → Holds before (round given) fun value next =>
    before next ∧ ∀ kept, value = .inr kept → fit kept

variable {fit : γ → Prop} (round : Round σ β γ)

theorem holds_reached (held : HoldsRound before fit round) (limit : Nat) (given : γ) (state : σ)
    (fits : fit given) (holds : before state) : before (reached round limit given state) ∨
      ∃ fault next, repeatedWithin round limit given state = some (.error fault next) := by
  induction limit generalizing given state with
  | zero => exact .inl holds
  | succ count ih =>
      rw [reached, repeatedWithin]
      rcases came : round given state with ⟨value | kept, next⟩ | ⟨fault, next⟩
      · exact .inl (held given fits state _ next holds came).1
      · obtain ⟨holds, fits⟩ := held given fits state _ next holds came
        exact ih kept next (fits kept rfl) holds
      · exact .inr ⟨fault, next, rfl⟩

theorem holds_repeated_within (held : HoldsRound before fit round) (limit : Nat) (given : γ)
    (state : σ) (fits : fit given) (holds : before state) (value : β) (next : σ)
    (ended : repeatedWithin round limit given state = some (.ok value next)) : before next := by
  have there := holds_reached round held limit given state fits holds
  rw [reached_of_within round limit given state _ ended, ended] at there
  rcases there with holds | ⟨fault, last, failed⟩
  · exact holds
  · cases failed

theorem holds_rounds (held : HoldsRound before fit round) (given : γ) (fits : fit given) :
    Holds before (rounds round given) fun _ => before := by
  intro state value next holds ended
  simp only [rounds] at ended
  cases came : repeated round given state with
  | none =>
      rw [came] at ended
      cases ended
      exact holds
  | some result =>
      obtain ⟨limit, within⟩ := within_of_repeated round given state result came
      cases result with
      | ok value last =>
          rw [came] at ended
          cases ended
          exact holds_repeated_within round held limit given state fits holds _ _ within
      | error fault last =>
          rw [came] at ended
          cases ended

end Holding

end Rover.Action
