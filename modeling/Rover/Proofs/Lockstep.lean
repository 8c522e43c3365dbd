import Rover.Proofs.Action

/-!
Two commands side by side, begun in related states. Loops agree as soon as their rounds do, and then
neither runs for ever alone.
-/

set_option autoImplicit false

namespace Rover.Action

variable {σ τ β γ δ ε ι κ : Type}

inductive Matching (states : σ → τ → Prop) (values : β → γ → Prop) :
    EStateM.Result PwmFault σ β → EStateM.Result PwmFault τ γ → Prop where
  | ok (value : β) (other : γ) (state : σ) (next : τ) (same : values value other)
      (related : states state next) : Matching states values (.ok value state) (.ok other next)
  | error (fault : PwmFault) (state : σ) (next : τ) (related : states state next) :
      Matching states values (.error fault state) (.error fault next)

def Agree (states : σ → τ → Prop) (values : β → γ → Prop) (first : Action σ β)
    (second : Action τ γ) : Prop :=
  ∀ state other, states state other → Matching states values (first state) (second other)

variable {states : σ → τ → Prop} {values : β → γ → Prop} {outcomes : δ → ε → Prop}

theorem matching_mono {wider : σ → τ → Prop}
    (implies : ∀ state other, states state other → wider state other)
    (first : EStateM.Result PwmFault σ β) (second : EStateM.Result PwmFault τ γ)
    (same : Matching states values first second) : Matching wider values first second := by
  cases same with
  | ok value other state next same related => exact .ok _ _ _ _ same (implies _ _ related)
  | error fault state next related => exact .error _ _ _ (implies _ _ related)

theorem agree_pure (value : β) (other : γ) (same : values value other) :
    Agree states values (pure value) (pure other) :=
  fun state next related => .ok value other state next same related

theorem agree_modify (first : σ → σ) (second : τ → τ)
    (kept : ∀ state other, states state other → states (first state) (second other)) :
    Agree states Eq (modify first) (modify second) :=
  fun state other related => .ok _ _ _ _ rfl (kept state other related)

theorem agree_bind (first : Action σ β) (second : Action τ γ) (rest : β → Action σ δ)
    (others : γ → Action τ ε) (head : Agree states values first second)
    (tail : ∀ value other, values value other → Agree states outcomes (rest value) (others other)) :
    Agree states outcomes (first >>= rest) (second >>= others) := by
  intro state other related
  have begun := head state other related
  rw [bind_apply, bind_apply]
  generalize first state = ended at begun
  generalize second other = endedToo at begun
  cases begun with
  | ok value other state next same related => exact tail value other same state next related
  | error fault state next related => exact .error fault state next related

theorem agree_get_bind (rest : σ → Action σ δ) (others : τ → Action τ ε)
    (tail : ∀ state other, states state other →
      Matching states outcomes (rest state state) (others other other)) :
    Agree states outcomes (get >>= rest) (get >>= others) :=
  fun state other related => tail state other related

theorem matching_set_bind (state next : σ) (other nextToo : τ) (rest : PUnit → Action σ δ)
    (others : PUnit → Action τ ε) (related : states next nextToo)
    (tail : Agree states outcomes (rest ⟨⟩) (others ⟨⟩)) :
    Matching states outcomes ((set next >>= rest) state) ((set nextToo >>= others) other) :=
  tail next nextToo related

theorem agree_attempt (first : Action σ β) (second : Action τ β)
    (same : Agree states Eq first second) : Agree states Eq (attempt first) (attempt second) := by
  intro state other related
  have ended := same state other related
  rw [attempt_apply, attempt_apply]
  generalize first state = result at ended
  generalize second other = another at ended
  cases ended with
  | ok value other state next same related => exact .ok _ _ _ _ (congrArg Except.ok same) related
  | error fault state next related => exact .ok _ _ _ _ rfl related

theorem agree_of_result (outcome : Except PwmFault β) :
    Agree states Eq (ofResult outcome : Action σ β) (ofResult outcome : Action τ β) := by
  intro state other related
  cases outcome with
  | ok value => exact .ok _ _ _ _ rfl related
  | error fault => exact .error _ _ _ related

theorem agree_within (inner : ι → κ → Prop) (part : σ → ι) (put : ι → σ → σ) (partToo : τ → κ)
    (putToo : κ → τ → τ) (first : Action ι β) (second : Action κ γ)
    (down : ∀ state other, states state other → inner (part state) (partToo other))
    (up : ∀ state other next nextToo, states state other → inner next nextToo →
      states (put next state) (putToo nextToo other))
    (same : Agree inner values first second) :
    Agree states values (within part put first) (within partToo putToo second) := by
  intro state other related
  have ended := same _ _ (down state other related)
  simp only [within]
  generalize first (part state) = result at ended
  generalize second (partToo other) = another at ended
  cases ended with
  | ok value other next nextToo same inside => exact .ok _ _ _ _ same (up _ _ _ _ related inside)
  | error fault next nextToo inside => exact .error _ _ _ (up _ _ _ _ related inside)

theorem matching_flip (first : EStateM.Result PwmFault σ β) (second : EStateM.Result PwmFault τ γ)
    (same : Matching states values first second) :
    Matching (fun other state => states state other) (fun other value => values value other)
      second first := by
  cases same with
  | ok value other state next same related => exact .ok _ _ _ _ same related
  | error fault state next related => exact .error _ _ _ related

section Loops

variable {kept : ι → κ → Prop} (round : Round σ β ι) (another : Round τ β κ)

theorem agree_repeated_within (same : ∀ given other, kept given other →
      Agree states (Sum.LiftRel Eq kept) (round given) (another other))
    (limit : Nat) (given : ι) (other : κ) (state : σ) (next : τ) (handed : kept given other)
    (related : states state next) (result : EStateM.Result PwmFault σ β)
    (ended : repeatedWithin round limit given state = some result) :
    ∃ twin, repeatedWithin another limit other next = some twin ∧
      Matching states Eq result twin := by
  induction limit generalizing given other state next with
  | zero => cases ended
  | succ count ih =>
      have step := same given other handed state next related
      rw [repeatedWithin] at ended ⊢
      generalize round given state = first at step ended
      generalize another other next = second at step
      cases step with
      | ok value other state next same related =>
          cases same with
          | inl equal =>
              cases ended
              exact ⟨_, rfl, .ok _ _ _ _ equal related⟩
          | inr handed => exact ih _ _ _ _ handed related ended
      | error fault state next related =>
          cases ended
          exact ⟨_, rfl, .error _ _ _ related⟩

theorem agree_repeated (same : ∀ given other, kept given other →
      Agree states (Sum.LiftRel Eq kept) (round given) (another other))
    (given : ι) (other : κ) (state : σ) (next : τ) (handed : kept given other)
    (related : states state next) (result : EStateM.Result PwmFault σ β)
    (ended : repeated round given state = some result) :
    ∃ twin, repeated another other next = some twin ∧ Matching states Eq result twin := by
  obtain ⟨limit, within⟩ := within_of_repeated round given state result ended
  obtain ⟨twin, found, matched⟩ := agree_repeated_within round another same limit given other state
    next handed related result within
  exact ⟨twin, repeated_of_within another limit other next twin found, matched⟩

theorem agree_reached (same : ∀ given other, kept given other →
      Agree states (Sum.LiftRel Eq kept) (round given) (another other))
    (limit : Nat) (given : ι) (other : κ) (state : σ) (next : τ) (handed : kept given other)
    (related : states state next) :
    states (reached round limit given state) (reached another limit other next) := by
  induction limit generalizing given other state next with
  | zero => exact related
  | succ count ih =>
      have step := same given other handed state next related
      rw [reached, reached]
      generalize round given state = first at step
      generalize another other next = second at step
      cases step with
      | ok value other state next same related =>
          cases same with
          | inl equal => exact related
          | inr handed => exact ih _ _ _ _ handed related
      | error fault state next related => exact related

theorem sum_lift_flip (kept : ι → κ → Prop) (first : β ⊕ ι) (second : β ⊕ κ)
    (same : Sum.LiftRel Eq kept first second) :
    Sum.LiftRel Eq (fun other given => kept given other) second first := by
  cases same with
  | inl equal => exact .inl equal.symm
  | inr handed => exact .inr handed

theorem agree_rounds (same : ∀ given other, kept given other →
      Agree states (Sum.LiftRel Eq kept) (round given) (another other))
    (given : ι) (other : κ) (handed : kept given other) :
    Agree states Eq (rounds round given) (rounds another other) := by
  intro state next related
  simp only [rounds]
  cases came : repeated round given state with
  | some result =>
      obtain ⟨twin, found, matched⟩ := agree_repeated round another same given other state next
        handed related result came
      rw [found]
      cases matched with
      | ok value other state next same related =>
          exact .ok _ _ _ _ (congrArg some same) related
      | error fault state next related => exact .error _ _ _ related
  | none =>
      -- an end of the second loop would be one of the first, with the roles exchanged
      cases cameToo : repeated another other next with
      | none => exact .ok _ _ _ _ rfl related
      | some twin =>
          have back : ∀ other given, kept given other →
              Agree (fun other state => states state other)
                (Sum.LiftRel Eq fun other given => kept given other) (another other) (round given) := by
            intro other given handed next state related
            have flipped := matching_flip _ _ (same given other handed state next related)
            generalize another other next = first at flipped ⊢
            generalize round given state = second at flipped ⊢
            cases flipped with
            | ok value other state next same related =>
                exact .ok _ _ _ _ (sum_lift_flip kept _ _ same) related
            | error fault state next related => exact .error _ _ _ related
          obtain ⟨result, found, _⟩ := agree_repeated another round back other given next state
            handed related twin cameToo
          rw [came] at found
          cases found

end Loops

end Rover.Action
