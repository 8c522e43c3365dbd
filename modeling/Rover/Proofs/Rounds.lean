import Mathlib.Data.Nat.Find
import Rover.Proofs.Action

/-!
Loops whose rounds look first whether they are due to end, and work otherwise.
-/

set_option autoImplicit false

namespace Rover.Action

variable {σ β γ : Type}

-- The work of a loop for a number of rounds, whether or not the loop goes on for so long. Work that
-- fails hands on what it was given.
def worked (work : γ → Action σ γ) (given : γ) (state : σ) : Nat → γ × σ
  | 0 => (given, state)
  | rounds + 1 =>
      let before := worked work given state rounds
      match work before.1 before.2 with
      | .ok kept next => (kept, next)
      | .error _ next => (before.1, next)

theorem worked_next (work : γ → Action σ γ) (given : γ) (state : σ) (rounds : Nat) :
    (worked work given state (rounds + 1)).2 =
      final (work (worked work given state rounds).1) (worked work given state rounds).2 := by
  simp only [worked, final]
  cases work (worked work given state rounds).1 (worked work given state rounds).2 <;> rfl

theorem keeps_worked {relation : σ → σ → Prop} (reflexive : ∀ state, relation state state)
    (transitive : ∀ a b c, relation a b → relation b c → relation a c) (work : γ → Action σ γ)
    (kept : ∀ given, Keeps relation (work given)) (given : γ) (state : σ) (rounds : Nat) :
    relation state (worked work given state rounds).2 := by
  induction rounds with
  | zero => exact reflexive state
  | succ count ih =>
      rw [worked_next]
      exact transitive _ _ _ ih (kept _ _)

-- The last look changes the state by no more than `noted` says.
structure Guarded (round : Round σ β γ) (work : γ → Action σ γ) (due : σ → Prop) (answer : σ → β)
    (noted : σ → σ → Prop) : Prop where
  ends : ∀ given state, due state →
    ∃ next, noted state next ∧ round given state = .ok (.inl (answer state)) next
  works : ∀ given state, ¬ due state →
    round given state = (work given >>= fun kept => pure (.inr kept)) state

variable {round : Round σ β γ} {work : γ → Action σ γ} {due : σ → Prop} {answer : σ → β}
  {noted : σ → σ → Prop}

theorem repeated_worked (guarded : Guarded round work due answer noted) (given : γ) (state : σ)
    (rounds : Nat) (early : ∀ earlier < rounds, ¬ due (worked work given state earlier).2) :
    (∃ fault next, repeated round given state = some (.error fault next)) ∨
      repeated round given state =
        repeated round (worked work given state rounds).1 (worked work given state rounds).2 := by
  induction rounds with
  | zero => exact .inr rfl
  | succ count ih =>
      have step := guarded.works (worked work given state count).1 _
        (early count (Nat.lt_succ_self count))
      rcases ih fun earlier below => early earlier (Nat.lt_succ_of_lt below) with failed | same
      · exact .inl failed
      · rw [bind_apply] at step
        cases came : work (worked work given state count).1 (worked work given state count).2 with
        | ok kept next =>
            rw [came] at step
            have reached : worked work given state (count + 1) = (kept, next) := by
              simp only [worked, came]
            rw [same, reached]
            exact .inr (repeated_of_continue _ _ _ _ _ step)
        | error fault next =>
            rw [came] at step
            exact .inl ⟨fault, next, by rw [same, repeated, step]⟩

theorem worked_of_within (guarded : Guarded round work due answer noted) (given : γ) (state : σ)
    (limit rounds : Nat) (result : β) (after : σ)
    (ended : repeatedWithin round limit (worked work given state rounds).1
      (worked work given state rounds).2 = some (.ok result after)) :
    ∃ last, due (worked work given state last).2 := by
  induction limit generalizing rounds with
  | zero => cases ended
  | succ count ih =>
      by_cases late : due (worked work given state rounds).2
      · exact ⟨rounds, late⟩
      · have step := guarded.works (worked work given state rounds).1 _ late
        rw [repeatedWithin, step, bind_apply] at ended
        cases came : work (worked work given state rounds).1 (worked work given state rounds).2 with
        | ok kept next =>
            have reached : worked work given state (rounds + 1) = (kept, next) := by
              simp only [worked, came]
            rw [came] at ended
            apply ih (rounds + 1)
            rw [reached]
            exact ended
        | error fault next =>
            rw [came] at ended
            cases ended

theorem repeated_never (guarded : Guarded round work due answer noted) (given : γ) (state : σ)
    (never : ∀ rounds, ¬ due (worked work given state rounds).2) :
    (∃ fault next, repeated round given state = some (.error fault next)) ∨
      repeated round given state = none := by
  cases came : repeated round given state with
  | none => exact .inr rfl
  | some result =>
      cases result with
      | error fault next => exact .inl ⟨fault, next, rfl⟩
      | ok result next =>
          obtain ⟨limit, within⟩ := within_of_repeated round given state _ came
          obtain ⟨last, late⟩ := worked_of_within guarded given state limit 0 result next within
          exact absurd late (never last)

theorem rounds_guarded (guarded : Guarded round work due answer noted) (given : γ) (state : σ) :
    (∃ fault next, rounds round given state = .error fault next) ∨
      (∃ last, (∀ earlier < last, ¬ due (worked work given state earlier).2) ∧
        due (worked work given state last).2 ∧
        ∃ next, noted (worked work given state last).2 next ∧ rounds round given state =
          .ok (some (answer (worked work given state last).2)) next) ∨
      ((∀ rounds, ¬ due (worked work given state rounds).2) ∧
        rounds round given state = .ok none state) := by
  classical
  simp only [rounds]
  by_cases ends : ∃ last, due (worked work given state last).2
  · have early : ∀ earlier < Nat.find ends, ¬ due (worked work given state earlier).2 :=
      fun earlier below => Nat.find_min ends below
    rcases repeated_worked guarded given state _ early with ⟨fault, next, failed⟩ | same
    · rw [failed]
      exact .inl ⟨fault, next, rfl⟩
    · obtain ⟨next, said, ended⟩ := guarded.ends (worked work given state (Nat.find ends)).1 _
        (Nat.find_spec ends)
      rw [same, repeated, ended]
      exact .inr (.inl ⟨Nat.find ends, early, Nat.find_spec ends, next, said, rfl⟩)
  · have never : ∀ rounds, ¬ due (worked work given state rounds).2 :=
      fun rounds late => ends ⟨rounds, late⟩
    rcases repeated_never guarded given state never with ⟨fault, next, failed⟩ | endless
    · rw [failed]
      exact .inl ⟨fault, next, rfl⟩
    · rw [endless]
      exact .inr (.inr ⟨never, rfl⟩)

end Rover.Action
