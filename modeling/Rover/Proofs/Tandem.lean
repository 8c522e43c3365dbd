import Rover.Proofs.Lockstep
import Rover.Proofs.Rounds

/-!
Commands of two robots need not fail together, so nothing is known of a pair of them unless both go
well; where they do, the loops go on together and end together.
-/

set_option autoImplicit false

namespace Rover.Action

variable {σ τ β γ δ : Type}

def Unfailing (round : Round σ β γ) (given : γ) (state : σ) : Prop :=
  ∀ limit fault next, repeatedWithin round limit given state ≠ some (.error fault next)

theorem unfailing_of_rounds (round : Round σ β γ) (given : γ) (state : σ)
    (sound : ∀ fault next, rounds round given state ≠ .error fault next) :
    Unfailing round given state :=
  fun limit fault next failed =>
    sound fault next (rounds_of_failed round limit given state next fault failed)

section Unfailing

variable (round : Round σ β γ) (given : γ) (state : σ) (unfailing : Unfailing round given state)

include unfailing

theorem unfailing_ok : ∃ value next, round given state = .ok value next := by
  cases came : round given state with
  | ok value next => exact ⟨value, next, rfl⟩
  | error fault next => exact absurd (by rw [repeatedWithin, came]) (unfailing 1 fault next)

theorem unfailing_next (kept : γ) (next : σ) (went : round given state = .ok (.inr kept) next) :
    Unfailing round kept next := by
  intro limit fault last failed
  apply unfailing (limit + 1) fault last
  rw [repeatedWithin, went]
  exact failed

end Unfailing

-- Rounds that go well lead from related states to related states, and either both end their loops
-- with one result or both go on.
def Tandem (states : σ → τ → Prop) (handed : γ → δ → Prop) (fine : σ → Prop) (round : Round σ β γ)
    (another : Round τ β δ) : Prop :=
  ∀ given other state twin value valueToo next nextToo, handed given other → states state twin →
    fine state → fine next → round given state = .ok value next →
    another other twin = .ok valueToo nextToo →
    Sum.LiftRel Eq handed value valueToo ∧ states next nextToo

def TandemWork (states : σ → τ → Prop) (handed : γ → δ → Prop) (fine : σ → Prop)
    (work : γ → Action σ γ) (workToo : δ → Action τ δ) : Prop :=
  ∀ given other state twin kept keptToo next nextToo, handed given other → states state twin →
    fine state → fine next → work given state = .ok kept next →
    workToo other twin = .ok keptToo nextToo → handed kept keptToo ∧ states next nextToo

theorem tandem_guarded {states : σ → τ → Prop} {handed : γ → δ → Prop} {fine : σ → Prop}
    {round : Round σ β γ} {another : Round τ β δ} {work : γ → Action σ γ}
    {workToo : δ → Action τ δ} {due : σ → Prop} {dueToo : τ → Prop} {answer : σ → β}
    {answerToo : τ → β} {noted : σ → σ → Prop} {notedToo : τ → τ → Prop}
    (guarded : Guarded round work due answer noted)
    (guardedToo : Guarded another workToo dueToo answerToo notedToo)
    (looks : ∀ state twin, states state twin → fine state →
      (due state ↔ dueToo twin) ∧ answer state = answerToo twin)
    (notes : ∀ state twin next nextToo, states state twin → noted state next →
      notedToo twin nextToo → states next nextToo)
    (works : TandemWork states handed fine work workToo) :
    Tandem states handed fine round another := by
  intro given other state twin value valueToo next nextToo both related here after went wentToo
  obtain ⟨together, same⟩ := looks state twin related here
  by_cases late : due state
  · obtain ⟨last, said, ended⟩ := guarded.ends given state late
    obtain ⟨lastToo, saidToo, endedToo⟩ := guardedToo.ends other twin (together.mp late)
    rw [ended] at went
    rw [endedToo] at wentToo
    cases went
    cases wentToo
    exact ⟨.inl same, notes _ _ _ _ related said saidToo⟩
  · rw [guarded.works given state late] at went
    rw [guardedToo.works other twin fun lateToo => late (together.mpr lateToo)] at wentToo
    obtain ⟨kept, last, worked, returned⟩ := ok_of_bind _ _ _ _ _ went
    obtain ⟨keptToo, lastToo, workedToo, returnedToo⟩ := ok_of_bind _ _ _ _ _ wentToo
    cases returned
    cases returnedToo
    obtain ⟨both, related⟩ := works _ _ _ _ _ _ _ _ both related here after worked workedToo
    exact ⟨.inr both, related⟩

variable {states : σ → τ → Prop} {handed : γ → δ → Prop} {fine : σ → Prop} (round : Round σ β γ)
  (another : Round τ β δ) (tandem : Tandem states handed fine round another) (given : γ) (other : δ)
  (state : σ) (twin : τ) (both : handed given other) (related : states state twin)
  (unfailing : Unfailing round given state) (unfailingToo : Unfailing another other twin)
  (all : ∀ rounds, fine (reached round rounds given state))

include tandem both related unfailing unfailingToo all

theorem tandem_within (limit : Nat) :
    states (reached round limit given state) (reached another limit other twin) ∧
      Option.Rel (Matching states Eq) (repeatedWithin round limit given state)
        (repeatedWithin another limit other twin) := by
  induction limit generalizing given other state twin with
  | zero => exact ⟨related, .none⟩
  | succ count ih =>
      obtain ⟨value, next, went⟩ := unfailing_ok round given state unfailing
      obtain ⟨valueToo, nextToo, wentToo⟩ := unfailing_ok another other twin unfailingToo
      have after := all 1
      simp only [reached, went] at after
      have here : fine next := by
        cases value <;> exact after
      obtain ⟨same, related⟩ := tandem given other state twin value valueToo next nextToo both
        related (all 0) here went wentToo
      simp only [reached, repeatedWithin, went, wentToo]
      cases same with
      | inl equal => exact ⟨related, .some (.ok _ _ _ _ equal related)⟩
      | inr both =>
          refine ih _ _ next nextToo both related
            (unfailing_next round given state unfailing _ next went)
            (unfailing_next another other twin unfailingToo _ nextToo wentToo) fun rounds => ?_
          have later := all (rounds + 1)
          rwa [reached, went] at later

theorem tandem_rounds : Matching states Eq (rounds round given state) (rounds another other twin) := by
  have within := fun limit => (tandem_within round another tandem given other state twin both related
    unfailing unfailingToo all limit).2
  simp only [rounds]
  cases came : repeated round given state with
  | some result =>
      obtain ⟨limit, ended⟩ := within_of_repeated round given state result came
      have matched := within limit
      rw [ended] at matched
      generalize endedToo : repeatedWithin another limit other twin = found at matched
      cases matched with
      | some matched =>
          rw [repeated_of_within another limit other twin _ endedToo]
          cases matched with
          | ok value _ next nextToo same related => exact .ok _ _ _ _ (congrArg some same) related
          | error fault next nextToo related => exact .error _ _ _ related
  | none =>
      cases cameToo : repeated another other twin with
      | none => exact .ok _ _ _ _ rfl related
      | some resultToo =>
          -- an end of the second loop would be one of the first within as many rounds
          obtain ⟨limit, ended⟩ := within_of_repeated another other twin resultToo cameToo
          have matched := within limit
          rw [ended] at matched
          generalize endedToo : repeatedWithin round limit given state = found at matched
          cases matched with
          | some matched =>
              rw [repeated_of_within round limit given state _ endedToo] at came
              cases came

end Rover.Action
