import Rover.Bridge

/-!
Commands on a state that a channel fault may end early. What a command did before the fault stays
done.
-/

set_option autoImplicit false

namespace Rover

structure PwmFault where
  channel : Channel
deriving DecidableEq, Repr

namespace PwmFault

def message (fault : PwmFault) : String :=
  s!"simulated fault on pwm channel {fault.channel.index}"

def speedControlMessage (fault : PwmFault) : String := s!"Motor(SimFault({fault.channel.index}))"

def driveMessage (fault : PwmFault) : String := s!"SpeedControl({fault.speedControlMessage})"

end PwmFault

def within {ε σ τ β : Type} (part : σ → τ) (put : τ → σ → σ) (command : EStateM ε τ β) :
    EStateM ε σ β := fun state =>
  match command (part state) with
  | .ok result next => .ok result (put next state)
  | .error reason next => .error reason (put next state)

abbrev Action (σ β : Type) := EStateM PwmFault σ β

namespace Action

variable {σ β γ : Type}

def attempt (action : Action σ β) : Action σ (Except PwmFault β) := fun state =>
  match action state with
  | .ok result next => .ok (.ok result) next
  | .error fault next => .ok (.error fault) next

def ofResult (outcome : Except PwmFault β) : Action σ β := fun state =>
  match outcome with
  | .ok result => .ok result state
  | .error fault => .error fault state

abbrev Round (σ β γ : Type) := γ → Action σ (β ⊕ γ)

-- Repeats a round until it comes to a result. `none` stands for a run that never ends.
def repeated (round : Round σ β γ) (given : γ) (state : σ) : Option (EStateM.Result PwmFault σ β) :=
  match round given state with
  | .ok (.inl result) next => some (.ok result next)
  | .ok (.inr kept) next => by
      -- by `apply`, so that the definition does not depend on where it stands in a file
      apply repeated
      · exact round
      · exact kept
      · exact next
  | .error fault next => some (.error fault next)
partial_fixpoint

-- The command of repeated rounds. Where they never end there is no state to speak of either, and
-- the one they began in stands in its place.
def rounds (round : Round σ β γ) (given : γ) : Action σ (Option β) := fun state =>
  match repeated round given state with
  | some (.ok result next) => .ok (some result) next
  | some (.error fault next) => .error fault next
  | none => .ok none state

end Action

end Rover
