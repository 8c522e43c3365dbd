import Rover.Scalar

set_option autoImplicit false

namespace Rover

structure Phase where
  a : Bool
  b : Bool
deriving DecidableEq, Repr

namespace Phase

def rest : Phase := ⟨false, false⟩

def code (phase : Phase) : UInt8 := phase.a.toUInt8 <<< 1 ||| phase.b.toUInt8

def ofCode (code : UInt8) : Phase := ⟨code &&& 2 != 0, code &&& 1 != 0⟩

-- The ring of phases is 00, 10, 11, 01.
def next (phase : Phase) : Phase := ⟨!phase.b, phase.a⟩

def prev (phase : Phase) : Phase := ⟨phase.b, !phase.a⟩

end Phase

-- The step that a transition stands for: the phase before in bits 2 and 3, the phase after in
-- bits 0 and 1. A phase that stays, or a flip of both pins, is no step.
def transition (code : UInt8) : Int :=
  match code &&& 0x0f with
  | 0b1101 | 0b0100 | 0b0010 | 0b1011 => 1
  | 0b1110 | 0b0111 | 0b0001 | 0b1000 => -1
  | _ => 0

theorem transition_next (phase : Phase) :
    transition (phase.code <<< 2 ||| phase.next.code) = 1 := by
  rcases phase with ⟨_ | _, _ | _⟩ <;> rfl

theorem transition_prev (phase : Phase) :
    transition (phase.code <<< 2 ||| phase.prev.code) = -1 := by
  rcases phase with ⟨_ | _, _ | _⟩ <;> rfl

-- The counter of one wheel. An inverted encoder counts the other way, as a wheel that is mounted
-- the other way round needs.
structure Encoder where
  pulses : Nat
  inverted : Bool
  position : Int32 := 0
  phase : Phase := .rest
deriving DecidableEq, Repr

namespace Encoder

def new (pulses : Nat) (inverted : Bool) : Encoder := { pulses := max pulses 1, inverted }

def prime (encoder : Encoder) (phase : Phase) : Encoder := { encoder with phase }

def edge (encoder : Encoder) (phase : Phase) : Encoder :=
  let step := transition (encoder.phase.code <<< 2 ||| phase.code)
  let counted := if encoder.inverted then -step else step
  { encoder with phase, position := encoder.position + Int32.ofInt counted }

def preset (encoder : Encoder) (position : Int32) : Encoder := { encoder with position }

-- Clears the counter and keeps the phase, so that the next edge still counts.
def reset (encoder : Encoder) : Encoder := encoder.preset 0

def degrees (encoder : Encoder) : Int := encoder.position.toInt * 360 / encoder.pulses

def radians {α : Type} [Scalar α] (encoder : Encoder) : α :=
  Scalar.ofInt encoder.position.toInt * 2.0 * Scalar.pi / Scalar.ofInt encoder.pulses

end Encoder

end Rover
