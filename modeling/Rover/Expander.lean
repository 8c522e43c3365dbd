set_option autoImplicit false

namespace Rover

inductive PinMode where
  | input
  | output
  | inputPullUp
  | inputPullDown
deriving DecidableEq, Repr

inductive PinLevel where
  | low
  | high
  | pwm (duty : UInt8)
deriving DecidableEq, Repr

structure BusFault (ε : Type) where
  cause : ε
deriving DecidableEq, Repr

def BusFault.message {ε : Type} (describe : ε → String) (fault : BusFault ε) : String :=
  "expander bus error: " ++ describe fault.cause

class Expander (σ : Type) (ε : outParam Type) where
  setMode : UInt8 → PinMode → EStateM (BusFault ε) σ Unit
  write : UInt8 → PinLevel → EStateM (BusFault ε) σ Unit
  read : UInt8 → EStateM (BusFault ε) σ UInt16
  -- The digital state of every pin, pin `n` in bit `n`.
  readPins : EStateM (BusFault ε) σ UInt16

end Rover
