import Rover.Action
import Rover.Expander

/-!
Command frames of an expander on an I2C bus: a command byte, then its operands, words with the high
byte first. The device samples 12 bits and takes duties of 16, the sensor 10 and 8.
-/

set_option autoImplicit false

namespace Rover

class I2cBus (σ : Type) (ε : outParam Type) where
  write : UInt8 → List UInt8 → EStateM ε σ Unit
  read : UInt8 → (length : Nat) → EStateM ε σ (Vector UInt8 length)

inductive Opcode where
  | uid
  | reset
  | inputPins
  | pullUpPins
  | pullDownPins
  | outputPins
  | digitalRead
  | digitalHigh
  | digitalLow
  | analogWrite
  | analogRead
  | pwmFrequency
deriving DecidableEq, Repr

def Opcode.byte : Opcode → UInt8
  | uid => 0x00
  | reset => 0x01
  | inputPins => 0x04
  | pullUpPins => 0x05
  | pullDownPins => 0x06
  | outputPins => 0x07
  | digitalRead => 0x08
  | digitalHigh => 0x09
  | digitalLow => 0x0a
  | analogWrite => 0x0b
  | analogRead => 0x0c
  | pwmFrequency => 0x0d

def PinMode.opcode : PinMode → Opcode
  | input => .inputPins
  | output => .outputPins
  | inputPullUp => .pullUpPins
  | inputPullDown => .pullDownPins

def highByte (word : UInt16) : UInt8 := (word >>> 8).toUInt8

def lowByte (word : UInt16) : UInt8 := word.toUInt8

def wordOf (high low : UInt8) : UInt16 := high.toUInt16 <<< 8 ||| low.toUInt16

def pinMask (pin : UInt8) : UInt16 := 1 <<< pin.toUInt16

structure I2cExpander (σ : Type) where
  bus : σ
  address : UInt8 := 42

namespace I2cExpander

variable {σ ε : Type} [I2cBus σ ε]

def onBus {β : Type} (transfer : UInt8 → EStateM ε σ β) :
    EStateM (BusFault ε) (I2cExpander σ) β := fun expander =>
  match transfer expander.address expander.bus with
  | .ok result bus => .ok result { expander with bus }
  | .error cause bus => .error ⟨cause⟩ { expander with bus }

def send (opcode : Opcode) (operands : List UInt8) : EStateM (BusFault ε) (I2cExpander σ) Unit :=
  onBus fun address => I2cBus.write address (opcode.byte :: operands)

def sendWord (opcode : Opcode) (word : UInt16) : EStateM (BusFault ε) (I2cExpander σ) Unit :=
  send opcode [highByte word, lowByte word]

def receive (length : Nat) : EStateM (BusFault ε) (I2cExpander σ) (Vector UInt8 length) :=
  onBus fun address => I2cBus.read address length

def receiveWord : EStateM (BusFault ε) (I2cExpander σ) UInt16 := do
  let bytes ← receive 2
  return wordOf bytes[0] bytes[1]

def reset : EStateM (BusFault ε) (I2cExpander σ) Unit := send .reset []

def uid : EStateM (BusFault ε) (I2cExpander σ) UInt32 := do
  send .uid []
  let bytes ← receive 4
  return (wordOf bytes[0] bytes[1]).toUInt32 <<< 16 ||| (wordOf bytes[2] bytes[3]).toUInt32

def setPwmFrequency (hertz : UInt16) : EStateM (BusFault ε) (I2cExpander σ) Unit :=
  sendWord .pwmFrequency hertz

instance : Expander (I2cExpander σ) ε where
  setMode pin mode := sendWord mode.opcode (pinMask pin)
  write pin level :=
    match level with
    | .low => sendWord .digitalLow (pinMask pin)
    | .high => sendWord .digitalHigh (pinMask pin)
    | .pwm duty => send .analogWrite [pin, duty, 0]
  read pin := do
    send .analogRead [pin]
    return (← receiveWord) >>> 2
  readPins := do
    send .digitalRead []
    receiveWord

end I2cExpander

end Rover
