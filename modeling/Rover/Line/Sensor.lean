import Rover.Action
import Rover.Expander
import Rover.Line.Pattern
import Rover.Log

set_option autoImplicit false

namespace Rover

namespace Line

def sensorPins : Vector UInt8 8 := #v[4, 5, 6, 8, 7, 3, 2, 1]

def ledPin : UInt8 := 9

def sensePin : UInt8 := 0

def defaultSensitivity : UInt8 := 208

def blackThreshold : UInt16 := 100

def countBlack (readings : Readings) : Nat :=
  readings.toList.countP fun reading => blackThreshold < reading

end Line

open Line

structure LineSensor (σ : Type) where
  expander : σ
  sensitivity : UInt8 := defaultSensitivity
  previous : Position := .middle
  log : Log := {}

namespace LineSensor

variable {σ ε : Type} [Expander σ ε]

abbrev Sensing (σ ε β : Type) := EStateM (BusFault ε) (LineSensor σ) β

def onExpander {β : Type} (command : EStateM (BusFault ε) σ β) : Sensing σ ε β :=
  within (·.expander) (fun expander sensor => { sensor with expander }) command

def say (sensor : LineSensor σ) (level : Level) (text : String) : LineSensor σ :=
  { sensor with log := sensor.log.say level .lineSensor text }

def begin : Sensing σ ε Unit := do
  onExpander (Expander.setMode ledPin .output)
  onExpander (Expander.write ledPin .high)
  modify fun sensor => sensor.say .info s!"line sensor ready, sensitivity={sensor.sensitivity}"

def setSensitivity (sensitivity : UInt8) : Sensing σ ε Unit := do
  modify fun sensor => { sensor with sensitivity }
  onExpander (Expander.write sensePin (.pwm sensitivity))

-- Channels count around: channel 8 is channel 0 again.
def analogRead (channel : Nat) : Sensing σ ε UInt16 :=
  onExpander (Expander.read (sensorPins.get (Fin.ofNat 8 channel)))

def analogReadAll : Sensing σ ε Readings := do
  let a ← analogRead 0
  let b ← analogRead 1
  let c ← analogRead 2
  let d ← analogRead 3
  let e ← analogRead 4
  let f ← analogRead 5
  let g ← analogRead 6
  let h ← analogRead 7
  return #v[a, b, c, d, e, f, g, h]

def digitalReadAll : Sensing σ ε UInt8 := do return pattern (← analogReadAll)

def countOfBlack : Sensing σ ε Nat := do return countBlack (← analogReadAll)

def trackPattern (sensor : LineSensor σ) (bits : UInt8) : Position × LineSensor σ :=
  match Position.ofPattern? bits with
  | some position => (position, { sensor with previous := position })
  | none =>
      (sensor.previous,
        sensor.say .trace s!"no line in {digits bits}, keeping {sensor.previous.text}")

def trackReadings (sensor : LineSensor σ) (readings : Readings) : Position × LineSensor σ :=
  sensor.trackPattern (pattern readings)

def trackSensors (sensor : LineSensor σ) : Position × LineSensor σ :=
  match analogReadAll sensor with
  | .ok readings next => next.trackReadings readings
  | .error _ next => (next.previous, next.say .warn s!"line sensor read failed, keeping {next.previous.text}")

end LineSensor

end Rover
