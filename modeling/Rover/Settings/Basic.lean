import Rover.Drive

set_option autoImplicit false

namespace Rover

structure PinPair where
  first : Int
  second : Int
deriving BEq, Repr

structure Settings where
  version : Int := -1
  motorPins : Both PinPair := ⟨⟨25, 26⟩, ⟨33, 32⟩⟩
  encoderPins : Both PinPair := ⟨⟨35, 34⟩, ⟨14, 27⟩⟩
  wheelRadius : Float := 3.05
  wheelSeparation : Float := 18.4
  pulses : Nat := 2376
  angle : Gains Float := ⟨45.0, 100.0, 2.5⟩
  speedKp : Both Float := ⟨41.5, 28.0⟩
  speedKd : Both Float := ⟨0.5, 0.1⟩
  speedKi : Float := 0.0
  straightGain : Float := 80.0
  maxSpeed : Float := 15.0
deriving BEq, Repr

namespace Settings

def standard : Settings := {}

def speedConfig (settings : Settings) : SpeedConfig Float where
  maxSpeed := settings.maxSpeed
  gains := ⟨⟨settings.speedKp.left, settings.speedKi, settings.speedKd.left⟩,
    ⟨settings.speedKp.right, settings.speedKi, settings.speedKd.right⟩⟩

def driveConfig (settings : Settings) : DriveConfig Float where
  wheelRadius := settings.wheelRadius
  halfSeparation := settings.wheelSeparation / 2.0
  angle := settings.angle
  straightGain := settings.straightGain

end Settings

end Rover
