import Rover.Json.Numeral
import Rover.Settings.Basic

set_option autoImplicit false

namespace Rover

namespace Settings

inductive Key where
  | version
  | pml1
  | pml2
  | pmr1
  | pmr2
  | pel1
  | pel2
  | per1
  | per2
  | wrad
  | wdist
  | er
  | kpa
  | kia
  | kda
  | kpsl
  | kpsr
  | kdsl
  | kdsr
  | kis
  | ks
  | maxs
deriving DecidableEq, Repr

namespace Key

def all : List Key :=
  [version, pml1, pml2, pmr1, pmr2, pel1, pel2, per1, per2, wrad, wdist, er, kpa, kia, kda, kpsl,
    kpsr, kdsl, kdsr, kis, ks, maxs]

def name : Key → String
  | version => "version"
  | pml1 => "pml1"
  | pml2 => "pml2"
  | pmr1 => "pmr1"
  | pmr2 => "pmr2"
  | pel1 => "pel1"
  | pel2 => "pel2"
  | per1 => "per1"
  | per2 => "per2"
  | wrad => "wrad"
  | wdist => "wdist"
  | er => "er"
  | kpa => "kpa"
  | kia => "kia"
  | kda => "kda"
  | kpsl => "kpsl"
  | kpsr => "kpsr"
  | kdsl => "kdsl"
  | kdsr => "kdsr"
  | kis => "kis"
  | ks => "ks"
  | maxs => "maxs"

def ofName? (name : String) : Option Key := all.find? fun key => key.name = name

end Key

end Settings

namespace Json.Numeral

def int32? (numeral : Numeral) : Option Int :=
  numeral.toInt?.filter fun value => -2147483648 ≤ value && value ≤ 2147483647

def uint32? (numeral : Numeral) : Option Nat :=
  (numeral.toInt?.filter fun value => 0 ≤ value && value ≤ 4294967295).map Int.toNat

end Json.Numeral

-- The settings with the value of one key, if the numeral is one that the key takes: pins and the
-- version are whole numbers of 32 bits, pulses have no sign, and the rest are floats.
def Settings.assign (settings : Settings) (key : Settings.Key) (numeral : Json.Numeral) :
    Option Settings :=
  let whole (put : Int → Settings) : Option Settings := numeral.int32?.map put
  let float (put : Float → Settings) : Option Settings := numeral.float?.map put
  match key with
  | .version => whole fun version => { settings with version }
  | .pml1 => whole fun pin => { settings with motorPins.left.first := pin }
  | .pml2 => whole fun pin => { settings with motorPins.left.second := pin }
  | .pmr1 => whole fun pin => { settings with motorPins.right.first := pin }
  | .pmr2 => whole fun pin => { settings with motorPins.right.second := pin }
  | .pel1 => whole fun pin => { settings with encoderPins.left.first := pin }
  | .pel2 => whole fun pin => { settings with encoderPins.left.second := pin }
  | .per1 => whole fun pin => { settings with encoderPins.right.first := pin }
  | .per2 => whole fun pin => { settings with encoderPins.right.second := pin }
  | .wrad => float fun wheelRadius => { settings with wheelRadius }
  | .wdist => float fun wheelSeparation => { settings with wheelSeparation }
  | .er => numeral.uint32?.map fun pulses => { settings with pulses }
  | .kpa => float fun kp => { settings with angle.kp := kp }
  | .kia => float fun ki => { settings with angle.ki := ki }
  | .kda => float fun kd => { settings with angle.kd := kd }
  | .kpsl => float fun kp => { settings with speedKp.left := kp }
  | .kpsr => float fun kp => { settings with speedKp.right := kp }
  | .kdsl => float fun kd => { settings with speedKd.left := kd }
  | .kdsr => float fun kd => { settings with speedKd.right := kd }
  | .kis => float fun speedKi => { settings with speedKi }
  | .ks => float fun straightGain => { settings with straightGain }
  | .maxs => float fun maxSpeed => { settings with maxSpeed }

end Rover
