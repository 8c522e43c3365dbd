import Rover.Line.Sensor

set_option autoImplicit false

namespace Rover.LineSensor

open Line

variable {σ ε : Type} [Expander σ ε]

-- At or below this every channel reads black, even on a shiny surface.
def minSensitivity : UInt8 := 120

def allBlackAt (delay : Nat → σ → σ) (settle : Nat) (sensitivity : UInt8) : Sensing σ ε Bool := do
  setSensitivity sensitivity
  modify fun sensor => { sensor with expander := delay settle sensor.expander }
  return (← countOfBlack) = 8

def sweepDown (delay : Nat → σ → σ) (level : UInt8) : Sensing σ ε UInt8 := do
  if minSensitivity < level then
    if ← allBlackAt delay 100 level then return level
    else sweepDown delay (level - 5)
  else return level
termination_by level.toNat
decreasing_by
  rename_i above
  have bound : 120 < level.toNat := above
  rw [UInt8.toNat_sub_of_le _ _ (UInt8.le_iff_toNat_le.2 (by simp; omega))]
  simp
  omega

def sweepUp (delay : Nat → σ → σ) (level : UInt8) : Sensing σ ε UInt8 := do
  if level < 255 then
    if ← allBlackAt delay 50 level then sweepUp delay (level + 1)
    else return level
  else return level
termination_by 255 - level.toNat
decreasing_by
  rename_i below
  have bound : level.toNat < 255 := below
  rw [UInt8.toNat_add]
  simp
  omega

def restore (backup : UInt8) (reason : String) : Sensing σ ε Bool := do
  modify fun sensor => sensor.say .warn reason
  setSensitivity backup
  return false

-- Says whether a level was found. `delay` waits a number of milliseconds.
def calibrate (delay : Nat → σ → σ) : Sensing σ ε Bool := do
  let backup := (← get).sensitivity
  setSensitivity 255
  modify fun sensor => { sensor with expander := delay 200 sensor.expander }
  let black ← sweepDown delay 255
  if black ≤ minSensitivity then
    restore backup s!"calibration failed: not all channels black above {minSensitivity}"
  else
    let edge ← sweepUp delay black
    if edge = 255 then restore backup "calibration failed: surface changed during the sweep"
    else
      setSensitivity (edge - 5)
      modify fun sensor => sensor.say .info s!"calibrated sensitivity={sensor.sensitivity}"
      return true

end Rover.LineSensor
