import Rover.Bridge
import Rover.Scalar

set_option autoImplicit false

namespace Rover.Profile

variable {α : Type} [Scalar α]

-- Wheels slip a little, so a distance is stretched by this.
def slip : α := 1.02

def distanceTolerance : α := 0.2

def turnTolerance : α := 0.07

def commandLimit : Int := 75

def softStartMillis : UInt32 := 500

def settleMillis : Nat := 500

def maxDistanceTimeout : UInt32 := 30000

def distanceTarget (distance radius : α) : α := distance / radius * slip

def turnTarget (degrees halfSeparation radius : α) : α :=
  degrees * halfSeparation * Scalar.pi / (radius * 180.0)

-- No speed or no distance leaves no time at all.
def distanceTimeout (speed : Int) (distance : α) : UInt32 :=
  let share : α := Scalar.ofInt speed.natAbs / 100.0
  let length := Scalar.abs distance
  if speed = 0 || length == 0.0 then 0
  else min (toMillis (Scalar.truncate (200.0 * length / share + 3000.0))) maxDistanceTimeout

def turnTimeout (degrees : α) : UInt32 :=
  toMillis (Scalar.truncate (80.0 * Scalar.abs degrees + 5000.0))

def timedPeriod (seconds : α) : UInt32 :=
  if 0.0 < seconds then toMillis (Scalar.truncate (seconds * 1000.0)) else 0

def softStart (elapsed : UInt32) : α :=
  if elapsed < softStartMillis then 0.5 + Scalar.ofInt elapsed.toNat / 1000.0 else 1.0

def bias (lead k : α) : Int := saturate (Scalar.truncate (lead * k))

-- The wheel with the smaller error is ahead; the other one is pushed by the difference in
-- progress.
def straightCorrection (errors progress : Both α) (k : α) : Both Int :=
  let left := Scalar.abs errors.left
  let right := Scalar.abs errors.right
  if left < right then ⟨0, bias (progress.left - progress.right) k⟩
  else if right < left then ⟨bias (progress.right - progress.left) k, 0⟩
  else ⟨0, 0⟩

def progressCorrection (progress : Both α) (k : α) : Both Int :=
  if progress.right < progress.left then ⟨0, bias (progress.left - progress.right) k⟩
  else if progress.left < progress.right then ⟨bias (progress.right - progress.left) k, 0⟩
  else ⟨0, 0⟩

def softened (command : Int) (power : α) : Int :=
  saturate (Scalar.truncate (Scalar.ofInt command * power))

def scaled (α : Type) [Scalar α] (command : Int) (direction : Direction) (speed : Int) : Int :=
  saturate (Scalar.truncate
    ((Scalar.ofInt command * Scalar.ofInt direction.sign * Scalar.ofInt speed / 100.0 : α)))

end Rover.Profile
