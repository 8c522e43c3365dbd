set_option autoImplicit false

namespace Rover

inductive Side where
  | left
  | right
deriving DecidableEq, Repr

inductive Direction where
  | forward
  | reverse
deriving DecidableEq, Repr

namespace Direction

def sign : Direction → Int
  | forward => 1
  | reverse => -1

def flip : Direction → Direction
  | forward => reverse
  | reverse => forward

end Direction

structure Both (β : Type) where
  left : β
  right : β
deriving DecidableEq, BEq, Repr

namespace Both

variable {β γ δ : Type}

def const (value : β) : Both β := ⟨value, value⟩

def get (pair : Both β) : Side → β
  | .left => pair.left
  | .right => pair.right

def set (pair : Both β) (side : Side) (value : β) : Both β :=
  match side with
  | .left => { pair with left := value }
  | .right => { pair with right := value }

@[simp] theorem get_set_same (pair : Both β) (side : Side) (value : β) :
    (pair.set side value).get side = value := by
  cases side <;> rfl

@[simp] theorem get_set_other (pair : Both β) (side other : Side) (value : β)
    (different : other ≠ side) :
    (pair.set side value).get other = pair.get other := by
  cases side <;> cases other <;> first | rfl | exact absurd rfl different

def map (f : β → γ) (pair : Both β) : Both γ := ⟨f pair.left, f pair.right⟩

def zipWith (f : β → γ → δ) (first : Both β) (second : Both γ) : Both δ :=
  ⟨f first.left second.left, f first.right second.right⟩

end Both

structure Channel where
  side : Side
  direction : Direction
deriving DecidableEq, Repr

namespace Channel

def index : Channel → Nat
  | ⟨.left, .forward⟩ => 0
  | ⟨.left, .reverse⟩ => 1
  | ⟨.right, .forward⟩ => 2
  | ⟨.right, .reverse⟩ => 3

def ofIndex? : Nat → Option Channel
  | 0 => some ⟨.left, .forward⟩
  | 1 => some ⟨.left, .reverse⟩
  | 2 => some ⟨.right, .forward⟩
  | 3 => some ⟨.right, .reverse⟩
  | _ => none

end Channel

structure Bridge where
  forward : Nat := 0
  reverse : Nat := 0
deriving DecidableEq, Repr

namespace Bridge

def get (bridge : Bridge) : Direction → Nat
  | .forward => bridge.forward
  | .reverse => bridge.reverse

def set (bridge : Bridge) (direction : Direction) (duty : Nat) : Bridge :=
  match direction with
  | .forward => { bridge with forward := duty }
  | .reverse => { bridge with reverse := duty }

@[simp] theorem get_set_same (bridge : Bridge) (direction : Direction) (duty : Nat) :
    (bridge.set direction duty).get direction = duty := by
  cases direction <;> rfl

@[simp] theorem get_set_other (bridge : Bridge) (direction other : Direction) (duty : Nat)
    (different : other ≠ direction) : (bridge.set direction duty).get other = bridge.get other := by
  cases direction <;> cases other <;> first | rfl | exact absurd rfl different

def net (bridge : Bridge) : Int := bridge.forward - bridge.reverse

def max (first second : Bridge) : Bridge :=
  ⟨Nat.max first.forward second.forward, Nat.max first.reverse second.reverse⟩

end Bridge

namespace Both

def duty (bridges : Both Bridge) (channel : Channel) : Nat :=
  (bridges.get channel.side).get channel.direction

def withDuty (bridges : Both Bridge) (channel : Channel) (duty : Nat) : Both Bridge :=
  bridges.set channel.side ((bridges.get channel.side).set channel.direction duty)

@[simp] theorem duty_with_duty_same (bridges : Both Bridge) (channel : Channel) (duty : Nat) :
    (bridges.withDuty channel duty).duty channel = duty := by
  simp [withDuty, Both.duty]

@[simp] theorem duty_with_duty_other (bridges : Both Bridge) (channel other : Channel) (duty : Nat)
    (different : other ≠ channel) :
    (bridges.withDuty channel duty).duty other = bridges.duty other := by
  by_cases same : other.side = channel.side
  · have apart : other.direction ≠ channel.direction := by
      intro equal
      exact different (by cases other; cases channel; simp_all)
    simp [withDuty, Both.duty, same, apart]
  · simp [withDuty, Both.duty, same]

end Both

end Rover
