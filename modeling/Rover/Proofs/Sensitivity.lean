import Rover.Proofs.Sensing

set_option autoImplicit false

namespace Rover

open Line

variable {σ ε β : Type}

structure SenseWrite where
  duty : UInt8
  accepted : Bool
deriving DecidableEq, Repr

structure Monitored (σ : Type) where
  expander : σ
  writes : List SenseWrite := []

namespace Monitored

def note (pin : UInt8) (level : PinLevel) (accepted : Bool) (writes : List SenseWrite) :
    List SenseWrite :=
  match level with
  | .pwm duty => if pin = sensePin then ⟨duty, accepted⟩ :: writes else writes
  | .low | .high => writes

def inside (command : EStateM ε σ β) : EStateM ε (Monitored σ) β :=
  within (·.expander) (fun expander monitored => { monitored with expander }) command

instance [Expander σ ε] : Expander (Monitored σ) ε where
  setMode pin mode := inside (Expander.setMode pin mode)
  write pin level := fun monitored =>
    match Expander.write pin level monitored.expander with
    | .ok _ expander => .ok () { expander, writes := note pin level true monitored.writes }
    | .error fault expander =>
        .error fault { expander, writes := note pin level false monitored.writes }
  read pin := inside (Expander.read pin)
  readPins := inside Expander.readPins

theorem write_apply [Expander σ ε] (pin : UInt8) (level : PinLevel) (monitored : Monitored σ) :
    Expander.write pin level monitored = match Expander.write pin level monitored.expander with
      | .ok _ expander => .ok () { expander, writes := note pin level true monitored.writes }
      | .error fault expander =>
          .error fault { expander, writes := note pin level false monitored.writes } := by
  rfl

def delay (delay : Nat → σ → σ) (millis : Nat) (monitored : Monitored σ) : Monitored σ :=
  { monitored with expander := delay millis monitored.expander }

def lastAsked (monitored : Monitored σ) : Option UInt8 := monitored.writes.head?.map (·.duty)

def lastAccepted (monitored : Monitored σ) : Option UInt8 :=
  (monitored.writes.find? (·.accepted)).map (·.duty)

end Monitored

namespace LineSensor

def monitored (sensor : LineSensor σ) : LineSensor (Monitored σ) :=
  { sensor with expander := { expander := sensor.expander } }

structure Watched (start : UInt8) (sensor : LineSensor σ) (watched : LineSensor (Monitored σ)) :
    Prop where
  expander : watched.expander.expander = sensor.expander
  sensitivity : watched.sensitivity = sensor.sensitivity
  previous : watched.previous = sensor.previous
  log : watched.log = sensor.log
  asked : sensor.sensitivity = watched.expander.lastAsked.getD start

variable (start : UInt8)

theorem inside_watched (command : EStateM (BusFault ε) σ β) :
    Agree Eq (Watched start) (onExpander command) (onExpander (Monitored.inside command)) := by
  intro sensor watched related
  rcases watched with ⟨⟨expander, writes⟩, sensitivity, previous, log⟩
  obtain ⟨rfl, rfl, rfl, rfl, asked⟩ := related
  simp only [onExpander, Monitored.inside, within]
  cases command sensor.expander with
  | ok value next => exact .ok _ _ _ ⟨rfl, rfl, rfl, rfl, asked⟩
  | error fault next => exact .error _ _ _ _ rfl ⟨rfl, rfl, rfl, rfl, asked⟩

variable [Expander σ ε]

theorem light_watched : Agree Eq (Watched start)
    (onExpander (Expander.write ledPin .high) : Sensing σ ε Unit)
    (onExpander (Expander.write ledPin .high)) := by
  intro sensor watched related
  rcases watched with ⟨⟨expander, writes⟩, sensitivity, previous, log⟩
  obtain ⟨rfl, rfl, rfl, rfl, asked⟩ := related
  simp only [onExpander, within, Monitored.write_apply]
  cases Expander.write ledPin .high sensor.expander with
  | ok value next => exact .ok _ _ _ ⟨rfl, rfl, rfl, rfl, asked⟩
  | error fault next => exact .error _ _ _ _ rfl ⟨rfl, rfl, rfl, rfl, asked⟩

-- The one operation that asks something of the sense pin. The note is there whatever comes of it.
theorem set_sensitivity_watched (duty : UInt8) : Agree Eq (Watched start)
    (setSensitivity duty : Sensing σ ε Unit) (setSensitivity duty) := by
  intro sensor watched related
  rcases watched with ⟨⟨expander, writes⟩, sensitivity, previous, log⟩
  obtain ⟨rfl, rfl, rfl, rfl, _⟩ := related
  change SameEnd Eq (Watched start)
    (onExpander (Expander.write sensePin (.pwm duty)) { sensor with sensitivity := duty })
    (onExpander (Expander.write sensePin (.pwm duty)) ⟨⟨sensor.expander, writes⟩, duty, _, _⟩)
  simp only [onExpander, within, Monitored.write_apply]
  cases Expander.write sensePin (.pwm duty) sensor.expander with
  | ok value next => exact .ok _ _ _ ⟨rfl, rfl, rfl, rfl, rfl⟩
  | error fault next => exact .error _ _ _ _ rfl ⟨rfl, rfl, rfl, rfl, rfl⟩

theorem watched_twins (delay : Nat → σ → σ) :
    Twins Eq (Watched start) delay (Monitored.delay delay) where
  sensitivity _ _ related := related.sensitivity
  previous _ _ related := related.previous
  setMode := inside_watched start _
  light := light_watched start
  setSensitivity := set_sensitivity_watched start
  analogRead _ := inside_watched start _
  say sensor watched level text related := by
    obtain ⟨expander, sensitivity, previous, log, asked⟩ := related
    exact ⟨expander, sensitivity, previous, congrArg (Log.say · level .lineSensor text) log, asked⟩
  remember _ _ _ related :=
    ⟨related.expander, related.sensitivity, rfl, related.log, related.asked⟩
  wait _ _ millis related :=
    ⟨congrArg (delay millis) related.expander, related.sensitivity, related.previous, related.log,
      related.asked⟩

-- Once the expander has accepted a write, the sensor tells the duty on the pin unless it has asked for
-- another one since.
def Candid (watched : LineSensor (Monitored σ)) : Prop :=
  ∀ duty, watched.expander.lastAccepted = some duty →
    (watched.sensitivity = duty ↔ watched.expander.lastAsked = some duty)

omit [Expander σ ε] in
theorem watched_candid (sensor : LineSensor σ) (watched : LineSensor (Monitored σ))
    (related : Watched start sensor watched) : watched.Candid := by
  intro duty accepted
  have asked := related.asked
  rw [← related.sensitivity] at asked
  rw [asked]
  cases came : watched.expander.lastAsked with
  | some last => simp
  | none =>
      simp only [Monitored.lastAsked, Option.map_eq_none_iff, List.head?_eq_none_iff] at came
      simp only [Monitored.lastAccepted, came] at accepted
      cases accepted

-- The session on the monitored expander is the session itself, and after every request of it, whether
-- it succeeded or failed, the sensor tells what it last asked for.
theorem sensitivity_is_last_asked (sensor : LineSensor σ) (delay : Nat → σ → σ)
    (requests : List Request) :
    List.Forall₂ (fun ended watched => SameEnd Eq (Watched sensor.sensitivity) ended watched ∧
        (left watched).Candid)
      (session delay requests sensor)
      (session (Monitored.delay delay) requests sensor.monitored) := by
  have begun : Watched sensor.sensitivity sensor sensor.monitored := ⟨rfl, rfl, rfl, rfl, rfl⟩
  have same := (watched_twins sensor.sensitivity delay).session_agree requests sensor _ begun
  exact same.imp fun ended watched alike =>
    ⟨alike, watched_candid _ _ _ (same_end_left ended watched alike)⟩

end LineSensor

structure Scripted where
  answers : List Bool

instance : Expander Scripted Unit where
  setMode _ _ := pure ()
  write _ _ := fun script =>
    match script.answers with
    | false :: rest => .error ⟨()⟩ ⟨rest⟩
    | true :: rest => .ok () ⟨rest⟩
    | [] => .ok () ⟨[]⟩
  read _ := pure 0
  readPins := pure 0

namespace LineSensor

def fickle : LineSensor Scripted := { expander := ⟨[true, false]⟩ }

-- The pin carries 150 when the write of 99 is refused, and the sensor tells 99.
theorem refused_write_is_told : ¬ ∀ requests : List Request,
    ∀ ended ∈ session (Monitored.delay fun _ => id) requests fickle.monitored,
      ∀ duty, (left ended).expander.lastAccepted = some duty →
        (left ended).sensitivity = duty := by
  intro truthful
  have told := truthful [.setSensitivity 150, .setSensitivity 99]
    (.error ⟨()⟩ { expander := ⟨⟨[]⟩, [⟨99, false⟩, ⟨150, true⟩]⟩, sensitivity := 99 })
    (.tail _ (.head _)) 150 rfl
  revert told
  decide

end LineSensor

end Rover
