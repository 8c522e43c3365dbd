import Mathlib.Data.List.Forall2
import Rover.Line.Calibration

/-!
An operation reaches its expander through a few commands and remembers two things; where these come
to the same on two sensors, so does every session.
-/

set_option autoImplicit false

namespace Rover.LineSensor

open Line

variable {σ τ δ ε β γ : Type}

def left : EStateM.Result ε σ β → σ
  | .ok _ state => state
  | .error _ state => state

inductive SameEnd (faults : δ → ε → Prop) (states : σ → τ → Prop) :
    EStateM.Result δ σ β → EStateM.Result ε τ β → Prop where
  | ok (value : β) (state : σ) (next : τ) (related : states state next) :
      SameEnd faults states (.ok value state) (.ok value next)
  | error (fault : δ) (other : ε) (state : σ) (next : τ) (same : faults fault other)
      (related : states state next) : SameEnd faults states (.error fault state) (.error other next)

def Agree (faults : δ → ε → Prop) (states : σ → τ → Prop) (first : EStateM δ σ β)
    (second : EStateM ε τ β) : Prop :=
  ∀ state other, states state other → SameEnd faults states (first state) (second other)

section Rules

variable {faults : δ → ε → Prop} {states : σ → τ → Prop}

theorem same_end_left (first : EStateM.Result δ σ β) (second : EStateM.Result ε τ β)
    (same : SameEnd faults states first second) : states (left first) (left second) := by
  cases same with
  | ok value state next related => exact related
  | error fault other state next same related => exact related

theorem agree_pure (value : β) :
    Agree faults states (pure value : EStateM δ σ β) (pure value : EStateM ε τ β) :=
  fun state other related => .ok value state other related

theorem agree_modify (change : σ → σ) (changeToo : τ → τ)
    (kept : ∀ state other, states state other → states (change state) (changeToo other)) :
    Agree faults states (modify change : EStateM δ σ PUnit) (modify changeToo) :=
  fun state other related => .ok _ _ _ (kept state other related)

theorem agree_bind (first : EStateM δ σ β) (second : EStateM ε τ β) (rest : β → EStateM δ σ γ)
    (restToo : β → EStateM ε τ γ) (head : Agree faults states first second)
    (tail : ∀ value, Agree faults states (rest value) (restToo value)) :
    Agree faults states (first >>= rest) (second >>= restToo) := by
  intro state other related
  have ended := head state other related
  change SameEnd faults states (EStateM.bind first rest state) (EStateM.bind second restToo other)
  simp only [EStateM.bind]
  generalize first state = result at ended
  generalize second other = another at ended
  cases ended with
  | ok value state next related => exact tail value state next related
  | error fault other state next same related => exact .error fault other state next same related

theorem agree_get_bind (rest : σ → EStateM δ σ γ) (restToo : τ → EStateM ε τ γ)
    (tail : ∀ state other, states state other →
      SameEnd faults states (rest state state) (restToo other other)) :
    Agree faults states (get >>= rest) (get >>= restToo) :=
  fun state other related => tail state other related

end Rules

inductive Request where
  | begin
  | setSensitivity (sensitivity : UInt8)
  | analogRead (channel : Nat)
  | analogReadAll
  | digitalReadAll
  | countOfBlack
  | trackPattern (bits : UInt8)
  | trackReadings (readings : Readings)
  | trackSensors
  | calibrate

def Request.tracks : Request → Bool
  | trackPattern _ | trackReadings _ | trackSensors => true
  | _ => false

inductive Reply where
  | done
  | reading (value : UInt16)
  | readings (values : Readings)
  | bits (pattern : UInt8)
  | count (black : Nat)
  | position (position : Position)
  | calibrated (found : Bool)

section Requests

variable [Expander σ ε]

def Request.act (delay : Nat → σ → σ) : Request → Sensing σ ε Reply
  | begin => do
      LineSensor.begin
      return .done
  | setSensitivity sensitivity => do
      LineSensor.setSensitivity sensitivity
      return .done
  | analogRead channel => do return .reading (← LineSensor.analogRead channel)
  | analogReadAll => do return .readings (← LineSensor.analogReadAll)
  | digitalReadAll => do return .bits (← LineSensor.digitalReadAll)
  | countOfBlack => do return .count (← LineSensor.countOfBlack)
  | trackPattern bits => fun sensor =>
      .ok (.position (sensor.trackPattern bits).1) (sensor.trackPattern bits).2
  | trackReadings readings => fun sensor =>
      .ok (.position (sensor.trackReadings readings).1) (sensor.trackReadings readings).2
  | trackSensors => fun sensor =>
      .ok (.position sensor.trackSensors.1) sensor.trackSensors.2
  | calibrate => do return .calibrated (← LineSensor.calibrate delay)

def session (delay : Nat → σ → σ) :
    List Request → LineSensor σ → List (EStateM.Result (BusFault ε) (LineSensor σ) Reply)
  | [], _ => []
  | request :: rest, sensor =>
      let ended := request.act delay sensor
      ended :: session delay rest (left ended)

end Requests

section Sweeps

variable [Expander σ ε] (delay : Nat → σ → σ) (level : UInt8)

theorem sweep_down_above (above : minSensitivity < level) :
    sweepDown delay level = (allBlackAt delay 100 level >>= fun black =>
      if black then pure level else sweepDown delay (level - 5)) := by
  rw [sweepDown, if_pos above]

theorem sweep_down_low (low : ¬ minSensitivity < level) : sweepDown delay level = pure level := by
  rw [sweepDown, if_neg low]

theorem sweep_up_below (below : level < 255) :
    sweepUp delay level = (allBlackAt delay 50 level >>= fun black =>
      if black then sweepUp delay (level + 1) else pure level) := by
  rw [sweepUp, if_pos below]

theorem sweep_up_high (high : ¬ level < 255) : sweepUp delay level = pure level := by
  rw [sweepUp, if_neg high]

end Sweeps

structure Companions [Expander σ δ] [Expander τ ε] (faults : BusFault δ → BusFault ε → Prop)
    (states : LineSensor σ → LineSensor τ → Prop) (delay : Nat → σ → σ) (delayToo : Nat → τ → τ) :
    Prop where
  sensitivity : ∀ sensor other, states sensor other → other.sensitivity = sensor.sensitivity
  setMode : Agree faults states (onExpander (Expander.setMode ledPin .output))
    (onExpander (Expander.setMode ledPin .output))
  light : Agree faults states (onExpander (Expander.write ledPin .high))
    (onExpander (Expander.write ledPin .high))
  setSensitivity : ∀ duty, Agree faults states (setSensitivity duty) (setSensitivity duty)
  analogRead : ∀ channel, Agree faults states (analogRead channel) (analogRead channel)
  say : ∀ sensor other level text, states sensor other →
    states (sensor.say level text) (other.say level text)
  wait : ∀ sensor other millis, states sensor other →
    states { sensor with expander := delay millis sensor.expander }
      { other with expander := delayToo millis other.expander }

structure Twins [Expander σ δ] [Expander τ ε] (faults : BusFault δ → BusFault ε → Prop)
    (states : LineSensor σ → LineSensor τ → Prop) (delay : Nat → σ → σ) (delayToo : Nat → τ → τ) :
    Prop extends Companions faults states delay delayToo where
  previous : ∀ sensor other, states sensor other → other.previous = sensor.previous
  remember : ∀ sensor other previous, states sensor other →
    states { sensor with previous } { other with previous }

namespace Companions

variable [Expander σ δ] [Expander τ ε] {faults : BusFault δ → BusFault ε → Prop}
  {states : LineSensor σ → LineSensor τ → Prop} {delay : Nat → σ → σ} {delayToo : Nat → τ → τ}
  (companions : Companions faults states delay delayToo)

include companions

theorem say_agree (level : Level) (text : UInt8 → String) : Agree faults states
    (modify fun sensor => sensor.say level (text sensor.sensitivity) : Sensing σ δ PUnit)
    (modify fun sensor => sensor.say level (text sensor.sensitivity)) := by
  refine agree_modify _ _ fun sensor other related => ?_
  rw [companions.sensitivity sensor other related]
  exact companions.say sensor other level _ related

theorem begin_agree : Agree faults states (begin : Sensing σ δ Unit) begin :=
  agree_bind _ _ _ _ companions.setMode fun _ => agree_bind _ _ _ _ companions.light fun _ =>
    companions.say_agree .info fun sensitivity => s!"line sensor ready, sensitivity={sensitivity}"

theorem analog_read_all_agree :
    Agree faults states (analogReadAll : Sensing σ δ Readings) analogReadAll :=
  agree_bind _ _ _ _ (companions.analogRead 0) fun _ =>
    agree_bind _ _ _ _ (companions.analogRead 1) fun _ =>
    agree_bind _ _ _ _ (companions.analogRead 2) fun _ =>
    agree_bind _ _ _ _ (companions.analogRead 3) fun _ =>
    agree_bind _ _ _ _ (companions.analogRead 4) fun _ =>
    agree_bind _ _ _ _ (companions.analogRead 5) fun _ =>
    agree_bind _ _ _ _ (companions.analogRead 6) fun _ =>
    agree_bind _ _ _ _ (companions.analogRead 7) fun _ =>
    agree_pure _

theorem count_of_black_agree :
    Agree faults states (countOfBlack : Sensing σ δ Nat) countOfBlack :=
  agree_bind _ _ _ _ companions.analog_read_all_agree fun _ => agree_pure _

section Calibration

theorem all_black_agree (settle : Nat) (level : UInt8) :
    Agree faults states (allBlackAt delay settle level) (allBlackAt delayToo settle level) := by
  refine agree_bind _ _ _ _ (companions.setSensitivity level) fun _ => ?_
  refine agree_bind _ _ _ _ ?_ fun _ =>
    agree_bind _ _ _ _ companions.count_of_black_agree fun _ => agree_pure _
  exact agree_modify _ _ fun sensor other related => companions.wait sensor other settle related

theorem sweep_down_agree (level : UInt8) :
    Agree faults states (sweepDown delay level) (sweepDown delayToo level) := by
  induction level using sweepDown.induct with
  | case1 level above ih =>
      rw [sweep_down_above delay level above, sweep_down_above delayToo level above]
      refine agree_bind _ _ _ _ (companions.all_black_agree 100 level) fun black => ?_
      cases black with
      | true => exact agree_pure level
      | false => exact ih
  | case2 level low =>
      rw [sweep_down_low delay level low, sweep_down_low delayToo level low]
      exact agree_pure level

theorem sweep_up_agree (level : UInt8) :
    Agree faults states (sweepUp delay level) (sweepUp delayToo level) := by
  induction level using sweepUp.induct with
  | case1 level below ih =>
      rw [sweep_up_below delay level below, sweep_up_below delayToo level below]
      refine agree_bind _ _ _ _ (companions.all_black_agree 50 level) fun black => ?_
      cases black with
      | true => exact ih
      | false => exact agree_pure level
  | case2 level high =>
      rw [sweep_up_high delay level high, sweep_up_high delayToo level high]
      exact agree_pure level

theorem restore_agree (backup : UInt8) (reason : String) :
    Agree faults states (restore backup reason : Sensing σ δ Bool) (restore backup reason) := by
  exact agree_bind _ _ _ _ (companions.say_agree .warn fun _ => reason) fun _ =>
    agree_bind _ _ _ _ (companions.setSensitivity backup) fun _ => agree_pure false

theorem calibrate_agree : Agree faults states (calibrate delay) (calibrate delayToo) := by
  refine agree_get_bind _ _ fun sensor other related => ?_
  simp only [companions.sensitivity sensor other related]
  refine agree_bind _ _ _ _ (companions.setSensitivity 255) (fun _ => ?_) sensor other related
  refine agree_bind _ _ _ _ (agree_modify _ _ fun sensor other related =>
    companions.wait sensor other 200 related) fun _ => ?_
  refine agree_bind _ _ _ _ (companions.sweep_down_agree 255) fun black => ?_
  by_cases low : black ≤ minSensitivity
  · simp only [if_pos low]
    exact companions.restore_agree _ _
  · simp only [if_neg low]
    refine agree_bind _ _ _ _ (companions.sweep_up_agree black) fun edge => ?_
    by_cases high : edge = 255
    · simp only [if_pos high]
      exact companions.restore_agree _ _
    · simp only [if_neg high]
      exact agree_bind _ _ _ _ (companions.setSensitivity (edge - 5)) fun _ =>
        agree_bind _ _ _ _
          (companions.say_agree .info fun sensitivity => s!"calibrated sensitivity={sensitivity}")
          fun _ => agree_pure true

end Calibration

theorem act_idle_agree (request : Request) (idle : request.tracks = false) :
    Agree faults states (request.act delay) (request.act delayToo) := by
  cases request with
  | begin => exact agree_bind _ _ _ _ companions.begin_agree fun _ => agree_pure _
  | setSensitivity duty =>
      exact agree_bind _ _ _ _ (companions.setSensitivity duty) fun _ => agree_pure _
  | analogRead channel =>
      exact agree_bind _ _ _ _ (companions.analogRead channel) fun _ => agree_pure _
  | analogReadAll =>
      exact agree_bind _ _ _ _ companions.analog_read_all_agree fun _ => agree_pure _
  | digitalReadAll =>
      exact agree_bind _ _ _ _ (agree_bind _ _ _ _ companions.analog_read_all_agree fun _ =>
        agree_pure _) fun _ => agree_pure _
  | countOfBlack => exact agree_bind _ _ _ _ companions.count_of_black_agree fun _ => agree_pure _
  | trackPattern _ | trackReadings _ | trackSensors => cases idle
  | calibrate => exact agree_bind _ _ _ _ companions.calibrate_agree fun _ => agree_pure _

end Companions

namespace Twins

variable [Expander σ δ] [Expander τ ε] {faults : BusFault δ → BusFault ε → Prop}
  {states : LineSensor σ → LineSensor τ → Prop} {delay : Nat → σ → σ} {delayToo : Nat → τ → τ}
  (twins : Twins faults states delay delayToo)

include twins

theorem track_pattern_agree (sensor : LineSensor σ) (other : LineSensor τ) (bits : UInt8)
    (related : states sensor other) :
    (other.trackPattern bits).1 = (sensor.trackPattern bits).1 ∧
      states (sensor.trackPattern bits).2 (other.trackPattern bits).2 := by
  have previous := twins.previous sensor other related
  simp only [trackPattern]
  cases Position.ofPattern? bits with
  | some position => exact ⟨rfl, twins.remember sensor other position related⟩
  | none =>
      refine ⟨previous, ?_⟩
      rw [previous]
      exact twins.say sensor other _ _ related

theorem track_sensors_agree (sensor : LineSensor σ) (other : LineSensor τ)
    (related : states sensor other) : other.trackSensors.1 = sensor.trackSensors.1 ∧
      states sensor.trackSensors.2 other.trackSensors.2 := by
  have read := twins.analog_read_all_agree sensor other related
  simp only [trackSensors]
  generalize analogReadAll sensor = ended at read
  generalize analogReadAll other = endedToo at read
  cases read with
  | ok readings sensor other related => exact twins.track_pattern_agree sensor other _ related
  | error _ _ sensor other _ related =>
      have previous := twins.previous sensor other related
      refine ⟨previous, ?_⟩
      dsimp only
      rw [previous]
      exact twins.say sensor other _ _ related

theorem act_agree (request : Request) :
    Agree faults states (request.act delay) (request.act delayToo) := by
  cases request with
  | trackPattern bits =>
      intro sensor other related
      have tracked := twins.track_pattern_agree sensor other bits related
      simp only [Request.act, tracked.1]
      exact .ok _ _ _ tracked.2
  | trackReadings readings =>
      intro sensor other related
      have tracked := twins.track_pattern_agree sensor other (pattern readings) related
      simp only [Request.act, trackReadings, tracked.1]
      exact .ok _ _ _ tracked.2
  | trackSensors =>
      intro sensor other related
      have tracked := twins.track_sensors_agree sensor other related
      simp only [Request.act, tracked.1]
      exact .ok _ _ _ tracked.2
  | begin | setSensitivity _ | analogRead _ | analogReadAll | digitalReadAll | countOfBlack
  | calibrate => exact twins.act_idle_agree _ rfl

theorem session_agree (requests : List Request) (sensor : LineSensor σ) (other : LineSensor τ)
    (related : states sensor other) : List.Forall₂ (SameEnd faults states)
      (session delay requests sensor) (session delayToo requests other) := by
  induction requests generalizing sensor other with
  | nil => exact .nil
  | cons request rest ih =>
      have ended := twins.act_agree request sensor other related
      exact .cons ended (ih _ _ (same_end_left _ _ ended))

end Twins

end Rover.LineSensor
