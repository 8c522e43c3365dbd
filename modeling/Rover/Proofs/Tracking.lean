import Rover.Proofs.Sensing

set_option autoImplicit false

namespace Rover

namespace LineSensor

open Line

variable {σ ε β : Type}

section Idle

def Steady (place : Position) (sensor other : LineSensor σ) : Prop :=
  other = sensor ∧ sensor.previous = place

theorem steady_refl (sensor : LineSensor σ) : Steady sensor.previous sensor sensor := ⟨rfl, rfl⟩

variable (place : Position)

theorem steady_expander (command : EStateM (BusFault ε) σ β) :
    Agree Eq (Steady place) (onExpander command) (onExpander command) := by
  intro sensor other steady
  obtain ⟨rfl, kept⟩ := steady
  simp only [onExpander, within]
  cases command other.expander with
  | ok value next => exact .ok _ _ _ ⟨rfl, kept⟩
  | error fault next => exact .error _ _ _ _ rfl ⟨rfl, kept⟩

theorem steady_companions [Expander σ ε] (delay : Nat → σ → σ) :
    Companions Eq (Steady place) delay delay where
  sensitivity _ _ steady := congrArg (·.sensitivity) steady.1
  setMode := steady_expander place _
  light := steady_expander place _
  setSensitivity duty := by
    refine agree_bind _ _ _ _ (agree_modify _ _ fun sensor other steady => ?_) fun _ =>
      steady_expander place _
    obtain ⟨rfl, kept⟩ := steady
    exact ⟨rfl, kept⟩
  analogRead _ := steady_expander place _
  say _ _ _ _ steady := by
    obtain ⟨rfl, kept⟩ := steady
    exact ⟨rfl, kept⟩
  wait _ _ _ steady := by
    obtain ⟨rfl, kept⟩ := steady
    exact ⟨rfl, kept⟩

end Idle

variable [Expander σ ε]

theorem analog_read_all_steady (sensor : LineSensor σ) :
    (left (analogReadAll sensor)).previous = sensor.previous :=
  (same_end_left _ _ ((steady_companions sensor.previous fun _ => id).analog_read_all_agree sensor
    sensor (steady_refl sensor))).2

def Request.shown (request : Request) (sensor : LineSensor σ) : Option UInt8 :=
  match request with
  | trackPattern bits => some bits
  | trackReadings readings => some (pattern readings)
  | trackSensors =>
      match LineSensor.analogReadAll sensor with
      | .ok readings _ => some (pattern readings)
      | .error _ _ => none
  | _ => none

def Request.place (request : Request) (sensor : LineSensor σ) : Position :=
  ((request.shown sensor).bind Position.ofPattern?).getD sensor.previous

omit [Expander σ ε] in
theorem track_pattern_place (sensor : LineSensor σ) (bits : UInt8) :
    (sensor.trackPattern bits).1 = (Position.ofPattern? bits).getD sensor.previous ∧
      (sensor.trackPattern bits).2.previous = (Position.ofPattern? bits).getD sensor.previous := by
  simp only [trackPattern]
  cases Position.ofPattern? bits with
  | some position => exact ⟨rfl, rfl⟩
  | none => exact ⟨rfl, rfl⟩

theorem track_sensors_place (sensor : LineSensor σ) :
    sensor.trackSensors.1 = Request.trackSensors.place sensor ∧
      sensor.trackSensors.2.previous = Request.trackSensors.place sensor := by
  have kept := analog_read_all_steady sensor
  simp only [trackSensors, Request.place, Request.shown]
  cases read : analogReadAll sensor with
  | ok readings next =>
      rw [read] at kept
      have tracked := next.track_pattern_place (pattern readings)
      rw [show next.previous = sensor.previous from kept] at tracked
      exact tracked
  | error fault next =>
      rw [read] at kept
      exact ⟨kept, kept⟩

variable (delay : Nat → σ → σ)

theorem act_tracked (request : Request) (sensor : LineSensor σ) (asked : request.tracks = true) :
    ∃ next, request.act delay sensor = .ok (.position (request.place sensor)) next ∧
      next.previous = request.place sensor := by
  cases request with
  | trackPattern bits =>
      have tracked := sensor.track_pattern_place bits
      refine ⟨_, ?_, tracked.2⟩
      simp only [Request.act, tracked.1]
      rfl
  | trackReadings readings =>
      have tracked := sensor.track_pattern_place (pattern readings)
      refine ⟨_, ?_, tracked.2⟩
      simp only [Request.act, trackReadings, tracked.1]
      rfl
  | trackSensors =>
      have tracked := sensor.track_sensors_place
      refine ⟨_, ?_, tracked.2⟩
      simp only [Request.act, tracked.1]
  | begin | setSensitivity _ | analogRead _ | analogReadAll | digitalReadAll | countOfBlack
  | calibrate => cases asked

theorem act_idle (request : Request) (sensor : LineSensor σ) (idle : request.tracks = false) :
    (left (request.act delay sensor)).previous = sensor.previous :=
  (same_end_left _ _ ((steady_companions sensor.previous delay).act_idle_agree request idle sensor
    sensor (steady_refl sensor))).2

theorem shown_of_idle (request : Request) (sensor : LineSensor σ)
    (idle : request.tracks = false) : request.shown sensor = none := by
  cases request with
  | trackPattern _ | trackReadings _ | trackSensors => cases idle
  | begin | setSensitivity _ | analogRead _ | analogReadAll | digitalReadAll | countOfBlack
  | calibrate => rfl

theorem act_previous (request : Request) (sensor : LineSensor σ) :
    (left (request.act delay sensor)).previous = request.place sensor := by
  cases asked : request.tracks with
  | true =>
      obtain ⟨next, ended, kept⟩ := act_tracked delay request sensor asked
      rw [ended]
      exact kept
  | false =>
      rw [act_idle delay request sensor asked, Request.place, shown_of_idle request sensor asked]
      rfl

def after (requests : List Request) (sensor : LineSensor σ) : LineSensor σ :=
  requests.foldl (fun sensor request => left (request.act delay sensor)) sensor

def shown : List Request → LineSensor σ → List UInt8
  | [], _ => []
  | request :: rest, sensor =>
      (request.shown sensor).toList ++ shown rest (left (request.act delay sensor))

def lastLine? (patterns : List UInt8) : Option Position :=
  (patterns.filterMap Position.ofPattern?).getLast?

theorem last_line_append (early late : List UInt8) :
    lastLine? (early ++ late) = (lastLine? late).or (lastLine? early) := by
  simp only [lastLine?]
  rw [List.filterMap_append, List.getLast?_append]

theorem after_previous (requests : List Request) (sensor : LineSensor σ) :
    (after delay requests sensor).previous =
      (lastLine? (shown delay requests sensor)).getD sensor.previous := by
  induction requests generalizing sensor with
  | nil => rfl
  | cons request rest ih =>
      have next := act_previous delay request sensor
      have stepped : after delay (request :: rest) sensor =
          after delay rest (left (request.act delay sensor)) := rfl
      rw [stepped, ih, next, shown, last_line_append, Request.place]
      cases lastLine? (shown delay rest (left (request.act delay sensor))) with
      | some place => rfl
      | none =>
          cases request.shown sensor with
          | none => rfl
          | some bits => cases found : Position.ofPattern? bits <;> simp [lastLine?, found]

-- No line is seen to the side of the outermost channels.
theorem of_pattern_within (bits : UInt8) (place : Position)
    (found : Position.ofPattern? bits = some place) :
    -1.0 ≤ place.toFloat ∧ place.toFloat ≤ 1.0 := by
  simp only [Position.ofPattern?] at found
  split at found <;> cases found <;> decide +kernel

theorem last_line_within (patterns : List UInt8) (place : Position)
    (last : lastLine? patterns = some place) : -1.0 ≤ place.toFloat ∧ place.toFloat ≤ 1.0 := by
  have member := List.mem_of_getLast? last
  obtain ⟨bits, _, found⟩ := List.mem_filterMap.mp member
  exact of_pattern_within bits place found

def placeAfter (requests : List Request) (sensor : LineSensor σ) : Position :=
  (lastLine? (shown delay requests sensor)).getD .middle

structure Remembers (fresh : LineSensor σ) (past : List Request) (request : Request) : Prop where
  remembered : (after delay past fresh).previous = placeAfter delay past fresh
  answered : request.tracks = true → ∃ next, request.act delay (after delay past fresh) =
    .ok (.position (placeAfter delay (past ++ [request]) fresh)) next
  next : (left (request.act delay (after delay past fresh))).previous =
    placeAfter delay (past ++ [request]) fresh
  kept : request.shown (after delay past fresh) = none →
    (left (request.act delay (after delay past fresh))).previous = (after delay past fresh).previous
  within : -1.0 ≤ (placeAfter delay (past ++ [request]) fresh).toFloat ∧
    (placeAfter delay (past ++ [request]) fresh).toFloat ≤ 1.0

theorem place_after_within (requests : List Request) (sensor : LineSensor σ) :
    -1.0 ≤ (placeAfter delay requests sensor).toFloat ∧
      (placeAfter delay requests sensor).toFloat ≤ 1.0 := by
  rw [placeAfter]
  cases last : lastLine? (shown delay requests sensor) with
  | some place => exact last_line_within _ place last
  | none => decide +kernel

theorem tracking_keeps_last_line (expander : σ) (log : Log) (past : List Request)
    (request : Request) : Remembers delay { expander, log } past request := by
  generalize freshEq : ({ expander, log } : LineSensor σ) = fresh
  have remembered : ∀ requests,
      (after delay requests fresh).previous = placeAfter delay requests fresh := by
    intro requests
    rw [after_previous, ← freshEq]
    rfl
  have stepped : after delay (past ++ [request]) fresh =
      left (request.act delay (after delay past fresh)) := List.foldl_append
  have next := remembered (past ++ [request])
  rw [stepped] at next
  refine ⟨remembered past, ?_, next, ?_, place_after_within delay _ fresh⟩
  · intro asked
    obtain ⟨last, ended, kept⟩ := act_tracked delay request (after delay past fresh) asked
    rw [ended] at next
    rw [← next]
    exact ⟨last, ended.trans (by rw [← kept]; rfl)⟩
  · intro unseen
    rw [act_previous, Request.place, unseen]
    rfl

end LineSensor

-- An expander whose readings are laid down beforehand. Where one is missing the read fails.
structure Rehearsed where
  readings : List (Option UInt16)

instance : Expander Rehearsed Unit where
  setMode _ _ := pure ()
  write _ _ := pure ()
  read _ := fun script =>
    match script.readings with
    | some reading :: rest => .ok reading ⟨rest⟩
    | none :: rest => .error ⟨()⟩ ⟨rest⟩
    | [] => .error ⟨()⟩ script
  readPins := pure 0

namespace LineSensor

def flicker : Rehearsed := ⟨[some 40, some 800, none] ++ List.replicate 8 (some 40)⟩

def flickering : List Request := [.trackPattern 0b00010000, .trackSensors]

theorem flicker_place : placeAfter (fun _ => id) (flickering ++ [.trackSensors])
    ({ expander := flicker } : LineSensor Rehearsed) = ⟨2⟩ := by
  decide +kernel

theorem flicker_remembers : Request.trackSensors.tracks = true ∧
    ∃ next, Request.trackSensors.act (fun _ => id)
      (after (fun _ => id) flickering ({ expander := flicker } : LineSensor Rehearsed)) =
        .ok (.position ⟨2⟩) next := by
  have remembers := tracking_keeps_last_line (fun _ => id) flicker {} flickering .trackSensors
  obtain ⟨next, ended⟩ := remembers.answered rfl
  rw [flicker_place] at ended
  exact ⟨rfl, next, ended⟩

end LineSensor

end Rover
