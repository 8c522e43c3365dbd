import Rover.Proofs.Calibrating

set_option autoImplicit false

namespace Rover

open Line

namespace LineSensor

variable {σ ε : Type} [Expander σ ε]

-- An expander over a surface that reads the same whenever the sense pin carries the same duty.
structure Still (delay : Nat → σ → σ) (duty : σ → UInt8) (surface : UInt8 → Readings) : Prop where
  write : ∀ level state, ∃ next,
    Expander.write sensePin (.pwm level) state = .ok () next ∧ duty next = level
  read : ∀ channel state, ∃ next, Expander.read (sensorPins.get channel) state =
    .ok ((surface (duty state)).get channel) next ∧ duty next = duty state
  wait : ∀ millis state, duty (delay millis state) = duty state

theorem round_at (start level : Nat) (rounds : List Measurement)
    (levels : rounds.map (·.level.toNat) = List.range' start rounds.length) (above : start ≤ level)
    (below : level < start + rounds.length) : ∃ round ∈ rounds, round.level.toNat = level := by
  have member : level ∈ rounds.map (·.level.toNat) := by
    rw [levels, List.mem_range'_1]
    exact ⟨above, below⟩
  exact List.mem_map.mp member

section Reach

variable (bound : Int) (hit : Nat) (hitBlack : (hit : Int) ≤ bound)

include hitBlack

theorem edge_reached (black : List Measurement) (last : Measurement) (kept : UInt8)
    (ended : Edge hit black last kept) (white : bound < last.level.toNat)
    (blacks : ∀ round ∈ black, (round.level.toNat : Int) ≤ bound) :
    125 ≤ bound ∧ bound ≤ 253 ∧ (kept.toNat : Int) = bound - 4 := by
  have reach := ended.reach
  have top := ended.top
  have high := ended.high
  have beyond := ended.edge_level
  obtain ⟨round, member, level⟩ := round_at hit (kept.toNat + 4) black ended.levels
    (by omega) (by omega)
  have within := blacks round member
  omega

theorem edge_beyond (fine : List Measurement) (through : Edgeless hit fine)
    (blacks : ∀ round ∈ fine, (round.level.toNat : Int) ≤ bound) : 253 < bound := by
  have top := through.top
  by_cases highest : hit = 255
  · omega
  · obtain ⟨round, member, level⟩ := round_at hit 254 fine through.levels (by omega) (by omega)
    have within := blacks round member
    omega

end Reach

theorem edge_below (bound : Int) (coarse : List Measurement) (all : coarse.length = 27)
    (levels : coarse.map (·.level.toNat) =
      (List.range coarse.length).map fun count => 255 - 5 * count)
    (whites : ∀ round ∈ coarse, bound < round.level.toNat) : bound < 125 := by
  have member : 125 ∈ coarse.map (·.level.toNat) := by
    rw [levels, all]
    decide
  obtain ⟨round, member, level⟩ := List.mem_map.mp member
  have outside := whites round member
  omega

variable {delay : Nat → σ → σ} {duty : σ → UInt8} {surface : UInt8 → Readings}
  (still : Still delay duty surface)

include still

theorem still_obliging : Obliging σ where
  write level state := by
    obtain ⟨next, taken, _⟩ := still.write level state
    exact ⟨next, taken⟩
  read channel state := by
    obtain ⟨next, read, _⟩ := still.read channel state
    exact ⟨_, next, read⟩

theorem set_sensitivity_carried (level : UInt8) (sensor asked : LineSensor σ)
    (set : setSensitivity level sensor = .ok () asked) : duty asked.expander = level := by
  obtain ⟨next, taken, carried⟩ := still.write level sensor.expander
  rw [set_sensitivity_done level sensor next taken] at set
  cases set
  exact carried

theorem analog_read_all_still (level : UInt8) (sensor answered : LineSensor σ) (readings : Readings)
    (carried : duty sensor.expander = level)
    (read : analogReadAll sensor = .ok readings answered) : readings = surface level := by
  have reads := @analog_read_all_yields σ ε (fun sensor => duty sensor.expander = level) _
    (fun channel value => value = (surface level).get channel) <| by
    intro channel sensor carried
    obtain ⟨next, read, kept⟩ := still.read (Fin.ofNat 8 channel) sensor.expander
    rw [carried] at read
    refine ⟨_, { sensor with expander := next }, ?_, rfl, kept.trans carried⟩
    simp only [analogRead, onExpander, within, read]
  obtain ⟨values, next, done, same, -⟩ := reads sensor carried
  rw [done] at read
  cases read
  ext channel bound
  exact congrArg _ (same ⟨channel, bound⟩)

theorem measured_still (settle : Nat) (rounds : List Measurement) (sensor last : LineSensor σ)
    (measured : Measured delay settle rounds sensor last) :
    ∀ round ∈ rounds, round.readings = surface round.level := by
  induction measured with
  | none sensor =>
      intro round member
      cases member
  | round level readings rest sensor asked answered last set read later ih =>
      intro round member
      rcases List.mem_cons.mp member with rfl | past
      · have carried := set_sensitivity_carried still level sensor asked set
        exact analog_read_all_still still level _ answered readings
          ((still.wait settle _).trans carried) read
      · exact ih round past

section Bounded

variable (bound : Int) (edge : ∀ level : UInt8,
  (∀ channel, blackThreshold < (surface level).get channel) ↔ (level.toNat : Int) ≤ bound)

include edge

theorem measured_black (settle : Nat) (rounds : List Measurement) (sensor last : LineSensor σ)
    (measured : Measured delay settle rounds sensor last) (round : Measurement)
    (member : round ∈ rounds) : round.AllBlack ↔ (round.level.toNat : Int) ≤ bound := by
  rw [Measurement.AllBlack, measured_still still settle rounds sensor last measured round member]
  exact edge round.level

theorem calibration_finds_edge (sensor : LineSensor σ) :
    ∃ found last, calibrate delay sensor = .ok found last ∧
      (found = true ↔ 125 ≤ bound ∧ bound ≤ 253) ∧
      (found = true → (last.sensitivity.toNat : Int) = bound - 4) ∧
      (found = false → last.sensitivity = sensor.sensitivity) ∧
      duty last.expander = last.sensitivity := by
  obtain ⟨coarse, fine, found, last, done, calibrated⟩ :=
    calibrate_done delay (still_obliging still) sensor
  obtain ⟨lit, middle, swept, _, down, up, written⟩ := calibrated.run
  have coarseBlack := measured_black still bound edge 100 coarse _ _ down
  have fineBlack := measured_black still bound edge 50 fine _ _ up
  have carried : duty last.expander = last.sensitivity := by
    obtain ⟨next, taken, carried⟩ := still.write last.sensitivity swept.expander
    rw [written] at taken
    cases taken
    exact carried
  have reached : found = true → 125 ≤ bound ∧ bound ≤ 253 ∧
      (last.sensitivity.toNat : Int) = bound - 4 := by
    intro yes
    obtain ⟨missed, hit, black, round, rfl, hitBlack, _, rfl, ended⟩ := calibrated.reached yes
    have white := mt (fineBlack round (by simp)).mpr ended.edge_white
    refine edge_reached bound _ ((coarseBlack hit (by simp)).mp hitBlack) black round _ ended
      (by omega) fun earlier member => ?_
    exact (fineBlack earlier (List.mem_append_left _ member)).mp (ended.all_black earlier member)
  have restored : found = false → last.sensitivity = sensor.sensitivity ∧
      (bound < 125 ∨ 253 < bound) := by
    intro no
    obtain ⟨kept, ⟨all, whites, -⟩ | ⟨missed, hit, rfl, hitBlack, _, through⟩⟩ :=
      calibrated.restored no
    · refine ⟨kept, .inl (edge_below bound coarse all calibrated.coarse_levels ?_)⟩
      intro round member
      have white := mt (coarseBlack round member).mpr (whites round member)
      omega
    · refine ⟨kept, .inr (edge_beyond bound _ ((coarseBlack hit (by simp)).mp hitBlack) fine
        through fun round member => ?_)⟩
      exact (fineBlack round member).mp (through.all_black round member)
  refine ⟨found, last, done, ?_, fun yes => (reached yes).2.2, fun no => (restored no).1, carried⟩
  cases found with
  | true =>
      have within := reached rfl
      exact ⟨fun _ => ⟨within.1, within.2.1⟩, fun _ => rfl⟩
  | false =>
      have outside := (restored rfl).2
      refine ⟨fun impossible => ?_, fun within => ?_⟩
      · cases impossible
      · omega

end Bounded

end LineSensor

structure Ground (surface : UInt8 → Readings) where
  duty : UInt8 := 0

instance (surface : UInt8 → Readings) : Expander (Ground surface) Unit where
  setMode _ _ := pure ()
  write pin level := fun ground =>
    match level with
    | .pwm duty => .ok () (if pin = sensePin then ⟨duty⟩ else ground)
    | .low | .high => .ok () ground
  read pin := fun ground =>
    match (List.finRange 8).find? fun channel => sensorPins.get channel = pin with
    | some channel => .ok ((surface ground.duty).get channel) ground
    | none => .error ⟨()⟩ ground
  readPins := pure 0

namespace LineSensor

theorem ground_still (surface : UInt8 → Readings) :
    Still (fun _ => id) (@Ground.duty surface) surface where
  write level ground := ⟨⟨level⟩, rfl, rfl⟩
  read channel ground := by
    refine ⟨ground, ?_, rfl⟩
    match channel with
    | 0 | 1 | 2 | 3 | 4 | 5 | 6 | 7 => rfl
  wait _ _ := rfl

def shaded (level : UInt8) : Readings :=
  let most : UInt16 := if level ≤ 180 then 800 else 40
  #v[most, most, most, most, most, most, most, if level ≤ 150 then 101 else 100]

theorem shaded_edge (level : UInt8) :
    (∀ channel, blackThreshold < (shaded level).get channel) ↔ (level.toNat : Int) ≤ 150 := by
  have all : ∀ code : Fin 256,
      (∀ channel, blackThreshold < (shaded (.ofFin code)).get channel) ↔
        ((UInt8.ofFin code).toNat : Int) ≤ 150 := by
    decide +kernel
  exact all level.toFin

theorem shaded_calibrates : Still (fun _ => id) (@Ground.duty shaded) shaded ∧
    (∀ level : UInt8, (∀ channel, blackThreshold < (shaded level).get channel) ↔
      (level.toNat : Int) ≤ 150) ∧
    ∃ last, calibrate (fun _ => id) ({ expander := {} } : LineSensor (Ground shaded)) =
      .ok true last ∧ last.sensitivity = 146 ∧ last.expander.duty = 146 := by
  have still := ground_still shaded
  refine ⟨still, shaded_edge, ?_⟩
  obtain ⟨found, last, done, within, kept, _, carried⟩ :=
    calibration_finds_edge still 150 shaded_edge { expander := {} }
  have yes : found = true := within.mpr (by decide)
  subst yes
  have settled : last.sensitivity = 146 := by
    apply UInt8.toNat_inj.mp
    have level := kept rfl
    change last.sensitivity.toNat = 146
    omega
  exact ⟨last, done, settled, carried.trans settled⟩

end LineSensor

end Rover
