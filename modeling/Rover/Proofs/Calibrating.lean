import Rover.Proofs.Sensitivity

set_option autoImplicit false

namespace Rover.LineSensor

open Line

variable {σ ε β γ : Type}

structure Measurement where
  level : UInt8
  readings : Readings

namespace Measurement

def AllBlack (round : Measurement) : Prop := ∀ channel, blackThreshold < round.readings.get channel

theorem all_black_iff (round : Measurement) : countBlack round.readings = 8 ↔ round.AllBlack := by
  have counted : countBlack round.readings = 8 ↔
      ∀ reading ∈ round.readings.toList, blackThreshold < reading := by
    have all : countBlack round.readings = round.readings.toList.length ↔
        ∀ reading ∈ round.readings.toList, decide (blackThreshold < reading) = true :=
      List.countP_eq_length
    rw [Vector.length_toList] at all
    simpa only [decide_eq_true_iff] using all
  rw [counted]
  constructor
  · intro black channel
    exact black _ (Vector.mem_toList_iff.mpr (Vector.getElem_mem channel.isLt))
  · intro black reading member
    obtain ⟨channel, bound, found⟩ := Vector.mem_iff_getElem.mp (Vector.mem_toList_iff.mp member)
    rw [← found]
    exact black ⟨channel, bound⟩

end Measurement

def waited (delay : Nat → σ → σ) (millis : Nat) (sensor : LineSensor σ) : LineSensor σ :=
  { sensor with expander := delay millis sensor.expander }

structure Obliging (σ : Type) {ε : Type} [Expander σ ε] : Prop where
  write : ∀ (duty : UInt8) (state : σ), ∃ next,
    Expander.write sensePin (.pwm duty) state = .ok () next
  read : ∀ (channel : Fin 8) (state : σ), ∃ value next,
    Expander.read (sensorPins.get channel) state = .ok value next

section Succeeding

def Yields (fit : LineSensor σ → Prop) (command : Sensing σ ε β) (gives : β → Prop) : Prop :=
  ∀ sensor, fit sensor → ∃ value next, command sensor = .ok value next ∧ gives value ∧ fit next

variable {fit : LineSensor σ → Prop}

theorem bind_done (first : Sensing σ ε β) (rest : β → Sensing σ ε γ) (sensor next : LineSensor σ)
    (value : β) (done : first sensor = .ok value next) :
    (first >>= rest) sensor = rest value next := by
  change EStateM.bind first rest sensor = _
  simp only [EStateM.bind, done]

theorem yields_bind {gives : β → Prop} {givesToo : γ → Prop} (first : Sensing σ ε β)
    (rest : β → Sensing σ ε γ) (head : Yields fit first gives)
    (tail : ∀ value, gives value → Yields fit (rest value) givesToo) :
    Yields fit (first >>= rest) givesToo := by
  intro sensor fits
  obtain ⟨value, next, done, said, fitsToo⟩ := head sensor fits
  rw [bind_done first rest sensor next value done]
  exact tail value said next fitsToo

variable [Expander σ ε]

theorem analog_read_all_yields (gives : Fin 8 → UInt16 → Prop)
    (reads : ∀ channel, Yields fit (analogRead channel) (gives (Fin.ofNat 8 channel))) :
    Yields fit analogReadAll fun readings => ∀ channel, gives channel (readings.get channel) := by
  refine yields_bind _ _ (reads 0) fun a first => ?_
  refine yields_bind _ _ (reads 1) fun b second => ?_
  refine yields_bind _ _ (reads 2) fun c third => ?_
  refine yields_bind _ _ (reads 3) fun d fourth => ?_
  refine yields_bind _ _ (reads 4) fun e fifth => ?_
  refine yields_bind _ _ (reads 5) fun f sixth => ?_
  refine yields_bind _ _ (reads 6) fun g seventh => ?_
  refine yields_bind _ _ (reads 7) fun h eighth => ?_
  intro sensor fits
  refine ⟨_, sensor, rfl, ?_, fits⟩
  intro channel
  match channel with
  | 0 => exact first
  | 1 => exact second
  | 2 => exact third
  | 3 => exact fourth
  | 4 => exact fifth
  | 5 => exact sixth
  | 6 => exact seventh
  | 7 => exact eighth

theorem set_sensitivity_done (duty : UInt8) (sensor : LineSensor σ) (expander : σ)
    (taken : Expander.write sensePin (.pwm duty) sensor.expander = .ok () expander) :
    setSensitivity duty sensor = .ok () { sensor with expander, sensitivity := duty } := by
  change onExpander (Expander.write sensePin (.pwm duty)) { sensor with sensitivity := duty } = _
  simp only [onExpander, within, taken]

end Succeeding

variable [Expander σ ε] (delay : Nat → σ → σ) (settle : Nat)

inductive Measured : List Measurement → LineSensor σ → LineSensor σ → Prop where
  | none (sensor : LineSensor σ) : Measured [] sensor sensor
  | round (level : UInt8) (readings : Readings) (rest : List Measurement)
      (sensor asked answered last : LineSensor σ)
      (set : setSensitivity level sensor = .ok () asked)
      (read : analogReadAll (asked.waited delay settle) = .ok readings answered)
      (later : Measured rest answered last) : Measured (⟨level, readings⟩ :: rest) sensor last

variable (obliging : Obliging σ)

include obliging

theorem all_black_done (level : UInt8) (sensor : LineSensor σ) :
    ∃ readings black answered, allBlackAt delay settle level sensor = .ok black answered ∧
      (black = true ↔ (Measurement.mk level readings).AllBlack) ∧
      ∀ rest last, Measured delay settle rest answered last →
        Measured delay settle (⟨level, readings⟩ :: rest) sensor last := by
  obtain ⟨expander, taken⟩ := obliging.write level sensor.expander
  have set := set_sensitivity_done level sensor expander taken
  have reads := @analog_read_all_yields σ ε (fun _ => True) _ (fun _ _ => True) <| by
    intro channel sensor _
    obtain ⟨value, next, read⟩ := obliging.read (Fin.ofNat 8 channel) sensor.expander
    refine ⟨value, { sensor with expander := next }, ?_, trivial, trivial⟩
    simp only [analogRead, onExpander, within, read]
  obtain ⟨readings, answered, read, -, -⟩ :=
    reads (waited delay settle { sensor with expander, sensitivity := level }) trivial
  refine ⟨readings, decide (countBlack readings = 8), answered, ?_, ?_, ?_⟩
  · rw [allBlackAt, bind_done _ _ _ _ _ set]
    change (countOfBlack >>= _)
      (waited delay settle { sensor with expander, sensitivity := level }) = _
    rw [countOfBlack, bind_assoc, bind_done _ _ _ _ _ read]
    rfl
  · rw [decide_eq_true_iff]
    exact Measurement.all_black_iff ⟨level, readings⟩
  · exact fun rest last later => .round level readings rest _ _ _ _ set read later

structure Descent (start : Nat) (rounds : List Measurement) (hit : UInt8) : Prop where
  levels : rounds.map (·.level.toNat) =
    (List.range rounds.length).map fun count => start - 5 * count
  bound : 120 + 5 * rounds.length ≤ start
  ended : (hit = 120 ∧ 120 + 5 * rounds.length = start ∧ ∀ round ∈ rounds, ¬ round.AllBlack) ∨
    ∃ missed last, rounds = missed ++ [last] ∧ last.level = hit ∧ 125 ≤ hit.toNat ∧ last.AllBlack ∧
      ∀ round ∈ missed, ¬ round.AllBlack

omit obliging [Expander σ ε] in
theorem descent_cons (start : Nat) (rounds : List Measurement) (hit : UInt8) (first : Measurement)
    (level : first.level.toNat = start + 5) (white : ¬ first.AllBlack)
    (descent : Descent start rounds hit) : Descent (start + 5) (first :: rounds) hit := by
  obtain ⟨levels, bound, ended⟩ := descent
  have all : ∀ past : List Measurement, (∀ round ∈ past, ¬ round.AllBlack) →
      ∀ round ∈ first :: past, ¬ round.AllBlack := by
    intro past whites round member
    rcases List.mem_cons.mp member with rfl | old
    · exact white
    · exact whites round old
  refine ⟨?_, ?_, ?_⟩
  · rw [List.length_cons, List.range_succ_eq_map, List.map_cons, List.map_cons, List.map_map,
      levels, level]
    congr 1
    apply List.map_congr_left
    intro count _
    simp only [Function.comp_apply]
    omega
  · rw [List.length_cons]
    omega
  · rcases ended with ⟨lowest, through, whites⟩ | ⟨missed, last, rfl, rest⟩
    · refine .inl ⟨lowest, ?_, all rounds whites⟩
      rw [List.length_cons]
      omega
    · exact .inr ⟨first :: missed, last, rfl, rest.1, rest.2.1, rest.2.2.1, all missed rest.2.2.2⟩

theorem sweep_down_done (steps : Nat) (level : UInt8) (grid : level.toNat = 120 + 5 * steps)
    (sensor : LineSensor σ) : ∃ rounds hit last, sweepDown delay level sensor = .ok hit last ∧
      Measured delay 100 rounds sensor last ∧ Descent level.toNat rounds hit := by
  induction steps generalizing level sensor with
  | zero =>
      have low : ¬ minSensitivity < level := by
        rw [UInt8.lt_iff_toNat_lt, grid]
        decide
      rw [sweep_down_low delay level low]
      refine ⟨[], level, sensor, rfl, .none sensor, rfl, Nat.le_of_eq grid.symm,
        .inl ⟨UInt8.toNat_inj.mp grid, grid.symm, ?_⟩⟩
      intro round member
      cases member
  | succ left ih =>
      have above : minSensitivity < level := by
        rw [UInt8.lt_iff_toNat_lt, grid]
        change 120 < _
        omega
      obtain ⟨readings, black, answered, done, all, later⟩ :=
        all_black_done delay 100 obliging level sensor
      rw [sweep_down_above delay level above, bind_done _ _ _ _ _ done]
      cases black with
      | true =>
          refine ⟨[⟨level, readings⟩], level, answered, rfl, later [] _ (.none _), rfl, ?_, .inr ?_⟩
          · rw [grid, List.length_singleton]
            omega
          · exact ⟨[], ⟨level, readings⟩, rfl, rfl, by omega, all.mp rfl,
              fun _ none => by cases none⟩
      | false =>
          have below : (level - 5).toNat = 120 + 5 * left := by
            rw [UInt8.toNat_sub_of_le _ _ (UInt8.le_iff_toNat_le.mpr (by simp; omega))]
            simp
            omega
          obtain ⟨rounds, hit, last, swept, measured, descent⟩ := ih (level - 5) below answered
          have white : ¬ (Measurement.mk level readings).AllBlack := fun black => by
            cases all.mpr black
          have stepped : level.toNat = (level - 5).toNat + 5 := by omega
          refine ⟨⟨level, readings⟩ :: rounds, hit, last, swept, later _ _ measured, ?_⟩
          rw [stepped]
          exact descent_cons _ rounds hit ⟨level, readings⟩ stepped white descent

structure Ascent (start : Nat) (rounds : List Measurement) (edge : UInt8) : Prop where
  levels : rounds.map (·.level.toNat) = List.range' start rounds.length
  ended : (edge = 255 ∧ start + rounds.length = 255 ∧ ∀ round ∈ rounds, round.AllBlack) ∨
    ∃ earlier last, rounds = earlier ++ [last] ∧ last.level = edge ∧
      start + earlier.length = edge.toNat ∧ edge.toNat < 255 ∧ ¬ last.AllBlack ∧
      ∀ round ∈ earlier, round.AllBlack

omit obliging [Expander σ ε] in
theorem ascent_cons (start : Nat) (rounds : List Measurement) (edge : UInt8) (first : Measurement)
    (level : first.level.toNat = start) (black : first.AllBlack)
    (ascent : Ascent (start + 1) rounds edge) : Ascent start (first :: rounds) edge := by
  obtain ⟨levels, ended⟩ := ascent
  have all : ∀ past : List Measurement, (∀ round ∈ past, round.AllBlack) →
      ∀ round ∈ first :: past, round.AllBlack := by
    intro past blacks round member
    rcases List.mem_cons.mp member with rfl | old
    · exact black
    · exact blacks round old
  refine ⟨?_, ?_⟩
  · rw [List.length_cons, List.range'_succ, List.map_cons, levels, level]
  · rcases ended with ⟨highest, through, blacks⟩ | ⟨earlier, last, rfl, here, place, rest⟩
    · refine .inl ⟨highest, ?_, all rounds blacks⟩
      rw [List.length_cons]
      omega
    · refine .inr ⟨first :: earlier, last, rfl, here, ?_, rest.1, rest.2.1, all earlier rest.2.2⟩
      rw [List.length_cons]
      omega

theorem sweep_up_done (level : UInt8) (sensor : LineSensor σ) :
    ∃ rounds edge last, sweepUp delay level sensor = .ok edge last ∧
      Measured delay 50 rounds sensor last ∧ Ascent level.toNat rounds edge := by
  induction level using sweepUp.induct generalizing sensor with
  | case1 level below ih =>
      obtain ⟨readings, black, answered, done, all, later⟩ :=
        all_black_done delay 50 obliging level sensor
      rw [sweep_up_below delay level below, bind_done _ _ _ _ _ done]
      have room : level.toNat < 255 := below
      cases black with
      | true =>
          have stepped : (level + 1).toNat = level.toNat + 1 := by
            rw [UInt8.toNat_add]
            simp
            omega
          obtain ⟨rounds, edge, last, swept, measured, ascent⟩ := ih answered
          rw [stepped] at ascent
          exact ⟨⟨level, readings⟩ :: rounds, edge, last, swept, later _ _ measured,
            ascent_cons _ rounds edge ⟨level, readings⟩ rfl (all.mp rfl) ascent⟩
      | false =>
          have white : ¬ (Measurement.mk level readings).AllBlack := fun black => by
            cases all.mpr black
          exact ⟨[⟨level, readings⟩], level, answered, rfl, later [] _ (.none _), rfl,
            .inr ⟨[], ⟨level, readings⟩, rfl, rfl, rfl, room, white, fun _ none => by cases none⟩⟩
  | case2 level high =>
      have highest : level.toNat = 255 := by
        have bound := level.toNat_lt
        have room : ¬ level.toNat < 255 := high
        omega
      rw [sweep_up_high delay level high]
      exact ⟨[], level, sensor, rfl, .none sensor, rfl,
        .inl ⟨UInt8.toNat_inj.mp highest, highest, fun _ none => by cases none⟩⟩

structure Edge (hit : Nat) (black : List Measurement) (edge : Measurement) (kept : UInt8) :
    Prop where
  levels : black.map (·.level.toNat) = List.range' hit black.length
  all_black : ∀ round ∈ black, round.AllBlack
  top : hit + black.length = kept.toNat + 5
  edge_level : edge.level.toNat = kept.toNat + 5
  edge_white : ¬ edge.AllBlack
  reach : 125 ≤ hit
  low : 120 ≤ kept.toNat
  high : kept.toNat ≤ 249

structure Edgeless (hit : Nat) (fine : List Measurement) : Prop where
  levels : fine.map (·.level.toNat) = List.range' hit fine.length
  all_black : ∀ round ∈ fine, round.AllBlack
  top : hit + fine.length = 255

omit obliging [Expander σ ε] in
theorem ascent_edge (hit : Nat) (black : List Measurement) (last : Measurement) (edge : UInt8)
    (levels : (black ++ [last]).map (·.level.toNat) = List.range' hit (black ++ [last]).length)
    (blacks : ∀ round ∈ black, round.AllBlack) (white : ¬ last.AllBlack)
    (here : last.level = edge) (top : hit + black.length = edge.toNat) (above : 125 ≤ hit)
    (room : edge.toNat < 255) : Edge hit black last (edge - 5) := by
  have lowered : (edge - 5).toNat + 5 = edge.toNat := by
    rw [UInt8.toNat_sub_of_le _ _ (UInt8.le_iff_toNat_le.mpr (by simp; omega))]
    simp
    omega
  rw [List.length_append, List.length_singleton, List.range'_1_concat, List.map_append] at levels
  have parts := (List.append_inj levels (by simp)).1
  refine ⟨parts, blacks, ?_, ?_, white, above, ?_, ?_⟩
  · omega
  · rw [here, lowered]
  · omega
  · omega

theorem restore_done (backup : UInt8) (reason : String) (sensor : LineSensor σ) :
    ∃ last, restore backup reason sensor = .ok false last ∧ last.sensitivity = backup ∧
      Expander.write sensePin (.pwm backup) sensor.expander = .ok () last.expander := by
  obtain ⟨expander, taken⟩ := obliging.write backup sensor.expander
  have set := set_sensitivity_done backup (sensor.say .warn reason) expander taken
  refine ⟨{ sensor.say .warn reason with expander, sensitivity := backup }, ?_, rfl, taken⟩
  change (setSensitivity backup >>= _) (sensor.say .warn reason) = _
  rw [bind_done _ _ _ _ _ set]
  rfl

omit obliging in
def climb (backup black : UInt8) : Sensing σ ε Bool := do
  let edge ← sweepUp delay black
  if edge = 255 then restore backup "calibration failed: surface changed during the sweep"
  else
    setSensitivity (edge - 5)
    modify fun sensor => sensor.say .info s!"calibrated sensitivity={sensor.sensitivity}"
    return true

theorem climb_done (backup hit : UInt8) (above : 125 ≤ hit.toNat) (sensor : LineSensor σ) :
    ∃ fine found last swept, climb delay backup hit sensor = .ok found last ∧
      Measured delay 50 fine sensor swept ∧
      Expander.write sensePin (.pwm last.sensitivity) swept.expander = .ok () last.expander ∧
      fine.length ≤ 130 ∧
      (found = true → ∃ black edge, fine = black ++ [edge] ∧
        Edge hit.toNat black edge last.sensitivity) ∧
      (found = false → last.sensitivity = backup ∧ Edgeless hit.toNat fine) := by
  obtain ⟨fine, edge, swept, up, measured, levels, ended⟩ := sweep_up_done delay obliging hit sensor
  rw [climb, bind_done _ _ _ _ _ up]
  rcases ended with ⟨highest, top, blacks⟩ | ⟨black, last, rfl, here, top, room, white, blacks⟩
  · obtain ⟨last, restored, kept, written⟩ := restore_done obliging backup
      "calibration failed: surface changed during the sweep" swept
    rw [if_pos highest]
    refine ⟨fine, false, last, swept, restored, measured, ?_, by omega, fun found => ?_,
      fun _ => ⟨kept, levels, blacks, top⟩⟩
    · rw [kept]
      exact written
    · cases found
  · have inside : ¬ edge = 255 := fun highest => by
      rw [highest] at room
      exact absurd room (by decide)
    obtain ⟨expander, taken⟩ := obliging.write (edge - 5) swept.expander
    have set := set_sensitivity_done (edge - 5) swept expander taken
    rw [if_neg inside, bind_done _ _ _ _ _ set]
    refine ⟨black ++ [last], true, _, swept, rfl, measured, taken, ?_, fun _ => ⟨black, last, rfl,
      ascent_edge _ black last edge levels blacks white here top above room⟩, fun lost => ?_⟩
    · rw [List.length_append, List.length_singleton]
      omega
    · cases lost

structure Calibrated (sensor : LineSensor σ) (coarse fine : List Measurement) (found : Bool)
    (last : LineSensor σ) : Prop where
  run : ∃ lit middle swept, setSensitivity 255 sensor = .ok () lit ∧
    Measured delay 100 coarse (lit.waited delay 200) middle ∧
    Measured delay 50 fine middle swept ∧
    Expander.write sensePin (.pwm last.sensitivity) swept.expander = .ok () last.expander
  coarse_bound : coarse.length ≤ 27
  coarse_levels : coarse.map (·.level.toNat) =
    (List.range coarse.length).map fun count => 255 - 5 * count
  fine_bound : fine.length ≤ 130
  reached : found = true → ∃ missed hit black edge, coarse = missed ++ [hit] ∧ hit.AllBlack ∧
    (∀ round ∈ missed, ¬ round.AllBlack) ∧ fine = black ++ [edge] ∧
    Edge hit.level.toNat black edge last.sensitivity
  restored : found = false → last.sensitivity = sensor.sensitivity ∧
    ((coarse.length = 27 ∧ (∀ round ∈ coarse, ¬ round.AllBlack) ∧ fine = []) ∨
      ∃ missed hit, coarse = missed ++ [hit] ∧ hit.AllBlack ∧
        (∀ round ∈ missed, ¬ round.AllBlack) ∧ Edgeless hit.level.toNat fine)

theorem calibrate_done (sensor : LineSensor σ) : ∃ coarse fine found last,
    calibrate delay sensor = .ok found last ∧ Calibrated delay sensor coarse fine found last := by
  obtain ⟨expander, taken⟩ := obliging.write 255 sensor.expander
  have set := set_sensitivity_done 255 sensor expander taken
  generalize litEq : ({ sensor with expander, sensitivity := 255 } : LineSensor σ) = lit at set
  obtain ⟨coarse, hit, middle, down, measured, levels, bound, ended⟩ :=
    sweep_down_done delay obliging 27 255 rfl (lit.waited delay 200)
  change 120 + 5 * coarse.length ≤ 255 at bound
  have begun : calibrate delay sensor = (if hit ≤ minSensitivity then
      restore sensor.sensitivity
        s!"calibration failed: not all channels black above {minSensitivity}"
    else climb delay sensor.sensitivity hit) middle := by
    change (setSensitivity 255 >>= _) sensor = _
    rw [bind_done _ _ _ _ _ set]
    change (sweepDown delay 255 >>= _) (lit.waited delay 200) = _
    rw [bind_done _ _ _ _ _ down]
    rfl
  rw [begun]
  rcases ended with ⟨lowest, through, whites⟩ | ⟨missed, round, rfl, here, above, black, whites⟩
  · obtain ⟨last, restored, kept, written⟩ :=
      restore_done obliging sensor.sensitivity
        s!"calibration failed: not all channels black above {minSensitivity}" middle
    have low : hit ≤ minSensitivity := UInt8.le_of_eq lowest
    rw [if_pos low]
    refine ⟨coarse, [], false, last, restored, ⟨lit, middle, middle, set, measured, .none _, ?_⟩,
      by omega, levels, Nat.zero_le _, fun found => ?_,
      fun _ => ⟨kept, .inl ⟨?_, whites, rfl⟩⟩⟩
    · rw [kept]
      exact written
    · cases found
    · change _ = 255 at through
      omega
  · have high : ¬ hit ≤ minSensitivity := fun low => by
      have low := UInt8.le_iff_toNat_le.mp low
      change _ ≤ 120 at low
      omega
    rw [if_neg high]
    obtain ⟨fine, found, last, swept, climbed, measuredUp, written, bounded, reached, restored⟩ :=
      climb_done delay obliging sensor.sensitivity hit above middle
    rw [← here] at reached restored
    refine ⟨missed ++ [round], fine, found, last, climbed,
      ⟨lit, middle, swept, set, measured, measuredUp, written⟩, by omega, levels, bounded, ?_, ?_⟩
    · intro yes
      obtain ⟨earlier, edge, cut, ended⟩ := reached yes
      exact ⟨missed, round, earlier, edge, rfl, black, whites, cut, ended⟩
    · intro no
      obtain ⟨kept, ended⟩ := restored no
      exact ⟨kept, .inr ⟨missed, round, rfl, black, whites, ended⟩⟩

theorem monitored_obliging : Obliging (Monitored σ) where
  write duty state := by
    obtain ⟨next, taken⟩ := obliging.write duty state.expander
    refine ⟨⟨next, Monitored.note sensePin (.pwm duty) true state.writes⟩, ?_⟩
    rw [Monitored.write_apply, taken]
  read channel state := by
    obtain ⟨value, next, read⟩ := obliging.read channel state.expander
    refine ⟨value, { state with expander := next }, ?_⟩
    change Monitored.inside (Expander.read (sensorPins.get channel)) state = _
    simp only [Monitored.inside, within, read]

omit obliging in
theorem write_accepted (duty : UInt8) (before after : Monitored σ)
    (written : Expander.write sensePin (.pwm duty) before = .ok () after) :
    after.writes.head? = some ⟨duty, true⟩ := by
  rw [Monitored.write_apply] at written
  cases taken : Expander.write sensePin (.pwm duty) before.expander with
  | error fault next =>
      rw [taken] at written
      cases written
  | ok _ next =>
      rw [taken] at written
      cases written
      rfl

-- The readings may be anything in any round, also at a level that was measured before.
theorem calibration_settles (sensor : LineSensor σ) :
    ∃ coarse fine found last watched, calibrate delay sensor = .ok found last ∧
      Calibrated delay sensor coarse fine found last ∧
      calibrate (Monitored.delay delay) sensor.monitored = .ok found watched ∧
      Watched sensor.sensitivity last watched ∧
      watched.expander.writes.head? = some ⟨last.sensitivity, true⟩ := by
  obtain ⟨coarse, fine, found, last, done, calibrated⟩ := calibrate_done delay obliging sensor
  obtain ⟨_, _, foundToo, watched, doneToo, calibratedToo⟩ :=
    calibrate_done (Monitored.delay delay) (monitored_obliging obliging) sensor.monitored
  have begun : Watched sensor.sensitivity sensor sensor.monitored := ⟨rfl, rfl, rfl, rfl, rfl⟩
  have same := (watched_twins sensor.sensitivity delay).calibrate_agree sensor _ begun
  rw [done, doneToo] at same
  cases same with
  | ok _ _ _ related =>
      obtain ⟨_, _, _, _, _, _, written⟩ := calibratedToo.run
      rw [related.sensitivity] at written
      exact ⟨coarse, fine, found, last, watched, done, calibrated, doneToo, related,
        write_accepted _ _ _ written⟩

end Rover.LineSensor

namespace Rover

open Line

-- An expander over a surface that changes with every third round of eight readings.
structure Restless where
  reads : Nat := 0

instance : Expander Restless Unit where
  setMode _ _ := pure ()
  write _ _ := pure ()
  read _ := fun surface => .ok (if surface.reads / 8 % 3 = 0 then 40 else 800) ⟨surface.reads + 1⟩
  readPins := pure 0

namespace LineSensor

theorem restless_obliging : Obliging Restless where
  write _ state := ⟨state, rfl⟩
  read _ _ := ⟨_, _, rfl⟩

theorem restless_settles : Obliging Restless ∧ ∃ coarse fine found last watched,
    calibrate (fun _ => id) ({ expander := {} } : LineSensor Restless) = .ok found last ∧
      Calibrated (fun _ => id) { expander := {} } coarse fine found last ∧
      calibrate (Monitored.delay fun _ => id)
        ({ expander := {} } : LineSensor Restless).monitored = .ok found watched ∧
      Watched 208 last watched ∧
      watched.expander.writes.head? = some ⟨last.sensitivity, true⟩ :=
  ⟨restless_obliging, calibration_settles _ restless_obliging _⟩

end LineSensor

end Rover
