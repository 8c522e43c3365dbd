import Rover.Proofs.Oddness
import Rover.Proofs.Tracking

set_option autoImplicit false

namespace Rover

namespace Line

def Position.opposite (position : Position) : Position := ⟨-position.eighths⟩

def flipped (bits : UInt8) : UInt8 := ⟨bits.toBitVec.reverse⟩

def Mirrored (readings other : Readings) : Prop :=
  ∃ offset : Int, ∀ channel : Fin 8,
    ((other.get channel.rev).toNat : Int) = (readings.get channel).toNat + offset

theorem opposite_place (place : Position) :
    Scalar.Aligned .reverse place.toFloat place.opposite.toFloat := by
  have turned := Scalar.float_of_int .reverse place.eighths
  rw [Direction.sign, Int.neg_mul, Int.one_mul] at turned
  exact Scalar.float_div _ _ _ _ turned

theorem flipped_flipped (bits : UInt8) : flipped (flipped bits) = bits := by
  simp only [flipped, BitVec.reverse_reverse_eq]

theorem opposite_row (bits : UInt8) (place : Position)
    (found : Position.ofPattern? bits = some place) :
    Position.ofPattern? (flipped bits) = some place.opposite := by
  simp only [Position.ofPattern?] at found
  split at found <;> cases found <;> rfl

-- A pattern without a line has no line in its mirror image either, since the image of that is the
-- pattern again.
theorem of_pattern_flipped (bits : UInt8) :
    Position.ofPattern? (flipped bits) = (Position.ofPattern? bits).map Position.opposite := by
  cases found : Position.ofPattern? bits with
  | some place => exact opposite_row bits place found
  | none =>
      cases foundToo : Position.ofPattern? (flipped bits) with
      | none => rfl
      | some place =>
          have back := opposite_row (flipped bits) place foundToo
          rw [flipped_flipped, found] at back
          cases back

section Middle

theorem fold_first {β : Type} (before : β → β → Prop) (pick : β → β → β)
    (reflexive : ∀ a, before a a) (transitive : ∀ a b c, before a b → before b c → before a c)
    (first : ∀ a b, before (pick a b) a ∧ before (pick a b) b)
    (picked : ∀ a b, pick a b = a ∨ pick a b = b) (values : List β) (start : β) :
    values.foldl pick start ∈ start :: values ∧
      ∀ value ∈ start :: values, before (values.foldl pick start) value := by
  induction values generalizing start with
  | nil =>
      refine ⟨.head _, fun value member => ?_⟩
      rw [List.mem_singleton.mp member]
      exact reflexive start
  | cons next rest ih =>
      obtain ⟨member, least⟩ := ih (pick start next)
      have here := least (pick start next) (.head _)
      constructor
      · rcases List.mem_cons.mp member with new | old
        · rcases picked start next with same | other
          · exact List.mem_cons.mpr (.inl (new.trans same))
          · exact List.mem_cons_of_mem _ (List.mem_cons.mpr (.inl (new.trans other)))
        · exact List.mem_cons_of_mem _ (List.mem_cons_of_mem _ old)
      · intro value among
        rcases List.mem_cons.mp among with same | later
        · rw [same]
          exact transitive _ _ _ here (first start next).1
        · rcases List.mem_cons.mp later with same | later
          · rw [same]
            exact transitive _ _ _ here (first start next).2
          · exact least value (List.mem_cons_of_mem _ later)

structure Span (readings : Readings) (low high : UInt16) : Prop where
  lowest : ∃ channel, readings.get channel = low
  low : ∀ channel, low ≤ readings.get channel
  highest : ∃ channel, readings.get channel = high
  high : ∀ channel, readings.get channel ≤ high

theorem mem_readings (readings : Readings) (value : UInt16)
    (member : value ∈ readings.get 0 :: readings.toList) : ∃ channel, readings.get channel = value := by
  rcases List.mem_cons.mp member with first | other
  · exact ⟨0, first.symm⟩
  · obtain ⟨channel, bound, found⟩ := Vector.mem_iff_getElem.mp (Vector.mem_toList_iff.mp other)
    exact ⟨⟨channel, bound⟩, found⟩

theorem channel_read (readings : Readings) (channel : Fin 8) :
    readings.get channel ∈ readings.get 0 :: readings.toList :=
  List.mem_cons_of_mem _ (Vector.mem_toList_iff.mpr (Vector.getElem_mem channel.isLt))

theorem max_first (a b : UInt16) : (a ≤ max a b ∧ b ≤ max a b) ∧ (max a b = a ∨ max a b = b) := by
  change (a ≤ (if a ≤ b then b else a) ∧ b ≤ (if a ≤ b then b else a)) ∧
    ((if a ≤ b then b else a) = a ∨ (if a ≤ b then b else a) = b)
  by_cases above : a ≤ b
  · rw [if_pos above]
    exact ⟨⟨above, UInt16.le_refl b⟩, .inr rfl⟩
  · rw [if_neg above]
    exact ⟨⟨UInt16.le_refl a, (UInt16.le_total a b).resolve_left above⟩, .inl rfl⟩

theorem threshold_span (readings : Readings) : ∃ low high, Span readings low high ∧
    (threshold readings).toNat = low.toNat + (high.toNat - low.toNat) / 2 := by
  obtain ⟨lowest, low⟩ := fold_first (· ≤ ·) min UInt16.le_refl (fun _ _ _ => UInt16.le_trans)
    (fun a b => ⟨Std.min_le_left, Std.min_le_right⟩) (fun a b => Std.min_eq_or)
    readings.toList readings[0]
  obtain ⟨highest, high⟩ := fold_first (· ≥ ·) max UInt16.le_refl
    (fun _ _ _ one two => UInt16.le_trans two one) (fun a b => (max_first a b).1)
    (fun a b => (max_first a b).2) readings.toList readings[0]
  refine ⟨_, _, ⟨mem_readings _ _ lowest, fun channel => low _ (channel_read readings channel),
    mem_readings _ _ highest, fun channel => high _ (channel_read readings channel)⟩, ?_⟩
  have ordered := UInt16.le_trans (low _ (.head _)) (high _ (.head _))
  simp only [threshold]
  generalize readings.toList.foldl min readings[0] = smallest at ordered
  generalize readings.toList.foldl max readings[0] = largest at ordered
  have bound := largest.toNat_lt
  have below := UInt16.le_iff_toNat_le.mp ordered
  have half : ((largest - smallest) / 2).toNat = (largest.toNat - smallest.toNat) / 2 := by
    rw [UInt16.toNat_div, UInt16.toNat_sub_of_le _ _ ordered]
    rfl
  rw [UInt16.toNat_add, half]
  omega

theorem threshold_mirrored (readings other : Readings) (offset : Int)
    (shifted : ∀ channel : Fin 8,
      ((other.get channel.rev).toNat : Int) = (readings.get channel).toNat + offset) :
    ((threshold other).toNat : Int) = (threshold readings).toNat + offset := by
  obtain ⟨low, high, span, middle⟩ := threshold_span readings
  obtain ⟨lowToo, highToo, spanToo, middleToo⟩ := threshold_span other
  have back : ∀ channel : Fin 8,
      ((other.get channel).toNat : Int) = (readings.get channel.rev).toNat + offset := by
    intro channel
    rw [← shifted channel.rev, Fin.rev_rev]
  have lows : (lowToo.toNat : Int) = low.toNat + offset := by
    obtain ⟨channel, found⟩ := span.lowest
    obtain ⟨channelToo, foundToo⟩ := spanToo.lowest
    have one := UInt16.le_iff_toNat_le.mp (spanToo.low channel.rev)
    have two := UInt16.le_iff_toNat_le.mp (span.low channelToo.rev)
    have here := shifted channel
    have there := back channelToo
    rw [found] at here
    rw [foundToo] at there
    omega
  have highs : (highToo.toNat : Int) = high.toNat + offset := by
    obtain ⟨channel, found⟩ := span.highest
    obtain ⟨channelToo, foundToo⟩ := spanToo.highest
    have one := UInt16.le_iff_toNat_le.mp (spanToo.high channel.rev)
    have two := UInt16.le_iff_toNat_le.mp (span.high channelToo.rev)
    have here := shifted channel
    have there := back channelToo
    rw [found] at here
    rw [foundToo] at there
    omega
  omega

end Middle

def packed (flags : List Bool) : UInt8 :=
  flags.foldl (fun bits flag => bits <<< 1 ||| flag.toUInt8) 0

theorem pattern_packed (readings : Readings) : pattern readings =
    packed (readings.toList.map fun reading => decide (threshold readings ≤ reading)) := by
  rw [packed, List.foldl_map]
  rfl

theorem packed_reverse (flags : List Bool) (eight : flags.length = 8) :
    packed flags.reverse = flipped (packed flags) := by
  have every : ∀ a b c d e f g h : Bool,
      packed [h, g, f, e, d, c, b, a] = flipped (packed [a, b, c, d, e, f, g, h]) := by
    decide +kernel
  match flags, eight with
  | [a, b, c, d, e, f, g, h], _ => exact every a b c d e f g h

theorem pattern_mirrored (readings other : Readings) (mirrored : Mirrored readings other) :
    pattern other = flipped (pattern readings) := by
  obtain ⟨offset, shifted⟩ := mirrored
  have middle := threshold_mirrored readings other offset shifted
  rw [pattern_packed, pattern_packed, ← packed_reverse _ (by simp)]
  congr 1
  apply List.ext_getElem
  · simp
  intro channel bound boundToo
  have within : channel < 8 := by simpa using bound
  have same := shifted (Fin.rev ⟨channel, within⟩)
  rw [Fin.rev_rev] at same
  have place : Fin.rev ⟨channel, within⟩ = ⟨8 - 1 - channel, by omega⟩ := by
    ext
    simp only [Fin.val_rev]
    omega
  rw [place] at same
  change (other[channel].toNat : Int) = (readings[8 - 1 - channel].toNat : Int) + offset at same
  simp only [List.getElem_map, List.getElem_reverse, List.length_map, Vector.length_toList,
    Vector.getElem_toList, decide_eq_decide, UInt16.le_iff_toNat_le]
  omega

theorem shifted_mirrored (readings : Readings) (amount : UInt16)
    (fits : ∀ channel, (readings.get channel).toNat + amount.toNat < 65536) :
    Mirrored readings (readings.reverse.map (· + amount)) := by
  refine ⟨amount.toNat, fun channel => ?_⟩
  have same : (readings.reverse.map (· + amount)).get channel.rev =
      readings.get channel + amount := by
    change (readings.reverse.map (· + amount))[channel.rev.val] = readings[channel.val] + amount
    rw [Vector.getElem_map, Vector.getElem_reverse]
    congr 2
    simp only [Fin.val_rev]
    omega
  rw [same, UInt16.toNat_add, Nat.mod_eq_of_lt (fits channel)]
  rfl

end Line

namespace LineSensor

open Line

variable {σ τ δ ε : Type}

inductive Sight where
  | pattern (bits : UInt8)
  | readings (values : Readings)
  | failed

def Sight.bits? : Sight → Option UInt8
  | pattern bits => some bits
  | readings values => some (Line.pattern values)
  | failed => none

inductive Sight.Mirrored : Option Sight → Option Sight → Prop where
  | pattern (bits : UInt8) : Mirrored (some (.pattern bits)) (some (.pattern (flipped bits)))
  | readings (values others : Readings) (mirrored : Line.Mirrored values others) :
      Mirrored (some (.readings values)) (some (.readings others))
  | failed : Mirrored (some .failed) (some .failed)

section Requests

variable [Expander σ ε] (delay : Nat → σ → σ)

def Request.sight (request : Request) (sensor : LineSensor σ) : Option Sight :=
  match request with
  | trackPattern bits => some (.pattern bits)
  | trackReadings readings => some (.readings readings)
  | trackSensors =>
      match LineSensor.analogReadAll sensor with
      | .ok readings _ => some (.readings readings)
      | .error _ _ => some .failed
  | _ => none

def sights : List Request → LineSensor σ → List (Option Sight)
  | [], _ => []
  | request :: rest, sensor =>
      request.sight sensor :: sights rest (left (request.act delay sensor))

theorem tracks_of_sight (request : Request) (sensor : LineSensor σ) (sight : Sight)
    (seen : request.sight sensor = some sight) : request.tracks = true := by
  cases request with
  | trackPattern _ | trackReadings _ | trackSensors => rfl
  | begin | setSensitivity _ | analogRead _ | analogReadAll | digitalReadAll | countOfBlack
  | calibrate => cases seen

theorem shown_of_sight (request : Request) (sensor : LineSensor σ) :
    request.shown sensor = (request.sight sensor).bind Sight.bits? := by
  cases request with
  | trackSensors =>
      simp only [Request.shown, Request.sight]
      cases LineSensor.analogReadAll sensor <;> rfl
  | trackPattern _ | trackReadings _ | begin | setSensitivity _ | analogRead _ | analogReadAll
  | digitalReadAll | countOfBlack | calibrate => rfl

end Requests

variable [Expander σ ε] [Expander τ δ] (delay : Nat → σ → σ) (delayToo : Nat → τ → τ)

section Step

variable (request other : Request) (sensor : LineSensor σ) (sensorToo : LineSensor τ)
  (seen : Sight.Mirrored (request.sight sensor) (other.sight sensorToo))

include seen

theorem shown_mirrored : other.shown sensorToo = (request.shown sensor).map flipped := by
  rw [shown_of_sight, shown_of_sight]
  generalize request.sight sensor = sight at seen
  generalize other.sight sensorToo = sightToo at seen
  cases seen with
  | pattern bits => rfl
  | readings values others mirrored => exact congrArg some (pattern_mirrored _ _ mirrored)
  | failed => rfl

theorem place_mirrored (kept : sensorToo.previous = sensor.previous.opposite) :
    other.place sensorToo = (request.place sensor).opposite := by
  rw [Request.place, Request.place, shown_mirrored request other sensor sensorToo seen, kept]
  cases request.shown sensor with
  | none => rfl
  | some bits =>
      simp only [Option.map_some, Option.bind_some, of_pattern_flipped]
      cases Position.ofPattern? bits <;> rfl

theorem both_track : request.tracks = true ∧ other.tracks = true := by
  generalize came : request.sight sensor = sight at seen
  generalize cameToo : other.sight sensorToo = sightToo at seen
  cases seen with
  | pattern | readings | failed =>
      exact ⟨tracks_of_sight _ _ _ came, tracks_of_sight _ _ _ cameToo⟩

end Step

def Opposed (ended : EStateM.Result (BusFault ε) (LineSensor σ) Reply)
    (other : EStateM.Result (BusFault δ) (LineSensor τ) Reply) : Prop :=
  ∃ place next nextToo, ended = .ok (.position place) next ∧
    other = .ok (.position place.opposite) nextToo ∧
    Scalar.Aligned .reverse place.toFloat place.opposite.toFloat

theorem session_mirrored (requests others : List Request) (sensor : LineSensor σ)
    (sensorToo : LineSensor τ) (kept : sensorToo.previous = sensor.previous.opposite)
    (seen : List.Forall₂ Sight.Mirrored (sights delay requests sensor)
      (sights delayToo others sensorToo)) :
    List.Forall₂ Opposed (session delay requests sensor) (session delayToo others sensorToo) := by
  induction requests generalizing others sensor sensorToo with
  | nil =>
      cases others with
      | nil => exact .nil
      | cons other rest => cases seen
  | cons request rest ih =>
      cases others with
      | nil => cases seen
      | cons other restToo =>
          obtain ⟨here, later⟩ := List.forall₂_cons.mp seen
          have placed := place_mirrored request other sensor sensorToo here kept
          obtain ⟨tracks, tracksToo⟩ := both_track request other sensor sensorToo here
          obtain ⟨next, ended, remembered⟩ := act_tracked delay request sensor tracks
          obtain ⟨nextToo, endedToo, rememberedToo⟩ := act_tracked delayToo other sensorToo tracksToo
          rw [placed] at endedToo rememberedToo
          rw [session, session]
          refine .cons ⟨_, next, nextToo, ended, endedToo, opposite_place _⟩ (ih _ _ _ ?_ later)
          rw [ended, endedToo]
          exact rememberedToo.trans (congrArg _ remembered.symm)

theorem tracking_mirror_symmetric (expander : σ) (expanderToo : τ) (log logToo : Log)
    (requests others : List Request)
    (seen : List.Forall₂ Sight.Mirrored (sights delay requests { expander, log })
      (sights delayToo others { expander := expanderToo, log := logToo })) :
    List.Forall₂ Opposed (session delay requests { expander, log })
      (session delayToo others { expander := expanderToo, log := logToo }) :=
  session_mirrored delay delayToo requests others _ _ rfl seen

-- The line is under the second channel, and then a channel fails to answer.
def drifting : Rehearsed := ⟨[some 40, some 800, some 300, some 40, some 40, some 40, some 40,
  some 40, some 40, none]⟩

def driftingToo : Rehearsed := ⟨[some 65, some 65, some 65, some 65, some 65, some 325, some 825,
  some 65, none]⟩

def looks : List Request := [.trackPattern 0b00110000, .trackSensors, .trackSensors]

def looksToo : List Request := [.trackPattern 0b00001100, .trackSensors, .trackSensors]

theorem drift_mirrored :
    List.Forall₂ Sight.Mirrored (sights (fun _ => id) looks { expander := drifting, log := {} })
      (sights (fun _ => id) looksToo { expander := driftingToo, log := {} }) ∧
    List.Forall₂ Opposed (session (fun _ => id) looks { expander := drifting, log := {} })
      (session (fun _ => id) looksToo { expander := driftingToo, log := {} }) := by
  have seen : List.Forall₂ Sight.Mirrored
      (sights (fun _ => id) looks { expander := drifting, log := {} })
      (sights (fun _ => id) looksToo { expander := driftingToo, log := {} }) := by
    have darker := shifted_mirrored #v[40, 800, 300, 40, 40, 40, 40, 40] 25 (by decide)
    rw [show (#v[40, 800, 300, 40, 40, 40, 40, 40] : Readings).reverse.map (· + 25) =
      #v[65, 65, 65, 65, 65, 325, 825, 65] by decide +kernel] at darker
    exact .cons (.pattern _) (.cons (.readings _ _ darker) (.cons .failed .nil))
  exact ⟨seen, tracking_mirror_symmetric _ _ _ _ _ _ _ _ seen⟩

end LineSensor

end Rover
