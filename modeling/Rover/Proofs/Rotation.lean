import Mathlib.Algebra.Order.Ring.Int
import Mathlib.Data.Int.ModEq
import Mathlib.Tactic.IntervalCases
import Mathlib.Tactic.Ring
import Rover.Quadrature

/-!
An edge counts the steps on the ring from the phase before to the phase after, and a flip of both
pins, which could have gone either way, counts nothing.
-/

set_option autoImplicit false

namespace Rover

namespace Phase

def number : Phase → Int
  | ⟨false, false⟩ => 0
  | ⟨true, false⟩ => 1
  | ⟨true, true⟩ => 2
  | ⟨false, true⟩ => 3

def ofTick (tick : Int) : Phase := ⟨tick % 4 = 1 ∨ tick % 4 = 2, 2 ≤ tick % 4⟩

theorem number_of_tick (tick : Int) : (ofTick tick).number = tick % 4 := by
  have low := Int.emod_nonneg tick (by decide : (4 : Int) ≠ 0)
  have high := Int.emod_lt_of_pos tick (by decide : (0 : Int) < 4)
  rw [ofTick]
  generalize tick % 4 = place at *
  interval_cases place <;> rfl

-- The steps along the ring, the shorter way. Half way round is 2 steps back.
def steps (before after : Phase) : Int := (after.number - before.number).bmod 4

def doubleFlip (before after : Phase) : Nat :=
  if before.a ≠ after.a ∧ before.b ≠ after.b then 1 else 0

theorem transition_steps (before after : Phase) :
    transition (before.code <<< 2 ||| after.code) =
      steps before after + 2 * doubleFlip before after := by
  rcases before with ⟨_ | _, _ | _⟩ <;> rcases after with ⟨_ | _, _ | _⟩ <;> rfl

theorem double_flip_zero (before after : Phase) (near : |steps before after| ≤ 1) :
    doubleFlip before after = 0 := by
  revert near
  rcases before with ⟨_ | _, _ | _⟩ <;> rcases after with ⟨_ | _, _ | _⟩ <;> decide

def net : Phase → List Phase → Int
  | _, [] => 0
  | before, after :: rest => steps before after + net after rest

def doubleFlips : Phase → List Phase → Nat
  | _, [] => 0
  | before, after :: rest => doubleFlip before after + doubleFlips after rest

theorem net_congruent (first : Phase) (phases : List Phase) :
    net first phases ≡ (phases.getLastD first).number - first.number [ZMOD 4] := by
  induction phases generalizing first with
  | nil => simp [net]
  | cons next rest ih =>
      have later := ih next
      rw [net, List.getLastD_cons, steps]
      rw [Int.ModEq] at later ⊢
      rw [Int.bmod_def]
      omega

section Shaft

def Gradual (origin : Int) (path : List Int) : Prop :=
  (origin :: path).IsChain fun before after => |after - before| ≤ 1

theorem steps_of_ticks (before after : Int) (near : |after - before| ≤ 1) :
    steps (ofTick before) (ofTick after) = after - before := by
  rw [abs_le] at near
  rw [steps, number_of_tick, number_of_tick, Int.bmod_def]
  omega

theorem net_of_ticks (origin : Int) (path : List Int) (gradual : Gradual origin path) :
    net (ofTick origin) (path.map ofTick) = path.getLastD origin - origin ∧
      doubleFlips (ofTick origin) (path.map ofTick) = 0 := by
  induction path generalizing origin with
  | nil => simp [net, doubleFlips]
  | cons next rest ih =>
      obtain ⟨near, gradual⟩ := List.isChain_cons_cons.mp gradual
      obtain ⟨later, none⟩ := ih next gradual
      have moved := steps_of_ticks origin next near
      rw [List.map_cons, net, doubleFlips, later, none, moved, List.getLastD_cons,
        double_flip_zero _ _ (by rwa [moved])]
      omega

end Shaft

end Phase

inductive Signal where
  | edge (phase : Phase)
  | preset (position : Int32)
  | reset

def Signal.phase? : Signal → Option Phase
  | edge phase => some phase
  | preset _ | reset => none

namespace Encoder

def heed (encoder : Encoder) : Signal → Encoder
  | .edge phase => encoder.edge phase
  | .preset position => encoder.preset position
  | .reset => encoder.reset

def heedAll (encoder : Encoder) (signals : List Signal) : Encoder := signals.foldl heed encoder

def sense (encoder : Encoder) : Int := if encoder.inverted then -1 else 1

variable (encoder : Encoder)

theorem sense_cases : encoder.sense = 1 ∨ encoder.sense = -1 := by
  rw [sense]
  cases encoder.inverted with
  | false => exact .inl rfl
  | true => exact .inr rfl

theorem heed_sense (signal : Signal) : (encoder.heed signal).sense = encoder.sense := by
  cases signal <;> rfl

-- Of all signals only the edges leave a trace in the phase.
theorem heed_all_kept (signals : List Signal) :
    (encoder.heedAll signals).sense = encoder.sense ∧
      (encoder.heedAll signals).phase =
        (signals.filterMap Signal.phase?).getLastD encoder.phase := by
  induction signals generalizing encoder with
  | nil => exact ⟨rfl, rfl⟩
  | cons signal rest ih =>
      obtain ⟨sense, phase⟩ := ih (encoder.heed signal)
      refine ⟨sense.trans (encoder.heed_sense signal), phase.trans ?_⟩
      cases signal with
      | edge next =>
          rw [List.filterMap_cons, Signal.phase?, List.getLastD_cons]
          rfl
      | preset | reset => rfl

theorem edge_position (phase : Phase) : (encoder.edge phase).position = encoder.position +
    Int32.ofInt (encoder.sense *
      (Phase.steps encoder.phase phase + 2 * Phase.doubleFlip encoder.phase phase)) := by
  rw [edge, Phase.transition_steps, sense]
  cases encoder.inverted <;> simp

theorem edges_position (phases : List Phase) :
    (encoder.heedAll (phases.map .edge)).position = encoder.position +
      Int32.ofInt (encoder.sense *
        (Phase.net encoder.phase phases + 2 * Phase.doubleFlips encoder.phase phases)) := by
  induction phases generalizing encoder with
  | nil => simp [heedAll, Phase.net, Phase.doubleFlips]
  | cons next rest ih =>
      have counted := ih (encoder.edge next)
      change ((encoder.edge next).heedAll (rest.map .edge)).position = _
      rw [counted, edge_position, Int32.add_assoc, ← Int32.ofInt_add]
      congr 2
      change encoder.sense * _ +
        encoder.sense * (Phase.net next rest + 2 * Phase.doubleFlips next rest) = _
      simp only [Phase.net, Phase.doubleFlips]
      push_cast
      ring

-- What an encoder counts after any beginning, resets and presets included. It starts from the last
-- phase that it saw. Over a walk without a double flip it counts the ring steps of the walk, and
-- so, of a shaft that takes no two ticks at once, the way from its first tick to its last: what
-- bounces to and fro cancels out, and a turn of the ring counts four. Over any walk at all the
-- count and two for each double flip come as far round the ring as the last phase is from the
-- first.
theorem measures_net_rotation (primed : Phase) (earlier : List Signal) (phases : List Phase) :
    let begun := (encoder.prime primed).heedAll earlier
    let ended := begun.heedAll (phases.map .edge)
    let first := (earlier.filterMap Signal.phase?).getLastD primed
    begun.phase = first ∧
    (Phase.doubleFlips first phases = 0 → ended.position =
      begun.position + Int32.ofInt (encoder.sense * Phase.net first phases)) ∧
    (∀ origin path, Phase.ofTick origin = first → path.map Phase.ofTick = phases →
      Phase.Gradual origin path → ended.position =
        begun.position + Int32.ofInt (encoder.sense * (path.getLastD origin - origin))) ∧
    encoder.sense * (ended.position - begun.position).toInt + 2 * Phase.doubleFlips first phases ≡
      (phases.getLastD first).number - first.number [ZMOD 4] := by
  intro begun ended first
  obtain ⟨sense, phase⟩ := (encoder.prime primed).heed_all_kept earlier
  have counted := begun.edges_position phases
  have congruent := Phase.net_congruent first phases
  change begun.sense = encoder.sense at sense
  change begun.phase = first at phase
  rw [sense, phase] at counted
  refine ⟨phase, ?_, ?_, ?_⟩
  · intro none
    rw [counted, none, Nat.cast_zero, mul_zero, add_zero]
  · rintro origin path started rfl gradual
    obtain ⟨net, none⟩ := Phase.net_of_ticks origin path gradual
    rw [started] at net none
    rw [counted, net, none, Nat.cast_zero, mul_zero, add_zero]
  · have way : (ended.position - begun.position).toInt = (encoder.sense *
        (Phase.net first phases + 2 * Phase.doubleFlips first phases)).bmod 4294967296 := by
      rw [counted, Int32.add_comm, Int32.add_sub_cancel, Int32.toInt_ofInt]
    rw [Int.ModEq] at congruent ⊢
    rw [Int.bmod_def] at way
    rw [way, ← congruent]
    rcases encoder.sense_cases with along | against
    · rw [along]
      omega
    · rw [against]
      omega

-- A full turn with bounces on the way, on an inverted encoder that was reset, set to the end of its
-- range and has missed an edge before.
theorem bounced_turn_counts :
    let earlier := [.edge ⟨true, true⟩, .reset, .edge (Phase.ofTick 5), .preset (-2147483646)]
    let begun := ((new 2376 true).prime .rest).heedAll earlier
    let path := [5, 6, 5, 6, 7, 7, 6, 7, 8, 9]
    let ended := begun.heedAll ((path.map Phase.ofTick).map .edge)
    Phase.doubleFlips (Phase.ofTick 5) (path.map Phase.ofTick) = 0 ∧ Phase.Gradual 5 path ∧
    ended.position = begun.position + Int32.ofInt (-1 * 4) ∧ ended.position = 2147483646 := by
  intro earlier begun path ended
  have gradual : Phase.Gradual 5 path := by
    rw [Phase.Gradual]
    decide
  have measured := (new 2376 true).measures_net_rotation .rest earlier (path.map Phase.ofTick)
  exact ⟨by decide, gradual, measured.2.2.1 5 path rfl rfl gradual, by decide⟩

end Encoder

end Rover
