import Rover.Profile
import Rover.Proofs.Fractions

set_option autoImplicit false

namespace Rover

namespace Scalar

-- The whole number nearest to a fraction, a half goes away from zero.
def nearestWhole (q : ℚ) : ℤ := if q < 0 then -⌊|q| + 1 / 2⌋ else ⌊|q| + 1 / 2⌋

instance : Scalar ℚ where
  abs q := |q|
  ofInt n := n
  truncate := wholePart
  round := nearestWhole

theorem whole_part_of_nonneg (q : ℚ) (nonneg : 0 ≤ q) : 0 ≤ wholePart q := by
  rw [whole_part_nonneg q nonneg]
  exact Int.floor_nonneg.mpr nonneg

end Scalar

theorem saturate_nonneg (n : Int) (nonneg : 0 ≤ n) : 0 ≤ saturate n := by
  unfold saturate
  omega

theorem saturate_nonpos (n : Int) (nonpos : n ≤ 0) : saturate n ≤ 0 := by
  unfold saturate
  omega

def Both.swap {β : Type} (pair : Both β) : Both β := ⟨pair.right, pair.left⟩

namespace Profile

structure Closing (progress : Both ℚ) (biases : Both Int) : Prop where
  single : biases.left = 0 ∨ biases.right = 0
  aligned : 0 ≤ ((biases.left - biases.right : ℤ) : ℚ) * (progress.right - progress.left)

-- The push when `order` compares what is left to the left wheel with what is left to the right one.
def pushed (order : Ordering) (progress : Both ℚ) (k : ℚ) : Both Int :=
  match order with
  | .lt => ⟨0, bias (progress.left - progress.right) k⟩
  | .eq => ⟨0, 0⟩
  | .gt => ⟨bias (progress.right - progress.left) k, 0⟩

section Push

variable (errors progress : Both ℚ) (k : ℚ)

theorem straight_pushed : straightCorrection errors progress k =
    pushed (cmp (Scalar.abs errors.left) (Scalar.abs errors.right)) progress k := by
  simp only [straightCorrection]
  rcases lt_trichotomy (Scalar.abs errors.left) (Scalar.abs errors.right) with less | same | more
  · rw [if_pos less, (cmp_eq_lt_iff _ _).mpr less, pushed]
  · rw [if_neg same.not_lt, if_neg same.not_gt, (cmp_eq_eq_iff _ _).mpr same, pushed]
  · rw [if_neg more.not_gt, if_pos more, (cmp_eq_gt_iff _ _).mpr more, pushed]

theorem progress_pushed :
    progressCorrection progress k = pushed (cmp progress.right progress.left) progress k := by
  simp only [progressCorrection]
  rcases lt_trichotomy progress.right progress.left with less | same | more
  · rw [if_pos less, (cmp_eq_lt_iff _ _).mpr less, pushed]
  · rw [if_neg same.not_lt, if_neg same.not_gt, (cmp_eq_eq_iff _ _).mpr same, pushed]
  · rw [if_neg more.not_gt, if_pos more, (cmp_eq_gt_iff _ _).mpr more, pushed]

theorem pushed_swap (order : Ordering) :
    pushed order.swap progress.swap k = (pushed order progress k).swap := by
  cases order <;> rfl

-- Neither the whole part nor the saturation turns the lead around.
theorem bias_aligned (gain : 0 ≤ k) (lead : ℚ) : 0 ≤ (bias lead k : ℚ) * lead := by
  rcases le_total 0 lead with ahead | behind
  · have whole := Scalar.whole_part_of_nonneg (lead * k) (mul_nonneg ahead gain)
    have pushed : (0 : ℚ) ≤ bias lead k := by exact_mod_cast saturate_nonneg _ whole
    exact mul_nonneg pushed ahead
  · have whole := Scalar.whole_part_of_nonneg (-lead * k)
      (mul_nonneg (neg_nonneg.mpr behind) gain)
    rw [neg_mul, Scalar.whole_part_neg, Int.neg_nonneg] at whole
    have pulled : (bias lead k : ℚ) ≤ 0 := by exact_mod_cast saturate_nonpos _ whole
    exact mul_nonneg_of_nonpos_of_nonpos pulled behind

-- Whichever wheel is called ahead: a push that goes by the wrong errors turns into a brake.
theorem pushed_closing (gain : 0 ≤ k) (order : Ordering) :
    Closing progress (pushed order progress k) := by
  cases order with
  | lt =>
      have aligned := bias_aligned k gain (progress.left - progress.right)
      refine ⟨.inl rfl, ?_⟩
      simp only [pushed]
      push_cast
      linarith
  | eq => exact ⟨.inl rfl, by simp [pushed]⟩
  | gt =>
      have aligned := bias_aligned k gain (progress.right - progress.left)
      refine ⟨.inr rfl, ?_⟩
      simp only [pushed]
      push_cast
      linarith

theorem straight_short_of_target (target : ℚ) (left : progress.left ≤ target)
    (right : progress.right ≤ target) :
    straightCorrection (progress.map (target - ·)) progress k = progressCorrection progress k := by
  have leftError : Scalar.abs (target - progress.left) = target - progress.left :=
    abs_of_nonneg (sub_nonneg.mpr left)
  have rightError : Scalar.abs (target - progress.right) = target - progress.right :=
    abs_of_nonneg (sub_nonneg.mpr right)
  simp only [straightCorrection, progressCorrection, Both.map, leftError, rightError,
    sub_lt_sub_iff_left]

end Push

theorem corrections_close_the_gap (errors progress : Both ℚ) (k : ℚ) (gain : 0 ≤ k) :
    (Closing progress (straightCorrection errors progress k) ∧
      Closing progress (progressCorrection progress k)) ∧
    (straightCorrection errors.swap progress.swap k = (straightCorrection errors progress k).swap ∧
      progressCorrection progress.swap k = (progressCorrection progress k).swap) ∧
    ∀ target, progress.left ≤ target → progress.right ≤ target →
      errors = progress.map (target - ·) →
      straightCorrection errors progress k = progressCorrection progress k := by
  refine ⟨⟨?_, ?_⟩, ⟨?_, ?_⟩, ?_⟩
  · rw [straight_pushed]
    exact pushed_closing progress k gain _
  · rw [progress_pushed]
    exact pushed_closing progress k gain _
  · rw [straight_pushed, straight_pushed, ← pushed_swap, cmp_swap]
    rfl
  · rw [progress_pushed, progress_pushed, ← pushed_swap, cmp_swap]
    rfl
  · intro target left right remaining
    rw [remaining]
    exact straight_short_of_target progress k target left right

theorem half_apart_closed :
    Closing ⟨1, 1 / 2⟩ (straightCorrection ⟨1 / 2, 1⟩ ⟨1, 1 / 2⟩ (80 : ℚ)) ∧
    straightCorrection ⟨1 / 2, 1⟩ ⟨1, 1 / 2⟩ (80 : ℚ) = ⟨0, 40⟩ ∧
    progressCorrection ⟨1, 1 / 2⟩ (80 : ℚ) = ⟨0, 40⟩ := by
  obtain ⟨⟨closing, _⟩, _, agree⟩ :=
    corrections_close_the_gap ⟨1 / 2, 1⟩ ⟨1, 1 / 2⟩ 80 (by norm_num)
  have same := agree (3 / 2) (by norm_num) (by norm_num) (by norm_num [Both.map])
  have pushed : progressCorrection ⟨1, 1 / 2⟩ (80 : ℚ) = ⟨0, 40⟩ := by decide +kernel
  exact ⟨closing, same.trans pushed, pushed⟩

end Profile

end Rover
