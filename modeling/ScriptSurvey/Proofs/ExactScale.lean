import Mathlib.Algebra.Order.Round
import Mathlib.Data.Rat.Floor
import ScriptSurvey.Scale

/-!
# The scale of fractions

On this scale sums and quotients are exact, and the points of a fraction are the whole number that
is nearest to it when it is cut off at 0 and 100.
-/
namespace ScriptSurvey.ExactScale

section

variable (x y : ℚ)

@[simp] lemma ofNat_rat (n : ℕ) : (Scale.ofNat n : ℚ) = n := rfl

@[simp] lemma add_rat : Scale.add x y = x + y := rfl

@[simp] lemma sub_rat : Scale.sub x y = x - y := rfl

@[simp] lemma mul_rat : Scale.mul x y = x * y := rfl

@[simp] lemma ratio_rat (a b : ℕ) : (Scale.ratio a b : ℚ) = a / b := rfl

@[simp] lemma min_rat : Scale.min x y = min x y := by
  rw [min_comm, min_def_lt]
  rfl

/-- A part is between nothing and the whole. -/
lemma ratio_mem_Icc {part whole : ℕ} (h : part ≤ whole) :
    (Scale.ratio part whole : ℚ) ∈ Set.Icc 0 1 :=
  ⟨div_nonneg (Nat.cast_nonneg part) (Nat.cast_nonneg whole),
    div_le_one_of_le₀ (Nat.cast_le.mpr h) (Nat.cast_nonneg whole)⟩

lemma points_rat : Scale.points x = min 100 ⌊x + 1 / 2⌋.toNat := rfl

/-- A fraction is cut off and then rounded. What is left is not negative, so that a half goes away
from zero. -/
lemma points_eq_round : (Scale.points x : ℤ) = round (max 0 (min 100 x)) := by
  rw [points_rat]
  rcases lt_or_ge x 0 with hneg | hpos
  · have hfloor : ⌊x + 1 / 2⌋ ≤ 0 := Int.floor_le_iff.mpr (by push_cast; linarith)
    rw [Int.toNat_of_nonpos hfloor, max_eq_left ((min_le_right _ _).trans hneg.le)]
    simp
  · rcases le_or_gt x 100 with hle | hgt
    · have hfloor : 0 ≤ ⌊x + 1 / 2⌋ := Int.floor_nonneg.mpr (by linarith)
      have hcap : ⌊x + 1 / 2⌋ ≤ 100 := Int.floor_le_iff.mpr (by push_cast; linarith)
      rw [min_eq_right hle, max_eq_right hpos, round_eq]
      omega
    · have hfloor : 100 ≤ ⌊x + 1 / 2⌋ := Int.le_floor.mpr (by push_cast; linarith)
      rw [min_eq_left hgt.le, max_eq_right (by norm_num), round_ofNat]
      omega

lemma points_le_hundred : Scale.points x ≤ 100 := Nat.min_le_left ..

end

lemma points_mono : Monotone (Scale.points : ℚ → ℕ) := by
  intro x y h
  have hfloor : ⌊x + 1 / 2⌋ ≤ ⌊y + 1 / 2⌋ := Int.floor_mono (by linarith)
  exact min_le_min le_rfl (Int.toNat_le_toNat hfloor)

end ScriptSurvey.ExactScale
