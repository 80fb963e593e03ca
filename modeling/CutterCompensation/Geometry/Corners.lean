import CutterCompensation.Geometry.Kernel
import Mathlib.Tactic.LinearCombination
import Mathlib.Tactic.Linarith

/-!
# Corners

`calculate_corner_intersection` starts both offset lines at the corner displaced
along their own normals, `p1` and `p2`, and follows the first one for
`t1 = (p2 - p1) × u2 / (u1 × u2)`.  For unit directions this module proves what
that point is: it lies on both offset lines, at signed distance `r` on the
chosen side of both programmed lines, and it lies behind `p1` along the incoming
direction exactly when the path turns towards the compensation side.
`is_inside_corner` tests the opposite sign of `u1 × u2`.
-/

namespace CutterCompensation

variable {K : Type} [LinearOrderedField K]

/-! ## Plane identities -/

theorem Vec2.add_sub_cancel_left' (a b : Vec2 K) : a + b - a = b := by
  simp [Vec2.ext_iff']

theorem crossProduct2d_smul_self (t : K) (u : Vec2 K) : crossProduct2d (t • u) u = 0 := by
  simp only [crossProduct2d, Vec2.smul_x, Vec2.smul_y]
  ring

/-- Lagrange's identity in the plane: `(u · v)² + (u × v)² = |u|² |v|²`. -/
theorem dot_sq_add_crossProduct2d_sq (u v : Vec2 K) :
    u.dot v ^ 2 + crossProduct2d u v ^ 2 = u.normSq * v.normSq := by
  simp only [Vec2.normSq, Vec2.dot, crossProduct2d]
  ring

/-- Two unit vectors that are not parallel make an angle: `u1 · u2 < 1`. -/
theorem dot_lt_one_of_crossProduct2d_ne_zero {u1 u2 : Vec2 K} (hu1 : u1.normSq = 1)
    (hu2 : u2.normSq = 1) (hd : crossProduct2d u1 u2 ≠ 0) : u1.dot u2 < 1 := by
  have hlag := dot_sq_add_crossProduct2d_sq u1 u2
  rw [hu1, hu2, mul_one] at hlag
  have hsq : u1.dot u2 ^ 2 < 1 := by linarith [sq_pos_of_ne_zero hd]
  exact (abs_lt.mp ((sq_lt_one_iff_abs_lt_one _).mp hsq)).2

/-! ## The offset lines -/

/-- The offset point lies at signed distance `r` from the line along `u`,
positive to the left of travel: `u × (p - c) = ±r |u|²`. -/
theorem crossProduct2d_perpendicularOffset (c u : Vec2 K) (r : K) (isLeft : Bool) :
    crossProduct2d u (calculatePerpendicularOffset c u r isLeft - c) =
      (if isLeft then r else -r) * u.normSq := by
  cases isLeft <;>
    simp only [crossProduct2d, Vec2.normSq, Vec2.dot, Vec2.sub_x, Vec2.sub_y,
      calculatePerpendicularOffset_x, calculatePerpendicularOffset_y, offsetNormal_true,
      offsetNormal_false, if_true, Bool.false_eq_true, if_false] <;>
    ring

/-- The numerator of `t1`: `(p2 - p1) × u2 = ±r (u1 · u2 - |u2|²)`. -/
theorem crossProduct2d_sub_perpendicularOffsets (c u1 u2 : Vec2 K) (r : K) (isLeft : Bool) :
    crossProduct2d (calculatePerpendicularOffset c u2 r isLeft -
        calculatePerpendicularOffset c u1 r isLeft) u2 =
      (if isLeft then r else -r) * (u1.dot u2 - u2.normSq) := by
  cases isLeft <;>
    simp only [crossProduct2d, Vec2.normSq, Vec2.dot, Vec2.sub_x, Vec2.sub_y,
      calculatePerpendicularOffset_x, calculatePerpendicularOffset_y, offsetNormal_true,
      offsetNormal_false, if_true, Bool.false_eq_true, if_false] <;>
    ring

/-- Moving `t` along `u1` changes the side of the line along `u2` by `t (u1 × u2)`. -/
theorem crossProduct2d_add_smul_sub (p1 p2 u1 u2 : Vec2 K) (t : K) :
    crossProduct2d (p1 + t • u1 - p2) u2 =
      t * crossProduct2d u1 u2 - crossProduct2d (p2 - p1) u2 := by
  simp only [crossProduct2d, Vec2.add_x, Vec2.add_y, Vec2.sub_x, Vec2.sub_y, Vec2.smul_x,
    Vec2.smul_y]
  ring

/-- The defining property of `t1`: `p1 + t1 u1` is on the line through `p2`
along `u2`. -/
theorem crossProduct2d_corner_sub (p1 p2 : Vec2 K) {u1 u2 : Vec2 K}
    (hd : crossProduct2d u1 u2 ≠ 0) :
    crossProduct2d (p1 + (crossProduct2d (p2 - p1) u2 / crossProduct2d u1 u2) • u1 - p2) u2 =
      0 := by
  rw [crossProduct2d_add_smul_sub, div_mul_cancel₀ _ hd, sub_self]

theorem crossProduct2d_ne_zero_of_le {u1 u2 : Vec2 K} (h : epsilon ≤ |crossProduct2d u1 u2|) :
    crossProduct2d u1 u2 ≠ 0 := fun h0 => by
  rw [h0, abs_zero] at h
  exact absurd h (not_le.mpr epsilon_pos)

/-- `calculate_corner_intersection` is correct: for unit directions that are
not parallel it returns a point on both offset lines, at signed distance `r` on
the chosen side of both programmed lines through the corner; for parallel ones
it returns `false` and writes nothing. -/
theorem cornerIntersection_on_offset_lines (c u1 u2 : Vec2 K) (r : K) (isLeft : Bool)
    (hu1 : u1.normSq = 1) (hu2 : u2.normSq = 1) :
    (epsilon ≤ |crossProduct2d u1 u2| →
      ∃ q, calculateCornerIntersection c u1 u2 r isLeft = some q ∧
        crossProduct2d (q - calculatePerpendicularOffset c u1 r isLeft) u1 = 0 ∧
        crossProduct2d (q - calculatePerpendicularOffset c u2 r isLeft) u2 = 0 ∧
        crossProduct2d u1 (q - c) = (if isLeft then r else -r) ∧
        crossProduct2d u2 (q - c) = (if isLeft then r else -r)) ∧
    (|crossProduct2d u1 u2| < epsilon → calculateCornerIntersection c u1 u2 r isLeft = none) := by
  refine ⟨fun h => ?_, (calculateCornerIntersection_eq_none_iff _ _ _ _ _).mpr⟩
  have hd := crossProduct2d_ne_zero_of_le h
  have hsecond := crossProduct2d_corner_sub (calculatePerpendicularOffset c u1 r isLeft)
    (calculatePerpendicularOffset c u2 r isLeft) hd
  refine ⟨_, calculateCornerIntersection_of_not_lt (not_lt.mpr h), ?first, hsecond, ?dist1, ?dist2⟩
  case first => rw [Vec2.add_sub_cancel_left', crossProduct2d_smul_self]
  case dist1 =>
    have hoff := crossProduct2d_perpendicularOffset c u1 r isLeft
    rw [hu1, mul_one] at hoff
    rw [← hoff]
    simp only [crossProduct2d, Vec2.add_x, Vec2.add_y, Vec2.sub_x, Vec2.sub_y, Vec2.smul_x,
      Vec2.smul_y]
    ring
  case dist2 =>
    have hoff := crossProduct2d_perpendicularOffset c u2 r isLeft
    rw [hu2, mul_one] at hoff
    rw [← hoff]
    simp only [crossProduct2d, Vec2.add_x, Vec2.add_y, Vec2.sub_x, Vec2.sub_y,
      Vec2.smul_x, Vec2.smul_y] at hsecond ⊢
    linear_combination -hsecond

/-- The corner of `(1,0)` then `(0,1)` at the origin, G41 with radius 1: `(-1, 1)`. -/
theorem cornerIntersection_on_offset_lines_leftTurn :
    let c : Vec2 ℚ := ⟨0, 0⟩
    let u1 : Vec2 ℚ := ⟨1, 0⟩
    let u2 : Vec2 ℚ := ⟨0, 1⟩
    u1.normSq = 1 ∧ u2.normSq = 1 ∧
      (epsilon ≤ |crossProduct2d u1 u2| →
        ∃ q, calculateCornerIntersection c u1 u2 1 true = some q ∧
          crossProduct2d (q - calculatePerpendicularOffset c u1 1 true) u1 = 0 ∧
          crossProduct2d (q - calculatePerpendicularOffset c u2 1 true) u2 = 0 ∧
          crossProduct2d u1 (q - c) = (if true then 1 else -1) ∧
          crossProduct2d u2 (q - c) = (if true then 1 else -1)) ∧
      (|crossProduct2d u1 u2| < epsilon → calculateCornerIntersection c u1 u2 1 true = none) := by
  have hx : (⟨1, 0⟩ : Vec2 ℚ).normSq = 1 := by norm_num [Vec2.normSq, Vec2.dot]
  have hy : (⟨0, 1⟩ : Vec2 ℚ).normSq = 1 := by norm_num [Vec2.normSq, Vec2.dot]
  exact ⟨hx, hy, cornerIntersection_on_offset_lines _ _ _ 1 true hx hy⟩

/-- Where the corner lies along the incoming direction: `(q - p1) · u1` is `t1`,
which for unit directions is `±r (u1 · u2 - 1) / (u1 × u2)`. -/
theorem cornerIntersection_along_first (c : Vec2 K) {u1 u2 : Vec2 K} (r : K) (isLeft : Bool)
    (hu1 : u1.normSq = 1) (hu2 : u2.normSq = 1) (hcross : epsilon ≤ |crossProduct2d u1 u2|) :
    ∃ q, calculateCornerIntersection c u1 u2 r isLeft = some q ∧
      (q - calculatePerpendicularOffset c u1 r isLeft).dot u1 =
        (if isLeft then r else -r) * (u1.dot u2 - 1) / crossProduct2d u1 u2 := by
  have hdot : u1.dot u1 = 1 := hu1
  refine ⟨_, calculateCornerIntersection_of_not_lt (not_lt.mpr hcross), ?_⟩
  rw [Vec2.add_sub_cancel_left', Vec2.smul_dot, hdot, mul_one,
    crossProduct2d_sub_perpendicularOffsets, hu2]

/-- `is_inside_corner`'s sign convention (negative cross inside under G41,
positive under G42) marks the corners where the offset path diverges: for unit,
non-parallel directions and a positive radius it returns `true` exactly when the
corner lies ahead of the first offset endpoint, never level with it. -/
theorem isInsideCorner_reports_divergence (c u1 u2 : Vec2 K) (r : K) (isLeft : Bool)
    (hu1 : u1.normSq = 1) (hu2 : u2.normSq = 1) (hcross : epsilon ≤ |crossProduct2d u1 u2|)
    (hr : 0 < r) :
    ∃ q, calculateCornerIntersection c u1 u2 r isLeft = some q ∧
      (q - calculatePerpendicularOffset c u1 r isLeft).dot u1 ≠ 0 ∧
      (isInsideCorner u1 u2 isLeft = true ↔
        0 < (q - calculatePerpendicularOffset c u1 r isLeft).dot u1) := by
  have hd := crossProduct2d_ne_zero_of_le hcross
  have hdot := dot_lt_one_of_crossProduct2d_ne_zero hu1 hu2 hd
  obtain ⟨q, hq, halong⟩ := cornerIntersection_along_first c r isLeft hu1 hu2 hcross
  refine ⟨q, hq, ?_⟩
  rw [halong]
  cases isLeft with
  | true =>
    have ha : r * (u1.dot u2 - 1) < 0 := mul_neg_of_pos_of_neg hr (sub_neg.mpr hdot)
    refine ⟨div_ne_zero ha.ne hd, ?_⟩
    simp only [isInsideCorner, if_true, decide_eq_true_eq]
    rw [← neg_div_neg_eq, div_pos_iff_of_pos_left (neg_pos.mpr ha), neg_pos]
  | false =>
    have ha : 0 < -r * (u1.dot u2 - 1) :=
      mul_pos_of_neg_of_neg (neg_neg_of_pos hr) (sub_neg.mpr hdot)
    refine ⟨div_ne_zero ha.ne' hd, ?_⟩
    simp only [isInsideCorner, Bool.false_eq_true, if_false, decide_eq_true_eq]
    rw [div_pos_iff_of_pos_left ha]

/-- A left turn under G41: the offset path converges at the corner `(-1, 1)`,
one unit behind `p1 = (0, 1)`, and `is_inside_corner` returns `false`. -/
theorem isInsideCorner_reports_divergence_leftTurn :
    let c : Vec2 ℚ := ⟨0, 0⟩
    let u1 : Vec2 ℚ := ⟨1, 0⟩
    let u2 : Vec2 ℚ := ⟨0, 1⟩
    u1.normSq = 1 ∧ u2.normSq = 1 ∧ epsilon ≤ |crossProduct2d u1 u2| ∧ (0 : ℚ) < 1 ∧
      ∃ q, calculateCornerIntersection c u1 u2 1 true = some q ∧
        (q - calculatePerpendicularOffset c u1 1 true).dot u1 ≠ 0 ∧
        (isInsideCorner u1 u2 true = true ↔
          0 < (q - calculatePerpendicularOffset c u1 1 true).dot u1) := by
  have hx : (⟨1, 0⟩ : Vec2 ℚ).normSq = 1 := by norm_num [Vec2.normSq, Vec2.dot]
  have hy : (⟨0, 1⟩ : Vec2 ℚ).normSq = 1 := by norm_num [Vec2.normSq, Vec2.dot]
  have hcross : epsilon ≤ |crossProduct2d (⟨1, 0⟩ : Vec2 ℚ) ⟨0, 1⟩| := by
    norm_num [crossProduct2d, epsilon]
  exact ⟨hx, hy, hcross, one_pos,
    isInsideCorner_reports_divergence _ _ _ 1 true hx hy hcross one_pos⟩

/-- Where the offset path converges, `is_inside_corner` does not report an
inside corner: the G41 left turn above meets `(-1, 1)`, behind `p1 = (0, 1)`. -/
theorem isInsideCorner_misses_converging_leftTurn :
    ¬ (isInsideCorner (⟨1, 0⟩ : Vec2 ℚ) ⟨0, 1⟩ true = true ↔
      ∃ q, calculateCornerIntersection (⟨0, 0⟩ : Vec2 ℚ) ⟨1, 0⟩ ⟨0, 1⟩ 1 true = some q ∧
        (q - calculatePerpendicularOffset (⟨0, 0⟩ : Vec2 ℚ) ⟨1, 0⟩ 1 true).dot ⟨1, 0⟩ < 0) := by
  norm_num [isInsideCorner, crossProduct2d, calculateCornerIntersection,
    calculatePerpendicularOffset, offsetNormal, epsilon, Vec2.dot]

end CutterCompensation
