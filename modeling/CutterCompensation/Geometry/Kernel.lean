import CutterCompensation.Core.Types
import Mathlib.Algebra.Order.Field.Basic
import Mathlib.Tactic.FieldSimp
import Mathlib.Tactic.Ring

/-!
# The geometry kernel

The pure helpers of `CompensationPreprocessor`: the perpendicular offset of a
line, the intersection of two offset lines at a corner, the corner
classification and the arc-endpoint recompensation.  All of them read and write
only the X and Y entries of their arrays; an output array that a helper does
not write keeps its contents, which the `Option` results make explicit.
-/

namespace CutterCompensation

variable {K : Type} [LinearOrderedField K]

/-- `cross_product_2d`. -/
def crossProduct2d (v1 v2 : Vec2 K) : K :=
  v1.x * v2.y - v1.y * v2.x

section Sqrtf

variable [Sqrtf K]

/-- The in-place normalisation `apply_compensation` performs on each direction:
divide by the length when it exceeds `0.00001f`, else keep the vector. -/
def normalize2 (v : Vec2 K) : Vec2 K :=
  let mag := sqrtf (v.x * v.x + v.y * v.y)
  if epsilon < mag then ⟨v.x / mag, v.y / mag⟩ else v

end Sqrtf

/-- The normal both offset helpers use: the direction rotated 90° counter-
clockwise for G41 and clockwise for G42. -/
def offsetNormal (isLeft : Bool) (u : Vec2 K) : Vec2 K :=
  if isLeft then ⟨-u.y, u.x⟩ else ⟨u.y, -u.x⟩

/-- `calculate_perpendicular_offset`. -/
def calculatePerpendicularOffset (endpoint direction : Vec2 K) (radius : K)
    (isLeft : Bool) : Vec2 K :=
  let n := offsetNormal isLeft direction
  ⟨endpoint.x + n.x * radius, endpoint.y + n.y * radius⟩

/-- `calculate_corner_intersection`: `none` is the `false` return, for which
the output array is not written.  Both offset lines start at the corner point
displaced along their own normals. -/
def calculateCornerIntersection (cornerPoint dir1 dir2 : Vec2 K) (radius : K)
    (isLeft : Bool) : Option (Vec2 K) :=
  let p1 := calculatePerpendicularOffset cornerPoint dir1 radius isLeft
  let p2 := calculatePerpendicularOffset cornerPoint dir2 radius isLeft
  let det := dir1.x * dir2.y - dir1.y * dir2.x
  if |det| < epsilon then none
  else
    let dx := p2.x - p1.x
    let dy := p2.y - p1.y
    let t1 := (dx * dir2.y - dy * dir2.x) / det
    some ⟨p1.x + t1 * dir1.x, p1.y + t1 * dir1.y⟩

/-- `is_inside_corner`. -/
def isInsideCorner (dir1 dir2 : Vec2 K) (isLeft : Bool) : Bool :=
  let cross := crossProduct2d dir1 dir2
  if isLeft then decide (cross < 0) else decide (0 < cross)

section Sqrtf

variable [Sqrtf K]

/-- `compensate_arc_endpoint`: `none` is the `false` return of a degenerate
arc, which leaves both arrays as they were; otherwise the endpoint moved along
the tangent at the endpoint, and I/J re-based from the centre, taken from the
uncompensated start, onto the compensated start. -/
def compensateArcEndpoint (uncompStart compStart arcEndpoint arcIj : Vec2 K)
    (compRadius : K) (isLeft isCw : Bool) : Option (Vec2 K × Vec2 K) :=
  let centerX := uncompStart.x + arcIj.x
  let centerY := uncompStart.y + arcIj.y
  let toEndX := arcEndpoint.x - centerX
  let toEndY := arcEndpoint.y - centerY
  let arcRadius := sqrtf (toEndX * toEndX + toEndY * toEndY)
  if arcRadius < epsilon then none
  else
    let ux := toEndX / arcRadius
    let uy := toEndY / arcRadius
    let tangent : Vec2 K := if isCw then ⟨-uy, ux⟩ else ⟨uy, -ux⟩
    let offsetSign : K := if (isLeft && !isCw) || (!isLeft && isCw) then 1 else -1
    some (⟨arcEndpoint.x + tangent.x * compRadius * offsetSign,
        arcEndpoint.y + tangent.y * compRadius * offsetSign⟩,
      ⟨centerX - compStart.x, centerY - compStart.y⟩)

end Sqrtf

/-- The direction of travel at the end of an arc whose radius vector there is
`u`: `u` turned clockwise for G2 and counter-clockwise for G3, as long as `u`. -/
def travelTangent (isCw : Bool) (u : Vec2 K) : Vec2 K :=
  if isCw then ⟨u.y, -u.x⟩ else ⟨-u.y, u.x⟩

/-! ## Spec lemmas -/

@[simp] theorem offsetNormal_true (u : Vec2 K) : offsetNormal true u = ⟨-u.y, u.x⟩ := rfl
@[simp] theorem offsetNormal_false (u : Vec2 K) : offsetNormal false u = ⟨u.y, -u.x⟩ := rfl

@[simp] theorem calculatePerpendicularOffset_x (e u : Vec2 K) (r : K) (b : Bool) :
    (calculatePerpendicularOffset e u r b).x = e.x + (offsetNormal b u).x * r := rfl

@[simp] theorem calculatePerpendicularOffset_y (e u : Vec2 K) (r : K) (b : Bool) :
    (calculatePerpendicularOffset e u r b).y = e.y + (offsetNormal b u).y * r := rfl

theorem calculateCornerIntersection_eq_none_iff (c u1 u2 : Vec2 K) (r : K) (b : Bool) :
    calculateCornerIntersection c u1 u2 r b = none ↔ |crossProduct2d u1 u2| < epsilon := by
  simp only [calculateCornerIntersection, crossProduct2d]
  split_ifs with h <;> simp [h]

/-- A corner with non-parallel directions: the first offset line, followed for
`t1 = (p2 - p1) × dir2 / dir1 × dir2`. -/
theorem calculateCornerIntersection_of_not_lt {c u1 u2 : Vec2 K} {r : K} {isLeft : Bool}
    (h : ¬|crossProduct2d u1 u2| < epsilon) :
    calculateCornerIntersection c u1 u2 r isLeft =
      some (calculatePerpendicularOffset c u1 r isLeft +
        (crossProduct2d (calculatePerpendicularOffset c u2 r isLeft -
            calculatePerpendicularOffset c u1 r isLeft) u2 / crossProduct2d u1 u2) • u1) := by
  simp only [calculateCornerIntersection, crossProduct2d] at h ⊢
  rw [if_neg h]
  rfl

section Sqrtf

variable [Sqrtf K]

theorem compensateArcEndpoint_of_lt {s0 c0 e ij : Vec2 K} {r : K} {isLeft isCw : Bool}
    (hR : sqrtf ((e - (s0 + ij)).normSq) < epsilon) :
    compensateArcEndpoint s0 c0 e ij r isLeft isCw = none := by
  simp only [compensateArcEndpoint]
  exact if_pos hR

theorem normalize2_of_lt {v : Vec2 K} (h : epsilon < sqrtf (v.x * v.x + v.y * v.y)) :
    normalize2 v = ⟨v.x / sqrtf (v.x * v.x + v.y * v.y), v.y / sqrtf (v.x * v.x + v.y * v.y)⟩ := by
  simp [normalize2, h]

theorem normalize2_of_le {v : Vec2 K} (h : sqrtf (v.x * v.x + v.y * v.y) ≤ epsilon) :
    normalize2 v = v := by
  simp [normalize2, not_lt.mpr h]

theorem compensateArcEndpoint_eq_some {s0 c0 e ij : Vec2 K} {r : K} {isLeft isCw : Bool}
    (hR : epsilon ≤ sqrtf ((e - (s0 + ij)).normSq)) :
    compensateArcEndpoint s0 c0 e ij r isLeft isCw =
      some (e + ((if isLeft = isCw then 1 else -1) * r / sqrtf ((e - (s0 + ij)).normSq)) •
          travelTangent isCw (e - (s0 + ij)),
        (s0 + ij) - c0) := by
  have hpos : 0 < sqrtf ((e - (s0 + ij)).normSq) := lt_of_lt_of_le epsilon_pos hR
  generalize hR0 : sqrtf ((e - (s0 + ij)).normSq) = R at hR hpos ⊢
  have hR1 : sqrtf ((e.x - (s0.x + ij.x)) * (e.x - (s0.x + ij.x)) +
      (e.y - (s0.y + ij.y)) * (e.y - (s0.y + ij.y))) = R := hR0
  simp only [compensateArcEndpoint, hR1, if_neg (not_lt.mpr hR)]
  cases isLeft <;> cases isCw <;>
    simp only [travelTangent, Vec2.ext_iff', Option.some.injEq, Prod.mk.injEq, Vec2.add_x,
      Vec2.add_y, Vec2.sub_x, Vec2.sub_y, Vec2.smul_x, Vec2.smul_y, Bool.false_eq_true,
      Bool.true_eq_false, if_true, if_false, Bool.and_false, Bool.and_true, Bool.not_false,
      Bool.not_true, Bool.or_false, Bool.false_or, Bool.true_or] <;>
    refine ⟨⟨?_, ?_⟩, trivial, trivial⟩ <;> ring

end Sqrtf

end CutterCompensation
