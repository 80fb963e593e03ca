import CutterCompensation.Buffer.Drain

/-!
# Radius 0

With radius 0 every offset the kernel computes is the point it starts from: the
perpendicular offset, the corner of two offset lines, and the tangent move of an
arc endpoint.  So in every mode and in every branch of `apply_compensation` no
endpoint moves, and a line leaves exactly as it was buffered.  The one change
left is an arc's I/J, which `compensate_arc_endpoint` re-bases on
`compensated_position`.
-/

namespace CutterCompensation

variable {K : Type} [LinearOrderedField K]

theorem calculatePerpendicularOffset_zero (e u : Vec2 K) (isLeft : Bool) :
    calculatePerpendicularOffset e u 0 isLeft = e := by
  simp [Vec2.ext_iff']

theorem calculateCornerIntersection_zero (c u1 u2 : Vec2 K) (isLeft : Bool) :
    (calculateCornerIntersection c u1 u2 0 isLeft).getD c = c := by
  by_cases h : |crossProduct2d u1 u2| < epsilon
  · rw [(calculateCornerIntersection_eq_none_iff _ _ _ _ _).mpr h, Option.getD_none]
  · rw [calculateCornerIntersection_of_not_lt h]
    simp [calculatePerpendicularOffset_zero, Vec2.ext_iff', crossProduct2d]

variable [Sqrtf K]

/-- With radius 0 the side does not matter to `compensate_arc_endpoint`. -/
theorem compensateArcEndpoint_zero (s0 c0 e ij : Vec2 K) (isLeft isLeft' isCw : Bool) :
    compensateArcEndpoint s0 c0 e ij 0 isLeft isCw =
      compensateArcEndpoint s0 c0 e ij 0 isLeft' isCw := by
  by_cases h : sqrtf ((e - (s0 + ij)).normSq) < epsilon
  · rw [compensateArcEndpoint_of_lt h, compensateArcEndpoint_of_lt h]
  · rw [compensateArcEndpoint_eq_some (not_lt.mp h), compensateArcEndpoint_eq_some (not_lt.mp h)]
    simp

namespace CompensationPreprocessor

variable {s : CompensationPreprocessor K}

/-- With radius 0 every line keeps its endpoint, whichever the side. -/
theorem lineEndpoint_of_radius_zero (hr : s.compensationRadius = 0) (index : Fin bufferSize)
    (isLeft : Bool) : s.lineEndpoint index isLeft = (s.buffer index).endpoint.xy := by
  simp only [lineEndpoint, fallbackOffset, hr, calculatePerpendicularOffset_zero]
  split_ifs <;> simp only [calculateCornerIntersection_zero]

/-- With radius 0 every arc keeps its endpoint, degenerate or not. -/
theorem arcEndpoint_fst_of_radius_zero (hr : s.compensationRadius = 0) (current : BufferedGcode K)
    (isLeft : Bool) : (s.arcEndpoint current isLeft).1 = current.endpoint.xy := by
  simp only [arcEndpoint, hr]
  by_cases hR : sqrtf ((current.endpoint.xy -
      (current.uncompStart.xy + current.ijk.xy)).normSq) < epsilon
  · rw [compensateArcEndpoint_of_lt hR]
    rfl
  · rw [compensateArcEndpoint_eq_some (not_lt.mp hR)]
    simp [Vec2.ext_iff']

/-- With radius 0 `apply_compensation` rewrites at most an arc's I/J. -/
theorem resolvedSlot_of_radius_zero (hr : s.compensationRadius = 0) (index : Fin bufferSize) :
    ∃ ijk, s.resolvedSlot index = { s.buffer index with ijk := ijk } ∧
      ((s.buffer index).hasIjk = false → ijk = (s.buffer index).ijk) := by
  simp only [resolvedSlot]
  split
  · rename_i harc
    exact ⟨_, by rw [arcEndpoint_fst_of_radius_zero hr]; rfl, fun h => by simp [h] at harc⟩
  · exact ⟨_, by simp [lineEndpoint_of_radius_zero hr], fun _ => rfl⟩

theorem resolveTail_of_radius_zero (hr : s.compensationRadius = 0) :
    ∃ ijk, s.resolveTail.buffer s.bufferTail = { s.buffer s.bufferTail with ijk := ijk } ∧
      ((s.buffer s.bufferTail).hasIjk = false → ijk = (s.buffer s.bufferTail).ijk) := by
  rw [resolveTail_buffer_tail]
  split_ifs
  · exact resolvedSlot_of_radius_zero hr s.bufferTail
  · exact ⟨_, rfl, fun _ => rfl⟩

end CompensationPreprocessor

end CutterCompensation
