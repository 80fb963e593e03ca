import CutterCompensation.Buffer.Queue

/-!
# Arcs

`compensate_arc_endpoint` keeps the programmed centre and re-bases I/J on the
compensated start, but it moves the endpoint along the tangent at the endpoint,
not along the radius: the displacement is perpendicular to `e - c`.  So the
emitted endpoint is not on the circle of radius `R ± r` about the centre.  The
first theorem says what the engine does with every arc it resolves, in every
reachable state; the run after it is the smallest arc that shows the tangent.
-/

namespace CutterCompensation

variable {K : Type} [LinearOrderedField K]

/-- The centre an arc slot was programmed with: `uncomp_start + (I, J)`. -/
def BufferedGcode.programmedCentre (slot : BufferedGcode K) : Vec2 K :=
  slot.uncompStart.xy + slot.ijk.xy

/-- `|e - c|` of an arc slot, as `compensate_arc_endpoint` computes it. -/
def BufferedGcode.programmedRadius [Sqrtf K] (slot : BufferedGcode K) : K :=
  sqrtf (slot.endpoint.xy - slot.programmedCentre).normSq

theorem travelTangent_dot_self (isCw : Bool) (u : Vec2 K) : (travelTangent isCw u).dot u = 0 := by
  cases isCw <;> simp [travelTangent, Vec2.dot] <;> ring

/-- A displacement along the tangent at `u` is perpendicular to `u`. -/
theorem dot_eq_zero_of_tangent {d u : Vec2 K} {a : K} {isCw : Bool}
    (hd : d = a • travelTangent isCw u) : d = a • travelTangent isCw u ∧ d.dot u = 0 :=
  ⟨hd, by rw [hd, Vec2.smul_dot, travelTangent_dot_self, mul_zero]⟩

namespace CompensationPreprocessor

variable [Sqrtf K]

/-- `G2 X2 Y0 I1 J0`: the clockwise half circle of radius 1 about `(1,0)`. -/
def cwHalfCircle : Gcode ℚ := ⟨true, 2, false, 0, [('X', 2), ('Y', 0), ('I', 1), ('J', 0)], 0⟩

/-- G41 with radius `1/2`, the half circle from the origin, and `flush()`. -/
def arcCalls : List (Op ℚ) := [.setCompensation .left (1 / 2), .bufferGcode cwHalfCircle, .flush]

theorem arc_state (garbage : Fin bufferSize → BufferedGcode ℚ) (flushing : Bool) :
    let r := (new garbage flushing).run arcCalls
    Reply.emittedCommands r.1 = [] ∧ r.2.bufferCount = 1 ∧ r.2.bufferTail = 0 ∧
      r.2.isFlushing = true ∧ r.2.compensationType = .left ∧ r.2.compensationRadius = 1 / 2 ∧
      r.2.compensatedPosition = ⟨0, 0, 0⟩ ∧
      (r.2.buffer 0).gcode = some cwHalfCircle ∧ (r.2.buffer 0).isMove = true ∧
      (r.2.buffer 0).hasIjk = true ∧ (r.2.buffer 0).isCw = true ∧
      (r.2.buffer 0).endpoint = ⟨2, 0, 0⟩ ∧ (r.2.buffer 0).ijk = ⟨1, 0, 0⟩ ∧
      (r.2.buffer 0).uncompStart = ⟨0, 0, 0⟩ := by
  simp [arcCalls, run, step, new, flush, bufferGcode, bufferHasSpace, cloneAndExtract,
    cwHalfCircle, Gcode.isMotion, Gcode.isArc, Gcode.valueOr, Gcode.hasLetter, Gcode.getValue,
    bufferNextIndex, Function.update_apply, bufferSize, Reply.emittedCommands]

/-- Under G41 with radius `1/2` the half circle `G2 X2 Y0 I1 J0` leaves as
`G2 X2 Y-0.5 Z0 I1 J0 K0`.  G41 with G2 keeps the tool outside the arc, so the
concentric endpoint is `(2.5, 0)`; `(2, -0.5)` is at distance `√5 / 2` from the
centre. -/
theorem arc_endpoint_moved_along_tangent (garbage : Fin bufferSize → BufferedGcode ℚ)
    (flushing : Bool) :
    Reply.emittedCommands ((new garbage flushing).run (arcCalls ++ [.getCompensatedGcode])).1 =
      [⟨[.motionCode 2, .axes ⟨2, -1 / 2, 0⟩, .arcOffsets ⟨1, 0, 0⟩], 0⟩] := by
  obtain ⟨hs, hc, ht, hf, hty, hr, hp, hg, hm, hi, hcw, he, hij, hu⟩ := arc_state garbage flushing
  have hside : (CompensationType.left == .left) = true := rfl
  rw [emittedCommands_run_get, hs,
    getCompensatedGcode_fst_of_arc (by omega) (.inr hf) (by rw [ht]; exact ⟨hg, hm, hi⟩)]
  simp only [arcEndpoint, ht, he, hij, hu, hp, hty, hside, hr, hi, hcw]
  norm_num [compensateArcEndpoint, epsilon, rebuild, commandText, cwHalfCircle,
    Gcode.hasLetter, Vec3.xy]
  decide

/-- A degenerate arc resolves to itself: `compensate_arc_endpoint` returns
`false` and `apply_compensation` writes the programmed values back. -/
theorem resolvedSlot_of_degenerate {s : CompensationPreprocessor K} {index : Fin bufferSize}
    (harc : (s.buffer index).hasIjk = true)
    (hR : (s.buffer index).programmedRadius < epsilon) :
    s.resolvedSlot index = s.buffer index := by
  simp only [BufferedGcode.programmedRadius, BufferedGcode.programmedCentre] at hR
  simp only [resolvedSlot, if_pos harc, arcEndpoint, compensateArcEndpoint_of_lt hR,
    Option.getD_none, Vec3.xy_x, Vec3.xy_y]

/-- Degenerate arcs are emitted as programmed.  In every reachable state with
the gate open, an arc at the tail with programmed radius below `0.00001` comes
out rebuilt from its own slot, at its programmed endpoint and I/J, and nothing
tells the caller `compensate_arc_endpoint` failed. -/
theorem degenerateArc_emitted_unchanged {s : CompensationPreprocessor K} (hs : s.Reachable)
    {gcode : Gcode K} (hcount : s.bufferCount ≠ 0)
    (hready : ¬ (s.bufferCount < 3 ∧ s.compensationType ≠ .none ∧ s.isFlushing = false))
    (hg : (s.buffer s.bufferTail).gcode = some gcode)
    (harc : gcode.isMotion = true ∧ gcode.isArc = true)
    (hR : (s.buffer s.bufferTail).programmedRadius < epsilon) :
    s.getCompensatedGcode.1 = some (rebuild gcode (s.buffer s.bufferTail)) := by
  obtain ⟨c, hc, -, hijk, -⟩ := hs.wellFormed.extracted_tail hcount
  rw [hg, Option.some.injEq] at hc
  subst hc
  have hijk' : (s.buffer s.bufferTail).hasIjk = true := by rw [hijk, harc.1, harc.2]; rfl
  have hslot : s.resolveTail.buffer s.bufferTail = s.buffer s.bufferTail := by
    rw [resolveTail_buffer_tail, resolvedSlot_of_degenerate hijk' hR, ite_self]
  have hgate : ¬(s.bufferCount = 0 ∨
      (s.bufferCount < 3 ∧ s.compensationType ≠ .none ∧ s.isFlushing = false)) := by
    tauto
  rw [getCompensatedGcode_fst, if_neg hgate, hslot, hg]
  rfl

/-- `G2 X0 Y0 I0 J0` from the origin: an arc of radius 0. -/
def pointArc : Gcode ℚ := ⟨true, 2, false, 0, [('X', 0), ('Y', 0), ('I', 0), ('J', 0)], 0⟩

/-- G41 with radius 1, the arc of radius 0, and `flush()`. -/
def pointArcCalls : List (Op ℚ) := [.setCompensation .left 1, .bufferGcode pointArc, .flush]

theorem pointArc_state (garbage : Fin bufferSize → BufferedGcode ℚ) (flushing : Bool) :
    let s := ((new garbage flushing).run pointArcCalls).2
    s.bufferCount = 1 ∧ s.isFlushing = true ∧ (s.buffer s.bufferTail).gcode = some pointArc ∧
      (s.buffer s.bufferTail).programmedRadius = 0 := by
  simp [pointArcCalls, run, step, new, flush, bufferGcode, bufferHasSpace, cloneAndExtract,
    pointArc, Gcode.isMotion, Gcode.isArc, Gcode.valueOr, Gcode.hasLetter, Gcode.getValue,
    bufferNextIndex, Function.update_apply, bufferSize, BufferedGcode.programmedRadius,
    BufferedGcode.programmedCentre, Vec3.xy, Vec2.normSq, Vec2.dot]

/-- The arc of radius 0 is extracted during the flush, as it was programmed. -/
theorem degenerateArc_emitted_unchanged_point :
    let s := ((new (fun _ => default) false : CompensationPreprocessor ℚ).run pointArcCalls).2
    s.Reachable ∧ s.bufferCount ≠ 0 ∧
      ¬ (s.bufferCount < 3 ∧ s.compensationType ≠ .none ∧ s.isFlushing = false) ∧
      (s.buffer s.bufferTail).gcode = some pointArc ∧
      (pointArc.isMotion = true ∧ pointArc.isArc = true) ∧
      (s.buffer s.bufferTail).programmedRadius < epsilon ∧
      s.getCompensatedGcode.1 = some (rebuild pointArc (s.buffer s.bufferTail)) := by
  intro s
  have hs : s.Reachable := Reachable.run (.new _ _) pointArcCalls
  have hstate : s.bufferCount = 1 ∧ s.isFlushing = true ∧
      (s.buffer s.bufferTail).gcode = some pointArc ∧
      (s.buffer s.bufferTail).programmedRadius = 0 := pointArc_state _ _
  obtain ⟨hc, hf, hg, hR0⟩ := hstate
  have hcount : s.bufferCount ≠ 0 := by rw [hc]; decide
  have hready : ¬ (s.bufferCount < 3 ∧ s.compensationType ≠ .none ∧ s.isFlushing = false) := by
    simp [hf]
  have harc : pointArc.isMotion = true ∧ pointArc.isArc = true := by decide
  have hR : (s.buffer s.bufferTail).programmedRadius < epsilon := by rw [hR0]; exact epsilon_pos
  exact ⟨hs, hcount, hready, hg, harc, hR,
    degenerateArc_emitted_unchanged hs hcount hready hg harc hR⟩

end CompensationPreprocessor

end CutterCompensation
