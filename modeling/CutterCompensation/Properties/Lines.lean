import CutterCompensation.Engine.Extraction

/-!
# Straight moves at a corner

`apply_compensation` resolves the oldest line with the direction `dir1`, built
as `endpoint - prev` with `prev = uncompensated_position - endpoint`.  So `dir1`
is `2 * endpoint - uncompensated_position`: a point, not a difference of points,
and one that depends on the command buffered last.  The runs below are the
smallest that show what follows: the corner is not the intersection of the two
offset lines, the result depends on how many commands were buffered when it was
extracted, and it changes when the whole program is translated.  Under G40 a
kept radius still offsets them.

Each run is evaluated in two stages: the state the buffering calls leave, as a
`TailCorner`, then `TailCorner.getCompensatedGcode_fst` on that state.
-/

namespace CutterCompensation

namespace CompensationPreprocessor

section TailCorner

variable {K : Type} [LinearOrderedField K] [Sqrtf K]

/-- The state of the corner runs: at least three commands wait, the tail is the
line `gcode` to `e`, a line to `e'` follows it, and the command buffered last
ends at `u`. -/
@[mk_iff]
structure TailCorner (s : CompensationPreprocessor K) (gcode : Gcode K) (e e' u : Vec3 K) :
    Prop where
  count : 3 ≤ s.bufferCount
  next_ne_head : bufferNextIndex s.bufferTail ≠ s.bufferHead
  tail : (s.buffer s.bufferTail).gcode = some gcode ∧ (s.buffer s.bufferTail).isMove = true ∧
    (s.buffer s.bufferTail).hasIjk = false
  endpoint : (s.buffer s.bufferTail).endpoint = e
  next : (s.buffer (bufferNextIndex s.bufferTail)).isMove = true ∧
    (s.buffer (bufferNextIndex s.bufferTail)).hasIjk = false
  next_endpoint : (s.buffer (bufferNextIndex s.bufferTail)).endpoint = e'
  last : s.uncompensatedPosition = u

/-- The command extracted from a `TailCorner` state. -/
theorem TailCorner.getCompensatedGcode_fst {s : CompensationPreprocessor K} {gcode : Gcode K}
    {e e' u : Vec3 K} (h : TailCorner s gcode e e' u) :
    s.getCompensatedGcode.1 =
      let isLeft := s.compensationType == .left
      let dir1 := normalize2 ⟨e.x - (u.x - e.x), e.y - (u.y - e.y)⟩
      let c := (calculateCornerIntersection e.xy dir1 (normalize2 ⟨e'.x - e.x, e'.y - e.y⟩)
          s.compensationRadius isLeft).getD
        (calculatePerpendicularOffset e.xy dir1 s.compensationRadius isLeft)
      some ⟨commandText gcode ⟨c.x, c.y, e.z⟩ (s.buffer s.bufferTail).ijk false false,
        gcode.stream⟩ := by
  have := h.count
  rw [getCompensatedGcode_fst_of_corner (.inl h.count) (by omega) h.next_ne_head h.tail h.next]
  simp only [rebuild, h.tail.2.2, h.endpoint, h.next_endpoint, h.last]

end TailCorner

/-- `G1 X x Y y`: a straight move with no other word. -/
def feedMove (x y : ℚ) : Gcode ℚ := ⟨true, 1, false, 0, [('X', x), ('Y', y)], 0⟩

/-- The calls of the corner runs: G41 with radius 1, then moves to `(2,0)`,
`(2,1)`, `(4,1)` from the origin. -/
def leftCornerCalls : List (Op ℚ) :=
  [.setCompensation .left 1, .bufferGcode (feedMove 2 0), .bufferGcode (feedMove 2 1),
    .bufferGcode (feedMove 4 1)]

/-- After `leftCornerCalls` the line to `(2,0)` waits at the tail, the line to
`(2,1)` follows it, and the last buffered endpoint is `(4,1)`. -/
theorem leftCorner_state (garbage : Fin bufferSize → BufferedGcode ℚ) (flushing : Bool) :
    let r := (new garbage flushing).run leftCornerCalls
    Reply.emittedCommands r.1 = [] ∧ TailCorner r.2 (feedMove 2 0) ⟨2, 0, 0⟩ ⟨2, 1, 0⟩ ⟨4, 1, 0⟩ ∧
      r.2.compensationType = .left ∧ r.2.compensationRadius = 1 := by
  simp [tailCorner_iff, leftCornerCalls, run, step, new, bufferGcode, bufferHasSpace,
    cloneAndExtract, feedMove, Gcode.isMotion, Gcode.isArc, Gcode.valueOr, Gcode.hasLetter,
    Gcode.getValue, bufferNextIndex, Function.update_apply, bufferSize, Reply.emittedCommands]

/-- The first command of the corner runs: `(2,0)` is resolved with
`dir1 = normalize(0,-1)`, which is parallel to the outgoing `(0,1)`, so the
perpendicular offset of `(2,0)` along `dir1` comes out. -/
theorem leftCorner_first (garbage : Fin bufferSize → BufferedGcode ℚ) (flushing : Bool) :
    ((new garbage flushing).run leftCornerCalls).2.getCompensatedGcode.1 =
      some ⟨[.motionCode 1, .axes ⟨3, 0, 0⟩], 0⟩ := by
  obtain ⟨-, hcorner, hty, hr⟩ := leftCorner_state garbage flushing
  rw [hcorner.getCompensatedGcode_fst, hty, hr]
  norm_num [normalize2, calculateCornerIntersection, epsilon, commandText, feedMove,
    Gcode.hasLetter, Vec3.xy]
  decide

/-- The corner of a G41 path `(0,0) → (2,0) → (2,1)` with radius 1 is `(1,1)`,
one unit left of both segments.  The engine emits `G1 X3 Y0 Z0`, on the first
segment's own line. -/
theorem straightCorner_misplaced (garbage : Fin bufferSize → BufferedGcode ℚ) (flushing : Bool) :
    Reply.emittedCommands
        ((new garbage flushing).run (leftCornerCalls ++ [.getCompensatedGcode])).1 =
      [⟨[.motionCode 1, .axes ⟨3, 0, 0⟩], 0⟩] := by
  rw [emittedCommands_run_get, (leftCorner_state garbage flushing).1,
    leftCorner_first garbage flushing]
  rfl

/-- `leftCornerCalls` and then a fourth move to `(4,-1)`: the last buffered
endpoint is now `(4,-1)`. -/
theorem leftCornerFour_state (garbage : Fin bufferSize → BufferedGcode ℚ) (flushing : Bool) :
    let r := (new garbage flushing).run (leftCornerCalls ++ [.bufferGcode (feedMove 4 (-1))])
    Reply.emittedCommands r.1 = [] ∧ TailCorner r.2 (feedMove 2 0) ⟨2, 0, 0⟩ ⟨2, 1, 0⟩ ⟨4, -1, 0⟩ ∧
      r.2.compensationType = .left ∧ r.2.compensationRadius = 1 := by
  simp [tailCorner_iff, leftCornerCalls, run, step, new, bufferGcode, bufferHasSpace,
    cloneAndExtract, feedMove, Gcode.isMotion, Gcode.isArc, Gcode.valueOr, Gcode.hasLetter,
    Gcode.getValue, bufferNextIndex, Function.update_apply, bufferSize, Reply.emittedCommands]

/-- The same stream and the same G41 call under two schedules: extracting as
soon as three moves wait gives `X3 Y0` for the first move, buffering the fourth
move `(4,-1)` first gives `X1 Y0`. -/
theorem firstCorner_depends_on_schedule (garbage : Fin bufferSize → BufferedGcode ℚ)
    (flushing : Bool) :
    Reply.emittedCommands ((new garbage flushing).run (leftCornerCalls ++
        [.getCompensatedGcode, .bufferGcode (feedMove 4 (-1))])).1 =
      [⟨[.motionCode 1, .axes ⟨3, 0, 0⟩], 0⟩] ∧
    Reply.emittedCommands ((new garbage flushing).run (leftCornerCalls ++
        [.bufferGcode (feedMove 4 (-1)), .getCompensatedGcode])).1 =
      [⟨[.motionCode 1, .axes ⟨1, 0, 0⟩], 0⟩] := by
  constructor
  · rw [show leftCornerCalls ++ [.getCompensatedGcode, .bufferGcode (feedMove 4 (-1))] =
        (leftCornerCalls ++ [.getCompensatedGcode]) ++ [.bufferGcode (feedMove 4 (-1))] from rfl,
      run_append, Reply.emittedCommands_append, emittedCommands_run_get,
      (leftCorner_state garbage flushing).1, leftCorner_first garbage flushing]
    rfl
  · obtain ⟨hs, hcorner, hty, hr⟩ := leftCornerFour_state garbage flushing
    rw [show leftCornerCalls ++ [.bufferGcode (feedMove 4 (-1)), .getCompensatedGcode] =
        (leftCornerCalls ++ [.bufferGcode (feedMove 4 (-1))]) ++ [.getCompensatedGcode] from rfl,
      emittedCommands_run_get, hs, hcorner.getCompensatedGcode_fst, hty, hr]
    norm_num [normalize2, calculateCornerIntersection, epsilon, commandText, feedMove,
      Gcode.hasLetter, Vec3.xy]
    decide

/-- The corner run moved by `(0,2)`: initial position `(0,2,0)` and moves to
`(2,2)`, `(2,3)`, `(4,3)`. -/
theorem shiftedCorner_state (garbage : Fin bufferSize → BufferedGcode ℚ) (flushing : Bool) :
    let r := (new garbage flushing).run [.setInitialPosition ⟨0, 2, 0⟩,
      .setCompensation .left 1, .bufferGcode (feedMove 2 2), .bufferGcode (feedMove 2 3),
      .bufferGcode (feedMove 4 3)]
    Reply.emittedCommands r.1 = [] ∧ TailCorner r.2 (feedMove 2 2) ⟨2, 2, 0⟩ ⟨2, 3, 0⟩ ⟨4, 3, 0⟩ ∧
      r.2.compensationType = .left ∧ r.2.compensationRadius = 1 := by
  simp [tailCorner_iff, run, step, new, setInitialPosition, bufferGcode, bufferHasSpace,
    cloneAndExtract, feedMove, Gcode.isMotion, Gcode.isArc, Gcode.valueOr, Gcode.hasLetter,
    Gcode.getValue, bufferNextIndex, Function.update_apply, bufferSize, Reply.emittedCommands]

/-- The corner run from `(0,0,0)` and its translate by `(0,2)`.  The first
corner comes out at `(3,0)` and at `(1,2)`, not at the translate `(3,2)`. -/
theorem firstCorner_not_translation_invariant (garbage : Fin bufferSize → BufferedGcode ℚ)
    (flushing : Bool) :
    Reply.emittedCommands ((new garbage flushing).run (.setInitialPosition ⟨0, 0, 0⟩ ::
        (leftCornerCalls ++ [.getCompensatedGcode]))).1 =
      [⟨[.motionCode 1, .axes ⟨3, 0, 0⟩], 0⟩] ∧
    Reply.emittedCommands ((new garbage flushing).run [.setInitialPosition ⟨0, 2, 0⟩,
        .setCompensation .left 1, .bufferGcode (feedMove 2 2), .bufferGcode (feedMove 2 3),
        .bufferGcode (feedMove 4 3), .getCompensatedGcode]).1 =
      [⟨[.motionCode 1, .axes ⟨1, 2, 0⟩], 0⟩] := by
  constructor
  · have hinit : (new garbage flushing).run (.setInitialPosition ⟨0, 0, 0⟩ ::
          (leftCornerCalls ++ [.getCompensatedGcode])) =
        (.done :: ((new garbage flushing).run (leftCornerCalls ++ [.getCompensatedGcode])).1, _) :=
      rfl
    rw [hinit, Reply.emittedCommands_done, emittedCommands_run_get,
      (leftCorner_state garbage flushing).1, leftCorner_first garbage flushing]
    rfl
  · obtain ⟨hs, hcorner, hty, hr⟩ := shiftedCorner_state garbage flushing
    rw [show [Op.setInitialPosition ⟨0, 2, 0⟩, .setCompensation .left 1,
        .bufferGcode (feedMove 2 2), .bufferGcode (feedMove 2 3), .bufferGcode (feedMove 4 3),
        .getCompensatedGcode] = [Op.setInitialPosition ⟨0, 2, 0⟩, .setCompensation .left 1,
        .bufferGcode (feedMove 2 2), .bufferGcode (feedMove 2 3), .bufferGcode (feedMove 4 3)] ++
        [.getCompensatedGcode] from rfl,
      emittedCommands_run_get, hs, hcorner.getCompensatedGcode_fst, hty, hr]
    norm_num [normalize2, calculateCornerIntersection, epsilon, commandText, feedMove,
      Gcode.hasLetter, Vec3.xy]
    decide

/-! ## Under G40

`set_compensation(NONE, r)` keeps `r`, and neither `get_compensated_gcode` nor
`apply_compensation` looks at the mode once three commands are buffered:
`is_left = (compensation_type == LEFT)` is `false` under G40, so the tail is
resolved as under G42 with the kept radius. -/

/-- G40 with radius 1, then the corner lines of `leftCornerCalls`. -/
def offCornerCalls : List (Op ℚ) :=
  [.setCompensation .none 1, .bufferGcode (feedMove 2 0), .bufferGcode (feedMove 2 1),
    .bufferGcode (feedMove 4 1)]

theorem offCorner_state (garbage : Fin bufferSize → BufferedGcode ℚ) (flushing : Bool) :
    let r := (new garbage flushing).run offCornerCalls
    Reply.emittedCommands r.1 = [] ∧ TailCorner r.2 (feedMove 2 0) ⟨2, 0, 0⟩ ⟨2, 1, 0⟩ ⟨4, 1, 0⟩ ∧
      r.2.compensationType = .none ∧ r.2.compensationRadius = 1 := by
  simp [tailCorner_iff, offCornerCalls, run, step, new, clear, flush, bufferGcode, bufferHasSpace,
    cloneAndExtract, feedMove, Gcode.isMotion, Gcode.isArc, Gcode.valueOr, Gcode.hasLetter,
    Gcode.getValue, bufferNextIndex, Function.update_apply, bufferSize, Reply.emittedCommands]

/-- Under G40 the line to `(2,0)` is resolved to the right of `dir1 =
normalize(0,-1)`. -/
theorem offCorner_first (garbage : Fin bufferSize → BufferedGcode ℚ) (flushing : Bool) :
    ((new garbage flushing).run offCornerCalls).2.getCompensatedGcode.1 =
      some ⟨[.motionCode 1, .axes ⟨1, 0, 0⟩], 0⟩ := by
  obtain ⟨-, hcorner, hty, hr⟩ := offCorner_state garbage flushing
  have hside : (CompensationType.none == .left) = false := rfl
  rw [hcorner.getCompensatedGcode_fst, hty, hside, hr]
  norm_num [normalize2, calculateCornerIntersection, epsilon, commandText, feedMove,
    Gcode.hasLetter, Vec3.xy]
  decide

/-- Under G40 with radius 1, `G1 X2 Y0` leaves as `G1 X1 Y0 Z0`. -/
theorem offMode_displaces_move (garbage : Fin bufferSize → BufferedGcode ℚ) (flushing : Bool) :
    Reply.emittedCommands
        ((new garbage flushing).run (offCornerCalls ++ [.getCompensatedGcode])).1 =
      [⟨[.motionCode 1, .axes ⟨1, 0, 0⟩], 0⟩] := by
  rw [emittedCommands_run_get, (offCorner_state garbage flushing).1,
    offCorner_first garbage flushing]
  rfl

end CompensationPreprocessor

end CutterCompensation
