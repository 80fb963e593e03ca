import CutterCompensation.Properties.MirrorRuns

/-!
# The side is the sign of the radius

`apply_compensation` reads the mode only as `is_left = (compensation_type ==
LEFT)`.  Every helper it calls multiplies the offset normal by the radius, or,
for an arc, by the radius with a sign that `is_left` flips, so G41 with radius
`r` resolves every move exactly as G42 with radius `-r`.  The lookahead gate only
asks whether the mode is G40.  A program whose G41 and G42 are exchanged and
whose G41/G42 radii are negated therefore gets the same replies in every run.
G40 is kept as it is: it resolves as G42 with its own radius.
-/

namespace CutterCompensation

variable {K : Type} [LinearOrderedField K]

/-! ## The kernel sees the side as a sign -/

theorem calculatePerpendicularOffset_neg (e u : Vec2 K) (r : K) (isLeft : Bool) :
    calculatePerpendicularOffset e u (-r) (!isLeft) =
      calculatePerpendicularOffset e u r isLeft := by
  cases isLeft <;> simp [calculatePerpendicularOffset, offsetNormal]

theorem calculateCornerIntersection_neg (c u1 u2 : Vec2 K) (r : K) (isLeft : Bool) :
    calculateCornerIntersection c u1 u2 (-r) (!isLeft) =
      calculateCornerIntersection c u1 u2 r isLeft := by
  simp only [calculateCornerIntersection, calculatePerpendicularOffset_neg]

theorem compensateArcEndpoint_neg [Sqrtf K] (s0 c0 e ij : Vec2 K) (r : K) (isLeft isCw : Bool) :
    compensateArcEndpoint s0 c0 e ij (-r) (!isLeft) isCw =
      compensateArcEndpoint s0 c0 e ij r isLeft isCw := by
  cases isLeft <;> cases isCw <;> simp [compensateArcEndpoint]

/-- The call with G41 and G42 exchanged and the radius of G41 or G42 negated;
G40 and the other calls are kept. -/
def Op.swapSide : Op K → Op K
  | .setCompensation .none radius => .setCompensation .none radius
  | .setCompensation type radius => .setCompensation type.swap (-radius)
  | op => op

namespace CompensationPreprocessor

/-- The engine with G41 and G42 exchanged and, under either, the radius
negated; under G40 it is unchanged. -/
def swapSide (s : CompensationPreprocessor K) : CompensationPreprocessor K :=
  { s with
    compensationType := s.compensationType.swap
    compensationRadius :=
      if s.compensationType = .none then s.compensationRadius else -s.compensationRadius }

section SwapSide

variable (s : CompensationPreprocessor K)

@[simp] theorem swapSide_buffer : s.swapSide.buffer = s.buffer := rfl
@[simp] theorem swapSide_bufferHead : s.swapSide.bufferHead = s.bufferHead := rfl
@[simp] theorem swapSide_bufferTail : s.swapSide.bufferTail = s.bufferTail := rfl
@[simp] theorem swapSide_bufferCount : s.swapSide.bufferCount = s.bufferCount := rfl
@[simp] theorem swapSide_uncompensatedPosition :
    s.swapSide.uncompensatedPosition = s.uncompensatedPosition := rfl
@[simp] theorem swapSide_compensatedPosition :
    s.swapSide.compensatedPosition = s.compensatedPosition := rfl
@[simp] theorem swapSide_isFlushing : s.swapSide.isFlushing = s.isFlushing := rfl
@[simp] theorem swapSide_compensationType :
    s.swapSide.compensationType = s.compensationType.swap := rfl

end SwapSide

theorem swapSide_of_none {s : CompensationPreprocessor K} (h : s.compensationType = .none) :
    s.swapSide = s := by
  cases s
  subst h
  rfl

theorem swapSide_isLeft {s : CompensationPreprocessor K} (h : s.compensationType ≠ .none) :
    (s.swapSide.compensationType == .left) = !(s.compensationType == .left) := by
  cases hs : s.compensationType <;> simp_all [CompensationType.swap]

theorem swapSide_compensationRadius {s : CompensationPreprocessor K}
    (h : s.compensationType ≠ .none) : s.swapSide.compensationRadius = -s.compensationRadius :=
  if_neg h

theorem bufferGcode_swapSide (s : CompensationPreprocessor K) (gcode : Gcode K) :
    s.swapSide.bufferGcode gcode =
      ((s.bufferGcode gcode).1, (s.bufferGcode gcode).2.swapSide) := by
  unfold bufferGcode bufferHasSpace
  simp only [swapSide_bufferCount]
  split_ifs <;> rfl

variable [Sqrtf K]

/-- The swapped engine resolves every slot as the engine does. -/
theorem resolvedSlot_swapSide (s : CompensationPreprocessor K) (index : Fin bufferSize) :
    s.swapSide.resolvedSlot index = s.resolvedSlot index := by
  by_cases h : s.compensationType = .none
  · rw [swapSide_of_none h]
  · simp only [resolvedSlot, arcEndpoint, lineEndpoint, fallbackOffset, swapSide_isLeft h,
      swapSide_compensationRadius h, swapSide_buffer, swapSide_bufferCount, swapSide_bufferHead,
      swapSide_bufferTail, swapSide_uncompensatedPosition, swapSide_compensatedPosition,
      compensateArcEndpoint_neg, calculateCornerIntersection_neg,
      calculatePerpendicularOffset_neg]

theorem resolveTail_swapSide (s : CompensationPreprocessor K) :
    s.swapSide.resolveTail = s.resolveTail.swapSide := by
  unfold resolveTail applyCompensation
  simp only [swapSide_bufferCount, swapSide_isFlushing, swapSide_buffer, swapSide_bufferTail,
    resolvedSlot_swapSide]
  split_ifs <;> rfl

theorem getCompensatedGcode_swapSide (s : CompensationPreprocessor K) :
    s.swapSide.getCompensatedGcode =
      (s.getCompensatedGcode.1, s.getCompensatedGcode.2.swapSide) := by
  unfold getCompensatedGcode
  simp only [swapSide_bufferCount, swapSide_compensationType, swapSide_isFlushing, ne_eq,
    swap_eq_none_iff, resolveTail_swapSide]
  split_ifs <;> rfl

/-- Each call commutes with the swap: the swapped call on the swapped engine
gives the same reply and the swapped successor. -/
theorem step_swapSide (s : CompensationPreprocessor K) (op : Op K) :
    s.swapSide.step op.swapSide = ((s.step op).1, (s.step op).2.swapSide) := by
  cases op with
  | bufferGcode gcode => simp only [Op.swapSide, step, bufferGcode_swapSide]
  | getCompensatedGcode => simp only [Op.swapSide, step, getCompensatedGcode_swapSide]
  | setCompensation type radius => cases type <;> rfl
  | flush => rfl
  | clear => rfl
  | setInitialPosition position => rfl

theorem run_swapSide (s : CompensationPreprocessor K) (ops : List (Op K)) :
    s.swapSide.run (ops.map Op.swapSide) = ((s.run ops).1, (s.run ops).2.swapSide) := by
  induction ops generalizing s with
  | nil => rfl
  | cons op ops ih => simp only [List.map_cons, run, step_swapSide, ih]

/-- G41 with radius `r` is G42 with radius `-r`.  On every run from the
constructor, whatever memory it leaves unassigned, the program with G41 and G42
exchanged and their radii negated gets exactly the same replies, and ends in
the same state but for the mode and the radius. -/
theorem swappedSides_same_run (garbage : Fin bufferSize → BufferedGcode K) (flushing : Bool)
    (ops : List (Op K)) :
    (new garbage flushing).run (ops.map Op.swapSide) =
      (((new garbage flushing).run ops).1, ((new garbage flushing).run ops).2.swapSide) := by
  rw [← run_swapSide, swapSide_of_none rfl]

end CompensationPreprocessor

end CutterCompensation
