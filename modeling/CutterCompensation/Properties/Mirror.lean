import CutterCompensation.Properties.Lines

/-!
# Reflection across the X axis

The reflection of a program negates every `Y` and `J` word and the initial `Y`,
swaps G2 with G3, and swaps G41 with G42; the reflection of the output does the
same to the rebuilt text.  Under G41 and G42 the three geometry helpers follow
the reflection, but G40 keeps its radius and resolves as G42 in both programs,
so a G40 run with a non-zero radius is not mirrored.
-/

namespace CutterCompensation

variable {K : Type}

/-- G2 and G3 swapped, every other motion code kept. -/
def swapArc (g : ℕ) : ℕ :=
  if g = 2 then 3 else if g = 3 then 2 else g

/-- G41 and G42 swapped. -/
def CompensationType.swap : CompensationType → CompensationType
  | .none => .none
  | .left => .right
  | .right => .left

def Vec3.reflect [Neg K] (v : Vec3 K) : Vec3 K := ⟨v.x, -v.y, v.z⟩

/-- The command reflected across the X axis: `Y` and `J` negated, G2 and G3
swapped. -/
def Gcode.reflect [Neg K] (gcode : Gcode K) : Gcode K :=
  { gcode with
    g := swapArc gcode.g
    words := gcode.words.map fun w => if w.1 == 'Y' || w.1 == 'J' then (w.1, -w.2) else w }

def Op.reflect [Neg K] : Op K → Op K
  | .bufferGcode gcode => .bufferGcode gcode.reflect
  | .setCompensation type radius => .setCompensation type.swap radius
  | .setInitialPosition position => .setInitialPosition position.reflect
  | op => op

def Conversion.reflect [Neg K] : Conversion K → Conversion K
  | .motionCode g => .motionCode (swapArc g)
  | .axes endpoint => .axes endpoint.reflect
  | .arcOffsets ijk => .arcOffsets ijk.reflect
  | .feedRate f trailingBlank => .feedRate f trailingBlank

def Command.reflect [Neg K] (command : Command K) : Command K :=
  ⟨command.conversions.map Conversion.reflect, command.stream⟩

def Vec2.reflect [Neg K] (v : Vec2 K) : Vec2 K := ⟨v.x, -v.y⟩

/-! ## The geometry follows the reflection

Each helper, given reflected inputs and the other side, returns the reflected
result.  With radius `0` the side does not matter at all. -/

section Geometry

variable [LinearOrderedField K]

@[simp] theorem Vec2.reflect_x (v : Vec2 K) : v.reflect.x = v.x := rfl
@[simp] theorem Vec2.reflect_y (v : Vec2 K) : v.reflect.y = -v.y := rfl
@[simp] theorem Vec3.reflect_x (v : Vec3 K) : v.reflect.x = v.x := rfl
@[simp] theorem Vec3.reflect_y (v : Vec3 K) : v.reflect.y = -v.y := rfl
@[simp] theorem Vec3.reflect_z (v : Vec3 K) : v.reflect.z = v.z := rfl
@[simp] theorem Vec3.reflect_xy (v : Vec3 K) : v.reflect.xy = v.xy.reflect := rfl

@[simp] theorem Vec2.reflect_add (u v : Vec2 K) : u.reflect + v.reflect = (u + v).reflect := by
  simp [Vec2.ext_iff', add_comm]

@[simp] theorem Vec2.reflect_sub (u v : Vec2 K) : u.reflect - v.reflect = (u - v).reflect := by
  simp [Vec2.ext_iff']
  ring

@[simp] theorem Vec2.smul_reflect (a : K) (v : Vec2 K) : a • v.reflect = (a • v).reflect := by
  simp [Vec2.ext_iff']

@[simp] theorem Vec2.normSq_reflect (v : Vec2 K) : v.reflect.normSq = v.normSq := by
  simp [Vec2.normSq, Vec2.dot]

@[simp] theorem crossProduct2d_reflect (u v : Vec2 K) :
    crossProduct2d u.reflect v.reflect = -crossProduct2d u v := by
  simp [crossProduct2d]
  ring

theorem normalize2_reflect [Sqrtf K] (v : Vec2 K) :
    normalize2 v.reflect = (normalize2 v).reflect := by
  have hmag : v.reflect.x * v.reflect.x + v.reflect.y * v.reflect.y = v.x * v.x + v.y * v.y := by
    simp
  simp only [normalize2, hmag]
  split_ifs <;> simp [Vec2.ext_iff', neg_div]

theorem calculatePerpendicularOffset_reflect (e u : Vec2 K) (r : K) (isLeft : Bool) :
    calculatePerpendicularOffset e.reflect u.reflect r (!isLeft) =
      (calculatePerpendicularOffset e u r isLeft).reflect := by
  cases isLeft <;> simp [Vec2.ext_iff'] <;> ring

theorem calculateCornerIntersection_reflect (c u1 u2 : Vec2 K) (r : K) (isLeft : Bool) :
    calculateCornerIntersection c.reflect u1.reflect u2.reflect r (!isLeft) =
      (calculateCornerIntersection c u1 u2 r isLeft).map Vec2.reflect := by
  by_cases h : |crossProduct2d u1 u2| < epsilon
  · have h' : |crossProduct2d u1.reflect u2.reflect| < epsilon := by simpa using h
    rw [(calculateCornerIntersection_eq_none_iff _ _ _ _ _).mpr h,
      (calculateCornerIntersection_eq_none_iff _ _ _ _ _).mpr h', Option.map_none']
  · have h' : ¬|crossProduct2d u1.reflect u2.reflect| < epsilon := by simpa using h
    rw [calculateCornerIntersection_of_not_lt h, calculateCornerIntersection_of_not_lt h',
      Option.map_some']
    simp [calculatePerpendicularOffset_reflect, neg_div_neg_eq]

@[simp] theorem travelTangent_reflect (isCw : Bool) (u : Vec2 K) :
    travelTangent (!isCw) u.reflect = (travelTangent isCw u).reflect := by
  cases isCw <;> simp [travelTangent, Vec2.ext_iff']

theorem compensateArcEndpoint_reflect [Sqrtf K] (s0 c0 e ij : Vec2 K) (r : K)
    (isLeft isCw : Bool) :
    compensateArcEndpoint s0.reflect c0.reflect e.reflect ij.reflect r (!isLeft) (!isCw) =
      (compensateArcEndpoint s0 c0 e ij r isLeft isCw).map
        fun p => (p.1.reflect, p.2.reflect) := by
  have hR : sqrtf ((e.reflect - (s0.reflect + ij.reflect)).normSq) =
      sqrtf ((e - (s0 + ij)).normSq) := by simp
  by_cases h : sqrtf ((e - (s0 + ij)).normSq) < epsilon
  · rw [compensateArcEndpoint_of_lt h, compensateArcEndpoint_of_lt (hR ▸ h), Option.map_none']
  · rw [compensateArcEndpoint_eq_some (not_lt.mp h),
      compensateArcEndpoint_eq_some (hR ▸ not_lt.mp h), Option.map_some', hR]
    have hside : ((!isLeft) = !isCw) = (isLeft = isCw) := by cases isLeft <;> cases isCw <;> simp
    simp [hside]

end Geometry

/-! ## Commands and slots follow the reflection -/

section Commands

variable [LinearOrderedField K]

namespace Gcode

@[simp] theorem reflect_hasG (gcode : Gcode K) : gcode.reflect.hasG = gcode.hasG := rfl
@[simp] theorem reflect_g (gcode : Gcode K) : gcode.reflect.g = swapArc gcode.g := rfl
@[simp] theorem reflect_stream (gcode : Gcode K) : gcode.reflect.stream = gcode.stream := rfl

theorem reflect_fst (w : Char × K) :
    (if w.1 == 'Y' || w.1 == 'J' then (w.1, -w.2) else w).1 = w.1 := by
  split <;> rfl

@[simp] theorem hasLetter_reflect (gcode : Gcode K) (letter : Char) :
    gcode.reflect.hasLetter letter = gcode.hasLetter letter := by
  simp only [hasLetter, reflect, List.any_map, Function.comp_def, reflect_fst]

theorem getValue_reflect (gcode : Gcode K) (letter : Char) :
    gcode.reflect.getValue letter =
      if letter == 'Y' || letter == 'J' then -gcode.getValue letter else gcode.getValue letter := by
  simp only [getValue, reflect, List.find?_map, Function.comp_def, reflect_fst]
  cases h : gcode.words.find? (·.1 == letter) with
  | none => split <;> simp
  | some w =>
    have hw : w.1 = letter := by simpa using List.find?_some h
    subst hw
    split <;> simp_all

theorem valueOr_reflect (gcode : Gcode K) (letter : Char) (fallback : K) :
    gcode.reflect.valueOr letter (if letter == 'Y' || letter == 'J' then -fallback else fallback) =
      if letter == 'Y' || letter == 'J' then -gcode.valueOr letter fallback
      else gcode.valueOr letter fallback := by
  simp only [valueOr, hasLetter_reflect, getValue_reflect]
  split <;> split <;> rfl

@[simp] theorem isMotion_reflect (gcode : Gcode K) : gcode.reflect.isMotion = gcode.isMotion := by
  simp only [isMotion, reflect, swapArc]
  split_ifs <;> simp_all

@[simp] theorem isArc_reflect (gcode : Gcode K) : gcode.reflect.isArc = gcode.isArc := by
  simp only [isArc, reflect, swapArc]
  split_ifs <;> simp_all

theorem reflect_isCw {gcode : Gcode K} (harc : gcode.isArc = true) :
    (gcode.reflect.g == 2) = !(gcode.g == 2) := by
  simp only [isArc, reflect, swapArc] at harc ⊢
  split_ifs <;> simp_all

end Gcode

/-- `slot'` holds the reflection of everything the engine reads of the motion
slot `slot`. -/
structure SlotMirror (slot slot' : BufferedGcode K) : Prop where
  gcode : slot'.gcode = slot.gcode.map Gcode.reflect
  endpoint : slot'.endpoint = slot.endpoint.reflect
  uncompStart : slot'.uncompStart = slot.uncompStart.reflect
  isMove : slot'.isMove = slot.isMove
  hasIjk : slot'.hasIjk = slot.hasIjk
  ijk : slot.hasIjk = true → slot'.ijk = slot.ijk.reflect
  isCw : slot.hasIjk = true → slot'.isCw = !slot.isCw

namespace CompensationPreprocessor

/-- `clone_and_extract` of a reflected motion from the reflected position fills
the reflected slot and moves to the reflected endpoint. -/
theorem cloneAndExtract_reflect {gcode : Gcode K} (hmotion : gcode.isMotion = true)
    (slot slot' : BufferedGcode K) (p : Vec3 K) :
    SlotMirror (cloneAndExtract gcode slot p).1 (cloneAndExtract gcode.reflect slot' p.reflect).1 ∧
      (cloneAndExtract gcode.reflect slot' p.reflect).2 =
        (cloneAndExtract gcode slot p).2.reflect := by
  have hmotion' : gcode.reflect.isMotion = true := by rw [Gcode.isMotion_reflect, hmotion]
  have hX := gcode.valueOr_reflect 'X' p.x
  have hY := gcode.valueOr_reflect 'Y' p.y
  have hZ := gcode.valueOr_reflect 'Z' p.z
  have hI := gcode.valueOr_reflect 'I' 0
  have hJ := gcode.valueOr_reflect 'J' 0
  have hK := gcode.valueOr_reflect 'K' 0
  simp only [Char.reduceBEq, Bool.or_false, Bool.or_true, Bool.false_eq_true, if_true, if_false,
    neg_zero] at hX hY hZ hI hJ hK
  refine ⟨⟨by simp, ?_, ?_, by simp, by simp, fun harc => ?_, fun harc => ?_⟩, ?_⟩
  · rw [cloneAndExtract_endpoint hmotion, cloneAndExtract_endpoint hmotion']
    simp [Vec3.reflect, hX, hY, hZ]
  · rw [cloneAndExtract_uncompStart hmotion, cloneAndExtract_uncompStart hmotion']
  · simp only [cloneAndExtract_hasIjk, hmotion, Bool.true_and] at harc
    rw [cloneAndExtract_ijk hmotion _ _ harc,
      cloneAndExtract_ijk hmotion' _ _ (by rwa [Gcode.isArc_reflect])]
    simp [Vec3.reflect, hI, hJ, hK]
  · simp only [cloneAndExtract_hasIjk, hmotion, Bool.true_and] at harc
    rw [cloneAndExtract_isCw _ _ _ (by simp [hmotion, harc]),
      cloneAndExtract_isCw _ _ _ (by simp [hmotion, harc]), Gcode.reflect_isCw harc]
  · rw [cloneAndExtract_snd hmotion, cloneAndExtract_snd hmotion']
    simp [Vec3.reflect, hX, hY, hZ]

/-- The rebuilt text of a reflected slot is the reflected text. -/
theorem rebuild_reflect (gcode : Gcode K) {slot slot' : BufferedGcode K}
    (hend : slot'.endpoint = slot.endpoint.reflect) (hhas : slot'.hasIjk = slot.hasIjk)
    (hijk : slot.hasIjk = true → slot'.ijk = slot.ijk.reflect) :
    rebuild gcode.reflect slot' = (rebuild gcode slot).reflect := by
  have hF : gcode.reflect.getValue 'F' = gcode.getValue 'F' := by
    rw [Gcode.getValue_reflect]; rfl
  simp only [rebuild, commandText, Command.reflect, hend, hhas, Gcode.hasLetter_reflect, hF,
    Gcode.reflect_hasG, Gcode.reflect_g]
  split_ifs <;> simp_all [Conversion.reflect]

end CompensationPreprocessor

end Commands

namespace CompensationPreprocessor

theorem offCornerMirror_state (garbage : Fin bufferSize → BufferedGcode ℚ) (flushing : Bool) :
    let r := (new garbage flushing).run (offCornerCalls.map Op.reflect)
    Reply.emittedCommands r.1 = [] ∧
      TailCorner r.2 (feedMove 2 0).reflect ⟨2, 0, 0⟩ ⟨2, -1, 0⟩ ⟨4, -1, 0⟩ ∧
      r.2.compensationType = .none ∧ r.2.compensationRadius = 1 := by
  simp [tailCorner_iff, offCornerCalls, Op.reflect, Gcode.reflect, swapArc, CompensationType.swap,
    run, step, new, clear, flush, bufferGcode, bufferHasSpace, cloneAndExtract, feedMove,
    Gcode.isMotion, Gcode.isArc, Gcode.valueOr, Gcode.hasLetter, Gcode.getValue, bufferNextIndex,
    Function.update_apply, bufferSize, Reply.emittedCommands]

/-- The G40 corner run and its reflection: the first move leaves at `(1,0)` and
at `(3,0)`, while the reflection of `(1,0)` is `(1,0)`. -/
theorem offMode_breaks_mirror (garbage : Fin bufferSize → BufferedGcode ℚ) (flushing : Bool) :
    Reply.emittedCommands
        ((new garbage flushing).run (offCornerCalls ++ [.getCompensatedGcode])).1 =
      [⟨[.motionCode 1, .axes ⟨1, 0, 0⟩], 0⟩] ∧
    Reply.emittedCommands ((new garbage flushing).run
        ((offCornerCalls ++ [Op.getCompensatedGcode]).map Op.reflect)).1 =
      [⟨[.motionCode 1, .axes ⟨3, 0, 0⟩], 0⟩] ∧
    Reply.emittedCommands ((new garbage flushing).run
        ((offCornerCalls ++ [Op.getCompensatedGcode]).map Op.reflect)).1 ≠
      (Reply.emittedCommands
        ((new garbage flushing).run (offCornerCalls ++ [.getCompensatedGcode])).1).map
        Command.reflect := by
  have horig : Reply.emittedCommands
      ((new garbage flushing).run (offCornerCalls ++ [.getCompensatedGcode])).1 =
      [⟨[.motionCode 1, .axes ⟨1, 0, 0⟩], 0⟩] := by
    rw [emittedCommands_run_get, (offCorner_state garbage flushing).1,
      offCorner_first garbage flushing]
    rfl
  have hmirror : Reply.emittedCommands ((new garbage flushing).run
      ((offCornerCalls ++ [Op.getCompensatedGcode]).map Op.reflect)).1 =
      [⟨[.motionCode 1, .axes ⟨3, 0, 0⟩], 0⟩] := by
    obtain ⟨hs, hcorner, hty, hr⟩ := offCornerMirror_state garbage flushing
    have hside : (CompensationType.none == .left) = false := rfl
    rw [List.map_append,
      show [(Op.getCompensatedGcode : Op ℚ)].map Op.reflect = [.getCompensatedGcode] from rfl,
      emittedCommands_run_get, hs, hcorner.getCompensatedGcode_fst, hty, hside, hr]
    norm_num [normalize2, calculateCornerIntersection, epsilon, commandText, feedMove,
      Gcode.reflect, Gcode.hasLetter, Vec3.xy, swapArc]
    decide
  refine ⟨horig, hmirror, ?_⟩
  rw [horig, hmirror]
  norm_num [Command.reflect, Conversion.reflect, Vec3.reflect, swapArc]

end CompensationPreprocessor

end CutterCompensation
