import CutterCompensation.Core.Types
import Mathlib.Logic.Function.Basic
import Mathlib.Data.Fin.Basic

/-!
# The preprocessor's state and its buffering operations

`CompensationPreprocessor` keeps a circular buffer of ten `BufferedGcode`
slots, the compensation mode and radius, and two position trackers.  This
module models the state together with every operation that does not resolve
geometry: the constructor, `buffer_gcode` with `clone_and_extract`, the mode
switch `set_compensation`, `flush`, `clear` and `set_initial_position`.  The
implementation file reads slot and object members that the header's
declarations predate (`uncomp_start`, `compensated_position`, `is_flushing`); the
model follows the implementation.
-/

namespace CutterCompensation

/-- `BUFFER_SIZE`. -/
abbrev bufferSize : ℕ := 10

/-- One slot of the circular buffer.  `gcode = none` is the null pointer of a
free slot; every other field keeps whatever it last held. -/
structure BufferedGcode (K : Type) where
  gcode : Option (Gcode K)
  endpoint : Vec3 K
  ijk : Vec3 K
  hasIjk : Bool
  isCw : Bool
  isMove : Bool
  direction : Vec3 K
  uncompStart : Vec3 K
  deriving DecidableEq, Repr, Inhabited

/-- The members of `CompensationPreprocessor`.  `bufferHead` and `bufferTail`
only ever hold values of `buffer_next_index`, so they are slot indices. -/
structure CompensationPreprocessor (K : Type) where
  buffer : Fin bufferSize → BufferedGcode K
  bufferHead : Fin bufferSize
  bufferTail : Fin bufferSize
  bufferCount : ℕ
  compensationType : CompensationType
  compensationRadius : K
  uncompensatedPosition : Vec3 K
  compensatedPosition : Vec3 K
  isFlushing : Bool

namespace CompensationPreprocessor

variable {K : Type}

def bufferHasSpace (s : CompensationPreprocessor K) : Bool :=
  s.bufferCount < bufferSize

/-- `buffer_next_index`: `(index + 1) % BUFFER_SIZE`. -/
def bufferNextIndex (index : Fin bufferSize) : Fin bufferSize :=
  index + 1

/-- `flush` only raises the flag that waives the lookahead requirement. -/
def flush (s : CompensationPreprocessor K) : CompensationPreprocessor K :=
  { s with isFlushing := true }

/-- `clear`: every slot freed, the indices reset and the flag lowered. -/
def clear (s : CompensationPreprocessor K) : CompensationPreprocessor K :=
  { s with
    buffer := fun i => { s.buffer i with gcode := none }
    bufferHead := 0
    bufferTail := 0
    bufferCount := 0
    isFlushing := false }

/-- `set_compensation`: G40 runs `flush()` and then, at once, `clear()`. -/
def setCompensation (s : CompensationPreprocessor K) (type : CompensationType) (radius : K) :
    CompensationPreprocessor K :=
  let s := { s with compensationType := type, compensationRadius := radius }
  if type = .none then s.flush.clear else s

def setInitialPosition (s : CompensationPreprocessor K) (position : Vec3 K) :
    CompensationPreprocessor K :=
  { s with uncompensatedPosition := position, compensatedPosition := position }

section Zero

variable [Zero K]

/-- The constructor.  It frees every slot and zeroes both trackers, but never
assigns the slots' other fields nor `is_flushing`: `garbage` and `flushing` are
what that memory happens to hold. -/
def new (garbage : Fin bufferSize → BufferedGcode K) (flushing : Bool) :
    CompensationPreprocessor K where
  buffer i := { garbage i with gcode := none, isMove := false, hasIjk := false }
  bufferHead := 0
  bufferTail := 0
  bufferCount := 0
  compensationType := .none
  compensationRadius := 0
  uncompensatedPosition := ⟨0, 0, 0⟩
  compensatedPosition := ⟨0, 0, 0⟩
  isFlushing := flushing

/-- `clone_and_extract`: the slot filled from `gcode`, and the uncompensated
position after it.  A non-motion receives only its clone and both flags false.
A motion records its start, its endpoint (missing axes stay where they were),
and, for G2/G3, its winding and I/J/K. -/
def cloneAndExtract (gcode : Gcode K) (slot : BufferedGcode K) (position : Vec3 K) :
    BufferedGcode K × Vec3 K :=
  if gcode.isMotion then
    let endpoint : Vec3 K := ⟨gcode.valueOr 'X' position.x, gcode.valueOr 'Y' position.y,
      gcode.valueOr 'Z' position.z⟩
    let slot := { slot with
      gcode := some gcode, isMove := true, uncompStart := position, endpoint := endpoint
      hasIjk := gcode.isArc }
    let slot := if gcode.isArc then
        { slot with
          isCw := gcode.g == 2
          ijk := ⟨gcode.valueOr 'I' 0, gcode.valueOr 'J' 0, gcode.valueOr 'K' 0⟩ }
      else slot
    let slot := if gcode.g == 0 || gcode.g == 1 then { slot with direction := ⟨0, 0, 0⟩ }
      else slot
    (slot, endpoint)
  else
    ({ slot with gcode := some gcode, isMove := false, hasIjk := false }, position)

/-- `buffer_gcode`: `false` and no change at all when the buffer is full;
otherwise the head slot is filled and the head advances. -/
def bufferGcode (s : CompensationPreprocessor K) (gcode : Gcode K) :
    Bool × CompensationPreprocessor K :=
  if s.bufferHasSpace then
    let extracted := cloneAndExtract gcode (s.buffer s.bufferHead) s.uncompensatedPosition
    (true, { s with
      buffer := Function.update s.buffer s.bufferHead extracted.1
      uncompensatedPosition := extracted.2
      bufferHead := bufferNextIndex s.bufferHead
      bufferCount := s.bufferCount + 1 })
  else
    (false, s)

end Zero

/-! ## Spec lemmas -/

@[simp] theorem bufferNextIndex_val (index : Fin bufferSize) :
    (bufferNextIndex index).val = (index.val + 1) % bufferSize := by
  simp [bufferNextIndex, Fin.val_add]

@[simp] theorem flush_buffer (s : CompensationPreprocessor K) : s.flush.buffer = s.buffer := rfl
@[simp] theorem flush_bufferCount (s : CompensationPreprocessor K) :
    s.flush.bufferCount = s.bufferCount := rfl
@[simp] theorem flush_bufferTail (s : CompensationPreprocessor K) :
    s.flush.bufferTail = s.bufferTail := rfl
@[simp] theorem flush_bufferHead (s : CompensationPreprocessor K) :
    s.flush.bufferHead = s.bufferHead := rfl

@[simp] theorem clear_bufferCount (s : CompensationPreprocessor K) : s.clear.bufferCount = 0 := rfl
@[simp] theorem clear_bufferTail (s : CompensationPreprocessor K) : s.clear.bufferTail = 0 := rfl
@[simp] theorem clear_bufferHead (s : CompensationPreprocessor K) : s.clear.bufferHead = 0 := rfl
@[simp] theorem clear_buffer_gcode (s : CompensationPreprocessor K) (i : Fin bufferSize) :
    (s.clear.buffer i).gcode = none := rfl

@[simp] theorem setCompensation_of_ne_none (s : CompensationPreprocessor K)
    {type : CompensationType}
    (htype : type ≠ .none) (radius : K) :
    s.setCompensation type radius =
      { s with compensationType := type, compensationRadius := radius } := by
  simp [setCompensation, htype]

@[simp] theorem setCompensation_none (s : CompensationPreprocessor K) (radius : K) :
    s.setCompensation .none radius =
      { s with compensationType := .none, compensationRadius := radius }.flush.clear := by
  simp [setCompensation]

section Zero

variable [Zero K]

theorem bufferGcode_of_full {s : CompensationPreprocessor K} (hfull : bufferSize ≤ s.bufferCount)
    (gcode : Gcode K) : s.bufferGcode gcode = (false, s) := by
  simp [bufferGcode, bufferHasSpace, not_lt.mpr hfull]

theorem bufferGcode_of_lt {s : CompensationPreprocessor K} (hspace : s.bufferCount < bufferSize)
    (gcode : Gcode K) :
    s.bufferGcode gcode =
      (true, { s with
        buffer := Function.update s.buffer s.bufferHead
          (cloneAndExtract gcode (s.buffer s.bufferHead) s.uncompensatedPosition).1
        uncompensatedPosition :=
          (cloneAndExtract gcode (s.buffer s.bufferHead) s.uncompensatedPosition).2
        bufferHead := bufferNextIndex s.bufferHead
        bufferCount := s.bufferCount + 1 }) := by
  simp [bufferGcode, bufferHasSpace, hspace]

@[simp] theorem cloneAndExtract_gcode (gcode : Gcode K) (slot : BufferedGcode K) (p : Vec3 K) :
    (cloneAndExtract gcode slot p).1.gcode = some gcode := by
  unfold cloneAndExtract; split_ifs <;> rfl

@[simp] theorem cloneAndExtract_isMove (gcode : Gcode K) (slot : BufferedGcode K) (p : Vec3 K) :
    (cloneAndExtract gcode slot p).1.isMove = gcode.isMotion := by
  unfold cloneAndExtract; split_ifs <;> simp_all

@[simp] theorem cloneAndExtract_hasIjk (gcode : Gcode K) (slot : BufferedGcode K) (p : Vec3 K) :
    (cloneAndExtract gcode slot p).1.hasIjk = (gcode.isMotion && gcode.isArc) := by
  unfold cloneAndExtract; split_ifs <;> simp_all

theorem cloneAndExtract_isCw (gcode : Gcode K) (slot : BufferedGcode K) (p : Vec3 K)
    (harc : (gcode.isMotion && gcode.isArc) = true) :
    (cloneAndExtract gcode slot p).1.isCw = (gcode.g == 2) := by
  unfold cloneAndExtract; split_ifs <;> simp_all

section Motion

variable {gcode : Gcode K} (hmotion : gcode.isMotion = true) (slot : BufferedGcode K) (p : Vec3 K)
include hmotion

theorem cloneAndExtract_endpoint :
    (cloneAndExtract gcode slot p).1.endpoint =
      ⟨gcode.valueOr 'X' p.x, gcode.valueOr 'Y' p.y, gcode.valueOr 'Z' p.z⟩ := by
  unfold cloneAndExtract; split_ifs <;> simp_all

theorem cloneAndExtract_snd :
    (cloneAndExtract gcode slot p).2 =
      ⟨gcode.valueOr 'X' p.x, gcode.valueOr 'Y' p.y, gcode.valueOr 'Z' p.z⟩ := by
  simp [cloneAndExtract, hmotion]

theorem cloneAndExtract_uncompStart : (cloneAndExtract gcode slot p).1.uncompStart = p := by
  unfold cloneAndExtract; split_ifs <;> simp_all

theorem cloneAndExtract_ijk (harc : gcode.isArc = true) :
    (cloneAndExtract gcode slot p).1.ijk =
      ⟨gcode.valueOr 'I' 0, gcode.valueOr 'J' 0, gcode.valueOr 'K' 0⟩ := by
  unfold cloneAndExtract; split_ifs <;> simp_all

end Motion

end Zero

end CompensationPreprocessor

end CutterCompensation
