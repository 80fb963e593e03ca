import Mathlib.Algebra.Order.Field.Defs
import Mathlib.Algebra.EuclideanDomain.Field
import Mathlib.Data.Rat.Sqrt
import Mathlib.Tactic.NormNum
import Mathlib.Tactic.Ring

/-!
# Scalars, vectors and commands

The firmware computes in `float`.  The model reads every `float` operation of
the engine as exact arithmetic in a linearly ordered field `K` that also has a
square root `sqrtf`; the literal `0.00001f` of every degeneracy test becomes the
exact constant `epsilon`.  Commands enter the engine as parsed `Gcode` objects
and leave it as the chain of `snprintf` calls that rebuilds their text.
-/

namespace CutterCompensation

/-- `sqrtf` from `<cmath>`, the one operation of `float` beyond the ordered
field operations that the engine calls. -/
class Sqrtf (K : Type) where
  sqrtf : K → K

export Sqrtf (sqrtf)

/-- Rationals with `Rat.sqrt`, which is exact only on squares (`Rat.sqrt 5` is
`2`): the scalar type of the concrete runs, whose norms are all `0` or `1`. -/
instance : Sqrtf ℚ := ⟨Rat.sqrt⟩

@[simp]
theorem sqrtf_rat (q : ℚ) : sqrtf q = Rat.sqrt q := rfl

@[simp]
theorem rat_sqrt_one : Rat.sqrt 1 = 1 := by decide

@[simp]
theorem rat_sqrt_zero : Rat.sqrt 0 = 0 := by decide

/-- The threshold `0.00001f` of every degeneracy test. -/
def epsilon {K : Type} [LinearOrderedField K] : K := 1 / 100000

theorem epsilon_pos {K : Type} [LinearOrderedField K] : (0 : K) < epsilon := by
  unfold epsilon
  exact div_pos one_pos (by norm_num)

/-- A `float[2]`: the XY projection the geometry works on. -/
structure Vec2 (K : Type) where
  x : K
  y : K
  deriving DecidableEq, Repr, Inhabited

/-- A `float[3]` indexed by `X_AXIS`, `Y_AXIS`, `Z_AXIS`. -/
structure Vec3 (K : Type) where
  x : K
  y : K
  z : K
  deriving DecidableEq, Repr, Inhabited

/-- The first two entries of a `float[3]`, as the geometry functions read it. -/
def Vec3.xy {K : Type} (v : Vec3 K) : Vec2 K := ⟨v.x, v.y⟩

@[simp] theorem Vec3.xy_x {K : Type} (v : Vec3 K) : v.xy.x = v.x := rfl
@[simp] theorem Vec3.xy_y {K : Type} (v : Vec3 K) : v.xy.y = v.y := rfl

namespace Vec2

variable {K : Type}

instance [Add K] : Add (Vec2 K) := ⟨fun u v => ⟨u.x + v.x, u.y + v.y⟩⟩
instance [Sub K] : Sub (Vec2 K) := ⟨fun u v => ⟨u.x - v.x, u.y - v.y⟩⟩
instance [Mul K] : SMul K (Vec2 K) := ⟨fun a v => ⟨a * v.x, a * v.y⟩⟩

@[simp] theorem add_x [Add K] (u v : Vec2 K) : (u + v).x = u.x + v.x := rfl
@[simp] theorem add_y [Add K] (u v : Vec2 K) : (u + v).y = u.y + v.y := rfl
@[simp] theorem sub_x [Sub K] (u v : Vec2 K) : (u - v).x = u.x - v.x := rfl
@[simp] theorem sub_y [Sub K] (u v : Vec2 K) : (u - v).y = u.y - v.y := rfl
@[simp] theorem smul_x [Mul K] (a : K) (v : Vec2 K) : (a • v).x = a * v.x := rfl
@[simp] theorem smul_y [Mul K] (a : K) (v : Vec2 K) : (a • v).y = a * v.y := rfl

theorem ext_iff' {u v : Vec2 K} : u = v ↔ u.x = v.x ∧ u.y = v.y := by
  cases u; cases v; simp

def dot [Add K] [Mul K] (u v : Vec2 K) : K := u.x * v.x + u.y * v.y

def normSq [Add K] [Mul K] (v : Vec2 K) : K := dot v v

theorem smul_dot [CommRing K] (a : K) (u v : Vec2 K) : (a • u).dot v = a * u.dot v := by
  simp only [dot, smul_x, smul_y]
  ring

end Vec2

/-- `CompensationType` of `CompensationTypes.h`: G40, G41 and G42. -/
inductive CompensationType
  | none
  | left
  | right
  deriving DecidableEq, Repr

@[simp]
theorem CompensationType.beq_eq_decide (a b : CompensationType) : (a == b) = decide (a = b) :=
  rfl

/-- Modelled from the spec: the parsed command of `Gcode.h`, which is not part
of the sources.  The engine reads its motion code (`has_g`, `g`), its words
through `has_letter` and `get_value`, and the output stream it copies; the `M`
code is the word a rebuilt command can lose. -/
structure Gcode (K : Type) where
  hasG : Bool
  g : ℕ
  hasM : Bool
  m : ℕ
  words : List (Char × K)
  stream : ℕ
  deriving DecidableEq, Repr

namespace Gcode

variable {K : Type} [Zero K]

def hasLetter (gcode : Gcode K) (letter : Char) : Bool :=
  gcode.words.any (·.1 == letter)

/-- `get_value` reads `0` for a letter the command does not carry. -/
def getValue (gcode : Gcode K) (letter : Char) : K :=
  ((gcode.words.find? (·.1 == letter)).map (·.2)).getD 0

/-- The pattern `has_letter(c) ? get_value(c) : fallback` of `clone_and_extract`. -/
def valueOr (gcode : Gcode K) (letter : Char) (fallback : K) : K :=
  if gcode.hasLetter letter then gcode.getValue letter else fallback

/-- `is_move` of `clone_and_extract`: a G0, G1, G2 or G3 command. -/
def isMotion (gcode : Gcode K) : Bool :=
  gcode.hasG && (gcode.g == 0 || gcode.g == 1 || gcode.g == 2 || gcode.g == 3)

/-- A G2 or G3 command: `clone_and_extract` reads its I, J and K. -/
def isArc (gcode : Gcode K) : Bool :=
  gcode.g == 2 || gcode.g == 3

end Gcode

/-- One `snprintf` call of the chain that rebuilds a command, with the values
it formats. -/
inductive Conversion (K : Type)
  /-- `"G%d "` -/
  | motionCode (g : ℕ)
  /-- `"X%.4f Y%.4f Z%.4f "` -/
  | axes (endpoint : Vec3 K)
  /-- `"I%.4f J%.4f K%.4f "` -/
  | arcOffsets (ijk : Vec3 K)
  /-- `"F%.1f"`, with a trailing blank in `modify_gcode_coordinates` -/
  | feedRate (f : K) (trailingBlank : Bool)
  deriving DecidableEq, Repr

/-- The words one conversion writes: the letter, the value printed after it,
and the digits kept after the point (`none` for the integer `%d`). -/
def Conversion.words {K : Type} [NatCast K] : Conversion K → List (Char × K × Option ℕ)
  | .motionCode g => [('G', (g : K), none)]
  | .axes e => [('X', e.x, some 4), ('Y', e.y, some 4), ('Z', e.z, some 4)]
  | .arcOffsets v => [('I', v.x, some 4), ('J', v.y, some 4), ('K', v.z, some 4)]
  | .feedRate f _ => [('F', f, some 1)]

/-- A rebuilt command: the text of its `snprintf` chain and the stream the
`Gcode` constructor receives. -/
structure Command (K : Type) where
  conversions : List (Conversion K)
  stream : ℕ
  deriving DecidableEq, Repr

namespace Command

variable {K : Type} [NatCast K]

def words (command : Command K) : List (Char × K × Option ℕ) :=
  command.conversions.flatMap Conversion.words

/-- The value and printed precision of the word `letter`, if the text has one. -/
def findWord (command : Command K) (letter : Char) : Option (K × Option ℕ) :=
  (command.words.find? (·.1 == letter)).map (·.2)

end Command

end CutterCompensation
