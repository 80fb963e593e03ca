import CutterCompensation.Engine.Extraction
import Mathlib.Data.Nat.Digits
import Mathlib.Data.Rat.Floor

/-!
# The lengths `snprintf` reports

`get_compensated_gcode` writes the rebuilt text into `char cmd_buffer[256]`,
and `modify_gcode_coordinates` into `char new_command[256]`, by a chain of
`snprintf` calls.  Each call is made at `ptr` with size
`sizeof(buf) - (ptr - buf)` and advances `ptr` by the length it reports, which
is the length of the whole text whether or not it fit.  This module computes
those lengths from the values formatted, and the size each call receives.  On
the firmware's LPC1768 target `size_t` is 32 bits wide.
-/

namespace CutterCompensation

variable {K : Type} [LinearOrderedField K] [FloorRing K]

/-- Rounding to nearest with ties to even, as glibc's `%f` rounds the exact
value it prints. -/
def roundHalfEven (t : K) : ℤ :=
  let f := ⌊t⌋
  if t - f < 1 / 2 then f
  else if 1 / 2 < t - f then f + 1
  else if f % 2 = 0 then f else f + 1

/-- The characters `%.<precision>f` prints for `x`: a minus sign when `x` is
negative, the integer part of `|x|` rounded to `precision` decimals (`0` when it
is zero), then the point and `precision` digits. -/
def fixedWidth (precision : ℕ) (x : K) : ℕ :=
  let scaled := (roundHalfEven (|x| * 10 ^ precision)).toNat
  (if x < 0 then 1 else 0) + (Nat.repr (scaled / 10 ^ precision)).length +
    (if precision = 0 then 0 else precision + 1)

/-- The length one call of the chain reports: `"G%d "`, `"X%.4f Y%.4f Z%.4f "`,
`"I%.4f J%.4f K%.4f "`, and `"F%.1f"` with its trailing blank in
`modify_gcode_coordinates`. -/
def Conversion.reportedLength : Conversion K → ℕ
  | .motionCode g => (Nat.repr g).length + 2
  | .axes e => fixedWidth 4 e.x + fixedWidth 4 e.y + fixedWidth 4 e.z + 6
  | .arcOffsets v => fixedWidth 4 v.x + fixedWidth 4 v.y + fixedWidth 4 v.z + 6
  | .feedRate f trailingBlank => fixedWidth 1 f + 1 + (if trailingBlank then 1 else 0)

/-- `ptr - buf` before each call of the chain, and after the last. -/
def textOffsets (conversions : List (Conversion K)) : List ℕ :=
  conversions.scanl (fun offset conversion => offset + conversion.reportedLength) 0

/-- `ptr - buf` after the whole chain. -/
def textLength (conversions : List (Conversion K)) : ℕ :=
  (conversions.map Conversion.reportedLength).sum

/-- The size a call at offset `offset` of a 256-byte buffer receives:
`sizeof(buf) - (ptr - buf)`, computed as a 32-bit `size_t`. -/
def sizeArgument (offset : ℕ) : UInt32 := 256 - UInt32.ofNat offset

theorem roundHalfEven_intCast (z : ℤ) : roundHalfEven (z : K) = z := by
  simp [roundHalfEven]

/-- Rounding never passes a whole bound of the value rounded. -/
theorem roundHalfEven_le_of_le {t : K} {z : ℤ} (h : t ≤ z) : roundHalfEven t ≤ z := by
  have hf : ⌊t⌋ ≤ z := by simpa only [Int.floor_intCast] using Int.floor_mono h
  dsimp only [roundHalfEven]
  rcases hf.lt_or_eq with hlt | rfl
  · split_ifs <;> omega
  · have hfrac : t - ⌊t⌋ < 1 / 2 := by linarith
    rw [if_pos hfrac]

/-- A whole number prints its own digits, then the point and the decimals. -/
theorem fixedWidth_natCast (precision n : ℕ) :
    fixedWidth precision (n : K) =
      (Nat.repr n).length + (if precision = 0 then 0 else precision + 1) := by
  have hscaled : |(n : K)| * 10 ^ precision = ((n * 10 ^ precision : ℕ) : ℤ) := by
    rw [abs_of_nonneg (Nat.cast_nonneg n)]
    push_cast
    rfl
  have hsign : ¬ (n : K) < 0 := not_lt.mpr (Nat.cast_nonneg n)
  simp only [fixedWidth, hscaled, roundHalfEven_intCast, Int.toNat_natCast,
    Nat.mul_div_cancel _ (Nat.pos_pow_of_pos precision (by decide : 0 < 10)), hsign, if_false,
    zero_add]

theorem fixedWidth_zero (precision : ℕ) :
    fixedWidth precision (0 : K) = 1 + (if precision = 0 then 0 else precision + 1) := by
  simpa using fixedWidth_natCast (K := K) precision 0

theorem fixedWidth_ofNat (precision n : ℕ) [n.AtLeastTwo] :
    fixedWidth precision (no_index (OfNat.ofNat n : K)) =
      (Nat.repr n).length + (if precision = 0 then 0 else precision + 1) := by
  rw [← fixedWidth_natCast (K := K)]
  rfl

/-- A value of at most `d` digits before the point prints at most `d` of them,
even after rounding. -/
theorem fixedWidth_le (precision : ℕ) {d : ℕ} (hd : 0 < d) {x : K} (hx : |x| ≤ 10 ^ d - 1) :
    fixedWidth precision x ≤ 1 + d + (if precision = 0 then 0 else precision + 1) := by
  have hpow : 0 < 10 ^ precision := Nat.pos_pow_of_pos precision (by decide)
  have hscaled : |x| * 10 ^ precision ≤ (((10 ^ d - 1) * 10 ^ precision : ℕ) : ℤ) := by
    push_cast [Nat.one_le_pow d 10 (by decide)]
    exact mul_le_mul_of_nonneg_right hx (by positivity)
  have hdigits : (roundHalfEven (|x| * 10 ^ precision)).toNat / 10 ^ precision < 10 ^ d :=
    calc _ ≤ (10 ^ d - 1) * 10 ^ precision / 10 ^ precision :=
          Nat.div_le_div_right (Int.toNat_le.mpr (roundHalfEven_le_of_le hscaled))
      _ = 10 ^ d - 1 := Nat.mul_div_cancel _ hpow
      _ < 10 ^ d := Nat.sub_lt (Nat.pos_pow_of_pos d (by decide)) one_pos
  have hlength := Nat.repr_length _ d hd hdigits
  dsimp only [fixedWidth]
  split_ifs <;> omega

theorem le_of_mem_scanl {conversions : List (Conversion K)} {start offset : ℕ}
    (h : offset ∈ conversions.scanl (fun offset conversion => offset + conversion.reportedLength)
      start) :
    offset ≤ start + textLength conversions := by
  induction conversions generalizing start with
  | nil => simp_all [textLength]
  | cons conversion conversions ih =>
    rw [List.scanl_cons, List.singleton_append, List.mem_cons] at h
    rcases h with rfl | h
    · exact Nat.le_add_right _ _
    · have hrest := ih h
      simp only [textLength, List.map_cons, List.sum_cons] at hrest ⊢
      omega

/-- The offsets only grow: every one is at most the length of the whole text. -/
theorem le_textLength_of_mem_textOffsets {conversions : List (Conversion K)} {offset : ℕ}
    (h : offset ∈ textOffsets conversions) : offset ≤ textLength conversions := by
  simpa using le_of_mem_scanl h

/-- The chain reaches the `Gcode` constructor whole: with its terminator it fits
`char cmd_buffer[256]`.  A longer chain is cut at byte 255, or written past the
end once `ptr` has passed it. -/
def Command.Fits (command : Command K) : Prop :=
  textLength command.conversions ≤ 255

instance (command : Command K) : Decidable command.Fits := Nat.decLe _ _

end CutterCompensation
