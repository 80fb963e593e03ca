import CutterCompensation.Engine.Snprintf
import CutterCompensation.Properties.Lines

/-!
# The rebuilt text and its 256-byte buffer

`get_compensated_gcode` and `modify_gcode_coordinates` both write their chain
into a 256-byte array and pass each call `sizeof(buf) - (ptr - buf)`.  The text
fits when every printed value has at most 28 digits before the point and the
motion code at most three: the whole chain is then at most 254 characters
(`commandText_fits`).  A float can have 39: from `2^127` up the chain passes the
end of the buffer, and the next size wraps as a 32-bit `size_t`
(`rebuiltText_overruns_buffer`).
-/

namespace CutterCompensation

namespace CompensationPreprocessor

variable {K : Type} [LinearOrderedField K] [FloorRing K]

/-- The length of the chain: one term per call it makes. -/
theorem textLength_commandText (gcode : Gcode K) (endpoint ijk : Vec3 K)
    (hasIjk feedBlank : Bool) :
    textLength (commandText gcode endpoint ijk hasIjk feedBlank) =
      (if gcode.hasG then (Conversion.motionCode (K := K) gcode.g).reportedLength else 0) +
        (Conversion.axes endpoint).reportedLength +
        (if hasIjk then (Conversion.arcOffsets ijk).reportedLength else 0) +
        (if gcode.hasLetter 'F' then
          (Conversion.feedRate (gcode.getValue 'F') feedBlank).reportedLength else 0) := by
  simp only [textLength, commandText]
  split_ifs <;> simp <;> omega

/-- Both chains stay within their buffer, terminator included, when the motion
code has at most three digits and the three axes, I/J/K and the feed rate each
have at most 28 digits before the point. -/
theorem commandText_fits (gcode : Gcode K) (endpoint ijk : Vec3 K) (hasIjk feedBlank : Bool)
    (hg : gcode.g < 1000)
    (hvalues : ∀ x ∈ [endpoint.x, endpoint.y, endpoint.z, ijk.x, ijk.y, ijk.z, gcode.getValue 'F'],
      |x| ≤ 10 ^ 28 - 1) :
    ∀ offset ∈ textOffsets (commandText gcode endpoint ijk hasIjk feedBlank), offset ≤ 255 := by
  simp only [List.mem_cons, List.not_mem_nil, or_false, forall_eq_or_imp, forall_eq] at hvalues
  obtain ⟨hx, hy, hz, hi, hj, hk, hf⟩ := hvalues
  have width4 : ∀ {x : K}, |x| ≤ 10 ^ 28 - 1 → fixedWidth 4 x ≤ 34 :=
    fun h => fixedWidth_le 4 (by decide : 0 < 28) h
  have width1 : fixedWidth 1 (gcode.getValue 'F') ≤ 31 := fixedWidth_le 1 (by decide : 0 < 28) hf
  have hdigits := Nat.repr_length gcode.g 3 (by decide) hg
  have htotal : textLength (commandText gcode endpoint ijk hasIjk feedBlank) ≤ 254 := by
    rw [textLength_commandText]
    have := width4 hx; have := width4 hy; have := width4 hz
    have := width4 hi; have := width4 hj; have := width4 hk
    simp only [Conversion.reportedLength]
    split_ifs <;> omega
  exact fun offset h => (le_textLength_of_mem_textOffsets h).trans (by omega)

/-- A G1 to `(2,0)` rebuilt with I/J/K and the trailing blank fits. -/
theorem commandText_fits_feedMove :
    (feedMove 2 0).g < 1000 ∧
      (∀ x ∈ [2, 0, 0, 0, 0, 0, (feedMove 2 0).getValue 'F'], |x| ≤ (10 : ℚ) ^ 28 - 1) ∧
      ∀ offset ∈ textOffsets (commandText (feedMove 2 0) ⟨2, 0, 0⟩ ⟨0, 0, 0⟩ true true),
        offset ≤ 255 := by
  have hvalues : ∀ x ∈ [2, 0, 0, 0, 0, 0, (feedMove 2 0).getValue 'F'],
      |x| ≤ (10 : ℚ) ^ 28 - 1 := by
    simp [feedMove, Gcode.getValue]
    norm_num
  exact ⟨by decide, hvalues, commandText_fits _ ⟨2, 0, 0⟩ ⟨0, 0, 0⟩ _ _ (by decide) hvalues⟩

/-- `2^127`, the largest power of two below `FLT_MAX`, on every axis. -/
def hugeEndpoint : Vec3 ℚ := ⟨(2 ^ 127 : ℕ), (2 ^ 127 : ℕ), (2 ^ 127 : ℕ)⟩

/-- Center offsets `2^126` in X and Y, `2^127` in K. -/
def hugeIjk : Vec3 ℚ := ⟨(2 ^ 126 : ℕ), (2 ^ 126 : ℕ), (2 ^ 127 : ℕ)⟩

/-- G2 from the origin to `hugeEndpoint` about `(2^126, 2^126)`, at F1000: a
half circle, every value an exact binary32 float. -/
def hugeArc : Gcode ℚ :=
  ⟨true, 2, false, 0, [('X', hugeEndpoint.x), ('Y', hugeEndpoint.y), ('Z', hugeEndpoint.z),
    ('I', hugeIjk.x), ('J', hugeIjk.y), ('K', hugeIjk.z), ('F', 1000)], 0⟩

/-- G40, then the arc, extracted at once. -/
def hugeArcCalls : List (Op ℚ) :=
  [.setCompensation .none 0, .bufferGcode hugeArc, .getCompensatedGcode]

theorem hugeArc_emitted (garbage : Fin bufferSize → BufferedGcode ℚ) (flushing : Bool) :
    Reply.emittedCommands ((new garbage flushing).run hugeArcCalls).1 =
      [⟨[.motionCode 2, .axes hugeEndpoint, .arcOffsets hugeIjk, .feedRate 1000 false], 0⟩] := by
  simp [hugeArcCalls, run, step, new, clear, flush, setCompensation, bufferGcode,
    bufferHasSpace, cloneAndExtract, hugeArc, hugeEndpoint, hugeIjk, Gcode.isMotion, Gcode.isArc,
    Gcode.valueOr, Gcode.hasLetter, Gcode.getValue, bufferNextIndex, Function.update_apply,
    bufferSize, Reply.emittedCommands, getCompensatedGcode_of_passthrough, resolveTail, rebuild,
    commandText]

/-- `modify_gcode_coordinates` writes the same words, and the blank after F. -/
theorem hugeArc_modified :
    modifyGcodeCoordinates hugeArc hugeEndpoint hugeIjk true =
      [.motionCode 2, .axes hugeEndpoint, .arcOffsets hugeIjk, .feedRate 1000 true] := by
  simp [modifyGcodeCoordinates, commandText, hugeArc, Gcode.hasLetter, Gcode.getValue]

/-- `2^127` has 39 digits and `2^126` has 38. -/
theorem textOffsets_hugeArc (feedBlank : Bool) :
    textOffsets [.motionCode 2, .axes hugeEndpoint, .arcOffsets hugeIjk, .feedRate 1000 feedBlank] =
      [0, 3, 141, 277, 284 + if feedBlank then 1 else 0] := by
  cases feedBlank <;>
    simp only [textOffsets, List.scanl, Conversion.reportedLength, fixedWidth_natCast,
      fixedWidth_ofNat, hugeEndpoint, hugeIjk] <;>
    decide

/-- The arc passes through under G40 and is rebuilt with 39 digits before the
point for `2^127` and 38 for `2^126`: the offsets reach 277 after the I/J/K
call, past `cmd_buffer`, and the F call's size wraps to 4294967275.
`modify_gcode_coordinates` with the same values reaches 285. -/
theorem rebuiltText_overruns_buffer (garbage : Fin bufferSize → BufferedGcode ℚ)
    (flushing : Bool) :
    ∃ command, Reply.emittedCommands ((new garbage flushing).run hugeArcCalls).1 = [command] ∧
      textOffsets command.conversions = [0, 3, 141, 277, 284] ∧
      (textOffsets command.conversions).dropLast.map sizeArgument =
        [256, 253, 115, 4294967275] ∧
      textOffsets (modifyGcodeCoordinates hugeArc hugeEndpoint hugeIjk true) =
        [0, 3, 141, 277, 285] := by
  refine ⟨_, hugeArc_emitted garbage flushing, textOffsets_hugeArc false, ?_, ?_⟩
  · rw [textOffsets_hugeArc false]
    decide
  · rw [hugeArc_modified, textOffsets_hugeArc true]
    rfl

end CompensationPreprocessor

end CutterCompensation
