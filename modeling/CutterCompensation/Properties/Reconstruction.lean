import CutterCompensation.Engine.Snprintf
import CutterCompensation.Properties.Lines
import CutterCompensation.Buffer.Queue

/-!
# Rebuilding commands and the compensated tracker

`get_compensated_gcode` rebuilds every command, motion or not, from the same
`snprintf` chain: an optional `G`, the slot's X/Y/Z, I/J/K for an arc and `F`
with one decimal.  A command that is not a motion keeps none of its words but
`F`, and it receives the X/Y/Z its slot last held.  The same stale endpoint
becomes `compensated_position`, which `get_compensated_gcode` overwrites on
every emission.
-/

namespace CutterCompensation

namespace CompensationPreprocessor

section Letters

variable {K : Type} [LinearOrderedField K] [Sqrtf K]

/-- The words of every command the engine emits whose text fits `cmd_buffer`, in
every reachable state: `G` with the original code when it has one, `X Y Z`,
`I J K` for an arc move, `F` with the original feed rate to one decimal when it
has one, and no other; the stream is the original's. -/
theorem emitted_letters [FloorRing K] {s : CompensationPreprocessor K} (hs : s.Reachable)
    {command : Command K} (hemit : s.getCompensatedGcode.1 = some command) :
    command.Fits → ∃ gcode : Gcode K, (s.buffer s.bufferTail).gcode = some gcode ∧
      command.stream = gcode.stream ∧
      command.words.map (·.1) =
        (if gcode.hasG then ['G'] else []) ++ ['X', 'Y', 'Z'] ++
          (if gcode.isMotion && gcode.isArc then ['I', 'J', 'K'] else []) ++
          (if gcode.hasLetter 'F' then ['F'] else []) ∧
      (gcode.hasG = true → command.findWord 'G' = some ((gcode.g : K), none)) ∧
      command.findWord 'F' =
        if gcode.hasLetter 'F' then some (gcode.getValue 'F', some 1) else none := by
  intro _
  rw [getCompensatedGcode_fst] at hemit
  split_ifs at hemit with hgate
  have hcount : s.bufferCount ≠ 0 := fun h0 => hgate (.inl h0)
  obtain ⟨e, ijk, ht⟩ := resolveTail_eq s
  simp only [ht, Function.update_same, Option.map_eq_some'] at hemit
  obtain ⟨gcode, hg, rfl⟩ := hemit
  obtain ⟨c, hc, -, hijk, -⟩ := hs.wellFormed.extracted_tail hcount
  rw [hg, Option.some.injEq] at hc
  subst hc
  exact ⟨gcode, hg, rfl, by rw [rebuild_letters, hijk], rebuild_findWord_G gcode _,
    rebuild_findWord_F gcode _⟩

end Letters

/-- The first command of the G41 corner run, `G1 X3 Y0 Z0`, 27 characters. -/
theorem emitted_letters_leftCorner :
    let s := ((new (fun _ => default) false : CompensationPreprocessor ℚ).run leftCornerCalls).2
    let command : Command ℚ := ⟨[.motionCode 1, .axes ⟨3, 0, 0⟩], 0⟩
    command.Fits ∧ ∃ gcode : Gcode ℚ, (s.buffer s.bufferTail).gcode = some gcode ∧
      command.stream = gcode.stream ∧
      command.words.map (·.1) =
        (if gcode.hasG then ['G'] else []) ++ ['X', 'Y', 'Z'] ++
          (if gcode.isMotion && gcode.isArc then ['I', 'J', 'K'] else []) ++
          (if gcode.hasLetter 'F' then ['F'] else []) ∧
      (gcode.hasG = true → command.findWord 'G' = some ((gcode.g : ℚ), none)) ∧
      command.findWord 'F' =
        if gcode.hasLetter 'F' then some (gcode.getValue 'F', some 1) else none := by
  have hfits : (⟨[.motionCode 1, .axes ⟨3, 0, 0⟩], 0⟩ : Command ℚ).Fits := by
    simp [Command.Fits, textLength, Conversion.reportedLength, fixedWidth_ofNat, fixedWidth_zero]
    decide
  exact ⟨hfits,
    emitted_letters (Reachable.run (.new _ _) leftCornerCalls) (leftCorner_first _ _) hfits⟩

/-- `M3 S1000`: spindle on, no G code and no axis word. -/
def spindleOn : Gcode ℚ := ⟨false, 0, true, 3, [('S', 1000)], 0⟩

/-- From the constructor, `M3 S1000` is buffered and extracted at once under G40:
the engine emits `X Y Z` with whatever slot 0's endpoint held, and neither
`M3` nor `S1000`. -/
theorem nonMotion_loses_words (garbage : Fin bufferSize → BufferedGcode ℚ) (flushing : Bool) :
    Reply.emittedCommands ((new garbage flushing).run
        [.bufferGcode spindleOn, .getCompensatedGcode]).1 =
      [⟨[.axes (garbage 0).endpoint], 0⟩] ∧
    (Command.findWord ⟨[.axes (garbage 0).endpoint], 0⟩ 'M' : Option (ℚ × Option ℕ)) = none ∧
    (Command.findWord ⟨[.axes (garbage 0).endpoint], 0⟩ 'S' : Option (ℚ × Option ℕ)) = none := by
  refine ⟨?_, by simp [Command.findWord, Command.words, Conversion.words],
    by simp [Command.findWord, Command.words, Conversion.words]⟩
  simp [run, step, new, bufferGcode, bufferHasSpace, cloneAndExtract, spindleOn, Gcode.isMotion,
    Gcode.hasLetter, bufferNextIndex, Function.update_apply, bufferSize, Reply.emittedCommands,
    getCompensatedGcode_of_passthrough, rebuild, commandText]

/-- G1 to `(5,0)` is emitted, the position is reset to the origin and the
buffer cleared, then `M3 S1000` lands in the slot the move left. -/
def staleSlotCalls : List (Op ℚ) :=
  [.setCompensation .none 0, .bufferGcode (feedMove 5 0), .getCompensatedGcode,
    .setInitialPosition ⟨0, 0, 0⟩, .setCompensation .none 0, .bufferGcode spindleOn,
    .getCompensatedGcode]

/-- After `staleSlotCalls` no motion has been emitted since the position was set
to the origin, yet `compensated_position` is `(5,0,0)`: emitting `M3` copied the
endpoint its slot kept from the earlier move. -/
theorem compensatedPosition_from_stale_slot (garbage : Fin bufferSize → BufferedGcode ℚ)
    (flushing : Bool) :
    ((new garbage flushing).run staleSlotCalls).2.compensatedPosition = ⟨5, 0, 0⟩ ∧
    Reply.emittedCommands ((new garbage flushing).run staleSlotCalls).1 =
      [⟨[.motionCode 1, .axes ⟨5, 0, 0⟩], 0⟩, ⟨[.axes ⟨5, 0, 0⟩], 0⟩] := by
  simp [staleSlotCalls, run, step, new, clear, flush, setInitialPosition, bufferGcode,
    bufferHasSpace, cloneAndExtract, feedMove, spindleOn, Gcode.isMotion, Gcode.isArc,
    Gcode.valueOr, Gcode.hasLetter, Gcode.getValue, bufferNextIndex, Function.update_apply,
    bufferSize, Reply.emittedCommands, getCompensatedGcode_of_passthrough, resolveTail, rebuild,
    commandText]

end CompensationPreprocessor

end CutterCompensation
