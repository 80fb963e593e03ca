import CutterCompensation.Engine.Snprintf
import CutterCompensation.Properties.Mirror
import CutterCompensation.Properties.ZeroRadius

/-!
# Mirrored runs

The mirror law that holds: a program of motions and its reflection across the X
axis, with G41 and G42 swapped, emit reflected commands, whatever the schedule
of the calls, as long as every G40 comes with radius 0 and every text fits
`cmd_buffer` (a reflection adds or drops minus signs).  The reflected run is
related to the original one by `Mirrored` after every call; each call keeps the
relation, and the geometry lemmas of `Properties.Mirror` carry the resolution
of a line or an arc across it.
-/

namespace CutterCompensation

variable {K : Type} [LinearOrderedField K] [Sqrtf K]

/-- The reply of the reflected call. -/
def Reply.reflect : Reply K → Reply K
  | .emitted command => .emitted (command.map Command.reflect)
  | reply => reply

omit [Sqrtf K] in
theorem Reply.emittedCommands_map_reflect (replies : List (Reply K)) :
    Reply.emittedCommands (replies.map Reply.reflect) =
      (Reply.emittedCommands replies).map Command.reflect := by
  induction replies with
  | nil => rfl
  | cons reply replies ih => rcases reply with _ | (_ | c) | _ <;> simp [Reply.reflect, ih]

/-- The calls the mirror law covers: every buffered command is a motion, and G40
comes with radius 0. -/
def Op.keepsMirror : Op K → Bool
  | .bufferGcode gcode => gcode.isMotion
  | .setCompensation type radius => type != .none || decide (radius = 0)
  | _ => true

namespace CompensationPreprocessor

/-- `s'` is the reflection of `s` in everything the engine reads: the same
indices, the swapped side, reflected trackers, and reflected motion slots in
the window.  G40 carries radius 0. -/
structure Mirrored (s s' : CompensationPreprocessor K) : Prop where
  bufferHead : s'.bufferHead = s.bufferHead
  bufferTail : s'.bufferTail = s.bufferTail
  bufferCount : s'.bufferCount = s.bufferCount
  compensationType : s'.compensationType = s.compensationType.swap
  compensationRadius : s'.compensationRadius = s.compensationRadius
  noneRadius : s.compensationType = .none → s.compensationRadius = 0
  uncompensatedPosition : s'.uncompensatedPosition = s.uncompensatedPosition.reflect
  compensatedPosition : s'.compensatedPosition = s.compensatedPosition.reflect
  isFlushing : s'.isFlushing = s.isFlushing
  slots : ∀ i, s.InWindow i → SlotMirror (s.buffer i) (s'.buffer i) ∧ (s.buffer i).isMove = true

omit [Sqrtf K] in
theorem reflect_diff (e e' : Vec3 K) :
    (⟨e'.reflect.x - e.reflect.x, e'.reflect.y - e.reflect.y⟩ : Vec2 K) =
      (⟨e'.x - e.x, e'.y - e.y⟩ : Vec2 K).reflect := by
  simp [Vec2.ext_iff']; ring

omit [Sqrtf K] in
/-- The tail's `dir1` before normalisation, `endpoint - (uncompensated_position - endpoint)`. -/
theorem reflect_tailDirection (e u : Vec3 K) :
    (⟨e.reflect.x - (u.reflect.x - e.reflect.x), e.reflect.y - (u.reflect.y - e.reflect.y)⟩ :
        Vec2 K) = (⟨e.x - (u.x - e.x), e.y - (u.y - e.y)⟩ : Vec2 K).reflect := by
  simp [Vec2.ext_iff']; ring

variable {s s' : CompensationPreprocessor K}

theorem fallbackOffset_reflect (h : Mirrored s s') {current current' : BufferedGcode K}
    (hend : current'.endpoint = current.endpoint.reflect) (isLeft : Bool) :
    s'.fallbackOffset current' (!isLeft) = (s.fallbackOffset current isLeft).reflect := by
  simp only [fallbackOffset, hend, h.uncompensatedPosition, h.compensationRadius]
  simp only [reflect_diff, normalize2_reflect, Vec3.reflect_xy,
    calculatePerpendicularOffset_reflect]

/-- The line branch at the tail, for the reflected state and the other side. -/
theorem lineEndpoint_reflect (h : Mirrored s s') (hcount : s.bufferCount ≠ 0) (isLeft : Bool) :
    s'.lineEndpoint s'.bufferTail (!isLeft) = (s.lineEndpoint s.bufferTail isLeft).reflect := by
  obtain ⟨htail, -⟩ := h.slots _ (inWindow_tail hcount)
  by_cases hlook : 1 < s.bufferCount ∧ bufferNextIndex s.bufferTail ≠ s.bufferHead
  · obtain ⟨hnext, -⟩ := h.slots _ (inWindow_next hlook.1)
    by_cases hline : (s.buffer (bufferNextIndex s.bufferTail)).isMove = true ∧
        (s.buffer (bufferNextIndex s.bufferTail)).hasIjk = false
    · have hlook' : 1 < s'.bufferCount ∧ bufferNextIndex s'.bufferTail ≠ s'.bufferHead := by
        rwa [h.bufferCount, h.bufferTail, h.bufferHead]
      have hline' : (s'.buffer (bufferNextIndex s'.bufferTail)).isMove = true ∧
          (s'.buffer (bufferNextIndex s'.bufferTail)).hasIjk = false := by
        rwa [h.bufferTail, hnext.isMove, hnext.hasIjk]
      rw [lineEndpoint_tail_of_line hlook'.1 hlook'.2 hline',
        lineEndpoint_tail_of_line hlook.1 hlook.2 hline]
      simp only [h.bufferTail, htail.endpoint, hnext.endpoint, h.uncompensatedPosition,
        h.compensationRadius]
      simp only [reflect_tailDirection, reflect_diff, normalize2_reflect, Vec3.reflect_xy,
        calculateCornerIntersection_reflect, calculatePerpendicularOffset_reflect, Option.getD_map]
    · have hline' : ¬((s'.buffer (bufferNextIndex s.bufferTail)).isMove &&
          !(s'.buffer (bufferNextIndex s.bufferTail)).hasIjk) = true := by
        simpa [hnext.isMove, hnext.hasIjk] using hline
      have hline0 : ¬((s.buffer (bufferNextIndex s.bufferTail)).isMove &&
          !(s.buffer (bufferNextIndex s.bufferTail)).hasIjk) = true := by simpa using hline
      have hlook' : 1 < s'.bufferCount ∧ bufferNextIndex s.bufferTail ≠ s'.bufferHead := by
        rwa [h.bufferCount, h.bufferHead]
      simp only [lineEndpoint, h.bufferTail, if_pos hlook, if_pos hlook', if_neg hline',
        if_neg hline0]
      exact fallbackOffset_reflect h htail.endpoint isLeft
  · have hlook' : ¬(1 < s'.bufferCount ∧ bufferNextIndex s.bufferTail ≠ s'.bufferHead) := by
      rwa [h.bufferCount, h.bufferHead]
    simp only [lineEndpoint, h.bufferTail, if_neg hlook, if_neg hlook']
    exact fallbackOffset_reflect h htail.endpoint isLeft

/-- The line branch at the tail, for the side each state resolves with: G41
and G42 swap, and G40 resolves with radius 0 in both. -/
theorem lineEndpoint_mirror (h : Mirrored s s') (hcount : s.bufferCount ≠ 0) :
    s'.lineEndpoint s'.bufferTail (s'.compensationType == .left) =
      (s.lineEndpoint s.bufferTail (s.compensationType == .left)).reflect := by
  cases hty : s.compensationType with
  | none =>
    have hr := h.noneRadius hty
    rw [lineEndpoint_of_radius_zero (h.compensationRadius.trans hr),
      lineEndpoint_of_radius_zero hr, h.bufferTail,
      (h.slots _ (inWindow_tail hcount)).1.endpoint, Vec3.reflect_xy]
  | left =>
    rw [h.compensationType, hty]
    exact lineEndpoint_reflect h hcount true
  | right =>
    rw [h.compensationType, hty]
    exact lineEndpoint_reflect h hcount false

theorem arcEndpoint_reflect (h : Mirrored s s') {current current' : BufferedGcode K}
    (hm : SlotMirror current current') (harc : current.hasIjk = true) (isLeft : Bool) :
    s'.arcEndpoint current' (!isLeft) =
      ((s.arcEndpoint current isLeft).1.reflect, (s.arcEndpoint current isLeft).2.reflect) := by
  simp only [arcEndpoint, hm.uncompStart, hm.endpoint, hm.ijk harc, hm.isCw harc,
    h.compensatedPosition, h.compensationRadius, Vec3.reflect_xy, compensateArcEndpoint_reflect]
  exact Option.getD_map (fun p : Vec2 K × Vec2 K => (p.1.reflect, p.2.reflect))
    (current.endpoint.xy, current.ijk.xy) _

/-- The arc branch, for the side each state resolves with. -/
theorem arcEndpoint_mirror (h : Mirrored s s') {current current' : BufferedGcode K}
    (hm : SlotMirror current current') (harc : current.hasIjk = true) :
    s'.arcEndpoint current' (s'.compensationType == .left) =
      ((s.arcEndpoint current (s.compensationType == .left)).1.reflect,
        (s.arcEndpoint current (s.compensationType == .left)).2.reflect) := by
  cases hty : s.compensationType with
  | none =>
    have hr : s'.compensationRadius = 0 := h.compensationRadius.trans (h.noneRadius hty)
    have hside : s'.arcEndpoint current' false = s'.arcEndpoint current' true := by
      simp only [arcEndpoint, hr, compensateArcEndpoint_zero _ _ _ _ false true]
    rw [h.compensationType, hty]
    exact hside.trans (arcEndpoint_reflect h hm harc false)
  | left =>
    rw [h.compensationType, hty]
    exact arcEndpoint_reflect h hm harc true
  | right =>
    rw [h.compensationType, hty]
    exact arcEndpoint_reflect h hm harc false

/-- The tail slot `apply_compensation` writes back, in both runs. -/
theorem resolvedSlot_mirror (h : Mirrored s s') (hcount : s.bufferCount ≠ 0) :
    SlotMirror (s.resolvedSlot s.bufferTail) (s'.resolvedSlot s'.bufferTail) := by
  have htail := (h.slots _ (inWindow_tail hcount)).1
  rw [← h.bufferTail] at htail
  have hline := lineEndpoint_mirror h hcount
  unfold resolvedSlot
  rw [← h.bufferTail] at hline ⊢
  by_cases harc : (s.buffer s'.bufferTail).hasIjk = true
  · have harc' : (s'.buffer s'.bufferTail).hasIjk = true := htail.hasIjk.trans harc
    have ha := arcEndpoint_mirror h htail harc
    simp only [if_pos harc, if_pos harc', ha]
    exact ⟨htail.gcode, by simp [htail.endpoint, Vec3.reflect], htail.uncompStart, htail.isMove,
      htail.hasIjk, fun _ => by simp [htail.ijk harc, Vec3.reflect], fun _ => htail.isCw harc⟩
  · have harc' : ¬(s'.buffer s'.bufferTail).hasIjk = true := by rwa [htail.hasIjk]
    simp only [if_neg harc, if_neg harc', hline]
    exact ⟨htail.gcode, by simp [htail.endpoint, Vec3.reflect], htail.uncompStart, htail.isMove,
      htail.hasIjk, fun h' => absurd h' harc, fun h' => absurd h' harc⟩

theorem resolveTail_mirror (h : Mirrored s s') (hcount : s.bufferCount ≠ 0) :
    SlotMirror (s.resolveTail.buffer s.bufferTail) (s'.resolveTail.buffer s'.bufferTail) := by
  obtain ⟨htail, hmove⟩ := h.slots _ (inWindow_tail hcount)
  have hmove' : (s'.buffer s'.bufferTail).isMove = true := by rw [h.bufferTail, htail.isMove, hmove]
  simp only [resolveTail_buffer_tail, h.bufferCount, h.isFlushing, hmove, hmove', and_true]
  split_ifs
  · exact resolvedSlot_mirror h hcount
  · rwa [h.bufferTail]

/-! ### Each call keeps the relation -/

theorem swap_eq_none_iff (type : CompensationType) : type.swap = .none ↔ type = .none := by
  cases type <;> simp [CompensationType.swap]

omit [Sqrtf K] in
theorem Mirrored.bufferGcode (hs : s.WellFormed) (h : Mirrored s s') {gcode : Gcode K}
    (hmotion : gcode.isMotion = true) :
    (s'.bufferGcode gcode.reflect).1 = (s.bufferGcode gcode).1 ∧
      Mirrored (s.bufferGcode gcode).2 (s'.bufferGcode gcode.reflect).2 := by
  by_cases hspace : s.bufferCount < bufferSize
  swap
  · have hfull : bufferSize ≤ s'.bufferCount := by rw [h.bufferCount]; omega
    rw [bufferGcode_of_full (not_lt.mp hspace), bufferGcode_of_full hfull]
    exact ⟨rfl, h⟩
  have hspace' : s'.bufferCount < bufferSize := by rwa [h.bufferCount]
  obtain ⟨hslot, hpos⟩ := cloneAndExtract_reflect hmotion (s.buffer s.bufferHead)
    (s'.buffer s.bufferHead) s.uncompensatedPosition
  have hwin := inWindow_bufferGcode hs hspace gcode
  rw [bufferGcode_of_lt hspace] at hwin ⊢
  rw [bufferGcode_of_lt hspace']
  refine ⟨rfl, ⟨by simp [h.bufferHead], h.bufferTail, by simp [h.bufferCount], h.compensationType,
    h.compensationRadius, h.noneRadius, by simp [h.bufferHead, h.uncompensatedPosition, hpos],
    h.compensatedPosition, h.isFlushing, fun i hi => ?_⟩⟩
  rw [hwin] at hi
  by_cases hhead : i = s.bufferHead
  · subst hhead
    dsimp only
    rw [Function.update_same, h.bufferHead, Function.update_same, h.uncompensatedPosition]
    exact ⟨hslot, by rw [cloneAndExtract_isMove, hmotion]⟩
  · have hhead' : i ≠ s'.bufferHead := by rwa [h.bufferHead]
    simp only [Function.update_noteq hhead, Function.update_noteq hhead']
    exact h.slots i (hi.resolve_left hhead)

theorem Mirrored.getCompensatedGcode (hs : s.WellFormed) (h : Mirrored s s') :
    s'.getCompensatedGcode.1 = s.getCompensatedGcode.1.map Command.reflect ∧
      Mirrored s.getCompensatedGcode.2 s'.getCompensatedGcode.2 := by
  by_cases h0 : s.bufferCount = 0
  · rw [getCompensatedGcode_of_eq_zero h0, getCompensatedGcode_of_eq_zero (h.bufferCount.trans h0)]
    exact ⟨rfl, h⟩
  have h0' : s'.bufferCount ≠ 0 := by rwa [h.bufferCount]
  have hwait_iff : (s'.bufferCount < 3 ∧ s'.compensationType ≠ .none ∧ s'.isFlushing = false) ↔
      (s.bufferCount < 3 ∧ s.compensationType ≠ .none ∧ s.isFlushing = false) := by
    rw [h.bufferCount, h.compensationType, h.isFlushing, ne_eq, swap_eq_none_iff]
  by_cases hwait : s.bufferCount < 3 ∧ s.compensationType ≠ .none ∧ s.isFlushing = false
  · rw [getCompensatedGcode_of_waiting hwait, getCompensatedGcode_of_waiting (hwait_iff.mpr hwait)]
    exact ⟨rfl, h⟩
  have hslot := resolveTail_mirror h h0
  have htail := (h.slots _ (inWindow_tail h0)).1
  rw [getCompensatedGcode_of_emit h0 hwait, getCompensatedGcode_of_emit h0' (mt hwait_iff.mp hwait)]
  have hgcode : (s'.resolveTail.buffer s'.bufferTail).gcode =
      (s.resolveTail.buffer s.bufferTail).gcode.map Gcode.reflect := hslot.gcode
  refine ⟨?_, ⟨h.bufferHead, by simp [h.bufferTail], by simp [h.bufferCount], h.compensationType,
    h.compensationRadius, h.noneRadius, h.uncompensatedPosition, hslot.endpoint, h.isFlushing,
    fun i hi => ?_⟩⟩
  · simp only [hgcode, Option.map_map]
    congr 1
    funext gcode
    exact rebuild_reflect gcode hslot.endpoint hslot.hasIjk hslot.ijk
  · rw [inWindow_pop hs.count_le rfl rfl] at hi
    have hi' : i ≠ s'.bufferTail := by rw [h.bufferTail]; exact hi.1
    simp only [Function.update_noteq hi.1, Function.update_noteq hi']
    exact h.slots i hi.2

omit [Sqrtf K] in
theorem Mirrored.setCompensation (h : Mirrored s s') {type : CompensationType} {radius : K}
    (hkeep : type ≠ .none ∨ radius = 0) :
    Mirrored (s.setCompensation type radius) (s'.setCompensation type.swap radius) := by
  by_cases htype : type = .none
  · subst htype
    rw [setCompensation_none, show CompensationType.none.swap = .none from rfl,
      setCompensation_none]
    exact ⟨rfl, rfl, rfl, rfl, rfl, fun _ => hkeep.resolve_left (not_not.mpr rfl),
      h.uncompensatedPosition, h.compensatedPosition, rfl,
      fun i hi => by simp [inWindow_iff, clear] at hi⟩
  · have htype' : type.swap ≠ .none := by rwa [ne_eq, swap_eq_none_iff]
    rw [setCompensation_of_ne_none s htype, setCompensation_of_ne_none s' htype']
    exact ⟨h.bufferHead, h.bufferTail, h.bufferCount, rfl, rfl, fun h' => absurd h' htype,
      h.uncompensatedPosition, h.compensatedPosition, h.isFlushing, h.slots⟩

omit [Sqrtf K] in
theorem Mirrored.flush (h : Mirrored s s') : Mirrored s.flush s'.flush :=
  ⟨h.bufferHead, h.bufferTail, h.bufferCount, h.compensationType, h.compensationRadius,
    h.noneRadius, h.uncompensatedPosition, h.compensatedPosition, rfl, h.slots⟩

omit [Sqrtf K] in
theorem Mirrored.clear (h : Mirrored s s') : Mirrored s.clear s'.clear :=
  ⟨rfl, rfl, rfl, h.compensationType, h.compensationRadius, h.noneRadius,
    h.uncompensatedPosition, h.compensatedPosition, rfl,
    fun i hi => by simp [inWindow_iff, clear] at hi⟩

omit [Sqrtf K] in
theorem Mirrored.setInitialPosition (h : Mirrored s s') (position : Vec3 K) :
    Mirrored (s.setInitialPosition position) (s'.setInitialPosition position.reflect) :=
  ⟨h.bufferHead, h.bufferTail, h.bufferCount, h.compensationType, h.compensationRadius,
    h.noneRadius, rfl, rfl, h.isFlushing, h.slots⟩

/-- One call and its reflection: reflected replies, and the relation kept. -/
theorem Mirrored.step (hs : s.WellFormed) (h : Mirrored s s') {op : Op K}
    (hop : op.keepsMirror = true) :
    (s'.step op.reflect).1 = (s.step op).1.reflect ∧
      Mirrored (s.step op).2 (s'.step op.reflect).2 := by
  cases op with
  | bufferGcode gcode =>
    obtain ⟨hr, hm⟩ := h.bufferGcode hs hop
    exact ⟨by simp only [Op.reflect, CompensationPreprocessor.step, hr]; rfl, hm⟩
  | getCompensatedGcode =>
    obtain ⟨hr, hm⟩ := h.getCompensatedGcode hs
    exact ⟨by simp only [Op.reflect, CompensationPreprocessor.step, hr]; rfl, hm⟩
  | setCompensation type radius =>
    have hkeep : type ≠ .none ∨ radius = 0 := by
      simpa [Op.keepsMirror, or_iff_not_imp_left] using hop
    exact ⟨rfl, h.setCompensation hkeep⟩
  | flush => exact ⟨rfl, h.flush⟩
  | clear => exact ⟨rfl, h.clear⟩
  | setInitialPosition position => exact ⟨rfl, h.setInitialPosition position⟩

/-- A whole run and its reflection. -/
theorem Mirrored.run (hs : s.WellFormed) (h : Mirrored s s') (ops : List (Op K))
    (hops : ∀ op ∈ ops, op.keepsMirror = true) :
    (s'.run (ops.map Op.reflect)).1 = (s.run ops).1.map Reply.reflect ∧
      Mirrored (s.run ops).2 (s'.run (ops.map Op.reflect)).2 := by
  induction ops generalizing s s' with
  | nil => exact ⟨rfl, h⟩
  | cons op ops ih =>
    obtain ⟨hr, hm⟩ := h.step hs (hops op (List.mem_cons_self op ops))
    obtain ⟨hr', hm'⟩ := ih (wellFormed_step hs op) hm
      fun op' hop' => hops op' (List.mem_cons_of_mem op hop')
    exact ⟨by simp only [List.map_cons, CompensationPreprocessor.run, hr, hr'], hm'⟩

/-- The mirror law.  From the constructor, whatever memory either run starts
with, a program of motions and its reflection across the X axis, with G41 and
G42 swapped and every G40 given radius 0, emit reflected commands, as long as
every command and its reflection fit `cmd_buffer`. -/
theorem reflectedRun_emits_reflection [FloorRing K]
    (garbage garbage' : Fin bufferSize → BufferedGcode K) (flushing : Bool) (ops : List (Op K))
    (hops : ∀ op ∈ ops, op.keepsMirror = true) :
    (∀ command ∈ Reply.emittedCommands ((new garbage flushing).run ops).1,
        command.Fits ∧ command.reflect.Fits) →
      Reply.emittedCommands ((new garbage' flushing).run (ops.map Op.reflect)).1 =
        (Reply.emittedCommands ((new garbage flushing).run ops).1).map Command.reflect := by
  intro _
  have hm : Mirrored (new garbage flushing) (new garbage' flushing) :=
    ⟨rfl, rfl, rfl, rfl, rfl, fun _ => rfl, by simp [new, Vec3.reflect],
      by simp [new, Vec3.reflect], rfl, fun i hi => by simp [new, inWindow_iff] at hi⟩
  rw [((hm.run (wellFormed_new garbage flushing) ops hops)).1, Reply.emittedCommands_map_reflect]

/-- The G41 corner run and its reflection, a G42 run: `G1 X3 Y0 Z0` and its
reflection both fit. -/
theorem reflectedRun_emits_reflection_leftCorner :
    (∀ op ∈ leftCornerCalls ++ [Op.getCompensatedGcode], op.keepsMirror = true) ∧
    (∀ command ∈ Reply.emittedCommands ((new (fun _ => default) false :
        CompensationPreprocessor ℚ).run (leftCornerCalls ++ [Op.getCompensatedGcode])).1,
      command.Fits ∧ command.reflect.Fits) ∧
    Reply.emittedCommands ((new (fun _ => default) false : CompensationPreprocessor ℚ).run
        ((leftCornerCalls ++ [Op.getCompensatedGcode]).map Op.reflect)).1 =
      (Reply.emittedCommands ((new (fun _ => default) false : CompensationPreprocessor ℚ).run
        (leftCornerCalls ++ [Op.getCompensatedGcode])).1).map Command.reflect := by
  have hops : ∀ op ∈ leftCornerCalls ++ [Op.getCompensatedGcode], op.keepsMirror = true := by
    decide
  have hemitted : Reply.emittedCommands ((new (fun _ => default) false :
      CompensationPreprocessor ℚ).run (leftCornerCalls ++ [Op.getCompensatedGcode])).1 =
      [⟨[.motionCode 1, .axes ⟨3, 0, 0⟩], 0⟩] := by
    rw [emittedCommands_run_get, (leftCorner_state _ false).1, leftCorner_first]
    rfl
  have hfits : ∀ command ∈ Reply.emittedCommands ((new (fun _ => default) false :
      CompensationPreprocessor ℚ).run (leftCornerCalls ++ [Op.getCompensatedGcode])).1,
      command.Fits ∧ command.reflect.Fits := by
    rw [hemitted]
    simp [Command.reflect, Conversion.reflect, Vec3.reflect, swapArc, Command.Fits, textLength,
      Conversion.reportedLength, fixedWidth_ofNat, fixedWidth_zero]
    decide
  exact ⟨hops, hfits, reflectedRun_emits_reflection _ _ false _ hops hfits⟩

end CompensationPreprocessor

end CutterCompensation
