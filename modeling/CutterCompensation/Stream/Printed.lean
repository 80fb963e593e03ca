import CutterCompensation.Properties.Arcs
import CutterCompensation.Stream.Refinement

/-!
# Where the emitted text leaves the tool

`get_compensated_gcode` sets `compensated_position` to the endpoint of the slot
it rebuilds, and prints that same endpoint as the command's X, Y and Z.  So the
tracker on which `apply_compensation` re-bases the I/J of every arc is where the
emitted text has left the tool: the X, Y and Z printed by the last command the
engine emitted, or the position given to `set_initial_position` when that came
later.  The position is stated from a run's calls and replies alone
(`printedPosition`), and the engine follows it on every run.  Under G41 and G42
every arc is resolved before it leaves, with its I/J re-based on that tracker,
so the machine reading the emitted text draws each arc about the centre it was
programmed with.
-/

namespace CutterCompensation

variable {K : Type}

/-- The X, Y and Z a rebuilt command prints: the values of its
`"X%.4f Y%.4f Z%.4f "` call. -/
def Command.printedEndpoint (command : Command K) : Option (Vec3 K) :=
  command.conversions.findSome? fun conversion =>
    match conversion with
    | .axes endpoint => some endpoint
    | _ => none

/-- The I, J and K a rebuilt arc prints: the values of its
`"I%.4f J%.4f K%.4f "` call. -/
def Command.printedArcOffsets (command : Command K) : Option (Vec3 K) :=
  command.conversions.findSome? fun conversion =>
    match conversion with
    | .arcOffsets ijk => some ijk
    | _ => none

/-- Where the emitted text leaves the tool after one more call and its reply:
at the X, Y and Z of an emitted command, at the position `set_initial_position`
gives, and where it was otherwise. -/
def printedPosition (position : Vec3 K) : Op K × Reply K → Vec3 K
  | (_, .emitted (some command)) => command.printedEndpoint.getD position
  | (.setInitialPosition p, _) => p
  | _ => position

namespace CompensationPreprocessor

variable [LinearOrderedField K]

/-- A rebuilt command prints the slot's endpoint. -/
theorem printedEndpoint_rebuild (gcode : Gcode K) (slot : BufferedGcode K) :
    (rebuild gcode slot).printedEndpoint = some slot.endpoint := by
  simp only [Command.printedEndpoint, rebuild, commandText]
  split_ifs <;> simp

/-- A rebuilt arc prints the slot's I, J and K. -/
theorem printedArcOffsets_rebuild (gcode : Gcode K) {slot : BufferedGcode K}
    (harc : slot.hasIjk = true) : (rebuild gcode slot).printedArcOffsets = some slot.ijk := by
  simp only [Command.printedArcOffsets, rebuild, commandText, harc, if_true]
  split_ifs <;> simp

variable [Sqrtf K]

/-- Every call moves `compensated_position` as the printed position moves. -/
theorem compensatedPosition_step {s : CompensationPreprocessor K} (hs : s.WellFormed)
    (op : Op K) :
    (s.step op).2.compensatedPosition =
      printedPosition s.compensatedPosition (op, (s.step op).1) := by
  cases op with
  | bufferGcode gcode =>
    simp only [step, bufferGcode, printedPosition]
    split_ifs <;> rfl
  | getCompensatedGcode =>
    by_cases hgate : s.bufferCount = 0 ∨
        (s.bufferCount < 3 ∧ s.compensationType ≠ .none ∧ s.isFlushing = false)
    · have hnone : s.getCompensatedGcode = (none, s) := by
        rcases hgate with h0 | hwait
        · exact getCompensatedGcode_of_eq_zero h0
        · exact getCompensatedGcode_of_waiting hwait
      simp only [step, hnone, printedPosition]
    · rw [not_or] at hgate
      obtain ⟨gcode, hgcode, -⟩ := hs.extracted_tail hgate.1
      rw [← (resolveTail_tail_frame s).1] at hgcode
      simp only [step, getCompensatedGcode_of_emit hgate.1 hgate.2, hgcode, Option.map_some',
        printedPosition, printedEndpoint_rebuild, Option.getD_some]
  | setCompensation type radius =>
    by_cases htype : type = .none
    · subst htype
      simp [step, printedPosition, clear, flush]
    · simp [step, printedPosition, setCompensation_of_ne_none s htype]
  | flush => rfl
  | clear => rfl
  | setInitialPosition position => rfl

theorem compensatedPosition_run {s : CompensationPreprocessor K} (hs : s.WellFormed)
    (ops : List (Op K)) :
    (s.run ops).2.compensatedPosition =
      (ops.zip (s.run ops).1).foldl printedPosition s.compensatedPosition := by
  induction ops generalizing s with
  | nil => rfl
  | cons op ops ih =>
    rw [run, List.zip_cons_cons, List.foldl_cons, ← compensatedPosition_step hs op]
    exact ih (wellFormed_step hs op)

/-- `compensated_position`, on which every arc's I/J is re-based, is where the
emitted text has left the tool: on every run it is the X, Y and Z the last
emitted command printed, or a later `set_initial_position`, or the origin
before either. -/
theorem compensatedPosition_is_printed (garbage : Fin bufferSize → BufferedGcode K)
    (flushing : Bool) (ops : List (Op K)) :
    ((new garbage flushing).run ops).2.compensatedPosition =
      (ops.zip ((new garbage flushing).run ops).1).foldl printedPosition ⟨0, 0, 0⟩ :=
  compensatedPosition_run (wellFormed_new garbage flushing) ops

/-- One emitting call under G41 or G42 on an arc that holds its ledger entry:
the arc is resolved, and its printed I/J, taken from `compensated_position`,
point at the programmed centre, unless the arc is degenerate. -/
theorem getCompensatedGcode_arc_centre {s : CompensationPreprocessor K} {gcode : Gcode K}
    {start : Vec3 K} {command : Command K} (htype : s.compensationType ≠ .none)
    (hholds : Holds (s.buffer s.bufferTail) (gcode, start))
    (hemit : s.getCompensatedGcode.1 = some command)
    (harc : gcode.isMotion = true ∧ gcode.isArc = true)
    (hR : epsilon ≤ sqrtf ((programmedEndpoint gcode start).xy -
      (start.xy + ⟨gcode.valueOr 'I' 0, gcode.valueOr 'J' 0⟩)).normSq) :
    ∃ ijk, command.printedArcOffsets = some ijk ∧
      s.compensatedPosition.xy + ijk.xy =
        start.xy + ⟨gcode.valueOr 'I' 0, gcode.valueOr 'J' 0⟩ := by
  have hgate := getCompensatedGcode_open_of_some hemit
  have hresolve : 3 ≤ s.bufferCount ∨ s.isFlushing = true := by
    by_contra hcon
    push_neg at hcon
    exact hgate (.inr ⟨hcon.1, htype, by simpa using hcon.2⟩)
  obtain ⟨old, hslot⟩ := hholds
  have htail : (s.buffer s.bufferTail).gcode = some gcode ∧
      (s.buffer s.bufferTail).isMove = true ∧ (s.buffer s.bufferTail).hasIjk = true := by
    simp [hslot, harc]
  have hout := getCompensatedGcode_fst_of_arc (not_or.mp hgate).1 hresolve htail
  simp only [hemit, Option.some.injEq] at hout
  subst hout
  refine ⟨_, printedArcOffsets_rebuild gcode htail.2.2, ?_⟩
  have hR' : epsilon ≤ sqrtf ((s.buffer s.bufferTail).endpoint.xy -
      ((s.buffer s.bufferTail).uncompStart.xy + (s.buffer s.bufferTail).ijk.xy)).normSq := by
    rwa [hslot, cloneAndExtract_endpoint harc.1, cloneAndExtract_uncompStart harc.1,
      cloneAndExtract_ijk harc.1 _ _ harc.2]
  simp only [arcEndpoint, compensateArcEndpoint_eq_some hR', Option.getD_some]
  rw [hslot, cloneAndExtract_uncompStart harc.1, cloneAndExtract_ijk harc.1 _ _ harc.2]
  simp only [Vec2.ext_iff', Vec2.add_x, Vec2.add_y, Vec2.sub_x, Vec2.sub_y, Vec3.xy_x, Vec3.xy_y]
  constructor <;> ring

/-- Under G41 or G42 every arc is drawn about its programmed centre: on every
run, when the oldest queued command is emitted and is an arc of radius at least
`0.00001`, its printed I/J, taken from where the emitted text left the tool,
point at its start plus its own I and J. -/
theorem printedArc_about_programmedCentre (garbage : Fin bufferSize → BufferedGcode K)
    (flushing : Bool) (ops : List (Op K)) :
    let r := (new garbage flushing).run ops
    let l := (ops.zip r.1).foldl CommandLedger.after CommandLedger.init
    ∀ gcode start rest command, r.2.compensationType ≠ .none →
      l.queued = (gcode, start) :: rest → r.2.getCompensatedGcode.1 = some command →
      (gcode.isMotion = true ∧ gcode.isArc = true) →
      epsilon ≤ sqrtf ((programmedEndpoint gcode start).xy -
        (start.xy + ⟨gcode.valueOr 'I' 0, gcode.valueOr 'J' 0⟩)).normSq →
      ∃ ijk, command.printedArcOffsets = some ijk ∧
        ((ops.zip r.1).foldl printedPosition ⟨0, 0, 0⟩).xy + ijk.xy =
          start.xy + ⟨gcode.valueOr 'I' 0, gcode.valueOr 'J' 0⟩ := by
  intro r l gcode start rest command htype hqueued hemit harc hR
  have htracks := (ledger_of_run garbage flushing ops).2.1
  have h0 : r.2.bufferCount ≠ 0 := fun h => by
    rw [getCompensatedGcode_of_eq_zero h] at hemit
    cases hemit
  obtain ⟨pending, hp⟩ := pending_eq_cons h0
  have hqueue := htracks.queue
  rw [hp, hqueued] at hqueue
  have hprinted : (ops.zip r.1).foldl printedPosition ⟨0, 0, 0⟩ = r.2.compensatedPosition :=
    (compensatedPosition_run (wellFormed_new garbage flushing) ops).symm
  rw [hprinted]
  exact getCompensatedGcode_arc_centre htype (List.forall₂_cons.mp hqueue).1 hemit harc hR

/-- The half circle of `arcCalls` under G41, emitted during the flush: its
printed I/J, from the origin where the text left the tool, point at `(1,0)`. -/
theorem printedArc_about_programmedCentre_halfCircle :
    let r := (new (fun _ => default) false : CompensationPreprocessor ℚ).run arcCalls
    let l := (arcCalls.zip r.1).foldl CommandLedger.after CommandLedger.init
    ∃ command, r.2.compensationType ≠ .none ∧ l.queued = [(cwHalfCircle, ⟨0, 0, 0⟩)] ∧
      r.2.getCompensatedGcode.1 = some command ∧
      (cwHalfCircle.isMotion = true ∧ cwHalfCircle.isArc = true) ∧
      epsilon ≤ sqrtf ((programmedEndpoint cwHalfCircle ⟨0, 0, 0⟩).xy -
        ((⟨0, 0, 0⟩ : Vec3 ℚ).xy +
          ⟨cwHalfCircle.valueOr 'I' 0, cwHalfCircle.valueOr 'J' 0⟩)).normSq ∧
      ∃ ijk, command.printedArcOffsets = some ijk ∧
        ((arcCalls.zip r.1).foldl printedPosition ⟨0, 0, 0⟩).xy + ijk.xy =
          (⟨0, 0, 0⟩ : Vec3 ℚ).xy + ⟨cwHalfCircle.valueOr 'I' 0, cwHalfCircle.valueOr 'J' 0⟩ := by
  intro r l
  obtain ⟨-, hc, ht, hf, hty, -, -, hg, hm, hi, -⟩ := arc_state (fun _ => default) false
  have htype : r.2.compensationType ≠ .none := by rw [hty]; decide
  have hq : l.queued = [(cwHalfCircle, ⟨0, 0, 0⟩)] := by
    simp [l, r, arcCalls, run, step, new, flush, bufferGcode, bufferHasSpace, bufferSize,
      CommandLedger.after, CommandLedger.init]
  have hemit := getCompensatedGcode_fst_of_arc (s := r.2)
    (by rw [show r.2.bufferCount = 1 from hc]; decide) (.inr hf) (by rw [ht]; exact ⟨hg, hm, hi⟩)
  have harc : cwHalfCircle.isMotion = true ∧ cwHalfCircle.isArc = true := by decide
  have hR : epsilon ≤ sqrtf ((programmedEndpoint cwHalfCircle ⟨0, 0, 0⟩).xy -
      ((⟨0, 0, 0⟩ : Vec3 ℚ).xy +
        ⟨cwHalfCircle.valueOr 'I' 0, cwHalfCircle.valueOr 'J' 0⟩)).normSq := by
    have hend : programmedEndpoint cwHalfCircle ⟨0, 0, 0⟩ = ⟨2, 0, 0⟩ := by decide
    have hI : cwHalfCircle.valueOr 'I' 0 = 1 := by decide
    have hJ : cwHalfCircle.valueOr 'J' 0 = 0 := by decide
    rw [hend, hI, hJ]
    norm_num [Vec3.xy, Vec2.normSq, Vec2.dot, epsilon]
  exact ⟨_, htype, hq, hemit, harc, hR,
    printedArc_about_programmedCentre _ _ _ _ _ _ _ htype hq hemit harc hR⟩

end CompensationPreprocessor

end CutterCompensation
