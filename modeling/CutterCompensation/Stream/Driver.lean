import CutterCompensation.Properties.Reconstruction
import CutterCompensation.Stream.Refinement

/-!
# Feeding a program

The engine leaves the pumping to its caller: `get_compensated_gcode` returns
null while it waits for lookahead, and `flush()` only raises the flag the
caller's drain needs.  This module takes the caller that feeds a program one
command at a time, pumping once after each command, and ends with `flush()` and
two pumps.  Between its calls at most two commands wait, so `buffer_gcode` never
refuses, and at the end nothing is left: every command of the program comes
out exactly once and in order, as `apply_compensation` resolved its own clone,
in any mode and whatever memory the constructor left unassigned.  Under G40 the
same caller needs no flush: the lookahead never fills, and each command comes
back from the pump right after it, unresolved.  The last straight move of a program is
never offset, in any mode: `apply_compensation` takes its direction from
`uncompensated_position`, which is that move's own endpoint.
-/

namespace CutterCompensation

namespace CompensationPreprocessor

variable {K : Type}

/-- One command of the feed: buffer it, then pump once. -/
def feedStep (gcode : Gcode K) : List (Op K) :=
  [.bufferGcode gcode, .getCompensatedGcode]

/-- The caller's calls for `program`: each command fed with one pump, then
`flush()` and two pumps. -/
def feedCalls (program : List (Gcode K)) : List (Op K) :=
  program.flatMap feedStep ++ [.flush, .getCompensatedGcode, .getCompensatedGcode]

theorem lowersFlag_feedCalls (program : List (Gcode K)) :
    ∀ op ∈ feedCalls program, op.lowersFlag = false := by
  intro op hop
  simp only [feedCalls, feedStep, List.mem_append, List.mem_flatMap, List.mem_cons,
    List.mem_singleton, List.not_mem_nil, or_false] at hop
  rcases hop with ⟨_, -, rfl | rfl⟩ | rfl | rfl | rfl <;> rfl

variable [LinearOrderedField K] [Sqrtf K]

theorem wellFormed_run {s : CompensationPreprocessor K} (hs : s.WellFormed) (ops : List (Op K)) :
    (s.run ops).2.WellFormed := by
  induction ops generalizing s with
  | nil => exact hs
  | cons op ops ih => exact ih (wellFormed_step hs op)

/-- A pump never adds to the buffer, and with three commands or more waiting it
takes one. -/
theorem getCompensatedGcode_bufferCount {s : CompensationPreprocessor K} (hs : s.WellFormed) :
    s.getCompensatedGcode.2.bufferCount ≤ s.bufferCount ∧
      (3 ≤ s.bufferCount → s.getCompensatedGcode.2.bufferCount = s.bufferCount - 1) := by
  refine ⟨?_, fun h3 => (getCompensatedGcode_of_open hs (by omega)
    fun h => absurd h.1 (by omega)).choose_spec.2.2.2⟩
  rcases getCompensatedGcode_window hs with h | ⟨-, -, -, -, -, -, hcount⟩
  · rw [h]
  · omega

/-- With the flag raised every pump on a non-empty buffer takes one command. -/
theorem getCompensatedGcode_bufferCount_of_flushing {s : CompensationPreprocessor K}
    (hs : s.WellFormed) (hf : s.isFlushing = true) :
    s.getCompensatedGcode.2.bufferCount = s.bufferCount - 1 := by
  by_cases h0 : s.bufferCount = 0
  · rw [getCompensatedGcode_of_eq_zero h0, h0]
  · exact (getCompensatedGcode_of_flushing hs hf h0).choose_spec.2.2.2.2

/-- One feed step from at most two waiting commands: the command is accepted,
and after the pump at most two wait again. -/
theorem run_feedStep {s : CompensationPreprocessor K} (hs : s.WellFormed)
    (hcount : s.bufferCount ≤ 2) (gcode : Gcode K) :
    ∃ reply, (s.run (feedStep gcode)).1 = [.accepted true, reply] ∧
      (s.run (feedStep gcode)).2.bufferCount ≤ 2 := by
  have hspace : s.bufferCount < bufferSize := lt_of_le_of_lt hcount (by decide)
  have haccepted : (s.bufferGcode gcode).1 = true := by
    rw [bufferGcode_of_lt hspace]
  have hbuffered : (s.bufferGcode gcode).2.bufferCount = s.bufferCount + 1 := by
    rw [bufferGcode_of_lt hspace]
  obtain ⟨hle, hpop⟩ := getCompensatedGcode_bufferCount (wellFormed_bufferGcode hs gcode)
  refine ⟨.emitted (s.bufferGcode gcode).2.getCompensatedGcode.1,
    by simp only [feedStep, run, step, haccepted], ?_⟩
  simp only [feedStep, run, step]
  by_cases h3 : 3 ≤ (s.bufferGcode gcode).2.bufferCount
  · rw [hpop h3]
    omega
  · omega

/-- The feed of a whole program: every command is accepted, in order, and at
most two commands wait at the end. -/
theorem run_feed {s : CompensationPreprocessor K} {l : CommandLedger K} (hs : s.WellFormed)
    (hcount : s.bufferCount ≤ 2) (program : List (Gcode K)) :
    (((program.flatMap feedStep).zip (s.run (program.flatMap feedStep)).1).foldl
        CommandLedger.after l).accepted.map Prod.fst = l.accepted.map Prod.fst ++ program ∧
      (s.run (program.flatMap feedStep)).2.bufferCount ≤ 2 := by
  induction program generalizing s l with
  | nil => simpa [run] using hcount
  | cons gcode program ih =>
    obtain ⟨reply, hreplies, hcount'⟩ := run_feedStep hs hcount gcode
    obtain ⟨haccepted, hrest⟩ := ih (l := (l.after (.bufferGcode gcode, .accepted true)).after
      (.getCompensatedGcode, reply)) (wellFormed_run hs _) hcount'
    rw [List.flatMap_cons, run_append, hreplies, List.zip_append
      (show (feedStep gcode).length = ([.accepted true, reply] : List (Reply K)).length from rfl),
      List.foldl_append]
    exact ⟨by simpa [feedStep] using haccepted, hrest⟩

/-- `flush()` and two pumps empty a buffer holding at most two commands. -/
theorem run_flush_pump_twice {s : CompensationPreprocessor K} (hs : s.WellFormed)
    (hcount : s.bufferCount ≤ 2) :
    (s.run [.flush, .getCompensatedGcode, .getCompensatedGcode]).2.bufferCount = 0 := by
  have hs1 := wellFormed_step hs .flush
  have hf1 : (s.step .flush).2.isFlushing = true := rfl
  have hf2 := (getCompensatedGcode_isFlushing (s.step .flush).2).trans hf1
  have h2 := getCompensatedGcode_bufferCount_of_flushing hs1 hf1
  have h3 := getCompensatedGcode_bufferCount_of_flushing (wellFormed_getCompensatedGcode hs1) hf2
  simp only [run, step] at h2 h3 ⊢
  simp only [flush_bufferCount] at h2
  omega

/-- After one `set_compensation` from the constructor, calls without G40 or
`clear()` that leave the queue empty have handed back every command they
accepted, in order, each for its own entry. -/
theorem emittedFor_accepted_of_drained (garbage : Fin bufferSize → BufferedGcode K)
    (flushing : Bool) (type : CompensationType) (radius : K) (calls : List (Op K))
    (hcalls : ∀ op ∈ calls, op.lowersFlag = false) :
    let ops := .setCompensation type radius :: calls
    let r := (new garbage flushing).run ops
    let l := (ops.zip r.1).foldl CommandLedger.after CommandLedger.init
    r.2.pending = [] →
      List.Forall₂ EmittedFor ((new garbage flushing).emissions ops) l.accepted := by
  intro ops r l hpending
  obtain ⟨-, htracks, hbalanced, hfor⟩ := ledger_of_run garbage flushing ops
  let s0 := ((new garbage flushing).step (.setCompensation type radius)).2
  let l0 := CommandLedger.init.after (Op.setCompensation type radius, (Reply.done : Reply K))
  have hl : l = (calls.zip (s0.run calls).1).foldl CommandLedger.after l0 := rfl
  have hqueued : l.queued = [] := List.forall₂_nil_left_iff.mp (hpending ▸ htracks.queue)
  have hdropped : l.dropped = [] := by
    rw [hl, CommandLedger.dropped_foldl fun p hp => hcalls p.1 (List.of_mem_zip hp).1]
    cases type <;> rfl
  have hclosed := hbalanced.eq_of_dropped_nil hdropped
  rw [hqueued, List.append_nil] at hclosed
  exact hclosed ▸ hfor

/-- A program fed one command at a time, with one pump after each and `flush()`
and two pumps at the end, comes out whole: from the constructor, in any mode,
every command is accepted and handed back exactly once, in program order, as
`apply_compensation` resolved its own clone, and nothing stays buffered. -/
theorem fedProgram_emitted_whole (garbage : Fin bufferSize → BufferedGcode K) (flushing : Bool)
    (type : CompensationType) (radius : K) (program : List (Gcode K)) :
    let ops := .setCompensation type radius :: feedCalls program
    let r := (new garbage flushing).run ops
    let l := (ops.zip r.1).foldl CommandLedger.after CommandLedger.init
    l.accepted.map Prod.fst = program ∧
      List.Forall₂ EmittedFor ((new garbage flushing).emissions ops) l.accepted ∧
      r.2.pending = [] := by
  intro ops r l
  let s0 := ((new garbage flushing).step (.setCompensation type radius)).2
  let l0 := CommandLedger.init.after (Op.setCompensation type radius, (Reply.done : Reply K))
  have hs0 : s0.WellFormed := wellFormed_step (wellFormed_new garbage flushing) _
  have hcount0 : s0.bufferCount = 0 := by
    cases type <;> simp [s0, step, new]
  have hl0 : l0.accepted = [] := by
    cases type <;> rfl
  obtain ⟨hfed, hcount1⟩ := run_feed (l := l0) hs0 (by omega) program
  have hcount2 := run_flush_pump_twice (wellFormed_run hs0 (program.flatMap feedStep)) hcount1
  have hpending : r.2.pending = [] := by
    show (s0.run (feedCalls program)).2.pending = []
    rw [feedCalls, run_append]
    exact List.eq_nil_of_length_eq_zero (by rw [length_pending, hcount2])
  refine ⟨?_, emittedFor_accepted_of_drained garbage flushing type radius _
    (lowersFlag_feedCalls program) hpending, hpending⟩
  show (((feedCalls program).zip (s0.run (feedCalls program)).1).foldl CommandLedger.after
    l0).accepted.map Prod.fst = program
  rw [feedCalls, run_append, List.zip_append (by rw [length_run_fst]), List.foldl_append]
  simpa [run, hl0] using hfed

/-! ## Under G40 -/

/-- One feed step under G40 from an empty buffer with no flush pending: the
command is accepted and handed back by the pump right after it, from a state in
which `apply_compensation` does not run, and the buffer is empty again. -/
theorem run_feedStep_offMode {s : CompensationPreprocessor K} (hs : s.WellFormed)
    (htype : s.compensationType = .none) (hf : s.isFlushing = false) (h0 : s.bufferCount = 0)
    (gcode : Gcode K) :
    let r := s.run (feedStep gcode)
    (∃ command, r.1 = [.accepted true, .emitted (some command)]) ∧
      (∀ emission ∈ s.emissions (feedStep gcode), emission.2.resolveTail = emission.2) ∧
      r.2.WellFormed ∧ r.2.compensationType = .none ∧ r.2.isFlushing = false ∧
      r.2.bufferCount = 0 := by
  intro r
  have hspace : s.bufferCount < bufferSize := by rw [h0]; decide
  have hb := bufferGcode_of_lt hspace gcode
  have haccepted : (s.bufferGcode gcode).1 = true := by rw [hb]
  have hwf := wellFormed_bufferGcode hs gcode
  have hcount : (s.bufferGcode gcode).2.bufferCount = 1 := by simp [hb, h0]
  have htype1 : (s.bufferGcode gcode).2.compensationType = .none := by simp [hb, htype]
  have hf1 : (s.bufferGcode gcode).2.isFlushing = false := by simp [hb, hf]
  obtain ⟨command, -, hout, -, hcount'⟩ :=
    getCompensatedGcode_of_open hwf (by omega) (by simp [htype1])
  have hr : r = ([.accepted true, .emitted (some command)],
      (s.bufferGcode gcode).2.getCompensatedGcode.2) := by
    simp only [r, feedStep, run, step, haccepted, hout]
  have hkeep : (s.bufferGcode gcode).2.resolveTail = (s.bufferGcode gcode).2 :=
    if_neg (by simp [hcount, hf1])
  have hemissions : s.emissions (feedStep gcode) = [(command, (s.bufferGcode gcode).2)] := by
    simp [feedStep, emissions, step, haccepted, hout]
  refine ⟨⟨command, by rw [hr]⟩, by simp [hemissions, hkeep], ?_⟩
  rw [hr]
  exact ⟨wellFormed_getCompensatedGcode hwf, by rw [getCompensatedGcode_compensationType, htype1],
    by rw [getCompensatedGcode_isFlushing, hf1], by rw [hcount', hcount]⟩

/-- The feed of a program under G40 from an empty buffer with no flush pending:
each command is accepted and handed back by the pump right after it, from a
state in which `apply_compensation` does not run, and the buffer ends empty. -/
theorem run_feed_offMode {s : CompensationPreprocessor K} (hs : s.WellFormed)
    (htype : s.compensationType = .none) (hf : s.isFlushing = false) (h0 : s.bufferCount = 0)
    (program : List (Gcode K)) :
    let r := s.run (program.flatMap feedStep)
    r.1 = (Reply.emittedCommands r.1).flatMap
        (fun command => [.accepted true, .emitted (some command)]) ∧
      (∀ emission ∈ s.emissions (program.flatMap feedStep),
        emission.2.resolveTail = emission.2) ∧
      r.2.bufferCount = 0 := by
  induction program generalizing s with
  | nil => exact ⟨rfl, by simp, h0⟩
  | cons gcode program ih =>
    obtain ⟨⟨command, hreplies⟩, hkeep, hs', htype', hf', h0'⟩ :=
      run_feedStep_offMode hs htype hf h0 gcode
    obtain ⟨hrest, hkeep', hcount⟩ := ih hs' htype' hf' h0'
    rw [List.flatMap_cons, run_append, hreplies, emissions_append]
    refine ⟨?_, fun emission h => (List.mem_append.mp h).elim (hkeep emission) (hkeep' emission),
      hcount⟩
    simp only [Reply.emittedCommands_append, Reply.emittedCommands_accepted,
      Reply.emittedCommands_emitted, Option.toList_some, Reply.emittedCommands_nil,
      List.singleton_append, List.flatMap_cons, List.cons_append, List.nil_append]
    exact congrArg _ (congrArg _ hrest)

omit [Sqrtf K] in
theorem calculatePerpendicularOffset_zero_direction (e : Vec2 K) (r : K) (isLeft : Bool) :
    calculatePerpendicularOffset e ⟨0, 0⟩ r isLeft = e := by
  cases isLeft <;> simp [calculatePerpendicularOffset, offsetNormal]

theorem normalize2_zero : normalize2 (⟨0, 0⟩ : Vec2 K) = ⟨0, 0⟩ := by
  simp [normalize2]

/-- A straight move at the tail that ends at `uncompensated_position`, with no
straight move after it, resolves to itself: the fallback direction
`endpoint - uncompensated_position` is zero, and so is the offset along it. -/
theorem resolvedSlot_lastLine {s : CompensationPreprocessor K}
    (hline : (s.buffer s.bufferTail).hasIjk = false)
    (hlast : (s.buffer s.bufferTail).endpoint.xy = s.uncompensatedPosition.xy)
    (hnext : 1 < s.bufferCount → (s.buffer (bufferNextIndex s.bufferTail)).isMove = false) :
    s.resolvedSlot s.bufferTail = s.buffer s.bufferTail := by
  have hzero : (⟨(s.buffer s.bufferTail).endpoint.x - s.uncompensatedPosition.x,
      (s.buffer s.bufferTail).endpoint.y - s.uncompensatedPosition.y⟩ : Vec2 K) = ⟨0, 0⟩ := by
    rw [Vec2.ext_iff', Vec3.xy_x, Vec3.xy_y, Vec3.xy_x, Vec3.xy_y] at hlast
    simp [hlast.1, hlast.2]
  have hfallback : ∀ isLeft, s.fallbackOffset (s.buffer s.bufferTail) isLeft =
      (s.buffer s.bufferTail).endpoint.xy := fun isLeft => by
    rw [fallbackOffset, hzero, normalize2_zero, calculatePerpendicularOffset_zero_direction]
  have hline' : ∀ isLeft, s.lineEndpoint s.bufferTail isLeft =
      (s.buffer s.bufferTail).endpoint.xy := fun isLeft => by
    by_cases h1 : 1 < s.bufferCount
    · simp [lineEndpoint, hnext h1, hfallback]
    · simp [lineEndpoint, h1, hfallback]
  simp only [resolvedSlot, hline, hline', Bool.false_eq_true, if_false, Vec3.xy_x, Vec3.xy_y]
  cases h : s.buffer s.bufferTail
  simp_all

/-- The last straight move of a program is never offset: on every run, in any
mode, when the oldest queued command is a straight move with only non-motions
after it and the programmed position is still its endpoint, it is emitted as
programmed, since its fallback direction is zero. -/
theorem lastLine_emitted_as_programmed (garbage : Fin bufferSize → BufferedGcode K)
    (flushing : Bool) (ops : List (Op K)) :
    let r := (new garbage flushing).run ops
    let l := (ops.zip r.1).foldl CommandLedger.after CommandLedger.init
    ∀ gcode start rest command, l.queued = (gcode, start) :: rest →
      (∀ entry ∈ rest, entry.1.isMotion = false) →
      l.position = programmedEndpoint gcode start →
      gcode.isMotion = true → gcode.isArc = false →
      r.2.getCompensatedGcode.1 = some command →
      AsProgrammed gcode start command := by
  intro r l gcode start rest command hqueued hrest hpos hmotion hline hemit
  have htracks := (ledger_of_run garbage flushing ops).2.1
  have hgate := getCompensatedGcode_open_of_some hemit
  obtain ⟨pend, hp⟩ := pending_eq_cons (not_or.mp hgate).1
  have hqueue := htracks.queue
  rw [hp, hqueued] at hqueue
  obtain ⟨hholds, hrel⟩ := List.forall₂_cons.mp hqueue
  obtain ⟨old, hslot⟩ := hholds
  have hnext : 1 < r.2.bufferCount → (r.2.buffer (bufferNextIndex r.2.bufferTail)).isMove = false :=
    fun h1 => by
      obtain ⟨more, hp2⟩ := pending_eq_cons_cons h1
      rw [hp, List.cons.injEq] at hp2
      rw [hp2.2] at hrel
      obtain ⟨entry, rest', hnextHolds, -, rfl⟩ := List.forall₂_cons_left_iff.mp hrel
      obtain ⟨old', hnextSlot⟩ := hnextHolds
      rw [hnextSlot, cloneAndExtract_isMove]
      exact hrest entry (List.mem_cons_self _ _)
  have hlast : (r.2.buffer r.2.bufferTail).endpoint.xy = r.2.uncompensatedPosition.xy := by
    rw [htracks.position, hpos, hslot, cloneAndExtract_endpoint hmotion]
    rfl
  have hkeep : r.2.resolveTail.buffer r.2.bufferTail = r.2.buffer r.2.bufferTail := by
    rw [resolveTail_buffer_tail, resolvedSlot_lastLine (by simp [hslot, hline]) hlast hnext,
      ite_self]
  rw [getCompensatedGcode_fst, if_neg hgate, hkeep, hslot, cloneAndExtract_gcode,
    Option.map_some', Option.some.injEq] at hemit
  rw [← hemit]
  exact Holds.asProgrammed ⟨old, rfl⟩

/-- G41 with radius 1, `G1 X2 Y0`, `M3 S1000` and `flush()`: the line leaves at
`(2,0)`, where it was programmed. -/
def lastLineCalls : List (Op ℚ) :=
  [.setCompensation .left 1, .bufferGcode (feedMove 2 0), .bufferGcode spindleOn, .flush]

theorem lastLine_emitted_as_programmed_spindleOn :
    let r := (new (fun _ => default) false : CompensationPreprocessor ℚ).run lastLineCalls
    let l := (lastLineCalls.zip r.1).foldl CommandLedger.after CommandLedger.init
    ∃ command, l.queued = (feedMove 2 0, ⟨0, 0, 0⟩) :: [(spindleOn, ⟨2, 0, 0⟩)] ∧
      (∀ entry ∈ [(spindleOn, (⟨2, 0, 0⟩ : Vec3 ℚ))], entry.1.isMotion = false) ∧
      l.position = programmedEndpoint (feedMove 2 0) ⟨0, 0, 0⟩ ∧
      (feedMove 2 0).isMotion = true ∧ (feedMove 2 0).isArc = false ∧
      r.2.getCompensatedGcode.1 = some command ∧
      AsProgrammed (feedMove 2 0) ⟨0, 0, 0⟩ command := by
  intro r l
  have hq : l.queued = (feedMove 2 0, ⟨0, 0, 0⟩) :: [(spindleOn, ⟨2, 0, 0⟩)] ∧
      l.position = programmedEndpoint (feedMove 2 0) ⟨0, 0, 0⟩ := by
    simp [l, r, lastLineCalls, run, step, new, flush, bufferGcode, bufferHasSpace, bufferSize,
      cloneAndExtract, feedMove, spindleOn, Gcode.isMotion, Gcode.valueOr, Gcode.hasLetter,
      Gcode.getValue, CommandLedger.after, CommandLedger.init, CommandLedger.accept,
      programmedEndpoint]
  have hrest : ∀ entry ∈ [(spindleOn, (⟨2, 0, 0⟩ : Vec3 ℚ))], entry.1.isMotion = false := by
    decide
  have hstate : r.2.bufferCount = 2 ∧ r.2.isFlushing = true := by
    simp [r, lastLineCalls, run, step, new, flush, bufferGcode, bufferHasSpace, bufferSize]
  obtain ⟨command, -, hemit, -⟩ := getCompensatedGcode_of_open (s := r.2)
    (Reachable.run (.new _ _) lastLineCalls).wellFormed (by rw [hstate.1]; decide)
    (by simp [hstate.2])
  exact ⟨command, hq.1, hrest, hq.2, rfl, rfl, hemit,
    lastLine_emitted_as_programmed _ _ _ _ _ _ _ hq.1 hrest hq.2 rfl rfl hemit⟩

end CompensationPreprocessor

end CutterCompensation
