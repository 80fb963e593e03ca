import CutterCompensation.Buffer.Drain
import CutterCompensation.Properties.Lines

/-!
# The lookahead gate and `is_flushing`

`get_compensated_gcode` holds commands back under G41/G42 while fewer than three
are buffered, unless `is_flushing` is set.  Only `flush()` raises the flag, and
only `clear()` (also run by G40) lowers it; the constructor never assigns it.
So whether the gate holds depends on what that memory held: from a flag left
`true`, every extraction on a non-empty buffer emits at once until the first
G40 or `clear()`, and from a flag left `false` the gate holds as long as
`flush()` is only called through G40.  The gate waits for the tail and two
commands after it, but `apply_compensation` reads only the tail and the one slot
after it: what waits further back reaches the output only through
`uncompensated_position`.
-/

namespace CutterCompensation

variable {K : Type}

/-- The call that raises `is_flushing` on its own: `flush()`. -/
def Op.raisesFlag : Op K → Bool
  | .flush => true
  | _ => false

/-- The calls that lower `is_flushing`: `clear()`, and G40, which runs `flush()`
and then `clear()`. -/
def Op.lowersFlag : Op K → Bool
  | .clear => true
  | .setCompensation .none _ => true
  | _ => false

namespace CompensationPreprocessor

variable [LinearOrderedField K] [Sqrtf K]

theorem resolveTail_isFlushing (s : CompensationPreprocessor K) :
    s.resolveTail.isFlushing = s.isFlushing := by
  unfold resolveTail applyCompensation
  split_ifs <;> rfl

theorem getCompensatedGcode_isFlushing (s : CompensationPreprocessor K) :
    s.getCompensatedGcode.2.isFlushing = s.isFlushing := by
  unfold getCompensatedGcode
  split_ifs
  · rfl
  · rfl
  · exact resolveTail_isFlushing s

theorem resolveTail_compensationType (s : CompensationPreprocessor K) :
    s.resolveTail.compensationType = s.compensationType := by
  unfold resolveTail applyCompensation
  split_ifs <;> rfl

theorem getCompensatedGcode_compensationType (s : CompensationPreprocessor K) :
    s.getCompensatedGcode.2.compensationType = s.compensationType := by
  unfold getCompensatedGcode
  split_ifs
  · rfl
  · rfl
  · exact resolveTail_compensationType s

/-- Every call's effect on `is_flushing`. -/
theorem isFlushing_step (s : CompensationPreprocessor K) (op : Op K) :
    (s.step op).2.isFlushing = (op.raisesFlag || (!op.lowersFlag && s.isFlushing)) := by
  cases op with
  | bufferGcode gcode =>
    simp only [step, bufferGcode, Op.raisesFlag, Op.lowersFlag]
    split_ifs <;> simp
  | getCompensatedGcode => simp [step, getCompensatedGcode_isFlushing, Op.raisesFlag, Op.lowersFlag]
  | setCompensation type radius =>
    cases type <;> simp [step, setCompensation, flush, clear, Op.raisesFlag, Op.lowersFlag]
  | flush => simp [step, flush, Op.raisesFlag]
  | clear => simp [step, clear, Op.raisesFlag, Op.lowersFlag]
  | setInitialPosition p => simp [step, setInitialPosition, Op.raisesFlag, Op.lowersFlag]

/-- A run with no G40 and no `clear()` keeps a raised flag. -/
theorem isFlushing_run_of_true {s : CompensationPreprocessor K} (hf : s.isFlushing = true)
    (ops : List (Op K)) (hops : ∀ op ∈ ops, op.lowersFlag = false) :
    (s.run ops).2.isFlushing = true := by
  induction ops generalizing s with
  | nil => exact hf
  | cons op ops ih =>
    refine ih ?_ fun o ho => hops o (List.mem_cons_of_mem op ho)
    rw [isFlushing_step, hops op (List.mem_cons_self op ops), hf]
    simp

/-- A run with no bare `flush()` keeps a lowered flag. -/
theorem isFlushing_run_of_false {s : CompensationPreprocessor K} (hf : s.isFlushing = false)
    (ops : List (Op K)) (hops : ∀ op ∈ ops, op.raisesFlag = false) :
    (s.run ops).2.isFlushing = false := by
  induction ops generalizing s with
  | nil => exact hf
  | cons op ops ih =>
    refine ih ?_ fun o ho => hops o (List.mem_cons_of_mem op ho)
    rw [isFlushing_step, hops op (List.mem_cons_self op ops), hf]
    simp

/-- The constructor leaves `is_flushing` unassigned.  When that memory holds
`true`, the gate is open from the start: in every state a run without G40 or
`clear()` reaches, the flag is set and every extraction from a non-empty buffer
returns a command, in any mode and with one or two commands buffered. -/
theorem uninitialisedFlag_bypasses_lookahead (garbage : Fin bufferSize → BufferedGcode K)
    (ops : List (Op K)) (hops : ∀ op ∈ ops, op.lowersFlag = false) :
    ((new garbage true).run ops).2.isFlushing = true ∧
      (((new garbage true).run ops).2.bufferCount ≠ 0 →
        ∃ command, ((new garbage true).run ops).2.getCompensatedGcode.1 = some command) := by
  have hf := isFlushing_run_of_true (s := new garbage true) rfl ops hops
  refine ⟨hf, fun h0 => ?_⟩
  obtain ⟨command, -, hout, -⟩ :=
    getCompensatedGcode_of_flushing ((Reachable.new garbage true).run ops).wellFormed hf h0
  exact ⟨command, hout⟩

/-- G41 and a single move: one command waits under G41, and the move leaves at
once. -/
theorem uninitialisedFlag_bypasses_lookahead_oneMove :
    let ops : List (Op ℚ) := [.setCompensation .left 1, .bufferGcode (feedMove 2 0)]
    let s := ((new (fun _ => default) true : CompensationPreprocessor ℚ).run ops).2
    (∀ op ∈ ops, op.lowersFlag = false) ∧ s.bufferCount = 1 ∧ s.compensationType = .left ∧
      s.isFlushing = true ∧ ∃ command, s.getCompensatedGcode.1 = some command := by
  intro ops s
  have hops : ∀ op ∈ ops, op.lowersFlag = false := by decide
  have hcount : s.bufferCount = 1 := by decide
  obtain ⟨hf, hemit⟩ := uninitialisedFlag_bypasses_lookahead (fun _ => default) ops hops
  exact ⟨hops, hcount, rfl, hf, hemit (by rw [hcount]; decide)⟩

/-- The gate holds when the constructor's flag is `false` and `flush()` is only
ever called through G40: in every state such a run reaches, the flag is down,
and under G41 or G42 with fewer than three commands buffered
`get_compensated_gcode` returns null and changes nothing. -/
theorem lookahead_holds_without_bare_flush (garbage : Fin bufferSize → BufferedGcode K)
    (ops : List (Op K)) (hops : ∀ op ∈ ops, op.raisesFlag = false) :
    ((new garbage false).run ops).2.isFlushing = false ∧
      (((new garbage false).run ops).2.bufferCount < 3 →
        ((new garbage false).run ops).2.compensationType ≠ .none →
        ((new garbage false).run ops).2.getCompensatedGcode =
          (none, ((new garbage false).run ops).2)) := by
  have hf := isFlushing_run_of_false (s := new garbage false) rfl ops hops
  exact ⟨hf, fun hcount htype => getCompensatedGcode_of_waiting ⟨hcount, htype, hf⟩⟩

/-- G41 and two moves, no bare `flush()`: two commands wait, and the gate holds
them. -/
theorem lookahead_holds_without_bare_flush_leftCorner :
    let ops : List (Op ℚ) :=
      [.setCompensation .left 1, .bufferGcode (feedMove 2 0), .bufferGcode (feedMove 2 1)]
    let s := ((new (fun _ => default) false : CompensationPreprocessor ℚ).run ops).2
    (∀ op ∈ ops, op.raisesFlag = false) ∧ s.bufferCount = 2 ∧ s.compensationType = .left ∧
      s.isFlushing = false ∧ s.getCompensatedGcode = (none, s) := by
  intro ops s
  have hops : ∀ op ∈ ops, op.raisesFlag = false := by decide
  have hcount : s.bufferCount = 2 := by decide
  obtain ⟨hf, hwait⟩ := lookahead_holds_without_bare_flush (fun _ => default) ops hops
  exact ⟨hops, hcount, rfl, hf, hwait (by rw [hcount]; decide) (by decide)⟩

/-- The pump under the gate, from any well-formed state in G41 or G42 with the
flag down: `buffer_count - 2` calls pop the front of the queue one by one, and
the next call finds two or fewer commands and returns null. -/
theorem run_holds_back_two {s : CompensationPreprocessor K} {n : ℕ} (hs : s.WellFormed)
    (htype : s.compensationType ≠ .none) (hf : s.isFlushing = false)
    (hn : s.bufferCount - 2 = n) :
    List.Forall₂ RebuiltFrom (s.emissions (List.replicate n .getCompensatedGcode))
        (s.pending.take n) ∧
      (s.run (List.replicate n .getCompensatedGcode)).2.pending = s.pending.drop n ∧
      (s.run (List.replicate n .getCompensatedGcode)).2.getCompensatedGcode =
        (none, (s.run (List.replicate n .getCompensatedGcode)).2) := by
  induction n generalizing s with
  | zero =>
    simp only [List.replicate_zero, run, emissions_nil, List.take_zero, List.drop_zero]
    exact ⟨.nil, trivial, getCompensatedGcode_of_waiting ⟨by omega, htype, hf⟩⟩
  | succ n ih =>
    obtain ⟨command, hcommand, hout, hp, hcount⟩ :=
      getCompensatedGcode_of_open hs (by omega) fun h => absurd h.1 (by omega)
    obtain ⟨hemitted, hrest, hnone⟩ := ih (wellFormed_getCompensatedGcode hs)
      (by rwa [getCompensatedGcode_compensationType]) (by rwa [getCompensatedGcode_isFlushing])
      (by omega)
    simp only [List.replicate_succ, run, step, emissions_get_cons, hout, Option.toList_some,
      List.map_singleton, List.singleton_append]
    rw [hp, List.take_succ_cons, List.drop_succ_cons]
    exact ⟨.cons hcommand hemitted, hrest, hnone⟩

/-- The lookahead holds back exactly two commands: under G41 or G42 with the
flag down, from every reachable state, `buffer_count - 2` pumps emit the first
`buffer_count - 2` queued commands in order, each rebuilt from its own resolved
slot, and the next call returns null and changes nothing. -/
theorem lookahead_holds_back_two {s : CompensationPreprocessor K} (hs : s.Reachable)
    (htype : s.compensationType ≠ .none) (hf : s.isFlushing = false) :
    let r := s.run (List.replicate (s.bufferCount - 2) .getCompensatedGcode)
    List.Forall₂ RebuiltFrom
        (s.emissions (List.replicate (s.bufferCount - 2) .getCompensatedGcode))
        (s.pending.take (s.bufferCount - 2)) ∧
      r.2.pending = s.pending.drop (s.bufferCount - 2) ∧ r.2.getCompensatedGcode = (none, r.2) :=
  run_holds_back_two hs.wellFormed htype hf rfl

/-- The corner run under G41 with the flag down: three commands wait, one
comes out, two stay. -/
theorem lookahead_holds_back_two_leftCorner :
    let s := ((new (fun _ => default) false : CompensationPreprocessor ℚ).run leftCornerCalls).2
    let r := s.run (List.replicate (s.bufferCount - 2) .getCompensatedGcode)
    s.Reachable ∧ s.compensationType ≠ .none ∧ s.isFlushing = false ∧
      List.Forall₂ RebuiltFrom
        (s.emissions (List.replicate (s.bufferCount - 2) .getCompensatedGcode))
        (s.pending.take (s.bufferCount - 2)) ∧
      r.2.pending = s.pending.drop (s.bufferCount - 2) ∧
      r.2.getCompensatedGcode = (none, r.2) := by
  intro s r
  have hs : s.Reachable := Reachable.run (.new _ _) leftCornerCalls
  have htype : s.compensationType ≠ .none := by
    rw [(leftCorner_state (fun _ => default) false).2.2.1]
    decide
  have hf : s.isFlushing = false := isFlushing_run_of_false rfl _ (by decide)
  exact ⟨hs, htype, hf, lookahead_holds_back_two hs htype hf⟩

/-! ## How far the lookahead reads -/

omit [LinearOrderedField K] [Sqrtf K] in
/-- With two commands or more buffered, the slot after the tail is not the head. -/
theorem bufferNextIndex_tail_ne_head {s : CompensationPreprocessor K} (hs : s.WellFormed)
    (h2 : 2 ≤ s.bufferCount) : bufferNextIndex s.bufferTail ≠ s.bufferHead := by
  intro h
  have hval := congrArg Fin.val h
  have hle := hs.count_le
  have htail := s.bufferTail.isLt
  rw [bufferNextIndex_val, hs.head_eq] at hval
  simp only [bufferSize] at hval hle htail
  omega

/-- What `apply_compensation` writes back for the tail depends on the tail slot,
the slot after it, the mode, the radius and the two trackers, and on nothing
else. -/
theorem resolvedSlot_tail_congr {s s' : CompensationPreprocessor K} (hs : s.WellFormed)
    (hs' : s'.WellFormed) (h2 : 2 ≤ s.bufferCount) (h2' : 2 ≤ s'.bufferCount)
    (htail : s'.buffer s'.bufferTail = s.buffer s.bufferTail)
    (hnext : s'.buffer (bufferNextIndex s'.bufferTail) = s.buffer (bufferNextIndex s.bufferTail))
    (htype : s'.compensationType = s.compensationType)
    (hradius : s'.compensationRadius = s.compensationRadius)
    (hu : s'.uncompensatedPosition = s.uncompensatedPosition)
    (hc : s'.compensatedPosition = s.compensatedPosition) :
    s'.resolvedSlot s'.bufferTail = s.resolvedSlot s.bufferTail := by
  have h1 : 1 < s.bufferCount ∧ bufferNextIndex s.bufferTail ≠ s.bufferHead :=
    ⟨by omega, bufferNextIndex_tail_ne_head hs h2⟩
  have h1' : 1 < s'.bufferCount ∧ bufferNextIndex s'.bufferTail ≠ s'.bufferHead :=
    ⟨by omega, bufferNextIndex_tail_ne_head hs' h2'⟩
  simp only [resolvedSlot, arcEndpoint, lineEndpoint, fallbackOffset, ne_eq, h1, h1', htail,
    hnext, htype, hradius, hu, hc, not_false_eq_true, and_self, if_true]

/-- The lookahead reads one command ahead, not the two the gate waits for: two
reachable states with three or more commands buffered that agree on the mode,
the radius, both trackers and the first two slots emit the same command; the
rest reaches it only through `uncompensated_position`. -/
theorem getCompensatedGcode_reads_one_ahead {s s' : CompensationPreprocessor K}
    (hs : s.Reachable) (hs' : s'.Reachable) (h3 : 3 ≤ s.bufferCount) (h3' : 3 ≤ s'.bufferCount)
    (hwindow : s'.pending.take 2 = s.pending.take 2)
    (htype : s'.compensationType = s.compensationType)
    (hradius : s'.compensationRadius = s.compensationRadius)
    (hu : s'.uncompensatedPosition = s.uncompensatedPosition)
    (hc : s'.compensatedPosition = s.compensatedPosition) :
    s'.getCompensatedGcode.1 = s.getCompensatedGcode.1 := by
  obtain ⟨rest, hp⟩ := pending_eq_cons_cons (s := s) (by omega)
  obtain ⟨rest', hp'⟩ := pending_eq_cons_cons (s := s') (by omega)
  rw [hp, hp'] at hwindow
  simp only [List.take_succ_cons, List.take_zero, List.cons.injEq, and_true] at hwindow
  have hslot := resolvedSlot_tail_congr hs.wellFormed hs'.wellFormed (by omega) (by omega)
    hwindow.1 hwindow.2 htype hradius hu hc
  have hopen : ∀ t : CompensationPreprocessor K, 3 ≤ t.bufferCount →
      ¬(t.bufferCount = 0 ∨ (t.bufferCount < 3 ∧ t.compensationType ≠ .none ∧
        t.isFlushing = false)) := fun t ht h => by
    rcases h with h | ⟨h, -⟩ <;> omega
  rw [getCompensatedGcode_fst, getCompensatedGcode_fst, if_neg (hopen s' h3'), if_neg (hopen s h3),
    resolveTail_buffer_tail, resolveTail_buffer_tail, hwindow.1, hslot]
  simp only [h3, h3', true_or, true_and]

/-- The corner state of `leftCornerCalls`, and the same state with a fourth
move, to `(4,1)` where the programmed path already is, buffered behind: the same
command comes out of both. -/
theorem getCompensatedGcode_reads_one_ahead_leftCorner :
    let s := ((new (fun _ => default) false : CompensationPreprocessor ℚ).run leftCornerCalls).2
    let s' := (s.bufferGcode (feedMove 4 1)).2
    s.Reachable ∧ s'.Reachable ∧ 3 ≤ s.bufferCount ∧ 3 ≤ s'.bufferCount ∧
      s'.pending.take 2 = s.pending.take 2 ∧ s'.compensationType = s.compensationType ∧
      s'.compensationRadius = s.compensationRadius ∧
      s'.uncompensatedPosition = s.uncompensatedPosition ∧
      s'.compensatedPosition = s.compensatedPosition ∧
      s'.getCompensatedGcode.1 = s.getCompensatedGcode.1 := by
  intro s s'
  have hs : s.Reachable := Reachable.run (.new _ _) leftCornerCalls
  have hs' : s'.Reachable := .step (.bufferGcode (feedMove 4 1)) hs
  have hcount : s.bufferCount = 3 := by
    simp [s, leftCornerCalls, run, step, new, bufferGcode, bufferHasSpace, bufferSize]
  have hspace : s.bufferCount < bufferSize := by rw [hcount]; decide
  have hb := bufferGcode_of_lt hspace (feedMove 4 1)
  have h3 : 3 ≤ s.bufferCount := hcount.ge
  have h3' : 3 ≤ s'.bufferCount := by simp [s', hb, hcount]
  have hwindow : s'.pending.take 2 = s.pending.take 2 := by
    rw [pending_bufferGcode hs.wellFormed hspace, List.take_append_of_le_length (by simp [hcount])]
  have hu : s'.uncompensatedPosition = s.uncompensatedPosition := by
    have hlast := (leftCorner_state (fun _ => default) false).2.1.last
    have hmotion : (feedMove 4 1).isMotion = true := by decide
    simp only [s', hb, cloneAndExtract_snd hmotion]
    rw [hlast]
    decide
  exact ⟨hs, hs', h3, h3', hwindow, by simp [s', hb], by simp [s', hb], hu, by simp [s', hb],
    getCompensatedGcode_reads_one_ahead hs hs' h3 h3' hwindow (by simp [s', hb]) (by simp [s', hb])
      hu (by simp [s', hb])⟩

end CompensationPreprocessor

end CutterCompensation
