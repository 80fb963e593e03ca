import CutterCompensation.Buffer.Queue

/-!
# Draining the queue after `flush()`

`flush()` only sets `is_flushing`; its comment leaves the draining to the
caller, who pumps `get_compensated_gcode`.  With the flag set the lookahead gate
is open, so every call on a non-empty buffer pops the front of the queue.  This
module proves that the drain works from every reachable state: `buffer_count`
calls emit one command per buffered command, each rebuilt from its own slot as
`apply_compensation` resolved it, in queue order, and leave the queue empty.
G40 loses the queue only because `set_compensation(NONE, r)` clears it right
after its own `flush()`.
-/

namespace CutterCompensation

namespace CompensationPreprocessor

variable {K : Type} [LinearOrderedField K] [Sqrtf K]

/-- `emission` was built from `slot`: the call found `slot` at the tail, and
the command is the text of the slot's clone at the endpoint and I/J that
`apply_compensation` left there. -/
def RebuiltFrom (emission : Command K × CompensationPreprocessor K) (slot : BufferedGcode K) :
    Prop :=
  emission.2.buffer emission.2.bufferTail = slot ∧ ∃ gcode, slot.gcode = some gcode ∧
    emission.1 = rebuild gcode (emission.2.resolveTail.buffer emission.2.bufferTail)

omit [LinearOrderedField K] [Sqrtf K] in
theorem pending_eq_cons {s : CompensationPreprocessor K} (h0 : s.bufferCount ≠ 0) :
    ∃ rest, s.pending = s.buffer s.bufferTail :: rest := by
  obtain ⟨n, hn⟩ : ∃ n, s.bufferCount = n + 1 := ⟨s.bufferCount - 1, by omega⟩
  exact ⟨(List.range n).map fun k => s.buffer (windowIndex s.bufferTail (k + 1)),
    by simp [pending, hn, List.range_succ_eq_map, windowIndex_zero]⟩

omit [LinearOrderedField K] [Sqrtf K] in
theorem pending_eq_cons_cons {s : CompensationPreprocessor K} (h1 : 1 < s.bufferCount) :
    ∃ rest, s.pending =
      s.buffer s.bufferTail :: s.buffer (bufferNextIndex s.bufferTail) :: rest := by
  obtain ⟨n, hn⟩ : ∃ n, s.bufferCount = n + 2 := ⟨s.bufferCount - 2, by omega⟩
  exact ⟨(List.range n).map fun k => s.buffer (windowIndex s.bufferTail (k + 2)),
    by simp [pending, hn, List.range_succ_eq_map, windowIndex_zero, ← windowIndex_succ]⟩

/-- One call with the gate open on a non-empty buffer pops the front of the
queue: it comes out rebuilt from its own slot, and the rest stays queued. -/
theorem getCompensatedGcode_of_open {s : CompensationPreprocessor K} (hs : s.WellFormed)
    (h0 : s.bufferCount ≠ 0)
    (hopen : ¬ (s.bufferCount < 3 ∧ s.compensationType ≠ .none ∧ s.isFlushing = false)) :
    ∃ command, RebuiltFrom (command, s) (s.buffer s.bufferTail) ∧
      s.getCompensatedGcode.1 = some command ∧
      s.pending = s.buffer s.bufferTail :: s.getCompensatedGcode.2.pending ∧
      s.getCompensatedGcode.2.bufferCount = s.bufferCount - 1 := by
  have hemit := getCompensatedGcode_of_emit h0 hopen
  rcases getCompensatedGcode_pops hs with hnone | ⟨first, rest, e, ijk, hp, hrest, hres, -⟩
  · have hcount := congrArg (·.2.bufferCount) (hemit.symm.trans hnone)
    simp only at hcount
    omega
  obtain ⟨rest', hp'⟩ := pending_eq_cons h0
  obtain ⟨rfl, -⟩ := List.cons.inj (hp.symm.trans hp')
  obtain ⟨gcode, hgcode, -⟩ := hs.extracted_tail h0
  have hout : s.getCompensatedGcode.1 =
      some (rebuild gcode (s.resolveTail.buffer s.bufferTail)) := by
    rw [hemit, hres]
    simp [hgcode]
  exact ⟨_, ⟨rfl, gcode, hgcode, rfl⟩, hout, hrest ▸ hp, by rw [hemit]⟩

/-- One call of the drain: with the flag set and a command waiting, the front of
the queue comes out rebuilt, the rest stays queued, and the flag stays set. -/
theorem getCompensatedGcode_of_flushing {s : CompensationPreprocessor K} (hs : s.WellFormed)
    (hf : s.isFlushing = true) (h0 : s.bufferCount ≠ 0) :
    ∃ command, RebuiltFrom (command, s) (s.buffer s.bufferTail) ∧
      s.getCompensatedGcode.1 = some command ∧
      s.pending = s.buffer s.bufferTail :: s.getCompensatedGcode.2.pending ∧
      s.getCompensatedGcode.2.isFlushing = true ∧
      s.getCompensatedGcode.2.bufferCount = s.bufferCount - 1 := by
  have hopen : ¬(s.bufferCount < 3 ∧ s.compensationType ≠ .none ∧ s.isFlushing = false) := by
    simp [hf]
  obtain ⟨command, hcommand, hout, hp, hcount⟩ := getCompensatedGcode_of_open hs h0 hopen
  have hflag : s.getCompensatedGcode.2.isFlushing = true := by
    rw [getCompensatedGcode_of_emit h0 hopen]
    exact hf
  exact ⟨command, hcommand, hout, hp, hflag, hcount⟩

/-- The drain from any well-formed state with the flag set: `buffer_count`
calls emit the queue, front first, and empty it. -/
theorem run_drain {s : CompensationPreprocessor K} (hs : s.WellFormed) (hf : s.isFlushing = true) :
    List.Forall₂ RebuiltFrom (s.emissions (List.replicate s.bufferCount .getCompensatedGcode))
        s.pending ∧
      (s.run (List.replicate s.bufferCount .getCompensatedGcode)).2.pending = [] := by
  generalize hn : s.bufferCount = n
  induction n generalizing s with
  | zero => simp [run, pending, hn]
  | succ n ih =>
    obtain ⟨command, hcommand, hout, hp, hf', hcount⟩ :=
      getCompensatedGcode_of_flushing hs hf (by omega)
    obtain ⟨hemitted, hempty⟩ := ih (wellFormed_getCompensatedGcode hs) hf' (by omega)
    simp only [List.replicate_succ, run, step, emissions_get_cons, hout, Option.toList_some,
      List.map_singleton, List.singleton_append, hp]
    exact ⟨.cons hcommand hemitted, hempty⟩

end CompensationPreprocessor

end CutterCompensation
