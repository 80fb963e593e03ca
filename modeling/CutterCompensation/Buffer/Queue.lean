import CutterCompensation.Engine.Extraction

/-!
# The circular buffer as a queue

The ten slots with `buffer_head`, `buffer_tail` and `buffer_count` stand for a
FIFO queue: the `buffer_count` slots from the tail, in order.  This module
proves the buffer invariant for every reachable state and that each operation
acts on that queue as a bounded queue does, with one exception: G40 empties it.
-/

namespace CutterCompensation

namespace CompensationPreprocessor

variable {K : Type}

/-- The slot `k` places after `tail`. -/
def windowIndex (tail : Fin bufferSize) (k : ℕ) : Fin bufferSize :=
  ⟨(tail.val + k) % bufferSize, Nat.mod_lt _ (by decide)⟩

/-- The queue the circular buffer stands for: the `buffer_count` slots from the tail. -/
def pending (s : CompensationPreprocessor K) : List (BufferedGcode K) :=
  (List.range s.bufferCount).map fun k => s.buffer (windowIndex s.bufferTail k)

/-- Slot `i` is one of the `buffer_count` slots from the tail. -/
def InWindow (s : CompensationPreprocessor K) (i : Fin bufferSize) : Prop :=
  (i.val + bufferSize - s.bufferTail.val) % bufferSize < s.bufferCount

/-- What `clone_and_extract` records of a command, as a slot of the window
keeps it: the clone, whether it is a motion, whether it is an arc, and its
winding. -/
def Extracted (slot : BufferedGcode K) : Prop :=
  ∃ c, slot.gcode = some c ∧ slot.isMove = c.isMotion ∧ slot.hasIjk = (c.isMotion && c.isArc) ∧
    (slot.hasIjk = true → slot.isCw = (c.g == 2))

/-- The buffer invariant: at most ten commands, the head `buffer_count` slots
past the tail, exactly the slots of the window holding a clone, and each of
them as `clone_and_extract` filled it. -/
structure WellFormed (s : CompensationPreprocessor K) : Prop where
  count_le : s.bufferCount ≤ bufferSize
  head_eq : s.bufferHead.val = (s.bufferTail.val + s.bufferCount) % bufferSize
  occupied : ∀ i, (s.buffer i).gcode.isSome ↔ s.InWindow i
  extracted : ∀ i, s.InWindow i → Extracted (s.buffer i)

@[simp] theorem length_pending (s : CompensationPreprocessor K) :
    s.pending.length = s.bufferCount := by
  simp [pending]

theorem windowIndex_zero (t : Fin bufferSize) : windowIndex t 0 = t := by
  ext; simp [windowIndex, Nat.mod_eq_of_lt t.isLt]

theorem windowIndex_succ (t : Fin bufferSize) (k : ℕ) :
    windowIndex (bufferNextIndex t) k = windowIndex t (k + 1) := by
  ext; simp only [windowIndex, bufferNextIndex_val, bufferSize]; omega

theorem windowIndex_ne {t : Fin bufferSize} {j k : ℕ} (hj : j < bufferSize) (hk : k < bufferSize)
    (hjk : j ≠ k) : windowIndex t j ≠ windowIndex t k := by
  intro h
  have := congrArg Fin.val h
  have := t.isLt
  simp only [windowIndex, bufferSize] at *
  omega

theorem windowIndex_count {s : CompensationPreprocessor K} (hs : s.WellFormed) :
    windowIndex s.bufferTail s.bufferCount = s.bufferHead := by
  ext; simp [windowIndex, hs.head_eq]

theorem inWindow_iff {s : CompensationPreprocessor K} {i : Fin bufferSize} :
    s.InWindow i ↔ (i.val + bufferSize - s.bufferTail.val) % bufferSize < s.bufferCount :=
  Iff.rfl

theorem inWindow_tail {s : CompensationPreprocessor K} (hcount : s.bufferCount ≠ 0) :
    s.InWindow s.bufferTail := by
  simp [inWindow_iff]; omega

theorem inWindow_next {s : CompensationPreprocessor K} (hcount : 1 < s.bufferCount) :
    s.InWindow (bufferNextIndex s.bufferTail) := by
  have := s.bufferTail.isLt
  simp only [inWindow_iff, bufferNextIndex_val, bufferSize] at *
  omega

/-- The window after the tail leaves it. -/
theorem inWindow_pop {s t : CompensationPreprocessor K} (hle : s.bufferCount ≤ bufferSize)
    (htail : t.bufferTail = bufferNextIndex s.bufferTail)
    (hcount' : t.bufferCount = s.bufferCount - 1) (i : Fin bufferSize) :
    t.InWindow i ↔ i ≠ s.bufferTail ∧ s.InWindow i := by
  have := i.isLt
  have := s.bufferTail.isLt
  rw [ne_eq, Fin.ext_iff]
  simp only [inWindow_iff, htail, hcount', bufferNextIndex_val, bufferSize] at *
  omega

/-- A non-empty queue's front slot holds a clone, as `clone_and_extract` filled it. -/
theorem WellFormed.extracted_tail {s : CompensationPreprocessor K} (hs : s.WellFormed)
    (hcount : s.bufferCount ≠ 0) : Extracted (s.buffer s.bufferTail) :=
  hs.extracted _ (inWindow_tail hcount)

section Buffering

variable [Zero K]

theorem extracted_cloneAndExtract (gcode : Gcode K) (slot : BufferedGcode K) (p : Vec3 K) :
    Extracted (cloneAndExtract gcode slot p).1 := by
  exact ⟨gcode, cloneAndExtract_gcode .., cloneAndExtract_isMove .., cloneAndExtract_hasIjk ..,
    fun harc => cloneAndExtract_isCw _ _ _ (by simpa using harc)⟩

theorem inWindow_bufferGcode {s : CompensationPreprocessor K} (hs : s.WellFormed)
    (hspace : s.bufferCount < bufferSize) (gcode : Gcode K) (i : Fin bufferSize) :
    (s.bufferGcode gcode).2.InWindow i ↔ i = s.bufferHead ∨ s.InWindow i := by
  rw [bufferGcode_of_lt hspace, Fin.ext_iff]
  have hhead := hs.head_eq
  have := i.isLt
  have := s.bufferTail.isLt
  simp only [inWindow_iff, hhead, bufferSize] at *
  omega

theorem pending_bufferGcode {s : CompensationPreprocessor K} (hs : s.WellFormed)
    (hspace : s.bufferCount < bufferSize) (gcode : Gcode K) :
    (s.bufferGcode gcode).2.pending =
      s.pending ++ [(cloneAndExtract gcode (s.buffer s.bufferHead) s.uncompensatedPosition).1] := by
  rw [bufferGcode_of_lt hspace]
  simp only [pending, List.range_succ, List.map_append, List.map_singleton]
  congr 1
  · refine List.map_congr_left fun k hk => Function.update_noteq ?_ _ _
    rw [List.mem_range] at hk
    rw [← windowIndex_count hs]
    exact windowIndex_ne (by omega) hspace (by omega)
  · rw [windowIndex_count hs, Function.update_same]

theorem wellFormed_bufferGcode {s : CompensationPreprocessor K} (hs : s.WellFormed)
    (gcode : Gcode K) : (s.bufferGcode gcode).2.WellFormed := by
  by_cases hspace : s.bufferCount < bufferSize
  swap
  · rwa [bufferGcode_of_full (not_lt.mp hspace)]
  have hwin := inWindow_bufferGcode hs hspace gcode
  have hbuf : ∀ i, (s.bufferGcode gcode).2.buffer i = if i = s.bufferHead then
      (cloneAndExtract gcode (s.buffer s.bufferHead) s.uncompensatedPosition).1
      else s.buffer i := fun i => by
    rw [bufferGcode_of_lt hspace]
    exact Function.update_apply ..
  refine ⟨?_, ?_, fun i => ?_, fun i hi => ?_⟩
  · simpa [bufferGcode_of_lt hspace] using hspace
  · have hhead := hs.head_eq
    simp only [bufferGcode_of_lt hspace, bufferNextIndex_val, hhead, bufferSize] at *
    omega
  · rw [hwin, hbuf]
    by_cases hi : i = s.bufferHead
    · simp [hi]
    · simp [hi, hs.occupied]
  · rw [hwin] at hi
    rw [hbuf]
    by_cases hhead : i = s.bufferHead
    · simpa [hhead] using extracted_cloneAndExtract ..
    · simpa [hhead] using hs.extracted i (hi.resolve_left hhead)

end Buffering

section Extraction

variable [LinearOrderedField K] [Sqrtf K]

/-- The emitting branch of `get_compensated_gcode`, seen from the window: the
tail leaves it, and every other slot keeps its contents. -/
theorem getCompensatedGcode_window {s : CompensationPreprocessor K} (hs : s.WellFormed) :
    s.getCompensatedGcode = (none, s) ∨
      (0 < s.bufferCount ∧
        (∀ i, s.getCompensatedGcode.2.InWindow i ↔ i ≠ s.bufferTail ∧ s.InWindow i) ∧
        (∀ i, i ≠ s.bufferTail → s.getCompensatedGcode.2.buffer i = s.buffer i) ∧
        (s.getCompensatedGcode.2.buffer s.bufferTail).gcode = none ∧
        s.getCompensatedGcode.2.bufferHead = s.bufferHead ∧
        s.getCompensatedGcode.2.bufferTail = bufferNextIndex s.bufferTail ∧
        s.getCompensatedGcode.2.bufferCount = s.bufferCount - 1) := by
  by_cases h0 : s.bufferCount = 0
  · exact .inl (getCompensatedGcode_of_eq_zero h0)
  by_cases hwait : s.bufferCount < 3 ∧ s.compensationType ≠ .none ∧ s.isFlushing = false
  · exact .inl (getCompensatedGcode_of_waiting hwait)
  obtain ⟨e, ijk, ht⟩ := resolveTail_eq s
  rw [getCompensatedGcode_of_ready h0 hwait ht]
  exact .inr ⟨by omega, inWindow_pop hs.count_le rfl rfl, fun i hi => Function.update_noteq hi _ _,
    by simp, rfl, rfl, rfl⟩

/-- `get_compensated_gcode` either changes nothing and returns null, or pops the
front of the queue and returns the command rebuilt from it, with only the
endpoint and I/J of that slot resolved. -/
theorem getCompensatedGcode_pops {s : CompensationPreprocessor K} (hs : s.WellFormed) :
    s.getCompensatedGcode = (none, s) ∨
      ∃ first rest e ijk, s.pending = first :: rest ∧ s.getCompensatedGcode.2.pending = rest ∧
        s.resolveTail.buffer s.bufferTail = { first with endpoint := e, ijk := ijk } ∧
        s.getCompensatedGcode.1 =
          first.gcode.map (rebuild · { first with endpoint := e, ijk := ijk }) := by
  by_cases h0 : s.bufferCount = 0
  · exact .inl (getCompensatedGcode_of_eq_zero h0)
  by_cases hwait : s.bufferCount < 3 ∧ s.compensationType ≠ .none ∧ s.isFlushing = false
  · exact .inl (getCompensatedGcode_of_waiting hwait)
  obtain ⟨e, ijk, ht⟩ := resolveTail_eq s
  obtain ⟨n, hn⟩ : ∃ n, s.bufferCount = n + 1 := ⟨s.bufferCount - 1, by omega⟩
  have hcount := hs.count_le
  refine .inr ⟨s.buffer s.bufferTail,
    (List.range n).map fun k => s.buffer (windowIndex s.bufferTail (k + 1)), e, ijk, ?_, ?_, ?_, ?_⟩
  · simp [pending, hn, List.range_succ_eq_map, windowIndex_zero]
  · rw [getCompensatedGcode_of_ready h0 hwait ht]
    simp only [pending, hn, Nat.add_sub_cancel]
    refine List.map_congr_left fun k hk => ?_
    rw [List.mem_range] at hk
    rw [windowIndex_succ, Function.update_noteq]
    have hne := windowIndex_ne (t := s.bufferTail) (j := k + 1) (k := 0) (by omega) (by decide)
      (by omega)
    rwa [windowIndex_zero] at hne
  · simp [ht]
  · rw [getCompensatedGcode_of_ready h0 hwait ht]

theorem wellFormed_getCompensatedGcode {s : CompensationPreprocessor K} (hs : s.WellFormed) :
    s.getCompensatedGcode.2.WellFormed := by
  rcases getCompensatedGcode_window hs with h | ⟨hpos, hwin, hbuf, htail, hhead', htail', hcount'⟩
  · rwa [h]
  refine ⟨?_, ?_, fun i => ?_, fun i hi => ?_⟩
  · have := hs.count_le
    omega
  · have hhead := hs.head_eq
    have := hs.count_le
    rw [hhead', htail', hcount']
    simp only [bufferNextIndex_val, hhead, bufferSize] at *
    omega
  · rw [hwin]
    by_cases hi : i = s.bufferTail
    · simp [hi, htail]
    · simp [hi, hbuf i hi, hs.occupied]
  · obtain ⟨hne, hi⟩ := (hwin i).mp hi
    rw [hbuf i hne]
    exact hs.extracted i hi

end Extraction

section Control

@[simp] theorem pending_clear (s : CompensationPreprocessor K) : s.clear.pending = [] := by
  simp [pending, clear]

theorem wellFormed_clear (s : CompensationPreprocessor K) : s.clear.WellFormed :=
  ⟨by simp, by simp, fun i => by simp [inWindow_iff], fun i hi => by simp [inWindow_iff] at hi⟩

theorem wellFormed_setCompensation {s : CompensationPreprocessor K} (hs : s.WellFormed)
    (type : CompensationType) (radius : K) : (s.setCompensation type radius).WellFormed := by
  by_cases htype : type = .none
  · subst htype
    rw [setCompensation_none]
    exact wellFormed_clear _
  · rw [setCompensation_of_ne_none s htype]
    exact ⟨hs.count_le, hs.head_eq, hs.occupied, hs.extracted⟩

variable [Zero K]

theorem wellFormed_new (garbage : Fin bufferSize → BufferedGcode K) (flushing : Bool) :
    (new garbage flushing).WellFormed :=
  ⟨by simp [new], by simp [new], fun i => by simp [new, inWindow_iff],
    fun i hi => by simp [new, inWindow_iff] at hi⟩

end Control

section Runs

variable [LinearOrderedField K] [Sqrtf K]

theorem wellFormed_step {s : CompensationPreprocessor K} (hs : s.WellFormed) :
    ∀ op : Op K, (s.step op).2.WellFormed
  | .bufferGcode gcode => wellFormed_bufferGcode hs gcode
  | .getCompensatedGcode => wellFormed_getCompensatedGcode hs
  | .setCompensation type radius => wellFormed_setCompensation hs type radius
  | .flush => ⟨hs.count_le, hs.head_eq, hs.occupied, hs.extracted⟩
  | .clear => wellFormed_clear s
  | .setInitialPosition _ => ⟨hs.count_le, hs.head_eq, hs.occupied, hs.extracted⟩

theorem Reachable.wellFormed {s : CompensationPreprocessor K} (h : s.Reachable) :
    s.WellFormed := by
  induction h with
  | new garbage flushing => exact wellFormed_new garbage flushing
  | step op _ ih => exact wellFormed_step ih op

omit [LinearOrderedField K] [Sqrtf K] in
/-- The slot `apply_compensation` reads for corner context is the queue's second
entry, and it reads one exactly when the queue holds two. -/
theorem lookahead_eq_second {s : CompensationPreprocessor K} (hs : s.WellFormed) :
    (1 < s.bufferCount ∧ bufferNextIndex s.bufferTail ≠ s.bufferHead ↔ 1 < s.pending.length) ∧
    (1 < s.pending.length → s.pending[1]? = some (s.buffer (bufferNextIndex s.bufferTail))) := by
  rw [length_pending]
  refine ⟨⟨And.left, fun h => ⟨h, fun heq => ?_⟩⟩, fun h => ?_⟩
  · have := congrArg Fin.val heq
    have := hs.head_eq
    have := hs.count_le
    have := s.bufferTail.isLt
    simp only [bufferNextIndex_val, bufferSize] at *
    omega
  · have hidx : windowIndex s.bufferTail 1 = bufferNextIndex s.bufferTail := by
      ext; simp [windowIndex]
    simp [pending, List.getElem?_range h, hidx]

/-- The circular buffer refines a FIFO queue of at most ten commands, in every
reachable state: `buffer_gcode` appends or, when full, changes nothing;
`get_compensated_gcode` changes nothing or pops the front; the corner lookahead
reads the second entry; and `clear` empties the queue. -/
theorem circularBuffer_refines_queue {s : CompensationPreprocessor K} (hs : s.Reachable) :
    s.bufferCount = s.pending.length ∧ s.pending.length ≤ bufferSize ∧
    s.bufferHead.val = (s.bufferTail.val + s.bufferCount) % bufferSize ∧
    (∀ i, (s.buffer i).gcode.isSome ↔ s.InWindow i) ∧
    (∀ gcode, s.pending.length < bufferSize →
      (s.bufferGcode gcode).1 = true ∧
      (s.bufferGcode gcode).2.pending =
        s.pending ++ [(cloneAndExtract gcode (s.buffer s.bufferHead) s.uncompensatedPosition).1]) ∧
    (∀ gcode, bufferSize ≤ s.pending.length → s.bufferGcode gcode = (false, s)) ∧
    (s.getCompensatedGcode = (none, s) ∨
      ∃ first rest e ijk, s.pending = first :: rest ∧ s.getCompensatedGcode.2.pending = rest ∧
        s.getCompensatedGcode.1 =
          first.gcode.map (rebuild · { first with endpoint := e, ijk := ijk })) ∧
    (1 < s.bufferCount ∧ bufferNextIndex s.bufferTail ≠ s.bufferHead ↔ 1 < s.pending.length) ∧
    (1 < s.pending.length → s.pending[1]? = some (s.buffer (bufferNextIndex s.bufferTail))) ∧
    s.clear.pending = [] := by
  have hwf := hs.wellFormed
  rw [length_pending]
  have hlook := lookahead_eq_second hwf
  rw [length_pending] at hlook
  refine ⟨rfl, hwf.count_le, hwf.head_eq, hwf.occupied, fun gcode hspace => ?_,
    fun gcode hfull => bufferGcode_of_full hfull gcode, ?_, hlook.1, hlook.2, pending_clear s⟩
  · exact ⟨by simp [bufferGcode_of_lt hspace], pending_bufferGcode hwf hspace gcode⟩
  · rcases getCompensatedGcode_pops hwf with h | ⟨first, rest, e, ijk, hp, hrest, -, hout⟩
    · exact .inl h
    · exact .inr ⟨first, rest, e, ijk, hp, hrest, hout⟩

/-- G40 discards the queue: after `set_compensation(NONE, r)` nothing is
buffered and the next extraction returns null, whatever was waiting. -/
theorem setCompensation_none_discards (s : CompensationPreprocessor K) (radius : K) :
    (s.setCompensation .none radius).pending = [] ∧
      (s.setCompensation .none radius).getCompensatedGcode.1 = none := by
  have h0 : (s.setCompensation .none radius).bufferCount = 0 := by simp
  exact ⟨by simp [pending, h0], by rw [getCompensatedGcode_of_eq_zero h0]⟩

/-- A command accepted right before G40 is lost: from the constructor, the calls
`buffer_gcode(c)`, `set_compensation(NONE, 0)`, `get_compensated_gcode()` accept
`c`, emit nothing, and leave the queue empty. -/
theorem g40_loses_accepted_command (garbage : Fin bufferSize → BufferedGcode K)
    (flushing : Bool) (gcode : Gcode K) :
    ((new garbage flushing).run
        [.bufferGcode gcode, .setCompensation .none 0, .getCompensatedGcode]).1 =
      [.accepted true, .done, .emitted none] ∧
    ((new garbage flushing).run
        [.bufferGcode gcode, .setCompensation .none 0, .getCompensatedGcode]).2.pending = [] := by
  have hspace : (new garbage flushing).bufferCount < bufferSize := by simp [new]
  have h1 : ((new garbage flushing).bufferGcode gcode).1 = true := by
    simp [bufferGcode_of_lt hspace]
  have h0 :
      (((new garbage flushing).bufferGcode gcode).2.setCompensation .none 0).bufferCount = 0 := by
    simp
  simp only [run, step, h1, getCompensatedGcode_of_eq_zero h0]
  exact ⟨trivial, by simp [pending, h0]⟩

/-- From the constructor, under G40: one move passes through, then ten more fill
the buffer. -/
def wrapCalls : List (Op ℚ) :=
  .bufferGcode ⟨true, 1, false, 0, [('X', 2), ('Y', 0)], 0⟩ :: .getCompensatedGcode ::
    List.replicate 10 (.bufferGcode ⟨true, 1, false, 0, [('X', 2), ('Y', 0)], 0⟩)

/-- After `wrapCalls` the window starts at slot 1 and wraps past slot 9 to
slot 0; the queue has ten entries and the head is back at slot 1. -/
theorem circularBuffer_refines_queue_wrapped :
    let s := ((new (fun _ => default) false : CompensationPreprocessor ℚ).run wrapCalls).2
    s.Reachable ∧ bufferSize < s.bufferTail.val + s.bufferCount ∧
      s.bufferCount = s.pending.length ∧ s.pending.length ≤ bufferSize ∧
      s.bufferHead.val = (s.bufferTail.val + s.bufferCount) % bufferSize :=
  let h := circularBuffer_refines_queue (Reachable.run (.new (fun _ => default) false) wrapCalls)
  ⟨Reachable.run (.new _ _) wrapCalls, by decide, h.1, h.2.1, h.2.2.1⟩

end Runs

end CompensationPreprocessor

end CutterCompensation
