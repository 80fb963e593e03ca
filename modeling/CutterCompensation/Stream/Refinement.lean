import CutterCompensation.Stream.Ledger

/-!
# The engine implements the ledger

The circular buffer stands for the ledger's queue: slot by slot, the window
holds what `clone_and_extract` made of each queued command from the position it
was accepted at (`TracksLedger`).  Each call keeps that correspondence and
gives a reply the ledger allows, and a command it emits is the clone of the
entry the books emit, as `apply_compensation` resolved it at the tail
(`EmittedFor`).  So every run from the constructor is a trace of the service,
whatever memory the constructor leaves unassigned, and the books account for
every command the engine emits or still holds.
-/

namespace CutterCompensation

namespace CompensationPreprocessor

variable {K : Type} [LinearOrderedField K]

/-- A buffered slot holds a ledger entry: it is what `clone_and_extract` made
of the command from the position it was accepted at, over whatever the slot
held before. -/
def Holds (slot : BufferedGcode K) (entry : Gcode K × Vec3 K) : Prop :=
  ∃ old, slot = (cloneAndExtract entry.1 old entry.2).1

/-- The engine agrees with the books: the same programmed position, and the
window holding the queue. -/
structure TracksLedger (s : CompensationPreprocessor K) (l : CommandLedger K) : Prop where
  position : s.uncompensatedPosition = l.position
  queue : List.Forall₂ Holds s.pending l.queued

/-- A slot rewritten only in X, Y, I and J, as resolution leaves it, rebuilds
into a rewrite of the entry the slot held. -/
theorem Holds.rewrites {slot t : BufferedGcode K} {gcode : Gcode K} {start : Vec3 K}
    (h : Holds slot (gcode, start)) (hijk : t.hasIjk = slot.hasIjk)
    (hz : t.endpoint.z = slot.endpoint.z) (hk : t.ijk.z = slot.ijk.z) :
    Rewrites gcode start (rebuild gcode t) := by
  obtain ⟨old, rfl⟩ := h
  refine ⟨t, rfl, by rw [hijk, cloneAndExtract_hasIjk], fun hm => ?_, fun harc => ?_⟩
  · rw [hz, cloneAndExtract_endpoint hm]
    rfl
  · rw [Bool.and_eq_true] at harc
    rw [hk, cloneAndExtract_ijk harc.1 _ _ harc.2]

/-- A slot that leaves unresolved rebuilds into its entry as programmed. -/
theorem Holds.asProgrammed {slot : BufferedGcode K} {gcode : Gcode K} {start : Vec3 K}
    (h : Holds slot (gcode, start)) : AsProgrammed gcode start (rebuild gcode slot) := by
  obtain ⟨old, rfl⟩ := h
  refine ⟨(cloneAndExtract gcode old start).1.endpoint, ?_,
    fun hm => by rw [cloneAndExtract_endpoint hm]; rfl⟩
  simp only [rebuild, cloneAndExtract_hasIjk, Command.mk.injEq, and_true]
  cases harc : (gcode.isMotion && gcode.isArc)
  · simp [commandText]
  · rw [Bool.and_eq_true] at harc
    rw [cloneAndExtract_ijk harc.1 _ _ harc.2]

theorem TracksLedger.bufferGcode {s : CompensationPreprocessor K} {l : CommandLedger K}
    (hs : s.WellFormed) (h : s.TracksLedger l) (gcode : Gcode K) :
    l.Allows (.bufferGcode gcode, .accepted (s.bufferGcode gcode).1) ∧
      (s.bufferGcode gcode).2.TracksLedger
        (l.after (.bufferGcode gcode, .accepted (s.bufferGcode gcode).1)) := by
  have hlength : s.bufferCount = l.queued.length := by
    rw [← length_pending]
    exact h.queue.length_eq
  by_cases hspace : s.bufferCount < bufferSize
  · have hpending := pending_bufferGcode hs hspace gcode
    rw [bufferGcode_of_lt hspace] at hpending ⊢
    refine ⟨by simp [CommandLedger.Allows, ← hlength, hspace], ?_, ?_⟩
    · simp only [CommandLedger.after, CommandLedger.accept, cloneAndExtract_snd_eq, h.position]
    · rw [hpending]
      exact List.rel_append h.queue (.cons ⟨_, by rw [h.position]⟩ .nil)
  · rw [bufferGcode_of_full (not_lt.mp hspace)]
    exact ⟨by simp [CommandLedger.Allows, ← hlength, hspace], h.position, h.queue⟩

theorem tracksLedger_new (garbage : Fin bufferSize → BufferedGcode K) (flushing : Bool) :
    (new garbage flushing).TracksLedger CommandLedger.init :=
  ⟨rfl, by simp [pending, new, CommandLedger.init]⟩

variable [Sqrtf K]

/-- `emission` hands back `entry`: the call found the entry's clone at the tail,
and the command is that clone as `apply_compensation` resolved it. -/
def EmittedFor (emission : Command K × CompensationPreprocessor K) (entry : Gcode K × Vec3 K) :
    Prop :=
  Holds (emission.2.buffer emission.2.bufferTail) entry ∧
    emission.1 = rebuild entry.1 (emission.2.resolveTail.buffer emission.2.bufferTail)

/-- A call that emits found the lookahead gate open. -/
theorem getCompensatedGcode_open_of_some {s : CompensationPreprocessor K} {command : Command K}
    (hemit : s.getCompensatedGcode.1 = some command) :
    ¬(s.bufferCount = 0 ∨
      (s.bufferCount < 3 ∧ s.compensationType ≠ .none ∧ s.isFlushing = false)) := by
  intro h
  rw [getCompensatedGcode_fst, if_pos h] at hemit
  cases hemit

/-- Resolution changes the tail slot only in X, Y, I and J. -/
theorem resolveTail_tail_frame (s : CompensationPreprocessor K) :
    (s.resolveTail.buffer s.bufferTail).gcode = (s.buffer s.bufferTail).gcode ∧
      (s.resolveTail.buffer s.bufferTail).hasIjk = (s.buffer s.bufferTail).hasIjk ∧
      (s.resolveTail.buffer s.bufferTail).endpoint.z = (s.buffer s.bufferTail).endpoint.z ∧
      (s.resolveTail.buffer s.bufferTail).ijk.z = (s.buffer s.bufferTail).ijk.z := by
  rw [resolveTail_buffer_tail]
  split_ifs
  · simp only [resolvedSlot]
    split <;> simp
  · simp

/-- An emitting call hands back the oldest entry of the books the engine agrees
with. -/
theorem TracksLedger.emittedFor {s : CompensationPreprocessor K} {l : CommandLedger K}
    (h : s.TracksLedger l) {command : Command K} (hemit : s.getCompensatedGcode.1 = some command) :
    ∃ entry rest, l.queued = entry :: rest ∧ EmittedFor (command, s) entry := by
  have hgate := getCompensatedGcode_open_of_some hemit
  obtain ⟨pend, hp⟩ := pending_eq_cons (not_or.mp hgate).1
  have hqueue := h.queue
  rw [hp] at hqueue
  obtain ⟨entry, rest, ⟨old, hslot⟩, -, hqueued⟩ := List.forall₂_cons_left_iff.mp hqueue
  refine ⟨entry, rest, hqueued, ⟨old, hslot⟩, ?_⟩
  rw [getCompensatedGcode_fst, if_neg hgate, (resolveTail_tail_frame s).1, hslot,
    cloneAndExtract_gcode, Option.map_some', Option.some.injEq] at hemit
  exact hemit.symm

/-- What one call adds to the emitted books are the entries its command is
handed back for. -/
theorem TracksLedger.emitted_step {s : CompensationPreprocessor K} {l : CommandLedger K}
    (h : s.TracksLedger l) (op : Op K) :
    ∃ entries, (l.after (op, (s.step op).1)).emitted = l.emitted ++ entries ∧
      List.Forall₂ EmittedFor (s.emissions [op]) entries := by
  match op with
  | .getCompensatedGcode =>
    cases hemit : s.getCompensatedGcode.1 with
    | none => exact ⟨[], by simp [step, hemit, CommandLedger.after], by simp [hemit]⟩
    | some command =>
      obtain ⟨entry, rest, hqueued, hfor⟩ := h.emittedFor hemit
      exact ⟨[entry], by simp [step, hemit, CommandLedger.after, hqueued], by simp [hemit, hfor]⟩
  | .bufferGcode _ | .setCompensation _ _ | .flush | .clear | .setInitialPosition _ =>
    exact ⟨[], by rw [List.append_nil]; exact CommandLedger.emitted_after rfl, .nil⟩

/-- A command handed back for an entry is a rewrite of it. -/
theorem EmittedFor.rewrites {emission : Command K × CompensationPreprocessor K}
    {entry : Gcode K × Vec3 K} (h : EmittedFor emission entry) :
    Rewrites entry.1 entry.2 emission.1 := by
  obtain ⟨-, hijk, hz, hk⟩ := resolveTail_tail_frame emission.2
  rw [h.2]
  exact h.1.rewrites hijk hz hk

theorem TracksLedger.getCompensatedGcode {s : CompensationPreprocessor K} {l : CommandLedger K}
    (hs : s.WellFormed) (h : s.TracksLedger l) :
    l.Allows (.getCompensatedGcode, .emitted s.getCompensatedGcode.1) ∧
      s.getCompensatedGcode.2.TracksLedger
        (l.after (.getCompensatedGcode, .emitted s.getCompensatedGcode.1)) := by
  rcases getCompensatedGcode_pops hs with hnone | ⟨first, rest, e, ijk, hp, hrest, -, hout⟩
  · rw [hnone]
    exact ⟨trivial, h⟩
  have h0 : s.bufferCount ≠ 0 := by
    rw [← length_pending, hp]
    simp
  obtain ⟨rest', hp'⟩ := pending_eq_cons h0
  obtain ⟨rfl, -⟩ := List.cons.inj (hp.symm.trans hp')
  obtain ⟨gcode, hgcode, -⟩ := hs.extracted_tail h0
  rw [hgcode, Option.map_some'] at hout
  obtain ⟨entry, entries, hqueued, hfor⟩ := h.emittedFor hout
  have hrel := h.queue
  rw [hp, hqueued] at hrel
  refine ⟨?_, ?_, ?_⟩
  · rw [hout]
    exact ⟨entry.1, entry.2, entries, hqueued, hfor.rewrites⟩
  · simp only [getCompensatedGcode_uncompensatedPosition, h.position, hout,
      CommandLedger.after, CommandLedger.emit]
  · simp only [hout, CommandLedger.after, CommandLedger.emit_queued, hqueued, List.drop_succ_cons,
      List.drop_zero, hrest]
    exact (List.forall₂_cons.mp hrel).2

/-- Each call keeps the correspondence and gives a reply the ledger allows. -/
theorem TracksLedger.step {s : CompensationPreprocessor K} {l : CommandLedger K}
    (hs : s.WellFormed) (h : s.TracksLedger l) (op : Op K) :
    l.Allows (op, (s.step op).1) ∧ (s.step op).2.TracksLedger (l.after (op, (s.step op).1)) := by
  cases op with
  | bufferGcode gcode => exact h.bufferGcode hs gcode
  | getCompensatedGcode => exact h.getCompensatedGcode hs
  | setCompensation type radius =>
    by_cases htype : type = .none
    · subst htype
      refine ⟨rfl, h.position, ?_⟩
      simp [CompensationPreprocessor.step, CommandLedger.after, setCompensation_none_discards]
    · have hafter : l.after (.setCompensation type radius, .done) = l := by
        cases type <;> simp_all [CommandLedger.after]
      simp only [CompensationPreprocessor.step, hafter, setCompensation_of_ne_none s htype]
      exact ⟨rfl, h.position, h.queue⟩
  | flush => exact ⟨rfl, h.position, h.queue⟩
  | clear =>
    exact ⟨rfl, h.position, by simp [CompensationPreprocessor.step, CommandLedger.after]⟩
  | setInitialPosition position => exact ⟨rfl, rfl, h.queue⟩

/-- The run lemma: from books the engine agrees with, every run is a trace the
service accepts, the engine still agrees with the books it leads to, and every
command it emits is handed back for the entry the books emit with it. -/
theorem TracksLedger.run {s : CompensationPreprocessor K} {l : CommandLedger K}
    (hs : s.WellFormed) (h : s.TracksLedger l) (ops : List (Op K)) :
    l.Accepts (ops.zip (s.run ops).1) ∧
      (s.run ops).2.TracksLedger ((ops.zip (s.run ops).1).foldl CommandLedger.after l) ∧
      ∃ entries, ((ops.zip (s.run ops).1).foldl CommandLedger.after l).emitted =
        l.emitted ++ entries ∧ List.Forall₂ EmittedFor (s.emissions ops) entries := by
  induction ops generalizing s l with
  | nil => exact ⟨trivial, h, [], by simp, .nil⟩
  | cons op ops ih =>
    obtain ⟨hallow, hnext⟩ := h.step hs op
    obtain ⟨entries, hafter, hfor⟩ := h.emitted_step op
    obtain ⟨haccepts, htracks, rest, hrest, hfor'⟩ := ih (wellFormed_step hs op) hnext
    refine ⟨⟨hallow, haccepts⟩, htracks, entries ++ rest, ?_, ?_⟩
    · change ((ops.zip ((s.step op).2.run ops).1).foldl CommandLedger.after
        (l.after (op, (s.step op).1))).emitted = _
      rw [hrest, hafter, List.append_assoc]
    · rw [emissions_cons]
      exact List.rel_append hfor hfor'

theorem length_run_fst (s : CompensationPreprocessor K) (ops : List (Op K)) :
    (s.run ops).1.length = ops.length := by
  induction ops generalizing s with
  | nil => rfl
  | cons op ops ih => simp [run, ih]

/-- The books of a run from the constructor: the engine tracks them, they
balance, and they record the entry of every command the engine emits. -/
theorem ledger_of_run (garbage : Fin bufferSize → BufferedGcode K) (flushing : Bool)
    (ops : List (Op K)) :
    let r := (new garbage flushing).run ops
    let l := (ops.zip r.1).foldl CommandLedger.after CommandLedger.init
    CommandLedger.init.Accepts (ops.zip r.1) ∧ r.2.TracksLedger l ∧ l.Balanced ∧
      List.Forall₂ EmittedFor ((new garbage flushing).emissions ops) l.emitted := by
  intro r l
  obtain ⟨haccepts, htracks, entries, hemitted, hfor⟩ :=
    TracksLedger.run (wellFormed_new garbage flushing) (tracksLedger_new garbage flushing) ops
  refine ⟨haccepts, htracks, CommandLedger.balanced_init.foldl _, ?_⟩
  rw [show l.emitted = entries from hemitted]
  exact hfor

/-- No command is lost, duplicated or reordered but by G40 and `clear()`: the
commands the engine emitted, each for its own entry, then those its window
holds, are in order a sublist of the accepted ones, and with the dropped ones
all of them; with no G40 and no `clear()`, exactly them. -/
theorem emitted_commands_accounted (garbage : Fin bufferSize → BufferedGcode K)
    (flushing : Bool) (ops : List (Op K)) :
    let r := (new garbage flushing).run ops
    let l := (ops.zip r.1).foldl CommandLedger.after CommandLedger.init
    List.Forall₂ EmittedFor ((new garbage flushing).emissions ops) l.emitted ∧
      List.Forall₂ Holds r.2.pending l.queued ∧
      (l.emitted ++ l.queued).Sublist l.accepted ∧
      l.accepted.Perm (l.emitted ++ l.queued ++ l.dropped) ∧
      ((∀ op ∈ ops, op.lowersFlag = false) → l.emitted ++ l.queued = l.accepted) := by
  intro r l
  obtain ⟨-, htracks, hbalanced, hfor⟩ := ledger_of_run garbage flushing ops
  refine ⟨hfor, htracks.queue, hbalanced.ordered, hbalanced.complete,
    fun hops => hbalanced.eq_of_dropped_nil ?_⟩
  exact CommandLedger.dropped_foldl fun p hp => hops p.1 (List.of_mem_zip hp).1

end CompensationPreprocessor

end CutterCompensation
