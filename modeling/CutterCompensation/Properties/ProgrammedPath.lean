import CutterCompensation.Buffer.Drain
import Mathlib.Data.List.Forall2

/-!
# The programmed path

`uncompensated_position` follows the program as written: `clone_and_extract`
moves it to each accepted motion's endpoint, taking missing axes from where it
was, and records where it was as the slot's `uncomp_start`.  This module states
that path from a run's calls and replies alone, as `ProgrammedPath`, and proves
that the engine tracks it in every reachable state: the same position, and each
buffered motion starting where the path was when the motion was accepted.
Compensation rewrites only endpoints and I/J, so neither value ever moves
otherwise.
-/

namespace CutterCompensation

variable {K : Type} [LinearOrderedField K]

/-- The programmed absolute endpoint of a motion: its own X/Y/Z words, with a
missing axis taken from the previous position. -/
def programmedEndpoint (gcode : Gcode K) (previous : Vec3 K) : Vec3 K :=
  ⟨gcode.valueOr 'X' previous.x, gcode.valueOr 'Y' previous.y, gcode.valueOr 'Z' previous.z⟩

/-- The programmed path as far as a run has gone: the position reached, and
for each buffered command, in queue order, the position it was accepted at. -/
structure ProgrammedPath (K : Type) where
  position : Vec3 K
  starts : List (Vec3 K)

/-- One call and its reply on the programmed path.  An accepted motion moves
the position to its programmed endpoint, `set_initial_position` sets it, and
nothing else moves it; an accepted command is queued with the position it was
accepted at, an emitted one leaves the queue, and G40 or `clear()` empty it. -/
def ProgrammedPath.after (path : ProgrammedPath K) : Op K × Reply K → ProgrammedPath K
  | (.bufferGcode gcode, .accepted true) =>
    { position := if gcode.isMotion then programmedEndpoint gcode path.position else path.position
      starts := path.starts ++ [path.position] }
  | (.getCompensatedGcode, .emitted (some _)) => { path with starts := path.starts.tail }
  | (.setCompensation .none _, _) => { path with starts := [] }
  | (.clear, _) => { path with starts := [] }
  | (.setInitialPosition position, _) => { path with position := position }
  | _ => path

namespace CompensationPreprocessor

/-- The engine agrees with the programmed path: the same position, and every
buffered motion slot starting where the path recorded its command. -/
structure TracksPath (s : CompensationPreprocessor K) (path : ProgrammedPath K) : Prop where
  position : s.uncompensatedPosition = path.position
  starts : List.Forall₂ (fun slot start => slot.isMove = true → slot.uncompStart = start)
    s.pending path.starts

theorem cloneAndExtract_snd_eq (gcode : Gcode K) (slot : BufferedGcode K) (p : Vec3 K) :
    (cloneAndExtract gcode slot p).2 =
      if gcode.isMotion then programmedEndpoint gcode p else p := by
  unfold cloneAndExtract programmedEndpoint
  split_ifs <;> rfl

theorem TracksPath.bufferGcode {s : CompensationPreprocessor K} {path : ProgrammedPath K}
    (hs : s.WellFormed) (h : s.TracksPath path) (gcode : Gcode K) :
    (s.bufferGcode gcode).2.TracksPath
      (path.after (.bufferGcode gcode, .accepted (s.bufferGcode gcode).1)) := by
  by_cases hspace : s.bufferCount < bufferSize
  · have hnew : let slot := (cloneAndExtract gcode (s.buffer s.bufferHead)
        s.uncompensatedPosition).1
        slot.isMove = true → slot.uncompStart = path.position := fun hmove => by
      rw [cloneAndExtract_isMove] at hmove
      rw [cloneAndExtract_uncompStart hmove, h.position]
    have hpending := pending_bufferGcode hs hspace gcode
    rw [bufferGcode_of_lt hspace] at hpending ⊢
    refine ⟨?_, ?_⟩
    · simp only [ProgrammedPath.after, cloneAndExtract_snd_eq, h.position]
    · rw [hpending]
      exact List.rel_append h.starts (.cons hnew .nil)
  · rw [bufferGcode_of_full (not_lt.mp hspace)]
    exact h

variable [Sqrtf K]

theorem resolveTail_uncompensatedPosition (s : CompensationPreprocessor K) :
    s.resolveTail.uncompensatedPosition = s.uncompensatedPosition := by
  unfold resolveTail applyCompensation
  split_ifs <;> rfl

theorem getCompensatedGcode_uncompensatedPosition (s : CompensationPreprocessor K) :
    s.getCompensatedGcode.2.uncompensatedPosition = s.uncompensatedPosition := by
  unfold getCompensatedGcode
  split_ifs
  · rfl
  · rfl
  · exact resolveTail_uncompensatedPosition s

theorem TracksPath.getCompensatedGcode {s : CompensationPreprocessor K} {path : ProgrammedPath K}
    (hs : s.WellFormed) (h : s.TracksPath path) :
    s.getCompensatedGcode.2.TracksPath
      (path.after (.getCompensatedGcode, .emitted s.getCompensatedGcode.1)) := by
  rcases getCompensatedGcode_pops hs with hnone | ⟨first, rest, e, ijk, hp, hrest, -, hout⟩
  · rw [hnone]
    exact h
  have h0 : s.bufferCount ≠ 0 := by
    rw [← length_pending, hp]
    simp
  obtain ⟨rest', hp'⟩ := pending_eq_cons h0
  obtain ⟨rfl, -⟩ := List.cons.inj (hp.symm.trans hp')
  obtain ⟨gcode, hgcode, -⟩ := hs.extracted_tail h0
  rw [hgcode, Option.map_some'] at hout
  have hstarts := h.starts
  rw [hp, List.forall₂_cons_left_iff] at hstarts
  obtain ⟨start, starts, -, hrel, hpath⟩ := hstarts
  refine ⟨?_, ?_⟩
  · simp only [getCompensatedGcode_uncompensatedPosition, h.position, hout, ProgrammedPath.after]
  · simp only [hout, ProgrammedPath.after, hpath, List.tail_cons, hrest]
    exact hrel

theorem TracksPath.step {s : CompensationPreprocessor K} {path : ProgrammedPath K}
    (hs : s.WellFormed) (h : s.TracksPath path) (op : Op K) :
    (s.step op).2.TracksPath (path.after (op, (s.step op).1)) := by
  cases op with
  | bufferGcode gcode => exact h.bufferGcode hs gcode
  | getCompensatedGcode => exact h.getCompensatedGcode hs
  | setCompensation type radius =>
    by_cases htype : type = .none
    · subst htype
      exact ⟨h.position, by
        simp [CompensationPreprocessor.step, ProgrammedPath.after, setCompensation_none_discards]⟩
    · have hafter : path.after (.setCompensation type radius, .done) = path := by
        cases type <;> simp_all [ProgrammedPath.after]
      simp only [CompensationPreprocessor.step, hafter, setCompensation_of_ne_none s htype]
      exact ⟨h.position, h.starts⟩
  | flush => exact ⟨h.position, h.starts⟩
  | clear => exact ⟨h.position, by simp [CompensationPreprocessor.step, ProgrammedPath.after]⟩
  | setInitialPosition position => exact ⟨rfl, h.starts⟩

theorem TracksPath.run {s : CompensationPreprocessor K} {path : ProgrammedPath K}
    (hs : s.WellFormed) (h : s.TracksPath path) (ops : List (Op K)) :
    (s.run ops).2.TracksPath ((ops.zip (s.run ops).1).foldl ProgrammedPath.after path) := by
  induction ops generalizing s path with
  | nil => exact h
  | cons op ops ih => exact ih (wellFormed_step hs op) (h.step hs op)

/-- `uncompensated_position` and `uncomp_start` follow the programmed path on
every run: the position is the endpoint of the last accepted motion (or the
origin, or a later `set_initial_position`), and every buffered motion's
`uncomp_start` is the programmed position at the call that accepted it. -/
theorem programmedPath_tracked (garbage : Fin bufferSize → BufferedGcode K) (flushing : Bool)
    (ops : List (Op K)) :
    let r := (new garbage flushing).run ops
    let path := (ops.zip r.1).foldl ProgrammedPath.after ⟨⟨0, 0, 0⟩, []⟩
    r.2.uncompensatedPosition = path.position ∧
      List.Forall₂ (fun slot start => slot.isMove = true → slot.uncompStart = start)
        r.2.pending path.starts :=
  let h := TracksPath.run (wellFormed_new garbage flushing)
    (⟨rfl, by simp [pending, new]⟩ : (new garbage flushing).TracksPath ⟨⟨0, 0, 0⟩, []⟩) ops
  ⟨h.position, h.starts⟩

end CompensationPreprocessor

end CutterCompensation
