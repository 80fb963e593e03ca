import CutterCompensation.Properties.Lookahead
import CutterCompensation.Properties.ProgrammedPath

/-!
# The command ledger

What the engine is for, stated without its buffer: a stream transformer with a
bounded FIFO queue in the middle.  The ledger is computed from a run's calls
and replies alone.  Every command `buffer_gcode` accepts is queued with the
programmed position it was accepted at; an emitting `get_compensated_gcode`
hands back the oldest one; G40 and `clear()` drop whatever is queued.  An
emitted command is the text `get_compensated_gcode` prints for the command
accepted, which may differ from it only in X, Y, I and J (`Rewrites`).
`Allows` says which replies the service may give, and `Balanced` is its
bookkeeping: what was emitted, then what is queued, is in order a sublist of
what was accepted, and with what was dropped it is all of it.
-/

namespace CutterCompensation

variable {K : Type}

/-- The books of a run: the programmed position, the commands queued, and
every command accepted, emitted or dropped so far, each with the programmed
position it was accepted at. -/
structure CommandLedger (K : Type) where
  position : Vec3 K
  queued : List (Gcode K × Vec3 K)
  accepted : List (Gcode K × Vec3 K)
  emitted : List (Gcode K × Vec3 K)
  dropped : List (Gcode K × Vec3 K)

namespace CommandLedger

/-- An emission takes the oldest queued command. -/
def emit (l : CommandLedger K) : CommandLedger K :=
  { l with queued := l.queued.drop 1, emitted := l.emitted ++ l.queued.take 1 }

/-- G40 and `clear()` drop the queue. -/
def drop (l : CommandLedger K) : CommandLedger K :=
  { l with queued := [], dropped := l.dropped ++ l.queued }

@[simp] theorem emit_queued (l : CommandLedger K) : l.emit.queued = l.queued.drop 1 := rfl
@[simp] theorem emit_accepted (l : CommandLedger K) : l.emit.accepted = l.accepted := rfl
@[simp] theorem emit_emitted (l : CommandLedger K) :
    l.emit.emitted = l.emitted ++ l.queued.take 1 := rfl
@[simp] theorem emit_dropped (l : CommandLedger K) : l.emit.dropped = l.dropped := rfl
@[simp] theorem drop_queued (l : CommandLedger K) : l.drop.queued = [] := rfl
@[simp] theorem drop_accepted (l : CommandLedger K) : l.drop.accepted = l.accepted := rfl
@[simp] theorem drop_emitted (l : CommandLedger K) : l.drop.emitted = l.emitted := rfl
@[simp] theorem drop_dropped (l : CommandLedger K) :
    l.drop.dropped = l.dropped ++ l.queued := rfl

/-- The ledger's bookkeeping: emitted then queued is an ordered sublist of the
accepted commands, and with the dropped ones it accounts for every one of them
exactly once. -/
structure Balanced (l : CommandLedger K) : Prop where
  ordered : (l.emitted ++ l.queued).Sublist l.accepted
  complete : l.accepted.Perm (l.emitted ++ l.queued ++ l.dropped)

theorem Balanced.emit {l : CommandLedger K} (h : l.Balanced) : l.emit.Balanced := by
  have hsplit : l.emitted ++ l.queued.take 1 ++ l.queued.drop 1 = l.emitted ++ l.queued := by
    rw [List.append_assoc, List.take_append_drop]
  exact ⟨by simpa only [emit_emitted, emit_queued, emit_accepted, hsplit] using h.ordered,
    by simpa only [emit_emitted, emit_queued, emit_accepted, emit_dropped, hsplit] using
      h.complete⟩

theorem Balanced.drop {l : CommandLedger K} (h : l.Balanced) : l.drop.Balanced := by
  have hswap :
      (l.emitted ++ l.queued ++ l.dropped).Perm (l.emitted ++ (l.dropped ++ l.queued)) := by
    rw [List.append_assoc]
    exact List.perm_append_comm.append_left l.emitted
  refine ⟨?_, ?_⟩
  · simpa only [drop_emitted, drop_queued, drop_accepted, List.append_nil] using
      (List.sublist_append_left _ _).trans h.ordered
  · simpa only [drop_emitted, drop_queued, drop_accepted, drop_dropped, List.append_nil] using
      h.complete.trans hswap

/-- With nothing dropped the books close exactly: the emitted commands followed
by the queued ones are the accepted ones. -/
theorem Balanced.eq_of_dropped_nil {l : CommandLedger K} (h : l.Balanced)
    (hdropped : l.dropped = []) : l.emitted ++ l.queued = l.accepted := by
  refine h.ordered.eq_of_length ?_
  rw [h.complete.length_eq, hdropped, List.append_nil]

end CommandLedger

variable [LinearOrderedField K]

/-- A command the engine may emit for `gcode` accepted at `start`: the text
`get_compensated_gcode` prints for a slot holding `gcode` with its I/J flag,
its programmed Z for a motion and its K for an arc.  Only X, Y, I and J are the
engine's; a non-motion prints some X, Y and Z. -/
def Rewrites (gcode : Gcode K) (start : Vec3 K) (command : Command K) : Prop :=
  ∃ slot : BufferedGcode K, command = CompensationPreprocessor.rebuild gcode slot ∧
    slot.hasIjk = (gcode.isMotion && gcode.isArc) ∧
    (gcode.isMotion = true → slot.endpoint.z = (programmedEndpoint gcode start).z) ∧
    ((gcode.isMotion && gcode.isArc) = true → slot.ijk.z = gcode.valueOr 'K' 0)

/-- `gcode` accepted at `start` and emitted as it was programmed: the same text
with, for a motion, the programmed endpoint and, for an arc, its own I, J and K.
A command that is not a motion prints some X, Y and Z. -/
def AsProgrammed (gcode : Gcode K) (start : Vec3 K) (command : Command K) : Prop :=
  ∃ endpoint : Vec3 K,
    command = ⟨CompensationPreprocessor.commandText gcode endpoint
      ⟨gcode.valueOr 'I' 0, gcode.valueOr 'J' 0, gcode.valueOr 'K' 0⟩
      (gcode.isMotion && gcode.isArc) false, gcode.stream⟩ ∧
    (gcode.isMotion = true → endpoint = programmedEndpoint gcode start)

namespace CommandLedger

/-- The constructor's books: at the origin, nothing seen. -/
def init : CommandLedger K := ⟨⟨0, 0, 0⟩, [], [], [], []⟩

/-- An accepted command joins the queue at the programmed position, which a
motion moves on to its programmed endpoint. -/
def accept (l : CommandLedger K) (gcode : Gcode K) : CommandLedger K where
  position := if gcode.isMotion then programmedEndpoint gcode l.position else l.position
  queued := l.queued ++ [(gcode, l.position)]
  accepted := l.accepted ++ [(gcode, l.position)]
  emitted := l.emitted
  dropped := l.dropped

@[simp] theorem accept_queued (l : CommandLedger K) (gcode : Gcode K) :
    (l.accept gcode).queued = l.queued ++ [(gcode, l.position)] := rfl
@[simp] theorem accept_accepted (l : CommandLedger K) (gcode : Gcode K) :
    (l.accept gcode).accepted = l.accepted ++ [(gcode, l.position)] := rfl
@[simp] theorem accept_emitted (l : CommandLedger K) (gcode : Gcode K) :
    (l.accept gcode).emitted = l.emitted := rfl
@[simp] theorem accept_dropped (l : CommandLedger K) (gcode : Gcode K) :
    (l.accept gcode).dropped = l.dropped := rfl

/-- One call and its reply in the books: G40 and `clear()` drop the queue,
`set_initial_position` moves the programmed position. -/
def after (l : CommandLedger K) : Op K × Reply K → CommandLedger K
  | (.bufferGcode gcode, .accepted true) => l.accept gcode
  | (.getCompensatedGcode, .emitted (some _)) => l.emit
  | (.setCompensation .none _, _) => l.drop
  | (.clear, _) => l.drop
  | (.setInitialPosition position, _) => { l with position := position }
  | _ => l

@[simp] theorem after_accepted (l : CommandLedger K) (gcode : Gcode K) :
    l.after (.bufferGcode gcode, .accepted true) = l.accept gcode := rfl

@[simp] theorem after_flush (l : CommandLedger K) (reply : Reply K) :
    l.after (.flush, reply) = l := by
  rcases reply with _ | (_ | _) | _ <;> rfl

/-- An extraction never changes what was accepted. -/
@[simp] theorem accepted_after_get (l : CommandLedger K) (reply : Reply K) :
    (l.after (.getCompensatedGcode, reply)).accepted = l.accepted := by
  rcases reply with _ | (_ | _) | _ <;> rfl

/-- The replies the service may give: `buffer_gcode` accepts exactly when
fewer than ten commands are queued; `get_compensated_gcode` returns null or a
rewrite of the oldest queued command; the other calls return nothing. -/
def Allows (l : CommandLedger K) : Op K × Reply K → Prop
  | (.bufferGcode _, reply) => reply = .accepted (decide (l.queued.length < bufferSize))
  | (.getCompensatedGcode, .emitted none) => True
  | (.getCompensatedGcode, .emitted (some command)) =>
    ∃ gcode start rest, l.queued = (gcode, start) :: rest ∧ Rewrites gcode start command
  | (.getCompensatedGcode, _) => False
  | (_, reply) => reply = .done

/-- A trace the service may produce from `l`, call by call. -/
def Accepts : CommandLedger K → List (Op K × Reply K) → Prop
  | _, [] => True
  | l, p :: ps => l.Allows p ∧ (l.after p).Accepts ps

/-- Only an emitting call adds to the emitted books. -/
theorem emitted_after {l : CommandLedger K} {p : Op K × Reply K}
    (hp : Reply.emittedCommands [p.2] = []) : (l.after p).emitted = l.emitted := by
  unfold after
  split <;> simp_all [Reply.emittedCommands]

theorem balanced_init : (init : CommandLedger K).Balanced :=
  ⟨.slnil, .nil⟩

theorem Balanced.accept {l : CommandLedger K} (h : l.Balanced) (gcode : Gcode K) :
    (l.accept gcode).Balanced := by
  refine ⟨?_, List.perm_iff_count.mpr fun a => ?_⟩
  · simpa only [accept_emitted, accept_queued, accept_accepted, ← List.append_assoc] using
      h.ordered.append_right _
  · have := List.perm_iff_count.mp h.complete a
    simp only [accept_emitted, accept_queued, accept_accepted, accept_dropped,
      List.count_append] at this ⊢
    omega

/-- The books stay balanced whatever the replies. -/
theorem Balanced.after {l : CommandLedger K} (h : l.Balanced) (p : Op K × Reply K) :
    (l.after p).Balanced := by
  unfold CommandLedger.after
  split
  · exact h.accept _
  · exact h.emit
  · exact h.drop
  · exact h.drop
  · exact ⟨h.ordered, h.complete⟩
  · exact h

theorem Balanced.foldl {l : CommandLedger K} (h : l.Balanced) (trace : List (Op K × Reply K)) :
    (trace.foldl CommandLedger.after l).Balanced := by
  induction trace generalizing l with
  | nil => exact h
  | cons p ps ih => exact ih (h.after p)

/-- A call that does not run `clear()` drops nothing. -/
theorem dropped_after {l : CommandLedger K} {p : Op K × Reply K} (hp : p.1.lowersFlag = false) :
    (l.after p).dropped = l.dropped := by
  unfold after
  split <;> simp_all [Op.lowersFlag]

theorem dropped_foldl {l : CommandLedger K} {trace : List (Op K × Reply K)}
    (htrace : ∀ p ∈ trace, p.1.lowersFlag = false) :
    (trace.foldl after l).dropped = l.dropped := by
  induction trace generalizing l with
  | nil => rfl
  | cons p ps ih =>
    rw [List.foldl_cons, ih fun q hq => htrace q (List.mem_cons_of_mem p hq),
      dropped_after (htrace p (List.mem_cons_self p ps))]

end CommandLedger

end CutterCompensation
