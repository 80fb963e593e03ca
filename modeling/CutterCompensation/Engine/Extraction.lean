import CutterCompensation.Engine.Preprocessor
import CutterCompensation.Geometry.Kernel

/-!
# Resolution and extraction

`apply_compensation` resolves the oldest buffered move in place, and
`get_compensated_gcode` rebuilds the command text from the resolved slot and
frees the slot.  The last section closes the model into a state machine: the
public calls as one `step` function, runs of calls from the constructor, and
the states such runs reach.
-/

namespace CutterCompensation

namespace CompensationPreprocessor

variable {K : Type} [LinearOrderedField K]

/-- The chain of `snprintf` calls shared by `get_compensated_gcode` and
`modify_gcode_coordinates`: the motion code when the command has one, the three
axes, I/J/K for an arc, and the feed rate when the command has an `F` word.
The two callers differ only in the blank after the feed rate. -/
def commandText (gcode : Gcode K) (endpoint ijk : Vec3 K) (hasIjk feedBlank : Bool) :
    List (Conversion K) :=
  (if gcode.hasG then [.motionCode gcode.g] else []) ++ [.axes endpoint] ++
    (if hasIjk then [.arcOffsets ijk] else []) ++
    (if gcode.hasLetter 'F' then [.feedRate (gcode.getValue 'F') feedBlank] else [])

/-- `modify_gcode_coordinates`.  It builds this text and then drops it (its
own comment says so), so `apply_compensation` is modelled without the call. -/
def modifyGcodeCoordinates (gcode : Gcode K) (newEndpoint newIjk : Vec3 K) (hasIjk : Bool) :
    List (Conversion K) :=
  commandText gcode newEndpoint newIjk hasIjk true

/-- The command `get_compensated_gcode` builds from a slot and its clone: the
text of the slot's coordinates, passed with the clone's stream to the `Gcode`
constructor.  The chain is kept whole; the constructor reads it from
`cmd_buffer[256]`, so it receives all of it only when it fits (`Command.Fits`). -/
def rebuild (gcode : Gcode K) (slot : BufferedGcode K) : Command K where
  conversions := commandText gcode slot.endpoint slot.ijk slot.hasIjk false
  stream := gcode.stream

theorem rebuild_letters (gcode : Gcode K) (slot : BufferedGcode K) :
    (rebuild gcode slot).words.map (·.1) =
      (if gcode.hasG then ['G'] else []) ++ ['X', 'Y', 'Z'] ++
        (if slot.hasIjk then ['I', 'J', 'K'] else []) ++
        (if gcode.hasLetter 'F' then ['F'] else []) := by
  simp only [rebuild, commandText, Command.words]
  split_ifs <;> simp [Conversion.words]

theorem rebuild_findWord_G (gcode : Gcode K) (slot : BufferedGcode K) (hg : gcode.hasG = true) :
    (rebuild gcode slot).findWord 'G' = some ((gcode.g : K), none) := by
  simp [rebuild, commandText, Command.findWord, Command.words, Conversion.words, hg]

theorem rebuild_findWord_F (gcode : Gcode K) (slot : BufferedGcode K) :
    (rebuild gcode slot).findWord 'F' =
      if gcode.hasLetter 'F' then some (gcode.getValue 'F', some 1) else none := by
  simp only [rebuild, commandText, Command.findWord, Command.words]
  split_ifs <;> simp [Conversion.words]

variable [Sqrtf K]

/-- The offset of both fallback branches of `apply_compensation`: the direction
runs from `uncompensated_position`, the endpoint of the command buffered last,
to the move's endpoint. -/
def fallbackOffset (s : CompensationPreprocessor K) (current : BufferedGcode K)
    (isLeft : Bool) : Vec2 K :=
  let dir := normalize2 ⟨current.endpoint.x - s.uncompensatedPosition.x,
    current.endpoint.y - s.uncompensatedPosition.y⟩
  calculatePerpendicularOffset current.endpoint.xy dir s.compensationRadius isLeft

/-- The straight-line branch of `apply_compensation`: the new XY endpoint of
the line in slot `index`.  A following line gives a corner; `dir1` is built from
`prev = uncompensated_position - endpoint` when `index` is the tail. -/
def lineEndpoint (s : CompensationPreprocessor K) (index : Fin bufferSize) (isLeft : Bool) :
    Vec2 K :=
  let current := s.buffer index
  let nextIndex := bufferNextIndex index
  if 1 < s.bufferCount ∧ nextIndex ≠ s.bufferHead then
    let next := s.buffer nextIndex
    if next.isMove && !next.hasIjk then
      let prevX := if index = s.bufferTail then
          s.uncompensatedPosition.x - current.endpoint.x
        else (s.buffer (index - 1)).endpoint.x
      let prevY := if index = s.bufferTail then
          s.uncompensatedPosition.y - current.endpoint.y
        else (s.buffer (index - 1)).endpoint.y
      let dir1 := normalize2 ⟨current.endpoint.x - prevX, current.endpoint.y - prevY⟩
      let dir2 := normalize2 ⟨next.endpoint.x - current.endpoint.x,
        next.endpoint.y - current.endpoint.y⟩
      (calculateCornerIntersection current.endpoint.xy dir1 dir2 s.compensationRadius
          isLeft).getD
        (calculatePerpendicularOffset current.endpoint.xy dir1 s.compensationRadius isLeft)
    else fallbackOffset s current isLeft
  else fallbackOffset s current isLeft

/-- The arc branch of `apply_compensation`: the new XY endpoint and I/J.  The
`false` return of a degenerate arc is ignored, which keeps the old values. -/
def arcEndpoint (s : CompensationPreprocessor K) (current : BufferedGcode K) (isLeft : Bool) :
    Vec2 K × Vec2 K :=
  (compensateArcEndpoint current.uncompStart.xy s.compensatedPosition.xy current.endpoint.xy
      current.ijk.xy s.compensationRadius isLeft current.isCw).getD
    (current.endpoint.xy, current.ijk.xy)

/-- The slot `apply_compensation(index)` writes back for a motion.  The side is
`compensation_type == LEFT`, so G40 resolves as G42.  Z and K are never
touched, and I/J only for an arc. -/
def resolvedSlot (s : CompensationPreprocessor K) (index : Fin bufferSize) : BufferedGcode K :=
  let current := s.buffer index
  let isLeft := s.compensationType == .left
  if current.hasIjk then
    let resolved := arcEndpoint s current isLeft
    { current with
      endpoint := ⟨resolved.1.x, resolved.1.y, current.endpoint.z⟩
      ijk := ⟨resolved.2.x, resolved.2.y, current.ijk.z⟩ }
  else
    let resolved := lineEndpoint s index isLeft
    { current with endpoint := ⟨resolved.x, resolved.y, current.endpoint.z⟩ }

/-- `apply_compensation`: a slot that is not a motion is left alone. -/
def applyCompensation (s : CompensationPreprocessor K) (index : Fin bufferSize) :
    CompensationPreprocessor K :=
  if (s.buffer index).isMove then
    { s with buffer := Function.update s.buffer index (s.resolvedSlot index) }
  else s

/-- The state `get_compensated_gcode` extracts from: the tail is resolved when
three moves are buffered or a flush is pending, and passed through otherwise. -/
def resolveTail (s : CompensationPreprocessor K) : CompensationPreprocessor K :=
  if 3 ≤ s.bufferCount ∨ s.isFlushing = true then s.applyCompensation s.bufferTail else s

/-- `get_compensated_gcode`.  Null when the buffer is empty, or when fewer than
three commands wait under G41/G42 with no flush pending.  Otherwise the tail
slot, resolved or not, becomes the compensated position and the rebuilt command,
and is freed.  (A null tail, which no reachable state has, gives null.) -/
def getCompensatedGcode (s : CompensationPreprocessor K) :
    Option (Command K) × CompensationPreprocessor K :=
  if s.bufferCount = 0 then (none, s)
  else if s.bufferCount < 3 ∧ s.compensationType ≠ .none ∧ s.isFlushing = false then (none, s)
  else
    let t := s.resolveTail
    let slot := t.buffer t.bufferTail
    (slot.gcode.map (rebuild · slot),
      { t with
        compensatedPosition := slot.endpoint
        buffer := Function.update t.buffer t.bufferTail { slot with gcode := none }
        bufferTail := bufferNextIndex t.bufferTail
        bufferCount := t.bufferCount - 1 })

/-! ### Spec lemmas -/

theorem resolvedSlot_eq (s : CompensationPreprocessor K) (index : Fin bufferSize) :
    ∃ e ijk, s.resolvedSlot index = { s.buffer index with endpoint := e, ijk := ijk } := by
  simp only [resolvedSlot]
  split
  · exact ⟨_, _, rfl⟩
  · exact ⟨_, (s.buffer index).ijk, rfl⟩

/-- Resolution rewrites the endpoint and I/J of the tail slot and nothing else. -/
theorem resolveTail_eq (s : CompensationPreprocessor K) :
    ∃ e ijk, s.resolveTail = { s with
      buffer := Function.update s.buffer s.bufferTail
        { s.buffer s.bufferTail with endpoint := e, ijk := ijk } } := by
  have hkeep : s = { s with
      buffer := Function.update s.buffer s.bufferTail
        { s.buffer s.bufferTail with
          endpoint := (s.buffer s.bufferTail).endpoint, ijk := (s.buffer s.bufferTail).ijk } } := by
    simp [Function.update_eq_self]
  unfold resolveTail applyCompensation
  split_ifs
  · obtain ⟨e, ijk, h⟩ := resolvedSlot_eq s s.bufferTail
    exact ⟨e, ijk, by rw [h]⟩
  · exact ⟨_, _, hkeep⟩
  · exact ⟨_, _, hkeep⟩

@[simp] theorem resolveTail_bufferTail (s : CompensationPreprocessor K) :
    s.resolveTail.bufferTail = s.bufferTail := by
  unfold resolveTail applyCompensation; split_ifs <;> rfl

theorem resolveTail_buffer_tail (s : CompensationPreprocessor K) :
    s.resolveTail.buffer s.bufferTail =
      if (3 ≤ s.bufferCount ∨ s.isFlushing = true) ∧ (s.buffer s.bufferTail).isMove = true then
        s.resolvedSlot s.bufferTail
      else s.buffer s.bufferTail := by
  unfold resolveTail applyCompensation; split_ifs <;> simp_all

/-- The command `get_compensated_gcode` returns. -/
theorem getCompensatedGcode_fst (s : CompensationPreprocessor K) :
    s.getCompensatedGcode.1 =
      if s.bufferCount = 0 ∨ (s.bufferCount < 3 ∧ s.compensationType ≠ .none ∧ s.isFlushing = false)
      then none
      else (s.resolveTail.buffer s.bufferTail).gcode.map
        (rebuild · (s.resolveTail.buffer s.bufferTail)) := by
  unfold getCompensatedGcode; split_ifs <;> simp_all

/-- The straight-line branch at the tail when a line follows: `prev` is
`uncompensated_position - endpoint`, so the incoming direction is the
normalised `endpoint - (uncompensated_position - endpoint)`. -/
theorem lineEndpoint_tail_of_line {s : CompensationPreprocessor K} {isLeft : Bool}
    (hcount : 1 < s.bufferCount) (hnext : bufferNextIndex s.bufferTail ≠ s.bufferHead)
    (hline : (s.buffer (bufferNextIndex s.bufferTail)).isMove = true ∧
      (s.buffer (bufferNextIndex s.bufferTail)).hasIjk = false) :
    s.lineEndpoint s.bufferTail isLeft =
      let e := (s.buffer s.bufferTail).endpoint
      let e' := (s.buffer (bufferNextIndex s.bufferTail)).endpoint
      let u := s.uncompensatedPosition
      let dir1 := normalize2 ⟨e.x - (u.x - e.x), e.y - (u.y - e.y)⟩
      (calculateCornerIntersection e.xy dir1 (normalize2 ⟨e'.x - e.x, e'.y - e.y⟩)
          s.compensationRadius isLeft).getD
        (calculatePerpendicularOffset e.xy dir1 s.compensationRadius isLeft) := by
  simp [lineEndpoint, hcount, hnext, hline]

/-- When the tail is resolved, the command comes from the resolved slot. -/
theorem getCompensatedGcode_fst_of_resolved {s : CompensationPreprocessor K}
    (hcount : s.bufferCount ≠ 0) (hresolve : 3 ≤ s.bufferCount ∨ s.isFlushing = true)
    (hmove : (s.buffer s.bufferTail).isMove = true) :
    s.getCompensatedGcode.1 =
      (s.buffer s.bufferTail).gcode.map (rebuild · (s.resolvedSlot s.bufferTail)) := by
  have hgate : ¬(s.bufferCount = 0 ∨
      (s.bufferCount < 3 ∧ s.compensationType ≠ .none ∧ s.isFlushing = false)) := by
    rcases hresolve with h | h <;> simp [h, hcount]
  rw [getCompensatedGcode_fst, if_neg hgate, resolveTail_buffer_tail, if_pos ⟨hresolve, hmove⟩]
  obtain ⟨e, ijk, h⟩ := resolvedSlot_eq s s.bufferTail
  rw [h]

/-- A resolved line followed by a line: the corner of `dir1 = 2 endpoint -
uncompensated_position` and the outgoing direction, or the perpendicular offset
along `dir1` when the two are parallel. -/
theorem getCompensatedGcode_fst_of_corner {s : CompensationPreprocessor K} {gcode : Gcode K}
    (hresolve : 3 ≤ s.bufferCount ∨ s.isFlushing = true) (hcount : 1 < s.bufferCount)
    (hnext : bufferNextIndex s.bufferTail ≠ s.bufferHead)
    (htail : (s.buffer s.bufferTail).gcode = some gcode ∧ (s.buffer s.bufferTail).isMove = true ∧
      (s.buffer s.bufferTail).hasIjk = false)
    (hline : (s.buffer (bufferNextIndex s.bufferTail)).isMove = true ∧
      (s.buffer (bufferNextIndex s.bufferTail)).hasIjk = false) :
    s.getCompensatedGcode.1 =
      let e := (s.buffer s.bufferTail).endpoint
      let e' := (s.buffer (bufferNextIndex s.bufferTail)).endpoint
      let u := s.uncompensatedPosition
      let isLeft := s.compensationType == .left
      let dir1 := normalize2 ⟨e.x - (u.x - e.x), e.y - (u.y - e.y)⟩
      let c := (calculateCornerIntersection e.xy dir1 (normalize2 ⟨e'.x - e.x, e'.y - e.y⟩)
          s.compensationRadius isLeft).getD
        (calculatePerpendicularOffset e.xy dir1 s.compensationRadius isLeft)
      some (rebuild gcode { s.buffer s.bufferTail with endpoint := ⟨c.x, c.y, e.z⟩ }) := by
  rw [getCompensatedGcode_fst_of_resolved (by omega) hresolve htail.2.1, htail.1, resolvedSlot,
    if_neg (by simp [htail.2.2]), lineEndpoint_tail_of_line (by omega) hnext hline]
  rfl

/-- A resolved arc: `compensate_arc_endpoint`'s result, or the programmed
values when it fails. -/
theorem getCompensatedGcode_fst_of_arc {s : CompensationPreprocessor K} {gcode : Gcode K}
    (hcount : s.bufferCount ≠ 0) (hresolve : 3 ≤ s.bufferCount ∨ s.isFlushing = true)
    (htail : (s.buffer s.bufferTail).gcode = some gcode ∧ (s.buffer s.bufferTail).isMove = true ∧
      (s.buffer s.bufferTail).hasIjk = true) :
    s.getCompensatedGcode.1 =
      let slot := s.buffer s.bufferTail
      let a := s.arcEndpoint slot (s.compensationType == .left)
      some (rebuild gcode { slot with
        endpoint := ⟨a.1.x, a.1.y, slot.endpoint.z⟩, ijk := ⟨a.2.x, a.2.y, slot.ijk.z⟩ }) := by
  rw [getCompensatedGcode_fst_of_resolved hcount hresolve htail.2.1, htail.1, resolvedSlot,
    if_pos htail.2.2]
  rfl

/-- A slot that is not resolved leaves as it was buffered. -/
theorem getCompensatedGcode_of_passthrough {s : CompensationPreprocessor K}
    (hcount : s.bufferCount ≠ 0)
    (hgate : ¬(s.bufferCount < 3 ∧ s.compensationType ≠ .none ∧ s.isFlushing = false))
    (hpass : ¬(3 ≤ s.bufferCount ∨ s.isFlushing = true) ∨ (s.buffer s.bufferTail).isMove = false) :
    s.getCompensatedGcode =
      ((s.buffer s.bufferTail).gcode.map (rebuild · (s.buffer s.bufferTail)),
        { s with
          compensatedPosition := (s.buffer s.bufferTail).endpoint
          buffer :=
            Function.update s.buffer s.bufferTail { s.buffer s.bufferTail with gcode := none }
          bufferTail := bufferNextIndex s.bufferTail
          bufferCount := s.bufferCount - 1 }) := by
  have ht : s.resolveTail = s := by
    unfold resolveTail applyCompensation
    split_ifs <;> simp_all
  simp only [getCompensatedGcode, hcount, hgate, if_false, ht]

theorem getCompensatedGcode_of_eq_zero {s : CompensationPreprocessor K} (h0 : s.bufferCount = 0) :
    s.getCompensatedGcode = (none, s) := by
  simp [getCompensatedGcode, h0]

theorem getCompensatedGcode_of_waiting {s : CompensationPreprocessor K}
    (hwait : s.bufferCount < 3 ∧ s.compensationType ≠ .none ∧ s.isFlushing = false) :
    s.getCompensatedGcode = (none, s) := by
  unfold getCompensatedGcode
  split_ifs <;> rfl

theorem getCompensatedGcode_of_ready {s : CompensationPreprocessor K} (h0 : s.bufferCount ≠ 0)
    (hready : ¬ (s.bufferCount < 3 ∧ s.compensationType ≠ .none ∧ s.isFlushing = false))
    {e ijk : Vec3 K}
    (ht : s.resolveTail = { s with
      buffer := Function.update s.buffer s.bufferTail
        { s.buffer s.bufferTail with endpoint := e, ijk := ijk } }) :
    s.getCompensatedGcode =
      ((s.buffer s.bufferTail).gcode.map
          (rebuild · { s.buffer s.bufferTail with endpoint := e, ijk := ijk }),
        { s with
          compensatedPosition := e
          buffer := Function.update s.buffer s.bufferTail
            { s.buffer s.bufferTail with endpoint := e, ijk := ijk, gcode := none }
          bufferTail := bufferNextIndex s.bufferTail
          bufferCount := s.bufferCount - 1 }) := by
  simp only [getCompensatedGcode, h0, hready, if_false, ht, Function.update_same,
    Function.update_idem]

/-- An emitting call: the resolved tail slot leaves the buffer, and its endpoint
becomes the compensated position. -/
theorem getCompensatedGcode_of_emit {s : CompensationPreprocessor K} (h0 : s.bufferCount ≠ 0)
    (hready : ¬ (s.bufferCount < 3 ∧ s.compensationType ≠ .none ∧ s.isFlushing = false)) :
    s.getCompensatedGcode =
      ((s.resolveTail.buffer s.bufferTail).gcode.map
          (rebuild · (s.resolveTail.buffer s.bufferTail)),
        { s with
          compensatedPosition := (s.resolveTail.buffer s.bufferTail).endpoint
          buffer := Function.update s.buffer s.bufferTail
            { s.resolveTail.buffer s.bufferTail with gcode := none }
          bufferTail := bufferNextIndex s.bufferTail
          bufferCount := s.bufferCount - 1 }) := by
  obtain ⟨e, ijk, ht⟩ := resolveTail_eq s
  rw [getCompensatedGcode_of_ready h0 hready ht]
  simp only [ht, Function.update_same]

end CompensationPreprocessor

/-! ## Runs -/

/-- The public calls of the engine. -/
inductive Op (K : Type)
  | bufferGcode (gcode : Gcode K)
  | getCompensatedGcode
  | setCompensation (type : CompensationType) (radius : K)
  | flush
  | clear
  | setInitialPosition (position : Vec3 K)

/-- What a call returns: `buffer_gcode`'s flag, `get_compensated_gcode`'s
command (`none` for null), nothing for the others. -/
inductive Reply (K : Type)
  | accepted (ok : Bool)
  | emitted (command : Option (Command K))
  | done

namespace CompensationPreprocessor

variable {K : Type} [LinearOrderedField K] [Sqrtf K]

def step (s : CompensationPreprocessor K) : Op K → Reply K × CompensationPreprocessor K
  | .bufferGcode gcode => let r := s.bufferGcode gcode; (.accepted r.1, r.2)
  | .getCompensatedGcode => let r := s.getCompensatedGcode; (.emitted r.1, r.2)
  | .setCompensation type radius => (.done, s.setCompensation type radius)
  | .flush => (.done, s.flush)
  | .clear => (.done, s.clear)
  | .setInitialPosition position => (.done, s.setInitialPosition position)

/-- The replies and the final state of a sequence of calls. -/
def run (s : CompensationPreprocessor K) : List (Op K) → List (Reply K) × CompensationPreprocessor K
  | [] => ([], s)
  | op :: ops =>
    let r := s.step op
    let rest := r.2.run ops
    (r.1 :: rest.1, rest.2)

/-- The states some sequence of calls reaches from the constructor. -/
inductive Reachable : CompensationPreprocessor K → Prop
  | new (garbage : Fin bufferSize → BufferedGcode K) (flushing : Bool) :
      Reachable (CompensationPreprocessor.new garbage flushing)
  | step {s : CompensationPreprocessor K} (op : Op K) :
      Reachable s → Reachable (s.step op).2

end CompensationPreprocessor

/-- The commands a list of replies emits, in order. -/
def Reply.emittedCommands {K : Type} : List (Reply K) → List (Command K)
  | [] => []
  | .emitted (some command) :: replies => command :: emittedCommands replies
  | _ :: replies => emittedCommands replies

namespace Reply

variable {K : Type}

@[simp] theorem emittedCommands_nil : emittedCommands ([] : List (Reply K)) = [] := rfl
@[simp] theorem emittedCommands_accepted (ok : Bool) (rs : List (Reply K)) :
    emittedCommands (.accepted ok :: rs) = emittedCommands rs := rfl
@[simp] theorem emittedCommands_done (rs : List (Reply K)) :
    emittedCommands (.done :: rs) = emittedCommands rs := rfl
@[simp] theorem emittedCommands_emitted (c : Option (Command K)) (rs : List (Reply K)) :
    emittedCommands (.emitted c :: rs) = c.toList ++ emittedCommands rs := by
  cases c <;> rfl

end Reply

@[simp] theorem Reply.emittedCommands_append {K : Type} (r1 r2 : List (Reply K)) :
    Reply.emittedCommands (r1 ++ r2) = Reply.emittedCommands r1 ++ Reply.emittedCommands r2 := by
  induction r1 with
  | nil => rfl
  | cons r rs ih => rcases r with _ | (_ | _) | _ <;> simp [emittedCommands, ih]

namespace CompensationPreprocessor

variable {K : Type} [LinearOrderedField K] [Sqrtf K]

theorem run_append (s : CompensationPreprocessor K) (ops1 ops2 : List (Op K)) :
    s.run (ops1 ++ ops2) =
      ((s.run ops1).1 ++ ((s.run ops1).2.run ops2).1, ((s.run ops1).2.run ops2).2) := by
  induction ops1 generalizing s with
  | nil => rfl
  | cons op ops ih => simp [run, ih]

theorem Reachable.run {s : CompensationPreprocessor K} (hs : s.Reachable) (ops : List (Op K)) :
    (s.run ops).2.Reachable := by
  induction ops generalizing s with
  | nil => exact hs
  | cons op ops ih => exact ih (.step op hs)

/-- A run that ends with an extraction emits what the run before it emitted,
then the extracted command. -/
theorem emittedCommands_run_get (s : CompensationPreprocessor K) (ops : List (Op K)) :
    Reply.emittedCommands (s.run (ops ++ [.getCompensatedGcode])).1 =
      Reply.emittedCommands (s.run ops).1 ++ ((s.run ops).2.getCompensatedGcode.1).toList := by
  rw [run_append]
  cases h : (s.run ops).2.getCompensatedGcode.1 <;>
    simp [run, step, h, Reply.emittedCommands]

/-- The commands a run emits, each with the state whose `get_compensated_gcode`
emitted it. -/
def emissions (s : CompensationPreprocessor K) :
    List (Op K) → List (Command K × CompensationPreprocessor K)
  | [] => []
  | op :: ops => (Reply.emittedCommands [(s.step op).1]).map (·, s) ++ (s.step op).2.emissions ops

@[simp] theorem emissions_nil (s : CompensationPreprocessor K) : s.emissions [] = [] := rfl

@[simp] theorem emissions_get_cons (s : CompensationPreprocessor K) (ops : List (Op K)) :
    s.emissions (.getCompensatedGcode :: ops) =
      s.getCompensatedGcode.1.toList.map (·, s) ++ s.getCompensatedGcode.2.emissions ops := by
  simp [emissions, step]

theorem emissions_cons (s : CompensationPreprocessor K) (op : Op K) (ops : List (Op K)) :
    s.emissions (op :: ops) = s.emissions [op] ++ (s.step op).2.emissions ops := by
  simp [emissions]

theorem emissions_append (s : CompensationPreprocessor K) (ops1 ops2 : List (Op K)) :
    s.emissions (ops1 ++ ops2) = s.emissions ops1 ++ (s.run ops1).2.emissions ops2 := by
  induction ops1 generalizing s with
  | nil => rfl
  | cons op ops ih => simp [emissions, run, ih]

/-- Forgetting the states gives the commands the run emits. -/
theorem emissions_map_fst (s : CompensationPreprocessor K) (ops : List (Op K)) :
    (s.emissions ops).map Prod.fst = Reply.emittedCommands (s.run ops).1 := by
  induction ops generalizing s with
  | nil => rfl
  | cons op ops ih =>
    simp [emissions, run, Function.comp_def, ih, ← Reply.emittedCommands_append]

end CompensationPreprocessor

end CutterCompensation
