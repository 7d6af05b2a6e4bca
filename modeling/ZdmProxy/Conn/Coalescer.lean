import Mathlib

/-!
# The write coalescer

Frames bound for a connection go through a `writeCoalescer` (`coalescer.go`): `Enqueue` and
`EnqueueAsync` put them on a bounded queue, and `RunWriteQueueLoop` writes them. Each iteration
of the loop waits for a first frame and schedules a task that encodes it into a buffer, then
reads the queue without blocking, encoding each frame it finds, until the buffer reaches the
threshold or the queue is empty; the task hands the buffer back and the loop writes it to the
connection in one call. An encoding error or a failed write sets the draining flag: a draining
task discards the frames it reads, and a draining loop writes nothing.

The model is a step relation on the queue, the loop's phase and the bytes the connection has
received, with the frames the loop has taken off the queue as a ghost field. A frame's encoding
is a parameter: `none` is an error of `EncodeRawFrame`, whose partial output stays in a buffer
that is never written again. A write may fail after any prefix of the buffer, as `net.Conn`
allows.

In every run the bytes written are a prefix of the encodings of the dequeued frames up to the
first encoding error (`written_prefix_of_reachable`), all of them once the queue is closed and
drained without an error (`written_of_stopped`), and nothing more once the loop drains
(`written_of_draining`). A write that fails after part of a frame leaves that part on the
connection (`runWriteQueueLoop_splits_frame_on_failed_write`).
-/

namespace ZdmProxy.Conn

/-- Where `RunWriteQueueLoop` is, with its draining flag and its buffer: between iterations, in
the scheduled task after the first frame, holding the task's result, or finished. -/
inductive LoopPhase where
  | waiting (draining : Bool) (buffer : List UInt8)
  | gathering (tempDraining : Bool) (tempBuffer : List UInt8)
  | result (draining : Bool) (buffer : List UInt8)
  | stopped (draining : Bool)
  deriving DecidableEq, Repr

namespace LoopPhase

/-- The draining flag of the phase. -/
def draining : LoopPhase → Bool
  | waiting draining _ => draining
  | gathering tempDraining _ => tempDraining
  | result draining _ => draining
  | stopped draining => draining

/-- The buffer of the phase; a finished loop has none. -/
def buffer : LoopPhase → List UInt8
  | waiting _ buffer => buffer
  | gathering _ tempBuffer => tempBuffer
  | result _ buffer => buffer
  | stopped _ => []

end LoopPhase

/-- A `writeCoalescer`: its write queue, whether `Close` closed it, the loop's phase, the bytes
the connection received, and the frames the loop took off the queue, in order. -/
structure WriteCoalescer (α : Type) where
  writeQueue : List α
  closed : Bool
  loop : LoopPhase
  written : List UInt8
  dequeued : List α
  deriving DecidableEq, Repr

variable {α : Type}

/-- A new coalescer whose loop runs. -/
def WriteCoalescer.initial : WriteCoalescer α := ⟨[], false, .waiting false [], [], []⟩

section Steps

variable (encode : α → Option (List UInt8)) (writeBufferSizeBytes writeQueueSizeFrames : Nat)

/-- `writeRawFrame` of a frame into the task's buffer, and where the task goes on: an encoding
error makes it drain, and a buffer at the threshold ends it. -/
def writeToBuffer (tempDraining : Bool) (tempBuffer : List UInt8) (f : α) : LoopPhase :=
  match encode f with
  | none => .gathering true tempBuffer
  | some bytes =>
      if writeBufferSizeBytes ≤ (tempBuffer ++ bytes).length then
        .result tempDraining (tempBuffer ++ bytes)
      else .gathering tempDraining (tempBuffer ++ bytes)

/-- One step of the producers, of `Close` or of the loop and its task. -/
inductive CoalescerStep : WriteCoalescer α → WriteCoalescer α → Prop where
  /-- `Enqueue`, or `EnqueueAsync` with room on the queue; a full queue blocks the first and
  makes the second drop the frame. -/
  | enqueue (s : WriteCoalescer α) (f : α) (open_ : s.closed = false)
      (room : s.writeQueue.length < writeQueueSizeFrames) :
      CoalescerStep s { s with writeQueue := s.writeQueue ++ [f] }
  | close (s : WriteCoalescer α) : CoalescerStep s { s with closed := true }
  /-- The loop takes an iteration's first frame, and the task writes it to the buffer. -/
  | receiveFirst (s : WriteCoalescer α) (f : α) (rest : List α) (draining : Bool)
      (buffer : List UInt8) (waiting : s.loop = .waiting draining buffer)
      (queued : s.writeQueue = f :: rest) :
      CoalescerStep s
        { s with
          writeQueue := rest
          dequeued := s.dequeued ++ [f]
          loop := writeToBuffer encode writeBufferSizeBytes draining buffer f }
  /-- The queue is closed and empty. -/
  | stop (s : WriteCoalescer α) (draining : Bool) (buffer : List UInt8)
      (waiting : s.loop = .waiting draining buffer) (empty : s.writeQueue = [])
      (closed : s.closed = true) :
      CoalescerStep s { s with loop := .stopped draining }
  /-- The task reads a frame without blocking; a draining task discards it. -/
  | gather (s : WriteCoalescer α) (f : α) (rest : List α) (tempDraining : Bool)
      (tempBuffer : List UInt8) (gathering : s.loop = .gathering tempDraining tempBuffer)
      (queued : s.writeQueue = f :: rest) :
      CoalescerStep s
        { s with
          writeQueue := rest
          dequeued := s.dequeued ++ [f]
          loop := if tempDraining then .gathering true tempBuffer
            else writeToBuffer encode writeBufferSizeBytes false tempBuffer f }
  /-- The task finds the queue empty and hands its buffer back. -/
  | finish (s : WriteCoalescer α) (tempDraining : Bool) (tempBuffer : List UInt8)
      (gathering : s.loop = .gathering tempDraining tempBuffer) (empty : s.writeQueue = []) :
      CoalescerStep s { s with loop := .result tempDraining tempBuffer }
  /-- The loop writes the buffer, and resets it. -/
  | writeOk (s : WriteCoalescer α) (buffer : List UInt8) (handed : s.loop = .result false buffer)
      (nonempty : buffer ≠ []) :
      CoalescerStep s { s with written := s.written ++ buffer, loop := .waiting false [] }
  /-- The write fails after `k` bytes: the loop resets the buffer and drains from now on. -/
  | writeFailed (s : WriteCoalescer α) (buffer : List UInt8) (k : Nat)
      (handed : s.loop = .result false buffer) (nonempty : buffer ≠ [])
      (partial_ : k ≤ buffer.length) :
      CoalescerStep s { s with written := s.written ++ buffer.take k, loop := .waiting true [] }
  /-- An empty buffer, or a draining loop: nothing is written and the buffer is kept. -/
  | skipWrite (s : WriteCoalescer α) (draining : Bool) (buffer : List UInt8)
      (handed : s.loop = .result draining buffer) (idle : buffer = [] ∨ draining = true) :
      CoalescerStep s { s with loop := .waiting draining buffer }

/-- The states a new coalescer can reach. -/
def WriteCoalescer.Reachable (s : WriteCoalescer α) : Prop :=
  Relation.ReflTransGen (CoalescerStep encode writeBufferSizeBytes writeQueueSizeFrames)
    WriteCoalescer.initial s

end Steps

/-! ## What is written -/

section Encodings

variable {encode : α → Option (List UInt8)}

/-- The encodings of the frames, in order, up to the first frame that fails to encode. -/
def encodedPrefix (encode : α → Option (List UInt8)) : List α → List UInt8
  | [] => []
  | f :: rest =>
      match encode f with
      | none => []
      | some bytes => bytes ++ encodedPrefix encode rest

/-- More frames only extend the encodings. -/
theorem encodedPrefix_prefix_append (frames more : List α) :
    encodedPrefix encode frames <+: encodedPrefix encode (frames ++ more) := by
  induction frames with
  | nil => exact List.nil_prefix
  | cons f frames inductionHypothesis =>
    cases encoded : encode f with
    | none => simp [encodedPrefix, encoded]
    | some bytes =>
      simp only [List.cons_append, encodedPrefix, encoded]
      exact (List.prefix_append_right_inj bytes).mpr inductionHypothesis

/-- After frames that all encode, one more frame adds its encoding. -/
theorem encodedPrefix_append_of_encoded {frames : List α} {f : α} {bytes : List UInt8}
    (all : ∀ g ∈ frames, (encode g).isSome) (encoded : encode f = some bytes) :
    encodedPrefix encode (frames ++ [f]) = encodedPrefix encode frames ++ bytes := by
  induction frames with
  | nil => simp [encodedPrefix, encoded]
  | cons g frames inductionHypothesis =>
    obtain ⟨bytes', first⟩ := Option.isSome_iff_exists.mp (all g List.mem_cons_self)
    simp only [List.cons_append, encodedPrefix, first, List.append_assoc]
    rw [inductionHypothesis fun other member => all other (List.mem_cons_of_mem g member)]

end Encodings

section WriteToBuffer

variable {encode : α → Option (List UInt8)} {writeBufferSizeBytes : Nat} {tempDraining : Bool}
  {tempBuffer : List UInt8} {f : α}

theorem draining_writeToBuffer :
    (writeToBuffer encode writeBufferSizeBytes tempDraining tempBuffer f).draining =
      (tempDraining || (encode f).isNone) := by
  cases encoded : encode f with
  | none => simp [writeToBuffer, encoded, LoopPhase.draining]
  | some bytes =>
    simp only [writeToBuffer, encoded]
    split <;> simp [LoopPhase.draining]

theorem buffer_writeToBuffer {bytes : List UInt8} (encoded : encode f = some bytes) :
    (writeToBuffer encode writeBufferSizeBytes tempDraining tempBuffer f).buffer =
      tempBuffer ++ bytes := by
  simp only [writeToBuffer, encoded]
  split <;> rfl

theorem writeToBuffer_of_below {bytes : List UInt8} (encoded : encode f = some bytes)
    (below : (tempBuffer ++ bytes).length < writeBufferSizeBytes) :
    writeToBuffer encode writeBufferSizeBytes tempDraining tempBuffer f =
      .gathering tempDraining (tempBuffer ++ bytes) := by
  simp only [writeToBuffer, encoded, if_neg (Nat.not_le.mpr below)]

theorem writeToBuffer_of_full {bytes : List UInt8} (encoded : encode f = some bytes)
    (full : writeBufferSizeBytes ≤ (tempBuffer ++ bytes).length) :
    writeToBuffer encode writeBufferSizeBytes tempDraining tempBuffer f =
      .result tempDraining (tempBuffer ++ bytes) := by
  simp only [writeToBuffer, encoded, if_pos full]

theorem writeToBuffer_ne_waiting (draining : Bool) (buffer : List UInt8) :
    writeToBuffer encode writeBufferSizeBytes tempDraining tempBuffer f ≠
      .waiting draining buffer := by
  cases encoded : encode f with
  | none => simp [writeToBuffer, encoded]
  | some bytes =>
    simp only [writeToBuffer, encoded]
    split <;> simp

theorem writeToBuffer_ne_stopped (draining : Bool) :
    writeToBuffer encode writeBufferSizeBytes tempDraining tempBuffer f ≠ .stopped draining := by
  cases encoded : encode f with
  | none => simp [writeToBuffer, encoded]
  | some bytes =>
    simp only [writeToBuffer, encoded]
    split <;> simp

end WriteToBuffer

/-- What holds in every reachable state: the bytes written are a prefix of the encodings of the
dequeued frames; while the loop does not drain, every dequeued frame encoded and the written
bytes followed by the buffer are all their encodings; the loop waits with an empty buffer unless
it drains; and it stops only on a closed, empty queue. -/
structure CoalescerInvariant (encode : α → Option (List UInt8)) (s : WriteCoalescer α) :
    Prop where
  written_encoded : s.written <+: encodedPrefix encode s.dequeued
  transparent : s.loop.draining = false →
    (∀ f ∈ s.dequeued, (encode f).isSome) ∧
      s.written ++ s.loop.buffer = encodedPrefix encode s.dequeued
  waiting_empty : ∀ buffer, s.loop = .waiting false buffer → buffer = []
  stopped_closed : ∀ draining, s.loop = .stopped draining →
    s.closed = true ∧ s.writeQueue = []

namespace CoalescerInvariant

variable {encode : α → Option (List UInt8)} {writeBufferSizeBytes writeQueueSizeFrames : Nat}

theorem initial : CoalescerInvariant encode (WriteCoalescer.initial (α := α)) where
  written_encoded := List.nil_prefix
  transparent _ := ⟨by simp [WriteCoalescer.initial], rfl⟩
  waiting_empty _ same := by
    cases same
    rfl
  stopped_closed _ same := nomatch same

/-- The transparency of the invariant, read at a known phase of the loop. -/
theorem transparent_at {s : WriteCoalescer α} (invariant : CoalescerInvariant encode s)
    {phase : LoopPhase} (current : s.loop = phase) (notDraining : phase.draining = false) :
    (∀ f ∈ s.dequeued, (encode f).isSome) ∧
      s.written ++ phase.buffer = encodedPrefix encode s.dequeued := by
  rw [← current]
  exact invariant.transparent (by rw [current]; exact notDraining)

/-- A frame the loop writes to the buffer: the written bytes stay a prefix, and without
draining the frame's encoding joins the buffer. -/
theorem writeToBuffer_transparent (writeBufferSizeBytes : Nat) {s : WriteCoalescer α}
    (invariant : CoalescerInvariant encode s)
    {draining : Bool} {buffer : List UInt8} (phase : s.loop.draining = draining)
    (held : s.loop.buffer = buffer) (f : α) :
    s.written <+: encodedPrefix encode (s.dequeued ++ [f]) ∧
      ((writeToBuffer encode writeBufferSizeBytes draining buffer f).draining = false →
        (∀ g ∈ s.dequeued ++ [f], (encode g).isSome) ∧
          s.written ++ (writeToBuffer encode writeBufferSizeBytes draining buffer f).buffer =
            encodedPrefix encode (s.dequeued ++ [f])) := by
  refine ⟨invariant.written_encoded.trans (encodedPrefix_prefix_append _ _), ?_⟩
  intro stillTransparent
  rw [draining_writeToBuffer, Bool.or_eq_false_iff] at stillTransparent
  obtain ⟨notDraining, encodes⟩ := stillTransparent
  obtain ⟨bytes, encoded⟩ := Option.isSome_iff_exists.mp (by simpa using encodes)
  obtain ⟨all, whole⟩ := invariant.transparent (phase.trans notDraining)
  refine ⟨fun g member => ?_, ?_⟩
  · rcases List.mem_append.mp member with earlier | last
    · exact all g earlier
    · rw [List.mem_singleton.mp last, encoded]
      rfl
  · rw [buffer_writeToBuffer encoded, encodedPrefix_append_of_encoded all encoded, ← whole,
      held, List.append_assoc]

theorem step {s s' : WriteCoalescer α} (invariant : CoalescerInvariant encode s)
    (step : CoalescerStep encode writeBufferSizeBytes writeQueueSizeFrames s s') :
    CoalescerInvariant encode s' := by
  cases step with
  | enqueue f open_ room =>
    exact ⟨invariant.written_encoded, invariant.transparent, invariant.waiting_empty,
      fun draining stopped => absurd (invariant.stopped_closed draining stopped).1
        (by simp [open_])⟩
  | close => exact ⟨invariant.written_encoded, invariant.transparent, invariant.waiting_empty,
      fun draining stopped => ⟨rfl, (invariant.stopped_closed draining stopped).2⟩⟩
  | receiveFirst f rest draining buffer waiting queued =>
    obtain ⟨written, transparent⟩ := invariant.writeToBuffer_transparent writeBufferSizeBytes
      (by rw [waiting]) (by rw [waiting]) f
    exact ⟨written, transparent, fun _ same => absurd same (writeToBuffer_ne_waiting _ _),
      fun _ same => absurd same (writeToBuffer_ne_stopped _)⟩
  | stop draining buffer waiting empty closed =>
    refine ⟨invariant.written_encoded, fun notDraining => ?_, fun _ => nofun,
      fun _ _ => ⟨closed, empty⟩⟩
    -- a loop that stops without draining had an empty buffer
    have emptied := invariant.waiting_empty buffer (by rw [waiting, ← notDraining]; rfl)
    obtain ⟨all, whole⟩ := invariant.transparent_at waiting notDraining
    rw [emptied] at whole
    exact ⟨all, whole⟩
  | gather f rest tempDraining tempBuffer gathering queued =>
    cases tempDraining with
    | true =>
      exact ⟨invariant.written_encoded.trans (encodedPrefix_prefix_append _ _),
        fun notDraining => Bool.noConfusion notDraining, fun _ => nofun,
        fun _ => nofun⟩
    | false =>
      obtain ⟨written, transparent⟩ := invariant.writeToBuffer_transparent writeBufferSizeBytes
        (by rw [gathering]) (by rw [gathering]) f
      exact ⟨written, transparent, fun _ same => absurd same (writeToBuffer_ne_waiting _ _),
        fun _ same => absurd same (writeToBuffer_ne_stopped _)⟩
  | finish tempDraining tempBuffer gathering empty =>
    refine ⟨invariant.written_encoded, fun notDraining => ?_, fun _ => nofun,
      fun _ => nofun⟩
    obtain ⟨all, whole⟩ := invariant.transparent_at gathering notDraining
    exact ⟨all, whole⟩
  | writeOk buffer handed nonempty =>
    obtain ⟨all, whole⟩ := invariant.transparent_at handed rfl
    refine ⟨whole ▸ List.prefix_refl _, fun _ => ⟨all, ?_⟩, fun _ same => ?_,
      fun _ => nofun⟩
    · simpa [LoopPhase.buffer] using whole
    · cases same
      rfl
  | writeFailed buffer k handed nonempty partial_ =>
    obtain ⟨_, whole⟩ := invariant.transparent_at handed rfl
    refine ⟨?_, fun notDraining => Bool.noConfusion notDraining, fun _ => nofun,
      fun _ => nofun⟩
    -- part of the buffer is still a prefix of the encodings
    rw [← whole]
    exact (List.prefix_append_right_inj s.written).mpr (List.take_prefix k buffer)
  | skipWrite draining buffer handed idle =>
    refine ⟨invariant.written_encoded, fun notDraining => ?_, fun _ same => ?_,
      fun _ => nofun⟩
    · obtain ⟨all, whole⟩ := invariant.transparent_at handed notDraining
      exact ⟨all, whole⟩
    · cases same
      simpa using idle

theorem of_reachable {s : WriteCoalescer α}
    (reachable : s.Reachable encode writeBufferSizeBytes writeQueueSizeFrames) :
    CoalescerInvariant encode s := by
  induction reachable with
  | refl => exact initial
  | tail _ last invariant => exact invariant.step last

end CoalescerInvariant

section Runs

variable {encode : α → Option (List UInt8)} {writeBufferSizeBytes writeQueueSizeFrames : Nat}

/-- The connection receives the encodings of the dequeued frames in order, each once, and none
of a frame after the first that fails to encode. -/
theorem written_prefix_of_reachable {s : WriteCoalescer α}
    (reachable : s.Reachable encode writeBufferSizeBytes writeQueueSizeFrames) :
    s.written <+: encodedPrefix encode s.dequeued :=
  (CoalescerInvariant.of_reachable reachable).written_encoded

/-- Without an error, a loop that stops has written every frame put on the queue, in order. -/
theorem written_of_stopped {s : WriteCoalescer α}
    (reachable : s.Reachable encode writeBufferSizeBytes writeQueueSizeFrames)
    (stopped : s.loop = .stopped false) :
    s.writeQueue = [] ∧ (∀ f ∈ s.dequeued, (encode f).isSome) ∧
      s.written = encodedPrefix encode s.dequeued := by
  have invariant := CoalescerInvariant.of_reachable reachable
  obtain ⟨all, whole⟩ := invariant.transparent_at stopped rfl
  exact ⟨(invariant.stopped_closed false stopped).2, all, by simpa [LoopPhase.buffer] using whole⟩

/-- A draining loop stays draining and writes nothing. -/
theorem step_of_draining {s s' : WriteCoalescer α}
    (step : CoalescerStep encode writeBufferSizeBytes writeQueueSizeFrames s s')
    (draining : s.loop.draining = true) :
    s'.loop.draining = true ∧ s'.written = s.written := by
  cases step with
  | enqueue => exact ⟨draining, rfl⟩
  | close => exact ⟨draining, rfl⟩
  | receiveFirst f rest draining' buffer waiting queued =>
    rw [waiting] at draining
    refine ⟨?_, rfl⟩
    rw [draining_writeToBuffer, Bool.or_eq_true]
    exact .inl draining
  | stop draining' buffer waiting =>
    rw [waiting] at draining
    exact ⟨draining, rfl⟩
  | gather f rest tempDraining tempBuffer gathering queued =>
    rw [gathering] at draining
    cases tempDraining with
    | true => exact ⟨rfl, rfl⟩
    | false => nomatch draining
  | finish tempDraining tempBuffer gathering =>
    rw [gathering] at draining
    exact ⟨draining, rfl⟩
  | writeOk buffer handed =>
    rw [handed] at draining
    nomatch draining
  | writeFailed buffer k handed =>
    rw [handed] at draining
    nomatch draining
  | skipWrite draining' buffer handed =>
    rw [handed] at draining
    exact ⟨draining, rfl⟩

/-- Once the loop drains, nothing more reaches the connection, in any run. -/
theorem written_of_draining {s s' : WriteCoalescer α}
    (run : Relation.ReflTransGen (CoalescerStep encode writeBufferSizeBytes writeQueueSizeFrames)
      s s')
    (draining : s.loop.draining = true) :
    s'.loop.draining = true ∧ s'.written = s.written := by
  induction run with
  | refl => exact ⟨draining, rfl⟩
  | tail _ last previous =>
    obtain ⟨stillDraining, same⟩ := step_of_draining last previous.1
    exact ⟨stillDraining, same.trans previous.2⟩

/-- A lone frame that encodes is handed back to the loop in a buffer of its own, whatever the
threshold. -/
theorem reaches_result_of_encoded {s : WriteCoalescer α} {f : α} {bytes : List UInt8}
    (encoded : encode f = some bytes) (waiting : s.loop = .waiting false [])
    (queued : s.writeQueue = [f]) :
    Relation.ReflTransGen (CoalescerStep encode writeBufferSizeBytes writeQueueSizeFrames) s
      { s with
        writeQueue := []
        dequeued := s.dequeued ++ [f]
        loop := .result false bytes } := by
  have first : CoalescerStep encode writeBufferSizeBytes writeQueueSizeFrames s _ :=
    .receiveFirst s f [] false [] waiting queued
  by_cases full : writeBufferSizeBytes ≤ bytes.length
  · rw [writeToBuffer_of_full encoded (by rwa [List.nil_append])] at first
    exact .single first
  · rw [writeToBuffer_of_below encoded (by rw [List.nil_append]; omega)] at first
    exact .head first (.single (.finish _ false bytes rfl rfl))

/-- The coalescer writes the encodings of the frames it takes off the queue, in order and
each once. In every run the bytes written are a prefix of the encodings of the dequeued frames
up to the first that fails to encode; when the loop stops without draining, the queue is empty,
every dequeued frame encoded and all their encodings are written; and once the loop drains,
nothing more is written in any run. -/
theorem runWriteQueueLoop_writes_encoded_prefix {s : WriteCoalescer α}
    (reachable : s.Reachable encode writeBufferSizeBytes writeQueueSizeFrames) :
    s.written <+: encodedPrefix encode s.dequeued ∧
    (s.loop = .stopped false → s.writeQueue = [] ∧ (∀ f ∈ s.dequeued, (encode f).isSome) ∧
      s.written = encodedPrefix encode s.dequeued) ∧
    (s.loop.draining = true → ∀ s',
      Relation.ReflTransGen (CoalescerStep encode writeBufferSizeBytes writeQueueSizeFrames) s s' →
      s'.loop.draining = true ∧ s'.written = s.written) :=
  ⟨written_prefix_of_reachable reachable, written_of_stopped reachable,
    fun draining _ run => written_of_draining run draining⟩

end Runs

/-- Every frame encodes to 13 bytes, a VOID result. -/
def voidFrames : Nat → Option (List UInt8) := fun _ => some [0x84, 0, 0, 1, 0x08, 0, 0, 0, 4, 0, 0, 0, 1]

/-- One frame is enqueued, the queue is closed, the frame is written and the loop stops. -/
def oneFrameWritten : WriteCoalescer Nat :=
  ⟨[], true, .stopped false, [0x84, 0, 0, 1, 0x08, 0, 0, 0, 4, 0, 0, 0, 1], [1]⟩

theorem oneFrameWritten_reachable : oneFrameWritten.Reachable voidFrames 4096 128 := by
  refine .head (.enqueue _ 1 rfl (by decide)) ?_
  refine .head (.close _) ?_
  refine .trans (reaches_result_of_encoded rfl rfl rfl) ?_
  refine .head (.writeOk _ _ rfl (List.cons_ne_nil _ _)) ?_
  exact .single (.stop _ false [] rfl rfl rfl)

theorem runWriteQueueLoop_writes_encoded_prefix_oneFrameWritten :
    oneFrameWritten.written = encodedPrefix voidFrames oneFrameWritten.dequeued :=
  (( runWriteQueueLoop_writes_encoded_prefix oneFrameWritten_reachable).2.1 rfl).2.2

/-- A write that fails after 5 of the 13 bytes of a frame, as `net.Conn` allows, leaves part of
the frame on the connection: the frame is split across the failed write. -/
theorem runWriteQueueLoop_splits_frame_on_failed_write :
    ∃ s : WriteCoalescer Nat, s.Reachable voidFrames 4096 128 ∧
      s.loop = .stopped true ∧ s.dequeued = [1] ∧ s.written = [0x84, 0, 0, 1, 0x08] ∧
      encodedPrefix voidFrames s.dequeued = [0x84, 0, 0, 1, 0x08, 0, 0, 0, 4, 0, 0, 0, 1] := by
  refine ⟨⟨[], true, .stopped true, [0x84, 0, 0, 1, 0x08], [1]⟩, ?_, rfl, rfl, rfl, rfl⟩
  refine .head (.enqueue _ 1 rfl (by decide)) ?_
  refine .head (.close _) ?_
  refine .trans (reaches_result_of_encoded rfl rfl rfl) ?_
  refine .head (.writeFailed _ _ 5 rfl (List.cons_ne_nil _ _) (by decide)) ?_
  exact .single (.stop _ true [] rfl rfl rfl)

end ZdmProxy.Conn
