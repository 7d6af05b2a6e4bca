import ZdmProxy.Handler.AsyncConnector

/-!
# Stream ids of the async connector

The async connector gives each fire-and-forget copy an internal stream id from its
`internalStreamIdMapper`, and the response reader returns the id when the cluster answers. The
ids are conserved over every interleaving of the connector's goroutines in which the cluster
answers only frames it was sent. The free ids, the ids that senders have taken and not yet
queued, the queued ids and the ids on the wire never hold one id twice, and all are below the
mapper's capacity (`async_stream_ids_conserved`). So no two frames in flight on the connection
share a stream id, and the mapper never hands out an id that is in flight.

The argument is one step lemma: no step adds an id (`streamIdsInUse_step`). A step moves an id
from one place to another or drops it; ids are conserved, not all kept, since a copy that the
write queue discards never returns its id.
-/

namespace ZdmProxy.Handler

variable {DataType : Type}

/-- The stream id a sender holds between taking it from the mapper and queueing its frame. -/
def SenderPc.heldId : SenderPc → Option Nat
  | .store _ id | .armTimer _ id | .enqueue _ id | .cancelStored _ id => some id
  | _ => none

namespace AsyncConnector

/-- The ids a connector accounts for: free in the mapper, queued, and written and not answered. -/
def streamIdsInUse (connector : AsyncConnector DataType) : List Nat :=
  connector.streamIds.clusterIds ++ connector.writeQueue ++ connector.written

/-- Two connectors with the same stream ids: free in the mapper, queued and written. -/
def KeepsIds (connector next : AsyncConnector DataType) : Prop :=
  next.streamIds = connector.streamIds ∧ next.writeQueue = connector.writeQueue ∧
    next.written = connector.written

section Keeps

variable {connector : AsyncConnector DataType} {context id : Nat}

theorem keepsIds_callContext (contextCall : ContextCall Unit) :
    KeepsIds connector (connector.callContext context contextCall).2 := by
  unfold callContext
  split <;> exact ⟨rfl, rfl, rfl⟩

theorem keepsIds_clearPendingRequestState :
    KeepsIds connector (connector.clearPendingRequestState id context) := by
  unfold clearPendingRequestState
  split <;> exact ⟨rfl, rfl, rfl⟩

theorem KeepsIds.trans {middle next : AsyncConnector DataType} (first : KeepsIds connector middle)
    (second : KeepsIds middle next) : KeepsIds connector next :=
  ⟨second.1.trans first.1, second.2.1.trans first.2.1, second.2.2.trans first.2.2⟩

/-- A call on a context that clears its holder when it succeeds keeps the ids. -/
theorem keepsIds_callThenClear (contextCall : ContextCall Unit) :
    KeepsIds connector (if (connector.callContext context contextCall).1 then
      (true, (connector.callContext context contextCall).2.clearPendingRequestState id context)
    else (false, (connector.callContext context contextCall).2)).2 := by
  split
  · exact (keepsIds_callContext contextCall).trans keepsIds_clearPendingRequestState
  · exact keepsIds_callContext contextCall

theorem keepsIds_timeOut : KeepsIds connector (connector.timeOut id context).2 :=
  keepsIds_callThenClear (.setTimeout ())

theorem keepsIds_cancel : KeepsIds connector (connector.cancel id context).2 :=
  keepsIds_callThenClear .cancel

theorem keepsIds_markAsDone : KeepsIds connector (connector.markAsDone id).2 := by
  unfold markAsDone
  split
  · exact ⟨rfl, rfl, rfl⟩
  · exact keepsIds_callThenClear (.setResponse () .origin)

theorem keepsIds_store {stored : AsyncConnector DataType}
    (storedOk : connector.store context id = .ok stored) : KeepsIds connector stored := by
  unfold store at storedOk
  split at storedOk
  · cases storedOk
  · cases storedOk
    exact ⟨rfl, rfl, rfl⟩

/-- The shutdown sweep keeps the ids: each cancel does. -/
theorem keepsIds_clearPending : KeepsIds connector connector.clearPending.2 := by
  unfold clearPending
  refine List.foldlRecOn
    (motive := fun (acc : Nat × AsyncConnector DataType) => KeepsIds connector acc.2) _ _
    ⟨rfl, rfl, rfl⟩ ?_
  intro acc kept entry _
  obtain ⟨done, current⟩ := acc
  obtain ⟨id, context⟩ := entry
  exact kept.trans keepsIds_cancel

theorem KeepsIds.streamIdsInUse_eq {next : AsyncConnector DataType}
    (kept : KeepsIds connector next) : next.streamIdsInUse = connector.streamIdsInUse := by
  rw [streamIdsInUse, kept.1, kept.2.1, kept.2.2]
  rfl

end Keeps

/-- `ReleaseId` returns the id to the end of the free ids. -/
theorem InternalStreamIdMapper.releaseId_eq_ok {mapper next : InternalStreamIdMapper}
    {syntheticId : Int} (released : mapper.releaseId syntheticId = .ok next) :
    next.clusterIds = mapper.clusterIds ++ [syntheticId.toNat] ∧ next.capacity = mapper.capacity ∧
      syntheticId.toNat < mapper.capacity := by
  unfold InternalStreamIdMapper.releaseId at released
  split at released
  · cases released
  · split at released
    · cases released
    · cases released
      exact ⟨rfl, rfl, by omega⟩

/-- `GetNewIdFor` takes the first free id. -/
theorem InternalStreamIdMapper.getNewIdFor_eq_ok {mapper next : InternalStreamIdMapper} {id : Nat}
    (taken : mapper.getNewIdFor = .ok (id, next)) :
    mapper.clusterIds = id :: next.clusterIds ∧ next.capacity = mapper.capacity := by
  unfold InternalStreamIdMapper.getNewIdFor at taken
  split at taken
  · cases taken
  · rename_i rest free
    cases taken
    exact ⟨free, rfl⟩

end AsyncConnector

namespace AsyncSystem

/-- The stream ids the connector accounts for: free in the mapper, queued, written and not
answered, or taken by a sender that has not queued its frame. -/
def streamIdsInUse (system : AsyncSystem DataType) : List Nat :=
  system.connector.streamIdsInUse ++ system.senders.filterMap (·.pc.heldId)

/-- The cluster answers only frames on the wire: a response carries the stream id of a frame
written and not answered. -/
def AnswersWritten (system : AsyncSystem DataType) : AsyncEvent DataType → Prop
  | .receiveResponse streamId => ∃ id ∈ system.connector.written, (id : Int) = streamId
  | _ => True

/-- A run in which the cluster answers only frames on the wire. -/
def AnswersWrittenRun : AsyncSystem DataType → List (AsyncEvent DataType) → Prop
  | _, [] => True
  | system, event :: events =>
      system.AnswersWritten event ∧ (system.step event).AnswersWrittenRun events

instance decidableAnswersWritten (system : AsyncSystem DataType) :
    (event : AsyncEvent DataType) → Decidable (system.AnswersWritten event)
  | .sendToAsyncConnector _ _ _ => isTrue trivial
  | .advanceSender _ => isTrue trivial
  | .fireTimer _ => isTrue trivial
  | .writeFrame => isTrue trivial
  | .receiveResponse streamId =>
      inferInstanceAs (Decidable (∃ id ∈ system.connector.written, (id : Int) = streamId))
  | .handleResponse _ => isTrue trivial
  | .clearPendingRequests => isTrue trivial

instance decidableAnswersWrittenRun :
    (system : AsyncSystem DataType) → (events : List (AsyncEvent DataType)) →
      Decidable (system.AnswersWrittenRun events)
  | _, [] => isTrue trivial
  | system, event :: events =>
      haveI := decidableAnswersWrittenRun (system.step event) events
      inferInstanceAs (Decidable (system.AnswersWritten event ∧
        (system.step event).AnswersWrittenRun events))

variable {system : AsyncSystem DataType}

@[simp] theorem moveSender_senders (index : Nat) (pc : SenderPc) :
    (system.moveSender index pc).senders =
      system.senders.modify index fun sender => { sender with pc := pc } := rfl

@[simp] theorem moveSender_connector (index : Nat) (pc : SenderPc) :
    (system.moveSender index pc).connector = system.connector := rfl

/-- A sender's step loses ids when, with the sender moved from `sender.pc` to `pc`, the
connector's ids and the id the sender holds together lose ids. -/
theorem subperm_of_moved {index : Nat} {sender : AsyncSender DataType} {pc : SenderPc}
    {next : AsyncSystem DataType} (found : system.senders[index]? = some sender)
    (moved : next.senders = (system.moveSender index pc).senders)
    (counted : ∀ id, next.connector.streamIdsInUse.count id + pc.heldId.toList.count id ≤
      system.connector.streamIdsInUse.count id + sender.pc.heldId.toList.count id) :
    next.streamIdsInUse.Subperm system.streamIdsInUse := by
  have others := fun id => (Calls.filterMap_modify_perm (·.pc.heldId)
    (fun sender => { sender with pc := pc }) found).count_eq id
  rw [List.subperm_iff_count]
  intro id
  have atConnector := counted id
  have other := others id
  rw [streamIdsInUse, streamIdsInUse, moved, moveSender_senders]
  simp only [List.count_append] at other ⊢
  omega

/-- No step of a sender adds an id: taking an id moves it from the mapper to the sender, queueing
moves it to the write queue, and a failure drops it. -/
theorem streamIdsInUse_advanceSender (index : Nat) :
    (system.advanceSender index).streamIdsInUse.Subperm system.streamIdsInUse := by
  cases found : system.senders[index]? with
  | none =>
    simp only [advanceSender, found]
    exact List.Subperm.refl _
  | some sender =>
    obtain ⟨requestInfo, opCode, streamId, pc⟩ := sender
    cases pc with
    | validateOuter =>
      simp only [advanceSender, found]
      refine subperm_of_moved found rfl fun id => ?_
      split <;> simp [SenderPc.heldId]
    | add =>
      simp only [advanceSender, found]
      exact subperm_of_moved found rfl fun id => by simp [SenderPc.heldId]
    | validateInner =>
      simp only [advanceSender, found]
      refine subperm_of_moved found rfl fun id => ?_
      split <;> simp [SenderPc.heldId]
    | assignId =>
      simp only [advanceSender, found]
      cases taken : system.connector.streamIds.getNewIdFor with
      | error err =>
        exact subperm_of_moved found rfl fun id => by
          simp [SenderPc.heldId, AsyncConnector.streamIdsInUse]
      | ok pair =>
        obtain ⟨newId, streamIds⟩ := pair
        have freeIds := (AsyncConnector.InternalStreamIdMapper.getNewIdFor_eq_ok taken).1
        refine subperm_of_moved found rfl fun id => ?_
        simp only [AsyncConnector.streamIdsInUse, freeIds, SenderPc.heldId, List.count_append,
          List.count_cons, Option.toList_some, Option.toList_none, List.count_nil]
        omega
    | store context newId =>
      cases storedOk : system.connector.store context newId with
      | error err =>
        simp only [advanceSender, found, storedOk]
        exact subperm_of_moved found rfl fun id => by simp [SenderPc.heldId]
      | ok stored =>
        simp only [advanceSender, found, storedOk]
        refine subperm_of_moved found rfl fun id => ?_
        rw [(AsyncConnector.keepsIds_store storedOk).streamIdsInUse_eq]
        simp [SenderPc.heldId]
    | armTimer context newId =>
      simp only [advanceSender, found]
      exact subperm_of_moved found rfl fun id => by simp [SenderPc.heldId]
    | enqueue context newId =>
      simp only [advanceSender, found, AsyncConnector.enqueueAsync]
      by_cases room : system.connector.writeQueue.length < system.connector.writeQueueCapacity
      · -- the frame is queued with the id the sender held
        simp only [room, if_true]
        refine subperm_of_moved found rfl fun id => ?_
        simp only [AsyncConnector.streamIdsInUse, SenderPc.heldId, List.count_append,
          Option.toList_some, Option.toList_none, List.count_nil]
        omega
      · simp only [room, if_false]
        exact subperm_of_moved found rfl fun id => by simp [SenderPc.heldId]
    | cancelStored context newId =>
      simp only [advanceSender, found]
      refine subperm_of_moved found rfl fun id => ?_
      rw [AsyncConnector.keepsIds_cancel.streamIdsInUse_eq]
      simp [SenderPc.heldId]
    | finish sent =>
      cases sent <;> simp only [advanceSender, found, if_true, if_false, Bool.false_eq_true] <;>
        exact subperm_of_moved found rfl fun id => by simp [SenderPc.heldId]
    | returned =>
      simp only [advanceSender, found]
      exact List.Subperm.refl _

/-- No step adds a stream id: it moves one from one place to another or drops it, provided a
response answers a frame on the wire. -/
theorem streamIdsInUse_step {event : AsyncEvent DataType} (answered : system.AnswersWritten event) :
    (system.step event).streamIdsInUse.Subperm system.streamIdsInUse := by
  cases event with
  | sendToAsyncConnector requestInfo opCode streamId =>
    -- a new sender holds no id yet
    have unchanged : (system.step (.sendToAsyncConnector requestInfo opCode streamId)).streamIdsInUse =
        system.streamIdsInUse := by
      simp [step, streamIdsInUse, SenderPc.heldId]
    rw [unchanged]
  | advanceSender index => exact streamIdsInUse_advanceSender index
  | fireTimer index =>
    simp only [step, fireTimer]
    split
    · exact List.Subperm.refl _
    · rw [streamIdsInUse, streamIdsInUse, AsyncConnector.keepsIds_timeOut.streamIdsInUse_eq]
  | writeFrame =>
    simp only [step, writeFrame]
    split
    · exact List.Subperm.refl _
    · rename_i id rest queue
      -- the first queued id moves to the wire
      refine (List.perm_iff_count.mpr fun other => ?_).subperm
      simp only [streamIdsInUse, AsyncConnector.streamIdsInUse, queue, List.count_append,
        List.count_cons, List.count_nil]
      omega
  | receiveResponse streamId =>
    obtain ⟨id, onWire, rfl⟩ := answered
    have answeredIds :
        system.connector.written.filter (fun (written : Nat) => (written : Int) != (id : Int)) =
          system.connector.written.filter (· != id) := by
      refine List.filter_congr fun written _ => ?_
      simp [bne]
    -- the response takes the id off the wire and returns it to the mapper
    have returned : ∀ other, [id].count other +
        (system.connector.written.filter (· != id)).count other ≤
          system.connector.written.count other := by
      intro other
      by_cases same : other = id
      · subst same
        have present := List.count_pos_iff.mpr onWire
        have dropped : (system.connector.written.filter (· != other)).count other = 0 :=
          List.count_eq_zero.mpr (by simp)
        simp only [List.count_singleton_self, dropped]
        omega
      · rw [List.count_filter (by simpa using same), List.count_singleton]
        simp [Ne.symm same]
    simp only [step, receiveResponse, answeredIds, if_neg (not_lt.mpr (Int.natCast_nonneg id))]
    refine List.subperm_iff_count.mpr fun other => ?_
    have kept := returned other
    split
    · simp only [streamIdsInUse, AsyncConnector.streamIdsInUse, List.count_append] at kept ⊢
      omega
    · rename_i streamIds released
      have freeIds := (AsyncConnector.InternalStreamIdMapper.releaseId_eq_ok released).1
      simp only [streamIdsInUse, AsyncConnector.streamIdsInUse, freeIds, Int.toNat_natCast,
        List.count_append] at kept ⊢
      omega
  | handleResponse index =>
    simp only [step, handleResponse]
    split
    · exact List.Subperm.refl _
    · rw [streamIdsInUse, streamIdsInUse, AsyncConnector.keepsIds_markAsDone.streamIdsInUse_eq]
  | clearPendingRequests =>
    simp only [step, clearPendingRequests]
    rw [streamIdsInUse, streamIdsInUse, AsyncConnector.keepsIds_clearPending.streamIdsInUse_eq]
@[simp] theorem run_cons (event : AsyncEvent DataType) (events : List (AsyncEvent DataType)) :
    system.run (event :: events) = (system.step event).run events := rfl

/-- Over a run in which the cluster answers only frames on the wire, no id is added. -/
theorem streamIdsInUse_run :
    ∀ {system : AsyncSystem DataType} (events : List (AsyncEvent DataType)),
      system.AnswersWrittenRun events →
      (system.run events).streamIdsInUse.Subperm system.streamIdsInUse
  | _, [], _ => List.Subperm.refl _
  | _, _ :: events, ⟨answered, rest⟩ =>
    (streamIdsInUse_run events rest).trans (streamIdsInUse_step answered)

/-- A new connector accounts for its free ids only. -/
theorem streamIdsInUse_initial (maximumStreamIds writeQueueCapacity : Nat) :
    (initial maximumStreamIds writeQueueCapacity : AsyncSystem DataType).streamIdsInUse =
      List.range maximumStreamIds := by
  simp [initial, streamIdsInUse, AsyncConnector.streamIdsInUse, newInternalStreamIdMapper]

end AsyncSystem

/-- Over every interleaving of the async connector's goroutines in which the cluster answers
only frames on the wire, its stream ids are never duplicated: the free ids, the ids senders hold
before queueing, the queued ids and the ids written and not answered are pairwise distinct, and
all below the mapper's capacity. So no two frames in flight share a stream id, and
`GetNewIdFor` never hands out an id in flight.

Proof: no step adds an id (`streamIdsInUse_step`), so the ids in use after a run are a
sub-multiset of the new connector's, `0, ..., maximumStreamIds - 1`. -/
theorem async_stream_ids_conserved (maximumStreamIds writeQueueCapacity : Nat)
    (events : List (AsyncEvent DataType))
    (answered : (AsyncSystem.initial maximumStreamIds writeQueueCapacity).AnswersWrittenRun events) :
    ((AsyncSystem.initial maximumStreamIds writeQueueCapacity).run events).streamIdsInUse.Nodup ∧
      ∀ id ∈ ((AsyncSystem.initial maximumStreamIds writeQueueCapacity).run events).streamIdsInUse,
        id < maximumStreamIds := by
  have conserved := AsyncSystem.streamIdsInUse_run events answered
  rw [AsyncSystem.streamIdsInUse_initial] at conserved
  obtain ⟨kept, perm, sub⟩ := conserved
  refine ⟨perm.nodup_iff.mp (List.nodup_range.sublist sub), fun id inUse => ?_⟩
  exact List.mem_range.mp (sub.subset (perm.mem_iff.mpr inUse))

/-- Two dual-read copies on a connector with two ids and a write queue of one frame: the first is
queued and the second discarded; the first is written, answered and handled. -/
def answeredAfterOverflow : List (AsyncEvent Unit) :=
  .sendToAsyncConnector (.generic .forwardToOrigin true true) .query 1 ::
    List.replicate 8 (.advanceSender 0) ++
  .sendToAsyncConnector (.generic .forwardToOrigin true true) .query 2 ::
    List.replicate 9 (.advanceSender 1) ++
  [.writeFrame, .receiveResponse 0, .handleResponse 0]

theorem async_stream_ids_conserved_answeredAfterOverflow :
    (AsyncSystem.initial 2 1 : AsyncSystem Unit).AnswersWrittenRun answeredAfterOverflow ∧
      ((AsyncSystem.initial 2 1).run answeredAfterOverflow).streamIdsInUse.Nodup ∧
      ∀ id ∈ ((AsyncSystem.initial 2 1).run answeredAfterOverflow).streamIdsInUse, id < 2 :=
  have answered : (AsyncSystem.initial 2 1 : AsyncSystem Unit).AnswersWrittenRun
      answeredAfterOverflow := by decide +kernel
  ⟨answered, async_stream_ids_conserved 2 1 answeredAfterOverflow answered⟩

end ZdmProxy.Handler
