import ZdmProxy.Handler.RequestContext

/-!
# The async connector

With dual reads, a request the client handler sends to one cluster is also sent, fire and
forget, to the other cluster through the async connector (`sendToAsyncConnector`,
`clusterconn.go`). Each copy counts in the client handler's `clientHandlerRequestWaitGroup`,
which shutdown waits for. The copy gets an internal stream id from an
`internalStreamIdMapper`, an `asyncRequestContextImpl` stored in the connector's pending
requests under that id, a timeout timer, and a place in the bounded write queue
(`EnqueueAsync`), which discards it when the queue is full. A response from the cluster
returns its stream id to the mapper and finishes the context (`handleAsyncResponse`).

The goroutines involved are the client handler's request goroutine running
`sendToAsyncConnector` (an `AsyncSender`), the timers, the connection's writer, its response
reader and the goroutines that handle each response, and the shutdown sweep. Each step of
`AsyncSystem.step` is one atomic step of one of them: one channel operation, or one method
that holds a lock for all it does. A run is any sequence of events, so every interleaving of
the goroutines is a run.

Contexts are referred to by their index in `contexts`, which stands for their address: a
holder is cleared only for the very context it holds.

Two runs show that the accounting of ids and of the wait group is not kept on the error path
of `sendAsyncRequestToCluster`: a copy discarded by a full write queue never returns its stream
id (`sendAsyncRequestToCluster_leaks_stream_id`), and a timer that fires before the discard is
handled makes the wait group count the copy done twice
(`sendToAsyncConnector_double_done`).
-/

namespace ZdmProxy.Handler

open ZdmProxy.Routing

/-- `ConnectorStateHandshake`, `ConnectorStateReady` and `ConnectorStateShutdown`. -/
inductive ConnectorState where
  | connectorStateHandshake | connectorStateReady | connectorStateShutdown
  deriving DecidableEq, Repr

/-- `validateAsyncStateForRequest`: during the handshake only handshake requests go out. -/
def validateAsyncStateForRequest (state : ConnectorState) (opCode : OpCode) : Bool :=
  match state with
  | .connectorStateShutdown => false
  | .connectorStateHandshake =>
      match opCode with
      | .startup | .authResponse | .options => true
      | _ => false
  | .connectorStateReady => true

/-- `internalStreamIdMapper`: the channel of free ids and its capacity. -/
structure InternalStreamIdMapper where
  clusterIds : List Nat
  capacity : Nat
  deriving DecidableEq, Repr

/-- `NewInternalStreamIdMapper`. -/
def newInternalStreamIdMapper (maximumStreamIds : Nat) : InternalStreamIdMapper :=
  ⟨List.range maximumStreamIds, maximumStreamIds⟩

namespace InternalStreamIdMapper

/-- `GetNewIdFor`: receive a free id without blocking. -/
def getNewIdFor (mapper : InternalStreamIdMapper) : Except String (Nat × InternalStreamIdMapper) :=
  match mapper.clusterIds with
  | [] => .error "no stream id available"
  | id :: rest => .ok (id, { mapper with clusterIds := rest })

/-- `ReleaseId`: send the id back without blocking, after a range check. Whether the id is in
use is not checked. -/
def releaseId (mapper : InternalStreamIdMapper) (syntheticId : Int) :
    Except String InternalStreamIdMapper :=
  if syntheticId < 0 ∨ mapper.capacity ≤ syntheticId then
    .error s!"can not release invalid stream id {syntheticId} (max id: {(mapper.capacity : Int) - 1})"
  else if mapper.capacity ≤ mapper.clusterIds.length then
    .error s!"stream ids channel full, ignoring id {syntheticId}"
  else .ok { mapper with clusterIds := mapper.clusterIds ++ [syntheticId.toNat] }

end InternalStreamIdMapper

variable {DataType : Type}

/-- The async connector: its state, stream ids, pending requests, the contexts allocated so
far, the write queue and the stream ids written to the connection and not answered yet. A
pending request is a holder that holds a context; an empty holder is absent. -/
structure AsyncConnector (DataType : Type) where
  asyncConnectorState : ConnectorState
  streamIds : InternalStreamIdMapper
  pendingRequests : List (Nat × Nat)
  contexts : List (AsyncRequestContextImpl DataType)
  writeQueue : List Nat
  writeQueueCapacity : Nat
  written : List Nat

namespace AsyncConnector

/-- The context a reference points to. -/
def context? (connector : AsyncConnector DataType) (context : Nat) :
    Option (AsyncRequestContextImpl DataType) :=
  connector.contexts[context]?

/-- A call on a referenced context: its result, with the connector holding the updated
context. A dangling reference answers false. -/
def callContext (connector : AsyncConnector DataType) (context : Nat)
    (contextCall : ContextCall Unit) : Bool × AsyncConnector DataType :=
  match connector.context? context with
  | some current =>
      let (result, next) := current.call contextCall
      (result, { connector with contexts := connector.contexts.set context next })
  | none => (false, connector)

/-- `requestContextHolder.SetIfEmpty` on the holder of a stream id, through
`pendingRequests.store`. -/
def store (connector : AsyncConnector DataType) (context id : Nat) :
    Except String (AsyncConnector DataType) :=
  match connector.pendingRequests.lookup id with
  | some _ => .error s!"stream id collision ({id})"
  | none => .ok { connector with pendingRequests := (id, context) :: connector.pendingRequests }

/-- `clearPendingRequestState`: `requestContextHolder.Clear`, which only clears the context
the holder holds; the error is only logged. -/
def clearPendingRequestState (connector : AsyncConnector DataType) (id context : Nat) :
    AsyncConnector DataType :=
  if connector.pendingRequests.lookup id = some context then
    { connector with pendingRequests := connector.pendingRequests.filter (·.1 != id) }
  else connector

/-- `pendingRequests.timeOut`. -/
def timeOut (connector : AsyncConnector DataType) (id context : Nat) :
    Bool × AsyncConnector DataType :=
  let (timedOut, next) := connector.callContext context (.setTimeout ())
  if timedOut then (true, next.clearPendingRequestState id context) else (false, next)

/-- `pendingRequests.cancel`. -/
def cancel (connector : AsyncConnector DataType) (id context : Nat) :
    Bool × AsyncConnector DataType :=
  let (canceled, next) := connector.callContext context .cancel
  if canceled then (true, next.clearPendingRequestState id context) else (false, next)

/-- `pendingRequests.markAsDone`: the response finishes the context its holder holds. -/
def markAsDone (connector : AsyncConnector DataType) (id : Nat) : Bool × AsyncConnector DataType :=
  match connector.pendingRequests.lookup id with
  | none => (false, connector)
  | some context =>
      let (finished, next) := connector.callContext context (.setResponse () .origin)
      if finished then (true, next.clearPendingRequestState id context) else (false, next)

/-- `writeCoalescer.EnqueueAsync`: a full write queue discards the frame. -/
def enqueueAsync (connector : AsyncConnector DataType) (id : Nat) : Bool × AsyncConnector DataType :=
  if connector.writeQueue.length < connector.writeQueueCapacity then
    (true, { connector with writeQueue := connector.writeQueue ++ [id] })
  else (false, connector)

/-- `pendingRequests.clear` at shutdown: cancel every held context; the number of canceled
fire-and-forget contexts, whose callback calls `Done`, and the connector after. -/
def clearPending (connector : AsyncConnector DataType) : Nat × AsyncConnector DataType :=
  connector.pendingRequests.foldl
    (fun (done, current) (id, context) =>
      let (canceled, next) := current.cancel id context
      let fireAndForget := match current.context? context with
        | some held => !held.expectedResponse
        | none => false
      (if canceled && fireAndForget then done + 1 else done, next))
    (0, connector)

end AsyncConnector

/-- Where the goroutine running `sendToAsyncConnector` for a fire-and-forget copy is. The
steps after `validateInner` are those of `sendAsyncRequestToCluster`. -/
inductive SenderPc where
  | validateOuter
  | add
  | validateInner
  | assignId
  | store (context id : Nat)
  | armTimer (context id : Nat)
  | enqueue (context id : Nat)
  | cancelStored (context id : Nat)
  | finish (sent : Bool)
  | returned
  deriving DecidableEq, Repr

/-- A fire-and-forget copy being sent, with the client request's stream id. -/
structure AsyncSender (DataType : Type) where
  requestInfo : RequestInfo DataType
  opCode : OpCode
  streamId : Int
  pc : SenderPc

/-- The async connector with the client handler's wait group and the goroutines working on
it: senders, armed timers (context and stream id) and received responses waiting to be
handled. -/
structure AsyncSystem (DataType : Type) where
  connector : AsyncConnector DataType
  clientHandlerRequestWaitGroup : Int
  senders : List (AsyncSender DataType)
  timers : List (Nat × Nat)
  responses : List Nat

/-- An event: one atomic step of one goroutine. -/
inductive AsyncEvent (DataType : Type) where
  | sendToAsyncConnector (requestInfo : RequestInfo DataType) (opCode : OpCode) (streamId : Int)
  | advanceSender (sender : Nat)
  | fireTimer (timer : Nat)
  | writeFrame
  | receiveResponse (streamId : Int)
  | handleResponse (response : Nat)
  | clearPendingRequests

namespace AsyncSystem

/-- The system with the sender at `index` moved to `pc`. -/
def moveSender (system : AsyncSystem DataType) (index : Nat) (pc : SenderPc) : AsyncSystem DataType :=
  { system with senders := system.senders.modify index fun sender => { sender with pc := pc } }

/-- One atomic step of the sender at `index`. -/
def advanceSender (system : AsyncSystem DataType) (index : Nat) : AsyncSystem DataType :=
  match system.senders[index]? with
  | none => system
  | some sender =>
      let connector := system.connector
      let valid := validateAsyncStateForRequest connector.asyncConnectorState sender.opCode
      match sender.pc with
      | .validateOuter => system.moveSender index (if valid then .add else .returned)
      | .add =>
          { system.moveSender index .validateInner with
            clientHandlerRequestWaitGroup := system.clientHandlerRequestWaitGroup + 1 }
      | .validateInner => system.moveSender index (if valid then .assignId else .finish false)
      | .assignId =>
          let context := connector.contexts.length
          let allocated := { connector with
            contexts := connector.contexts ++
              [newAsyncRequestContext sender.requestInfo sender.streamId false] }
          match connector.streamIds.getNewIdFor with
          | .error _ => { system.moveSender index (.finish false) with connector := allocated }
          | .ok (id, streamIds) =>
              { system.moveSender index (.store context id) with
                connector := { allocated with streamIds := streamIds } }
      | .store context id =>
          match connector.store context id with
          | .error _ => system.moveSender index (.finish false)
          | .ok stored => { system.moveSender index (.armTimer context id) with connector := stored }
      | .armTimer context id =>
          { system.moveSender index (.enqueue context id) with
            timers := system.timers ++ [(context, id)] }
      | .enqueue context id =>
          let (sent, enqueued) := connector.enqueueAsync id
          { system.moveSender index (if sent then .finish true else .cancelStored context id) with
            connector := enqueued }
      | .cancelStored context id =>
          { system.moveSender index (.finish false) with connector := (connector.cancel id context).2 }
      | .finish sent =>
          if sent then system.moveSender index .returned
          else
            { system.moveSender index .returned with
              clientHandlerRequestWaitGroup := system.clientHandlerRequestWaitGroup - 1 }
      | .returned => system

/-- A timer fires: `timeOut`, and the `onTimeout` callback of a fire-and-forget copy calls
`Done`. -/
def fireTimer (system : AsyncSystem DataType) (index : Nat) : AsyncSystem DataType :=
  match system.timers[index]? with
  | none => system
  | some (context, id) =>
      let (timedOut, connector) := system.connector.timeOut id context
      { system with
        connector := connector
        timers := system.timers.eraseIdx index
        clientHandlerRequestWaitGroup :=
          if timedOut then system.clientHandlerRequestWaitGroup - 1
          else system.clientHandlerRequestWaitGroup }

/-- The writer writes the first frame of the write queue to the connection. -/
def writeFrame (system : AsyncSystem DataType) : AsyncSystem DataType :=
  match system.connector.writeQueue with
  | [] => system
  | id :: rest =>
      { system with connector := { system.connector with
          writeQueue := rest, written := system.connector.written ++ [id] } }

/-- The response reader reads a response: a non-negative stream id goes back to the mapper,
and a response whose id cannot be released is dropped; the response is then handled on its
own goroutine. -/
def receiveResponse (system : AsyncSystem DataType) (streamId : Int) : AsyncSystem DataType :=
  let connector := { system.connector with
    written := system.connector.written.filter (fun id => (id : Int) != streamId) }
  if streamId < 0 then { system with connector := connector }
  else
    match connector.streamIds.releaseId streamId with
    | .error _ => { system with connector := connector }
    | .ok streamIds =>
        { system with
          connector := { connector with streamIds := streamIds }
          responses := system.responses ++ [streamId.toNat] }

/-- `handleAsyncResponse` of a fire-and-forget copy's response: `markAsDone`, then `Done`. -/
def handleResponse (system : AsyncSystem DataType) (index : Nat) : AsyncSystem DataType :=
  match system.responses[index]? with
  | none => system
  | some id =>
      let (done, connector) := system.connector.markAsDone id
      { system with
        connector := connector
        responses := system.responses.eraseIdx index
        clientHandlerRequestWaitGroup :=
          if done then system.clientHandlerRequestWaitGroup - 1
          else system.clientHandlerRequestWaitGroup }

/-- The shutdown sweep `asyncPendingRequests.clear`, whose callback calls `Done` for each
canceled fire-and-forget copy. -/
def clearPendingRequests (system : AsyncSystem DataType) : AsyncSystem DataType :=
  let (done, connector) := system.connector.clearPending
  { system with
    connector := connector
    clientHandlerRequestWaitGroup := system.clientHandlerRequestWaitGroup - done }

/-- One event. -/
def step (system : AsyncSystem DataType) : AsyncEvent DataType → AsyncSystem DataType
  | .sendToAsyncConnector requestInfo opCode streamId =>
      { system with senders := system.senders ++ [⟨requestInfo, opCode, streamId, .validateOuter⟩] }
  | .advanceSender index => system.advanceSender index
  | .fireTimer index => system.fireTimer index
  | .writeFrame => system.writeFrame
  | .receiveResponse streamId => system.receiveResponse streamId
  | .handleResponse index => system.handleResponse index
  | .clearPendingRequests => system.clearPendingRequests

/-- The system after a sequence of events. -/
def run (system : AsyncSystem DataType) (events : List (AsyncEvent DataType)) : AsyncSystem DataType :=
  events.foldl step system

/-- A ready async connector with `maximumStreamIds` ids and a write queue of
`writeQueueCapacity` frames, and no goroutine at work. -/
def initial (maximumStreamIds writeQueueCapacity : Nat) : AsyncSystem DataType :=
  ⟨⟨.connectorStateReady, newInternalStreamIdMapper maximumStreamIds, [], [], [], writeQueueCapacity,
    []⟩, 0, [], [], []⟩

/-- No goroutine is at work on the connector: every sender has returned, and no request is
pending, queued, written, answered or timed. -/
def Quiescent (system : AsyncSystem DataType) : Bool :=
  system.senders.all (·.pc == .returned) && system.connector.pendingRequests.isEmpty &&
    system.connector.writeQueue.isEmpty && system.connector.written.isEmpty &&
    system.responses.isEmpty && system.timers.isEmpty

end AsyncSystem

/-- A dual-read copy of a SELECT whose client stream id is `streamId`: the event that starts
its sender, which is the `sender`-th, and `steps` steps of it. -/
def dualReadCopy (streamId : Int) (sender steps : Nat) : List (AsyncEvent Unit) :=
  .sendToAsyncConnector (.generic .forwardToOrigin true true) .query streamId ::
    List.replicate steps (.advanceSender sender)

/-- Two dual-read copies on a connector whose write queue holds one frame: the first is
queued, the second finds the queue full and is discarded; then the first is written, answered
and handled, and both timers fire. -/
def writeQueueOverflow : List (AsyncEvent Unit) :=
  dualReadCopy 1 0 8 ++ dualReadCopy 2 1 9 ++
    [.writeFrame, .receiveResponse 0, .handleResponse 0, .fireTimer 0, .fireTimer 0]

/-- A copy discarded by a full write queue keeps its stream id: after `writeQueueOverflow` no
goroutine is at work and no request is in flight, yet only one of the mapper's two ids is
free, and nothing will ever release the other. -/
theorem sendAsyncRequestToCluster_leaks_stream_id :
    ((AsyncSystem.initial 2 1).run writeQueueOverflow).Quiescent = true ∧
      ((AsyncSystem.initial 2 1).run writeQueueOverflow).connector.streamIds =
        { clusterIds := [0], capacity := 2 } ∧
      ((AsyncSystem.initial 2 1).run writeQueueOverflow).clientHandlerRequestWaitGroup = 0 := by
  decide +kernel

/-- Two dual-read copies on a connector whose write queue holds one frame: the first is
queued; the timer of the second fires after it is armed and before the second finds the queue
full; the first is then written, answered and handled. -/
def timeoutBeforeOverflow : List (AsyncEvent Unit) :=
  dualReadCopy 1 0 8 ++ dualReadCopy 2 1 6 ++ [.fireTimer 1] ++
    List.replicate 3 (.advanceSender 1)

/-- A discarded copy whose timer fired first is counted done twice, by the timeout callback and
by the caller's !sent branch: after `timeoutBeforeOverflow` the wait group is zero while the
first copy is still pending, and it is -1 once that copy's response is handled. -/
theorem sendToAsyncConnector_double_done :
    ((AsyncSystem.initial 2 1).run timeoutBeforeOverflow).clientHandlerRequestWaitGroup = 0 ∧
      ((AsyncSystem.initial 2 1).run timeoutBeforeOverflow).connector.pendingRequests = [(0, 0)] ∧
      ((AsyncSystem.initial 2 1).run
        (timeoutBeforeOverflow ++ [.writeFrame, .receiveResponse 0, .handleResponse 0])).clientHandlerRequestWaitGroup =
        -1 := by
  decide +kernel

end ZdmProxy.Handler
