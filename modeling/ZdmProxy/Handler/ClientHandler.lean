import ZdmProxy.Handler.RequestContext
import ZdmProxy.Conn.StreamIdMapper

/-!
# The client handler's request path

A `ClientHandler` forwards each client request to the cluster connectors (`executeRequest`,
`clienthandler.go`). Before it sends anything it stores a request context in the holder of
the request's client stream id (`storeRequestContext`), which fails with a stream id collision
while the holder holds another context; the response loop later finishes the context, by the
clusters' responses or by the request's timeout, and `finishRequest` clears the holder, counts
the request done in `clientHandlerRequestWaitGroup` and enqueues the aggregated response to the
client.

When the connector cannot renumber the request (its stream id mapper has no free id),
`handleRequestSendFailure` answers the client with OVERLOADED at once, but the context stays in
its holder until its timer fires. A client that reuses the stream id after that answer has its
next request refused as a collision and dropped without any response
(`handleRequestSendFailure_keeps_stream_id_held`).

Each event of `ClientHandler.step` is one goroutine's step: the request goroutine running
`forwardRequest` for a request, a cluster answering a written request (the connector's
response reader renumbers the response back), a request timer, or the response loop's task
for one response. The clusters' stream ids come from `streamIdMapper`s, whose calls here are
not interleaved with others (`StreamIdMapper.getNewIdFor`, `StreamIdMapper.releaseId`).
Requests to the async connector are modelled in `ZdmProxy.Handler.AsyncConnector`.
-/

namespace ZdmProxy.Handler

open ZdmProxy.Routing ZdmProxy.Conn

/-- `strings.Contains`. -/
def stringsContains (text substring : String) : Bool :=
  decide (substring.toList <:+: text.toList)

/-- A frame: the stream id in its header, and a number that stands for its address. -/
structure RawFrame where
  streamId : Int
  address : Nat
  deriving DecidableEq, Repr

/-- A frame the proxy enqueues to the client. -/
inductive ClientResponse where
  /-- The response of an intercepted request, which goes to no cluster. -/
  | interceptedResponse
  /-- The response `finishRequest` computes from the clusters' responses. -/
  | clusterResponse (cluster : ClusterType)
  /-- `sendOverloadedToClient`. -/
  | overloaded
  /-- The protocol error `handleRequestSendFailure` builds from the send error. -/
  | protocolError (message : String)
  deriving DecidableEq, Repr

/-- A message on `respChannel`: a cluster's response with its stream id renumbered back to
the client's, or `NewTimeoutResponse` for a request. -/
inductive Response where
  | clusterResponse (cluster : ClusterType) (streamId : Int)
  | timeoutResponse (request : RawFrame)
  deriving DecidableEq, Repr

variable {DataType : Type}

/-- The client handler's request-path state. Contexts are referred to by their index in
`contexts`, which is also the address of their request frame. `originWritten` and
`targetWritten` are the cluster stream ids written to each cluster and not answered yet;
`clientResponses` are the frames enqueued to the client, each with the request it answers;
`droppedRequests` are the requests `handleRequest` gave up on, with the error it logged. -/
structure ClientHandler (DataType : Type) where
  asyncConnectorClusterType : ClusterType
  requestContextHolders : List (Int × Nat)
  asyncRequestContextHolders : List (Int × Nat)
  contexts : List (RequestContextImpl RawFrame DataType)
  originMapper : StreamIdMapper
  targetMapper : StreamIdMapper
  originWritten : List Nat
  targetWritten : List Nat
  timers : List Nat
  respChannel : List Response
  clientResponses : List (RawFrame × ClientResponse)
  droppedRequests : List (RawFrame × String)
  clientHandlerRequestWaitGroup : Int

/-- `storeRequestContext`: `SetIfEmpty` on the holder of the request's stream id. -/
def storeRequestContext (contextHolders : List (Int × Nat)) (streamId : Int) (context : Nat) :
    Except String (List (Int × Nat)) :=
  match contextHolders.lookup streamId with
  | some _ => .error s!"stream id collision ({streamId})"
  | none => .ok ((streamId, context) :: contextHolders)

/-- `requestContextHolder.Clear`: the holder is emptied only if it holds `context`. -/
def clearHolder (contextHolders : List (Int × Nat)) (streamId : Int) (context : Nat) :
    List (Int × Nat) :=
  if contextHolders.lookup streamId = some context then contextHolders.filter (·.1 != streamId)
  else contextHolders

/-- `computeClientResponse`: the response to send and the cluster it comes from, once the
responses the forward decision waits for are there. Two responses are aggregated; which of
them wins depends on their content, which is not modelled, so the origin's stands for both. -/
def computeClientResponse (asyncConnectorClusterType : ClusterType)
    (requestContext : RequestContextImpl RawFrame DataType) : Except String ClusterType :=
  let streamId := requestContext.request.streamId
  match requestContext.requestInfo.getForwardDecision with
  | .forwardToOrigin =>
      if requestContext.originResponse.isNone then
        .error s!"did not receive response from origin cassandra channel, stream: {streamId}"
      else .ok .origin
  | .forwardToTarget =>
      if requestContext.targetResponse.isNone then
        .error s!"did not receive response from target cassandra channel, stream: {streamId}"
      else .ok .target
  | .forwardToBoth =>
      if requestContext.originResponse.isNone then
        .error s!"did not receive response from original cassandra channel, stream: {streamId}"
      else if requestContext.targetResponse.isNone then
        .error s!"did not receive response from target cassandra channel, stream: {streamId}"
      else .ok .origin
  | .forwardToAsyncOnly =>
      match asyncConnectorClusterType with
      | .target =>
          if requestContext.targetResponse.isNone then
            .error s!"did not receive response from async target cassandra channel, stream: {streamId}"
          else .ok .target
      | .origin =>
          if requestContext.originResponse.isNone then
            .error s!"did not receive response from async origin cassandra channel, stream: {streamId}"
          else .ok .origin
  | .forwardToNone => .error "forwardToNone is not expected to reach this code"

namespace ClientHandler

/-- The stream id mapper of a cluster's connector. -/
def mapper (handler : ClientHandler DataType) : ClusterType → StreamIdMapper
  | .origin => handler.originMapper
  | .target => handler.targetMapper

/-- The handler with a cluster's mapper replaced. -/
def setMapper (handler : ClientHandler DataType) (mapper : StreamIdMapper) :
    ClusterType → ClientHandler DataType
  | .origin => { handler with originMapper := mapper }
  | .target => { handler with targetMapper := mapper }

/-- The cluster stream ids written to a cluster and not answered yet. -/
def written (handler : ClientHandler DataType) : ClusterType → List Nat
  | .origin => handler.originWritten
  | .target => handler.targetWritten

/-- The handler with the ids written to a cluster replaced. -/
def setWritten (handler : ClientHandler DataType) (ids : List Nat) :
    ClusterType → ClientHandler DataType
  | .origin => { handler with originWritten := ids }
  | .target => { handler with targetWritten := ids }

/-- `ClusterConnector.sendRequestToCluster`: renumber the request with a new cluster stream
id, then enqueue it; the error of `GetNewIdFor` is returned. -/
def sendRequestToCluster (handler : ClientHandler DataType) (cluster : ClusterType)
    (request : RawFrame) : Except String Unit × ClientHandler DataType :=
  let (mapper, assigned) := (handler.mapper cluster).getNewIdFor request.streamId
  let renumbered := handler.setMapper mapper cluster
  match assigned with
  | .error message => (.error message, renumbered)
  | .ok id => (.ok (), renumbered.setWritten (renumbered.written cluster ++ [id]) cluster)

/-- `handleRequestSendFailure`: OVERLOADED when the connector had no free stream id, a
protocol error for a negative stream id, and nothing otherwise. -/
def handleRequestSendFailure (handler : ClientHandler DataType) (message : String)
    (request : RawFrame) : ClientHandler DataType :=
  if stringsContains message "no stream id available" then
    { handler with clientResponses := handler.clientResponses ++ [(request, .overloaded)] }
  else if stringsContains message "negative stream id" then
    { handler with clientResponses := handler.clientResponses ++ [(request, .protocolError message)] }
  else handler

/-- A send to one cluster whose failure is handled by `handleRequestSendFailure`. -/
def sendOrHandleFailure (handler : ClientHandler DataType) (cluster : ClusterType)
    (request : RawFrame) : Except String Unit × ClientHandler DataType :=
  match handler.sendRequestToCluster cluster request with
  | (.error message, next) => (.error message, next.handleRequestSendFailure message request)
  | (.ok (), next) => (.ok (), next)

/-- `executeRequest` for a request with client stream id `streamId`, from its forward decision
on. A request to no cluster is answered at once; any other stores its context, is counted in
the wait group and, unless it only goes to the async connector, gets a timer; then it is sent.
For a request to both clusters the target is only tried when the origin send worked, and its
failure is not handled. -/
def executeRequest (handler : ClientHandler DataType) (streamId : Int)
    (requestInfo : RequestInfo DataType) : Except String (ClientHandler DataType) :=
  let f : RawFrame := ⟨streamId, handler.contexts.length⟩
  let fwdDecision := requestInfo.getForwardDecision
  if fwdDecision = .forwardToNone then
    .ok { handler with clientResponses := handler.clientResponses ++ [(f, .interceptedResponse)] }
  else
    let contextHolders := if fwdDecision = .forwardToAsyncOnly then handler.asyncRequestContextHolders
      else handler.requestContextHolders
    match storeRequestContext contextHolders streamId f.address with
    | .error message => .error message
    | .ok stored =>
        let withContext := { handler with
          contexts := handler.contexts ++ [newRequestContext f requestInfo]
          clientHandlerRequestWaitGroup := handler.clientHandlerRequestWaitGroup + 1 }
        let held := if fwdDecision = .forwardToAsyncOnly then
            { withContext with asyncRequestContextHolders := stored }
          else { withContext with requestContextHolders := stored, timers := handler.timers ++ [f.address] }
        match fwdDecision with
        | .forwardToBoth =>
            match held.sendOrHandleFailure .origin f with
            | (.error _, failed) => .ok failed
            | (.ok (), sent) => .ok (sent.sendRequestToCluster .target f).2
        | .forwardToOrigin => .ok (held.sendOrHandleFailure .origin f).2
        | .forwardToTarget => .ok (held.sendOrHandleFailure .target f).2
        | _ => .ok held

/-- `handleRequest`: a request whose `executeRequest` fails is logged and dropped. -/
def handleRequest (handler : ClientHandler DataType) (streamId : Int)
    (requestInfo : RequestInfo DataType) : ClientHandler DataType :=
  match handler.executeRequest streamId requestInfo with
  | .ok next => next
  | .error message =>
      { handler with droppedRequests :=
          handler.droppedRequests ++ [(⟨streamId, handler.contexts.length⟩, message)] }

/-- A cluster answers the `index`-th request written to it and not answered yet: its response
reader releases the cluster stream id, dropping a response whose id cannot be released, and
puts the response, renumbered back, on `respChannel`. -/
def clusterResponds (handler : ClientHandler DataType) (cluster : ClusterType) (index : Nat) :
    ClientHandler DataType :=
  match (handler.written cluster)[index]? with
  | none => handler
  | some id =>
      let answered := handler.setWritten ((handler.written cluster).eraseIdx index) cluster
      let (mapper, released) := (answered.mapper cluster).releaseId id
      let renumbered := answered.setMapper mapper cluster
      match released with
      | .error _ => renumbered
      | .ok streamId =>
          { renumbered with respChannel := renumbered.respChannel ++ [.clusterResponse cluster streamId] }

/-- The `index`-th armed timer fires: `NewTimeoutResponse` for its request goes on
`respChannel`. -/
def fireTimer (handler : ClientHandler DataType) (index : Nat) : ClientHandler DataType :=
  match handler.timers[index]? with
  | none => handler
  | some context =>
      match handler.contexts[context]? with
      | none => { handler with timers := handler.timers.eraseIdx index }
      | some requestContext =>
          { handler with
            timers := handler.timers.eraseIdx index
            respChannel := handler.respChannel ++ [.timeoutResponse requestContext.request] }

/-- `finishRequest`, after `SetTimeout` or `SetResponse` returned true: clear the holder, count
the request done, and enqueue the response to the client when it can be computed. -/
def finishRequest (handler : ClientHandler DataType) (context : Nat)
    (requestContext : RequestContextImpl RawFrame DataType) : ClientHandler DataType :=
  let cleared := { handler with
    requestContextHolders :=
      clearHolder handler.requestContextHolders requestContext.request.streamId context
    clientHandlerRequestWaitGroup := handler.clientHandlerRequestWaitGroup - 1 }
  match computeClientResponse handler.asyncConnectorClusterType requestContext with
  | .error _ => cleared
  | .ok cluster =>
      { cleared with clientResponses :=
          cleared.clientResponses ++ [(requestContext.request, .clusterResponse cluster)] }

/-- The response loop's task for the `index`-th message on `respChannel`: the context held for
its stream id takes the response or the timeout, and `finishRequest` runs if that finished it. -/
def handleResponse (handler : ClientHandler DataType) (index : Nat) : ClientHandler DataType :=
  match handler.respChannel[index]? with
  | none => handler
  | some response =>
      let taken := { handler with respChannel := handler.respChannel.eraseIdx index }
      let streamId := match response with
        | .clusterResponse _ streamId => streamId
        | .timeoutResponse request => request.streamId
      match handler.requestContextHolders.lookup streamId with
      | none => taken
      | some context =>
          match handler.contexts[context]? with
          | none => taken
          | some requestContext =>
              let (finished, updated) := match response with
                | .clusterResponse cluster streamId =>
                    requestContext.setResponse ⟨streamId, 0⟩ cluster
                | .timeoutResponse request => requestContext.setTimeout request
              let recorded := { taken with contexts := handler.contexts.set context updated }
              if finished then recorded.finishRequest context updated else recorded

end ClientHandler

/-- An event: one step of one goroutine. -/
inductive ClientHandlerEvent (DataType : Type) where
  | forwardRequest (streamId : Int) (requestInfo : RequestInfo DataType)
  | clusterResponds (cluster : ClusterType) (index : Nat)
  | fireTimer (index : Nat)
  | handleResponse (index : Nat)

namespace ClientHandler

/-- One event. -/
def step (handler : ClientHandler DataType) : ClientHandlerEvent DataType → ClientHandler DataType
  | .forwardRequest streamId requestInfo => handler.handleRequest streamId requestInfo
  | .clusterResponds cluster index => handler.clusterResponds cluster index
  | .fireTimer index => handler.fireTimer index
  | .handleResponse index => handler.handleResponse index

/-- The handler after a sequence of events. -/
def run (handler : ClientHandler DataType) (events : List (ClientHandlerEvent DataType)) :
    ClientHandler DataType :=
  events.foldl step handler

/-- A handler after the handshake with no request yet, whose connectors' mappers are new
mappers for `protocolVersion` limited to `proxyMaxStreamIds` ids. -/
def initial (protocolVersion proxyMaxStreamIds : Nat) : ClientHandler DataType :=
  { asyncConnectorClusterType := .target
    requestContextHolders := []
    asyncRequestContextHolders := []
    contexts := []
    originMapper := newStreamIdMapper protocolVersion proxyMaxStreamIds
    targetMapper := newStreamIdMapper protocolVersion proxyMaxStreamIds
    originWritten := []
    targetWritten := []
    timers := []
    respChannel := []
    clientResponses := []
    droppedRequests := []
    clientHandlerRequestWaitGroup := 0 }

end ClientHandler

/-- Three reads with client stream ids 1, 2 and 2 to origin, whose connector has a single
stream id: the first takes it, the second finds none and is answered OVERLOADED, and the
client reuses stream id 2 for the third. -/
def overloadedThenReused : List (ClientHandlerEvent Unit) :=
  [.forwardRequest 1 (.generic .forwardToOrigin false true),
    .forwardRequest 2 (.generic .forwardToOrigin false true),
    .forwardRequest 2 (.generic .forwardToOrigin false true)]

/-- An OVERLOADED answer does not free the client stream id: after `overloadedThenReused` the
second request was answered OVERLOADED and its context still holds stream id 2, so the third
request, sent after that answer, was refused as a collision and dropped without a response. -/
theorem handleRequestSendFailure_keeps_stream_id_held :
    ((ClientHandler.initial 4 1).run overloadedThenReused).clientResponses =
        [(⟨2, 1⟩, .overloaded)] ∧
      ((ClientHandler.initial 4 1).run overloadedThenReused).requestContextHolders.lookup 2 = some 1 ∧
      ((ClientHandler.initial 4 1).run overloadedThenReused).droppedRequests =
        [(⟨2, 2⟩, "stream id collision (2)")] := by
  decide +kernel

/-! ## Heartbeats on the cluster connections -/

/-- `ClusterConnector.shouldSendHeartbeat`: more than the interval has passed since the last
heartbeat; times are in nanoseconds. -/
def shouldSendHeartbeat (lastHeartbeatTime now heartbeatIntervalMs : Int) : Bool :=
  decide (now - lastHeartbeatTime > heartbeatIntervalMs * 1000000)

namespace ClientHandler

/-- `ClusterConnector.sendHeartbeat` on the connector of `cluster` at time `now`: the last
heartbeat time and the handler after it. When the protocol version is known and the interval has
passed, it records the time and sends an OPTIONS frame with stream id -1 through
`sendRequestToCluster`, which logs its error; the error is dropped. The check is made again
under `lastHeartbeatLock` against concurrent callers, and a single caller passes it again.
`address` stands for the new frame. -/
def sendHeartbeat (handler : ClientHandler DataType) (cluster : ClusterType) (version : Nat)
    (heartbeatIntervalMs lastHeartbeatTime now : Int) (address : Nat) :
    Int × ClientHandler DataType :=
  if version = 0 ∨ !shouldSendHeartbeat lastHeartbeatTime now heartbeatIntervalMs then
    (lastHeartbeatTime, handler)
  else (now, (handler.sendRequestToCluster cluster ⟨-1, address⟩).2)

theorem setMapper_mapper (handler : ClientHandler DataType) (cluster : ClusterType) :
    handler.setMapper (handler.mapper cluster) cluster = handler := by
  cases cluster <;> rfl

end ClientHandler

/-- Every protocol version rejects the stream id -1 of a client request. -/
theorem validateStreamId_neg_one (protocolVersion : Nat) :
    validateStreamId protocolVersion (-1) = .error "negative stream id: -1" := by
  unfold validateStreamId
  rw [if_neg (by omega), if_pos (by decide)]
  rfl

/-- `GetNewIdFor(-1)` fails before it takes an id, whatever the mapper holds. -/
theorem getNewIdFor_neg_one (mapper : StreamIdMapper) :
    mapper.getNewIdFor (-1) = (mapper, .error "negative stream id: -1") := by
  rw [StreamIdMapper.getNewIdFor, validateStreamId_neg_one]

/-- The heartbeat never reaches a cluster connection: whatever the state of the connector's
`streamIdMapper`, free ids or not, `sendRequestToCluster` fails on the OPTIONS frame's stream id
-1 with a negative stream id error and enqueues nothing, so `sendHeartbeat` changes nothing but
the last heartbeat time. -/
theorem sendHeartbeat_rejected_by_stream_id_mapper (handler : ClientHandler DataType)
    (cluster : ClusterType) (version : Nat) (heartbeatIntervalMs lastHeartbeatTime now : Int)
    (address : Nat) :
    handler.sendRequestToCluster cluster ⟨-1, address⟩ = (.error "negative stream id: -1", handler) ∧
      handler.sendHeartbeat cluster version heartbeatIntervalMs lastHeartbeatTime now address =
        (if version = 0 ∨ !shouldSendHeartbeat lastHeartbeatTime now heartbeatIntervalMs then
          lastHeartbeatTime else now, handler) := by
  have rejected : handler.sendRequestToCluster cluster ⟨-1, address⟩ =
      (.error "negative stream id: -1", handler) := by
    simp only [ClientHandler.sendRequestToCluster, getNewIdFor_neg_one,
      ClientHandler.setMapper_mapper]
  refine ⟨rejected, ?_⟩
  unfold ClientHandler.sendHeartbeat
  split <;> simp [rejected]

end ZdmProxy.Handler
