import ZdmProxy.Routing.BuildRequestInfo
import ZdmProxy.Lib.Calls

/-!
# Request contexts

A request context (`requestcontext.go`) tracks one forwarded request until it is answered,
times out or is canceled. `requestContextImpl` is used by the client handler for requests sent
to origin and target; it records each cluster's response and is done when the responses the
forward decision waits for are there. `asyncRequestContextImpl` is used by the async connector
and is done at its first response.

Each method takes the context's lock for everything it reads and writes of the state, so a
concurrent interleaving of calls is a sequence of calls (`Calls.run`). The timer and the
metrics a method updates are left out: stopping the timer changes no state, and an expiring
timer is a `SetTimeout` call, which is one of the calls of a run.

Frames are compared by identity in `SetTimeout`; `Frame` is any type with decidable equality,
equal values standing for the same frame object.

Both kinds of context are one-shot (`Calls.count_true_run_of_oneShot`): the state leaves
`RequestPending` at most once, never returns to it, and exactly the call that makes it leave
returns true. A `requestContextImpl` only times out for its own request frame and reports a
response as final exactly when the responses its forward decision needs have been recorded;
an `asyncRequestContextImpl` times out whatever frame it is given.
-/

namespace ZdmProxy.Handler

open ZdmProxy.Routing

/-- `RequestPending`, `RequestTimedOut`, `RequestDone` and `RequestCanceled`. -/
inductive RequestState where
  | requestPending | requestTimedOut | requestDone | requestCanceled
  deriving DecidableEq, Repr

variable {Frame DataType : Type}

/-- `requestContextImpl`, without its timer, start time and custom response channel. -/
structure RequestContextImpl (Frame DataType : Type) where
  request : Frame
  requestInfo : RequestInfo DataType
  originResponse : Option Frame
  targetResponse : Option Frame
  state : RequestState

/-- `NewRequestContext`. -/
def newRequestContext (request : Frame) (requestInfo : RequestInfo DataType) :
    RequestContextImpl Frame DataType :=
  ⟨request, requestInfo, none, none, .requestPending⟩

/-- A call on a request context, from the client handler, a timer or a connector. -/
inductive ContextCall (Frame : Type) where
  | setResponse (response : Frame) (cluster : ClusterType)
  | setTimeout (request : Frame)
  | cancel

namespace RequestContextImpl

/-- `Cancel`. -/
def cancel (context : RequestContextImpl Frame DataType) : Bool × RequestContextImpl Frame DataType :=
  if context.state ≠ .requestPending then (false, context)
  else (true, { context with state := .requestCanceled })

/-- The response recorded for `cluster`. -/
def recordResponse (context : RequestContextImpl Frame DataType) (response : Frame) :
    ClusterType → RequestContextImpl Frame DataType
  | .origin => { context with originResponse := some response }
  | .target => { context with targetResponse := some response }

/-- The completion test of `updateInternalState` on the recorded responses. -/
def responsesComplete (context : RequestContextImpl Frame DataType) : Bool :=
  match context.requestInfo.getForwardDecision with
  | .forwardToTarget => context.targetResponse.isSome
  | .forwardToOrigin => context.originResponse.isSome
  | .forwardToBoth => context.originResponse.isSome && context.targetResponse.isSome
  | .forwardToNone => true
  | .forwardToAsyncOnly => true

/-- `updateInternalState`: the new state and whether the response was recorded. -/
def updateInternalState (context : RequestContextImpl Frame DataType) (response : Frame)
    (cluster : ClusterType) : (RequestState × Bool) × RequestContextImpl Frame DataType :=
  if context.state ≠ .requestPending then ((context.state, false), context)
  else
    let recorded := context.recordResponse response cluster
    let updated := if recorded.responsesComplete then { recorded with state := .requestDone }
      else recorded
    ((updated.state, true), updated)

/-- `SetResponse`: true when the response finished the request. -/
def setResponse (context : RequestContextImpl Frame DataType) (response : Frame)
    (cluster : ClusterType) : Bool × RequestContextImpl Frame DataType :=
  let ((state, updated), next) := context.updateInternalState response cluster
  (updated && state == .requestDone, next)

/-- The responses a request waits for: both clusters' for a request sent to both, the named
cluster's for a request sent to one, and any response for a request with no single
destination. -/
def RequiredResponsesRecorded (context : RequestContextImpl Frame DataType) : Prop :=
  match context.requestInfo.getForwardDecision with
  | .forwardToBoth => context.originResponse.isSome ∧ context.targetResponse.isSome
  | .forwardToOrigin => context.originResponse.isSome
  | .forwardToTarget => context.targetResponse.isSome
  | .forwardToNone | .forwardToAsyncOnly =>
      context.originResponse.isSome ∨ context.targetResponse.isSome

/-- The invariant of a request context: a pending context still waits for a response, and a
done one has every response it waits for. -/
def Invariant (context : RequestContextImpl Frame DataType) : Prop :=
  (context.state = .requestPending → ¬context.RequiredResponsesRecorded) ∧
    (context.state = .requestDone → context.RequiredResponsesRecorded)

section Responses

variable {context : RequestContextImpl Frame DataType}

@[simp] theorem recordResponse_state (response : Frame) (cluster : ClusterType) :
    (context.recordResponse response cluster).state = context.state := by
  cases cluster <;> rfl

@[simp] theorem recordResponse_request (response : Frame) (cluster : ClusterType) :
    (context.recordResponse response cluster).request = context.request := by
  cases cluster <;> rfl

@[simp] theorem recordResponse_requestInfo (response : Frame) (cluster : ClusterType) :
    (context.recordResponse response cluster).requestInfo = context.requestInfo := by
  cases cluster <;> rfl

/-- `SetResponse` on a context that left `RequestPending` changes nothing. -/
theorem setResponse_of_not_pending (notPending : context.state ≠ .requestPending)
    (response : Frame) (cluster : ClusterType) :
    context.setResponse response cluster = (false, context) := by
  simp [setResponse, updateInternalState, notPending]

/-- `SetResponse` on a pending context records the response and is done when the completion
test passes. -/
theorem setResponse_of_pending (pending : context.state = .requestPending) (response : Frame)
    (cluster : ClusterType) :
    context.setResponse response cluster =
      if (context.recordResponse response cluster).responsesComplete then
        (true, { context.recordResponse response cluster with state := .requestDone })
      else (false, context.recordResponse response cluster) := by
  by_cases complete : (context.recordResponse response cluster).responsesComplete = true
  · simp [setResponse, updateInternalState, pending, complete]
  · simp [setResponse, updateInternalState, pending, complete]

/-- The completion test of `updateInternalState`, after a response was recorded, is the test
that the responses the forward decision waits for are there. -/
theorem responsesComplete_recordResponse (response : Frame) (cluster : ClusterType) :
    (context.recordResponse response cluster).responsesComplete = true ↔
      (context.recordResponse response cluster).RequiredResponsesRecorded := by
  unfold responsesComplete RequiredResponsesRecorded
  cases cluster <;> split <;> simp_all [recordResponse]

/-- While pending, `SetResponse` returns true exactly when the responses the forward decision
waits for are recorded after it. -/
theorem setResponse_true_iff (pending : context.state = .requestPending) (response : Frame)
    (cluster : ClusterType) :
    (context.setResponse response cluster).1 = true ↔
      (context.setResponse response cluster).2.RequiredResponsesRecorded := by
  have complete := @responsesComplete_recordResponse _ _ context response cluster
  rw [setResponse_of_pending pending]
  by_cases isComplete : (context.recordResponse response cluster).responsesComplete = true
  · simp only [isComplete, if_true, true_iff]
    exact complete.mp isComplete
  · simp only [isComplete, Bool.false_eq_true, if_false, false_iff]
    exact fun recorded => isComplete (complete.mpr recorded)

theorem invariant_newRequestContext (request : Frame) (requestInfo : RequestInfo DataType) :
    (newRequestContext request requestInfo).Invariant := by
  refine ⟨fun _ => ?_, fun isDone => by cases isDone⟩
  unfold RequiredResponsesRecorded
  split <;> simp [newRequestContext]

/-- `SetResponse` keeps the invariant. -/
theorem Invariant.setResponse (invariant : context.Invariant) (response : Frame)
    (cluster : ClusterType) : (context.setResponse response cluster).2.Invariant := by
  by_cases pending : context.state = .requestPending
  · have complete := @responsesComplete_recordResponse _ _ context response cluster
    rw [setResponse_of_pending pending]
    by_cases isComplete : (context.recordResponse response cluster).responsesComplete = true
    · simp only [isComplete, if_true]
      exact ⟨fun stillPending => (by cases stillPending), fun _ => complete.mp isComplete⟩
    · simp only [isComplete, Bool.false_eq_true, if_false]
      refine ⟨fun _ recorded => isComplete (complete.mpr recorded), fun isDone => ?_⟩
      simp [pending] at isDone
  · rw [setResponse_of_not_pending pending]
    exact invariant

/-- `SetResponse` returns true exactly at the call after which the responses the forward
decision waits for are recorded for the first time. -/
theorem setResponse_true_iff_first_recorded (invariant : context.Invariant) (response : Frame)
    (cluster : ClusterType) :
    (context.setResponse response cluster).1 = true ↔
      ¬context.RequiredResponsesRecorded ∧
        (context.setResponse response cluster).2.RequiredResponsesRecorded := by
  by_cases pending : context.state = .requestPending
  · rw [setResponse_true_iff pending]
    exact ⟨fun recorded => ⟨invariant.1 pending, recorded⟩, fun both => both.2⟩
  · rw [setResponse_of_not_pending pending]
    simp

end Responses

variable [DecidableEq Frame]

/-- `SetTimeout`: only the context's own request frame times it out. -/
def setTimeout (context : RequestContextImpl Frame DataType) (request : Frame) :
    Bool × RequestContextImpl Frame DataType :=
  if context.state ≠ .requestPending then (false, context)
  else if context.request = request then (true, { context with state := .requestTimedOut })
  else (false, context)

/-- One call of a run. -/
def call (context : RequestContextImpl Frame DataType) :
    ContextCall Frame → Bool × RequestContextImpl Frame DataType
  | .setResponse response cluster => context.setResponse response cluster
  | .setTimeout request => context.setTimeout request
  | .cancel => context.cancel

section Calls

variable {context : RequestContextImpl Frame DataType}

/-- A context that left `RequestPending` ignores every call. -/
theorem call_of_not_pending (notPending : context.state ≠ .requestPending)
    (contextCall : ContextCall Frame) : context.call contextCall = (false, context) := by
  cases contextCall with
  | setResponse response cluster => exact setResponse_of_not_pending notPending response cluster
  | setTimeout request => simp [call, setTimeout, notPending]
  | cancel => simp [call, cancel, notPending]

/-- A call returns true exactly when it makes the context leave `RequestPending`. -/
theorem call_true_iff (contextCall : ContextCall Frame) :
    (context.call contextCall).1 = true ↔
      context.state = .requestPending ∧ (context.call contextCall).2.state ≠ .requestPending := by
  by_cases pending : context.state = .requestPending
  · cases contextCall with
    | setResponse response cluster =>
      simp only [call, setResponse_of_pending pending]
      split <;> simp [pending]
    | setTimeout request =>
      simp only [call, setTimeout, pending]
      split_ifs <;> simp [pending]
    | cancel => simp [call, cancel, pending]
  · simp [call_of_not_pending pending, pending]

/-- `SetTimeout` succeeds only for the context's own request frame. -/
theorem request_of_setTimeout {request : Frame} (timedOut : (context.setTimeout request).1 = true) :
    request = context.request := by
  unfold setTimeout at timedOut
  split_ifs at timedOut with notPending ownRequest
  exact ownRequest.symm

/-- Every call keeps the invariant. -/
theorem Invariant.call (invariant : context.Invariant) (contextCall : ContextCall Frame) :
    (context.call contextCall).2.Invariant := by
  by_cases pending : context.state = .requestPending
  · cases contextCall with
    | setResponse response cluster => exact invariant.setResponse response cluster
    | setTimeout request =>
      by_cases ownRequest : context.request = request
      · simp only [RequestContextImpl.call, setTimeout, pending, ownRequest, ne_eq,
          not_true_eq_false, if_false, if_true]
        exact ⟨fun stillPending => (by cases stillPending), fun isDone => (by cases isDone)⟩
      · simpa [RequestContextImpl.call, setTimeout, pending, ownRequest] using invariant
    | cancel =>
      simp only [RequestContextImpl.call, cancel, pending]
      exact ⟨fun stillPending => (by cases stillPending), fun isDone => (by cases isDone)⟩
  · rw [call_of_not_pending pending]
    exact invariant

end Calls

/-- The context after a sequence of calls on a new request context. -/
def afterCalls (request : Frame) (requestInfo : RequestInfo DataType)
    (calls : List (ContextCall Frame)) : RequestContextImpl Frame DataType :=
  (Calls.run call (newRequestContext request requestInfo) calls).2

/-- Every context reached by calls on a new one keeps the invariant. -/
theorem invariant_afterCalls (request : Frame) (requestInfo : RequestInfo DataType)
    (calls : List (ContextCall Frame)) : (afterCalls request requestInfo calls).Invariant :=
  Calls.run_invariant (fun _ contextCall invariant => invariant.call contextCall) calls
    (invariant_newRequestContext request requestInfo)

/-- No call changes the request of a context. -/
theorem request_call {context : RequestContextImpl Frame DataType} (contextCall : ContextCall Frame) :
    (context.call contextCall).2.request = context.request := by
  cases contextCall with
  | setResponse response cluster =>
    by_cases pending : context.state = .requestPending
    · simp only [RequestContextImpl.call, setResponse_of_pending pending]
      split <;> simp
    · simp [RequestContextImpl.call, setResponse_of_not_pending pending]
  | setTimeout frame =>
    simp only [RequestContextImpl.call, setTimeout]
    split_ifs <;> rfl
  | cancel =>
    simp only [RequestContextImpl.call, cancel]
    split_ifs <;> rfl

/-- Calls on a new request context keep its request. -/
theorem request_afterCalls (request : Frame) (requestInfo : RequestInfo DataType)
    (calls : List (ContextCall Frame)) : (afterCalls request requestInfo calls).request = request := by
  have preserved : ∀ (context : RequestContextImpl Frame DataType) contextCall,
      context.request = request → (context.call contextCall).2.request = request :=
    fun _ contextCall same => (request_call contextCall).trans same
  exact Calls.run_invariant preserved calls rfl

/-- Exactly one call of a run on a new request context returns true if the run leaves
`RequestPending`, and none otherwise. -/
theorem count_true_run (request : Frame) (requestInfo : RequestInfo DataType)
    (calls : List (ContextCall Frame)) :
    (Calls.run call (newRequestContext request requestInfo) calls).1.count true =
      if (afterCalls request requestInfo calls).state = .requestPending then 0 else 1 := by
  have staysDone : ∀ (context : RequestContextImpl Frame DataType) contextCall,
      context.state ≠ .requestPending → (context.call contextCall).2.state ≠ .requestPending :=
    fun _ contextCall notPending => by rw [call_of_not_pending notPending contextCall]; exact notPending
  rw [Calls.count_true_run_of_oneShot staysDone (fun _ contextCall => call_true_iff contextCall)]
  unfold afterCalls
  by_cases pending : (Calls.run call (newRequestContext request requestInfo) calls).2.state =
      .requestPending
  · rw [if_pos pending, if_neg (fun leaves => leaves.2 pending)]
  · rw [if_neg pending, if_pos ⟨rfl, pending⟩]

end RequestContextImpl

/-- `asyncRequestContextImpl`, without its timer and start time. -/
structure AsyncRequestContextImpl (DataType : Type) where
  state : RequestState
  requestStreamId : Int
  expectedResponse : Bool
  requestInfo : RequestInfo DataType

/-- `NewAsyncRequestContext`. -/
def newAsyncRequestContext (requestInfo : RequestInfo DataType) (streamId : Int)
    (expectedResponse : Bool) : AsyncRequestContextImpl DataType :=
  ⟨.requestPending, streamId, expectedResponse, requestInfo⟩

namespace AsyncRequestContextImpl

/-- `SetTimeout`, which ignores the frame it is given. -/
def setTimeout (context : AsyncRequestContextImpl DataType) (_request : Frame) :
    Bool × AsyncRequestContextImpl DataType :=
  if context.state ≠ .requestPending then (false, context)
  else (true, { context with state := .requestTimedOut })

/-- `Cancel`. -/
def cancel (context : AsyncRequestContextImpl DataType) : Bool × AsyncRequestContextImpl DataType :=
  if context.state ≠ .requestPending then (false, context)
  else (true, { context with state := .requestCanceled })

/-- `SetResponse`: the first response finishes the request, from whichever cluster. -/
def setResponse (context : AsyncRequestContextImpl DataType) (_response : Frame)
    (_cluster : ClusterType) : Bool × AsyncRequestContextImpl DataType :=
  if context.state ≠ .requestPending then (false, context)
  else (true, { context with state := .requestDone })

/-- One call of a run. -/
def call (context : AsyncRequestContextImpl DataType) :
    ContextCall Frame → Bool × AsyncRequestContextImpl DataType
  | .setResponse response cluster => context.setResponse response cluster
  | .setTimeout request => context.setTimeout request
  | .cancel => context.cancel

variable {context : AsyncRequestContextImpl DataType}

/-- An async context that left `RequestPending` ignores every call. -/
theorem call_of_not_pending (notPending : context.state ≠ .requestPending)
    (contextCall : ContextCall Frame) : context.call contextCall = (false, context) := by
  cases contextCall <;> simp [call, setResponse, setTimeout, cancel, notPending]

/-- Every call on a pending async context makes it leave `RequestPending` and returns true. -/
theorem call_of_pending (pending : context.state = .requestPending) (contextCall : ContextCall Frame) :
    (context.call contextCall).1 = true ∧ (context.call contextCall).2.state ≠ .requestPending := by
  cases contextCall <;> simp [call, setResponse, setTimeout, cancel, pending]

/-- A call returns true exactly when it makes the async context leave `RequestPending`. -/
theorem call_true_iff (contextCall : ContextCall Frame) :
    (context.call contextCall).1 = true ↔
      context.state = .requestPending ∧ (context.call contextCall).2.state ≠ .requestPending := by
  by_cases pending : context.state = .requestPending
  · simp [call_of_pending pending contextCall, pending]
  · simp [call_of_not_pending pending, pending]

/-- The async context after a sequence of calls on a new one. -/
def afterCalls (requestInfo : RequestInfo DataType) (streamId : Int) (expectedResponse : Bool)
    (calls : List (ContextCall Frame)) : AsyncRequestContextImpl DataType :=
  (Calls.run call (newAsyncRequestContext requestInfo streamId expectedResponse) calls).2

/-- Exactly one call of a run on a new async context returns true if the run leaves
`RequestPending`, and none otherwise. -/
theorem count_true_run (requestInfo : RequestInfo DataType) (streamId : Int)
    (expectedResponse : Bool) (calls : List (ContextCall Frame)) :
    (Calls.run call (newAsyncRequestContext requestInfo streamId expectedResponse) calls).1.count true =
      if (afterCalls requestInfo streamId expectedResponse calls).state = .requestPending then 0
      else 1 := by
  have staysDone : ∀ (context : AsyncRequestContextImpl DataType) (contextCall : ContextCall Frame),
      context.state ≠ .requestPending → (context.call contextCall).2.state ≠ .requestPending :=
    fun _ contextCall notPending => by rw [call_of_not_pending notPending contextCall]; exact notPending
  rw [Calls.count_true_run_of_oneShot staysDone (fun _ contextCall => call_true_iff contextCall)]
  unfold afterCalls
  by_cases pending : (Calls.run call (newAsyncRequestContext requestInfo streamId expectedResponse)
      calls).2.state = .requestPending
  · rw [if_pos pending, if_neg (fun leaves => leaves.2 pending)]
  · rw [if_neg pending, if_pos ⟨rfl, pending⟩]

/-- A pending async context times out for whatever frame it is given. -/
theorem setTimeout_true_iff (request : Frame) :
    (context.setTimeout request).1 = true ↔ context.state = .requestPending := by
  by_cases pending : context.state = .requestPending <;> simp [setTimeout, pending]

end AsyncRequestContextImpl

section StateMachine

variable [DecidableEq Frame]

open RequestContextImpl

/-- Both kinds of request context leave `RequestPending` once. Over every sequence of calls on
a new context: exactly one call returns true if the context left `RequestPending` and none
otherwise; a call returns true exactly when it makes the context leave; a context that left
ignores every later call. A `requestContextImpl` only times out for its own request frame, its
`SetResponse` returns true exactly at the call after which the responses its forward decision
waits for are recorded for the first time, and a done context has those responses. An
`asyncRequestContextImpl` times out for every frame while pending. -/
theorem requestContexts_leave_pending_once (request : Frame) (requestInfo : RequestInfo DataType)
    (streamId : Int) (expectedResponse : Bool) (calls : List (ContextCall Frame)) :
    ((Calls.run RequestContextImpl.call (newRequestContext request requestInfo) calls).1.count true =
        if (afterCalls request requestInfo calls).state = .requestPending then 0 else 1) ∧
    (∀ contextCall, ((afterCalls request requestInfo calls).call contextCall).1 = true ↔
        (afterCalls request requestInfo calls).state = .requestPending ∧
          ((afterCalls request requestInfo calls).call contextCall).2.state ≠ .requestPending) ∧
    ((afterCalls request requestInfo calls).state ≠ .requestPending → ∀ contextCall,
        (afterCalls request requestInfo calls).call contextCall =
          (false, afterCalls request requestInfo calls)) ∧
    (∀ frame, ((afterCalls request requestInfo calls).setTimeout frame).1 = true → frame = request) ∧
    (∀ response cluster,
        ((afterCalls request requestInfo calls).setResponse response cluster).1 = true ↔
          ¬(afterCalls request requestInfo calls).RequiredResponsesRecorded ∧
            ((afterCalls request requestInfo calls).setResponse response cluster).2.RequiredResponsesRecorded) ∧
    ((afterCalls request requestInfo calls).state = .requestDone →
        (afterCalls request requestInfo calls).RequiredResponsesRecorded) ∧
    ((Calls.run AsyncRequestContextImpl.call
        (newAsyncRequestContext requestInfo streamId expectedResponse) calls).1.count true =
      if (AsyncRequestContextImpl.afterCalls requestInfo streamId expectedResponse calls).state =
        .requestPending then 0 else 1) ∧
    (∀ contextCall : ContextCall Frame,
        ((AsyncRequestContextImpl.afterCalls requestInfo streamId expectedResponse calls).call
          contextCall).1 = true ↔
        (AsyncRequestContextImpl.afterCalls requestInfo streamId expectedResponse calls).state =
            .requestPending ∧
          ((AsyncRequestContextImpl.afterCalls requestInfo streamId expectedResponse calls).call
            contextCall).2.state ≠ .requestPending) ∧
    ((AsyncRequestContextImpl.afterCalls requestInfo streamId expectedResponse calls).state ≠
        .requestPending → ∀ contextCall : ContextCall Frame,
        (AsyncRequestContextImpl.afterCalls requestInfo streamId expectedResponse calls).call
          contextCall = (false, AsyncRequestContextImpl.afterCalls requestInfo streamId expectedResponse calls)) ∧
    (∀ frame : Frame,
        ((AsyncRequestContextImpl.afterCalls requestInfo streamId expectedResponse calls).setTimeout
          frame).1 = true ↔
        (AsyncRequestContextImpl.afterCalls requestInfo streamId expectedResponse calls).state =
          .requestPending) := by
  have invariant := invariant_afterCalls request requestInfo calls
  refine ⟨count_true_run request requestInfo calls, fun contextCall => call_true_iff contextCall,
    fun notPending contextCall => call_of_not_pending notPending contextCall, ?_,
    fun response cluster => setResponse_true_iff_first_recorded invariant response cluster,
    invariant.2, AsyncRequestContextImpl.count_true_run requestInfo streamId expectedResponse calls,
    fun contextCall => AsyncRequestContextImpl.call_true_iff contextCall,
    fun notPending contextCall => AsyncRequestContextImpl.call_of_not_pending notPending contextCall,
    fun frame => AsyncRequestContextImpl.setTimeout_true_iff frame⟩
  intro frame timedOut
  rw [request_of_setTimeout timedOut, request_afterCalls]

/-- An async context times out for two different frames alike, so for at least one that is
not the frame it was created for. -/
theorem asyncRequestContext_times_out_for_foreign_frame :
    ((newAsyncRequestContext (.generic .forwardToBoth false true : RequestInfo Unit) 0 false).setTimeout
      (1 : Nat)).1 = true ∧
    ((newAsyncRequestContext (.generic .forwardToBoth false true : RequestInfo Unit) 0 false).setTimeout
      (2 : Nat)).1 = true := by
  decide

end StateMachine

end ZdmProxy.Handler
