import ZdmProxy.Handler.AsyncConnector

/-!
# The client handshake

Until its handshake is done, a `ClientHandler`'s `requestLoop` passes every client frame to
`handleHandshakeRequest` (`clienthandler.go`). The frame is forwarded like any request and the
loop waits for its response. When that response is READY or AUTH_SUCCESS the proxy runs the
secondary handshake, `handleSecondaryHandshakeStartup` (`startup.go`): it replays the STARTUP
response the secondary cluster gave earlier and, when the secondary asks for authentication,
authenticates with the proxy's own credentials (`performHandshakeStep`, `auth.go`). When there
is an async connector, the same is run against it at the same time. Only when the secondary
handshake returns nil does the frame's response reach the client and `requestLoop` switch to
ordinary requests.

The loop waits for each frame before taking the next, and the secondary and async handshakes
use different connections, so one call of `handleHandshakeRequest` is a function of the
handler's state. The clusters are arbitrary: each answers the requests it is sent in order,
from a queue of responses, and a request it does not answer times out.

The main result (`handleHandshakeRequest_succeeds_only_if_secondary_accepts`) says when a
frame completes the handshake. A frame completes it only if:
* no AuthenticationError from the secondary was recorded before;
* the frame's aggregated response was READY or AUTH_SUCCESS;
* the secondary accepted the proxy (`SecondaryAccepts`).
The async connector has no effect on the result, and after a secondary AuthenticationError
every later frame is answered with that error.
-/

namespace ZdmProxy.Routing

/-- The string of a `common.ClusterType`. -/
def ClusterType.name : ClusterType → String
  | .origin => "ORIGIN"
  | .target => "TARGET"

end ZdmProxy.Routing

namespace ZdmProxy.Handler

open ZdmProxy.Routing

/-- `maxAuthRetries`. -/
def maxAuthRetries : Nat := 5

/-- `AuthCredentials`, without the auth id. -/
structure AuthCredentials where
  username : String
  password : String
  deriving DecidableEq, Repr

/-- The token of an AUTH_RESPONSE the proxy builds: the SASL mechanism or marshalled
credentials. -/
inductive AuthToken where
  | mechanism
  | credentials (credentials : AuthCredentials)
  deriving DecidableEq, Repr

/-- A cluster's response during the handshake, by its message. -/
inductive HandshakeResponse where
  | ready
  | authenticate (authenticator : String)
  | authChallenge (token : String)
  | authSuccess
  | supported
  | authenticationError (message : String)
  | otherError (message : String)
  deriving DecidableEq, Repr

/-- A client frame during the handshake. An AUTH_RESPONSE carries the credentials that
`ParseCredentialsFromRequest` finds in its token, if any. -/
inductive HandshakeRequest where
  | startup
  | options
  | authResponse (clientCreds : Option AuthCredentials)
  deriving DecidableEq, Repr

namespace HandshakeResponse

/-- The op code's name. -/
def opCodeName : HandshakeResponse → String
  | .ready => "READY"
  | .authenticate _ => "AUTHENTICATE"
  | .authChallenge _ => "AUTH_CHALLENGE"
  | .authSuccess => "AUTH_SUCCESS"
  | .supported => "SUPPORTED"
  | .authenticationError _ | .otherError _ => "ERROR"

/-- `isResponseSuccessful`: the op code is not ERROR. -/
def isResponseSuccessful : HandshakeResponse → Bool
  | .authenticationError _ | .otherError _ => false
  | _ => true

/-- READY or AUTH_SUCCESS: the response that ends a handshake. -/
def endsHandshake (response : HandshakeResponse) : Bool :=
  response == .ready || response == .authSuccess

/-- AUTHENTICATE, or AUTH_CHALLENGE with the token PLAIN-START: a response that
`performHandshakeStep` answers. -/
def continuesExchange : HandshakeResponse → Bool
  | .authenticate _ => true
  | .authChallenge token => token == "PLAIN-START"
  | _ => false

end HandshakeResponse

/-- The op code of a handshake frame. -/
def HandshakeRequest.opCode : HandshakeRequest → OpCode
  | .startup => .startup
  | .options => .options
  | .authResponse _ => .authResponse

/-- The handler's configuration that the handshake reads. -/
structure HandshakeConfig where
  primaryCluster : ClusterType
  forwardAuthToTarget : Bool
  targetCredsOnClientRequest : Bool
  originCredentials : AuthCredentials
  targetCredentials : AuthCredentials
  asyncConnectorClusterType : Option ClusterType

/-- The cluster the client's credentials go to. -/
def HandshakeConfig.authCluster (config : HandshakeConfig) : ClusterType :=
  if config.forwardAuthToTarget then .target else .origin

/-- The cluster that the secondary handshake authenticates with: origin when the client's
credentials go to target, target otherwise. -/
def HandshakeConfig.secondaryCluster (config : HandshakeConfig) : ClusterType :=
  if config.forwardAuthToTarget then .origin else .target

/-- The handler's handshake state, with the responses each cluster will still give and the
frames sent to the client. -/
structure HandshakeState where
  authErrorMessage : Option String
  startupRequest : Bool
  secondaryStartupResponse : Option HandshakeResponse
  secondaryHandshakeCreds : Option AuthCredentials
  asyncHandshakeCreds : Option AuthCredentials
  asyncConnectorState : ConnectorState
  handshakeDone : Bool
  canceled : Bool
  originResponses : List HandshakeResponse
  targetResponses : List HandshakeResponse
  asyncResponses : List HandshakeResponse
  clientResponses : List HandshakeResponse

/-- The error of a secondary handshake: an `AuthError`, or any other. -/
inductive SecondaryHandshakeError where
  | authError (message : String)
  | failed (message : String)
  deriving DecidableEq, Repr

/-- What `customResponseChannel` delivers for a forwarded frame. -/
structure CustomResponse where
  originResponse : Option HandshakeResponse
  targetResponse : Option HandshakeResponse
  aggregatedResponse : HandshakeResponse

namespace HandshakeState

/-- The responses a cluster will still give. -/
def responses (state : HandshakeState) : ClusterType → List HandshakeResponse
  | .origin => state.originResponses
  | .target => state.targetResponses

/-- The state with the responses a cluster will still give replaced. -/
def setResponses (state : HandshakeState) : ClusterType → List HandshakeResponse → HandshakeState
  | .origin, responses => { state with originResponses := responses }
  | .target, responses => { state with targetResponses := responses }

/-- The cluster's next response to a request, which times out when there is none. -/
def nextResponse (state : HandshakeState) (cluster : ClusterType) :
    Option HandshakeResponse × HandshakeState :=
  match state.responses cluster with
  | [] => (none, state)
  | response :: rest => (some response, state.setResponses cluster rest)

/-- The async connector's next response. -/
def nextAsyncResponse (state : HandshakeState) : Option HandshakeResponse × HandshakeState :=
  match state.asyncResponses with
  | [] => (none, state)
  | response :: rest => (some response, { state with asyncResponses := rest })

/-- A frame sent to the client. -/
def sendResponseToClient (state : HandshakeState) (response : HandshakeResponse) : HandshakeState :=
  { state with clientResponses := state.clientResponses ++ [response] }

/-- The state with other responses of the async connector and another async connector state. -/
def withAsyncConnector (state : HandshakeState) (asyncResponses : List HandshakeResponse)
    (asyncConnectorState : ConnectorState) : HandshakeState :=
  { state with asyncResponses := asyncResponses, asyncConnectorState := asyncConnectorState }

end HandshakeState

/-- `aggregateAndTrackResponses` for the responses of a frame sent to both clusters. No
handshake frame is a PREPARE, so its special case is left out. -/
def aggregateAndTrackResponses (primaryCluster : ClusterType)
    (responseFromOrigin responseFromTarget : HandshakeResponse) : HandshakeResponse :=
  if responseFromOrigin.isResponseSuccessful && responseFromTarget.isResponseSuccessful then
    if responseFromOrigin = .supported then responseFromTarget
    else if primaryCluster = .target then responseFromTarget
    else responseFromOrigin
  else if !responseFromOrigin.isResponseSuccessful then responseFromOrigin
  else responseFromTarget

/-- `forwardRequest` of a handshake frame with a custom response channel, and what the channel
delivers: nothing when a cluster did not answer. An AUTH_RESPONSE goes to the cluster the
client's credentials are for; STARTUP and OPTIONS go to both clusters, and OPTIONS also goes to
the async connector, fire and forget, whose response the client never sees. -/
def forwardRequest (config : HandshakeConfig) (state : HandshakeState) :
    HandshakeRequest → Option CustomResponse × HandshakeState
  | .authResponse _ =>
      match state.nextResponse config.authCluster, config.authCluster with
      | (none, next), _ => (none, next)
      | (some response, next), .origin => (some ⟨some response, none, response⟩, next)
      | (some response, next), .target => (some ⟨none, some response, response⟩, next)
  | _ =>
      let (origin, afterOrigin) := state.nextResponse .origin
      let (target, afterTarget) := afterOrigin.nextResponse .target
      match origin, target with
      | some origin, some target =>
          (some ⟨some origin, some target, aggregateAndTrackResponses config.primaryCluster origin target⟩,
            afterTarget)
      | _, _ => (none, afterTarget)

/-- `handleClientCredentials` for an AUTH_RESPONSE: the credentials the secondary and the async
handshakes will use. Which credentials the client sent depends on which cluster has
authentication enabled; the frame's own token, replaced for the primary cluster, is not
modelled. -/
def handleClientCredentials (config : HandshakeConfig) (state : HandshakeState) :
    Option AuthCredentials → HandshakeState
  | none => state
  | some clientCreds =>
      let secondaryHandshakeCreds :=
        if config.forwardAuthToTarget then
          if config.targetCredsOnClientRequest then config.originCredentials else clientCreds
        else if config.targetCredsOnClientRequest then clientCreds else config.targetCredentials
      let asyncHandshakeCreds :=
        match config.asyncConnectorClusterType with
        | some .origin => if config.targetCredsOnClientRequest then config.originCredentials else clientCreds
        | some .target => if !config.targetCredsOnClientRequest then config.targetCredentials else clientCreds
        | none => clientCreds
      { state with
        secondaryHandshakeCreds := some secondaryHandshakeCreds
        asyncHandshakeCreds := some asyncHandshakeCreds }

/-- `validateSecondaryStartupResponse`. -/
def validateSecondaryStartupResponse (response : HandshakeResponse) (clusterType : ClusterType) :
    Except String Unit :=
  match response with
  | .authenticate _ | .authChallenge _ | .ready | .authSuccess => .ok ()
  | response => .error
      s!"received response in secondary handshake ({clusterType.name}) that was not READY, AUTHENTICATE, AUTH_CHALLENGE, or AUTH_SUCCESS: {response.opCodeName}"

/-- `performHandshakeStep` with a `DsePlainTextAuthenticator`: the token answering the last
response. -/
def performHandshakeStep (authenticator : AuthCredentials) :
    HandshakeResponse → Except String AuthToken
  | .authenticate name =>
      .ok (if name = "com.datastax.bdp.cassandra.auth.DseAuthenticator" then .mechanism
        else .credentials authenticator)
  | .authChallenge token =>
      if token = "PLAIN-START" then .ok (.credentials authenticator)
      else .error s!"authenticator failed: incorrect SASL challenge from server, expecting PLAIN-START, got: {token}"
  | response => .error s!"expected AUTH_CHALLENGE or AUTHENTICATE but got {response.opCodeName}"

/-- `handleSecondaryHandshakeResponse`: the next phase and whether the handshake is done. -/
def handleSecondaryHandshakeResponse (phase : Nat) (response : HandshakeResponse)
    (logIdentifier : String) : Except SecondaryHandshakeError (Nat × Bool) :=
  match response with
  | .authenticate _ => .ok (2, false)
  | .authChallenge _ => .ok (phase, false)
  | .ready | .authSuccess => .ok (phase, true)
  | .authenticationError message => .error (.authError message)
  | response => .error (.failed
      s!"received response in secondary handshake ({logIdentifier}) that was not READY, AUTHENTICATE, AUTH_CHALLENGE, or AUTH_SUCCESS: {response.opCodeName}")

/-- What the secondary's answers must be for the proxy to be accepted: its STARTUP response is
READY or AUTH_SUCCESS and nothing more is asked; or it is AUTHENTICATE, the proxy has credentials
for it, and it answers at most `maxAuthRetries` AUTH_RESPONSEs, the last with READY or
AUTH_SUCCESS and each earlier one with a response the proxy can answer again. -/
def SecondaryAccepts (authenticator : Option AuthCredentials) (startupResponse : HandshakeResponse)
    (answers : List HandshakeResponse) : Prop :=
  (startupResponse.endsHandshake = true ∧ answers = []) ∨
    ((∃ name, startupResponse = .authenticate name) ∧ authenticator.isSome ∧
      ∃ continuing final, answers = continuing ++ [final] ∧ final.endsHandshake = true ∧
        (∀ response ∈ continuing, response.continuesExchange = true) ∧
        answers.length ≤ maxAuthRetries)

/-- The parameters of one secondary handshake: whether it is the async connector's, the
authenticator, the STARTUP response it replays and its log identifier. -/
structure SecondaryHandshake where
  asyncConnector : Bool
  authenticator : Option AuthCredentials
  startupResponse : HandshakeResponse
  logIdentifier : String

namespace SecondaryHandshake

variable (config : HandshakeConfig) (handshake : SecondaryHandshake)

/-- `executeRequest` of a secondary handshake frame with `opCode` and the response it waits
for. The async connector only takes it in a state `validateAsyncStateForRequest` allows; a
refused or unanswered request closes the response channel. -/
def sendRequest (opCode : OpCode) (state : HandshakeState) :
    Except SecondaryHandshakeError HandshakeResponse × HandshakeState :=
  let failed : SecondaryHandshakeError := .failed
    s!"error while receiving secondary handshake response ({handshake.logIdentifier})"
  let (response, next) :=
    if handshake.asyncConnector then
      if validateAsyncStateForRequest state.asyncConnectorState opCode then state.nextAsyncResponse
      else (none, state)
    else state.nextResponse config.secondaryCluster
  match response with
  | none => (.error failed, next)
  | some response => (.ok response, next)

/-- The response one attempt of the loop handles: in phase 1 the STARTUP response, which only
the async connector is sent a STARTUP for; in phase 2 the answer to an AUTH_RESPONSE built from
the last response. -/
def attemptResponse (phase : Nat) (lastResponse : Option HandshakeResponse) (state : HandshakeState) :
    Except SecondaryHandshakeError HandshakeResponse × HandshakeState :=
  match phase with
  | 1 =>
      if handshake.asyncConnector then sendRequest config handshake .startup state
      else (.ok handshake.startupResponse, state)
  | _ =>
      match handshake.authenticator, lastResponse with
      | none, _ => (.error (.failed
          s!"secondary cluster ({handshake.logIdentifier}) requested authentication but primary did not, can not proceed with secondary handshake"),
          state)
      | some _, none => (.error (.failed "could not perform handshake step"), state)
      | some authenticator, some lastResponse =>
          match performHandshakeStep authenticator lastResponse with
          | .error message => (.error (.failed s!"could not perform handshake step: {message}"), state)
          | .ok _ => sendRequest config handshake .authResponse state

/-- The loop of `handleSecondaryHandshakeStartup`, with `attemptsLeft` of its
`maxAuthRetries + 1` attempts left. An async handshake that ends marks the async connector
ready (`SetReady`), which fails once the connector is shut down. -/
def loop : (attemptsLeft phase : Nat) → Option HandshakeResponse → HandshakeState →
    Except SecondaryHandshakeError Unit × HandshakeState
  | 0, _, _, state => (.error (.failed
      s!"reached max number of attempts to complete secondary ({handshake.logIdentifier}) handshake"), state)
  | attemptsLeft + 1, phase, lastResponse, state =>
      match attemptResponse config handshake phase lastResponse state with
      | (.error error, next) => (.error error, next)
      | (.ok response, next) =>
          match handleSecondaryHandshakeResponse phase response handshake.logIdentifier with
          | .error error => (.error error, next)
          | .ok (newPhase, done) =>
              if done then
                if handshake.asyncConnector then
                  if next.asyncConnectorState = .connectorStateHandshake then
                    (.ok (), { next with asyncConnectorState := .connectorStateReady })
                  else (.error (.failed
                    s!"could not set async connector ({handshake.logIdentifier}) as ready after a successful handshake because the connector was already shutdown"),
                    next)
                else (.ok (), next)
              else loop attemptsLeft newPhase (some response) next

end SecondaryHandshake

/-- `handleSecondaryHandshakeStartup` for the secondary cluster or the async connector. -/
def handleSecondaryHandshakeStartup (config : HandshakeConfig) (state : HandshakeState)
    (startupResponse : HandshakeResponse) (asyncConnector : Bool) :
    Except SecondaryHandshakeError Unit × HandshakeState :=
  let handshake : SecondaryHandshake :=
    if asyncConnector then
      ⟨true, state.asyncHandshakeCreds, startupResponse,
        s!"ASYNC-{(config.asyncConnectorClusterType.getD .target).name}"⟩
    else
      ⟨false, state.secondaryHandshakeCreds, startupResponse,
        if config.forwardAuthToTarget then "ORIGIN" else "TARGET"⟩
  handshake.loop config (maxAuthRetries + 1) 1 none state

/-- The part of `handleHandshakeRequest` up to the frame's response: the stored auth error
answers the frame at once; otherwise the client's credentials are taken from an AUTH_RESPONSE,
the frame is forwarded, and a STARTUP response is split into the secondary's, which is stored
and validated, and the primary's, which becomes the aggregated response. -/
def handshakeResponse (config : HandshakeConfig) (state : HandshakeState) (request : HandshakeRequest) :
    Except (Option String) HandshakeResponse × HandshakeState :=
  match state.authErrorMessage with
  | some message => (.error none, state.sendResponseToClient (.authenticationError message))
  | none =>
      let withCredentials := match request with
        | .authResponse clientCreds => handleClientCredentials config state clientCreds
        | _ => state
      match forwardRequest config withCredentials request with
      | (none, next) => (.error (some "no response received for handshake request"), next)
      | (some response, next) =>
          if request = .startup then
            let (secondaryResponse, primaryResponse) :=
              if config.forwardAuthToTarget then (response.originResponse, response.targetResponse)
              else (response.targetResponse, response.originResponse)
            match secondaryResponse, primaryResponse with
            | some secondaryResponse, some primaryResponse =>
                let stored := { next with
                  secondaryStartupResponse := some secondaryResponse, startupRequest := true }
                match validateSecondaryStartupResponse secondaryResponse config.secondaryCluster with
                | .error message =>
                    (.error (some s!"unsuccessful startup on {config.secondaryCluster.name}: {message}"), stored)
                | .ok () => (.ok primaryResponse, stored)
            | _, _ => (.error (some "no response received for startup"), next)
          else (.ok response.aggregatedResponse, next)

/-- `startSecondaryHandshake`'s check: the STARTUP and the secondary's response to it are
stored. -/
def startSecondaryHandshake (state : HandshakeState) : Except String HandshakeResponse :=
  if !state.startupRequest then
    .error "can not start secondary handshake before a Startup request was received"
  else
    match state.secondaryStartupResponse with
    | none => .error "can not start secondary handshake before a Startup response was received"
    | some startupResponse => .ok startupResponse

/-- The async connector's handshake, when there is one: its failure only shuts the connector
down. -/
def asyncHandshake (config : HandshakeConfig) (state : HandshakeState)
    (startupResponse : HandshakeResponse) : HandshakeState :=
  match config.asyncConnectorClusterType with
  | none => state
  | some _ =>
      match handleSecondaryHandshakeStartup config state startupResponse true with
      | (.ok (), next) => next
      | (.error _, next) => { next with asyncConnectorState := .connectorStateShutdown }

/-- `handleHandshakeRequest`: whether the handshake is done, the error it returns, and the
state after. When the frame's response is READY or AUTH_SUCCESS the secondary and the async
handshakes run; the response reaches the client only if the secondary handshake returned nil.
A secondary `AuthError` is stored and sent to the client; any other secondary error cancels the
client handler. -/
def handleHandshakeRequest (config : HandshakeConfig) (state : HandshakeState)
    (request : HandshakeRequest) : (Bool × Option String) × HandshakeState :=
  match handshakeResponse config state request with
  | (.error error, next) => ((false, error), next)
  | (.ok aggregatedResponse, next) =>
      if aggregatedResponse.endsHandshake then
        match startSecondaryHandshake next with
        | .error message => ((false, some message), next)
        | .ok startupResponse =>
            let (errSecondary, afterSecondary) :=
              handleSecondaryHandshakeStartup config next startupResponse false
            let afterAsync := asyncHandshake config afterSecondary startupResponse
            match errSecondary with
            | .ok () => ((true, none), afterAsync.sendResponseToClient aggregatedResponse)
            | .error (.authError message) =>
                ((false, none), { afterAsync with authErrorMessage := some message }.sendResponseToClient
                  (.authenticationError message))
            | .error (.failed _) =>
                ((false, some "handshake failed: aborted due to shutdown request"),
                  { afterAsync with canceled := true })
      else ((false, none), next.sendResponseToClient aggregatedResponse)

/-- One frame of `requestLoop` before and after the handshake: until it is done, the frame goes
to `handleHandshakeRequest`, and `handshakeDone` is stored when that returns true; frames after
it are ordinary requests, not modelled here. -/
def requestLoopStep (config : HandshakeConfig) (state : HandshakeState) (request : HandshakeRequest) :
    HandshakeState :=
  if state.handshakeDone then state
  else
    let ((ready, _), next) := handleHandshakeRequest config state request
    if ready then { next with handshakeDone := true } else next

/-- `requestLoop` over a sequence of client frames. -/
def requestLoop (config : HandshakeConfig) (state : HandshakeState) (requests : List HandshakeRequest) :
    HandshakeState :=
  requests.foldl (requestLoopStep config) state

/-! ## Responses taken from the clusters -/

namespace HandshakeState

variable {state : HandshakeState} {cluster : ClusterType}

@[simp] theorem responses_setResponses (state : HandshakeState) (cluster : ClusterType)
    (responses : List HandshakeResponse) :
    (state.setResponses cluster responses).responses cluster = responses := by
  cases cluster <;> rfl

/-- A response taken from a cluster is the head of its queue. -/
theorem head_of_nextResponse {response : HandshakeResponse}
    (taken : (state.nextResponse cluster).1 = some response) :
    (state.responses cluster).head? = some response := by
  unfold nextResponse at taken
  cases queue : state.responses cluster with
  | nil => simp [queue] at taken
  | cons first rest => simpa [queue] using taken

/-- Taking a response from one cluster leaves the other cluster's queue. -/
theorem responses_nextResponse_other {other : ClusterType} (different : other ≠ cluster) :
    (state.nextResponse cluster).2.responses other = state.responses other := by
  unfold nextResponse
  cases state.responses cluster with
  | nil => rfl
  | cons first rest => cases cluster <;> cases other <;> simp_all [setResponses, responses]

/-- The queue of a cluster a response was taken from is the response followed by what is
left. -/
theorem responses_of_nextResponse {response : HandshakeResponse}
    (taken : (state.nextResponse cluster).1 = some response) :
    state.responses cluster = response :: (state.nextResponse cluster).2.responses cluster := by
  unfold nextResponse at taken ⊢
  cases queue : state.responses cluster with
  | nil => simp [queue] at taken
  | cons first rest =>
    simp only [queue, Option.some.injEq] at taken
    simp [taken]

end HandshakeState

/-- The client's credentials change no cluster's queue. -/
@[simp] theorem responses_handleClientCredentials (config : HandshakeConfig) (state : HandshakeState)
    (clientCreds : Option AuthCredentials) (cluster : ClusterType) :
    (handleClientCredentials config state clientCreds).responses cluster = state.responses cluster := by
  cases clientCreds <;> cases cluster <;> rfl

/-- A frame sent to both clusters is answered by the heads of both queues, aggregated. -/
theorem forwardRequest_of_both {config : HandshakeConfig} {state next : HandshakeState}
    {request : HandshakeRequest} {response : CustomResponse}
    (toBoth : request = .startup ∨ request = .options)
    (forwarded : forwardRequest config state request = (some response, next)) :
    ∃ fromOrigin fromTarget,
      state.originResponses.head? = some fromOrigin ∧ state.targetResponses.head? = some fromTarget ∧
      response = ⟨some fromOrigin, some fromTarget,
        aggregateAndTrackResponses config.primaryCluster fromOrigin fromTarget⟩ := by
  have unfolded : forwardRequest config state request =
      match (state.nextResponse .origin).1, ((state.nextResponse .origin).2.nextResponse .target).1 with
      | some origin, some target =>
          (some ⟨some origin, some target, aggregateAndTrackResponses config.primaryCluster origin target⟩,
            ((state.nextResponse .origin).2.nextResponse .target).2)
      | _, _ => (none, ((state.nextResponse .origin).2.nextResponse .target).2) := by
    rcases toBoth with rfl | rfl <;> rfl
  rw [unfolded] at forwarded
  cases fromOrigin : (state.nextResponse .origin).1 with
  | none => simp [fromOrigin] at forwarded
  | some origin =>
    cases fromTarget : ((state.nextResponse .origin).2.nextResponse .target).1 with
    | none => simp [fromOrigin, fromTarget] at forwarded
    | some target =>
      simp only [fromOrigin, fromTarget, Prod.mk.injEq, Option.some.injEq] at forwarded
      have targetHead := HandshakeState.head_of_nextResponse fromTarget
      rw [HandshakeState.responses_nextResponse_other (by decide)] at targetHead
      exact ⟨origin, target, HandshakeState.head_of_nextResponse fromOrigin, targetHead,
        forwarded.1.symm⟩

/-- An AUTH_RESPONSE is answered by the head of the queue of the cluster the client's
credentials go to. -/
theorem forwardRequest_of_authResponse {config : HandshakeConfig} {state next : HandshakeState}
    {clientCreds : Option AuthCredentials} {response : CustomResponse}
    (forwarded : forwardRequest config state (.authResponse clientCreds) = (some response, next)) :
    (state.responses config.authCluster).head? = some response.aggregatedResponse := by
  simp only [forwardRequest] at forwarded
  cases taken : (state.nextResponse config.authCluster).1 with
  | none =>
    rw [show state.nextResponse config.authCluster =
      (none, (state.nextResponse config.authCluster).2) from Prod.ext taken rfl] at forwarded
    simp at forwarded
  | some answer =>
    rw [show state.nextResponse config.authCluster =
      (some answer, (state.nextResponse config.authCluster).2) from Prod.ext taken rfl] at forwarded
    have head := HandshakeState.head_of_nextResponse taken
    cases cluster : config.authCluster <;> simp only [cluster] at forwarded head <;>
      simp only [Prod.mk.injEq, Option.some.injEq] at forwarded <;> rw [← forwarded.1] <;> exact head

/-- A frame answered without error: no auth error was stored, and its aggregated response is
the head of the queue of the cluster the client's credentials go to, or for an OPTIONS the
aggregation of both clusters' heads. -/
theorem handshakeResponse_ok {config : HandshakeConfig} {state next : HandshakeState}
    {request : HandshakeRequest} {aggregated : HandshakeResponse}
    (responded : handshakeResponse config state request = (.ok aggregated, next)) :
    state.authErrorMessage = none ∧
      (request ≠ .options → (state.responses config.authCluster).head? = some aggregated) ∧
      (request = .options → ∃ fromOrigin fromTarget,
        state.originResponses.head? = some fromOrigin ∧ state.targetResponses.head? = some fromTarget ∧
        aggregated = aggregateAndTrackResponses config.primaryCluster fromOrigin fromTarget) := by
  unfold handshakeResponse at responded
  cases stored : state.authErrorMessage with
  | some message => simp [stored] at responded
  | none =>
    simp only [stored] at responded
    refine ⟨rfl, ?_⟩
    cases request with
    | startup =>
      cases forwarded : forwardRequest config state .startup with
      | mk response afterForward =>
        cases response with
        | none => simp [forwarded] at responded
        | some response =>
          obtain ⟨fromOrigin, fromTarget, originHead, targetHead, rfl⟩ :=
            forwardRequest_of_both (Or.inl rfl) forwarded
          simp only [forwarded, ite_true] at responded
          refine ⟨fun _ => ?_, fun isOptions => by cases isOptions⟩
          -- the primary's STARTUP response is the aggregated one, once the secondary's validates
          cases toTarget : config.forwardAuthToTarget
          · simp only [toTarget, Bool.false_eq_true, ite_false] at responded
            split at responded
            · simp at responded
            · simp only [Prod.mk.injEq, Except.ok.injEq] at responded
              simp [HandshakeConfig.authCluster, toTarget, HandshakeState.responses, originHead,
                responded.1]
          · simp only [toTarget, ite_true] at responded
            split at responded
            · simp at responded
            · simp only [Prod.mk.injEq, Except.ok.injEq] at responded
              simp [HandshakeConfig.authCluster, toTarget, HandshakeState.responses, targetHead,
                responded.1]
    | options =>
      cases forwarded : forwardRequest config state .options with
      | mk response afterForward =>
        cases response with
        | none => simp [forwarded] at responded
        | some response =>
          obtain ⟨fromOrigin, fromTarget, originHead, targetHead, rfl⟩ :=
            forwardRequest_of_both (Or.inr rfl) forwarded
          simp only [forwarded, reduceCtorEq, ite_false, Prod.mk.injEq, Except.ok.injEq] at responded
          exact ⟨fun notOptions => absurd rfl notOptions,
            fun _ => ⟨fromOrigin, fromTarget, originHead, targetHead, responded.1.symm⟩⟩
    | authResponse clientCreds =>
      simp only at responded
      cases forwarded : forwardRequest config (handleClientCredentials config state clientCreds)
          (.authResponse clientCreds) with
      | mk response afterForward =>
        cases response with
        | none => simp [forwarded] at responded
        | some response =>
          have head := forwardRequest_of_authResponse forwarded
          rw [responses_handleClientCredentials] at head
          simp only [forwarded, reduceCtorEq, ite_false, Prod.mk.injEq, Except.ok.injEq] at responded
          exact ⟨fun _ => responded.1 ▸ head, fun isOptions => by cases isOptions⟩

/-! ## The secondary handshake loop -/

/-- The proxy answers a response with an AUTH_RESPONSE only if it continues the exchange. -/
theorem continuesExchange_of_performHandshakeStep {authenticator : AuthCredentials}
    {response : HandshakeResponse} {token : AuthToken}
    (performed : performHandshakeStep authenticator response = .ok token) :
    response.continuesExchange = true := by
  cases response with
  | authenticate name => rfl
  | authChallenge challenge =>
    simp only [performHandshakeStep] at performed
    split at performed
    · simpa [HandshakeResponse.continuesExchange]
    · cases performed
  | _ => simp [performHandshakeStep] at performed

/-- A response that ends the secondary handshake is READY or AUTH_SUCCESS. -/
theorem endsHandshake_of_handleSecondaryHandshakeResponse {phase newPhase : Nat}
    {response : HandshakeResponse} {logIdentifier : String}
    (handled : handleSecondaryHandshakeResponse phase response logIdentifier = .ok (newPhase, true)) :
    response.endsHandshake = true := by
  cases response <;> simp_all [handleSecondaryHandshakeResponse, HandshakeResponse.endsHandshake]

/-- A response that continues the secondary handshake is AUTHENTICATE, which moves it to phase
2, or AUTH_CHALLENGE, which keeps the phase. -/
theorem continue_of_handleSecondaryHandshakeResponse {phase newPhase : Nat}
    {response : HandshakeResponse} {logIdentifier : String}
    (handled : handleSecondaryHandshakeResponse phase response logIdentifier = .ok (newPhase, false)) :
    (∃ name, response = .authenticate name ∧ newPhase = 2) ∨
      (∃ token, response = .authChallenge token ∧ newPhase = phase) := by
  cases response <;> simp_all [handleSecondaryHandshakeResponse]

namespace SecondaryHandshake

variable {config : HandshakeConfig} {handshake : SecondaryHandshake}

/-- A request of a secondary handshake that is not the async connector's is answered by the
head of the secondary cluster's queue. -/
theorem responses_of_sendRequest (notAsync : handshake.asyncConnector = false) {opCode : OpCode}
    {state : HandshakeState} {response : HandshakeResponse}
    (answered : (sendRequest config handshake opCode state).1 = .ok response) :
    state.responses config.secondaryCluster =
      response :: (sendRequest config handshake opCode state).2.responses config.secondaryCluster := by
  unfold sendRequest at answered ⊢
  simp only [notAsync, Bool.false_eq_true, ite_false] at answered ⊢
  cases taken : state.nextResponse config.secondaryCluster with
  | mk answer next =>
    cases answer with
    | none => simp [taken] at answered
    | some answer =>
      simp only [taken, Except.ok.injEq] at answered
      subst answered
      simpa [taken] using HandshakeState.responses_of_nextResponse (congrArg Prod.fst taken)

/-- In phase 1 a secondary handshake that is not the async connector's handles the STARTUP
response it was given. -/
theorem attemptResponse_one (notAsync : handshake.asyncConnector = false)
    (lastResponse : Option HandshakeResponse) (state : HandshakeState) :
    attemptResponse config handshake 1 lastResponse state = (.ok handshake.startupResponse, state) := by
  simp [attemptResponse, notAsync]

/-- In phase 2 the attempt answers the last response with the proxy's credentials and takes the
secondary's answer from the head of its queue. -/
theorem attemptResponse_two (notAsync : handshake.asyncConnector = false)
    {lastResponse response : HandshakeResponse} {state : HandshakeState}
    (answered : (attemptResponse config handshake 2 (some lastResponse) state).1 = .ok response) :
    lastResponse.continuesExchange = true ∧ handshake.authenticator.isSome ∧
      state.responses config.secondaryCluster =
        response :: (attemptResponse config handshake 2 (some lastResponse) state).2.responses
          config.secondaryCluster := by
  unfold attemptResponse at answered ⊢
  cases hasAuthenticator : handshake.authenticator with
  | none => simp [hasAuthenticator] at answered
  | some authenticator =>
    cases performed : performHandshakeStep authenticator lastResponse with
    | error message => simp [hasAuthenticator, performed] at answered
    | ok token =>
      simp only [hasAuthenticator, performed] at answered ⊢
      exact ⟨continuesExchange_of_performHandshakeStep performed, rfl,
        responses_of_sendRequest notAsync answered⟩

/-- A successful run of the loop with attempts left: its first attempt ends the handshake, or
continues it and the rest of the loop succeeds. -/
theorem loop_succ_ok {attemptsLeft phase : Nat}
    {lastResponse : Option HandshakeResponse} {state : HandshakeState}
    (succeeded : (loop config handshake (attemptsLeft + 1) phase lastResponse state).1 = .ok ()) :
    ∃ response, (attemptResponse config handshake phase lastResponse state).1 = .ok response ∧
      (response.endsHandshake = true ∨
        ∃ newPhase,
          handleSecondaryHandshakeResponse phase response handshake.logIdentifier = .ok (newPhase, false) ∧
          (loop config handshake attemptsLeft newPhase (some response)
            (attemptResponse config handshake phase lastResponse state).2).1 = .ok ()) := by
  simp only [loop] at succeeded
  cases attempt : attemptResponse config handshake phase lastResponse state with
  | mk result next =>
    cases result with
    | error error => simp [attempt] at succeeded
    | ok response =>
      refine ⟨response, rfl, ?_⟩
      simp only [attempt] at succeeded
      cases handled : handleSecondaryHandshakeResponse phase response handshake.logIdentifier with
      | error error => simp [handled] at succeeded
      | ok result =>
        obtain ⟨newPhase, done⟩ := result
        cases done with
        | true => exact Or.inl (endsHandshake_of_handleSecondaryHandshakeResponse handled)
        | false =>
          simp only [handled, Bool.false_eq_true, ite_false] at succeeded
          exact Or.inr ⟨newPhase, rfl, succeeded⟩

/-- In phase 2 the loop succeeds only if the secondary answers the proxy's AUTH_RESPONSEs with
responses it can answer again and then READY or AUTH_SUCCESS, within the attempts left. The
induction is on the attempts left; each attempt takes one answer off the secondary's queue. -/
theorem loop_two_ok (notAsync : handshake.asyncConnector = false) :
    ∀ (attemptsLeft : Nat) (lastResponse : HandshakeResponse) (state : HandshakeState),
      (loop config handshake attemptsLeft 2 (some lastResponse) state).1 = .ok () →
      lastResponse.continuesExchange = true ∧ handshake.authenticator.isSome ∧
      ∃ continuing final rest,
        state.responses config.secondaryCluster = continuing ++ final :: rest ∧
        continuing.length < attemptsLeft ∧ final.endsHandshake = true ∧
        ∀ response ∈ continuing, response.continuesExchange = true := by
  intro attemptsLeft
  induction attemptsLeft with
  | zero => intro _ _ failed; simp [loop] at failed
  | succ attemptsLeft inductionHypothesis =>
    intro lastResponse state succeeded
    obtain ⟨response, answered, ended | ⟨newPhase, handled, continued⟩⟩ :=
      loop_succ_ok succeeded
    · obtain ⟨continues, hasAuthenticator, queue⟩ := attemptResponse_two notAsync answered
      exact ⟨continues, hasAuthenticator, [], response, _, queue, by simp, ended, by simp⟩
    · obtain ⟨continues, hasAuthenticator, queue⟩ := attemptResponse_two notAsync answered
      -- in phase 2 both AUTHENTICATE and AUTH_CHALLENGE keep the loop in phase 2
      have stays : newPhase = 2 := by
        rcases continue_of_handleSecondaryHandshakeResponse handled with
          ⟨_, _, moved⟩ | ⟨_, _, kept⟩
        · exact moved
        · exact kept
      subst stays
      obtain ⟨responseContinues, _, continuing, final, rest, restQueue, shorter, ends, allContinue⟩ :=
        inductionHypothesis response _ continued
      refine ⟨continues, hasAuthenticator, response :: continuing, final, rest, ?_, ?_, ends, ?_⟩
      · rw [queue, restQueue]; rfl
      · simp only [List.length_cons]; omega
      · intro other member
        rcases List.mem_cons.mp member with rfl | inContinuing
        · exact responseContinues
        · exact allContinue other inContinuing

/-- From phase 1 the loop of a secondary handshake that is not the async connector's succeeds
only if the secondary's STARTUP response ends the handshake, or it asks for authentication and
the exchange ends within the attempts left. -/
theorem loop_one_ok (notAsync : handshake.asyncConnector = false) :
    ∀ (attemptsLeft : Nat) (lastResponse : Option HandshakeResponse) (state : HandshakeState),
      (loop config handshake attemptsLeft 1 lastResponse state).1 = .ok () →
      ∃ answers rest, state.responses config.secondaryCluster = answers ++ rest ∧
        answers.length < attemptsLeft ∧
        ((handshake.startupResponse.endsHandshake = true ∧ answers = []) ∨
          ((∃ name, handshake.startupResponse = .authenticate name) ∧ handshake.authenticator.isSome ∧
            ∃ continuing final, answers = continuing ++ [final] ∧ final.endsHandshake = true ∧
              ∀ response ∈ continuing, response.continuesExchange = true)) := by
  intro attemptsLeft
  induction attemptsLeft with
  | zero => intro _ _ failed; simp [loop] at failed
  | succ attemptsLeft inductionHypothesis =>
    intro lastResponse state succeeded
    obtain ⟨response, answered, ended | ⟨newPhase, handled, continued⟩⟩ :=
      loop_succ_ok succeeded
    all_goals
      rw [attemptResponse_one notAsync] at answered
      cases answered
    · exact ⟨[], state.responses config.secondaryCluster, rfl, by simp, Or.inl ⟨ended, rfl⟩⟩
    · rw [attemptResponse_one notAsync] at continued
      rcases continue_of_handleSecondaryHandshakeResponse handled with
        ⟨name, isAuthenticate, rfl⟩ | ⟨token, isChallenge, rfl⟩
      · obtain ⟨_, hasAuthenticator, continuing, final, rest, queue, shorter, ends, allContinue⟩ :=
          loop_two_ok notAsync attemptsLeft _ state continued
        refine ⟨continuing ++ [final], rest, by simpa using queue, by simp; omega, Or.inr ?_⟩
        exact ⟨⟨name, isAuthenticate⟩, hasAuthenticator, continuing, final, rfl, ends, allContinue⟩
      · -- an AUTH_CHALLENGE to the STARTUP keeps replaying it, which never succeeds
        obtain ⟨_, _, _, _, accepted⟩ := inductionHypothesis _ state continued
        rcases accepted with ⟨ends, _⟩ | ⟨⟨name, isAuthenticate⟩, _⟩
        · simp [isChallenge, HandshakeResponse.endsHandshake] at ends
        · rw [isChallenge] at isAuthenticate
          cases isAuthenticate

end SecondaryHandshake

/-- The secondary handshake returns nil only if the secondary accepts the proxy with the
answers at the head of its queue. -/
theorem handleSecondaryHandshakeStartup_ok {config : HandshakeConfig} {state : HandshakeState}
    {startupResponse : HandshakeResponse}
    (succeeded : (handleSecondaryHandshakeStartup config state startupResponse false).1 = .ok ()) :
    ∃ answers rest, state.responses config.secondaryCluster = answers ++ rest ∧
      SecondaryAccepts state.secondaryHandshakeCreds startupResponse answers := by
  unfold handleSecondaryHandshakeStartup at succeeded
  simp only [Bool.false_eq_true, ite_false] at succeeded
  obtain ⟨answers, rest, queue, shorter, accepted⟩ :=
    SecondaryHandshake.loop_one_ok rfl _ none state succeeded
  refine ⟨answers, rest, queue, ?_⟩
  rcases accepted with ended | ⟨asked, hasAuthenticator, continuing, final, split, ends, allContinue⟩
  · exact Or.inl ended
  · exact Or.inr ⟨asked, hasAuthenticator, continuing, final, split, ends, allContinue,
      Nat.le_of_lt_succ shorter⟩

/-! ## When a frame completes the handshake -/

section Request

variable {config : HandshakeConfig} {state : HandshakeState} {request : HandshakeRequest}

/-- The STARTUP and the secondary's response to it are stored when the secondary handshake
starts. -/
theorem startSecondaryHandshake_ok {startupResponse : HandshakeResponse}
    (started : startSecondaryHandshake state = .ok startupResponse) :
    state.startupRequest = true ∧ state.secondaryStartupResponse = some startupResponse := by
  unfold startSecondaryHandshake at started
  cases stored : state.startupRequest
  · simp [stored] at started
  · cases response : state.secondaryStartupResponse with
    | none => simp [stored, response] at started
    | some response' => simp_all

/-- A frame completes the handshake only when its response ends it, the secondary handshake
starts and it returns nil. -/
theorem handleHandshakeRequest_true (ready : (handleHandshakeRequest config state request).1.1 = true) :
    ∃ aggregated next startupResponse,
      handshakeResponse config state request = (.ok aggregated, next) ∧
      aggregated.endsHandshake = true ∧ startSecondaryHandshake next = .ok startupResponse ∧
      (handleSecondaryHandshakeStartup config next startupResponse false).1 = .ok () := by
  unfold handleHandshakeRequest at ready
  cases responded : handshakeResponse config state request with
  | mk result next =>
    cases result with
    | error error => simp [responded] at ready
    | ok aggregated =>
      simp only [responded] at ready
      by_cases ends : aggregated.endsHandshake = true
      · simp only [ends, ite_true] at ready
        cases started : startSecondaryHandshake next with
        | error message => simp [started] at ready
        | ok startupResponse =>
          simp only [started] at ready
          cases secondary : handleSecondaryHandshakeStartup config next startupResponse false with
          | mk errSecondary afterSecondary =>
            simp only [secondary] at ready
            cases errSecondary with
            | ok => exact ⟨aggregated, next, startupResponse, rfl, ends, started, by simp [secondary]⟩
            | error error => cases error <;> simp at ready
      · simp [ends] at ready

/-- Once an AuthenticationError from the secondary is stored, a frame is answered with it and
nothing else happens. -/
theorem handleHandshakeRequest_of_authErrorMessage {message : String}
    (stored : state.authErrorMessage = some message) :
    handleHandshakeRequest config state request =
      ((false, none), state.sendResponseToClient (.authenticationError message)) := by
  simp [handleHandshakeRequest, handshakeResponse, stored]

/-- `requestLoop` after a secondary AuthenticationError: every frame is answered with it, the
error stays stored and the handshake is never done. The induction is on the frames. -/
theorem requestLoop_of_authErrorMessage {message : String} :
    ∀ (requests : List HandshakeRequest) (state : HandshakeState),
      state.authErrorMessage = some message → state.handshakeDone = false →
      (requestLoop config state requests).handshakeDone = false ∧
        (requestLoop config state requests).authErrorMessage = some message ∧
        (requestLoop config state requests).clientResponses =
          state.clientResponses ++ requests.map fun _ => .authenticationError message := by
  intro requests
  induction requests with
  | nil => intro state stored notDone; simp [requestLoop, stored, notDone]
  | cons request requests inductionHypothesis =>
    intro state stored notDone
    have step : requestLoopStep config state request =
        state.sendResponseToClient (.authenticationError message) := by
      simp [requestLoopStep, notDone, handleHandshakeRequest_of_authErrorMessage stored]
    have rest := inductionHypothesis (state.sendResponseToClient (.authenticationError message))
      stored notDone
    simp only [requestLoop, List.foldl_cons, step] at rest ⊢
    refine ⟨rest.1, rest.2.1, ?_⟩
    rw [rest.2.2]
    simp [HandshakeState.sendResponseToClient]

end Request

/-! ## The async connector does not decide the handshake -/

namespace HandshakeState

variable {state : HandshakeState} {asyncResponses : List HandshakeResponse}
  {asyncConnectorState : ConnectorState}

@[simp] theorem responses_withAsyncConnector (cluster : ClusterType) :
    (state.withAsyncConnector asyncResponses asyncConnectorState).responses cluster =
      state.responses cluster := by
  cases cluster <;> rfl

theorem nextResponse_withAsyncConnector (cluster : ClusterType) :
    (state.withAsyncConnector asyncResponses asyncConnectorState).nextResponse cluster =
      ((state.nextResponse cluster).1,
        (state.nextResponse cluster).2.withAsyncConnector asyncResponses asyncConnectorState) := by
  unfold nextResponse
  rw [responses_withAsyncConnector]
  cases state.responses cluster with
  | nil => rfl
  | cons first rest => cases cluster <;> rfl

end HandshakeState

section Async

variable {config : HandshakeConfig} {state : HandshakeState} {asyncResponses : List HandshakeResponse}
  {asyncConnectorState : ConnectorState}

theorem handleClientCredentials_withAsyncConnector (clientCreds : Option AuthCredentials) :
    handleClientCredentials config (state.withAsyncConnector asyncResponses asyncConnectorState)
        clientCreds =
      (handleClientCredentials config state clientCreds).withAsyncConnector asyncResponses
        asyncConnectorState := by
  cases clientCreds <;> rfl

theorem forwardRequest_withAsyncConnector (request : HandshakeRequest) :
    forwardRequest config (state.withAsyncConnector asyncResponses asyncConnectorState) request =
      ((forwardRequest config state request).1,
        (forwardRequest config state request).2.withAsyncConnector asyncResponses
          asyncConnectorState) := by
  cases request with
  | authResponse clientCreds =>
    simp only [forwardRequest, HandshakeState.nextResponse_withAsyncConnector]
    cases taken : state.nextResponse config.authCluster with
    | mk answer next => cases answer <;> cases config.authCluster <;> rfl
  | _ =>
    simp only [forwardRequest, HandshakeState.nextResponse_withAsyncConnector]
    cases takenOrigin : state.nextResponse .origin with
    | mk fromOrigin afterOrigin =>
      cases takenTarget : afterOrigin.nextResponse .target with
      | mk fromTarget afterTarget => cases fromOrigin <;> cases fromTarget <;> rfl

theorem handshakeResponse_withAsyncConnector (request : HandshakeRequest) :
    handshakeResponse config (state.withAsyncConnector asyncResponses asyncConnectorState) request =
      ((handshakeResponse config state request).1,
        (handshakeResponse config state request).2.withAsyncConnector asyncResponses
          asyncConnectorState) := by
  unfold handshakeResponse
  have sameError : (state.withAsyncConnector asyncResponses asyncConnectorState).authErrorMessage =
      state.authErrorMessage := rfl
  rw [sameError]
  cases state.authErrorMessage with
  | some message => rfl
  | none =>
    cases request with
    | authResponse clientCreds =>
      simp only [handleClientCredentials_withAsyncConnector, forwardRequest_withAsyncConnector]
      cases forwardRequest config (handleClientCredentials config state clientCreds)
          (.authResponse clientCreds) with
      | mk response next => cases response <;> rfl
    | options =>
      simp only [forwardRequest_withAsyncConnector]
      cases forwardRequest config state .options with
      | mk response next => cases response <;> rfl
    | startup =>
      simp only [forwardRequest_withAsyncConnector]
      cases forwardRequest config state .startup with
      | mk response next =>
        cases response with
        | none => rfl
        | some response =>
          obtain ⟨originResponse, targetResponse, aggregated⟩ := response
          cases config.forwardAuthToTarget <;> cases originResponse <;> cases targetResponse <;>
            simp only [ite_true, Bool.false_eq_true, ite_false] <;>
            first
              | rfl
              | (split <;> rfl)

namespace SecondaryHandshake

variable {handshake : SecondaryHandshake}

theorem sendRequest_withAsyncConnector (notAsync : handshake.asyncConnector = false)
    (opCode : OpCode) :
    sendRequest config handshake opCode (state.withAsyncConnector asyncResponses asyncConnectorState) =
      ((sendRequest config handshake opCode state).1,
        (sendRequest config handshake opCode state).2.withAsyncConnector asyncResponses
          asyncConnectorState) := by
  simp only [sendRequest, notAsync, Bool.false_eq_true, ite_false,
    HandshakeState.nextResponse_withAsyncConnector]
  cases (state.nextResponse config.secondaryCluster).1 <;> rfl

theorem attemptResponse_withAsyncConnector (notAsync : handshake.asyncConnector = false)
    (phase : Nat) (lastResponse : Option HandshakeResponse) :
    attemptResponse config handshake phase lastResponse
        (state.withAsyncConnector asyncResponses asyncConnectorState) =
      ((attemptResponse config handshake phase lastResponse state).1,
        (attemptResponse config handshake phase lastResponse state).2.withAsyncConnector
          asyncResponses asyncConnectorState) := by
  unfold attemptResponse
  split
  · simp [notAsync]
  · cases handshake.authenticator with
    | none => rfl
    | some authenticator =>
      cases lastResponse with
      | none => rfl
      | some lastResponse =>
        simp only
        cases performHandshakeStep authenticator lastResponse with
        | error message => rfl
        | ok token => exact sendRequest_withAsyncConnector notAsync _

/-- The loop of a secondary handshake that is not the async connector's neither reads nor
changes the async connector. The induction is on the attempts left. -/
theorem loop_withAsyncConnector (notAsync : handshake.asyncConnector = false) :
    ∀ (attemptsLeft phase : Nat) (lastResponse : Option HandshakeResponse) (state : HandshakeState),
      loop config handshake attemptsLeft phase lastResponse
          (state.withAsyncConnector asyncResponses asyncConnectorState) =
        ((loop config handshake attemptsLeft phase lastResponse state).1,
          (loop config handshake attemptsLeft phase lastResponse state).2.withAsyncConnector
            asyncResponses asyncConnectorState) := by
  intro attemptsLeft
  induction attemptsLeft with
  | zero => intro _ _ _; rfl
  | succ attemptsLeft inductionHypothesis =>
    intro phase lastResponse state
    simp only [loop, attemptResponse_withAsyncConnector notAsync]
    cases attemptResponse config handshake phase lastResponse state with
    | mk result next =>
      cases result with
      | error error => rfl
      | ok response =>
        simp only
        cases handleSecondaryHandshakeResponse phase response handshake.logIdentifier with
        | error error => rfl
        | ok result =>
          obtain ⟨newPhase, done⟩ := result
          cases done
          · exact inductionHypothesis newPhase (some response) next
          · simp [notAsync]

end SecondaryHandshake

/-- Whatever the async connector answers and whatever its state, a frame has the same outcome:
whether it completes the handshake and the error it returns. -/
theorem handleHandshakeRequest_withAsyncConnector (request : HandshakeRequest) :
    (handleHandshakeRequest config (state.withAsyncConnector asyncResponses asyncConnectorState)
        request).1 = (handleHandshakeRequest config state request).1 := by
  unfold handleHandshakeRequest
  rw [handshakeResponse_withAsyncConnector]
  cases handshakeResponse config state request with
  | mk result next =>
    cases result with
    | error error => rfl
    | ok aggregated =>
      simp only
      split
      · have sameStart : startSecondaryHandshake
            (next.withAsyncConnector asyncResponses asyncConnectorState) =
            startSecondaryHandshake next := rfl
        rw [sameStart]
        cases startSecondaryHandshake next with
        | error message => rfl
        | ok startupResponse =>
          simp only [handleSecondaryHandshakeStartup]
          have sameCreds : (next.withAsyncConnector asyncResponses
              asyncConnectorState).secondaryHandshakeCreds = next.secondaryHandshakeCreds := rfl
          simp only [Bool.false_eq_true, ite_false, sameCreds]
          obtain ⟨handshake, isSecondary⟩ : ∃ handshake : SecondaryHandshake,
              handshake = ⟨false, next.secondaryHandshakeCreds, startupResponse,
                if config.forwardAuthToTarget then "ORIGIN" else "TARGET"⟩ := ⟨_, rfl⟩
          rw [← isSecondary, SecondaryHandshake.loop_withAsyncConnector (by rw [isSecondary])]
          cases SecondaryHandshake.loop config handshake (maxAuthRetries + 1) 1 none next with
          | mk errSecondary afterSecondary =>
            cases errSecondary with
            | ok => rfl
            | error error => cases error <;> rfl
      · rfl

end Async

/-! ## The handshake's guarantee -/

/-- When a frame completes the handshake. A frame completes it only if:
* no AuthenticationError from the secondary was stored before;
* its aggregated response was READY or AUTH_SUCCESS. For a STARTUP or an AUTH_RESPONSE that is
  the first response of the cluster the client's credentials go to; for an OPTIONS it is the
  response `aggregateAndTrackResponses` picks from both clusters' first responses;
* the STARTUP and the secondary's response to it are stored, and the secondary accepts the
  proxy with the answers at the head of its queue (`SecondaryAccepts`).

The async connector's answers and state change neither whether a frame completes the handshake
nor the error it returns. Once an AuthenticationError is stored, every later frame is answered
with it and the handshake is never done. -/
theorem handleHandshakeRequest_succeeds_only_if_secondary_accepts
    (config : HandshakeConfig) (state : HandshakeState) (request : HandshakeRequest) :
    ((handleHandshakeRequest config state request).1.1 = true →
      state.authErrorMessage = none ∧
      ∃ aggregated startupResponse answers rest,
        (handshakeResponse config state request).1 = .ok aggregated ∧
        aggregated.endsHandshake = true ∧
        (request ≠ .options → (state.responses config.authCluster).head? = some aggregated) ∧
        (request = .options → ∃ fromOrigin fromTarget,
          state.originResponses.head? = some fromOrigin ∧
          state.targetResponses.head? = some fromTarget ∧
          aggregated = aggregateAndTrackResponses config.primaryCluster fromOrigin fromTarget) ∧
        (handshakeResponse config state request).2.startupRequest = true ∧
        (handshakeResponse config state request).2.secondaryStartupResponse = some startupResponse ∧
        (handshakeResponse config state request).2.responses config.secondaryCluster =
          answers ++ rest ∧
        SecondaryAccepts (handshakeResponse config state request).2.secondaryHandshakeCreds
          startupResponse answers) ∧
    (∀ asyncResponses asyncConnectorState,
      (handleHandshakeRequest config (state.withAsyncConnector asyncResponses asyncConnectorState)
        request).1 = (handleHandshakeRequest config state request).1) ∧
    (∀ message requests, state.authErrorMessage = some message → state.handshakeDone = false →
      (requestLoop config state requests).handshakeDone = false ∧
      (requestLoop config state requests).clientResponses =
        state.clientResponses ++ requests.map fun _ => .authenticationError message) := by
  refine ⟨fun ready => ?_, fun asyncResponses asyncConnectorState =>
    handleHandshakeRequest_withAsyncConnector request, fun message requests stored notDone => ?_⟩
  · obtain ⟨aggregated, next, startupResponse, responded, ends, started, succeeded⟩ :=
      handleHandshakeRequest_true ready
    obtain ⟨noError, primaryAnswered, optionsAnswered⟩ := handshakeResponse_ok responded
    obtain ⟨startupStored, responseStored⟩ := startSecondaryHandshake_ok started
    obtain ⟨answers, rest, queue, accepted⟩ := handleSecondaryHandshakeStartup_ok succeeded
    rw [responded]
    exact ⟨noError, aggregated, startupResponse, answers, rest, rfl, ends, primaryAnswered,
      optionsAnswered, startupStored, responseStored, queue, accepted⟩
  · obtain ⟨stillNotDone, _, answered⟩ := requestLoop_of_authErrorMessage requests state stored notDone
    exact ⟨stillNotDone, answered⟩

/-- A handler before its handshake, with no async connector answer, whose clusters will give
the listed responses. -/
def HandshakeState.initial (originResponses targetResponses : List HandshakeResponse) :
    HandshakeState :=
  ⟨none, false, none, none, none, .connectorStateHandshake, false, false, originResponses,
    targetResponses, [], []⟩

/-- Both clusters ask for authentication; the client's credentials are for target and go to
origin, which the proxy authenticates with its origin credentials; target is the secondary. -/
def bothAuthEnabled (primaryCluster : ClusterType) : HandshakeConfig :=
  ⟨primaryCluster, false, true, ⟨"origin-user", "origin-password"⟩,
    ⟨"target-user", "target-password"⟩, none⟩

/-- The authenticator class of a password-authenticated cluster. -/
def passwordAuthenticator : String := "org.apache.cassandra.auth.PasswordAuthenticator"

/-- An OPTIONS frame completes the handshake on the secondary's answer. Target is the primary
cluster and the client's credentials go to origin. Origin answers STARTUP and OPTIONS with
AUTHENTICATE, target answers both with READY. The STARTUP frame is answered with origin's
AUTHENTICATE, the response of the cluster the credentials go to, and does not complete the
handshake. The OPTIONS frame after it goes to both clusters, and the response
`aggregateAndTrackResponses` picks is the primary's READY: the secondary handshake replays
target's READY to STARTUP, the client is told READY and the handshake is done, though origin
never accepted the client. -/
theorem requestLoop_completes_handshake_on_aggregated_options_response :
    (requestLoop (bothAuthEnabled .target)
        (HandshakeState.initial [.authenticate passwordAuthenticator, .authenticate passwordAuthenticator]
          [.ready, .ready])
        [.startup]).handshakeDone = false ∧
      (requestLoop (bothAuthEnabled .target)
        (HandshakeState.initial [.authenticate passwordAuthenticator, .authenticate passwordAuthenticator]
          [.ready, .ready])
        [.startup, .options]).handshakeDone = true ∧
      (requestLoop (bothAuthEnabled .target)
        (HandshakeState.initial [.authenticate passwordAuthenticator, .authenticate passwordAuthenticator]
          [.ready, .ready])
        [.startup, .options]).clientResponses = [.authenticate passwordAuthenticator, .ready] := by
  decide +kernel

end ZdmProxy.Handler
