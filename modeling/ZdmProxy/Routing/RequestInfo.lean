import ZdmProxy.Cql.Listener

/-!
# Request infos and forward decisions

Every request the client handler forwards is described by a `RequestInfo`
(`requestinfo.go`): its forward decision, whether it also goes to the async connector and
whether it is tracked in metrics. PREPARE requests carry the request info computed for their
query (`baseRequestInfo`), the terms replaced in the query and the flags and texts needed to
re-prepare it; EXECUTE requests delegate every answer to the request info of the PREPARE that
their prepared id names in the prepared statement cache.

Prepared results and their variables metadata come from the native protocol library, which is
not part of the repository: a column keeps its name and its data type, the latter a type
parameter that only the value codec reads.
-/

namespace ZdmProxy.Routing

open ZdmProxy.Cql

/-- `forwardDecision`. -/
inductive ForwardDecision where
  | forwardToOrigin
  | forwardToTarget
  | forwardToBoth
  | forwardToNone
  | forwardToAsyncOnly
  deriving DecidableEq, Repr

/-- `interceptedQueryType`. -/
inductive InterceptedQueryType where
  | peersV2 | peersV1 | local
  deriving DecidableEq, Repr

/-- `message.ColumnMetadata`, with the fields the proxy reads. -/
structure ColumnMetadata (DataType : Type) where
  name : String
  type : DataType
  deriving DecidableEq, Repr

/-- `message.VariablesMetadata`: partition key indices and one column per bind marker. -/
structure VariablesMetadata (DataType : Type) where
  pkIndices : List Nat
  columns : List (ColumnMetadata DataType)
  deriving DecidableEq, Repr

/-- `message.PreparedResult`, with the fields the proxy reads. -/
structure PreparedResult (DataType : Type) where
  preparedQueryId : Option (List UInt8)
  variablesMetadata : Option (VariablesMetadata DataType)
  deriving DecidableEq, Repr

mutual
/-- `RequestInfo`, one constructor per implementation of the interface. -/
inductive RequestInfo (DataType : Type) where
  | generic (forwardDecision : ForwardDecision) (shouldAlsoBeSentAsync trackMetrics : Bool)
  | intercepted (queryType : InterceptedQueryType) (parsedSelectClause : Option SelectClause)
  | prepare (info : PrepareRequestInfo DataType)
  | execute (preparedData : PreparedData DataType)
  | batch (preparedDataByStmtIdx : List (Nat × PreparedData DataType))
/-- `PrepareRequestInfo`. -/
structure PrepareRequestInfo (DataType : Type) where
  baseRequestInfo : RequestInfo DataType
  replacedTerms : List Term
  containsPositionalMarkers : Bool
  query : QueryText
  keyspace : String
/-- `preparedDataImpl`, the value of a prepared statement cache entry. -/
structure PreparedData (DataType : Type) where
  originPreparedId : List UInt8
  targetPreparedId : List UInt8
  prepareRequestInfo : PrepareRequestInfo DataType
  originVariablesMetadata : Option (VariablesMetadata DataType)
  targetVariablesMetadata : Option (VariablesMetadata DataType)
end

variable {DataType : Type}

/-- `NewPreparedData`; a missing prepared id is Go's empty byte string. -/
def newPreparedData (originPreparedResult targetPreparedResult : PreparedResult DataType)
    (prepareRequestInfo : PrepareRequestInfo DataType) : PreparedData DataType where
  originPreparedId := originPreparedResult.preparedQueryId.getD []
  targetPreparedId := targetPreparedResult.preparedQueryId.getD []
  prepareRequestInfo := prepareRequestInfo
  originVariablesMetadata := originPreparedResult.variablesMetadata
  targetVariablesMetadata := targetPreparedResult.variablesMetadata

/-- The forward decision, async flag and metrics flag of an intercepted request info, whose
base is `newBaseRequestInfo(forwardToNone, false, false)`. -/
def interceptedBase : ForwardDecision × Bool × Bool := (.forwardToNone, false, false)

mutual
/-- `GetForwardDecision`. -/
def RequestInfo.getForwardDecision : RequestInfo DataType → ForwardDecision
  | .generic forwardDecision _ _ => forwardDecision
  | .intercepted _ _ => interceptedBase.1
  | .prepare info => info.getForwardDecision
  | .execute preparedData => preparedData.getForwardDecision
  | .batch _ => .forwardToBoth
/-- `PrepareRequestInfo.GetForwardDecision`: always both clusters, using origin's id, unless
the query is intercepted. -/
def PrepareRequestInfo.getForwardDecision : PrepareRequestInfo DataType → ForwardDecision
  | ⟨base, _, _, _, _⟩ =>
      if base.getForwardDecision == .forwardToNone then .forwardToNone else .forwardToBoth
/-- `ExecuteRequestInfo.GetForwardDecision`: the decision of the base request info of the
PREPARE that the cache entry records. -/
def PreparedData.getForwardDecision : PreparedData DataType → ForwardDecision
  | ⟨_, _, ⟨base, _, _, _, _⟩, _, _⟩ => base.getForwardDecision
end

mutual
/-- `ShouldAlsoBeSentAsync`. -/
def RequestInfo.shouldAlsoBeSentAsync : RequestInfo DataType → Bool
  | .generic _ shouldAlsoBeSentAsync _ => shouldAlsoBeSentAsync
  | .intercepted _ _ => interceptedBase.2.1
  | .prepare info => info.shouldAlsoBeSentAsync
  | .execute preparedData => preparedData.shouldAlsoBeSentAsync
  | .batch _ => false
/-- `PrepareRequestInfo.ShouldAlsoBeSentAsync`: that of the base request info. -/
def PrepareRequestInfo.shouldAlsoBeSentAsync : PrepareRequestInfo DataType → Bool
  | ⟨base, _, _, _, _⟩ => base.shouldAlsoBeSentAsync
/-- `ExecuteRequestInfo.ShouldAlsoBeSentAsync`: that of the PREPARE's base request info. -/
def PreparedData.shouldAlsoBeSentAsync : PreparedData DataType → Bool
  | ⟨_, _, ⟨base, _, _, _, _⟩, _, _⟩ => base.shouldAlsoBeSentAsync
end

mutual
/-- `ShouldBeTrackedInMetrics`; a PREPARE is never tracked, a BATCH always. -/
def RequestInfo.shouldBeTrackedInMetrics : RequestInfo DataType → Bool
  | .generic _ _ trackMetrics => trackMetrics
  | .intercepted _ _ => interceptedBase.2.2
  | .prepare _ => false
  | .execute preparedData => preparedData.shouldBeTrackedInMetrics
  | .batch _ => true
/-- `ExecuteRequestInfo.ShouldBeTrackedInMetrics`: that of the PREPARE's base request info. -/
def PreparedData.shouldBeTrackedInMetrics : PreparedData DataType → Bool
  | ⟨_, _, ⟨base, _, _, _, _⟩, _, _⟩ => base.shouldBeTrackedInMetrics
end

/-- An EXECUTE is routed like the base request info of its PREPARE. -/
@[simp] theorem PreparedData.getForwardDecision_eq (preparedData : PreparedData DataType) :
    preparedData.getForwardDecision =
      preparedData.prepareRequestInfo.baseRequestInfo.getForwardDecision := by
  obtain ⟨_, _, ⟨_, _, _, _, _⟩, _, _⟩ := preparedData
  rfl

/-- A PREPARE goes to both clusters unless its base request info is intercepted. -/
@[simp] theorem PrepareRequestInfo.getForwardDecision_eq (info : PrepareRequestInfo DataType) :
    info.getForwardDecision =
      if info.baseRequestInfo.getForwardDecision == .forwardToNone then .forwardToNone
      else .forwardToBoth := by
  obtain ⟨_, _, _, _, _⟩ := info
  rfl

/-- `isWriteStatement`: a request is a write when it goes to both clusters. -/
def isWriteStatement (info : RequestInfo DataType) : Bool :=
  info.getForwardDecision == .forwardToBoth

end ZdmProxy.Routing
