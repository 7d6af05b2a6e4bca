import ZdmProxy.Routing.RequestInfo

/-!
# The prepared statement cache

`PreparedStatementCache` (`pscache.go`) maps the prepared id origin returned for a PREPARE to
the `PreparedData` of that PREPARE: both clusters' prepared ids and variables metadata and the
`PrepareRequestInfo` built for it. PREPAREs the proxy intercepts are stored in a separate map,
and an index maps target prepared ids back to origin ones for UNPREPARED responses.

The maps are Go maps keyed by the id's bytes; here they are functions, and a write is a
`Function.update`. The cache's lock makes every operation atomic, so the cache is a plain value
passed from operation to operation.

The only values ever written are built from a `PrepareRequestInfo`. Whatever holds of every
such info holds of every entry of every cache reachable from the empty one
(`PreparedStatementCache.entries_of_reachable`); the routing module instantiates this with
"the base request info was computed for some query".
-/

namespace ZdmProxy.Routing

variable {DataType : Type}

/-- `PreparedStatementCache`. -/
structure PreparedStatementCache (DataType : Type) where
  cache : List UInt8 → Option (PreparedData DataType)
  index : List UInt8 → Option (List UInt8)
  interceptedCache : List UInt8 → Option (PreparedData DataType)

namespace PreparedStatementCache

/-- `NewPreparedStatementCache`. -/
def newPreparedStatementCache : PreparedStatementCache DataType :=
  ⟨fun _ => none, fun _ => none, fun _ => none⟩

/-- `Store`: the entry under origin's prepared id, and the index from target's id. -/
def store (psc : PreparedStatementCache DataType)
    (originPreparedResult targetPreparedResult : PreparedResult DataType)
    (prepareRequestInfo : PrepareRequestInfo DataType) : PreparedStatementCache DataType :=
  let originPrepareId := originPreparedResult.preparedQueryId.getD []
  let targetPrepareId := targetPreparedResult.preparedQueryId.getD []
  { psc with
    cache := Function.update psc.cache originPrepareId
      (some (newPreparedData originPreparedResult targetPreparedResult prepareRequestInfo))
    index := Function.update psc.index targetPrepareId (some originPrepareId) }

/-- `StoreIntercepted`: the proxy's own prepared result stands for both clusters. -/
def storeIntercepted (psc : PreparedStatementCache DataType)
    (preparedResult : PreparedResult DataType) (prepareRequestInfo : PrepareRequestInfo DataType) :
    PreparedStatementCache DataType :=
  { psc with
    interceptedCache := Function.update psc.interceptedCache (preparedResult.preparedQueryId.getD [])
      (some (newPreparedData preparedResult preparedResult prepareRequestInfo)) }

/-- `Get`: the cache first, then the intercepted cache. -/
def get (psc : PreparedStatementCache DataType) (originPreparedId : List UInt8) :
    Option (PreparedData DataType) :=
  match psc.cache originPreparedId with
  | some data => some data
  | none => psc.interceptedCache originPreparedId

/-- `GetByTargetPreparedId`: through the index, never in the intercepted cache. -/
def getByTargetPreparedId (psc : PreparedStatementCache DataType) (targetPreparedId : List UInt8) :
    Option (PreparedData DataType) :=
  match psc.index targetPreparedId with
  | some originPreparedId => psc.cache originPreparedId
  | none => none

/-- Every entry of both maps carries a prepare request info satisfying `good`. -/
def EntriesSatisfy (good : PrepareRequestInfo DataType → Prop)
    (psc : PreparedStatementCache DataType) : Prop :=
  (∀ id data, psc.cache id = some data → good data.prepareRequestInfo) ∧
    ∀ id data, psc.interceptedCache id = some data → good data.prepareRequestInfo

/-- The caches that `Store` and `StoreIntercepted` reach from the empty cache when every
prepare request info they are given satisfies `good`. -/
inductive Reachable (good : PrepareRequestInfo DataType → Prop) :
    PreparedStatementCache DataType → Prop
  | empty : Reachable good newPreparedStatementCache
  | store {psc} (originPreparedResult targetPreparedResult : PreparedResult DataType)
      (prepareRequestInfo : PrepareRequestInfo DataType) :
      Reachable good psc → good prepareRequestInfo →
      Reachable good (psc.store originPreparedResult targetPreparedResult prepareRequestInfo)
  | storeIntercepted {psc} (preparedResult : PreparedResult DataType)
      (prepareRequestInfo : PrepareRequestInfo DataType) :
      Reachable good psc → good prepareRequestInfo →
      Reachable good (psc.storeIntercepted preparedResult prepareRequestInfo)

section Invariant

variable {good : PrepareRequestInfo DataType → Prop}

/-- An update with a good entry keeps every entry of a map good. -/
theorem update_keeps_good {entries : List UInt8 → Option (PreparedData DataType)}
    {key : List UInt8} {data : PreparedData DataType} (goodData : good data.prepareRequestInfo)
    (goodEntries : ∀ id entry, entries id = some entry → good entry.prepareRequestInfo) :
    ∀ id entry, Function.update entries key (some data) id = some entry →
      good entry.prepareRequestInfo := by
  intro id entry found
  by_cases atKey : id = key
  · subst atKey
    simp only [Function.update_self, Option.some.injEq] at found
    exact found ▸ goodData
  · rw [Function.update_of_ne atKey] at found
    exact goodEntries id entry found

theorem entriesSatisfy_newPreparedStatementCache :
    EntriesSatisfy good (newPreparedStatementCache : PreparedStatementCache DataType) := by
  constructor <;> intro id data found <;> cases found

theorem EntriesSatisfy.store {psc : PreparedStatementCache DataType}
    (invariant : EntriesSatisfy good psc) (originPreparedResult targetPreparedResult : PreparedResult DataType)
    {prepareRequestInfo : PrepareRequestInfo DataType} (goodInfo : good prepareRequestInfo) :
    EntriesSatisfy good (psc.store originPreparedResult targetPreparedResult prepareRequestInfo) :=
  ⟨update_keeps_good goodInfo invariant.1, invariant.2⟩

theorem EntriesSatisfy.storeIntercepted {psc : PreparedStatementCache DataType}
    (invariant : EntriesSatisfy good psc) (preparedResult : PreparedResult DataType)
    {prepareRequestInfo : PrepareRequestInfo DataType} (goodInfo : good prepareRequestInfo) :
    EntriesSatisfy good (psc.storeIntercepted preparedResult prepareRequestInfo) :=
  ⟨invariant.1, update_keeps_good goodInfo invariant.2⟩

/-- Every entry of a reachable cache was stored with a good prepare request info. -/
theorem entries_of_reachable {psc : PreparedStatementCache DataType} (reachable : Reachable good psc) :
    EntriesSatisfy good psc := by
  induction reachable with
  | empty => exact entriesSatisfy_newPreparedStatementCache
  | store originPreparedResult targetPreparedResult _ _ goodInfo inductionHypothesis =>
    exact inductionHypothesis.store originPreparedResult targetPreparedResult goodInfo
  | storeIntercepted preparedResult _ _ goodInfo inductionHypothesis =>
    exact inductionHypothesis.storeIntercepted preparedResult goodInfo

/-- What `Get` returns from a reachable cache carries a good prepare request info. -/
theorem get_good {psc : PreparedStatementCache DataType} (reachable : Reachable good psc)
    {id : List UInt8} {data : PreparedData DataType} (found : psc.get id = some data) :
    good data.prepareRequestInfo := by
  have invariant := entries_of_reachable reachable
  unfold get at found
  split at found
  · next cached => exact invariant.1 id data (cached.trans found)
  · exact invariant.2 id data found

end Invariant

/-- After `Store`, `Get` on origin's id returns the stored data. -/
theorem get_store (psc : PreparedStatementCache DataType)
    (originPreparedResult targetPreparedResult : PreparedResult DataType)
    (prepareRequestInfo : PrepareRequestInfo DataType) :
    (psc.store originPreparedResult targetPreparedResult prepareRequestInfo).get
        (originPreparedResult.preparedQueryId.getD []) =
      some (newPreparedData originPreparedResult targetPreparedResult prepareRequestInfo) := by
  simp [store, get]

/-- After `Store`, `GetByTargetPreparedId` on target's id returns the stored data. -/
theorem getByTargetPreparedId_store (psc : PreparedStatementCache DataType)
    (originPreparedResult targetPreparedResult : PreparedResult DataType)
    (prepareRequestInfo : PrepareRequestInfo DataType) :
    (psc.store originPreparedResult targetPreparedResult prepareRequestInfo).getByTargetPreparedId
        (targetPreparedResult.preparedQueryId.getD []) =
      some (newPreparedData originPreparedResult targetPreparedResult prepareRequestInfo) := by
  simp [store, getByTargetPreparedId]

end PreparedStatementCache

end ZdmProxy.Routing
