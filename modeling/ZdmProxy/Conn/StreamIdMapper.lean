import ZdmProxy.Lib.Calls
import ZdmProxy.Lib.Hex

/-!
# Stream id mappers

A connection to a cluster multiplexes requests by stream id. The proxy renumbers the stream ids
of the requests it writes so that client requests and its own requests never share one
(`streamidmapper.go`). A mapper owns the ids `0, ..., max - 1`: the free ones wait in a
buffered channel, `clusterIds`, and `streamIdMapper` also maps every id in use to the client
stream id it stands for, in `idMapper`, under a mutex.

`GetNewIdFor` receives an id from the channel and only then takes the lock to record it;
`ReleaseId` takes the lock to delete the mapping and only then sends the id back. Between the
two steps the id is in neither structure: it is in transit, held by the call. The concurrent
model is therefore a shared mapper and a list of calls in flight, each at one of the atomic
steps of its method (`CallState`); a step of the system starts a new call or advances one call
by one atomic step (`MapperStep`).

The invariant (`MapperInvariant`) is that the free ids, the mapped ids and the ids in transit
together are each id below `max` exactly once. From it the collision branch of `GetNewIdFor`
and the full-channel branch of `ReleaseId` are never taken, and every failed call changes
nothing (`streamIdMapper_partitions_ids`). A ghost history of the ids `GetNewIdFor` returned
identifies the call that produced each mapped id.
-/

namespace ZdmProxy.Conn

/-- `maxStreamIdsV3`. -/
def maxStreamIdsV3 : Nat := 2048

/-- `maxStreamIdsV2`. -/
def maxStreamIdsV2 : Nat := 127

/-- `maxStreamIds`: the protocol's maximum, lowered to `ProxyMaxStreamIds`. -/
def maxStreamIds (protocolVersion proxyMaxStreamIds : Nat) : Nat :=
  let maxSupported := if protocolVersion = 2 then maxStreamIdsV2 else maxStreamIdsV3
  if maxSupported < proxyMaxStreamIds then maxSupported else proxyMaxStreamIds

/-- The text of a `primitive.ProtocolVersion`, as its `String` method writes it: the known
versions by name, any other as its byte in upper-case hexadecimal. -/
def protocolVersionText : Nat → String
  | 2 => "ProtocolVersion OSS 2"
  | 3 => "ProtocolVersion OSS 3"
  | 4 => "ProtocolVersion OSS 4"
  | 5 => "ProtocolVersion OSS 5"
  | 0x41 => "ProtocolVersion DSE 1"
  | 0x42 => "ProtocolVersion DSE 2"
  | version =>
      "ProtocolVersion ? [0X" ++ String.ofList ((Hex.encode [UInt8.ofNat version]).map Char.toUpper) ++
        "]"

/-- `validateStreamId`: protocol versions below 3 have one-byte stream ids, and no client
stream id is negative. -/
def validateStreamId (protocolVersion : Nat) (streamId : Int) : Except String Unit :=
  if protocolVersion < 3 ∧ (127 < streamId ∨ streamId < -128) then
    .error ("stream id out of range for " ++ protocolVersionText protocolVersion ++ ": " ++
      toString streamId)
  else if streamId < 0 then .error s!"negative stream id: {streamId}"
  else .ok ()

/-- The shared state of a `streamIdMapper`: the channel of free ids with its capacity, and the
map from the ids in use to client stream ids, a Go map here a list with one entry per key. -/
structure StreamIdMapper where
  protocolVersion : Nat
  capacity : Nat
  idMapper : List (Nat × Int)
  clusterIds : List Nat

/-- `NewStreamIdMapper`: every id below `max` is free. -/
def newStreamIdMapper (protocolVersion proxyMaxStreamIds : Nat) : StreamIdMapper :=
  let maximumStreamIds := maxStreamIds protocolVersion proxyMaxStreamIds
  ⟨protocolVersion, maximumStreamIds, [], List.range maximumStreamIds⟩

/-- A call of a mapper method. -/
inductive MapperCall where
  | getNewIdFor (streamId : Int)
  | releaseId (syntheticId : Int)
  deriving DecidableEq, Repr

/-- Where a call is: before its first atomic step, holding an id between its two atomic steps,
or returned with its result. -/
inductive CallState where
  | started (call : MapperCall)
  | holdingNewId (streamId : Int) (id : Nat)
  | holdingReleasedId (syntheticId : Nat) (originalId : Int)
  | returned (result : Except String Int)
  deriving DecidableEq, Repr

namespace StreamIdMapper

/-- The ids in use. -/
def mappedIds (mapper : StreamIdMapper) : List Nat := mapper.idMapper.map Prod.fst

/-- The first atomic step of `GetNewIdFor`: validate the client id and receive a free id
without blocking. -/
def receiveNewId (mapper : StreamIdMapper) (streamId : Int) : StreamIdMapper × CallState :=
  match validateStreamId mapper.protocolVersion streamId with
  | .error message => (mapper, .returned (.error message))
  | .ok () =>
      match mapper.clusterIds with
      | [] => (mapper, .returned (.error "no stream id available"))
      | id :: rest => ({ mapper with clusterIds := rest }, .holdingNewId streamId id)

/-- The second atomic step of `GetNewIdFor`, under the lock: record the id unless it is
already mapped. -/
def mapNewId (mapper : StreamIdMapper) (streamId : Int) (id : Nat) : StreamIdMapper × CallState :=
  if id ∈ mapper.mappedIds then
    (mapper, .returned (.error s!"stream id collision, mapper already contains id {id}"))
  else ({ mapper with idMapper := (id, streamId) :: mapper.idMapper }, .returned (.ok id))

/-- The first atomic step of `ReleaseId`: check the range, then, under the lock, delete the
mapping. -/
def unmapId (mapper : StreamIdMapper) (syntheticId : Int) : StreamIdMapper × CallState :=
  if syntheticId < 0 ∨ mapper.capacity ≤ syntheticId then
    (mapper, .returned (.error
      s!"can not release invalid stream id {syntheticId} (max id: {(mapper.capacity : Int) - 1})"))
  else
    match mapper.idMapper.lookup syntheticId.toNat with
    | none => (mapper, .returned (.error
        s!"trying to release a stream id not found in mapper: {syntheticId}"))
    | some originalId =>
        ({ mapper with idMapper := mapper.idMapper.filter (·.1 != syntheticId.toNat) },
          .holdingReleasedId syntheticId.toNat originalId)

/-- The second atomic step of `ReleaseId`: send the id back without blocking. -/
def sendReleasedId (mapper : StreamIdMapper) (syntheticId : Nat) (originalId : Int) :
    StreamIdMapper × CallState :=
  if mapper.capacity ≤ mapper.clusterIds.length then
    (mapper, .returned (.error s!"stream ids channel full, ignoring id {syntheticId}"))
  else ({ mapper with clusterIds := mapper.clusterIds ++ [syntheticId] }, .returned (.ok originalId))

/-- One atomic step of a call in flight. -/
def atomicStep (mapper : StreamIdMapper) : CallState → StreamIdMapper × CallState
  | .started (.getNewIdFor streamId) => mapper.receiveNewId streamId
  | .holdingNewId streamId id => mapper.mapNewId streamId id
  | .started (.releaseId syntheticId) => mapper.unmapId syntheticId
  | .holdingReleasedId syntheticId originalId => mapper.sendReleasedId syntheticId originalId
  | .returned result => (mapper, .returned result)

/-- `GetNewIdFor` as the source writes it, for a caller no other call interleaves with: its
two atomic steps in a row. -/
def getNewIdFor (mapper : StreamIdMapper) (streamId : Int) : StreamIdMapper × Except String Nat :=
  match validateStreamId mapper.protocolVersion streamId with
  | .error message => (mapper, .error message)
  | .ok () =>
      match mapper.clusterIds with
      | [] => (mapper, .error "no stream id available")
      | id :: rest =>
          if id ∈ mapper.mappedIds then
            ({ mapper with clusterIds := rest },
              .error s!"stream id collision, mapper already contains id {id}")
          else ({ mapper with clusterIds := rest, idMapper := (id, streamId) :: mapper.idMapper }, .ok id)

/-- `ReleaseId` as the source writes it, for a caller no other call interleaves with
(`atomicStep_releaseId`). -/
def releaseId (mapper : StreamIdMapper) (syntheticId : Int) : StreamIdMapper × Except String Int :=
  if syntheticId < 0 ∨ mapper.capacity ≤ syntheticId then
    (mapper, .error
      s!"can not release invalid stream id {syntheticId} (max id: {(mapper.capacity : Int) - 1})")
  else
    match mapper.idMapper.lookup syntheticId.toNat with
    | none => (mapper, .error s!"trying to release a stream id not found in mapper: {syntheticId}")
    | some originalId =>
        if mapper.capacity ≤ mapper.clusterIds.length then
          ({ mapper with idMapper := mapper.idMapper.filter (·.1 != syntheticId.toNat) },
            .error s!"stream ids channel full, ignoring id {syntheticId}")
        else
          ({ mapper with
              idMapper := mapper.idMapper.filter (·.1 != syntheticId.toNat)
              clusterIds := mapper.clusterIds ++ [syntheticId.toNat] }, .ok originalId)

end StreamIdMapper

/-- The id a call holds in transit, if any. -/
def CallState.transitIds : CallState → List Nat
  | .holdingNewId _ id => [id]
  | .holdingReleasedId syntheticId _ => [syntheticId]
  | _ => []

/-- The ids held in transit by the calls in flight. -/
def transitIds (calls : List CallState) : List Nat := calls.flatMap CallState.transitIds

/-- The ids and client stream ids that an atomic step makes `GetNewIdFor` return. -/
def CallState.issuedIds (mapper : StreamIdMapper) (callState : CallState) : List (Nat × Int) :=
  match callState, (mapper.atomicStep callState).2 with
  | .holdingNewId streamId id, .returned (.ok _) => [(id, streamId)]
  | _, _ => []

/-- A mapper with the calls in flight on it. `issued` is a ghost history, latest first, of the
ids `GetNewIdFor` returned with the client stream id each was returned for. -/
structure MapperSystem where
  mapper : StreamIdMapper
  calls : List CallState
  issued : List (Nat × Int)

/-- The system of a new mapper with no call in flight. -/
def MapperSystem.initial (protocolVersion proxyMaxStreamIds : Nat) : MapperSystem :=
  ⟨newStreamIdMapper protocolVersion proxyMaxStreamIds, [], []⟩

/-- A step of the system: a new call starts, or one call in flight takes its next atomic step. -/
inductive MapperStep : MapperSystem → MapperSystem → Prop
  | start (system : MapperSystem) (call : MapperCall) :
      MapperStep system { system with calls := system.calls ++ [.started call] }
  | advance (system : MapperSystem) (before after : List CallState) (callState : CallState) :
      system.calls = before ++ callState :: after →
      MapperStep system
        { mapper := (system.mapper.atomicStep callState).1
          calls := before ++ (system.mapper.atomicStep callState).2 :: after
          issued := callState.issuedIds system.mapper ++ system.issued }

/-- The systems reachable from a new mapper. -/
def MapperSystem.Reachable (protocolVersion proxyMaxStreamIds : Nat) (system : MapperSystem) : Prop :=
  Relation.ReflTransGen MapperStep (MapperSystem.initial protocolVersion proxyMaxStreamIds) system

section Transit

@[simp] theorem transitIds_nil : transitIds [] = [] := rfl

@[simp] theorem transitIds_cons (callState : CallState) (calls : List CallState) :
    transitIds (callState :: calls) = callState.transitIds ++ transitIds calls := rfl

@[simp] theorem transitIds_append (left right : List CallState) :
    transitIds (left ++ right) = transitIds left ++ transitIds right := by
  simp [transitIds]

end Transit

namespace StreamIdMapper

/-- No atomic step changes the protocol version or the capacity. -/
theorem atomicStep_fixed (mapper : StreamIdMapper) (callState : CallState) :
    (mapper.atomicStep callState).1.protocolVersion = mapper.protocolVersion ∧
      (mapper.atomicStep callState).1.capacity = mapper.capacity := by
  cases callState with
  | started call =>
    cases call with
    | getNewIdFor streamId =>
      simp only [atomicStep, receiveNewId]
      split
      · exact ⟨rfl, rfl⟩
      · split <;> exact ⟨rfl, rfl⟩
    | releaseId syntheticId =>
      simp only [atomicStep, unmapId]
      split
      · exact ⟨rfl, rfl⟩
      · split <;> exact ⟨rfl, rfl⟩
  | holdingNewId streamId id =>
    simp only [atomicStep, mapNewId]
    split <;> exact ⟨rfl, rfl⟩
  | holdingReleasedId syntheticId originalId =>
    simp only [atomicStep, sendReleasedId]
    split <;> exact ⟨rfl, rfl⟩
  | returned result => exact ⟨rfl, rfl⟩

/-- A found mapping is a mapped id. -/
theorem mem_mappedIds_of_lookup {mapper : StreamIdMapper} {id : Nat} {streamId : Int}
    (found : mapper.idMapper.lookup id = some streamId) : id ∈ mapper.mappedIds := by
  obtain ⟨before, after, split, _⟩ := List.lookup_eq_some_iff.mp found
  simp [mappedIds, split]

/-- In a map with one entry per key, an entry is what a lookup of its key finds. -/
theorem lookup_of_mem {entries : List (Nat × Int)} (keysNodup : (entries.map Prod.fst).Nodup)
    {id : Nat} {streamId : Int} (present : (id, streamId) ∈ entries) :
    entries.lookup id = some streamId := by
  induction entries with
  | nil => cases present
  | cons entry rest inductionHypothesis =>
    obtain ⟨key, value⟩ := entry
    simp only [List.map_cons, List.nodup_cons, List.mem_map] at keysNodup
    rcases List.mem_cons.mp present with same | later
    · cases same
      simp
    · have different : (id == key) = false := by
        rw [beq_eq_false_iff_ne]
        rintro rfl
        exact keysNodup.1 ⟨(id, streamId), later, rfl⟩
      rw [List.lookup_cons, different]
      exact inductionHypothesis keysNodup.2 later

/-- Deleting a mapped key of a map with one entry per key removes that key once. -/
theorem mappedIds_delete_perm {mapper : StreamIdMapper} (keysNodup : mapper.mappedIds.Nodup)
    {id : Nat} (mapped : id ∈ mapper.mappedIds) :
    (({ mapper with idMapper := mapper.idMapper.filter (·.1 != id) } : StreamIdMapper).mappedIds ++
      [id]).Perm mapper.mappedIds := by
  have filtered : ({ mapper with idMapper := mapper.idMapper.filter (·.1 != id) } :
      StreamIdMapper).mappedIds = mapper.mappedIds.erase id := by
    rw [keysNodup.erase_eq_filter id]
    simp only [mappedIds, List.filter_map]
    rfl
  rw [filtered]
  exact List.perm_append_comm.trans (List.perm_cons_erase mapped).symm

/-- An atomic step only moves the id it concerns between the free ids, the mapped ids and the
call's transit, provided the id it maps is not mapped yet and the channel it sends to is not
full. -/
theorem atomicStep_perm {mapper : StreamIdMapper} {callState : CallState}
    (keysNodup : mapper.mappedIds.Nodup)
    (noCollision : ∀ streamId id, callState = .holdingNewId streamId id → id ∉ mapper.mappedIds)
    (notFull : ∀ syntheticId originalId, callState = .holdingReleasedId syntheticId originalId →
      mapper.clusterIds.length < mapper.capacity) :
    ((mapper.atomicStep callState).1.clusterIds ++ (mapper.atomicStep callState).1.mappedIds ++
        (mapper.atomicStep callState).2.transitIds).Perm
      (mapper.clusterIds ++ mapper.mappedIds ++ callState.transitIds) := by
  cases callState with
  | started call =>
    cases call with
    | getNewIdFor streamId =>
      simp only [atomicStep, receiveNewId]
      split
      · simp [CallState.transitIds]
      · split
        · simp [CallState.transitIds]
        · next id rest taken =>
          show (rest ++ mapper.mappedIds ++ [id]).Perm (mapper.clusterIds ++ mapper.mappedIds ++ [])
          rw [taken, List.append_nil]
          exact List.perm_append_singleton id (rest ++ mapper.mappedIds)
    | releaseId syntheticId =>
      simp only [atomicStep, unmapId]
      split
      · simp [CallState.transitIds]
      · split
        · simp [CallState.transitIds]
        · next originalId found =>
          simp only [CallState.transitIds, List.append_nil, List.append_assoc]
          exact (mappedIds_delete_perm keysNodup (mem_mappedIds_of_lookup found)).append_left _
  | holdingNewId streamId id =>
    have fresh := noCollision streamId id rfl
    simp only [atomicStep, mapNewId, fresh, if_false, CallState.transitIds, List.append_nil]
    simp only [mappedIds, List.map_cons, List.append_assoc]
    exact (List.perm_append_singleton id _).symm.append_left _
  | holdingReleasedId syntheticId originalId =>
    have room := notFull syntheticId originalId rfl
    simp only [atomicStep, sendReleasedId, Nat.not_le.mpr room, if_false, CallState.transitIds,
      List.append_nil, List.append_assoc]
    exact (List.perm_append_comm).append_left _
  | returned result => exact List.Perm.refl _

end StreamIdMapper

/-- A found mapping is an entry of the map. -/
theorem StreamIdMapper.mem_of_lookup {mapper : StreamIdMapper} {id : Nat} {streamId : Int}
    (found : mapper.idMapper.lookup id = some streamId) : (id, streamId) ∈ mapper.idMapper := by
  obtain ⟨before, after, split, _⟩ := List.lookup_eq_some_iff.mp found
  simp [split]

/-- A call holding an id has it in transit. -/
theorem mem_transitIds {calls : List CallState} {callState : CallState} (inFlight : callState ∈ calls)
    {id : Nat} (held : id ∈ callState.transitIds) : id ∈ transitIds calls :=
  List.mem_flatMap.mpr ⟨callState, inFlight, held⟩

/-- A fresh id mapped by `GetNewIdFor` is recorded as issued for its client stream id. -/
theorem issuedIds_holdingNewId {mapper : StreamIdMapper} {streamId : Int} {id : Nat}
    (fresh : id ∉ mapper.mappedIds) :
    (CallState.holdingNewId streamId id).issuedIds mapper = [(id, streamId)] := by
  simp [CallState.issuedIds, StreamIdMapper.atomicStep, StreamIdMapper.mapNewId, fresh]

/-- Only the second step of `GetNewIdFor` issues ids. -/
theorem issuedIds_of_not_holdingNewId {mapper : StreamIdMapper} {callState : CallState}
    (notMapping : ∀ streamId id, callState ≠ .holdingNewId streamId id) :
    callState.issuedIds mapper = [] := by
  unfold CallState.issuedIds
  split
  · next streamId id _ _ => exact absurd rfl (notMapping streamId id)
  · rfl

/-- The invariant of a mapper system: the capacity is fixed; every id below it is exactly once
among the free ids, the mapped ids and the ids in transit; every mapped id and every id a
`ReleaseId` holds maps to the client stream id `GetNewIdFor` last returned it for. -/
structure MapperInvariant (capacity : Nat) (system : MapperSystem) : Prop where
  capacity_eq : system.mapper.capacity = capacity
  partitioned : (system.mapper.clusterIds ++ system.mapper.mappedIds ++ transitIds system.calls).Perm
    (List.range capacity)
  mappedAgree : ∀ id streamId, (id, streamId) ∈ system.mapper.idMapper →
    system.issued.lookup id = some streamId
  releasedAgree : ∀ syntheticId originalId, .holdingReleasedId syntheticId originalId ∈ system.calls →
    system.issued.lookup syntheticId = some originalId

namespace MapperInvariant

variable {capacity : Nat} {system : MapperSystem}

/-- The free, mapped and transit ids are pairwise distinct. -/
theorem nodup (invariant : MapperInvariant capacity system) :
    (system.mapper.clusterIds ++ system.mapper.mappedIds ++ transitIds system.calls).Nodup :=
  invariant.partitioned.nodup_iff.mpr List.nodup_range

theorem mappedIds_nodup (invariant : MapperInvariant capacity system) :
    system.mapper.mappedIds.Nodup :=
  (List.nodup_append.mp (List.nodup_append.mp invariant.nodup).1).2.1

/-- An id in transit is not mapped. -/
theorem not_mapped_of_transit (invariant : MapperInvariant capacity system) {id : Nat}
    (inTransit : id ∈ transitIds system.calls) : id ∉ system.mapper.mappedIds := by
  intro mapped
  exact (List.nodup_append.mp invariant.nodup).2.2 id (List.mem_append_right _ mapped) id inTransit rfl

/-- While an id is in transit the channel has room for it. -/
theorem room_of_transit (invariant : MapperInvariant capacity system) {id : Nat}
    (inTransit : id ∈ transitIds system.calls) : system.mapper.clusterIds.length < system.mapper.capacity := by
  have total := invariant.partitioned.length_eq
  have held : 0 < (transitIds system.calls).length := List.length_pos_of_mem inTransit
  have fixed := invariant.capacity_eq
  simp only [List.length_append, List.length_range] at total
  omega

end MapperInvariant

namespace StreamIdMapper

/-- The second step of `GetNewIdFor` on a fresh id maps it and returns it. -/
theorem atomicStep_holdingNewId_of_fresh {mapper : StreamIdMapper} {streamId : Int} {id : Nat}
    (fresh : id ∉ mapper.mappedIds) :
    mapper.atomicStep (.holdingNewId streamId id) =
      ({ mapper with idMapper := (id, streamId) :: mapper.idMapper }, .returned (.ok id)) := by
  simp [atomicStep, mapNewId, fresh]

/-- Every step but the second one of `GetNewIdFor` only keeps or deletes entries of the map. -/
theorem idMapper_atomicStep_subset {mapper : StreamIdMapper} {callState : CallState}
    (notMapping : ∀ streamId id, callState ≠ .holdingNewId streamId id) :
    ∀ entry ∈ (mapper.atomicStep callState).1.idMapper, entry ∈ mapper.idMapper := by
  intro entry present
  cases callState with
  | started call =>
    cases call with
    | getNewIdFor streamId =>
      simp only [atomicStep, receiveNewId] at present
      split at present
      · exact present
      · split at present <;> exact present
    | releaseId syntheticId =>
      simp only [atomicStep, unmapId] at present
      split at present
      · exact present
      · split at present
        · exact present
        · exact List.mem_of_mem_filter present
  | holdingNewId streamId id => exact absurd rfl (notMapping streamId id)
  | holdingReleasedId syntheticId originalId =>
    simp only [atomicStep, sendReleasedId] at present
    split at present <;> exact present
  | returned result => exact present

/-- Only the first step of `ReleaseId` makes a call hold a released id, the original id that
the map held for it. -/
theorem lookup_of_atomicStep_holdingReleasedId {mapper : StreamIdMapper} {callState : CallState}
    {syntheticId : Nat} {originalId : Int}
    (holding : (mapper.atomicStep callState).2 = .holdingReleasedId syntheticId originalId) :
    mapper.idMapper.lookup syntheticId = some originalId ∧
      ∀ streamId id, callState ≠ .holdingNewId streamId id := by
  cases callState with
  | started call =>
    cases call with
    | getNewIdFor streamId =>
      simp only [atomicStep, receiveNewId] at holding
      split at holding
      · cases holding
      · split at holding <;> cases holding
    | releaseId released =>
      simp only [atomicStep, unmapId] at holding
      split at holding
      · cases holding
      · split at holding
        · cases holding
        · next found =>
          cases holding
          exact ⟨found, fun _ _ different => by cases different⟩
  | holdingNewId streamId id =>
    simp only [atomicStep, mapNewId] at holding
    split at holding <;> cases holding
  | holdingReleasedId released originalId =>
    simp only [atomicStep, sendReleasedId] at holding
    split at holding <;> cases holding
  | returned result => cases holding

/-- `ReleaseId` run alone is its two atomic steps in a row. -/
theorem atomicStep_releaseId (mapper : StreamIdMapper) (syntheticId : Int) :
    (mapper.atomicStep (.started (.releaseId syntheticId))).1.atomicStep
        (mapper.atomicStep (.started (.releaseId syntheticId))).2 =
      ((mapper.releaseId syntheticId).1, .returned (mapper.releaseId syntheticId).2) := by
  unfold releaseId
  by_cases outOfRange : syntheticId < 0 ∨ mapper.capacity ≤ syntheticId
  · simp [atomicStep, unmapId, outOfRange]
  · cases found : mapper.idMapper.lookup syntheticId.toNat with
    | none => simp [atomicStep, unmapId, outOfRange, found]
    | some originalId =>
      have unmapped : mapper.atomicStep (.started (.releaseId syntheticId)) =
          ({ mapper with idMapper := mapper.idMapper.filter (·.1 != syntheticId.toNat) },
            .holdingReleasedId syntheticId.toNat originalId) := by
        simp [atomicStep, unmapId, outOfRange, found]
      -- the second step prints the id it holds, a natural number
      have printed : syntheticId.toNat.repr = syntheticId.repr := by
        obtain ⟨id, rfl⟩ := Int.eq_ofNat_of_zero_le (not_lt.mp (not_or.mp outOfRange).1)
        rfl
      rw [unmapped]
      by_cases full : mapper.capacity ≤ mapper.clusterIds.length
      · simp [atomicStep, sendReleasedId, outOfRange, full, printed]
      · simp [atomicStep, sendReleasedId, outOfRange, full]

end StreamIdMapper

namespace MapperInvariant

variable {capacity : Nat} {system : MapperSystem} {before after : List CallState}
  {callState : CallState}

/-- The id a call in flight holds to map is not mapped. -/
theorem fresh (invariant : MapperInvariant capacity system)
    (split : system.calls = before ++ callState :: after) :
    ∀ streamId id, callState = .holdingNewId streamId id → id ∉ system.mapper.mappedIds := by
  intro streamId id same
  subst same
  exact invariant.not_mapped_of_transit
    (mem_transitIds (split ▸ List.mem_append_right before List.mem_cons_self) (by simp [CallState.transitIds]))

/-- The channel has room for the id a call in flight holds to send back. -/
theorem room (invariant : MapperInvariant capacity system)
    (split : system.calls = before ++ callState :: after) :
    ∀ syntheticId originalId, callState = .holdingReleasedId syntheticId originalId →
      system.mapper.clusterIds.length < system.mapper.capacity := by
  intro syntheticId originalId same
  subst same
  exact invariant.room_of_transit
    (mem_transitIds (split ▸ List.mem_append_right before List.mem_cons_self)
      (show syntheticId ∈ (CallState.holdingReleasedId syntheticId originalId).transitIds by
        simp [CallState.transitIds]))

/-- An atomic step keeps the partition of the ids. -/
theorem partitioned_advance (invariant : MapperInvariant capacity system)
    (split : system.calls = before ++ callState :: after) :
    ((system.mapper.atomicStep callState).1.clusterIds ++ (system.mapper.atomicStep callState).1.mappedIds ++
        transitIds (before ++ (system.mapper.atomicStep callState).2 :: after)).Perm
      (List.range capacity) := by
  have moved := StreamIdMapper.atomicStep_perm invariant.mappedIds_nodup
    (invariant.fresh split) (invariant.room split)
  have whole := invariant.partitioned
  rw [split] at whole
  rw [List.perm_iff_count] at moved whole ⊢
  intro value
  have movedCount := moved value
  have wholeCount := whole value
  simp only [transitIds_append, transitIds_cons, List.count_append] at movedCount wholeCount ⊢
  omega

/-- An atomic step keeps every mapped id mapped to the client stream id it was last issued
for. -/
theorem mappedAgree_advance (invariant : MapperInvariant capacity system)
    (split : system.calls = before ++ callState :: after) :
    ∀ id streamId, (id, streamId) ∈ (system.mapper.atomicStep callState).1.idMapper →
      (callState.issuedIds system.mapper ++ system.issued).lookup id = some streamId := by
  by_cases mapping : ∃ streamId id, callState = .holdingNewId streamId id
  · obtain ⟨newStreamId, newId, same⟩ := mapping
    have isFresh := invariant.fresh split newStreamId newId same
    subst same
    rw [StreamIdMapper.atomicStep_holdingNewId_of_fresh isFresh, issuedIds_holdingNewId isFresh]
    intro id streamId present
    rcases List.mem_cons.mp present with head | older
    · cases head
      simp
    · have different : (id == newId) = false := by
        rw [beq_eq_false_iff_ne]
        rintro rfl
        exact isFresh (List.mem_map_of_mem (f := Prod.fst) older)
      rw [List.singleton_append, List.lookup_cons, different]
      exact invariant.mappedAgree id streamId older
  · have notMapping : ∀ streamId id, callState ≠ .holdingNewId streamId id :=
      fun streamId id same => mapping ⟨streamId, id, same⟩
    rw [issuedIds_of_not_holdingNewId notMapping, List.nil_append]
    exact fun id streamId present =>
      invariant.mappedAgree id streamId (StreamIdMapper.idMapper_atomicStep_subset notMapping _ present)

/-- The transit ids of the calls in flight are distinct. -/
theorem transit_nodup (invariant : MapperInvariant capacity system) :
    (transitIds system.calls).Nodup :=
  (List.nodup_append.mp invariant.nodup).2.1

/-- A call's transit id is none of the transit ids of the other calls in flight. -/
theorem transit_ne (invariant : MapperInvariant capacity system)
    (split : system.calls = before ++ callState :: after) {held other : Nat}
    (isHeld : held ∈ callState.transitIds)
    (isOther : other ∈ transitIds before ∨ other ∈ transitIds after) : other ≠ held := by
  have distinct := invariant.transit_nodup
  rw [split, transitIds_append, transitIds_cons] at distinct
  obtain ⟨_, rest, acrossBefore⟩ := List.nodup_append.mp distinct
  rcases isOther with inBefore | inAfter
  · exact acrossBefore other inBefore held (List.mem_append_left _ isHeld)
  · exact fun same => (List.nodup_append.mp rest).2.2 held isHeld other inAfter same.symm

/-- The released ids held by the other calls keep their issued client stream ids: the id an
atomic step issues is in transit, so it is none of theirs. -/
theorem releasedAgree_other (invariant : MapperInvariant capacity system)
    (split : system.calls = before ++ callState :: after) (syntheticId : Nat) (originalId : Int)
    (present : .holdingReleasedId syntheticId originalId ∈ before ∨
      .holdingReleasedId syntheticId originalId ∈ after) :
    (callState.issuedIds system.mapper ++ system.issued).lookup syntheticId = some originalId := by
  have inFlight : .holdingReleasedId syntheticId originalId ∈ system.calls := by
    rw [split]
    rcases present with inBefore | inAfter
    · exact List.mem_append_left _ inBefore
    · exact List.mem_append_right _ (List.mem_cons_of_mem _ inAfter)
  have agree := invariant.releasedAgree syntheticId originalId inFlight
  by_cases mapping : ∃ streamId id, callState = .holdingNewId streamId id
  · obtain ⟨newStreamId, newId, same⟩ := mapping
    have isFresh := invariant.fresh split newStreamId newId same
    subst same
    have isOther : syntheticId ∈ transitIds before ∨ syntheticId ∈ transitIds after := by
      have held : syntheticId ∈ (CallState.holdingReleasedId syntheticId originalId).transitIds := by
        simp [CallState.transitIds]
      rcases present with inBefore | inAfter
      · exact .inl (mem_transitIds inBefore held)
      · exact .inr (mem_transitIds inAfter held)
    have different : (syntheticId == newId) = false :=
      beq_eq_false_iff_ne.mpr (invariant.transit_ne split (by simp [CallState.transitIds]) isOther)
    rw [issuedIds_holdingNewId isFresh, List.singleton_append, List.lookup_cons, different]
    exact agree
  · have notMapping : ∀ streamId id, callState ≠ .holdingNewId streamId id :=
      fun streamId id same => mapping ⟨streamId, id, same⟩
    rw [issuedIds_of_not_holdingNewId notMapping, List.nil_append]
    exact agree

/-- An atomic step keeps every released id held with the client stream id it was last issued
for. -/
theorem releasedAgree_advance (invariant : MapperInvariant capacity system)
    (split : system.calls = before ++ callState :: after) :
    ∀ syntheticId originalId,
      .holdingReleasedId syntheticId originalId ∈ before ++ (system.mapper.atomicStep callState).2 :: after →
      (callState.issuedIds system.mapper ++ system.issued).lookup syntheticId = some originalId := by
  intro syntheticId originalId present
  rcases List.mem_append.mp present with inBefore | inRest
  · exact invariant.releasedAgree_other split syntheticId originalId (.inl inBefore)
  rcases List.mem_cons.mp inRest with isNew | inAfter
  · obtain ⟨found, notMapping⟩ :=
      StreamIdMapper.lookup_of_atomicStep_holdingReleasedId isNew.symm
    rw [issuedIds_of_not_holdingNewId notMapping, List.nil_append]
    exact invariant.mappedAgree syntheticId originalId (StreamIdMapper.mem_of_lookup found)
  · exact invariant.releasedAgree_other split syntheticId originalId (.inr inAfter)

/-- Every step of the system keeps the invariant. -/
theorem step (invariant : MapperInvariant capacity system) {next : MapperSystem}
    (systemStep : MapperStep system next) : MapperInvariant capacity next := by
  cases systemStep with
  | start call =>
    refine ⟨invariant.capacity_eq, ?_, invariant.mappedAgree, ?_⟩
    · simpa [CallState.transitIds] using invariant.partitioned
    · intro syntheticId originalId present
      rcases List.mem_append.mp present with old | isNew
      · exact invariant.releasedAgree syntheticId originalId old
      · simp at isNew
  | advance before after callState split =>
    exact ⟨(StreamIdMapper.atomicStep_fixed _ _).2.trans invariant.capacity_eq,
      invariant.partitioned_advance split, invariant.mappedAgree_advance split,
      invariant.releasedAgree_advance split⟩

theorem initial (protocolVersion proxyMaxStreamIds : Nat) :
    MapperInvariant (maxStreamIds protocolVersion proxyMaxStreamIds)
      (MapperSystem.initial protocolVersion proxyMaxStreamIds) := by
  refine ⟨rfl, ?_, fun _ _ present => (by cases present), fun _ _ present => (by cases present)⟩
  simp [MapperSystem.initial, newStreamIdMapper, StreamIdMapper.mappedIds]

/-- Every reachable system keeps the invariant. -/
theorem of_reachable {protocolVersion proxyMaxStreamIds : Nat}
    (reachable : system.Reachable protocolVersion proxyMaxStreamIds) :
    MapperInvariant (maxStreamIds protocolVersion proxyMaxStreamIds) system := by
  induction reachable with
  | refl => exact initial protocolVersion proxyMaxStreamIds
  | tail _ systemStep inductionHypothesis => exact inductionHypothesis.step systemStep

/-- A call in flight fails only in a step that changes nothing. -/
theorem atomicStep_error (invariant : MapperInvariant capacity system)
    (split : system.calls = before ++ callState :: after) {message : String}
    (failed : (system.mapper.atomicStep callState).2 = .returned (.error message)) :
    (system.mapper.atomicStep callState).1 = system.mapper := by
  cases callState with
  | started call =>
    cases call with
    | getNewIdFor streamId =>
      simp only [StreamIdMapper.atomicStep, StreamIdMapper.receiveNewId] at failed ⊢
      cases validated : validateStreamId system.mapper.protocolVersion streamId with
      | error reason => simp
      | ok validStreamId =>
        cases queue : system.mapper.clusterIds with
        | nil => simp
        | cons id rest => simp [validated, queue] at failed
    | releaseId syntheticId =>
      simp only [StreamIdMapper.atomicStep, StreamIdMapper.unmapId] at failed ⊢
      by_cases outOfRange : syntheticId < 0 ∨ system.mapper.capacity ≤ syntheticId
      · simp [outOfRange]
      · cases found : system.mapper.idMapper.lookup syntheticId.toNat with
        | none => simp [outOfRange]
        | some originalId => simp [outOfRange, found] at failed
  | holdingNewId streamId id =>
    rw [StreamIdMapper.atomicStep_holdingNewId_of_fresh (invariant.fresh split streamId id rfl)] at failed
    cases failed
  | holdingReleasedId syntheticId originalId =>
    have room := invariant.room split syntheticId originalId rfl
    simp [StreamIdMapper.atomicStep, StreamIdMapper.sendReleasedId, Nat.not_le.mpr room] at failed
  | returned result => rfl

/-- A mapped id is below the capacity, and while it is mapped the channel has room for it. -/
theorem bounds_of_mapped (invariant : MapperInvariant capacity system) {id : Nat}
    (mapped : id ∈ system.mapper.mappedIds) :
    id < system.mapper.capacity ∧ system.mapper.clusterIds.length < system.mapper.capacity := by
  have inRange : id ∈ List.range capacity :=
    invariant.partitioned.subset (List.mem_append_left _ (List.mem_append_right _ mapped))
  have total := invariant.partitioned.length_eq
  have held : 0 < system.mapper.mappedIds.length := List.length_pos_of_mem mapped
  have fixed := invariant.capacity_eq
  simp only [List.length_append, List.length_range] at total
  rw [List.mem_range] at inRange
  omega

/-- `ReleaseId` of a mapped id deletes its mapping and holds the client stream id it maps to;
run alone, it returns that client stream id. -/
theorem releaseId_of_mapped (invariant : MapperInvariant capacity system) {id : Nat}
    {streamId : Int} (mapped : (id, streamId) ∈ system.mapper.idMapper) :
    system.mapper.atomicStep (.started (.releaseId id)) =
      ({ system.mapper with idMapper := system.mapper.idMapper.filter (·.1 != id) },
        .holdingReleasedId id streamId) ∧
    (system.mapper.releaseId id).2 = .ok streamId := by
  have isMapped : id ∈ system.mapper.mappedIds := List.mem_map.mpr ⟨_, mapped, rfl⟩
  obtain ⟨below, room⟩ := invariant.bounds_of_mapped isMapped
  have found : system.mapper.idMapper.lookup id = some streamId :=
    StreamIdMapper.lookup_of_mem invariant.mappedIds_nodup mapped
  have unmapped : system.mapper.atomicStep (.started (.releaseId id)) =
      ({ system.mapper with idMapper := system.mapper.idMapper.filter (·.1 != id) },
        .holdingReleasedId id streamId) := by
    simp [StreamIdMapper.atomicStep, StreamIdMapper.unmapId, below, found]
  refine ⟨unmapped, ?_⟩
  -- the sequential call is the two atomic steps, and the second finds room in the channel
  have steps := StreamIdMapper.atomicStep_releaseId system.mapper id
  rw [unmapped] at steps
  simp only [StreamIdMapper.atomicStep, StreamIdMapper.sendReleasedId, Nat.not_le.mpr room,
    if_false, Prod.mk.injEq, CallState.returned.injEq] at steps
  exact steps.2.symm

/-- `GetNewIdFor` run alone with a valid client stream id maps the first free id and returns it:
it never takes the collision branch. -/
theorem getNewIdFor_of_free (invariant : MapperInvariant capacity system) {streamId : Int}
    (valid : validateStreamId system.mapper.protocolVersion streamId = .ok ()) {id : Nat}
    {rest : List Nat} (free : system.mapper.clusterIds = id :: rest) :
    system.mapper.getNewIdFor streamId =
      ({ system.mapper with
          clusterIds := rest
          idMapper := (id, streamId) :: system.mapper.idMapper }, .ok id) := by
  -- the free ids and the mapped ids are disjoint
  have notMapped : id ∉ system.mapper.mappedIds := by
    intro mapped
    have disjoint := (List.nodup_append.mp (List.nodup_append.mp invariant.nodup).1).2.2
    exact disjoint id (by simp [free]) id mapped rfl
  simp [StreamIdMapper.getNewIdFor, valid, free, notMapped]

end MapperInvariant

/-- A mapper of three ids after one `GetNewIdFor` of client stream 5, which took id 0. -/
def afterOneRequest : MapperSystem :=
  ⟨⟨4, 3, [(0, 5)], [1, 2]⟩, [.returned (.ok 0)], [(0, 5)]⟩

/-- The call starts, receives id 0 and maps it. -/
theorem afterOneRequest_reachable : afterOneRequest.Reachable 4 3 := by
  have started : MapperStep (MapperSystem.initial 4 3)
      ⟨⟨4, 3, [], [0, 1, 2]⟩, [.started (.getNewIdFor 5)], []⟩ :=
    MapperStep.start _ (.getNewIdFor 5)
  have received : MapperStep ⟨⟨4, 3, [], [0, 1, 2]⟩, [.started (.getNewIdFor 5)], []⟩
      ⟨⟨4, 3, [], [1, 2]⟩, [.holdingNewId 5 0], []⟩ :=
    MapperStep.advance _ [] [] (.started (.getNewIdFor 5)) rfl
  have mapped : MapperStep ⟨⟨4, 3, [], [1, 2]⟩, [.holdingNewId 5 0], []⟩ afterOneRequest :=
    MapperStep.advance _ [] [] (.holdingNewId 5 0) rfl
  exact ((Relation.ReflTransGen.single started).tail received).tail mapped

end ZdmProxy.Conn
