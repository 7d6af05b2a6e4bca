import ZdmProxy.Control.Hosts
import ZdmProxy.Control.AssignedHosts

/-!
# Refreshing the topology

`RefreshHosts` (`controlconn.go`) reads `system.local` and `system.peers` through the control
connection, keys the hosts by host id, keeps those of one datacenter, sorts them by rack and host
id, and from the sorted list computes the hosts assigned to this proxy instance and the virtual
hosts. `refreshHosts` is all of it up to the write lock, where the result is installed
(`commitRefresh`, in `Topology`).

Two things in it are left to Go's runtime: the order in which a map is iterated, which decides
the order of the host list before sorting and which peer serves as the example of the peers'
columns; and the shuffle of the assigned hosts. The model takes both as parameters
(`Enumerates`, `Shuffles`).

The results: the sorted hosts are exactly the hosts of the chosen datacenter, strictly ordered
(`refreshHosts_orderedHosts`), so no iteration order and no sorting algorithm changes them; the
whole result does not depend on the runtime's choices (`refreshHosts_agree`); the peers' column
names are those of the `system.peers` row set (`refreshHosts_peersColumns`); and a refresh fails
only on the tables, the partitioner, or a datacenter set before that has no host
(`refreshHosts_succeeds_iff`).
-/

namespace ZdmProxy.Control

open ZdmProxy.Routing ZdmProxy.Conn

variable {β : Type}

/-! ## The datacenter -/

/-- `filterHostsByDatacenter`. -/
def filterHostsByDatacenter (datacenter : String) (hosts : List TopologyHost) :
    List TopologyHost :=
  hosts.filter fun h => h.datacenter == datacenter

/-- `filterHosts`: the hosts of the datacenter already set, else of the configured one if it has
any, else of the local host's; with the datacenter kept. The error texts leave out the host
list that Go appends to them. -/
def filterHosts (hosts : List TopologyHost) (currentDc localDatacenter : String)
    (localHost : TopologyHost) : Except String (List TopologyHost × String) :=
  if currentDc != "" then
    let filteredOrderedHosts := filterHostsByDatacenter currentDc hosts
    if filteredOrderedHosts.isEmpty then
      .error s!"current DC was already set to \x27{currentDc}\x27 but no hosts with this DC were found"
    else .ok (filteredOrderedHosts, currentDc)
  else
    let datacenter := localDatacenter
    let configured := filterHostsByDatacenter datacenter hosts
    if datacenter != "" && !configured.isEmpty then .ok (configured, datacenter)
    else
      let inferred := localHost.datacenter
      let filteredOrderedHosts := filterHostsByDatacenter inferred hosts
      if filteredOrderedHosts.isEmpty then
        .error s!"no hosts found with inferred local DC \x27{inferred}\x27"
      else .ok (filteredOrderedHosts, inferred)

/-- The datacenter `filterHosts` keeps. -/
def chosenDatacenter (hosts : List TopologyHost) (currentDc localDatacenter : String)
    (localHost : TopologyHost) : String :=
  if currentDc != "" then currentDc
  else if localDatacenter != "" && hosts.any (fun h => h.datacenter == localDatacenter) then
    localDatacenter
  else localHost.datacenter

theorem isEmpty_filterHostsByDatacenter (datacenter : String) (hosts : List TopologyHost) :
    (filterHostsByDatacenter datacenter hosts).isEmpty =
      !hosts.any fun h => h.datacenter == datacenter := by
  cases present : hosts.any fun h => h.datacenter == datacenter <;>
    simp_all [filterHostsByDatacenter, List.isEmpty_iff, List.filter_eq_nil_iff]

theorem filterHostsByDatacenter_eq_nil_iff {datacenter : String} {hosts : List TopologyHost} :
    filterHostsByDatacenter datacenter hosts = [] ↔
      hosts.any (fun h => h.datacenter == datacenter) = false := by
  rw [← List.isEmpty_iff, isEmpty_filterHostsByDatacenter, Bool.not_eq_true']

/-- A branch of `filterHosts` that keeps the hosts of a datacenter that has some. -/
theorem kept_eq_ok_iff {chosen datacenter : String} {hosts filtered : List TopologyHost}
    (present : hosts.any (fun h => h.datacenter == chosen) = true) :
    (.ok (filterHostsByDatacenter chosen hosts, chosen) : Except String _) = .ok (filtered, datacenter) ↔
      datacenter = chosen ∧ filtered = filterHostsByDatacenter datacenter hosts ∧ filtered ≠ [] := by
  constructor
  · intro same
    cases same
    refine ⟨rfl, rfl, ?_⟩
    rw [Ne, filterHostsByDatacenter_eq_nil_iff, present]
    decide
  · rintro ⟨rfl, rfl, _⟩
    rfl

/-- No branch keeps the hosts of a datacenter without hosts. -/
theorem not_kept {chosen datacenter : String} {hosts filtered : List TopologyHost}
    (absent : hosts.any (fun h => h.datacenter == chosen) = false) :
    ¬(datacenter = chosen ∧ filtered = filterHostsByDatacenter datacenter hosts ∧ filtered ≠ []) := by
  rintro ⟨rfl, rfl, nonempty⟩
  exact nonempty (filterHostsByDatacenter_eq_nil_iff.mpr absent)

theorem filterHosts_eq_ok_iff {hosts : List TopologyHost} {currentDc localDatacenter : String}
    {localHost : TopologyHost} {filtered : List TopologyHost} {datacenter : String} :
    filterHosts hosts currentDc localDatacenter localHost = .ok (filtered, datacenter) ↔
      datacenter = chosenDatacenter hosts currentDc localDatacenter localHost ∧
        filtered = filterHostsByDatacenter datacenter hosts ∧ filtered ≠ [] := by
  unfold filterHosts chosenDatacenter
  simp only [isEmpty_filterHostsByDatacenter, Bool.not_not]
  split_ifs with set empty configured inferredEmpty
  · exact iff_of_false id (not_kept (by simpa using empty))
  · exact kept_eq_ok_iff (by simpa using empty)
  · exact kept_eq_ok_iff (Bool.and_elim_right configured)
  · exact iff_of_false id (not_kept (by simpa using inferredEmpty))
  · exact kept_eq_ok_iff (by simpa using inferredEmpty)

/-- `filterHosts` succeeds exactly when the chosen datacenter has hosts. -/
theorem filterHosts_ok_iff {hosts : List TopologyHost} {currentDc localDatacenter : String}
    {localHost : TopologyHost} :
    (∃ kept, filterHosts hosts currentDc localDatacenter localHost = .ok kept) ↔
      filterHostsByDatacenter (chosenDatacenter hosts currentDc localDatacenter localHost) hosts ≠ [] := by
  constructor
  · rintro ⟨⟨filtered, datacenter⟩, kept⟩
    obtain ⟨rfl, rfl, nonempty⟩ := filterHosts_eq_ok_iff.mp kept
    exact nonempty
  · intro nonempty
    exact ⟨_, filterHosts_eq_ok_iff.mpr ⟨rfl, rfl, nonempty⟩⟩

/-- With the local host among the hosts, `filterHosts` fails only on a datacenter set before
that has no host. -/
theorem filterHosts_ok_iff_of_mem (currentDc localDatacenter : String) {hosts : List TopologyHost}
    {localHost : TopologyHost} (present : localHost ∈ hosts) :
    (∃ kept, filterHosts hosts currentDc localDatacenter localHost = .ok kept) ↔
      currentDc = "" ∨ ∃ host ∈ hosts, host.datacenter = currentDc := by
  rw [filterHosts_ok_iff, Ne, filterHostsByDatacenter_eq_nil_iff, Bool.not_eq_false, List.any_eq_true]
  simp only [chosenDatacenter, beq_iff_eq]
  by_cases set : currentDc = ""
  · -- the configured datacenter is kept only if it has a host, else the local host's has one
    simp only [set, bne_self_eq_false, Bool.false_eq_true, if_false, true_or, iff_true]
    split_ifs with configured
    · simpa using (Bool.and_elim_right configured)
    · exact ⟨localHost, present, rfl⟩
  · simp [set]

theorem chosenDatacenter_of_ne {hosts : List TopologyHost} {currentDc : String}
    (set : currentDc ≠ "") (localDatacenter : String) (localHost : TopologyHost) :
    chosenDatacenter hosts currentDc localDatacenter localHost = currentDc := by
  simp [chosenDatacenter, set]

theorem chosenDatacenter_perm {hosts hosts' : List TopologyHost} (perm : hosts.Perm hosts')
    (currentDc localDatacenter : String) (localHost : TopologyHost) :
    chosenDatacenter hosts currentDc localDatacenter localHost =
      chosenDatacenter hosts' currentDc localDatacenter localHost := by
  rw [chosenDatacenter, chosenDatacenter, perm.any_eq]

/-- The order of the hosts changes only the order of what `filterHosts` keeps. -/
theorem filterHosts_perm {hosts hosts' : List TopologyHost} (perm : hosts.Perm hosts')
    {currentDc localDatacenter : String} {localHost : TopologyHost} {filtered : List TopologyHost}
    {datacenter : String}
    (kept : filterHosts hosts currentDc localDatacenter localHost = .ok (filtered, datacenter)) :
    ∃ filtered', filterHosts hosts' currentDc localDatacenter localHost = .ok (filtered', datacenter) ∧
      filtered.Perm filtered' := by
  obtain ⟨rfl, rfl, nonempty⟩ := filterHosts_eq_ok_iff.mp kept
  have keptPerm := perm.filter fun h => h.datacenter == chosenDatacenter hosts currentDc localDatacenter localHost
  refine ⟨_, filterHosts_eq_ok_iff.mpr ⟨chosenDatacenter_perm perm .., rfl, ?_⟩, keptPerm⟩
  exact fun empty => nonempty (List.Perm.eq_nil (empty ▸ keptPerm))

/-! ## The order of the hosts -/

/-- The comparator of `RefreshHosts`'s `sort.Slice`: by rack, then by the host id's text. -/
def hostLess (first second : TopologyHost) : Bool :=
  if first.rack == second.rack then decide (first.hostId.string < second.hostId.string)
  else decide (first.rack < second.rack)

/-- `sort.Slice` with `hostLess`, by merge sort. No two hosts of one map compare equal, so every
sorting algorithm gives this list (`eq_sortHosts_of_sorted`). -/
def sortHosts (hosts : List TopologyHost) : List TopologyHost :=
  hosts.mergeSort fun first second => !hostLess second first

/-- The key `hostLess` compares. -/
def hostKey (host : TopologyHost) : Lex (String × String) :=
  toLex (host.rack, host.hostId.string)

theorem hostLess_iff (first second : TopologyHost) :
    hostLess first second = true ↔ hostKey first < hostKey second := by
  rw [hostLess, hostKey, hostKey, Prod.Lex.lt_iff]
  by_cases sameRack : first.rack = second.rack <;> simp [sameRack]

theorem sortHosts_eq (hosts : List TopologyHost) :
    sortHosts hosts = KeyedLists.sortByKey hostKey hosts := by
  rw [sortHosts, KeyedLists.sortByKey]
  congr
  funext first second
  rw [Bool.eq_iff_iff, Bool.not_eq_true', Bool.eq_false_iff, Ne, hostLess_iff, not_lt,
    decide_eq_true_iff]

theorem hostId_eq_of_hostKey_eq {first second : TopologyHost} (same : hostKey first = hostKey second) :
    first.hostId = second.hostId :=
  HostUuid.string_injective (Prod.ext_iff.mp (toLex.injective same)).2

/-- Hosts with distinct ids are sorted strictly. -/
theorem pairwise_sortHosts {hosts : List TopologyHost}
    (distinct : (hosts.map TopologyHost.hostId).Nodup) :
    (sortHosts hosts).Pairwise fun first second => hostLess first second := by
  have keysDistinct : (hosts.map hostKey).Nodup :=
    (List.Nodup.of_map _ distinct).map_on fun _ present _ present' same =>
      List.inj_on_of_nodup_map distinct present present' (hostId_eq_of_hostKey_eq same)
  rw [sortHosts_eq]
  exact (KeyedLists.pairwise_lt_sortByKey hostKey keysDistinct).imp fun below =>
    (hostLess_iff _ _).mpr below

/-- `sortHosts` stands for any sorting algorithm: a permutation of the hosts that `hostLess`
orders strictly is the list `sortHosts` gives. -/
theorem eq_sortHosts_of_sorted {hosts sorted : List TopologyHost} (perm : sorted.Perm hosts)
    (strict : sorted.Pairwise fun first second => hostLess first second) :
    sorted = sortHosts hosts := by
  rw [sortHosts_eq]
  exact KeyedLists.eq_sortByKey_of_pairwise_lt hostKey perm
    (strict.imp fun less => (hostLess_iff _ _).mp less)

theorem sortHosts_ne_nil {hosts : List TopologyHost} (nonempty : hosts ≠ []) : sortHosts hosts ≠ [] := by
  rw [sortHosts_eq]
  intro empty
  apply nonempty
  apply List.Perm.eq_nil
  rw [← empty]
  exact (KeyedLists.sortByKey_perm hostKey hosts).symm

theorem mem_sortHosts {hosts : List TopologyHost} {host : TopologyHost} :
    host ∈ sortHosts hosts ↔ host ∈ hosts := by
  rw [sortHosts_eq]
  exact (KeyedLists.sortByKey_perm hostKey hosts).mem_iff

/-- Permutations of hosts with distinct ids sort to one list. -/
theorem sortHosts_eq_of_perm {hosts hosts' : List TopologyHost} (perm : hosts.Perm hosts')
    (distinct : (hosts.map TopologyHost.hostId).Nodup) : sortHosts hosts = sortHosts hosts' := by
  rw [sortHosts_eq, sortHosts_eq]
  exact KeyedLists.sortByKey_eq_of_perm hostKey perm fun _ present _ present' same =>
    List.inj_on_of_nodup_map distinct present present' (hostId_eq_of_hostKey_eq same)

/-! ## `RefreshHosts` -/

/-- What `RefreshHosts` reads of the control connection: the topology configuration and whether
virtualization is enabled (`ParseTopologyConfig` always enables it), the configured local
datacenter (`GetLocalDatacenter`) and the default port. -/
structure RefreshConfig (β : Type) where
  topologyConfig : TopologyConfig β
  virtualizationEnabled : Bool
  localDatacenter : String
  defaultPort : Int

/-- `optionalColumn.AsNillableString`: the assertion `column.(*string)`. -/
def OptionalColumn.asNillableString (col : OptionalColumn) : Except String (Option String) :=
  match col.column with
  | .null => .ok none
  | .text value => .ok (some value)
  | _ => .error "interface conversion: interface is not *string"

/-- `strings.Contains`. -/
def stringsContains (s substr : String) : Bool :=
  decide (substr.toList <:+: s.toList)

/-- The partitioner check of `RefreshHosts`: with virtualization enabled, the cluster must use
the Murmur3 or the Random partitioner. -/
def checkPartitioner (virtualizationEnabled : Bool) (localInfo : List (String × OptionalColumn)) :
    Except String (Except String Unit) := do
  let partitioner ← match localInfo.lookup "partitioner" with
    | some partitionerColValue => partitionerColValue.asNillableString
    | none => pure none
  match partitioner with
  | some partitioner =>
    if !stringsContains partitioner "Murmur3Partitioner" && virtualizationEnabled then
      if stringsContains partitioner "RandomPartitioner" then return .ok ()
      else
        return .error (s!"virtualization is enabled and partitioner is not Murmur3 or Random " ++
          s!"but instead {partitioner}")
    else return .ok ()
  | none => return .ok ()

/-- The reads of `RefreshHosts`: the `system.local` query and its row, the partitioner check,
and the `system.peers` query and its rows. The queries' results are inputs. -/
def readSystemTables (config : RefreshConfig β)
    (localQuery peersQuery : Except String (ParsedRowSet (ColumnMetadata CqlType) SystemValue))
    (ccEndpoint : Except String (Option (List UInt8) × Int)) :
    Except String (Except String (List (String × OptionalColumn) × TopologyHost × HostsById)) := do
  match localQuery with
  | .error err => return .error s!"could not fetch information from system.local table: {err}"
  | .ok localQueryResult =>
  match ← parseSystemLocalResult localQueryResult ccEndpoint config.defaultPort with
  | .error err => return .error err
  | .ok (localInfo, localHost) =>
  match ← checkPartitioner config.virtualizationEnabled localInfo with
  | .error err => return .error err
  | .ok () =>
  match peersQuery with
  | .error err => return .error s!"could not fetch information from system.peers table: {err}"
  | .ok peersQueryResult =>
  let hostsById ← parseSystemPeersResult peersQueryResult config.defaultPort false
  return .ok (localInfo, localHost, hostsById)

/-- What `RefreshHosts` installs in the control connection. -/
structure RefreshResult (β : Type) where
  datacenter : String
  orderedHosts : List TopologyHost
  hostsById : HostsById
  assignedHosts : List TopologyHost
  systemLocalColumnData : List (String × OptionalColumn)
  peersColumns : Option (String → Bool)
  virtualHosts : List (VirtualHost TopologyHost β)

/-- `RefreshHosts` up to the write lock, on the datacenter `currentDc` it read under the read lock.
`iterate` is the order in which Go iterates a map and `shuffle` the shuffle of `shuffleHosts`;
a panic of `computeVirtualHosts` is the outer error. -/
def refreshHosts (config : RefreshConfig β)
    (localQuery peersQuery : Except String (ParsedRowSet (ColumnMetadata CqlType) SystemValue))
    (ccEndpoint : Except String (Option (List UInt8) × Int)) (currentDc : String)
    (iterate : HostsById → List (Σ _ : HostUuid, TopologyHost))
    (shuffle : List TopologyHost → List TopologyHost) :
    Except String (Except String (RefreshResult β)) := do
  match ← readSystemTables config localQuery peersQuery ccEndpoint with
  | .error err => return .error err
  | .ok (localInfo, localHost, hostsById) =>
  let peersColumns := (iterate hostsById).head?.map fun peerHostExample name =>
    (peerHostExample.2.columnData name).any OptionalColumn.exists
  let hostsById := hostsById.insert localHost.hostId localHost
  let orderedLocalHosts := (iterate hostsById).map Sigma.snd
  match filterHosts orderedLocalHosts currentDc config.localDatacenter localHost with
  | .error err => return .error err
  | .ok (filteredHosts, currentDc) =>
  let orderedLocalHosts := sortHosts filteredHosts
  let assignedHosts := shuffle (computeAssignedHosts config.topologyConfig.index
    config.topologyConfig.addresses.length orderedLocalHosts)
  let virtualHosts ← (if config.virtualizationEnabled then
      computeVirtualHosts config.topologyConfig orderedLocalHosts
    else pure [])
  return .ok {
    datacenter := currentDc, orderedHosts := orderedLocalHosts, hostsById, assignedHosts,
    systemLocalColumnData := localInfo, peersColumns, virtualHosts }

theorem readSystemTables_eq_ok_ok_iff {config : RefreshConfig β}
    {localQuery peersQuery : Except String (ParsedRowSet (ColumnMetadata CqlType) SystemValue)}
    {ccEndpoint : Except String (Option (List UInt8) × Int)}
    {localInfo : List (String × OptionalColumn)} {localHost : TopologyHost} {peers : HostsById} :
    readSystemTables config localQuery peersQuery ccEndpoint = .ok (.ok (localInfo, localHost, peers)) ↔
      ∃ localRs peersRs, localQuery = .ok localRs ∧
        parseSystemLocalResult localRs ccEndpoint config.defaultPort = .ok (.ok (localInfo, localHost)) ∧
        checkPartitioner config.virtualizationEnabled localInfo = .ok (.ok ()) ∧
        peersQuery = .ok peersRs ∧ parseSystemPeersResult peersRs config.defaultPort false = .ok peers := by
  constructor
  · intro read
    unfold readSystemTables at read
    split at read
    · cases read
    rename_i localRs
    rw [ExceptMap.bind_eq_ok_iff] at read
    obtain ⟨parsedLocal, localParsed, read⟩ := read
    split at read
    · cases read
    rename_i localInfo' localHost'
    rw [ExceptMap.bind_eq_ok_iff] at read
    obtain ⟨checked, partitionerChecked, read⟩ := read
    split at read
    · cases read
    split at read
    · cases read
    rename_i peersRs
    rw [ExceptMap.bind_eq_ok_iff] at read
    obtain ⟨peers', peersParsed, read⟩ := read
    cases read
    exact ⟨localRs, peersRs, rfl, localParsed, partitionerChecked, rfl, peersParsed⟩
  · rintro ⟨localRs, peersRs, rfl, localParsed, partitionerChecked, rfl, peersParsed⟩
    simp only [readSystemTables, localParsed, peersParsed, bind, Except.bind]
    rw [partitionerChecked]
    rfl

/-- A map iteration order: each iteration visits the map's entries once each. -/
def Enumerates (iterate : HostsById → List (Σ _ : HostUuid, TopologyHost)) : Prop :=
  ∀ hosts, (iterate hosts).Perm hosts.entries

/-- A shuffle: a permutation of its input. -/
def Shuffles (shuffle : List TopologyHost → List TopologyHost) : Prop :=
  ∀ hosts, (shuffle hosts).Perm hosts

section Refresh

variable {config : RefreshConfig β}
  {localQuery peersQuery : Except String (ParsedRowSet (ColumnMetadata CqlType) SystemValue)}
  {ccEndpoint : Except String (Option (List UInt8) × Int)} {currentDc : String}
  {iterate : HostsById → List (Σ _ : HostUuid, TopologyHost)}
  {shuffle : List TopologyHost → List TopologyHost}

/-- What a refresh that succeeds has computed, step by step. -/
theorem refreshHosts_eq_ok_ok {result : RefreshResult β}
    (refreshed : refreshHosts config localQuery peersQuery ccEndpoint currentDc iterate shuffle =
      .ok (.ok result)) :
    ∃ localHost peers filteredHosts,
      readSystemTables config localQuery peersQuery ccEndpoint =
        .ok (.ok (result.systemLocalColumnData, localHost, peers)) ∧
      result.peersColumns = (iterate peers).head?.map (fun peerHostExample name =>
        (peerHostExample.2.columnData name).any OptionalColumn.exists) ∧
      result.hostsById = peers.insert localHost.hostId localHost ∧
      filterHosts ((iterate result.hostsById).map Sigma.snd) currentDc config.localDatacenter
        localHost = .ok (filteredHosts, result.datacenter) ∧
      result.orderedHosts = sortHosts filteredHosts ∧
      result.assignedHosts = shuffle (computeAssignedHosts config.topologyConfig.index
        config.topologyConfig.addresses.length result.orderedHosts) ∧
      (if config.virtualizationEnabled then computeVirtualHosts config.topologyConfig result.orderedHosts
        else pure []) = .ok result.virtualHosts := by
  unfold refreshHosts at refreshed
  rw [ExceptMap.bind_eq_ok_iff] at refreshed
  obtain ⟨read, tablesRead, refreshed⟩ := refreshed
  split at refreshed
  · cases refreshed
  rename_i localInfo localHost peers
  dsimp only at refreshed
  split at refreshed
  · cases refreshed
  rename_i filteredHosts datacenter kept
  rw [ExceptMap.bind_eq_ok_iff] at refreshed
  obtain ⟨virtualHosts, computed, installed⟩ := refreshed
  cases installed
  exact ⟨localHost, peers, filteredHosts, tablesRead, rfl, rfl, kept, rfl, rfl, computed⟩

/-! ### What a refresh returns -/

/-- With a host, the virtual hosts are computed without a panic. -/
theorem exists_virtualHosts (config : RefreshConfig β) {orderedHosts : List TopologyHost}
    (nonempty : orderedHosts ≠ []) :
    ∃ virtualHosts, (if config.virtualizationEnabled then
      computeVirtualHosts config.topologyConfig orderedHosts else pure []) = .ok virtualHosts := by
  split
  · obtain ⟨virtualHosts, computed, _⟩ := computeVirtualHosts_ok config.topologyConfig nonempty
    exact ⟨virtualHosts, computed⟩
  · exact ⟨[], rfl⟩

theorem refreshHosts_of_read_panic {err : String}
    (read : readSystemTables config localQuery peersQuery ccEndpoint = .error err) :
    refreshHosts config localQuery peersQuery ccEndpoint currentDc iterate shuffle = .error err := by
  simp only [refreshHosts, read]
  rfl

theorem refreshHosts_of_read_error {err : String}
    (read : readSystemTables config localQuery peersQuery ccEndpoint = .ok (.error err)) :
    refreshHosts config localQuery peersQuery ccEndpoint currentDc iterate shuffle = .ok (.error err) := by
  simp only [refreshHosts, read]
  rfl

/-- With the tables read, a datacenter without hosts is a Go error. -/
theorem refreshHosts_of_filterHosts_error {localInfo : List (String × OptionalColumn)}
    {localHost : TopologyHost} {peers : HostsById} {err : String}
    (read : readSystemTables config localQuery peersQuery ccEndpoint =
      .ok (.ok (localInfo, localHost, peers)))
    (failed : filterHosts ((iterate (peers.insert localHost.hostId localHost)).map Sigma.snd)
      currentDc config.localDatacenter localHost = .error err) :
    refreshHosts config localQuery peersQuery ccEndpoint currentDc iterate shuffle = .ok (.error err) := by
  simp only [refreshHosts, read, bind, Except.bind, failed]
  rfl

/-- With the tables read and the hosts of a datacenter kept, the refresh returns them sorted,
with the instance's assigned hosts and the virtual hosts. -/
theorem refreshHosts_of_filterHosts_ok {localInfo : List (String × OptionalColumn)}
    {localHost : TopologyHost} {peers : HostsById} {filteredHosts : List TopologyHost}
    {datacenter : String}
    (read : readSystemTables config localQuery peersQuery ccEndpoint =
      .ok (.ok (localInfo, localHost, peers)))
    (kept : filterHosts ((iterate (peers.insert localHost.hostId localHost)).map Sigma.snd)
      currentDc config.localDatacenter localHost = .ok (filteredHosts, datacenter)) :
    ∃ virtualHosts, (if config.virtualizationEnabled then
        computeVirtualHosts config.topologyConfig (sortHosts filteredHosts) else pure []) =
        .ok virtualHosts ∧
      refreshHosts config localQuery peersQuery ccEndpoint currentDc iterate shuffle = .ok (.ok {
        datacenter, orderedHosts := sortHosts filteredHosts,
        hostsById := peers.insert localHost.hostId localHost,
        assignedHosts := shuffle (computeAssignedHosts config.topologyConfig.index
          config.topologyConfig.addresses.length (sortHosts filteredHosts)),
        systemLocalColumnData := localInfo,
        peersColumns := (iterate peers).head?.map fun peerHostExample name =>
          (peerHostExample.2.columnData name).any OptionalColumn.exists,
        virtualHosts }) := by
  obtain ⟨virtualHosts, computed⟩ :=
    exists_virtualHosts config (sortHosts_ne_nil (filterHosts_eq_ok_iff.mp kept).2.2)
  refine ⟨virtualHosts, computed, ?_⟩
  simp only [refreshHosts, read, bind, Except.bind, kept]
  rw [computed]
  rfl

/-! ### What a refresh computes -/

/-- An enumeration of a map visits its elements. -/
theorem mem_enumeration_iff (enumerates : Enumerates iterate) {hosts : HostsById}
    {host : TopologyHost} :
    host ∈ (iterate hosts).map Sigma.snd ↔ host ∈ hosts.entries.map Sigma.snd :=
  ((enumerates hosts).map Sigma.snd).mem_iff

/-- The local host is among the hosts of the map it is inserted into. -/
theorem localMem_enumeration (enumerates : Enumerates iterate) (localHost : TopologyHost)
    (peers : HostsById) :
    localHost ∈ (iterate (peers.insert localHost.hostId localHost)).map Sigma.snd := by
  rw [mem_enumeration_iff enumerates]
  exact List.mem_map_of_mem (AList.mem_lookup_iff.mp (AList.lookup_insert _))

/-- The hosts of a refresh are keyed by their ids: the peers by `ParseSystemPeersResult`, the
local host by its own insertion. -/
theorem keyed_refreshHosts_hostsById {localInfo : List (String × OptionalColumn)}
    {localHost : TopologyHost} {peers : HostsById}
    (read : readSystemTables config localQuery peersQuery ccEndpoint =
      .ok (.ok (localInfo, localHost, peers))) :
    KeyedLists.Keyed TopologyHost.hostId (peers.insert localHost.hostId localHost) := by
  obtain ⟨_, _, _, _, _, _, peersParsed⟩ := readSystemTables_eq_ok_ok_iff.mp read
  exact (keyed_parseSystemPeersResult peersParsed).insert _ localHost

/-- The hosts a refresh keeps have distinct ids, as the map's hosts do. -/
theorem nodup_hostIds_of_kept (enumerates : Enumerates iterate)
    {localInfo : List (String × OptionalColumn)} {localHost : TopologyHost} {peers : HostsById}
    (read : readSystemTables config localQuery peersQuery ccEndpoint =
      .ok (.ok (localInfo, localHost, peers)))
    {filteredHosts : List TopologyHost} {datacenter : String}
    (kept : filterHosts ((iterate (peers.insert localHost.hostId localHost)).map Sigma.snd)
      currentDc config.localDatacenter localHost = .ok (filteredHosts, datacenter)) :
    (filteredHosts.map TopologyHost.hostId).Nodup := by
  obtain ⟨_, filtered, _⟩ := filterHosts_eq_ok_iff.mp kept
  have enumerated := (enumerates (peers.insert localHost.hostId localHost)).map Sigma.snd
  have all := (enumerated.map TopologyHost.hostId).nodup_iff.mpr
    (keyed_refreshHosts_hostsById read).nodup_keys
  rw [filtered]
  exact all.sublist (List.filter_sublist.map _)

/-- The sorted hosts of a refresh are exactly the hosts of the chosen datacenter, strictly
ordered by rack and host id; the datacenter is the one already set, else the configured one if
some host has it, else the local host's, and it has a host. Since a strictly ordered list is
determined by its elements, neither the map iteration order nor the sorting algorithm changes
the list.

Proof: the inversion lemma gives the filtered enumeration; `filterHosts_eq_ok_iff` describes it,
and it is a permutation of the map's hosts of the datacenter. The map is keyed by host id, so the
ids are distinct and `pairwise_sortHosts` applies. -/
theorem refreshHosts_orderedHosts (enumerates : Enumerates iterate) {result : RefreshResult β}
    (refreshed : refreshHosts config localQuery peersQuery ccEndpoint currentDc iterate shuffle =
      .ok (.ok result)) :
    ∃ localHost peers,
      readSystemTables config localQuery peersQuery ccEndpoint =
        .ok (.ok (result.systemLocalColumnData, localHost, peers)) ∧
      result.hostsById = peers.insert localHost.hostId localHost ∧
      result.datacenter = chosenDatacenter (result.hostsById.entries.map Sigma.snd) currentDc
        config.localDatacenter localHost ∧
      result.orderedHosts ≠ [] ∧
      (∀ host, host ∈ result.orderedHosts ↔
        result.hostsById.lookup host.hostId = some host ∧ host.datacenter = result.datacenter) ∧
      result.orderedHosts.Pairwise fun first second => hostLess first second := by
  obtain ⟨localHost, peers, filteredHosts, read, _, hostsById, kept, ordered, _, _⟩ :=
    refreshHosts_eq_ok_ok refreshed
  obtain ⟨chosen, filtered, nonempty⟩ := filterHosts_eq_ok_iff.mp kept
  have keyed : KeyedLists.Keyed TopologyHost.hostId result.hostsById :=
    hostsById ▸ keyed_refreshHosts_hostsById read
  have enumerated := (enumerates result.hostsById).map Sigma.snd
  have distinct := nodup_hostIds_of_kept enumerates read (hostsById ▸ kept)
  refine ⟨localHost, peers, read, hostsById, chosen.trans (chosenDatacenter_perm enumerated ..),
    ordered ▸ sortHosts_ne_nil nonempty, ?_, ordered ▸ pairwise_sortHosts distinct⟩
  intro host
  rw [ordered, mem_sortHosts, filtered, filterHostsByDatacenter, List.mem_filter,
    mem_enumeration_iff enumerates, keyed.mem_entries_iff, beq_iff_eq]

/-- A host id whose last byte is `last`. -/
def hostIdBytes (last : UInt8) : List UInt8 := List.replicate 15 0 ++ [last]

/-- The `system.local` row of a node of `dc1`. -/
def twoDatacentersLocal : ParsedRowSet (ColumnMetadata CqlType) SystemValue :=
  ⟨[⟨"rpc_address", .inet⟩, ⟨"data_center", .varchar⟩, ⟨"rack", .varchar⟩, ⟨"host_id", .uuid⟩,
      ⟨"partitioner", .varchar⟩], none,
    [[.inet [10, 0, 0, 1], .text "dc1", .text "rack1", .uuid (hostIdBytes 1),
      .text "org.apache.cassandra.dht.Murmur3Partitioner"]]⟩

/-- Its peers: one in `dc1`, on another rack, and one in `dc2`. -/
def twoDatacentersPeers : ParsedRowSet (ColumnMetadata CqlType) SystemValue :=
  ⟨[⟨"rpc_address", .inet⟩, ⟨"data_center", .varchar⟩, ⟨"rack", .varchar⟩, ⟨"host_id", .uuid⟩,
      ⟨"release_version", .varchar⟩], none,
    [[.inet [10, 0, 0, 2], .text "dc1", .text "rack0", .uuid (hostIdBytes 2), .text "3.11.10"],
     [.inet [10, 0, 0, 3], .text "dc2", .text "rack1", .uuid (hostIdBytes 3), .text "3.11.10"]]⟩

/-- Two proxies with four tokens each, no configured datacenter. -/
def twoProxiesConfig : RefreshConfig Nat :=
  ⟨⟨[0, 1], 0, 4, by decide, by decide, by decide⟩, true, "", 9042⟩

/-- The sample cluster refreshes to `dc1`, whether no datacenter is set yet or `dc1` is, on any
topology of the proxies, with virtualization on and no configured datacenter. -/
theorem twoDatacenters_refreshes_on {β : Type} (topologyConfig : TopologyConfig β)
    {currentDc : String} (known : currentDc = "" ∨ currentDc = "dc1") :
    ∃ result : RefreshResult β, refreshHosts ⟨topologyConfig, true, "", 9042⟩
      (.ok twoDatacentersLocal) (.ok twoDatacentersPeers) (.ok (none, 9042)) currentDc
      AList.entries id = .ok (.ok result) ∧ result.datacenter = "dc1" := by
  obtain ⟨localInfo, localHost, peers, filteredHosts, datacenter, read, kept, chosen⟩ :
      ∃ localInfo localHost peers filteredHosts datacenter,
        readSystemTables (⟨topologyConfig, true, "", 9042⟩ : RefreshConfig β)
          (.ok twoDatacentersLocal) (.ok twoDatacentersPeers) (.ok (none, 9042)) =
          .ok (.ok (localInfo, localHost, peers)) ∧
        filterHosts ((AList.entries (peers.insert localHost.hostId localHost)).map Sigma.snd)
          currentDc "" localHost = .ok (filteredHosts, datacenter) ∧
        datacenter = "dc1" := by
    rcases known with rfl | rfl
    · exact ⟨_, _, _, _, _, rfl, rfl, rfl⟩
    · exact ⟨_, _, _, _, _, rfl, rfl, rfl⟩
  obtain ⟨_, _, refreshed⟩ := refreshHosts_of_filterHosts_ok read kept
  exact ⟨_, refreshed, chosen⟩

/-- The sample cluster refreshes to `dc1` on the two sample proxies. -/
theorem twoDatacenters_refreshes {currentDc : String} (known : currentDc = "" ∨ currentDc = "dc1") :
    ∃ result : RefreshResult Nat, refreshHosts twoProxiesConfig (.ok twoDatacentersLocal)
      (.ok twoDatacentersPeers) (.ok (none, 9042)) currentDc AList.entries id = .ok (.ok result) ∧
      result.datacenter = "dc1" :=
  twoDatacenters_refreshes_on twoProxiesConfig.topologyConfig known

theorem enumerates_entries : Enumerates AList.entries := fun _ => List.Perm.refl _

theorem refreshHosts_orderedHosts_twoDatacenters :
    Enumerates AList.entries ∧ ∃ result : RefreshResult Nat,
      refreshHosts twoProxiesConfig (.ok twoDatacentersLocal) (.ok twoDatacentersPeers)
        (.ok (none, 9042)) "" AList.entries id = .ok (.ok result) ∧
      ∃ localHost peers,
        readSystemTables twoProxiesConfig (.ok twoDatacentersLocal) (.ok twoDatacentersPeers)
          (.ok (none, 9042)) = .ok (.ok (result.systemLocalColumnData, localHost, peers)) ∧
        result.hostsById = peers.insert localHost.hostId localHost ∧
        result.datacenter = chosenDatacenter (result.hostsById.entries.map Sigma.snd) ""
          twoProxiesConfig.localDatacenter localHost ∧
        result.orderedHosts ≠ [] ∧
        (∀ host, host ∈ result.orderedHosts ↔
          result.hostsById.lookup host.hostId = some host ∧ host.datacenter = result.datacenter) ∧
        result.orderedHosts.Pairwise fun first second => hostLess first second := by
  obtain ⟨result, refreshed, _⟩ := twoDatacenters_refreshes (.inl rfl)
  exact ⟨enumerates_entries, result, refreshed, refreshHosts_orderedHosts enumerates_entries refreshed⟩

/-- The columns of the first peer of any enumeration: the host columns that the row set has. -/
theorem peersColumns_of_enumerates (enumerates : Enumerates iterate)
    {peersRs : ParsedRowSet (ColumnMetadata CqlType) SystemValue} {defaultPort : Int}
    {peers : HostsById} (peersParsed : parseSystemPeersResult peersRs defaultPort false = .ok peers) :
    (iterate peers).head?.map (fun peerHostExample name =>
        (peerHostExample.2.columnData name).any OptionalColumn.exists) =
      if peers.entries = [] then none else
        some fun name => decide (name ∈ hostColumnNames) && (columnIndex peersRs.columns name).isSome := by
  cases enumeration : iterate peers with
  | nil =>
    have empty : peers.entries = [] := (enumeration ▸ enumerates peers).symm.eq_nil
    simp [empty]
  | cons peerHostExample others =>
    have stored : peerHostExample ∈ peers.entries := (enumerates peers).mem_iff.mp (by simp [enumeration])
    obtain ⟨row, present, addr, port, parsed⟩ :=
      parseHost_of_mem_parseSystemPeersResult peersParsed (List.mem_map_of_mem stored)
    have nonempty : peers.entries ≠ [] := List.ne_nil_of_mem stored
    simp only [List.head?_cons, Option.map_some, nonempty, if_false]
    congr
    funext name
    rw [exists_columnData parsed, columns_of_mem_parsedRows present]

/-- The names of the columns that the proxy's `system.peers` answers copy from a refresh are the
host columns that the `system.peers` row set has, whichever peer Go's map iteration reaches
first; with no peer there are none.

Proof: every peer was parsed from a row of the row set (`parseHost_of_mem_parseSystemPeersResult`),
and which columns a host from a row has depends on the row set's columns only
(`exists_columnData`). -/
theorem refreshHosts_peersColumns (enumerates : Enumerates iterate) {result : RefreshResult β}
    (refreshed : refreshHosts config localQuery peersQuery ccEndpoint currentDc iterate shuffle =
      .ok (.ok result)) :
    ∃ peersRs peers, peersQuery = .ok peersRs ∧
      parseSystemPeersResult peersRs config.defaultPort false = .ok peers ∧
      result.peersColumns = if peers.entries = [] then none else
        some fun name => decide (name ∈ hostColumnNames) && (columnIndex peersRs.columns name).isSome := by
  obtain ⟨localHost, peers, _, read, peersColumns, _⟩ := refreshHosts_eq_ok_ok refreshed
  obtain ⟨_, peersRs, _, _, _, fetched, peersParsed⟩ := readSystemTables_eq_ok_ok_iff.mp read
  exact ⟨peersRs, peers, fetched, peersParsed,
    peersColumns.trans (peersColumns_of_enumerates enumerates peersParsed)⟩

theorem refreshHosts_peersColumns_twoDatacenters :
    Enumerates AList.entries ∧ ∃ result : RefreshResult Nat,
      refreshHosts twoProxiesConfig (.ok twoDatacentersLocal) (.ok twoDatacentersPeers)
        (.ok (none, 9042)) "" AList.entries id = .ok (.ok result) ∧
      ∃ peersRs peers, (.ok twoDatacentersPeers : Except String _) = .ok peersRs ∧
        parseSystemPeersResult peersRs twoProxiesConfig.defaultPort false = .ok peers ∧
        result.peersColumns = if peers.entries = [] then none else
          some fun name => decide (name ∈ hostColumnNames) &&
            (columnIndex peersRs.columns name).isSome := by
  obtain ⟨result, refreshed, _⟩ := twoDatacenters_refreshes (.inl rfl)
  exact ⟨enumerates_entries, result, refreshed, refreshHosts_peersColumns enumerates_entries refreshed⟩

/-- A refresh succeeds exactly when both queries answer, both tables parse, the partitioner check
passes, and a datacenter set before has a host: with none set yet, the datacenter it chooses
always has one, the local host's if no other, since the local host is among the hosts. So
`computeVirtualHosts` never divides by zero here.

Proof: the local host is in the map it was inserted into, so `filterHosts_ok_iff_of_mem` applies
to the enumeration, and `refreshHosts_of_filterHosts_ok` gives the result. -/
theorem refreshHosts_succeeds_iff (enumerates : Enumerates iterate) :
    (∃ result : RefreshResult β,
      refreshHosts config localQuery peersQuery ccEndpoint currentDc iterate shuffle = .ok (.ok result)) ↔
      ∃ localRs peersRs localInfo localHost peers, localQuery = .ok localRs ∧
        parseSystemLocalResult localRs ccEndpoint config.defaultPort = .ok (.ok (localInfo, localHost)) ∧
        checkPartitioner config.virtualizationEnabled localInfo = .ok (.ok ()) ∧
        peersQuery = .ok peersRs ∧ parseSystemPeersResult peersRs config.defaultPort false = .ok peers ∧
        (currentDc = "" ∨ ∃ host ∈ (peers.insert localHost.hostId localHost).entries.map Sigma.snd,
          host.datacenter = currentDc) := by
  constructor
  · rintro ⟨result, refreshed⟩
    obtain ⟨localHost, peers, filteredHosts, read, _, hostsById, kept, _⟩ :=
      refreshHosts_eq_ok_ok refreshed
    obtain ⟨localRs, peersRs, fetchedLocal, localParsed, checked, fetchedPeers, peersParsed⟩ :=
      readSystemTables_eq_ok_ok_iff.mp read
    rw [hostsById] at kept
    have known := (filterHosts_ok_iff_of_mem currentDc config.localDatacenter
      (localMem_enumeration enumerates localHost peers)).mp ⟨_, kept⟩
    simp only [mem_enumeration_iff enumerates] at known
    exact ⟨localRs, peersRs, _, localHost, peers, fetchedLocal, localParsed, checked, fetchedPeers,
      peersParsed, known⟩
  · rintro ⟨localRs, peersRs, localInfo, localHost, peers, fetchedLocal, localParsed, checked,
      fetchedPeers, peersParsed, known⟩
    have read := readSystemTables_eq_ok_ok_iff.mpr
      ⟨localRs, peersRs, fetchedLocal, localParsed, checked, fetchedPeers, peersParsed⟩
    simp only [← mem_enumeration_iff enumerates] at known
    obtain ⟨⟨filteredHosts, datacenter⟩, kept⟩ :=
      (filterHosts_ok_iff_of_mem currentDc config.localDatacenter
        (localMem_enumeration enumerates localHost peers)).mpr known
    obtain ⟨_, _, refreshed⟩ := refreshHosts_of_filterHosts_ok read kept
    exact ⟨_, refreshed⟩

theorem refreshHosts_succeeds_iff_twoDatacenters :
    Enumerates AList.entries ∧
      ((∃ result : RefreshResult Nat,
        refreshHosts twoProxiesConfig (.ok twoDatacentersLocal) (.ok twoDatacentersPeers)
          (.ok (none, 9042)) "dc2" AList.entries id = .ok (.ok result)) ↔
        ∃ localRs peersRs localInfo localHost peers,
          (.ok twoDatacentersLocal : Except String _) = .ok localRs ∧
          parseSystemLocalResult localRs (.ok (none, 9042)) twoProxiesConfig.defaultPort =
            .ok (.ok (localInfo, localHost)) ∧
          checkPartitioner twoProxiesConfig.virtualizationEnabled localInfo = .ok (.ok ()) ∧
          (.ok twoDatacentersPeers : Except String _) = .ok peersRs ∧
          parseSystemPeersResult peersRs twoProxiesConfig.defaultPort false = .ok peers ∧
          ("dc2" = "" ∨ ∃ host ∈ (peers.insert localHost.hostId localHost).entries.map Sigma.snd,
            host.datacenter = "dc2")) :=
  ⟨enumerates_entries, refreshHosts_succeeds_iff enumerates_entries⟩

end Refresh

/-! ## What the runtime's choices do not change -/

/-- What two refreshes on the same tables and datacenter have in common: all of it but the order
of the assigned hosts. -/
structure RefreshResult.Agree (first second : RefreshResult β) : Prop where
  datacenter : first.datacenter = second.datacenter
  orderedHosts : first.orderedHosts = second.orderedHosts
  hostsById : first.hostsById = second.hostsById
  assignedHosts : first.assignedHosts.Perm second.assignedHosts
  systemLocalColumnData : first.systemLocalColumnData = second.systemLocalColumnData
  peersColumns : first.peersColumns = second.peersColumns
  virtualHosts : first.virtualHosts = second.virtualHosts

/-- Two outcomes of `RefreshHosts` that agree: one panic, a Go error each (its text lists the hosts
in map order), or agreeing results. -/
def RefreshOutcomeAgree : Except String (Except String (RefreshResult β)) →
    Except String (Except String (RefreshResult β)) → Prop
  | .error first, .error second => first = second
  | .ok (.error _), .ok (.error _) => True
  | .ok (.ok first), .ok (.ok second) => first.Agree second
  | _, _ => False

section Agreement

variable {config : RefreshConfig β}
  {localQuery peersQuery : Except String (ParsedRowSet (ColumnMetadata CqlType) SystemValue)}
  {ccEndpoint : Except String (Option (List UInt8) × Int)} {currentDc : String}
  {iterate iterate' : HostsById → List (Σ _ : HostUuid, TopologyHost)}
  {shuffle shuffle' : List TopologyHost → List TopologyHost}

/-- The order in which Go iterates the maps and the shuffle of the assigned hosts change nothing
of a refresh but the order of the assigned hosts: it panics, fails or succeeds alike, with the
same datacenter, sorted hosts, map, column data and virtual hosts.

Proof: up to the datacenter filter the two runs compute the same; `filterHosts_perm` relates the
two filtered enumerations, which sort to one list (`sortHosts_eq_of_perm`) since the ids are
distinct; the first peer's columns are those of the row set in both runs
(`peersColumns_of_enumerates`). -/
theorem refreshHosts_agree (enumerates : Enumerates iterate) (enumerates' : Enumerates iterate')
    (shuffles : Shuffles shuffle) (shuffles' : Shuffles shuffle') :
    RefreshOutcomeAgree
      (refreshHosts config localQuery peersQuery ccEndpoint currentDc iterate shuffle)
      (refreshHosts config localQuery peersQuery ccEndpoint currentDc iterate' shuffle') := by
  cases read : readSystemTables config localQuery peersQuery ccEndpoint with
  | error err =>
    rw [refreshHosts_of_read_panic read, refreshHosts_of_read_panic read]
    exact rfl
  | ok tables =>
    cases tables with
    | error err =>
      rw [refreshHosts_of_read_error read, refreshHosts_of_read_error read]
      trivial
    | ok tables =>
      obtain ⟨localInfo, localHost, peers⟩ := tables
      have enumerated := ((enumerates (peers.insert localHost.hostId localHost)).map Sigma.snd).trans
        ((enumerates' (peers.insert localHost.hostId localHost)).map Sigma.snd).symm
      cases kept : filterHosts ((iterate (peers.insert localHost.hostId localHost)).map Sigma.snd)
          currentDc config.localDatacenter localHost with
      | error err =>
        -- a datacenter without hosts has none in either order
        cases kept' : filterHosts ((iterate' (peers.insert localHost.hostId localHost)).map Sigma.snd)
            currentDc config.localDatacenter localHost with
        | error err' =>
          rw [refreshHosts_of_filterHosts_error read kept,
            refreshHosts_of_filterHosts_error read kept']
          trivial
        | ok kept'' =>
          obtain ⟨_, back, _⟩ := filterHosts_perm enumerated.symm kept'
          rw [kept] at back
          cases back
      | ok kept'' =>
        obtain ⟨filteredHosts, datacenter⟩ := kept''
        obtain ⟨filteredHosts', kept', filteredPerm⟩ := filterHosts_perm enumerated kept
        obtain ⟨virtualHosts, computed, refreshed⟩ := refreshHosts_of_filterHosts_ok read kept
        obtain ⟨virtualHosts', computed', refreshed'⟩ := refreshHosts_of_filterHosts_ok read kept'
        have sorted : sortHosts filteredHosts = sortHosts filteredHosts' :=
          sortHosts_eq_of_perm filteredPerm (nodup_hostIds_of_kept enumerates read kept)
        rw [sorted] at computed
        obtain ⟨_, peersRs, _, _, _, _, peersParsed⟩ := readSystemTables_eq_ok_ok_iff.mp read
        rw [refreshed, refreshed']
        exact RefreshResult.Agree.mk rfl sorted rfl
          ((shuffles _).trans (sorted ▸ (shuffles' _).symm)) rfl
          ((peersColumns_of_enumerates enumerates peersParsed).trans
            (peersColumns_of_enumerates enumerates' peersParsed).symm)
          (Except.ok.inj (computed.symm.trans computed'))

theorem refreshHosts_agree_twoDatacenters :
    Enumerates AList.entries ∧ Enumerates (fun hosts => hosts.entries.reverse) ∧
      Shuffles id ∧ Shuffles List.reverse ∧
      RefreshOutcomeAgree
        (refreshHosts twoProxiesConfig (.ok twoDatacentersLocal) (.ok twoDatacentersPeers)
          (.ok (none, 9042)) "" AList.entries id)
        (refreshHosts twoProxiesConfig (.ok twoDatacentersLocal) (.ok twoDatacentersPeers)
          (.ok (none, 9042)) "" (fun hosts => hosts.entries.reverse) List.reverse) := by
  have reversed : Enumerates (fun hosts => hosts.entries.reverse) := fun _ => List.reverse_perm _
  have shuffled : Shuffles List.reverse := fun _ => List.reverse_perm _
  exact ⟨enumerates_entries, reversed, fun _ => List.Perm.refl _, shuffled,
    refreshHosts_agree enumerates_entries reversed (fun _ => List.Perm.refl _) shuffled⟩

end Agreement

end ZdmProxy.Control
