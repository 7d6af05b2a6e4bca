import ZdmProxy.Control.Topology

/-!
# Intercepted system queries

With virtualization on, the proxy answers the `SELECT`s on `system.local`, `system.peers` and
`system.peers_v2` itself (`handleInterceptedRequest`, `clienthandler.go`). It reads the virtual
hosts of the control connection of the cluster that system queries go to; it answers
`system.peers_v2` with an `Invalid` error, `system.peers` with `NewSystemPeersResult`, and
`system.local` with `NewSystemLocalResult` (`nativeprotocol.go`) on the proxy's own virtual host.
A `ColumnNotFoundErr`, for a selector that names a column the table lacks, becomes an `Invalid`
error as well.

`NewSystemLocalResult` is the one-host case of `NewSystemPeersResult`: the columns of
`system.local`, a single row, a row count of 1, and no list of peer columns, so that the columns
the real host lacks are looked up in the `system.local` data of the control connection.

The interceptor reads the control connection three times, each under its own read lock: the
virtual hosts, then the `system.peers` column names, then the `system.local` column data. A
refresh can commit between two reads, so the model takes each read from its own state of a run
(`InterceptedReads`). The results hold over every such interleaving. The answer to a
`system.local` query is one row holding the values of the proxy's own virtual host as installed
at the first read: its address, its tokens, and the real host `index % n` of the sorted hosts
installed then (`handleInterceptedRequest_local_row`). The answer to a `system.peers` query
without a count has one row per other proxy, each holding the values of that proxy's virtual
host, computed from the sorted hosts installed at the first read
(`handleInterceptedRequest_peers_rows`); the columns that a host lacks are filled from the later
reads.

The model leaves out the frame the answer is encoded in, and the prepared statement cache, which
the PREPARE of an intercepted query fills with the proxy's own prepared result. Go's errors are
their messages here, so the type assertion on `ColumnNotFoundErr` reads the message.
-/

namespace ZdmProxy.Control

open ZdmProxy.Cql ZdmProxy.Routing

/-! ## `system.local` -/

/-- `systemLocalColumns`: the columns of `system.local`, as DSE 6.8 has them. -/
def systemLocalColumns : List (ColumnMetadata CqlType) :=
  [⟨"key", .varchar⟩, ⟨"bootstrapped", .varchar⟩, ⟨"broadcast_address", .inet⟩,
    ⟨"cluster_name", .varchar⟩, ⟨"cql_version", .varchar⟩, ⟨"data_center", .varchar⟩,
    ⟨"dse_version", .varchar⟩, ⟨"gossip_generation", .int⟩, ⟨"graph", .boolean⟩,
    ⟨"host_id", .uuid⟩, ⟨"jmx_port", .int⟩, ⟨"last_nodesync_checkpoint_time", .bigint⟩,
    ⟨"listen_address", .inet⟩, ⟨"native_protocol_version", .varchar⟩,
    ⟨"native_transport_port", .int⟩, ⟨"native_transport_port_ssl", .int⟩,
    ⟨"partitioner", .varchar⟩, ⟨"native_transport_address", .inet⟩, ⟨"rack", .varchar⟩,
    ⟨"release_version", .varchar⟩, ⟨"rpc_address", .inet⟩, ⟨"schema_version", .uuid⟩,
    ⟨"server_id", .varchar⟩, ⟨"storage_port", .int⟩, ⟨"storage_port_ssl", .int⟩,
    ⟨"thrift_version", .varchar⟩, ⟨"tokens", .set .varchar⟩,
    ⟨"truncated_at", .map .uuid .blob⟩, ⟨"workload", .varchar⟩, ⟨"workloads", .set .varchar⟩]

variable {Encoded : Type}

/-- `NewSystemLocalResult`, with `prepare` for a prepare request. -/
def newSystemLocalResult (encode : CqlType → SystemValue → Except String Encoded)
    (hostIdOf : List UInt8 → List UInt8) (prepare : Bool)
    (systemLocalColumnData : String → Option OptionalColumn) (parsedSelectClause : SelectClause)
    (virtualHost : VirtualHost Host (List UInt8)) (proxyPort : Int) :
    Except String (SystemResult Encoded) :=
  match filterSystemColumns parsedSelectClause systemLocalColumns with
  | .error err => .error err
  | .ok (resultCols, _) =>
      let rowCount := 1
      match getFilteredSystemValues hostIdOf "local" parsedSelectClause true [] resultCols none
          systemLocalColumnData virtualHost proxyPort rowCount with
      | .error err =>
          .error s!"errors adding columns for system local result (prepare={prepare}): {err}"
      | .ok (row, columns) =>
          if prepare then .ok (.preparedResult columns)
          else
            match encodeRowsResult encode columns [row] with
            | .error err => .error err
            | .ok data => .ok (.rowsResult columns data)

section Local

variable {encode : CqlType → SystemValue → Except String Encoded}
  {hostIdOf : List UInt8 → List UInt8}
  {systemLocalColumnData : String → Option OptionalColumn} {parsedSelectClause : SelectClause}
  {virtualHost : VirtualHost Host (List UInt8)} {proxyPort : Int} {result : SystemResult Encoded}

/-- What a successful `NewSystemLocalResult` without a prepare request did: the result columns,
the row of the virtual host, and its encoding. -/
theorem newSystemLocalResult_ok
    (succeeded : newSystemLocalResult encode hostIdOf false systemLocalColumnData
      parsedSelectClause virtualHost proxyPort = .ok result) :
    ∃ resultColumns hasCount row columns data,
      filterSystemColumns parsedSelectClause systemLocalColumns = .ok (resultColumns, hasCount) ∧
      getFilteredSystemValues hostIdOf "local" parsedSelectClause true [] resultColumns none
        systemLocalColumnData virtualHost proxyPort 1 = .ok (row, columns) ∧
      encodeRowsResult encode columns [row] = .ok data ∧ result = .rowsResult columns data := by
  unfold newSystemLocalResult at succeeded
  cases filtered : filterSystemColumns parsedSelectClause systemLocalColumns with
  | error err => simp [filtered] at succeeded
  | ok filteredColumns =>
    obtain ⟨resultColumns, hasCount⟩ := filteredColumns
    simp only [filtered] at succeeded
    cases got : getFilteredSystemValues hostIdOf "local" parsedSelectClause true [] resultColumns
        none systemLocalColumnData virtualHost proxyPort 1 with
    | error err => simp [got] at succeeded
    | ok added =>
      obtain ⟨row, columns⟩ := added
      simp only [got, Bool.false_eq_true, if_false] at succeeded
      cases encoded : encodeRowsResult encode columns [row] with
      | error err => simp [encoded] at succeeded
      | ok data =>
        simp only [encoded, Except.ok.injEq] at succeeded
        exact ⟨resultColumns, hasCount, row, columns, data, rfl, got, encoded, succeeded.symm⟩

/-- `NewSystemLocalResult` without a prepare request answers with a single row, as wide as the
columns, each cell the encoding of the virtual host's value for its column; the columns it lacks
are read from `systemLocalColumnData`, and a count is 1. -/
theorem newSystemLocalResult_row
    (succeeded : newSystemLocalResult encode hostIdOf false systemLocalColumnData
      parsedSelectClause virtualHost proxyPort = .ok result) :
    ∃ columns cells, result = .rowsResult columns [cells] ∧ cells.length = columns.length ∧
      List.Forall₂ (EncodesAs encode) (columns.zip (systemPeerRow hostIdOf parsedSelectClause
        columns none systemLocalColumnData proxyPort 1 virtualHost)) cells := by
  obtain ⟨resultColumns, hasCount, row, columns, data, filtered, got, encoded, rfl⟩ :=
    newSystemLocalResult_ok succeeded
  obtain ⟨-, lengths, padded⟩ :=
    getFilteredSystemValues_first (filterSystemColumns_nodup_of (by decide) filtered) got
  have related : List.Forall₂ (fun host row => row.length ≤ columns.length ∧
      padRow row columns.length = systemPeerRow hostIdOf parsedSelectClause columns none
        systemLocalColumnData proxyPort 1 host) [virtualHost] [row] :=
    .cons ⟨lengths.le, padded⟩ .nil
  -- one host, one row of cells
  cases encodeRowsResult_rows related encoded with
  | cons cellwise rest =>
    cases rest
    exact ⟨columns, _, rfl, cellwise.1, cellwise.2⟩

end Local

/-! ## The interception -/

/-- The virtual host as the system tables read it: the real host's datacenter, schema version and
column data. -/
def VirtualHost.toSystemHost (virtualHost : VirtualHost TopologyHost (List UInt8)) :
    VirtualHost Host (List UInt8) :=
  ⟨virtualHost.tokens, virtualHost.addr, virtualHost.host.toHost⟩

/-- A read of the control connection's `systemLocalColumnData` map, nil before the first
refresh. -/
def columnDataLookup (columnData : Option (List (String × OptionalColumn))) (name : String) :
    Option OptionalColumn :=
  columnData.bind fun columns => columns.lookup name

/-- `GetVirtualHosts`. -/
def getVirtualHosts {β : Type} (virtualizationEnabled : Bool) (state : TopologyState β) :
    Except String (List (VirtualHost TopologyHost β)) :=
  if !virtualizationEnabled then
    .error "could not get virtual hosts because virtualization is not enabled"
  else
    match state.virtualHosts with
    | none =>
        .error "could not get virtual hosts because topology information has not been retrieved yet"
    | some virtualHosts => .ok virtualHosts

/-- The intercepted request info of a request, and whether the request is a PREPARE, which
carries it as its base. -/
def interceptedRequestInfo {DataType : Type} :
    RequestInfo DataType → Except String (Bool × InterceptedQueryType × Option SelectClause)
  | .prepare info =>
      match info.baseRequestInfo with
      | .intercepted queryType parsedSelectClause => .ok (true, queryType, parsedSelectClause)
      | _ => .error "expected intercepted request info on prepare request info"
  | .intercepted queryType parsedSelectClause => .ok (false, queryType, parsedSelectClause)
  | _ => .error "expected intercepted request info"

/-- The type assertion `err.(*ColumnNotFoundErr)`, on the message of the error: the column name
of the `ColumnNotFoundErr` whose message it is. -/
def columnNotFoundName (err : String) : Option String :=
  ("could not find column: ".toList.isPrefixOf? err.toList).map String.ofList

/-- What `handleInterceptedRequest` answers: an `Invalid` error message, or a system result. -/
inductive InterceptedResponse (Encoded : Type) where
  | invalid (errorMessage : String)
  | result (result : SystemResult Encoded)

/-- The answer for the result of `NewSystemPeersResult` or `NewSystemLocalResult`: a
`ColumnNotFoundErr` becomes an `Invalid` message, any other error is returned. -/
def interceptedAnswer :
    Except String (SystemResult Encoded) → Except String (InterceptedResponse Encoded)
  | .ok result => .ok (.result result)
  | .error err =>
      match columnNotFoundName err with
      | some name => .ok (.invalid s!"Undefined column name {name}")
      | none => .error err

/-- `handleInterceptedRequest`, on the control connection of the cluster that system queries go
to, with the proxy's listen port. Each getter of the control connection takes the topology read
lock on its own, so the virtual hosts, the `system.peers` column names and the `system.local`
column data are read from three states of it, in that order (Go evaluates the arguments of
`NewSystemPeersResult` left to right); a `system.local` query takes the first and the last read. -/
def handleInterceptedRequest {DataType : Type}
    (encode : CqlType → SystemValue → Except String Encoded) (hostIdOf : List UInt8 → List UInt8)
    (topologyConfig : TopologyConfig (List UInt8)) (virtualizationEnabled : Bool)
    (proxyListenPort : Int)
    (virtualHostsRead systemPeersColumnNamesRead systemLocalColumnDataRead :
      TopologyState (List UInt8))
    (requestInfo : RequestInfo DataType) : Except String (InterceptedResponse Encoded) :=
  match interceptedRequestInfo requestInfo with
  | .error err => .error err
  | .ok (prepared, queryType, parsedSelectClause) =>
      match getVirtualHosts virtualizationEnabled virtualHostsRead with
      | .error err => .error err
      | .ok virtualHosts =>
          let virtualHosts := virtualHosts.map VirtualHost.toSystemHost
          match queryType with
          | .peersV2 => .ok (.invalid "unconfigured table peers_v2")
          | .peersV1 =>
              match parsedSelectClause with
              | none => .error s!"unable to intercept system.peers query (prepared={prepared}) because parsed select clause is nil"
              | some parsedSelectClause =>
                  interceptedAnswer (newSystemPeersResult encode hostIdOf prepared
                    systemPeersColumnNamesRead.systemPeersColumnNames
                    (columnDataLookup systemLocalColumnDataRead.systemLocalColumnData)
                    parsedSelectClause virtualHosts topologyConfig.index proxyListenPort)
          | .local =>
              match parsedSelectClause with
              | none => .error s!"unable to intercept system.local query (prepared={prepared}) because parsed select clause is nil"
              | some parsedSelectClause =>
                  match virtualHosts[topologyConfig.index]? with
                  | none =>
                      let index := topologyConfig.index
                      let length := virtualHosts.length
                      .error s!"runtime error: index out of range [{index}] with length {length}"
                  | some localVirtualHost =>
                      interceptedAnswer (newSystemLocalResult encode hostIdOf prepared
                        (columnDataLookup systemLocalColumnDataRead.systemLocalColumnData)
                        parsedSelectClause localVirtualHost proxyListenPort)

section Dispatch

variable {DataType : Type} {encode : CqlType → SystemValue → Except String Encoded}
  {hostIdOf : List UInt8 → List UInt8} {topologyConfig : TopologyConfig (List UInt8)}
  {virtualizationEnabled : Bool} {proxyListenPort : Int}
  {virtualHostsRead systemPeersColumnNamesRead systemLocalColumnDataRead :
    TopologyState (List UInt8)}
  {parsedSelectClause : SelectClause} {result : SystemResult Encoded}

theorem interceptedAnswer_eq_result_iff {answer : Except String (SystemResult Encoded)} :
    interceptedAnswer answer = .ok (.result result) ↔ answer = .ok result := by
  cases answer with
  | ok answer => simp [interceptedAnswer]
  | error err =>
    simp only [interceptedAnswer, reduceCtorEq, iff_false]
    split <;> simp

theorem getVirtualHosts_eq_ok_iff {β : Type} {state : TopologyState β}
    {virtualHosts : List (VirtualHost TopologyHost β)} :
    getVirtualHosts virtualizationEnabled state = .ok virtualHosts ↔
      virtualizationEnabled = true ∧ state.virtualHosts = some virtualHosts := by
  cases virtualizationEnabled with
  | false => simp [getVirtualHosts]
  | true =>
    cases installed : state.virtualHosts with
    | none => simp [getVirtualHosts, installed]
    | some installedHosts => simp [getVirtualHosts, installed]

/-- A `system.local` query is answered with a result exactly when virtualization is on, the
virtual hosts are installed, the proxy's index names one of them, and `NewSystemLocalResult`
succeeds on it. -/
theorem handleInterceptedRequest_local_eq_result :
    handleInterceptedRequest encode hostIdOf topologyConfig virtualizationEnabled proxyListenPort
        virtualHostsRead systemPeersColumnNamesRead systemLocalColumnDataRead
        (.intercepted .local (some parsedSelectClause) : RequestInfo DataType) =
        .ok (.result result) ↔
      ∃ virtualHosts virtualHost, virtualizationEnabled = true ∧
        virtualHostsRead.virtualHosts = some virtualHosts ∧
        virtualHosts[topologyConfig.index]? = some virtualHost ∧
        newSystemLocalResult encode hostIdOf false
          (columnDataLookup systemLocalColumnDataRead.systemLocalColumnData) parsedSelectClause
          virtualHost.toSystemHost proxyListenPort = .ok result := by
  constructor
  · intro answered
    cases got : getVirtualHosts virtualizationEnabled virtualHostsRead with
    | error err => simp [handleInterceptedRequest, interceptedRequestInfo, got] at answered
    | ok virtualHosts =>
      simp only [handleInterceptedRequest, interceptedRequestInfo, got, List.getElem?_map]
        at answered
      cases found : virtualHosts[topologyConfig.index]? with
      | none => simp [found] at answered
      | some virtualHost =>
        simp only [found, Option.map_some] at answered
        obtain ⟨enabled, installed⟩ := getVirtualHosts_eq_ok_iff.mp got
        exact ⟨virtualHosts, virtualHost, enabled, installed, found,
          interceptedAnswer_eq_result_iff.mp answered⟩
  · rintro ⟨virtualHosts, virtualHost, enabled, installed, found, answered⟩
    simp only [handleInterceptedRequest, interceptedRequestInfo,
      getVirtualHosts_eq_ok_iff.mpr ⟨enabled, installed⟩, List.getElem?_map, found,
      Option.map_some]
    exact interceptedAnswer_eq_result_iff.mpr answered

/-- A `system.peers` query is answered with a result exactly when virtualization is on, the
virtual hosts are installed, and `NewSystemPeersResult` succeeds on them. -/
theorem handleInterceptedRequest_peers_eq_result :
    handleInterceptedRequest encode hostIdOf topologyConfig virtualizationEnabled proxyListenPort
        virtualHostsRead systemPeersColumnNamesRead systemLocalColumnDataRead
        (.intercepted .peersV1 (some parsedSelectClause) : RequestInfo DataType) =
        .ok (.result result) ↔
      ∃ virtualHosts, virtualizationEnabled = true ∧
        virtualHostsRead.virtualHosts = some virtualHosts ∧
        newSystemPeersResult encode hostIdOf false systemPeersColumnNamesRead.systemPeersColumnNames
          (columnDataLookup systemLocalColumnDataRead.systemLocalColumnData) parsedSelectClause
          (virtualHosts.map VirtualHost.toSystemHost) topologyConfig.index proxyListenPort =
          .ok result := by
  constructor
  · intro answered
    cases got : getVirtualHosts virtualizationEnabled virtualHostsRead with
    | error err => simp [handleInterceptedRequest, interceptedRequestInfo, got] at answered
    | ok virtualHosts =>
      simp only [handleInterceptedRequest, interceptedRequestInfo, got] at answered
      obtain ⟨enabled, installed⟩ := getVirtualHosts_eq_ok_iff.mp got
      exact ⟨virtualHosts, enabled, installed, interceptedAnswer_eq_result_iff.mp answered⟩
  · rintro ⟨virtualHosts, enabled, installed, answered⟩
    simp only [handleInterceptedRequest, interceptedRequestInfo,
      getVirtualHosts_eq_ok_iff.mpr ⟨enabled, installed⟩]
    exact interceptedAnswer_eq_result_iff.mpr answered

end Dispatch

/-! ## The answers over every run -/

/-- The states of the control connection at the three reads of `handleInterceptedRequest`, in
the order it takes them, in a run from a new control connection: refreshes may start and commit
between two reads. -/
structure InterceptedReads {β : Type} (config : RefreshConfig β) where
  virtualHostsRead : ControlTopology config
  systemPeersColumnNamesRead : ControlTopology config
  systemLocalColumnDataRead : ControlTopology config
  reachable : virtualHostsRead.Reachable
  peersColumnNamesAfter :
    Relation.ReflTransGen (TopologyStep config) virtualHostsRead systemPeersColumnNamesRead
  localColumnDataAfter :
    Relation.ReflTransGen (TopologyStep config) systemPeersColumnNamesRead systemLocalColumnDataRead

/-- The three reads taken with no refresh in between. -/
def InterceptedReads.atOnce {β : Type} {config : RefreshConfig β} (system : ControlTopology config)
    (reachable : system.Reachable) : InterceptedReads config :=
  ⟨system, system, system, reachable, .refl, .refl⟩

section Answers

variable {config : RefreshConfig (List UInt8)} {system : ControlTopology config}
  {reads : InterceptedReads config}
  {encode : CqlType → SystemValue → Except String Encoded} {hostIdOf : List UInt8 → List UInt8}
  {proxyListenPort : Int} {parsedSelectClause : SelectClause} {result : SystemResult Encoded}

/-- With virtualization on, the installed virtual hosts are those that `computeVirtualHosts`
computes from the installed sorted hosts. -/
theorem computeVirtualHosts_of_installed (reachable : system.Reachable)
    (enabled : config.virtualizationEnabled = true)
    {virtualHosts : List (VirtualHost TopologyHost (List UInt8))}
    (installed : system.state.virtualHosts = some virtualHosts) :
    ∃ hosts, system.state.orderedHostsInLocalDc = some hosts ∧
      computeVirtualHosts config.topologyConfig hosts = .ok virtualHosts := by
  obtain ⟨refresh, ordered, -, -, -, -, virtual⟩ := installs_of_virtualHosts reachable installed
  rw [installed, Option.some.injEq] at virtual
  have computed := refresh.valid.virtual
  rw [if_pos enabled, ← virtual] at computed
  exact ⟨refresh.result.orderedHosts, ordered, computed⟩

/-- Over every interleaving of refreshes with the reads of the interceptor, the proxy answers a
`system.local` query, when it answers with a result, with one row holding the values of its own
virtual host as installed at the first read: its address, its tokens, and the real host
`index % n` of the sorted hosts installed then. The columns that host lacks are read from the
`system.local` data installed at the last read, and a count is 1.

Proof: the interceptor found the virtual hosts installed, by a refresh that computed them from
its sorted hosts (`computeVirtualHosts_of_installed`); the proxy's own is the one
`getElem?_computeVirtualHosts` describes, and `newSystemLocalResult_row` gives its row. -/
theorem handleInterceptedRequest_local_row {DataType : Type}
    (answered : handleInterceptedRequest encode hostIdOf config.topologyConfig
      config.virtualizationEnabled proxyListenPort reads.virtualHostsRead.state
      reads.systemPeersColumnNamesRead.state reads.systemLocalColumnDataRead.state
      (.intercepted .local (some parsedSelectClause) : RequestInfo DataType) =
        .ok (.result result)) :
    ∃ hosts address host columns cells,
      reads.virtualHostsRead.state.orderedHostsInLocalDc = some hosts ∧
      config.topologyConfig.addresses[config.topologyConfig.index]? = some address ∧
      hosts[config.topologyConfig.index % hosts.length]? = some host ∧
      result = .rowsResult columns [cells] ∧ cells.length = columns.length ∧
      List.Forall₂ (EncodesAs encode) (columns.zip (systemPeerRow hostIdOf parsedSelectClause
        columns none (columnDataLookup reads.systemLocalColumnDataRead.state.systemLocalColumnData)
        proxyListenPort 1
        ⟨(List.range config.topologyConfig.numTokens).map (virtualToken
          config.topologyConfig.numTokens config.topologyConfig.addresses.length
          config.topologyConfig.index), address, host.toHost⟩)) cells := by
  obtain ⟨virtualHosts, virtualHost, enabled, installed, found, succeeded⟩ :=
    handleInterceptedRequest_local_eq_result.mp answered
  obtain ⟨hosts, ordered, computed⟩ :=
    computeVirtualHosts_of_installed reads.reachable enabled installed
  obtain ⟨address, addressed⟩ : ∃ address,
      config.topologyConfig.addresses[config.topologyConfig.index]? = some address :=
    ⟨_, List.getElem?_eq_getElem config.topologyConfig.index_lt⟩
  obtain ⟨host, hosted, ownHost⟩ := getElem?_computeVirtualHosts computed addressed
  rw [ownHost, Option.some.injEq] at found
  subst found
  obtain ⟨columns, cells, rfl, width, cellwise⟩ := newSystemLocalResult_row succeeded
  exact ⟨hosts, address, host, columns, cells, ordered, addressed, hosted, rfl, width, cellwise⟩

/-- Over every interleaving of refreshes with the reads of the interceptor, the proxy answers a
`system.peers` query without a count, when it answers with a result, with one row per proxy other
than itself, in the order of the topology's addresses. Each row is as wide as the columns and
holds the values of that proxy's virtual host, computed from the sorted hosts installed at the
first read, with a row count of `n - 1`; the peer columns are those installed at the second read
and the `system.local` data that of the third.

Proof: as for `system.local`, the virtual hosts are those computed from the installed hosts
(`computeVirtualHosts_of_installed`), one per address; `peersResult_rows_of_no_count` gives one
row per virtual host other than the local one. -/
theorem handleInterceptedRequest_peers_rows {DataType : Type} {context : SelectClauseContext}
    (extracted : extractSelectClause context = .ok parsedSelectClause)
    (noCount : hasCountSelector parsedSelectClause = false)
    (answered : handleInterceptedRequest encode hostIdOf config.topologyConfig
      config.virtualizationEnabled proxyListenPort reads.virtualHostsRead.state
      reads.systemPeersColumnNamesRead.state reads.systemLocalColumnDataRead.state
      (.intercepted .peersV1 (some parsedSelectClause) : RequestInfo DataType) =
        .ok (.result result)) :
    ∃ hosts virtualHosts columns data,
      reads.virtualHostsRead.state.orderedHostsInLocalDc = some hosts ∧
      computeVirtualHosts config.topologyConfig hosts = .ok virtualHosts ∧
      result = .rowsResult columns data ∧
      List.Forall₂ (fun virtualHost cells => cells.length = columns.length ∧
          List.Forall₂ (EncodesAs encode) (columns.zip (systemPeerRow hostIdOf parsedSelectClause
            columns reads.systemPeersColumnNamesRead.state.systemPeersColumnNames
            (columnDataLookup reads.systemLocalColumnDataRead.state.systemLocalColumnData)
            proxyListenPort ((config.topologyConfig.addresses.length : Int) - 1)
            virtualHost.toSystemHost)) cells)
        (virtualHosts.eraseIdx config.topologyConfig.index) data := by
  obtain ⟨virtualHosts, enabled, installed, succeeded⟩ :=
    handleInterceptedRequest_peers_eq_result.mp answered
  obtain ⟨hosts, ordered, computed⟩ :=
    computeVirtualHosts_of_installed reads.reachable enabled installed
  obtain ⟨resultColumns, hasCount, final, data, filtered, looped, encoded, rfl⟩ :=
    newSystemPeersResult_ok succeeded
  have counted :=
    filterSystemColumns_hasCountSelector (extractSelectClause_unnested extracted) filtered
  rw [noCount] at counted
  subst counted
  have hostsCount : (virtualHosts.map VirtualHost.toSystemHost).length =
      config.topologyConfig.addresses.length := by
    rw [List.length_map, length_computeVirtualHosts computed]
  have rows := peersResult_rows_of_no_count (hostsCount ▸ config.topologyConfig.index_lt)
    filtered looped encoded
  rw [List.eraseIdx_map, List.forall₂_map_left_iff, hostsCount] at rows
  exact ⟨hosts, virtualHosts, final.columns, data, ordered, computed, rfl, rows⟩

end Answers

/-- Two proxies, `10.0.0.1` and `10.0.0.2`, in front of the sample cluster, with the four tokens
each of `twoProxiesConfig`. -/
def twoInetProxiesConfig : RefreshConfig (List UInt8) :=
  ⟨⟨[[10, 0, 0, 1], [10, 0, 0, 2]], 0, 4, by decide, twoProxiesConfig.topologyConfig.numTokens_pos,
    twoProxiesConfig.topologyConfig.numTokens_le⟩, true, "", 9042⟩

/-- The sample cluster refreshed once on the two proxies: the virtual hosts are installed. -/
theorem twoInetProxies_installed :
    ∃ system : ControlTopology twoInetProxiesConfig, system.Reachable ∧
      ∃ virtualHosts, system.state.virtualHosts = some virtualHosts := by
  obtain ⟨first, refreshed, -⟩ :=
    twoDatacenters_refreshes_on twoInetProxiesConfig.topologyConfig (.inl rfl)
  let refresh : PendingRefresh twoInetProxiesConfig :=
    ⟨"", first, _, _, _, _, _, enumerates_entries, fun _ => List.Perm.refl _, refreshed⟩
  have started := TopologyStep.start ControlTopology.initial refresh rfl
  have committed := TopologyStep.commit ⟨TopologyState.initial, [refresh]⟩ [] [] refresh
    AList.entries enumerates_entries rfl
  exact ⟨_, (Relation.ReflTransGen.single started).tail committed, _, rfl⟩

/-- The clause of `SELECT rpc_address FROM system.local` and of the same query on
`system.peers`. -/
def rpcAddressClause : SelectClause := ⟨some [.idSelector "rpc_address"]⟩

theorem handleInterceptedRequest_local_row_twoInetProxies :
    ∃ (reads : InterceptedReads twoInetProxiesConfig) (result : SystemResult SystemValue),
      handleInterceptedRequest (fun _ value => .ok value) id twoInetProxiesConfig.topologyConfig
        twoInetProxiesConfig.virtualizationEnabled 9042 reads.virtualHostsRead.state
        reads.systemPeersColumnNamesRead.state reads.systemLocalColumnDataRead.state
        (.intercepted .local (some rpcAddressClause) : RequestInfo Unit) = .ok (.result result) ∧
      ∃ hosts address host columns cells,
        reads.virtualHostsRead.state.orderedHostsInLocalDc = some hosts ∧
        twoInetProxiesConfig.topologyConfig.addresses[twoInetProxiesConfig.topologyConfig.index]? =
          some address ∧
        hosts[twoInetProxiesConfig.topologyConfig.index % hosts.length]? = some host ∧
        result = .rowsResult columns [cells] ∧ cells.length = columns.length ∧
        List.Forall₂ (EncodesAs fun _ value => .ok value) (columns.zip (systemPeerRow id
          rpcAddressClause columns none
          (columnDataLookup reads.systemLocalColumnDataRead.state.systemLocalColumnData) 9042 1
          ⟨(List.range twoInetProxiesConfig.topologyConfig.numTokens).map (virtualToken
            twoInetProxiesConfig.topologyConfig.numTokens
            twoInetProxiesConfig.topologyConfig.addresses.length
            twoInetProxiesConfig.topologyConfig.index), address, host.toHost⟩)) cells := by
  obtain ⟨system, reachable, virtualHosts, installed⟩ := twoInetProxies_installed
  obtain ⟨hosts, -, computed⟩ := computeVirtualHosts_of_installed reachable rfl installed
  obtain ⟨host, -, ownHost⟩ := getElem?_computeVirtualHosts computed
    (show twoInetProxiesConfig.topologyConfig.addresses[0]? = some [10, 0, 0, 1] from rfl)
  -- the three reads are of the one installed state
  let reads : InterceptedReads twoInetProxiesConfig := .atOnce system reachable
  obtain ⟨result, answered⟩ : ∃ result, handleInterceptedRequest
      (fun _ value => (.ok value : Except String SystemValue)) id
      twoInetProxiesConfig.topologyConfig twoInetProxiesConfig.virtualizationEnabled 9042
      reads.virtualHostsRead.state reads.systemPeersColumnNamesRead.state
      reads.systemLocalColumnDataRead.state
      (.intercepted .local (some rpcAddressClause) : RequestInfo Unit) = .ok (.result result) :=
    ⟨_, handleInterceptedRequest_local_eq_result.mpr ⟨virtualHosts, _, rfl, installed, ownHost, rfl⟩⟩
  exact ⟨reads, result, answered, handleInterceptedRequest_local_row answered⟩

theorem handleInterceptedRequest_peers_rows_twoInetProxies :
    ∃ (reads : InterceptedReads twoInetProxiesConfig) (result : SystemResult SystemValue),
      extractSelectClause (.selectors [⟨.identifier (.unquoted "rpc_address"), none⟩]) =
        .ok rpcAddressClause ∧
      hasCountSelector rpcAddressClause = false ∧
      handleInterceptedRequest (fun _ value => .ok value) id twoInetProxiesConfig.topologyConfig
        twoInetProxiesConfig.virtualizationEnabled 9042 reads.virtualHostsRead.state
        reads.systemPeersColumnNamesRead.state reads.systemLocalColumnDataRead.state
        (.intercepted .peersV1 (some rpcAddressClause) : RequestInfo Unit) =
        .ok (.result result) ∧
      ∃ hosts virtualHosts columns data,
        reads.virtualHostsRead.state.orderedHostsInLocalDc = some hosts ∧
        computeVirtualHosts twoInetProxiesConfig.topologyConfig hosts = .ok virtualHosts ∧
        result = .rowsResult columns data ∧
        List.Forall₂ (fun virtualHost cells => cells.length = columns.length ∧
            List.Forall₂ (EncodesAs fun _ value => .ok value) (columns.zip (systemPeerRow id
              rpcAddressClause columns reads.systemPeersColumnNamesRead.state.systemPeersColumnNames
              (columnDataLookup reads.systemLocalColumnDataRead.state.systemLocalColumnData) 9042
              ((twoInetProxiesConfig.topologyConfig.addresses.length : Int) - 1)
              virtualHost.toSystemHost)) cells)
          (virtualHosts.eraseIdx twoInetProxiesConfig.topologyConfig.index) data := by
  obtain ⟨system, reachable, virtualHosts, installed⟩ := twoInetProxies_installed
  obtain ⟨hosts, -, computed⟩ := computeVirtualHosts_of_installed reachable rfl installed
  -- one virtual host per proxy address, so that the peers loop can run
  obtain ⟨ownHost, otherHost, rfl⟩ := List.length_eq_two.mp (length_computeVirtualHosts computed)
  have extracted : extractSelectClause (.selectors [⟨.identifier (.unquoted "rpc_address"), none⟩]) =
      .ok rpcAddressClause := by
    have lowered : "rpc_address".toLower = "rpc_address" := by
      rw [← String.toList_inj, String.toLower, String.toList_map]
      decide
    simp only [extractSelectClause, extractSelectors, extractSelector, extractIdentifier, lowered]
    rfl
  -- the three reads are of the one installed state
  let reads : InterceptedReads twoInetProxiesConfig := .atOnce system reachable
  obtain ⟨result, answered⟩ : ∃ result, handleInterceptedRequest
      (fun _ value => (.ok value : Except String SystemValue)) id
      twoInetProxiesConfig.topologyConfig twoInetProxiesConfig.virtualizationEnabled 9042
      reads.virtualHostsRead.state reads.systemPeersColumnNamesRead.state
      reads.systemLocalColumnDataRead.state
      (.intercepted .peersV1 (some rpcAddressClause) : RequestInfo Unit) =
        .ok (.result result) :=
    ⟨_, handleInterceptedRequest_peers_eq_result.mpr ⟨_, rfl, installed, rfl⟩⟩
  exact ⟨reads, result, extracted, rfl, answered,
    handleInterceptedRequest_peers_rows extracted rfl answered⟩

end ZdmProxy.Control
