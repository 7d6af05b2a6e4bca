import ZdmProxy.Control.SystemPeers
import ZdmProxy.Conn.CqlConn
import ZdmProxy.Lib.Hex
import ZdmProxy.Lib.KeyedLists

/-!
# Hosts from the system tables

`RefreshHosts` reads the cluster's topology from two queries of the control connection:
`SELECT * FROM system.local`, whose row describes the node the connection is open to, and
`SELECT * FROM system.peers`, with one row per other node. `parseHost` reads a host from a row:
its datacenter, rack, tokens, host id and schema version, and the columns that the proxy's own
answers to system table queries take from it. A row without a datacenter, rack or host id is no
host. The address comes from `ParseRpcAddress`: the `rpc_address` column or, when that is
`0.0.0.0`, the `peer` or the `broadcast_address` column.

The values of a row are held as Go holds them in an `interface{}`. A type assertion on a value of
another type panics: the model returns a panic as the error of the outer `Except`, and the
errors that the Go functions return as the inner one.

`ParseSystemPeersResult` keys the hosts by host id, so of two rows with one host id the later one
wins, and it skips a row whose address or host does not parse (`parseSystemPeersResult_eq`).
Whether a host has one of the columns that the proxy's `system.peers` answers copy depends on the
row set only, not on the row (`exists_columnData`): every peer has the same columns. The
`listen_address` branch of `ParseRpcAddress` converts `bcastaddr`, the value the branch before it
found missing or null, so it yields no address, as in the source.
-/

namespace ZdmProxy.Control

open ZdmProxy.Routing ZdmProxy.Conn

/-! ## Host ids -/

/-- `uuid.UUID`: sixteen bytes. -/
structure HostUuid where
  bytes : List UInt8
  sixteen : bytes.length = 16
  deriving DecidableEq

/-- `uuid.UUID.String`: the hexadecimal text of the bytes in groups of 8, 4, 4, 4 and 12 digits
joined by `-`. -/
def HostUuid.string (id : HostUuid) : String :=
  String.ofList (Hex.encode (id.bytes.take 4) ++ '-' :: Hex.encode ((id.bytes.drop 4).take 2) ++
    '-' :: Hex.encode ((id.bytes.drop 6).take 2) ++ '-' :: Hex.encode ((id.bytes.drop 8).take 2) ++
    '-' :: Hex.encode (id.bytes.drop 10))

/-- The five groups of a host id's text make up its bytes. -/
theorem HostUuid.groups_eq (bytes : List UInt8) :
    bytes.take 4 ++ (bytes.drop 4).take 2 ++ (bytes.drop 6).take 2 ++ (bytes.drop 8).take 2 ++
      bytes.drop 10 = bytes := by
  simp only [List.append_assoc]
  have six : bytes.drop 6 = (bytes.drop 4).drop 2 := by simp [List.drop_drop]
  have eight : bytes.drop 8 = (bytes.drop 6).drop 2 := by simp [List.drop_drop]
  have ten : bytes.drop 10 = (bytes.drop 8).drop 2 := by simp [List.drop_drop]
  rw [ten, List.take_append_drop, eight, List.take_append_drop, six, List.take_append_drop,
    List.take_append_drop]

/-- Distinct host ids have distinct texts: without its dashes the text is the hexadecimal text of
the bytes. -/
theorem HostUuid.string_injective : Function.Injective HostUuid.string := by
  intro first second same
  have digits := congrArg (fun text : String => text.toList.filter (· != '-')) same
  simp only [HostUuid.string, String.toList_ofList, List.filter_append, List.filter_cons,
    Hex.filter_encode, bne_self_eq_false, Bool.false_eq_true, if_false, ← Hex.encode_append,
    HostUuid.groups_eq] at digits
  obtain ⟨firstBytes, _⟩ := first
  obtain ⟨secondBytes, _⟩ := second
  congr
  exact Hex.encode_injective digits

/-! ## Rows -/

/-- `ParsedRow`: the values of a row and the columns of its row set. The rows of a parsed row
set have one value per column (`decodeRows`). -/
structure ParsedRow where
  columns : List (ColumnMetadata CqlType)
  values : List SystemValue

/-- The rows of a row set of the system tables. -/
def parsedRows (rs : ParsedRowSet (ColumnMetadata CqlType) SystemValue) : List ParsedRow :=
  rs.rows.map fun values => ⟨rs.columns, values⟩

/-- The index that `ColumnIndexes` maps a column name to. `ParseRowsResult` fills the map in
column order, so a name of two columns maps to the later one. -/
def columnIndex (columns : List (ColumnMetadata CqlType)) (name : String) : Option Nat :=
  columns.zipIdx.foldl (fun found column => if column.1.name == name then some column.2 else found)
    none

/-- `ParsedRow.GetByColumn`: the value of the column and whether the row set has it. -/
def ParsedRow.getByColumn (row : ParsedRow) (column : String) : SystemValue × Bool :=
  match columnIndex row.columns column with
  | none => (.null, false)
  | some colIdx => (row.values[colIdx]?.getD .null, true)

/-- Whether the row set has a column depends on its columns only. -/
theorem found_getByColumn (row : ParsedRow) (column : String) :
    (row.getByColumn column).2 = (columnIndex row.columns column).isSome := by
  unfold ParsedRow.getByColumn
  split <;> simp_all

/-- A value other than null comes from a column the row set has. -/
theorem found_of_getByColumn_ne_null {row : ParsedRow} {column : String}
    (present : (row.getByColumn column).1 ≠ .null) : (row.getByColumn column).2 = true := by
  unfold ParsedRow.getByColumn at *
  split
  · simp_all
  · rfl

/-- The rows of a row set have its columns. -/
theorem columns_of_mem_parsedRows {rs : ParsedRowSet (ColumnMetadata CqlType) SystemValue}
    {row : ParsedRow} (inside : row ∈ parsedRows rs) : row.columns = rs.columns := by
  obtain ⟨values, _, rfl⟩ := List.mem_map.mp inside
  rfl

/-- A string value, as the assertion `val.(string)` reads it. -/
def SystemValue.asText : SystemValue → Option String
  | .text value => some value
  | _ => none

/-- An `int32` value. -/
def SystemValue.asInt : SystemValue → Option Int
  | .int value => some value
  | _ => none

/-- An `int64` value. -/
def SystemValue.asBigInt : SystemValue → Option Int
  | .bigint value => some value
  | _ => none

/-- A `bool` value. -/
def SystemValue.asBool : SystemValue → Option Bool
  | .bool value => some value
  | _ => none

/-- A set of strings. -/
def SystemValue.asTextSet : SystemValue → Option (List String)
  | .textSet values => some values
  | _ => none

/-- A `net.IP`, as the comma-ok assertion `ip, _ := val.(net.IP)` reads it. -/
def SystemValue.asInet : SystemValue → Option (List UInt8)
  | .inet address => some address
  | _ => none

/-- The common shape of `parseNillableString`, `parseNillableInt`, `parseNillableBigInt`,
`parseNillableBool` and `parseNillableStringSlice`: a missing column or a null is no value, with
whether the row set has the column; any other value must have the asserted type, or the
assertion panics. -/
def parseNillable {α : Type} (typeName : String) (cast : SystemValue → Option α) (row : ParsedRow)
    (column : String) : Except String (Option α × Bool) :=
  match row.getByColumn column with
  | (.null, found) => pure (none, found)
  | (val, _) =>
      match cast val with
      | some output => pure (some output, true)
      | none => throw s!"interface conversion: interface is not {typeName}"

/-- A `parseNillable` function that succeeds reports whether the row set has the column. -/
theorem found_of_parseNillable {α : Type} {typeName : String} {cast : SystemValue → Option α}
    {row : ParsedRow} {column : String} {result : Option α × Bool}
    (parsed : parseNillable typeName cast row column = .ok result) :
    result.2 = (row.getByColumn column).2 := by
  unfold parseNillable at parsed
  split at parsed
  · rename_i found' fetched
    cases parsed
    rw [fetched]
  · rename_i val found' notNull fetched
    have present : (row.getByColumn column).1 ≠ .null := by
      rw [fetched]
      intro isNull
      exact notNull isNull
    split at parsed
    · cases parsed
      exact (found_of_getByColumn_ne_null present).symm
    · cases parsed

/-- `parseNillableString`. -/
def parseNillableString (row : ParsedRow) (column : String) : Except String (Option String × Bool) :=
  parseNillable "string" SystemValue.asText row column

/-- `parseNillableInt`. -/
def parseNillableInt (row : ParsedRow) (column : String) : Except String (Option Int × Bool) :=
  parseNillable "int32" SystemValue.asInt row column

/-- `parseNillableBigInt`. -/
def parseNillableBigInt (row : ParsedRow) (column : String) : Except String (Option Int × Bool) :=
  parseNillable "int64" SystemValue.asBigInt row column

/-- `parseNillableBool`. -/
def parseNillableBool (row : ParsedRow) (column : String) : Except String (Option Bool × Bool) :=
  parseNillable "bool" SystemValue.asBool row column

/-- `parseNillableStringSlice`. -/
def parseNillableStringSlice (row : ParsedRow) (column : String) :
    Except String (Option (List String) × Bool) :=
  parseNillable "[]*string" SystemValue.asTextSet row column

/-- `parseString`: a Go error for a missing column or a null. -/
def parseString (row : ParsedRow) (column : String) : Except String (Except String String) := do
  let (val, found) ← parseNillableString row column
  if !found then return .error s!"could not find column {column}"
  match val with
  | none => return .error s!"column {column} is nil"
  | some output => return .ok output

/-- `parseNillableUuid`: a value that is not a UUID is a Go error, not a panic; the
conversion of sixteen bytes by `uuid.FromBytes` cannot fail. -/
def parseNillableUuid (row : ParsedRow) (column : String) : Except String (Option HostUuid × Bool) :=
  match row.getByColumn column with
  | (.null, found) => .ok (none, found)
  | (.uuid bytes, _) =>
      if sixteen : bytes.length = 16 then .ok (some ⟨bytes, sixteen⟩, true)
      else .error s!"could not convert {column} from primitive.UUID to uuid.UUID"
  | _ => .error s!"could not convert {column} to primitive.UUID"

/-- `parseAddress`: the address in the column, if the row set has it and it is an address. -/
def parseAddress (row : ParsedRow) (columnName : String) : Option (List UInt8) :=
  match row.getByColumn columnName with
  | (val, true) => val.asInet
  | (_, false) => none

/-- `parseRpcAddressLocalOrPeersV1`. -/
def parseRpcAddressLocalOrPeersV1 (row : ParsedRow) : Option (List UInt8) :=
  parseAddress row "rpc_address"

/-- `parseRpcAddressPeersV2`. -/
def parseRpcAddressPeersV2 (row : ParsedRow) : Option (List UInt8) :=
  parseAddress row "native_address"

/-- `parseRpcPortPeersV2`: a value that is not an `int32` gives port 0 and `false`. -/
def parseRpcPortPeersV2 (row : ParsedRow) : Int × Bool :=
  match row.getByColumn "native_port" with
  | (val, true) =>
      if val = .null then (-1, false)
      else match val.asInt with
        | some port => (port, true)
        | none => (0, false)
  | (_, false) => (-1, false)

/-- `net.IP.IsUnspecified`: `0.0.0.0`, in four bytes or mapped into sixteen, or `::`. -/
def isUnspecified (ip : List UInt8) : Bool :=
  ip == [0, 0, 0, 0] || ip == List.replicate 16 0 ||
    ip == List.replicate 10 0 ++ [255, 255, 0, 0, 0, 0]

/-- The `addr.IsUnspecified()` block of `ParseRpcAddress`: the `peer` column in `system.peers`,
the `broadcast_address` column in `system.local`. The `listen_address` branch converts
`bcastaddr` as the source does. -/
def unspecifiedAddress (row : ParsedRow) : Except String (Option (List UInt8)) :=
  let (peer, peerExists) := row.getByColumn "peer"
  if peerExists && peer != .null then pure peer.asInet
  else
    let (bcastaddr, bcastaddrExists) := row.getByColumn "broadcast_address"
    if bcastaddrExists && bcastaddr != .null then pure bcastaddr.asInet
    else
      let (listenAddr, listenAddrExists) := row.getByColumn "listen_address"
      if listenAddrExists && listenAddr != .null then pure bcastaddr.asInet
      else throw ("found host with 0.0.0.0 as rpc_address and nulls as listen_address and " ++
        "broadcast_address; because of this, the proxy can not connect to this node")

/-- `ParseRpcAddress`: the host's address, if any, and its port. -/
def parseRpcAddress (isPeersV2 : Bool) (row : ParsedRow) (defaultPort : Int) :
    Except String (Option (List UInt8) × Int) := do
  let addr := if isPeersV2 then parseRpcAddressPeersV2 row else parseRpcAddressLocalOrPeersV1 row
  match addr with
  | none => pure (none, -1)
  | some ip =>
      let address ← if isUnspecified ip then unspecifiedAddress row else pure (some ip)
      let rpcPort := if isPeersV2 then
          match parseRpcPortPeersV2 row with
          | (val, true) => val
          | (_, false) => defaultPort
        else defaultPort
      pure (address, rpcPort)

/-! ## Hosts -/

/-- `Host`, as `parseHost` builds it; the fields that the system tables read are those of
`Host`. -/
structure TopologyHost extends Host where
  address : Option (List UInt8)
  port : Int
  hostId : HostUuid
  rack : String
  tokens : List String

/-- `NewOptionalColumn` on what a `parseNillable` function returned. -/
def optionalColumn {α : Type} (toValue : α → SystemValue) : Option α × Bool → OptionalColumn
  | (value, found) => ⟨(value.map toValue).getD .null, found⟩

/-- The `columnData` map of `parseHost`. -/
def hostColumnData (row : ParsedRow) : Except String (List (String × OptionalColumn)) := do
  let releaseVersion ← parseNillableString row "release_version"
  let dseVersion ← parseNillableString row "dse_version"
  let graph ← parseNillableBool row "graph"
  let jmxPort ← parseNillableInt row "jmx_port"
  let serverId ← parseNillableString row "server_id"
  let storagePort ← parseNillableInt row "storage_port"
  let storagePortSsl ← parseNillableInt row "storage_port_ssl"
  let workload ← parseNillableString row "workload"
  let workloads ← parseNillableStringSlice row "workloads"
  let nativeTransportPort ← parseNillableInt row "native_transport_port"
  let nativeTransportPortSsl ← parseNillableInt row "native_transport_port_ssl"
  pure [
    ("release_version", optionalColumn .text releaseVersion),
    ("dse_version", optionalColumn .text dseVersion),
    ("graph", optionalColumn .bool graph),
    ("jmx_port", optionalColumn .int jmxPort),
    ("server_id", optionalColumn .text serverId),
    ("storage_port", optionalColumn .int storagePort),
    ("storage_port_ssl", optionalColumn .int storagePortSsl),
    ("workload", optionalColumn .text workload),
    ("workloads", optionalColumn .textSet workloads),
    ("native_transport_address", ⟨(row.getByColumn "native_transport_address").1,
      (row.getByColumn "native_transport_address").2⟩),
    ("native_transport_port", optionalColumn .int nativeTransportPort),
    ("native_transport_port_ssl", optionalColumn .int nativeTransportPortSsl),
    ("preferred_ip", ⟨(row.getByColumn "preferred_ip").1, (row.getByColumn "preferred_ip").2⟩)]

/-- The columns of `parseHost`'s column data, in the order of the source. -/
def hostColumnNames : List String :=
  ["release_version", "dse_version", "graph", "jmx_port", "server_id", "storage_port",
    "storage_port_ssl", "workload", "workloads", "native_transport_address",
    "native_transport_port", "native_transport_port_ssl", "preferred_ip"]

@[simp] theorem exists_optionalColumn {α : Type} (toValue : α → SystemValue)
    (parsed : Option α × Bool) :
    (optionalColumn toValue parsed).exists = parsed.2 := by
  obtain ⟨value, found⟩ := parsed
  rfl

/-- The column data has the host columns, each marked present when the row set has it. -/
theorem exists_hostColumnData {row : ParsedRow} {columnData : List (String × OptionalColumn)}
    (parsed : hostColumnData row = .ok columnData) :
    columnData.map (fun entry => (entry.1, entry.2.exists)) =
      hostColumnNames.map fun name => (name, (row.getByColumn name).2) := by
  simp only [hostColumnData, ExceptMap.bind_eq_ok_iff] at parsed
  obtain ⟨releaseVersion, releaseVersionParsed, dseVersion, dseVersionParsed, graph, graphParsed,
    jmxPort, jmxPortParsed, serverId, serverIdParsed, storagePort, storagePortParsed,
    storagePortSsl, storagePortSslParsed, workload, workloadParsed, workloads, workloadsParsed,
    nativeTransportPort, nativeTransportPortParsed, nativeTransportPortSsl,
    nativeTransportPortSslParsed, built⟩ := parsed
  cases built
  simp only [List.map_cons, List.map_nil, hostColumnNames, exists_optionalColumn,
    found_of_parseNillable releaseVersionParsed, found_of_parseNillable dseVersionParsed,
    found_of_parseNillable graphParsed, found_of_parseNillable jmxPortParsed,
    found_of_parseNillable serverIdParsed, found_of_parseNillable storagePortParsed,
    found_of_parseNillable storagePortSslParsed, found_of_parseNillable workloadParsed,
    found_of_parseNillable workloadsParsed, found_of_parseNillable nativeTransportPortParsed,
    found_of_parseNillable nativeTransportPortSslParsed]

/-- `parseHost`: the outer error is a panic, the inner one the Go error. The Go error texts
leave out the address. -/
def parseHost (addr : Option (List UInt8)) (port : Int) (row : ParsedRow) :
    Except String (Except String TopologyHost) := do
  match ← parseString row "data_center" with
  | .error err => return .error s!"could not parse data_center of host: {err}"
  | .ok datacenter =>
  match ← parseString row "rack" with
  | .error err => return .error s!"could not parse rack of host: {err}"
  | .ok rack =>
  let (tokens, _) ← parseNillableStringSlice row "tokens"
  match parseNillableUuid row "host_id" with
  | .error err => return .error s!"could not parse host_id for host: {err}"
  | .ok (none, _) => return .error "host_id for host is nil"
  | .ok (some hostId, _) =>
  let schemaId := match parseNillableUuid row "schema_version" with
    | .ok (some schemaId, _) => some schemaId.bytes
    | _ => none
  let columnData ← hostColumnData row
  return .ok {
    datacenter, schemaVersion := schemaId, columnData := fun name => columnData.lookup name,
    address := addr, port, hostId, rack, tokens := tokens.getD [] }

theorem parseHost_columnData {addr : Option (List UInt8)} {port : Int} {row : ParsedRow}
    {host : TopologyHost} (parsed : parseHost addr port row = .ok (.ok host)) :
    ∃ columnData, hostColumnData row = .ok columnData ∧
      host.columnData = fun name => columnData.lookup name := by
  simp only [parseHost, ExceptMap.bind_eq_ok_iff] at parsed
  obtain ⟨datacenter, _, parsed⟩ := parsed
  split at parsed
  · cases parsed
  rw [ExceptMap.bind_eq_ok_iff] at parsed
  obtain ⟨rack, _, parsed⟩ := parsed
  split at parsed
  · cases parsed
  rw [ExceptMap.bind_eq_ok_iff] at parsed
  obtain ⟨tokens, _, parsed⟩ := parsed
  split at parsed
  · cases parsed
  · cases parsed
  rw [ExceptMap.bind_eq_ok_iff] at parsed
  obtain ⟨columnData, parsedData, built⟩ := parsed
  cases built
  exact ⟨columnData, parsedData, rfl⟩

/-- A host parsed from a row has a column exactly when it is a host column that the row set has. -/
theorem exists_columnData {addr : Option (List UInt8)} {port : Int} {row : ParsedRow}
    {host : TopologyHost} (parsed : parseHost addr port row = .ok (.ok host)) (name : String) :
    (host.columnData name).any OptionalColumn.exists =
      (decide (name ∈ hostColumnNames) && (columnIndex row.columns name).isSome) := by
  obtain ⟨columnData, parsedData, same⟩ := parseHost_columnData parsed
  rw [same, KeyedLists.any_lookup, exists_hostColumnData parsedData, KeyedLists.lookup_graph_getD,
    found_getByColumn]

/-! ## The system tables -/

/-- Go's `map[uuid.UUID]*Host`. -/
abbrev HostsById := AList fun _ : HostUuid => TopologyHost

/-- One row of `ParseSystemPeersResult`: the host it reads, or none for a row it skips because
its address or its host does not parse. -/
def peerHost (isPeersV2 : Bool) (defaultPort : Int) (row : ParsedRow) :
    Except String (Option TopologyHost) :=
  match parseRpcAddress isPeersV2 row defaultPort with
  | .error _ => pure none
  | .ok (addr, port) => do
      match ← parseHost addr port row with
      | .error _ => pure none
      | .ok host => pure (some host)

/-- A row that gives a peer host has an address and parses to that host. -/
theorem peerHost_eq_some {isPeersV2 : Bool} {defaultPort : Int} {row : ParsedRow}
    {host : TopologyHost} (found : peerHost isPeersV2 defaultPort row = .ok (some host)) :
    ∃ addr port, parseRpcAddress isPeersV2 row defaultPort = .ok (addr, port) ∧
      parseHost addr port row = .ok (.ok host) := by
  unfold peerHost at found
  split at found
  · cases found
  · rename_i addr port parsedAddress
    rw [ExceptMap.bind_eq_ok_iff] at found
    obtain ⟨parsedHost, parsed, found⟩ := found
    split at found
    · cases found
    · cases found
      exact ⟨addr, port, parsedAddress, parsed⟩

/-- `ParseSystemPeersResult`: the hosts of the rows by host id. -/
def parseSystemPeersResult (rs : ParsedRowSet (ColumnMetadata CqlType) SystemValue)
    (defaultPort : Int) (isPeersV2 : Bool) : Except String HostsById :=
  (parsedRows rs).foldlM (fun hosts row => do
      match ← peerHost isPeersV2 defaultPort row with
      | none => pure hosts
      | some host => pure (hosts.insert host.hostId host)) ∅

/-- `ParseSystemPeersResult` inserts the hosts of the rows it does not skip, in row order. -/
theorem parseSystemPeersResult_eq (rs : ParsedRowSet (ColumnMetadata CqlType) SystemValue)
    (defaultPort : Int) (isPeersV2 : Bool) :
    parseSystemPeersResult rs defaultPort isPeersV2 =
      ((parsedRows rs).mapM (peerHost isPeersV2 defaultPort)).map fun found =>
        KeyedLists.insertAll TopologyHost.hostId ∅ found.reduceOption := by
  unfold parseSystemPeersResult
  generalize (∅ : HostsById) = hosts
  induction parsedRows rs generalizing hosts with
  | nil => rfl
  | cons row rest ih =>
    rw [List.foldlM_cons, List.mapM_cons]
    cases peerHost isPeersV2 defaultPort row with
    | error err => rfl
    | ok found =>
      -- the rest of the loop starts from the map this row leaves
      have rest_eq := ih (found.elim hosts fun host => hosts.insert host.hostId host)
      cases restMapped : rest.mapM (peerHost isPeersV2 defaultPort) with
      | error err =>
        rw [restMapped] at rest_eq
        cases found <;> exact rest_eq
      | ok others =>
        rw [restMapped] at rest_eq
        cases found <;> exact rest_eq

/-- The peers are stored under their host ids. -/
theorem keyed_parseSystemPeersResult {rs : ParsedRowSet (ColumnMetadata CqlType) SystemValue}
    {defaultPort : Int} {isPeersV2 : Bool} {hosts : HostsById}
    (parsed : parseSystemPeersResult rs defaultPort isPeersV2 = .ok hosts) :
    KeyedLists.Keyed TopologyHost.hostId hosts := by
  rw [parseSystemPeersResult_eq, ExceptMap.map_eq_ok_iff] at parsed
  obtain ⟨found, _, rfl⟩ := parsed
  exact (KeyedLists.keyed_empty _).insertAll _ _

/-- Every peer is the host of a row of the row set. -/
theorem parseHost_of_mem_parseSystemPeersResult
    {rs : ParsedRowSet (ColumnMetadata CqlType) SystemValue} {defaultPort : Int} {isPeersV2 : Bool}
    {hosts : HostsById} (parsed : parseSystemPeersResult rs defaultPort isPeersV2 = .ok hosts)
    {host : TopologyHost} (inside : host ∈ hosts.entries.map Sigma.snd) :
    ∃ row ∈ parsedRows rs, ∃ addr port, parseHost addr port row = .ok (.ok host) := by
  rw [parseSystemPeersResult_eq, ExceptMap.map_eq_ok_iff] at parsed
  obtain ⟨found, mapped, rfl⟩ := parsed
  obtain ⟨entry, stored, rfl⟩ := List.mem_map.mp inside
  have inserted := List.reduceOption_mem_iff.mp (KeyedLists.mem_of_mem_insertAll _ stored)
  obtain ⟨row, present, fromRow⟩ :=
    ExceptMap.exists_mem_of_forall₂ (ExceptMap.mapM_eq_ok_iff.mp mapped) inserted
  obtain ⟨addr, port, _, parsedHost⟩ := peerHost_eq_some fromRow
  exact ⟨row, present, addr, port, parsedHost⟩

/-- The `sysLocalCols` map of `ParseSystemLocalResult`. -/
def systemLocalColumnData (row : ParsedRow) : Except String (List (String × OptionalColumn)) := do
  let key ← parseNillableString row "key"
  let bootstrapped ← parseNillableString row "bootstrapped"
  let cqlVersion ← parseNillableString row "cql_version"
  let gossipGeneration ← parseNillableInt row "gossip_generation"
  let lastNodesyncCheckpointTime ← parseNillableBigInt row "last_nodesync_checkpoint_time"
  let nativeProtocolVersion ← parseNillableString row "native_protocol_version"
  let partitioner ← parseNillableString row "partitioner"
  let thriftVersion ← parseNillableString row "thrift_version"
  let clusterName ← parseNillableString row "cluster_name"
  pure [
    ("key", optionalColumn .text key),
    ("bootstrapped", optionalColumn .text bootstrapped),
    ("cql_version", optionalColumn .text cqlVersion),
    ("gossip_generation", optionalColumn .int gossipGeneration),
    ("last_nodesync_checkpoint_time", optionalColumn .bigint lastNodesyncCheckpointTime),
    ("native_protocol_version", optionalColumn .text nativeProtocolVersion),
    ("partitioner", optionalColumn .text partitioner),
    ("thrift_version", optionalColumn .text thriftVersion),
    ("cluster_name", optionalColumn .text clusterName)]

/-- `ParseSystemLocalResult`, with `ParseEndpoint` of the control connection's endpoint as an
input. The address of the first row falls back to the endpoint when `ParseRpcAddress` gives no
address, also when it fails, since its error is overwritten. -/
def parseSystemLocalResult (rs : ParsedRowSet (ColumnMetadata CqlType) SystemValue)
    (ccEndpoint : Except String (Option (List UInt8) × Int)) (defaultPort : Int) :
    Except String (Except String (List (String × OptionalColumn) × TopologyHost)) := do
  match parsedRows rs with
  | [] => return .error "could not parse system local query result: query returned 0 rows"
  | row :: _ =>
  let address : Except String (Option (List UInt8) × Int) :=
    match parseRpcAddress false row defaultPort with
    | .ok (some addr, port) => .ok (some addr, port)
    | _ => ccEndpoint
  match address with
  | .error err => return .error err
  | .ok (addr, port) =>
  match ← parseHost addr port row with
  | .error err => return .error err
  | .ok host =>
  let sysLocalCols ← systemLocalColumnData row
  return .ok (sysLocalCols, host)

end ZdmProxy.Control
