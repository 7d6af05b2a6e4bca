import ZdmProxy.Control.VirtualHosts
import ZdmProxy.Routing.RequestInfo
import ZdmProxy.Lib.ExceptMap

/-!
# The virtual `system.peers` table

A client that reads `system.peers` through the proxy gets one row per proxy instance other than
the one it is connected to: `NewSystemPeersResult` (`nativeprotocol.go`) builds the result from
the virtual hosts, for the select clause the query inspector extracted.

`filterSystemColumns` gives the result columns: every column of `system.peers` for a star
select, else one per selector. The loop then fills one row per virtual host, skipping the local
one unless it is the only host, and stops after the first row when a selector is `count(*)`. For
each column, `addSystemColumnValue` looks up the host's value: the proxy's own address and
port, fixed values, the row count, or the column data of the real host behind the virtual one
(`systemColumnSource`); `addColumnHelper` adds it to the row. The first host fixes the result
columns: for a star select, a column the host does not have is left out. A later host must give
its values in the same positions: a column it does not have is skipped, so that the next column
no longer matches and the result fails, unless it was the last. Finally the rows are dropped when
the local host was the only one, and `EncodeRowsResult` encodes each row, leaving null the cells a
short row does not reach.

The main result (`newSystemPeersResult_one_row_per_peer`): when the result succeeds without a
prepare request, it has one row per virtual host other than the local one, each cell the
encoding of that host's value for the column (`systemPeerRow`), or a single row holding the
count `n - 1` when a selector is `count(*)`.

The model leaves out the keyspace and table of the column metadata and the protocol version,
which only the encoding reads; the encoding is a parameter, and so is the name-based UUID that
`computeVirtualHosts` gives each proxy address as its host id.
-/

namespace ZdmProxy.Control

open ZdmProxy.Cql ZdmProxy.Routing

/-- The CQL types of the system tables' columns (`datatype`). -/
inductive CqlType where
  | inet
  | varchar
  | boolean
  | uuid
  | int
  | bigint
  | blob
  | set (element : CqlType)
  | map (key value : CqlType)
  deriving DecidableEq, Repr

/-- A cell value of a system table as the Go code holds it, in an `interface{}`: `int` is an
`int32` and `bigint` an `int64`, which type assertions tell apart; `null` is `nil`, and a nil
pointer is converted to it (`convertNullableToValue`). -/
inductive SystemValue where
  | null
  | inet (address : List UInt8)
  | text (value : String)
  | uuid (value : List UInt8)
  | int (value : Int)
  | bigint (value : Int)
  | bool (value : Bool)
  | textSet (values : List String)
  deriving DecidableEq, Repr

/-- `optionalColumn`: a column's value in a host's row, and whether the row had the column. -/
structure OptionalColumn where
  column : SystemValue
  «exists» : Bool
  deriving DecidableEq, Repr

/-- The fields of `Host` that the system tables read: the datacenter, the schema version and
the column data of the host's own row. -/
structure Host where
  datacenter : String
  schemaVersion : Option (List UInt8)
  columnData : String → Option OptionalColumn

/-- `ProxyVirtualRack`, the rack of every virtual host. -/
def proxyVirtualRack : String := "rack0"

/-- `ProxyVirtualPartitioner`, the partitioner of every virtual host. -/
def proxyVirtualPartitioner : String := "org.apache.cassandra.dht.Murmur3Partitioner"

/-- `systemPeersColumns`: the columns of `system.peers`, as DSE 6.8 has them. -/
def systemPeersColumns : List (ColumnMetadata CqlType) :=
  [⟨"peer", .inet⟩, ⟨"data_center", .varchar⟩, ⟨"dse_version", .varchar⟩,
    ⟨"graph", .boolean⟩, ⟨"host_id", .uuid⟩, ⟨"jmx_port", .int⟩,
    ⟨"native_transport_address", .inet⟩, ⟨"native_transport_port", .int⟩,
    ⟨"native_transport_port_ssl", .int⟩, ⟨"preferred_ip", .inet⟩, ⟨"rack", .varchar⟩,
    ⟨"release_version", .varchar⟩, ⟨"rpc_address", .inet⟩, ⟨"schema_version", .uuid⟩,
    ⟨"server_id", .varchar⟩, ⟨"storage_port", .int⟩, ⟨"storage_port_ssl", .int⟩,
    ⟨"tokens", .set .varchar⟩, ⟨"workload", .varchar⟩, ⟨"workloads", .set .varchar⟩]

/-! ## Column values -/

/-- What `addSystemColumnValue` finds for a column of a virtual host. -/
inductive ColumnSource where
  /-- A value, to add through `addColumnHelper`, and whether the host's row has the column. -/
  | column (colExists : Bool) (value : SystemValue)
  /-- The host's row has the column, but the origin's `system.peers` has not. -/
  | notPeersColumn
  /-- No value at all. -/
  | missing
  deriving DecidableEq, Repr

/-- The value a source adds to the row, if it adds one. -/
def ColumnSource.value? : ColumnSource → Option SystemValue
  | .column true value => some value
  | _ => none

/-- The first switch of `addSystemColumnValue`: the columns every virtual host has. -/
def fixedColumnValue (hostIdOf : List UInt8 → List UInt8) (unaliasedColumnName : String)
    (virtualHost : VirtualHost Host (List UInt8)) : Option SystemValue :=
  match unaliasedColumnName with
  | "peer" | "broadcast_address" | "listen_address" | "rpc_address" | "preferred_ip" =>
      some (.inet virtualHost.addr)
  | "data_center" => some (.text virtualHost.host.datacenter)
  | "host_id" => some (.uuid (hostIdOf virtualHost.addr))
  | "rack" => some (.text proxyVirtualRack)
  | "tokens" => some (.textSet (virtualHost.tokens.map toString))
  | "truncated_at" => some .null
  | "partitioner" => some (.text proxyVirtualPartitioner)
  | "schema_version" =>
      match virtualHost.host.schemaVersion with
      | none => some .null
      | some schemaId => some (.uuid schemaId)
  | _ => none

/-- The name is `count` in any case (`strings.ToLower`; a name that lowers to `count` is ASCII). -/
def isCountName (unaliasedColumnName : String) : Bool :=
  unaliasedColumnName.toList.map Char.toLower == "count".toList

/-- A column of the real host's row; the proxy's own address and port replace the native
transport ones. -/
def columnDataSource (unaliasedColumnName : String) (optionalCol : OptionalColumn)
    (virtualHost : VirtualHost Host (List UInt8)) (proxyPort : Int) : ColumnSource :=
  match unaliasedColumnName with
  | "native_transport_address" => .column optionalCol.exists (.inet virtualHost.addr)
  | "native_transport_port" | "native_transport_port_ssl" =>
      .column optionalCol.exists (.int proxyPort)
  | _ => .column optionalCol.exists optionalCol.column

/-- The value `addSystemColumnValue` looks up for a column of a virtual host: a fixed column,
the row count, or the real host's column data; `system.local` columns are read only when there
is no list of peer columns. -/
def systemColumnSource (hostIdOf : List UInt8 → List UInt8) (unaliasedColumnName : String)
    (peersColumns : Option (String → Bool))
    (systemLocalColumnData : String → Option OptionalColumn)
    (virtualHost : VirtualHost Host (List UInt8)) (proxyPort rowCount : Int) : ColumnSource :=
  match fixedColumnValue hostIdOf unaliasedColumnName virtualHost with
  | some value => .column true value
  | none =>
      if isCountName unaliasedColumnName then .column true (.int rowCount)
      else
        match virtualHost.host.columnData unaliasedColumnName with
        | some optionalCol =>
            match peersColumns with
            | some isPeersColumn =>
                if !isPeersColumn unaliasedColumnName then .notPeersColumn
                else columnDataSource unaliasedColumnName optionalCol virtualHost proxyPort
            | none => columnDataSource unaliasedColumnName optionalCol virtualHost proxyPort
        | none =>
            match peersColumns with
            | none =>
                match systemLocalColumnData unaliasedColumnName with
                | some optionalCol => .column optionalCol.exists optionalCol.column
                | none => .missing
            | some _ => .missing

/-- `addColumnHelper`: the row and the result columns after one column. The first host appends
the column to the result columns; a later host must find the same column at the row's next
position. A value the host's row does not have is skipped for a star select, and an error
otherwise. -/
def addColumnHelper (isStarSelector first : Bool) (newRow : List SystemValue)
    (resultColumnMetadata : List (ColumnMetadata CqlType))
    (newColumnMetadata : ColumnMetadata CqlType) (colExists : Bool)
    (newColumnValue : SystemValue) :
    Except String (List SystemValue × List (ColumnMetadata CqlType)) :=
  let name := newColumnMetadata.name
  if first then
    if colExists then .ok (newRow ++ [newColumnValue], resultColumnMetadata ++ [newColumnMetadata])
    else if !isStarSelector then .error s!"could not find value for column {name}"
    else .ok (newRow, resultColumnMetadata)
  else
    let newColumnValueIndex := newRow.length
    match resultColumnMetadata[newColumnValueIndex]? with
    | none =>
        let length := resultColumnMetadata.length
        .error s!"column length mismatch between hosts: resultColumnMetadata.len={length} newColumnValueIndex={newColumnValueIndex} name={name}"
    | some columnInResultMetadata =>
        if columnInResultMetadata.name ≠ name then
          let inResult := columnInResultMetadata.name
          .error s!"column metadata mismatch between hosts: columnInResultMetadata={inResult} newColumnMetadata={name}"
        else if colExists then .ok (newRow ++ [newColumnValue], resultColumnMetadata)
        else if !isStarSelector then .error s!"could not find value for column {name}"
        else .ok (newRow, resultColumnMetadata)

/-- What `addSystemColumnValue` does with the value it found: add it, skip a column that is not
a peers column for a star select, or fail. -/
def addSourceValue (isStarSelector first : Bool) (row : List SystemValue)
    (columns : List (ColumnMetadata CqlType)) (col : ColumnMetadata CqlType)
    (unaliasedColumnName : String) :
    ColumnSource → Except String (List SystemValue × List (ColumnMetadata CqlType))
  | .column colExists value => addColumnHelper isStarSelector first row columns col colExists value
  | .notPeersColumn =>
      if isStarSelector then .ok (row, columns)
      else .error s!"no peer column value for {unaliasedColumnName}"
  | .missing => .error s!"no column value for {unaliasedColumnName}"

/-- `addSystemColumnValue`. -/
def addSystemColumnValue (hostIdOf : List UInt8 → List UInt8) (isStarSelector first : Bool)
    (row : List SystemValue) (columns : List (ColumnMetadata CqlType))
    (col : ColumnMetadata CqlType) (unaliasedColumnName : String)
    (peersColumns : Option (String → Bool))
    (systemLocalColumnData : String → Option OptionalColumn)
    (virtualHost : VirtualHost Host (List UInt8)) (proxyPort rowCount : Int) :
    Except String (List SystemValue × List (ColumnMetadata CqlType)) :=
  addSourceValue isStarSelector first row columns col unaliasedColumnName
    (systemColumnSource hostIdOf unaliasedColumnName peersColumns systemLocalColumnData
      virtualHost proxyPort rowCount)

/-- The loop of `getFilteredSystemValues` over the columns, each with the name its value is looked
up by, for a source of values. -/
def addColumnValues (isStarSelector first : Bool) (source : String → ColumnSource) :
    List (ColumnMetadata CqlType × String) → List SystemValue × List (ColumnMetadata CqlType) →
      Except String (List SystemValue × List (ColumnMetadata CqlType))
  | [], acc => .ok acc
  | (col, name) :: rest, (row, columns) =>
      match addSourceValue isStarSelector first row columns col name (source name) with
      | .error err => .error err
      | .ok acc => addColumnValues isStarSelector first source rest acc

/-- `selector.Name()`: an aliased selector is named by its alias. -/
def selectorName : Selector → String
  | .countSelector name => name
  | .idSelector name => name
  | .aliasedSelector _ aliasName => aliasName

/-- `unaliasedColumnNameFromSelector`. -/
def unaliasedColumnNameFromSelector : Selector → String
  | .countSelector name => name
  | .idSelector name => name
  | .aliasedSelector selector _ => selectorName selector

/-- `getFilteredSystemValues`: one host's row, and the result columns, which the first host
fills. A star select looks each column up by its own name, a list of selectors by the
selector's unaliased name. -/
def getFilteredSystemValues (hostIdOf : List UInt8 → List UInt8) (table : String)
    (parsedSelectClause : SelectClause) (first : Bool)
    (columns resultColumns : List (ColumnMetadata CqlType))
    (peerColumnNames : Option (String → Bool))
    (systemLocalColumnData : String → Option OptionalColumn)
    (virtualHost : VirtualHost Host (List UInt8)) (proxyPort rowCount : Int) :
    Except String (List SystemValue × List (ColumnMetadata CqlType)) :=
  let source (name : String) :=
    systemColumnSource hostIdOf name peerColumnNames systemLocalColumnData virtualHost proxyPort
      rowCount
  let wrap (result : Except String (List SystemValue × List (ColumnMetadata CqlType))) :=
    match result with
    | .error err => .error s!"errors adding columns for system {table} result: {err}"
    | .ok acc => .ok acc
  match parsedSelectClause.selectors with
  | none => wrap (addColumnValues true first source
      (resultColumns.map fun col => (col, col.name)) ([], columns))
  | some selectors =>
      if selectors.length ≠ resultColumns.length then
        let selectorsCount := selectors.length
        let resultColumnsCount := resultColumns.length
        .error s!"mismatch between number of selectors and result columns; selectors={selectorsCount}, resultColumns={resultColumnsCount}"
      else
        wrap (addColumnValues false first source
          (resultColumns.zip (selectors.map unaliasedColumnNameFromSelector)) ([], columns))

/-! ## Result columns -/

/-- `findColumnMetadata`. -/
def findColumnMetadata (cols : List (ColumnMetadata CqlType)) (name : String) :
    Option (ColumnMetadata CqlType) :=
  cols.find? (·.name == name)

/-- `columnFromSelector`: the result column of a selector and whether it is a count. A count is
an `int` column named after the selector; an alias renames its selector's column. -/
def columnFromSelector (cols : List (ColumnMetadata CqlType)) :
    Selector → Except String (ColumnMetadata CqlType × Bool)
  | .countSelector name => .ok (⟨name, .int⟩, true)
  | .idSelector name =>
      match findColumnMetadata cols name with
      | some column => .ok (column, false)
      | none => .error s!"could not find column: {name}"
  | .aliasedSelector selector aliasName =>
      match columnFromSelector cols selector with
      | .error err => .error err
      | .ok (resultColumn, isCountSelector) => .ok ({ resultColumn with name := aliasName }, isCountSelector)

/-- `filterSystemColumns`: every column of the table for a star select, else one column per
selector; and whether a selector is a count. -/
def filterSystemColumns (parsedSelectClause : SelectClause)
    (systemTableColumns : List (ColumnMetadata CqlType)) :
    Except String (List (ColumnMetadata CqlType) × Bool) :=
  match parsedSelectClause.selectors with
  | none => .ok (systemTableColumns, false)
  | some selectors =>
      match selectors.mapM (columnFromSelector systemTableColumns) with
      | .error err => .error err
      | .ok results => .ok (results.map Prod.fst, results.any Prod.snd)

/-! ## The result -/

/-- The state of the loop of `NewSystemPeersResult`. -/
structure PeersLoopState where
  isFirstRow : Bool
  columns : List (ColumnMetadata CqlType)
  resultColumns : List (ColumnMetadata CqlType)
  rows : List (List SystemValue)

/-- The loop of `NewSystemPeersResult` over the virtual hosts with their indexes. -/
def systemPeersLoop (hostIdOf : List UInt8 → List UInt8) (prepare : Bool)
    (peerColumnNames : Option (String → Bool))
    (systemLocalColumnData : String → Option OptionalColumn)
    (parsedSelectClause : SelectClause) (hostsCount localVirtualHostIndex : Nat)
    (proxyPort : Int) (hasCountSelector : Bool) :
    List (VirtualHost Host (List UInt8) × Nat) → PeersLoopState → Except String PeersLoopState
  | [], state => .ok state
  | (virtualHost, i) :: rest, state =>
      -- the local proxy is no peer of its own, unless it is the only host
      if i = localVirtualHostIndex ∧ hostsCount ≠ 1 then
        systemPeersLoop hostIdOf prepare peerColumnNames systemLocalColumnData parsedSelectClause
          hostsCount localVirtualHostIndex proxyPort hasCountSelector rest state
      else
        match getFilteredSystemValues hostIdOf "peers" parsedSelectClause state.isFirstRow
            state.columns state.resultColumns peerColumnNames systemLocalColumnData virtualHost
            proxyPort ((hostsCount : Int) - 1) with
        | .error err => .error s!"errors adding columns for system peers result: {err}"
        | .ok (row, columns) =>
            if prepare then .ok { state with columns := columns }
            else
              let state : PeersLoopState :=
                if state.isFirstRow then ⟨false, columns, columns, state.rows ++ [row]⟩
                else { state with columns := columns, rows := state.rows ++ [row] }
              if hasCountSelector then .ok state
              else
                systemPeersLoop hostIdOf prepare peerColumnNames systemLocalColumnData
                  parsedSelectClause hostsCount localVirtualHostIndex proxyPort hasCountSelector
                  rest state

/-- The test `NewSystemPeersResult` makes of the selectors that keep their value when the proxy
is the only host: `count(*)`, aliased or not. -/
def isCountSelector : Selector → Bool
  | .countSelector _ => true
  | .aliasedSelector (.countSelector _) _ => true
  | _ => false

/-- The proxy's own row, when it is the only host and a selector is a count: every value but the
counts is null. -/
def clearNonCountValues (selectors : List Selector) (row : List SystemValue) :
    List SystemValue :=
  row.zipIdx.map fun (value, i) =>
    match selectors[i]? with
    | some selector => if isCountSelector selector then value else .null
    | none => value

/-- The rows `NewSystemPeersResult` returns: the proxy's own row goes when it is the only host,
unless a selector is a count, when its other values are cleared. -/
def finishRows (selectors : List Selector) (hostsCount localVirtualHostIndex : Nat)
    (hasCountSelector : Bool) (rows : List (List SystemValue)) : List (List SystemValue) :=
  if localVirtualHostIndex = 0 ∧ hostsCount = 1 ∧ !hasCountSelector then []
  else if hasCountSelector ∧ hostsCount = 1 then rows.modifyHead (clearNonCountValues selectors)
  else rows

/-- A result of `NewSystemPeersResult`: the column metadata of a PREPARED result, or the columns
and the encoded rows of a ROWS result, a missing cell being null. -/
inductive SystemResult (Encoded : Type) where
  | preparedResult (columns : List (ColumnMetadata CqlType))
  | rowsResult (columns : List (ColumnMetadata CqlType)) (data : List (List (Option Encoded)))

variable {Encoded : Type}

/-- One value of `EncodeRowsResult`, encoded with its column's type; a value past the last column
is Go's index panic. -/
def encodeCell (encode : CqlType → SystemValue → Except String Encoded)
    (columns : List (ColumnMetadata CqlType)) (rowIdx : Nat) :
    SystemValue × Nat → Except String Encoded
  | (value, colIdx) =>
      match columns[colIdx]? with
      | none =>
          let length := columns.length
          .error s!"runtime error: index out of range [{colIdx}] with length {length}"
      | some column =>
          match encode column.type value with
          | .error err => .error s!"could not encode col {colIdx} of row {rowIdx}: {err}"
          | .ok cell => .ok cell

/-- One row of `EncodeRowsResult`: a row shorter than the columns leaves its last cells null. -/
def encodeRow (encode : CqlType → SystemValue → Except String Encoded)
    (columns : List (ColumnMetadata CqlType)) (rowIdx : Nat) (parsedRow : List SystemValue) :
    Except String (List (Option Encoded)) :=
  match parsedRow.zipIdx.mapM (encodeCell encode columns rowIdx) with
  | .error err => .error err
  | .ok encoded => .ok (encoded.map some ++ List.replicate (columns.length - encoded.length) none)

/-- `EncodeRowsResult`, as the rows of the result. -/
def encodeRowsResult (encode : CqlType → SystemValue → Except String Encoded)
    (columns : List (ColumnMetadata CqlType)) (rows : List (List SystemValue)) :
    Except String (List (List (Option Encoded))) :=
  rows.zipIdx.mapM fun (parsedRow, rowIdx) => encodeRow encode columns rowIdx parsedRow

/-- `NewSystemPeersResult`, with `prepare` for a prepare request. -/
def newSystemPeersResult (encode : CqlType → SystemValue → Except String Encoded)
    (hostIdOf : List UInt8 → List UInt8) (prepare : Bool)
    (peerColumnNames : Option (String → Bool))
    (systemLocalColumnData : String → Option OptionalColumn)
    (parsedSelectClause : SelectClause) (virtualHosts : List (VirtualHost Host (List UInt8)))
    (localVirtualHostIndex : Nat) (proxyPort : Int) : Except String (SystemResult Encoded) :=
  match filterSystemColumns parsedSelectClause systemPeersColumns with
  | .error err => .error err
  | .ok (resultColumns, hasCountSelector) =>
      match systemPeersLoop hostIdOf prepare peerColumnNames systemLocalColumnData
          parsedSelectClause virtualHosts.length localVirtualHostIndex proxyPort hasCountSelector
          virtualHosts.zipIdx ⟨true, [], resultColumns, []⟩ with
      | .error err => .error err
      | .ok state =>
          if prepare then .ok (.preparedResult state.columns)
          else
            match encodeRowsResult encode state.columns
                (finishRows (parsedSelectClause.selectors.getD []) virtualHosts.length
                  localVirtualHostIndex hasCountSelector state.rows) with
            | .error err => .error err
            | .ok data => .ok (.rowsResult state.columns data)

/-! ## What a row holds -/

/-- The names the result columns' values are looked up by: each column's own name for a star
select, each selector's unaliased name otherwise. -/
def columnNames (parsedSelectClause : SelectClause) (columns : List (ColumnMetadata CqlType)) :
    List String :=
  match parsedSelectClause.selectors with
  | none => columns.map (·.name)
  | some selectors => selectors.map unaliasedColumnNameFromSelector

/-- The values a virtual host gives the result columns, `none` where it gives none. -/
def systemPeerRow (hostIdOf : List UInt8 → List UInt8) (parsedSelectClause : SelectClause)
    (columns : List (ColumnMetadata CqlType)) (peerColumnNames : Option (String → Bool))
    (systemLocalColumnData : String → Option OptionalColumn) (proxyPort rowCount : Int)
    (virtualHost : VirtualHost Host (List UInt8)) : List (Option SystemValue) :=
  (columnNames parsedSelectClause columns).map fun name =>
    (systemColumnSource hostIdOf name peerColumnNames systemLocalColumnData virtualHost proxyPort
      rowCount).value?

/-- A row as the cells of a result `width` columns wide: its values, then nulls. -/
def padRow {α : Type} (row : List α) (width : Nat) : List (Option α) :=
  row.map some ++ List.replicate (width - row.length) none

/-- A cell holds a column's value encoded with the column's type, or is null where there is no
value. -/
def EncodesAs (encode : CqlType → SystemValue → Except String Encoded)
    (entry : ColumnMetadata CqlType × Option SystemValue) (cell : Option Encoded) : Prop :=
  entry.2.mapM (encode entry.1.type) = .ok cell

section PadRow

variable {α : Type} {row : List α} {width : Nat}

theorem padRow_length_self : padRow row row.length = row.map some := by
  simp [padRow]

theorem length_padRow (short : row.length ≤ width) : (padRow row width).length = width := by
  simp only [padRow, List.length_append, List.length_map, List.length_replicate]
  omega

/-- One more column that the row does not reach is one more null. -/
theorem padRow_succ (short : row.length ≤ width) :
    padRow row (width + 1) = padRow row width ++ [none] := by
  have more : width + 1 - row.length = (width - row.length) + 1 := by omega
  simp only [padRow, more, List.replicate_succ', List.append_assoc]

/-- A value in the next column, of a row that fills the columns before it. -/
theorem padRow_append_of_length (value : α) (filled : row.length = width) :
    padRow (row ++ [value]) (width + 1) = padRow row width ++ [some value] := by
  subst filled
  simp [padRow]

end PadRow

/-! ## One column -/

section Columns

variable {isStarSelector : Bool} {row row' : List SystemValue}
  {columns columns' : List (ColumnMetadata CqlType)} {col : ColumnMetadata CqlType}
  {name : String} {source : ColumnSource}

/-- The first host adds each value it has, with its column; a list of selectors needs them all. -/
theorem addSourceValue_first
    (added : addSourceValue isStarSelector true row columns col name source = .ok (row', columns')) :
    row' = row ++ source.value?.toList ∧
      columns' = columns ++ (if source.value?.isSome then [col] else []) ∧
      (isStarSelector = false → source.value?.isSome) := by
  cases source with
  | column colExists value =>
    cases colExists <;> cases isStarSelector <;>
      simp_all [addSourceValue, addColumnHelper, ColumnSource.value?]
  | notPeersColumn =>
    cases isStarSelector <;> simp_all [addSourceValue, ColumnSource.value?]
  | missing => simp [addSourceValue] at added

/-- A later host adds each value it has at the row's next position, where the result column
must have the same name, and never changes the columns; a list of selectors needs them all. -/
theorem addSourceValue_later
    (added : addSourceValue isStarSelector false row columns col name source = .ok (row', columns')) :
    columns' = columns ∧ row' = row ++ source.value?.toList ∧
      (isStarSelector = false → source.value?.isSome) ∧
      (source.value?.isSome → ∃ column, columns[row.length]? = some column ∧
        column.name = col.name) := by
  cases source with
  | column colExists value =>
    simp only [addSourceValue, addColumnHelper, Bool.false_eq_true, if_false] at added
    -- the result column at the row's next position
    cases next : columns[row.length]? with
    | none => simp [next] at added
    | some column =>
      by_cases renamed : column.name = col.name
      · cases colExists <;> cases isStarSelector <;>
          simp_all [ColumnSource.value?]
      · simp [next, renamed] at added
  | notPeersColumn =>
    cases isStarSelector <;> simp_all [addSourceValue, ColumnSource.value?]
  | missing => simp [addSourceValue] at added

end Columns

section Values

variable {isStarSelector : Bool} {source : String → ColumnSource}

/-- The first host's values and the columns it fixes: each column it has a value for, in
order; a list of selectors needs a value for each. -/
theorem addColumnValues_first {pairs : List (ColumnMetadata CqlType × String)}
    {row row' : List SystemValue} {columns columns' : List (ColumnMetadata CqlType)}
    (added : addColumnValues isStarSelector true source pairs (row, columns) = .ok (row', columns')) :
    row'.map some = row.map some ++
        (pairs.filter fun pair => (source pair.2).value?.isSome).map
          (fun pair => (source pair.2).value?) ∧
      columns' = columns ++ (pairs.filter fun pair => (source pair.2).value?.isSome).map Prod.fst ∧
      (isStarSelector = false → ∀ pair ∈ pairs, (source pair.2).value?.isSome) := by
  induction pairs generalizing row columns with
  | nil =>
    simp only [addColumnValues, Except.ok.injEq, Prod.mk.injEq] at added
    obtain ⟨rfl, rfl⟩ := added
    simp
  | cons pair rest inductionHypothesis =>
    obtain ⟨col, name⟩ := pair
    simp only [addColumnValues] at added
    cases step : addSourceValue isStarSelector true row columns col name (source name) with
    | error err => simp [step] at added
    | ok acc =>
      obtain ⟨row₁, columns₁⟩ := acc
      simp only [step] at added
      obtain ⟨rowStep, columnsStep, needed⟩ := addSourceValue_first step
      obtain ⟨rowRest, columnsRest, neededRest⟩ := inductionHypothesis added
      refine ⟨?_, ?_, ?_⟩
      · rw [rowRest, rowStep]
        cases value : (source name).value? <;> simp [value]
      · rw [columnsRest, columnsStep]
        cases value : (source name).value? <;> simp [value]
      · intro selectors pair member
        rcases List.mem_cons.mp member with rfl | later
        · exact needed selectors
        · exact neededRest selectors pair later

/-- With distinct column names, a value matched at the row's next position to the column of
position `i` lands at `i`. -/
theorem length_eq_of_same_name {columns : List (ColumnMetadata CqlType)} {row : List SystemValue}
    {i : Nat} {column : ColumnMetadata CqlType} (distinct : (columns.map (·.name)).Nodup)
    (inside : i < columns.length) (atRow : columns[row.length]? = some column)
    (sameName : column.name = columns[i].name) : row.length = i := by
  have rowInside : row.length < columns.length := by
    by_contra outside
    rw [List.getElem?_eq_none (by omega)] at atRow
    cases atRow
  have sameEntry : (columns.map (·.name))[row.length]? = (columns.map (·.name))[i]? := by
    rw [List.getElem?_map, List.getElem?_map, atRow, List.getElem?_eq_getElem inside,
      Option.map_some, Option.map_some, sameName]
  exact (List.getElem?_inj (by simpa using rowInside) distinct).mp sameEntry

/-- A later host's row, matched against the result columns from position `i` on: the values
before `i` are in place, up to missing ones at the end, and a value found after a missing one
would meet a column of another name. With distinct column names for a star select, the whole
row is the host's values for the columns, up to missing ones at the end. -/
theorem addColumnValues_later {columns : List (ColumnMetadata CqlType)} {names : List String}
    (distinct : isStarSelector = true → (columns.map (·.name)).Nodup)
    (lengths : names.length = columns.length) :
    ∀ (remaining i : Nat) (row row' : List SystemValue)
      (columns' : List (ColumnMetadata CqlType)),
      i + remaining = columns.length → row.length ≤ i →
      (isStarSelector = false → row.length = i) →
      padRow row i = (names.take i).map (fun name => (source name).value?) →
      addColumnValues isStarSelector false source ((columns.zip names).drop i) (row, columns) =
        .ok (row', columns') →
      columns' = columns ∧ row'.length ≤ columns.length ∧
        padRow row' columns.length = names.map (fun name => (source name).value?) := by
  intro remaining
  induction remaining with
  | zero =>
    intro i row row' columns' last short aligned padded added
    have finished : (columns.zip names).drop i = [] := by
      apply List.drop_eq_nil_of_le
      simp [lengths]
      omega
    rw [finished] at added
    simp only [addColumnValues, Except.ok.injEq, Prod.mk.injEq] at added
    obtain ⟨rfl, rfl⟩ := added
    rw [← last, Nat.add_zero, padded, List.take_of_length_le (by omega)]
    exact ⟨rfl, short, rfl⟩
  | succ remaining inductionHypothesis =>
    intro i row row' columns' last short aligned padded added
    have inside : i < columns.length := by omega
    have insideNames : i < names.length := by omega
    have next : (columns.zip names).drop i =
        (columns[i], names[i]) :: (columns.zip names).drop (i + 1) := by
      rw [List.drop_eq_getElem_cons (by simp [lengths, inside]), List.getElem_zip]
    rw [next] at added
    simp only [addColumnValues] at added
    cases step : addSourceValue isStarSelector false row columns columns[i] names[i]
        (source names[i]) with
    | error err => simp [step] at added
    | ok acc =>
      obtain ⟨row₁, columns₁⟩ := acc
      simp only [step] at added
      obtain ⟨columnsStep, rowStep, needed, matched⟩ := addSourceValue_later step
      rw [columnsStep] at added
      have taken : names.take (i + 1) = names.take i ++ [names[i]] := by
        rw [List.take_add_one, List.getElem?_eq_getElem insideNames, Option.toList_some]
      cases value : (source names[i]).value? with
      | none =>
        -- the host has no value here: the row stays one column behind
        rw [value, Option.toList_none, List.append_nil] at rowStep
        rw [rowStep] at added
        have noneNeeded : isStarSelector = true := by
          cases isStarSelector
          · simpa [value] using needed rfl
          · rfl
        refine inductionHypothesis (i + 1) row row' columns' (by omega) (by omega)
          (fun selectors => absurd noneNeeded (by simp [selectors])) ?_ added
        rw [padRow_succ short, padded, taken, List.map_append, List.map_singleton, value]
      | some found =>
        rw [value, Option.toList_some] at rowStep
        subst rowStep
        -- the value lands at position `i`: the row was not behind
        have placed : row.length = i := by
          cases isStarSelector
          · exact aligned rfl
          · obtain ⟨column, atRow, sameName⟩ := matched (by simp [value])
            exact length_eq_of_same_name (distinct rfl) inside atRow sameName
        refine inductionHypothesis (i + 1) (row ++ [found]) row' columns' (by omega)
          (by simp [placed]) (fun _ => by simp [placed]) ?_ added
        rw [padRow_append_of_length found placed, padded, taken, List.map_append,
          List.map_singleton, value]

end Values

/-! ## One host -/

/-- The result columns the first host fixes, against which the later hosts are matched: one
lookup name per column, and distinct names for a star select. -/
structure ResultColumns (parsedSelectClause : SelectClause)
    (columns : List (ColumnMetadata CqlType)) : Prop where
  names_length : (columnNames parsedSelectClause columns).length = columns.length
  nodup : parsedSelectClause.selectors = none → (columns.map (·.name)).Nodup

/-- The columns paired with their own names, as a star select looks them up. -/
theorem map_pair_name (columns : List (ColumnMetadata CqlType)) :
    columns.map (fun col => (col, col.name)) = columns.zip (columns.map (·.name)) := by
  induction columns with
  | nil => rfl
  | cons col columns inductionHypothesis => simp [inductionHypothesis]

section Host

variable {hostIdOf : List UInt8 → List UInt8} {table : String} {parsedSelectClause : SelectClause}
  {peerColumnNames : Option (String → Bool)}
  {systemLocalColumnData : String → Option OptionalColumn}
  {virtualHost : VirtualHost Host (List UInt8)} {proxyPort rowCount : Int}
  {row : List SystemValue} {columns resultColumns : List (ColumnMetadata CqlType)}

/-- A star select succeeds with what adding the host's value for each column returned. -/
theorem addColumnValues_of_star {first : Bool}
    {result : List SystemValue × List (ColumnMetadata CqlType)}
    (star : parsedSelectClause.selectors = none)
    (got : getFilteredSystemValues hostIdOf table parsedSelectClause first columns resultColumns
      peerColumnNames systemLocalColumnData virtualHost proxyPort rowCount = .ok result) :
    addColumnValues true first (fun name => systemColumnSource hostIdOf name peerColumnNames
        systemLocalColumnData virtualHost proxyPort rowCount)
      (resultColumns.map fun col => (col, col.name)) ([], columns) = .ok result := by
  simp only [getFilteredSystemValues, star] at got
  split at got
  · cases got
  · rename_i added
    cases got
    exact added

/-- A list of selectors succeeds with one selector per result column, and with what adding the
host's value for each of them returned. -/
theorem addColumnValues_of_selectors {first : Bool} {selectors : List Selector}
    {result : List SystemValue × List (ColumnMetadata CqlType)}
    (selected : parsedSelectClause.selectors = some selectors)
    (got : getFilteredSystemValues hostIdOf table parsedSelectClause first columns resultColumns
      peerColumnNames systemLocalColumnData virtualHost proxyPort rowCount = .ok result) :
    selectors.length = resultColumns.length ∧
      addColumnValues false first (fun name => systemColumnSource hostIdOf name peerColumnNames
          systemLocalColumnData virtualHost proxyPort rowCount)
        (resultColumns.zip (selectors.map unaliasedColumnNameFromSelector)) ([], columns) =
          .ok result := by
  by_cases sameCount : selectors.length = resultColumns.length
  · simp only [getFilteredSystemValues, selected, sameCount, ne_eq, not_true_eq_false,
      if_false] at got
    split at got
    · cases got
    · rename_i added
      cases got
      exact ⟨sameCount, added⟩
  · simp [getFilteredSystemValues, selected, sameCount] at got

/-- The first host fixes the result columns: those it has values for, for a star select, and
one per selector otherwise; its row holds its values for them. -/
theorem getFilteredSystemValues_first
    (distinct : parsedSelectClause.selectors = none → (resultColumns.map (·.name)).Nodup)
    (got : getFilteredSystemValues hostIdOf table parsedSelectClause true [] resultColumns
      peerColumnNames systemLocalColumnData virtualHost proxyPort rowCount = .ok (row, columns)) :
    ResultColumns parsedSelectClause columns ∧ row.length = columns.length ∧
      padRow row columns.length = systemPeerRow hostIdOf parsedSelectClause columns
        peerColumnNames systemLocalColumnData proxyPort rowCount virtualHost := by
  cases selectors : parsedSelectClause.selectors with
  | none =>
    obtain ⟨values, kept, -⟩ := addColumnValues_first (addColumnValues_of_star selectors got)
    simp only [List.map_nil, List.nil_append, List.filter_map, List.map_map] at values kept
    have lengths : row.length = columns.length := by
      rw [← List.length_map (f := some), values, kept, List.length_map, List.length_map]
    refine ⟨⟨by simp [columnNames, selectors], fun _ => ?_⟩, lengths, ?_⟩
    · rw [kept, List.map_map]
      exact (distinct selectors).sublist ((List.filter_sublist).map _)
    · rw [← lengths, padRow_length_self, values, systemPeerRow, columnNames, selectors, kept]
      simp
  | some selectors' =>
    obtain ⟨sameCount, added⟩ := addColumnValues_of_selectors selectors got
    obtain ⟨values, kept, needed⟩ := addColumnValues_first added
    -- a list of selectors has a value for every column
    rw [List.filter_eq_self.mpr (needed rfl)] at values kept
    have namesLength : (selectors'.map unaliasedColumnNameFromSelector).length =
        resultColumns.length := by simp [sameCount]
    rw [List.map_fst_zip (by omega)] at kept
    rw [List.nil_append] at kept
    subst kept
    simp only [List.map_nil, List.nil_append] at values
    have lengths : row.length = columns.length := by
      rw [← List.length_map (f := some), values, List.length_map, List.length_zip]
      omega
    refine ⟨⟨by simp [columnNames, selectors, sameCount],
      fun absent => by rw [selectors] at absent; cases absent⟩, lengths, ?_⟩
    have names : (columns.zip (selectors'.map unaliasedColumnNameFromSelector)).map
        Prod.snd = selectors'.map unaliasedColumnNameFromSelector := List.map_snd_zip (by omega)
    simp only [systemPeerRow, columnNames, selectors]
    rw [← lengths, padRow_length_self, values]
    conv_rhs => rw [← names, List.map_map]
    rfl

/-- A later host keeps the result columns, and its row holds its values for them, up to missing
ones at the end. -/
theorem getFilteredSystemValues_later (fixed : ResultColumns parsedSelectClause columns)
    (got : getFilteredSystemValues hostIdOf table parsedSelectClause false columns columns
      peerColumnNames systemLocalColumnData virtualHost proxyPort rowCount =
        .ok (row, resultColumns)) :
    resultColumns = columns ∧ row.length ≤ columns.length ∧
      padRow row columns.length = systemPeerRow hostIdOf parsedSelectClause columns
        peerColumnNames systemLocalColumnData proxyPort rowCount virtualHost := by
  cases selectors : parsedSelectClause.selectors with
  | none =>
    have added := addColumnValues_of_star selectors got
    rw [map_pair_name] at added
    have matched := addColumnValues_later (fun _ => fixed.nodup selectors) (by simp)
      columns.length 0 [] row resultColumns (Nat.zero_add _) le_rfl (fun _ => rfl) rfl added
    simpa [systemPeerRow, columnNames, selectors] using matched
  | some selectors' =>
    obtain ⟨sameCount, added⟩ := addColumnValues_of_selectors selectors got
    have matched := addColumnValues_later (fun star => absurd star Bool.false_ne_true)
      (by simp [sameCount]) columns.length 0 [] row resultColumns (Nat.zero_add _) le_rfl
      (fun _ => rfl) rfl added
    simpa [systemPeerRow, columnNames, selectors] using matched

end Host

/-! ## The hosts -/

/-- The hosts the loop makes rows of: every host but the local one, unless it is the only one. -/
def shownHosts {α : Type} (hostsCount localVirtualHostIndex : Nat) (pairs : List (α × Nat)) :
    List α :=
  (pairs.filter fun pair => !decide (pair.2 = localVirtualHostIndex ∧ hostsCount ≠ 1)).map
    Prod.fst

section Shown

variable {α : Type} {hostsCount localVirtualHostIndex i : Nat} {host : α} {pairs : List (α × Nat)}

theorem shownHosts_cons_of_skipped (skipped : i = localVirtualHostIndex ∧ hostsCount ≠ 1) :
    shownHosts hostsCount localVirtualHostIndex ((host, i) :: pairs) =
      shownHosts hostsCount localVirtualHostIndex pairs := by
  have dropped := decide_eq_true skipped
  simp only [shownHosts, List.filter_cons, dropped, Bool.not_true, Bool.false_eq_true, if_false]

theorem shownHosts_cons_of_shown (shown : ¬(i = localVirtualHostIndex ∧ hostsCount ≠ 1)) :
    shownHosts hostsCount localVirtualHostIndex ((host, i) :: pairs) =
      host :: shownHosts hostsCount localVirtualHostIndex pairs := by
  have kept := decide_eq_false shown
  simp only [shownHosts, List.filter_cons, kept, Bool.not_false, if_true, List.map_cons]

end Shown

/-- The loop's state after the rows of `hosts`: before the first row, the state it started from;
after it, result columns the first host fixed, and one row per host holding the host's values. -/
def PeersRows (hostIdOf : List UInt8 → List UInt8) (peerColumnNames : Option (String → Bool))
    (systemLocalColumnData : String → Option OptionalColumn) (parsedSelectClause : SelectClause)
    (proxyPort rowCount : Int) (initialColumns : List (ColumnMetadata CqlType)) :
    List (VirtualHost Host (List UInt8)) → PeersLoopState → Prop
  | [], state => state = ⟨true, [], initialColumns, []⟩
  | host :: hosts, state =>
      state.isFirstRow = false ∧ state.resultColumns = state.columns ∧
        ResultColumns parsedSelectClause state.columns ∧
        List.Forall₂ (fun host row => row.length ≤ state.columns.length ∧
          padRow row state.columns.length = systemPeerRow hostIdOf parsedSelectClause
            state.columns peerColumnNames systemLocalColumnData proxyPort rowCount host)
          (host :: hosts) state.rows

section Loop

variable {hostIdOf : List UInt8 → List UInt8} {peerColumnNames : Option (String → Bool)}
  {systemLocalColumnData : String → Option OptionalColumn} {parsedSelectClause : SelectClause}
  {proxyPort rowCount : Int} {initialColumns : List (ColumnMetadata CqlType)}

/-- One more host's row: the first fixes the result columns, a later one is matched against
them. -/
theorem PeersRows.add {hosts : List (VirtualHost Host (List UInt8))} {state : PeersLoopState}
    {virtualHost : VirtualHost Host (List UInt8)} {row : List SystemValue}
    {columns : List (ColumnMetadata CqlType)}
    (initial : parsedSelectClause.selectors = none → (initialColumns.map (·.name)).Nodup)
    (rows : PeersRows hostIdOf peerColumnNames systemLocalColumnData parsedSelectClause proxyPort
      rowCount initialColumns hosts state)
    (got : getFilteredSystemValues hostIdOf "peers" parsedSelectClause state.isFirstRow
      state.columns state.resultColumns peerColumnNames systemLocalColumnData virtualHost
      proxyPort rowCount = .ok (row, columns)) :
    PeersRows hostIdOf peerColumnNames systemLocalColumnData parsedSelectClause proxyPort rowCount
      initialColumns (hosts ++ [virtualHost])
      (if state.isFirstRow then ⟨false, columns, columns, state.rows ++ [row]⟩
        else { state with columns := columns, rows := state.rows ++ [row] }) := by
  cases hosts with
  | nil =>
    simp only [PeersRows] at rows
    subst rows
    obtain ⟨fixed, lengths, padded⟩ := getFilteredSystemValues_first initial got
    exact ⟨rfl, rfl, fixed, .cons ⟨lengths.le, padded⟩ .nil⟩
  | cons first hosts =>
    obtain ⟨later, resultColumns, fixed, related⟩ := rows
    rw [later, resultColumns] at got
    obtain ⟨same, short, padded⟩ := getFilteredSystemValues_later fixed got
    subst same
    simp only [later, Bool.false_eq_true, if_false, List.cons_append]
    exact ⟨rfl, resultColumns, fixed, List.rel_append related (.cons ⟨short, padded⟩ .nil)⟩

variable (hostsCount localVirtualHostIndex : Nat)

/-- Without a count, the loop makes one row per shown host, in order. -/
theorem systemPeersLoop_rows
    (initial : parsedSelectClause.selectors = none → (initialColumns.map (·.name)).Nodup) :
    ∀ (pairs : List (VirtualHost Host (List UInt8) × Nat))
      (hosts : List (VirtualHost Host (List UInt8))) (state final : PeersLoopState),
      PeersRows hostIdOf peerColumnNames systemLocalColumnData parsedSelectClause proxyPort
        ((hostsCount : Int) - 1) initialColumns hosts state →
      systemPeersLoop hostIdOf false peerColumnNames systemLocalColumnData parsedSelectClause
        hostsCount localVirtualHostIndex proxyPort false pairs state = .ok final →
      PeersRows hostIdOf peerColumnNames systemLocalColumnData parsedSelectClause proxyPort
        ((hostsCount : Int) - 1) initialColumns
        (hosts ++ shownHosts hostsCount localVirtualHostIndex pairs) final := by
  intro pairs
  induction pairs with
  | nil =>
    intro hosts state final rows looped
    simp only [systemPeersLoop, Except.ok.injEq] at looped
    subst looped
    simpa [shownHosts] using rows
  | cons pair pairs inductionHypothesis =>
    obtain ⟨virtualHost, i⟩ := pair
    intro hosts state final rows looped
    simp only [systemPeersLoop] at looped
    by_cases skipped : i = localVirtualHostIndex ∧ hostsCount ≠ 1
    · rw [if_pos skipped] at looped
      rw [shownHosts_cons_of_skipped skipped]
      exact inductionHypothesis hosts state final rows looped
    · rw [if_neg skipped] at looped
      cases got : getFilteredSystemValues hostIdOf "peers" parsedSelectClause state.isFirstRow
          state.columns state.resultColumns peerColumnNames systemLocalColumnData virtualHost
          proxyPort ((hostsCount : Int) - 1) with
      | error err => simp [got] at looped
      | ok acc =>
        obtain ⟨row, columns⟩ := acc
        simp only [got, Bool.false_eq_true, if_false] at looped
        rw [shownHosts_cons_of_shown skipped, ← List.singleton_append, ← List.append_assoc]
        exact inductionHypothesis _ _ final (PeersRows.add initial rows got) looped

/-- With a count, the loop stops after the first row. -/
theorem systemPeersLoop_count
    (initial : parsedSelectClause.selectors = none → (initialColumns.map (·.name)).Nodup) :
    ∀ (pairs : List (VirtualHost Host (List UInt8) × Nat)) (final : PeersLoopState),
      systemPeersLoop hostIdOf false peerColumnNames systemLocalColumnData parsedSelectClause
        hostsCount localVirtualHostIndex proxyPort true pairs ⟨true, [], initialColumns, []⟩ =
          .ok final →
      PeersRows hostIdOf peerColumnNames systemLocalColumnData parsedSelectClause proxyPort
        ((hostsCount : Int) - 1) initialColumns
        ((shownHosts hostsCount localVirtualHostIndex pairs).take 1) final := by
  intro pairs
  induction pairs with
  | nil =>
    intro final looped
    simp only [systemPeersLoop, Except.ok.injEq] at looped
    subst looped
    simp [shownHosts, PeersRows]
  | cons pair pairs inductionHypothesis =>
    obtain ⟨virtualHost, i⟩ := pair
    intro final looped
    simp only [systemPeersLoop] at looped
    by_cases skipped : i = localVirtualHostIndex ∧ hostsCount ≠ 1
    · rw [if_pos skipped] at looped
      rw [shownHosts_cons_of_skipped skipped]
      exact inductionHypothesis final looped
    · rw [if_neg skipped] at looped
      cases got : getFilteredSystemValues hostIdOf "peers" parsedSelectClause true []
          initialColumns peerColumnNames systemLocalColumnData virtualHost proxyPort
          ((hostsCount : Int) - 1) with
      | error err => simp [got] at looped
      | ok acc =>
        obtain ⟨row, columns⟩ := acc
        simp only [got, Bool.false_eq_true, if_false, if_true, Except.ok.injEq] at looped
        subst looped
        rw [shownHosts_cons_of_shown skipped, List.take_succ_cons, List.take_zero]
        have started : PeersRows hostIdOf peerColumnNames systemLocalColumnData parsedSelectClause
            proxyPort ((hostsCount : Int) - 1) initialColumns [] ⟨true, [], initialColumns, []⟩ :=
          rfl
        exact PeersRows.add initial started got

end Loop

/-- Skipping one index of a list leaves the other elements, in order. -/
theorem filter_zipIdx_ne {α : Type} (j : Nat) :
    ∀ (l : List α) (k : Nat),
      ((l.zipIdx k).filter fun pair => !decide (pair.2 = j + k)).map Prod.fst = l.eraseIdx j := by
  intro l
  induction l generalizing j with
  | nil => simp
  | cons x l inductionHypothesis =>
    intro k
    cases j with
    | zero =>
      -- every later index is past `k`
      have later : ((l.zipIdx (k + 1)).filter fun pair => !decide (pair.2 = k)) =
          l.zipIdx (k + 1) := by
        apply List.filter_eq_self.mpr
        intro pair member
        have := List.le_snd_of_mem_zipIdx member
        simp only [Bool.not_eq_eq_eq_not, Bool.not_true, decide_eq_false_iff_not]
        omega
      simp only [Nat.zero_add, List.zipIdx_cons, List.filter_cons, decide_true, Bool.not_true,
        Bool.false_eq_true, if_false, later, List.zipIdx_map_fst, List.eraseIdx_cons_zero]
    | succ j =>
      have shifted : j + 1 + k = j + (k + 1) := by omega
      simp only [List.zipIdx_cons, List.filter_cons, shifted, List.eraseIdx_cons_succ]
      have kept : ¬k = j + (k + 1) := by omega
      simp only [kept, decide_false, Bool.not_false, if_true, List.map_cons,
        inductionHypothesis j (k + 1)]

/-- The hosts the loop makes rows of: all of them when there is one, else all but the local
one. -/
theorem shownHosts_zipIdx {α : Type} (virtualHosts : List α) (localVirtualHostIndex : Nat) :
    shownHosts virtualHosts.length localVirtualHostIndex virtualHosts.zipIdx =
      if virtualHosts.length = 1 then virtualHosts
      else virtualHosts.eraseIdx localVirtualHostIndex := by
  by_cases one : virtualHosts.length = 1
  · simp [shownHosts, one, List.zipIdx_map_fst]
  · have unskipped := filter_zipIdx_ne localVirtualHostIndex virtualHosts 0
    simp only [Nat.add_zero] at unskipped
    simp [shownHosts, one, unskipped]

/-- Some host is shown: the proxy when it is alone, its peers otherwise. -/
theorem shown_ne_nil {α : Type} {virtualHosts : List α} {localVirtualHostIndex : Nat}
    (isLocal : localVirtualHostIndex < virtualHosts.length) :
    (if virtualHosts.length = 1 then virtualHosts
      else virtualHosts.eraseIdx localVirtualHostIndex) ≠ [] := by
  split
  · exact List.ne_nil_of_length_pos (by omega)
  · apply List.ne_nil_of_length_pos
    rw [List.length_eraseIdx_of_lt isLocal]
    omega

/-! ## Encoding -/

section Encoding

variable {encode : CqlType → SystemValue → Except String Encoded}
  {columns : List (ColumnMetadata CqlType)} {rowIdx : Nat}

theorem padRow_cons {α : Type} (value : α) (row : List α) (width : Nat) :
    padRow (value :: row) (width + 1) = some value :: padRow row width := by
  simp [padRow]

/-- Columns past a row's end hold nulls. -/
theorem forall₂_nulls :
    ∀ (cols : List (ColumnMetadata CqlType)),
      List.Forall₂ (EncodesAs encode) (cols.zip (List.replicate cols.length none))
        (List.replicate cols.length none)
  | [] => .nil
  | _ :: cols => .cons rfl (forall₂_nulls cols)

/-- Each value of a row from column `k` on is encoded with its column's type. -/
theorem encodeCells_forall₂ :
    ∀ (row : List SystemValue) (k : Nat) (encoded : List Encoded),
      List.Forall₂ (fun pair cell => encodeCell encode columns rowIdx pair = .ok cell)
        (row.zipIdx k) encoded →
      k + row.length ≤ columns.length →
      List.Forall₂ (EncodesAs encode) ((columns.drop k).zip (padRow row (columns.length - k)))
        (encoded.map some ++ List.replicate (columns.length - k - encoded.length) none)
  | [], k, encoded, cells, _ => by
    cases cells
    have nulls : List.Forall₂ (EncodesAs encode)
        ((columns.drop k).zip (List.replicate (columns.drop k).length none))
        (List.replicate (columns.drop k).length none) := forall₂_nulls (columns.drop k)
    simpa [padRow] using nulls
  | value :: row, k, encoded, cells, bound => by
    rw [List.zipIdx_cons] at cells
    cases cells with
    | @cons _ cell _ rest first others =>
      have inside : k < columns.length := by simp at bound; omega
      -- the value's column exists, and the value encodes with its type
      have encoded : encode columns[k].type value = .ok cell := by
        simp only [encodeCell, List.getElem?_eq_getElem inside] at first
        cases encoding : encode columns[k].type value with
        | error err => simp [encoding] at first
        | ok cell' => simpa [encoding] using first
      have width : columns.length - k = (columns.length - (k + 1)) + 1 := by omega
      have remaining : columns.length - k - (rest.length + 1) =
          columns.length - (k + 1) - rest.length := by omega
      rw [List.drop_eq_getElem_cons inside, width, padRow_cons, List.zip_cons_cons,
        List.map_cons, List.length_cons, ← width, remaining, List.cons_append]
      exact .cons (by simp [EncodesAs, encoded])
        (encodeCells_forall₂ row (k + 1) rest others (by simp at bound; omega))

/-- A row of values no wider than the columns is encoded cell by cell, nulls past its end. -/
theorem encodeRow_forall₂ {row : List SystemValue} {cells : List (Option Encoded)}
    (short : row.length ≤ columns.length)
    (encoded : encodeRow encode columns rowIdx row = .ok cells) :
    List.Forall₂ (EncodesAs encode) (columns.zip (padRow row columns.length)) cells := by
  unfold encodeRow at encoded
  cases mapped : row.zipIdx.mapM (encodeCell encode columns rowIdx) with
  | error err => simp [mapped] at encoded
  | ok values =>
    simp only [mapped, Except.ok.injEq] at encoded
    subst encoded
    have related := encodeCells_forall₂ row 0 values (ExceptMap.mapM_eq_ok_iff.mp mapped)
      (by omega)
    simpa using related

/-- Each row is encoded on its own. -/
theorem encodeRowsResult_forall₂ {rows : List (List SystemValue)}
    {data : List (List (Option Encoded))}
    (encoded : encodeRowsResult encode columns rows = .ok data) :
    List.Forall₂ (fun row cells => ∃ rowIdx, encodeRow encode columns rowIdx row = .ok cells)
      rows data := by
  have related := ExceptMap.mapM_eq_ok_iff.mp encoded
  rw [← List.zipIdx_map_fst 0 rows, List.forall₂_map_left_iff]
  exact related.imp fun pair _ encodedRow => ⟨pair.2, encodedRow⟩

end Encoding

/-! ## Counts -/

/-- A selector as the grammar gives it: an identifier or `count(*)`, aliased at most once. -/
def isUnnestedSelector : Selector → Bool
  | .aliasedSelector (.aliasedSelector _ _) _ => false
  | _ => true

/-- The select clause has a `count(*)` selector, aliased or not. -/
def hasCountSelector (parsedSelectClause : SelectClause) : Bool :=
  (parsedSelectClause.selectors.getD []).any isCountSelector

theorem extractSelector_unnested {context : SelectorContext} {selector : Selector}
    (extracted : extractSelector context = .ok selector) : isUnnestedSelector selector := by
  unfold extractSelector at extracted
  cases unaliased : context.selector <;> cases aliasName : context.aliasName <;>
    simp_all [bind, Except.bind, pure, Except.pure] <;> (subst extracted; rfl)

theorem extractSelectors_unnested :
    ∀ {contexts : List SelectorContext} {selectors : List Selector},
      extractSelectors contexts = .ok selectors →
      ∀ selector ∈ selectors, isUnnestedSelector selector
  | [], selectors, extracted => by
    cases extracted
    simp
  | context :: contexts, selectors, extracted => by
    simp only [extractSelectors, bind, Except.bind] at extracted
    cases first : extractSelector context with
    | error err => simp [first] at extracted
    | ok selector =>
      cases rest : extractSelectors contexts with
      | error err => simp [first, rest] at extracted
      | ok others =>
        simp only [first, rest, pure, Except.pure, Except.ok.injEq] at extracted
        subst extracted
        intro member inside
        rcases List.mem_cons.mp inside with rfl | later
        · exact extractSelector_unnested first
        · exact extractSelectors_unnested rest member later

theorem extractSelectClause_unnested {context : SelectClauseContext}
    {parsedSelectClause : SelectClause}
    (extracted : extractSelectClause context = .ok parsedSelectClause) :
    ∀ selector ∈ parsedSelectClause.selectors.getD [], isUnnestedSelector selector := by
  cases context with
  | star =>
    cases extracted
    simp
  | selectors contexts =>
    simp only [extractSelectClause, bind, Except.bind] at extracted
    cases parsed : extractSelectors contexts with
    | error err => simp [parsed] at extracted
    | ok selectors =>
      simp only [parsed, pure, Except.pure, Except.ok.injEq] at extracted
      subst extracted
      exact extractSelectors_unnested parsed

/-- With selectors as the grammar gives them, `columnFromSelector` reports a count exactly for
`count(*)`. -/
theorem columnFromSelector_isCount {cols : List (ColumnMetadata CqlType)} {selector : Selector}
    {column : ColumnMetadata CqlType} {isCount : Bool}
    (unnested : isUnnestedSelector selector = true)
    (found : columnFromSelector cols selector = .ok (column, isCount)) :
    isCount = isCountSelector selector := by
  cases selector with
  | countSelector name =>
    cases found
    rfl
  | idSelector name =>
    cases inTable : findColumnMetadata cols name with
    | none => simp [columnFromSelector, inTable] at found
    | some column' =>
      simp only [columnFromSelector, inTable, Except.ok.injEq, Prod.mk.injEq] at found
      rw [← found.2]
      rfl
  | aliasedSelector inner aliasName =>
    cases inner with
    | countSelector name =>
      cases found
      rfl
    | idSelector name =>
      cases inTable : findColumnMetadata cols name with
      | none => simp [columnFromSelector, inTable] at found
      | some column' =>
        simp only [columnFromSelector, inTable, Except.ok.injEq, Prod.mk.injEq] at found
        rw [← found.2]
        rfl
    | aliasedSelector => cases unnested

/-- One flag per selector: a count among the results exactly when a selector is `count(*)`. -/
theorem any_isCount_of_forall₂ {cols : List (ColumnMetadata CqlType)} {selectors : List Selector}
    {results : List (ColumnMetadata CqlType × Bool)}
    (unnested : ∀ selector ∈ selectors, isUnnestedSelector selector)
    (related : List.Forall₂ (fun selector result => columnFromSelector cols selector = .ok result)
      selectors results) :
    results.any Prod.snd = selectors.any isCountSelector := by
  induction related with
  | nil => rfl
  | @cons selector result _ _ found _ inductionHypothesis =>
    have flag := columnFromSelector_isCount (unnested selector List.mem_cons_self) found
    rw [List.any_cons, List.any_cons, flag, inductionHypothesis
      (fun other member => unnested other (List.mem_cons_of_mem _ member))]

/-- With selectors as the grammar gives them, `filterSystemColumns` reports a count exactly when
a selector is `count(*)`. -/
theorem filterSystemColumns_hasCountSelector {parsedSelectClause : SelectClause}
    {cols resultColumns : List (ColumnMetadata CqlType)} {hasCount : Bool}
    (unnested : ∀ selector ∈ parsedSelectClause.selectors.getD [], isUnnestedSelector selector)
    (filtered : filterSystemColumns parsedSelectClause cols = .ok (resultColumns, hasCount)) :
    hasCount = hasCountSelector parsedSelectClause := by
  unfold filterSystemColumns at filtered
  unfold hasCountSelector
  cases selectors : parsedSelectClause.selectors with
  | none =>
    simp only [selectors, Except.ok.injEq, Prod.mk.injEq] at filtered
    simp [← filtered.2]
  | some selectors' =>
    rw [selectors] at filtered unnested
    cases mapped : selectors'.mapM (columnFromSelector cols) with
    | error err => simp [mapped] at filtered
    | ok results =>
      simp only [mapped, Except.ok.injEq, Prod.mk.injEq] at filtered
      rw [← filtered.2, Option.getD_some]
      exact any_isCount_of_forall₂ unnested (ExceptMap.mapM_eq_ok_iff.mp mapped)

/-- No column of `system.peers` is named `count`. -/
theorem isCountName_systemPeersColumns :
    ∀ column ∈ systemPeersColumns, isCountName column.name = false := by
  decide

/-- A selector that looks up a column named `count` is `count(*)`: no column of `system.peers`
has that name. -/
theorem isCountSelector_of_isCountName {selector : Selector}
    {result : ColumnMetadata CqlType × Bool} (unnested : isUnnestedSelector selector = true)
    (found : columnFromSelector systemPeersColumns selector = .ok result)
    (counting : isCountName (unaliasedColumnNameFromSelector selector) = true) :
    isCountSelector selector = true := by
  -- an identifier found among the table's columns has a column's name
  have notColumn : ∀ name, (columnFromSelector systemPeersColumns (.idSelector name)).isOk →
      isCountName name = false := by
    intro name inTable
    cases column : findColumnMetadata systemPeersColumns name with
    | none => simp [columnFromSelector, column, Except.isOk, Except.toBool] at inTable
    | some column' =>
      have named : column'.name = name := by
        simpa using List.find?_some column
      rw [← named]
      exact isCountName_systemPeersColumns column' (List.mem_of_find?_eq_some column)
  cases selector with
  | countSelector name => rfl
  | idSelector name =>
    have := notColumn name (by simp [found, Except.isOk, Except.toBool])
    simp_all [unaliasedColumnNameFromSelector]
  | aliasedSelector inner aliasName =>
    cases inner with
    | countSelector name => rfl
    | idSelector name =>
      have inTable : (columnFromSelector systemPeersColumns (.idSelector name)).isOk := by
        simp only [columnFromSelector] at found
        split at found <;> simp_all [Except.isOk, Except.toBool, columnFromSelector]
      have := notColumn name inTable
      simp_all [unaliasedColumnNameFromSelector, selectorName]
    | aliasedSelector => cases unnested

section CountColumn

variable {hostIdOf : List UInt8 → List UInt8} {name : String}
  {virtualHost : VirtualHost Host (List UInt8)}

theorem fixedColumnValue_of_isCountName (counting : isCountName name = true) :
    fixedColumnValue hostIdOf name virtualHost = none := by
  unfold fixedColumnValue
  split <;> first | rfl | exact absurd counting (by decide)

/-- A column named `count` holds the row count. -/
theorem systemColumnSource_of_isCountName (peersColumns : Option (String → Bool))
    (systemLocalColumnData : String → Option OptionalColumn) (proxyPort rowCount : Int)
    (counting : isCountName name = true) :
    systemColumnSource hostIdOf name peersColumns systemLocalColumnData virtualHost proxyPort
      rowCount = .column true (.int rowCount) := by
  simp [systemColumnSource, fixedColumnValue_of_isCountName counting, counting]

end CountColumn

theorem length_clearNonCountValues (selectors : List Selector) (row : List SystemValue) :
    (clearNonCountValues selectors row).length = row.length := by
  simp [clearNonCountValues]

/-- A count keeps its value in the proxy's own row. -/
theorem clearNonCountValues_of_isCountSelector {selectors : List Selector}
    {row : List SystemValue} {j : Nat} {selector : Selector} (at_ : selectors[j]? = some selector)
    (counted : isCountSelector selector = true) :
    (clearNonCountValues selectors row)[j]? = row[j]? := by
  simp only [clearNonCountValues, List.getElem?_map, List.getElem?_zipIdx]
  cases row[j]? <;> simp [at_, counted]

/-! ## The result -/

section PadRowAt

variable {α : Type} {row : List α} {width j : Nat} {value : α}

theorem getElem?_padRow_of_getElem? (found : row[j]? = some value) :
    (padRow row width)[j]? = some (some value) := by
  have inside : j < row.length := (List.getElem?_eq_some_iff.mp found).1
  unfold padRow
  rw [List.getElem?_append_left (by simpa using inside), List.getElem?_map, found]
  rfl

theorem getElem?_of_getElem?_padRow (found : (padRow row width)[j]? = some (some value)) :
    row[j]? = some value := by
  unfold padRow at found
  by_cases inside : j < row.length
  · rw [List.getElem?_append_left (by simpa using inside), List.getElem?_map] at found
    simpa using found
  · rw [List.getElem?_append_right (by simp; omega), List.getElem?_replicate] at found
    split at found <;> simp at found

end PadRowAt

/-- A cell of a row encoded through `padRow`, at a position where the row has a value. -/
theorem cell_of_getElem? {encode : CqlType → SystemValue → Except String Encoded}
    {columns : List (ColumnMetadata CqlType)} {row : List SystemValue}
    {cells : List (Option Encoded)} {j : Nat} {value : SystemValue}
    (short : row.length ≤ columns.length)
    (encoded : List.Forall₂ (EncodesAs encode) (columns.zip (padRow row columns.length)) cells)
    (found : row[j]? = some value) :
    ∃ column cell, columns[j]? = some column ∧ cells[j]? = some cell ∧
      EncodesAs encode (column, some value) cell := by
  have inside : j < columns.length := by
    have := (List.getElem?_eq_some_iff.mp found).1
    omega
  have entry : (columns.zip (padRow row columns.length))[j]? =
      some (columns[j], some value) := by
    rw [List.getElem?_zip_eq_some]
    exact ⟨List.getElem?_eq_getElem inside, getElem?_padRow_of_getElem? found⟩
  obtain ⟨cell, atCell, related⟩ := ExceptMap.forall₂_getElem? encoded entry
  exact ⟨columns[j], cell, List.getElem?_eq_getElem inside, atCell, related⟩

/-- The rows of the shown hosts, encoded: one list of cells per host, as wide as the columns,
each the encoding of the host's value. -/
theorem encodeRowsResult_rows {α : Type} {encode : CqlType → SystemValue → Except String Encoded}
    {columns : List (ColumnMetadata CqlType)} {spec : α → List (Option SystemValue)}
    {hosts : List α} {rows : List (List SystemValue)} {data : List (List (Option Encoded))}
    (related : List.Forall₂ (fun host row => row.length ≤ columns.length ∧
      padRow row columns.length = spec host) hosts rows)
    (encoded : encodeRowsResult encode columns rows = .ok data) :
    List.Forall₂ (fun host cells => cells.length = columns.length ∧
      List.Forall₂ (EncodesAs encode) (columns.zip (spec host)) cells) hosts data := by
  refine (ExceptMap.forall₂_comp related (encodeRowsResult_forall₂ encoded)).imp ?_
  rintro host cells ⟨row, ⟨short, padded⟩, rowIdx, encodedRow⟩
  have cellwise := encodeRow_forall₂ short encodedRow
  refine ⟨?_, padded ▸ cellwise⟩
  rw [← cellwise.length_eq, List.length_zip, length_padRow short, Nat.min_self]

theorem PeersRows.forall₂ {hostIdOf : List UInt8 → List UInt8}
    {peerColumnNames : Option (String → Bool)}
    {systemLocalColumnData : String → Option OptionalColumn} {parsedSelectClause : SelectClause}
    {proxyPort rowCount : Int} {initialColumns : List (ColumnMetadata CqlType)}
    {hosts : List (VirtualHost Host (List UInt8))} {state : PeersLoopState}
    (rows : PeersRows hostIdOf peerColumnNames systemLocalColumnData parsedSelectClause proxyPort
      rowCount initialColumns hosts state) :
    List.Forall₂ (fun host row => row.length ≤ state.columns.length ∧
      padRow row state.columns.length = systemPeerRow hostIdOf parsedSelectClause state.columns
        peerColumnNames systemLocalColumnData proxyPort rowCount host) hosts state.rows := by
  cases hosts with
  | nil =>
    simp only [PeersRows] at rows
    subst rows
    exact .nil
  | cons host hosts => exact rows.2.2.2

/-- For a star select, the result columns are the table's, so their names are distinct when the
table's are. -/
theorem filterSystemColumns_nodup_of {parsedSelectClause : SelectClause}
    {systemTableColumns resultColumns : List (ColumnMetadata CqlType)} {hasCount : Bool}
    (distinct : (systemTableColumns.map (·.name)).Nodup)
    (filtered : filterSystemColumns parsedSelectClause systemTableColumns =
      .ok (resultColumns, hasCount)) :
    parsedSelectClause.selectors = none → (resultColumns.map (·.name)).Nodup := by
  intro star
  simp only [filterSystemColumns, star, Except.ok.injEq, Prod.mk.injEq] at filtered
  rw [← filtered.1]
  exact distinct

/-- For a star select, the result columns start as the table's, whose names are distinct. -/
theorem filterSystemColumns_nodup {parsedSelectClause : SelectClause}
    {resultColumns : List (ColumnMetadata CqlType)} {hasCount : Bool}
    (filtered : filterSystemColumns parsedSelectClause systemPeersColumns =
      .ok (resultColumns, hasCount)) :
    parsedSelectClause.selectors = none → (resultColumns.map (·.name)).Nodup :=
  filterSystemColumns_nodup_of (by decide) filtered

/-- What a successful `NewSystemPeersResult` without a prepare request did: the result columns,
the loop over the hosts, and the encoding of the rows it kept. -/
theorem newSystemPeersResult_ok {encode : CqlType → SystemValue → Except String Encoded}
    {hostIdOf : List UInt8 → List UInt8} {peerColumnNames : Option (String → Bool)}
    {systemLocalColumnData : String → Option OptionalColumn} {parsedSelectClause : SelectClause}
    {virtualHosts : List (VirtualHost Host (List UInt8))} {localVirtualHostIndex : Nat}
    {proxyPort : Int} {result : SystemResult Encoded}
    (succeeded : newSystemPeersResult encode hostIdOf false peerColumnNames systemLocalColumnData
      parsedSelectClause virtualHosts localVirtualHostIndex proxyPort = .ok result) :
    ∃ resultColumns hasCount final data,
      filterSystemColumns parsedSelectClause systemPeersColumns = .ok (resultColumns, hasCount) ∧
      systemPeersLoop hostIdOf false peerColumnNames systemLocalColumnData parsedSelectClause
        virtualHosts.length localVirtualHostIndex proxyPort hasCount virtualHosts.zipIdx
        ⟨true, [], resultColumns, []⟩ = .ok final ∧
      encodeRowsResult encode final.columns
        (finishRows (parsedSelectClause.selectors.getD []) virtualHosts.length
          localVirtualHostIndex hasCount final.rows) = .ok data ∧
      result = .rowsResult final.columns data := by
  unfold newSystemPeersResult at succeeded
  cases filtered : filterSystemColumns parsedSelectClause systemPeersColumns with
  | error err => simp [filtered] at succeeded
  | ok filteredColumns =>
    obtain ⟨resultColumns, hasCount⟩ := filteredColumns
    simp only [filtered] at succeeded
    cases looped : systemPeersLoop hostIdOf false peerColumnNames systemLocalColumnData
        parsedSelectClause virtualHosts.length localVirtualHostIndex proxyPort hasCount
        virtualHosts.zipIdx ⟨true, [], resultColumns, []⟩ with
    | error err => simp [looped] at succeeded
    | ok final =>
      simp only [looped, Bool.false_eq_true, if_false] at succeeded
      cases encoded : encodeRowsResult encode final.columns
          (finishRows (parsedSelectClause.selectors.getD []) virtualHosts.length
            localVirtualHostIndex hasCount final.rows) with
      | error err => simp [encoded] at succeeded
      | ok data =>
        simp only [encoded, Except.ok.injEq] at succeeded
        exact ⟨resultColumns, hasCount, final, data, rfl, looped, encoded, succeeded.symm⟩

section Finish

variable {selectors : List Selector} {hostsCount localVirtualHostIndex : Nat}
  {rows : List (List SystemValue)}

theorem finishRows_only_host (one : hostsCount = 1) (localZero : localVirtualHostIndex = 0) :
    finishRows selectors hostsCount localVirtualHostIndex false rows = [] := by
  simp [finishRows, one, localZero]

theorem finishRows_count_only_host (one : hostsCount = 1) (row : List SystemValue) :
    finishRows selectors hostsCount localVirtualHostIndex true [row] =
      [clearNonCountValues selectors row] := by
  simp [finishRows, one]

theorem finishRows_of_peers (several : hostsCount ≠ 1) (hasCount : Bool) :
    finishRows selectors hostsCount localVirtualHostIndex hasCount rows = rows := by
  simp [finishRows, several]

end Finish

/-- A host's value for a column named `count` is the row count. -/
theorem systemPeerRow_of_isCountName {hostIdOf : List UInt8 → List UInt8}
    {parsedSelectClause : SelectClause} {columns : List (ColumnMetadata CqlType)}
    {peerColumnNames : Option (String → Bool)}
    {systemLocalColumnData : String → Option OptionalColumn} {proxyPort rowCount : Int}
    {virtualHost : VirtualHost Host (List UInt8)} {j : Nat} {name : String}
    (named : (columnNames parsedSelectClause columns)[j]? = some name)
    (counting : isCountName name = true) :
    (systemPeerRow hostIdOf parsedSelectClause columns peerColumnNames systemLocalColumnData
      proxyPort rowCount virtualHost)[j]? = some (some (.int rowCount)) := by
  simp [systemPeerRow, named, systemColumnSource_of_isCountName _ _ _ _ counting,
    ColumnSource.value?]

/-- The selector behind a column named `count` is `count(*)`. -/
theorem isCountSelector_at {parsedSelectClause : SelectClause}
    {resultColumns : List (ColumnMetadata CqlType)} {hasCount : Bool}
    {selectors : List Selector} {j : Nat} {name : String}
    (unnested : ∀ selector ∈ parsedSelectClause.selectors.getD [], isUnnestedSelector selector)
    (filtered : filterSystemColumns parsedSelectClause systemPeersColumns =
      .ok (resultColumns, hasCount))
    (selected : parsedSelectClause.selectors = some selectors)
    (named : (selectors.map unaliasedColumnNameFromSelector)[j]? = some name)
    (counting : isCountName name = true) :
    ∃ selector, selectors[j]? = some selector ∧ isCountSelector selector = true := by
  rw [List.getElem?_map, Option.map_eq_some_iff] at named
  obtain ⟨selector, atSelector, unaliased⟩ := named
  simp only [filterSystemColumns, selected] at filtered
  cases mapped : selectors.mapM (columnFromSelector systemPeersColumns) with
  | error err => simp [mapped] at filtered
  | ok results =>
    obtain ⟨result, _, found⟩ :=
      ExceptMap.forall₂_getElem? (ExceptMap.mapM_eq_ok_iff.mp mapped) atSelector
    have member : selector ∈ parsedSelectClause.selectors.getD [] := by
      rw [selected, Option.getD_some]
      exact List.mem_of_getElem? atSelector
    exact ⟨selector, atSelector, isCountSelector_of_isCountName (unnested selector member) found
      (unaliased ▸ counting)⟩

section Result

variable {encode : CqlType → SystemValue → Except String Encoded}
  {hostIdOf : List UInt8 → List UInt8} {peerColumnNames : Option (String → Bool)}
  {systemLocalColumnData : String → Option OptionalColumn} {parsedSelectClause : SelectClause}
  {virtualHosts : List (VirtualHost Host (List UInt8))} {localVirtualHostIndex : Nat}
  {proxyPort : Int} {resultColumns : List (ColumnMetadata CqlType)} {final : PeersLoopState}
  {data : List (List (Option Encoded))}

/-- Without a count, one row per virtual host other than the local one. -/
theorem peersResult_rows_of_no_count (isLocal : localVirtualHostIndex < virtualHosts.length)
    (filtered : filterSystemColumns parsedSelectClause systemPeersColumns =
      .ok (resultColumns, false))
    (looped : systemPeersLoop hostIdOf false peerColumnNames systemLocalColumnData
      parsedSelectClause virtualHosts.length localVirtualHostIndex proxyPort false
      virtualHosts.zipIdx ⟨true, [], resultColumns, []⟩ = .ok final)
    (encoded : encodeRowsResult encode final.columns
      (finishRows (parsedSelectClause.selectors.getD []) virtualHosts.length
        localVirtualHostIndex false final.rows) = .ok data) :
    List.Forall₂ (fun virtualHost cells => cells.length = final.columns.length ∧
        List.Forall₂ (EncodesAs encode) (final.columns.zip (systemPeerRow hostIdOf
          parsedSelectClause final.columns peerColumnNames systemLocalColumnData proxyPort
          ((virtualHosts.length : Int) - 1) virtualHost)) cells)
      (virtualHosts.eraseIdx localVirtualHostIndex) data := by
  have rows := systemPeersLoop_rows virtualHosts.length localVirtualHostIndex
    (filterSystemColumns_nodup filtered) virtualHosts.zipIdx [] _ final rfl looped
  rw [List.nil_append, shownHosts_zipIdx] at rows
  by_cases one : virtualHosts.length = 1
  · -- the proxy is the only host: its row is dropped
    rw [finishRows_only_host one (by omega)] at encoded
    have noData : data = [] := by
      simp only [encodeRowsResult, List.zipIdx_nil, List.mapM_nil] at encoded
      exact (Except.ok.inj encoded).symm
    obtain ⟨onlyHost, rfl⟩ := List.length_eq_one_iff.mp one
    have localZero : localVirtualHostIndex = 0 := by simp at isLocal; omega
    rw [noData, localZero, List.eraseIdx_cons_zero]
    exact .nil
  · rw [finishRows_of_peers one] at encoded
    rw [if_neg one] at rows
    exact encodeRowsResult_rows (PeersRows.forall₂ rows) encoded

/-- The row a count keeps: the proxy's own with its other values cleared, or the first peer's;
either way as wide as the loop's row and with its values for the `count` columns. -/
theorem finishRows_count_kept (hostsCount localVirtualHostIndex : Nat)
    (columns : List (ColumnMetadata CqlType)) (row : List SystemValue)
    (unnested : ∀ selector ∈ parsedSelectClause.selectors.getD [], isUnnestedSelector selector)
    (filtered : filterSystemColumns parsedSelectClause systemPeersColumns =
      .ok (resultColumns, true)) :
    ∃ kept, finishRows (parsedSelectClause.selectors.getD []) hostsCount localVirtualHostIndex
        true [row] = [kept] ∧ kept.length = row.length ∧
      ∀ (j : Nat) (name : String), (columnNames parsedSelectClause columns)[j]? = some name →
        isCountName name = true → kept[j]? = row[j]? := by
  by_cases one : hostsCount = 1
  · refine ⟨clearNonCountValues (parsedSelectClause.selectors.getD []) row,
      finishRows_count_only_host one row, length_clearNonCountValues _ _, ?_⟩
    intro j name named counting
    cases selected : parsedSelectClause.selectors with
    | none => simp [filterSystemColumns, selected] at filtered
    | some selectors =>
      simp only [columnNames, selected] at named
      obtain ⟨selector, atSelector, isCount⟩ :=
        isCountSelector_at unnested filtered selected named counting
      rw [Option.getD_some]
      exact clearNonCountValues_of_isCountSelector atSelector isCount
  · exact ⟨row, finishRows_of_peers one true, rfl, fun _ _ _ _ => rfl⟩

/-- With a count, a single row, whose columns named `count` hold the number of peers. -/
theorem peersResult_row_of_count
    (unnested : ∀ selector ∈ parsedSelectClause.selectors.getD [], isUnnestedSelector selector)
    (isLocal : localVirtualHostIndex < virtualHosts.length)
    (filtered : filterSystemColumns parsedSelectClause systemPeersColumns =
      .ok (resultColumns, true))
    (looped : systemPeersLoop hostIdOf false peerColumnNames systemLocalColumnData
      parsedSelectClause virtualHosts.length localVirtualHostIndex proxyPort true
      virtualHosts.zipIdx ⟨true, [], resultColumns, []⟩ = .ok final)
    (encoded : encodeRowsResult encode final.columns
      (finishRows (parsedSelectClause.selectors.getD []) virtualHosts.length
        localVirtualHostIndex true final.rows) = .ok data) :
    ∃ cells, data = [cells] ∧ cells.length = final.columns.length ∧
      ∀ (j : Nat) (name : String),
        (columnNames parsedSelectClause final.columns)[j]? = some name →
        isCountName name = true →
        ∃ column cell, final.columns[j]? = some column ∧ cells[j]? = some cell ∧
          EncodesAs encode (column, some (.int ((virtualHosts.length : Int) - 1))) cell := by
  have rows := systemPeersLoop_count virtualHosts.length localVirtualHostIndex
    (filterSystemColumns_nodup filtered) virtualHosts.zipIdx final looped
  rw [shownHosts_zipIdx] at rows
  -- the loop makes a row of the first host it shows, and stops
  obtain ⟨host, others, first⟩ := List.exists_cons_of_ne_nil (shown_ne_nil isLocal)
  rw [first, List.take_succ_cons, List.take_zero] at rows
  obtain ⟨row, ⟨short, padded⟩, rowsEq⟩ :=
    ExceptMap.forall₂_singleton_left_iff.mp (PeersRows.forall₂ rows)
  obtain ⟨kept, finished, keptLength, keptCounts⟩ := finishRows_count_kept virtualHosts.length
    localVirtualHostIndex final.columns row unnested filtered
  rw [rowsEq, finished] at encoded
  have keptRow : List.Forall₂ (fun _ row => row.length ≤ final.columns.length ∧
      padRow row final.columns.length = padRow kept final.columns.length) [host] [kept] :=
    .cons ⟨keptLength ▸ short, rfl⟩ .nil
  obtain ⟨cells, ⟨width, cellwise⟩, dataEq⟩ :=
    ExceptMap.forall₂_singleton_left_iff.mp (encodeRowsResult_rows keptRow encoded)
  refine ⟨cells, dataEq, width, fun j name named counting => ?_⟩
  -- the host's value for a `count` column is the row count, and the kept row has it
  have counted : (systemPeerRow hostIdOf parsedSelectClause final.columns peerColumnNames
      systemLocalColumnData proxyPort ((virtualHosts.length : Int) - 1) host)[j]? =
        some (some (.int ((virtualHosts.length : Int) - 1))) :=
    systemPeerRow_of_isCountName named counting
  rw [← padded] at counted
  have inRow := getElem?_of_getElem?_padRow counted
  rw [← keptCounts j name named counting] at inRow
  exact cell_of_getElem? (keptLength ▸ short) cellwise inRow

end Result

/-- `NewSystemPeersResult` without a prepare request, for `n ≥ 1` virtual hosts and a local
index below `n`, with a select clause the query inspector extracted: a result has one row per
virtual host other than the local one, none when the proxy is alone, each row as wide as the
columns and each cell the encoding of that host's value for the column; or, with a count, a
single row whose columns named `count` hold `n - 1`. -/
theorem newSystemPeersResult_one_row_per_peer
    (encode : CqlType → SystemValue → Except String Encoded) (hostIdOf : List UInt8 → List UInt8)
    (peerColumnNames : Option (String → Bool))
    (systemLocalColumnData : String → Option OptionalColumn) (context : SelectClauseContext)
    (parsedSelectClause : SelectClause) (virtualHosts : List (VirtualHost Host (List UInt8)))
    (localVirtualHostIndex : Nat) (proxyPort : Int) (result : SystemResult Encoded)
    (extracted : extractSelectClause context = .ok parsedSelectClause)
    (isLocal : localVirtualHostIndex < virtualHosts.length)
    (succeeded : newSystemPeersResult encode hostIdOf false peerColumnNames systemLocalColumnData
      parsedSelectClause virtualHosts localVirtualHostIndex proxyPort = .ok result) :
    ∃ columns data, result = .rowsResult columns data ∧
      (∀ cells ∈ data, cells.length = columns.length) ∧
      (hasCountSelector parsedSelectClause = false →
        List.Forall₂ (fun virtualHost cells => List.Forall₂ (EncodesAs encode)
            (columns.zip (systemPeerRow hostIdOf parsedSelectClause columns peerColumnNames
              systemLocalColumnData proxyPort ((virtualHosts.length : Int) - 1) virtualHost))
            cells)
          (virtualHosts.eraseIdx localVirtualHostIndex) data) ∧
      (hasCountSelector parsedSelectClause = true →
        ∃ cells, data = [cells] ∧
          ∀ (j : Nat) (name : String), (columnNames parsedSelectClause columns)[j]? = some name →
            isCountName name = true →
            ∃ column cell, columns[j]? = some column ∧ cells[j]? = some cell ∧
              EncodesAs encode (column, some (.int ((virtualHosts.length : Int) - 1))) cell) := by
  have unnested := extractSelectClause_unnested extracted
  obtain ⟨resultColumns, hasCount, final, data, filtered, looped, encoded, rfl⟩ :=
    newSystemPeersResult_ok succeeded
  have counted := filterSystemColumns_hasCountSelector unnested filtered
  refine ⟨final.columns, data, rfl, ?_⟩
  cases hasCount with
  | false =>
    have perHost := peersResult_rows_of_no_count isLocal filtered looped encoded
    refine ⟨ExceptMap.forall_mem_of_forall₂ perHost fun _ _ row => row.1,
      fun _ => perHost.imp fun _ _ row => row.2, fun withCount => ?_⟩
    rw [← counted] at withCount
    cases withCount
  | true =>
    obtain ⟨cells, single, width, counts⟩ :=
      peersResult_row_of_count unnested isLocal filtered looped encoded
    refine ⟨fun other member => ?_, fun withoutCount => ?_, fun _ => ⟨cells, single, counts⟩⟩
    · rw [single, List.mem_singleton] at member
      rw [member, width]
    · rw [← counted] at withoutCount
      cases withoutCount

/-- A Cassandra 3.11 node as `parseHost` reads it from `system.peers`: its row has
`release_version` and `preferred_ip`, and none of the DSE columns. -/
def cassandraHost : Host where
  datacenter := "dc1"
  schemaVersion := none
  columnData := fun name =>
    if name = "release_version" then some ⟨.text "3.11.10", true⟩
    else if name = "preferred_ip" then some ⟨.inet [10, 0, 1, 1], true⟩
    else if name ∈ ["dse_version", "graph", "jmx_port", "server_id", "storage_port",
        "storage_port_ssl", "workload", "workloads", "native_transport_address",
        "native_transport_port", "native_transport_port_ssl"] then some ⟨.null, false⟩
    else none

/-- The columns of `system.peers` on Cassandra 3.11. -/
def cassandraPeersColumns (name : String) : Bool :=
  name ∈ ["peer", "data_center", "host_id", "preferred_ip", "rack", "release_version",
    "rpc_address", "schema_version", "tokens"]

/-- Three proxies in front of the node, one token each. -/
def cassandraProxies : List (VirtualHost Host (List UInt8)) :=
  [⟨[-9223372036854775808], [10, 0, 0, 1], cassandraHost⟩,
    ⟨[-3074457345618258603], [10, 0, 0, 2], cassandraHost⟩,
    ⟨[3074457345618258602], [10, 0, 0, 3], cassandraHost⟩]

theorem newSystemPeersResult_one_row_per_peer_cassandra :
    ∃ result, newSystemPeersResult (fun _ value => (.ok value : Except String SystemValue))
        (fun addr => addr) false (some cassandraPeersColumns) (fun _ => none) ⟨none⟩
        cassandraProxies 0 9042 = .ok result ∧
      ∃ columns data, result = .rowsResult columns data ∧
        (∀ cells ∈ data, cells.length = columns.length) ∧
        (hasCountSelector ⟨none⟩ = false →
          List.Forall₂ (fun virtualHost cells =>
              List.Forall₂ (EncodesAs fun _ value => .ok value)
              (columns.zip (systemPeerRow (fun addr => addr) ⟨none⟩ columns
                (some cassandraPeersColumns) (fun _ => none) 9042
                ((cassandraProxies.length : Int) - 1) virtualHost)) cells)
            (cassandraProxies.eraseIdx 0) data) ∧
        (hasCountSelector ⟨none⟩ = true →
          ∃ cells, data = [cells] ∧
            ∀ (j : Nat) (name : String), (columnNames ⟨none⟩ columns)[j]? = some name →
              isCountName name = true →
              ∃ column cell, columns[j]? = some column ∧ cells[j]? = some cell ∧
                EncodesAs (fun _ value => .ok value) (column,
                  some (.int ((cassandraProxies.length : Int) - 1))) cell) :=
  ⟨_, rfl, newSystemPeersResult_one_row_per_peer (fun _ value => .ok value) (fun addr => addr)
    (some cassandraPeersColumns) (fun _ => none) .star ⟨none⟩ cassandraProxies 0 9042 _ rfl
    (by decide) rfl⟩

end ZdmProxy.Control
