import Mathlib

/-!
# Queries on a control connection

The control connection reads `system.local` and `system.peers` with `cqlConn.Query`
(`cqlconn.go`) on every topology refresh. `Query` builds one QUERY frame, without a paging
state, and loops: it sends the frame and waits for the response. A ROWS result is decoded by
`ParseRowsResult` (`nativeprotocol.go`) and its rows appended to those already read; the loop
returns when the page has no paging state. A VOID result returns the rows read so far, or an
error before any, and an ERROR result returns an error. For any other result the loop goes on.

The model runs the loop with fuel, one unit per iteration, and records every frame it sends.
A server is any function from the frame to its response. The frame never changes: when the
first page carries a paging state, or the response is of another kind, the loop sends the
same frame again and again and never returns, for any fuel
(`query_resends_first_frame`).
-/

namespace ZdmProxy.Conn

variable {Column Value Decoded : Type}

/-- A QUERY frame as `Query` builds it: the statement and the paging state of its options. -/
structure QueryFrame where
  query : String
  pagingState : Option (List UInt8)
  deriving DecidableEq, Repr

/-- A ROWS result: the column metadata, absent when the server sent none, the paging state of
the next page, and the rows' raw values. -/
structure RowsResult (Column Value : Type) where
  metadataColumns : Option (List Column)
  pagingState : Option (List UInt8)
  data : List (List Value)

/-- A response to the query, by its message. -/
inductive QueryResponse (Column Value : Type) where
  | rowsResult (result : RowsResult Column Value)
  | voidResult
  | error (message : String)
  /-- Any other message, such as SET_KEYSPACE or SCHEMA_CHANGE results. -/
  | other

/-- `ParsedRowSet`; the column indexes are a function of the columns. -/
structure ParsedRowSet (Column Decoded : Type) where
  columns : List Column
  pagingState : Option (List UInt8)
  rows : List (List Decoded)

/-- The rows decoded against `columns`: each must have one value per column. -/
def decodeRows (decode : Column → Value → Except String Decoded) (columns : List Column)
    (data : List (List Value)) : Except String (List (List Decoded)) :=
  data.zipIdx.mapM fun (row, rowIdx) =>
    if row.length ≠ columns.length then .error "column metadata doesn't match row length"
    else
      (row.zip columns).zipIdx.mapM fun ((value, column), colIdx) =>
        match decode column value with
        | .error err => .error s!"could not parse col {colIdx} of row {rowIdx}: {err}"
        | .ok decoded => .ok decoded

/-- `ParseRowsResult`, with the columns of the pages before, if any. A first page without
metadata and without rows is an empty row set, without its paging state. -/
def parseRowsResult (decode : Column → Value → Except String Decoded)
    (result : RowsResult Column Value) (columns : Option (List Column)) :
    Except String (ParsedRowSet Column Decoded) :=
  let withColumns (columns : List Column) : Except String (ParsedRowSet Column Decoded) :=
    match decodeRows decode columns result.data with
    | .error err => .error err
    | .ok rows => .ok ⟨columns, result.pagingState, rows⟩
  match columns with
  | some columns => withColumns columns
  | none =>
      match result.metadataColumns with
      | some columns => withColumns columns
      | none =>
          if result.data = [] then .ok ⟨[], none, []⟩
          else .error "could not parse rows result because the server did not return any column metadata"

/-- The loop of `cqlConn.Query` for at most `fuel` more iterations, from the rows read so far:
the frames it sends and its result, `none` while it has not returned. `sendAndReceive` is the
connection with the server behind it. -/
def queryLoop (sendAndReceive : QueryFrame → Except String (QueryResponse Column Value))
    (decode : Column → Value → Except String Decoded) (cql : String) :
    Nat → Option (ParsedRowSet Column Decoded) →
      List QueryFrame × Option (Except String (ParsedRowSet Column Decoded))
  | 0, _ => ([], none)
  | fuel + 1, rowSet =>
      let queryFrame : QueryFrame := ⟨cql, none⟩
      let (sent, result) : List QueryFrame × Option (Except String (ParsedRowSet Column Decoded)) :=
        match sendAndReceive queryFrame with
        | .error err => ([], some (.error err))
        | .ok (.rowsResult result) =>
            match parseRowsResult decode result (rowSet.map (·.columns)) with
            | .error err => ([], some (.error s!"could not parse rows result: {err}"))
            | .ok newRowSet =>
                let oldRows := (rowSet.map (·.rows)).getD []
                let rowSet : ParsedRowSet Column Decoded :=
                  ⟨newRowSet.columns, newRowSet.pagingState, oldRows ++ newRowSet.rows⟩
                match rowSet.pagingState with
                | none => ([], some (.ok rowSet))
                | some _ => queryLoop sendAndReceive decode cql fuel (some rowSet)
        | .ok .voidResult =>
            match rowSet with
            | none => ([], some (.error
                s!"server returned void result instead of rows result for query {cql}"))
            | some rowSet => ([], some (.ok rowSet))
        | .ok (.error message) =>
            ([], some (.error s!"server returned error {message} for query {cql}"))
        | .ok .other => queryLoop sendAndReceive decode cql fuel rowSet
      (queryFrame :: sent, result)

/-- `cqlConn.Query` with at most `fuel` iterations. -/
def query (sendAndReceive : QueryFrame → Except String (QueryResponse Column Value))
    (decode : Column → Value → Except String Decoded) (cql : String) (fuel : Nat) :
    List QueryFrame × Option (Except String (ParsedRowSet Column Decoded)) :=
  queryLoop sendAndReceive decode cql fuel none

section Loop

variable {sendAndReceive : QueryFrame → Except String (QueryResponse Column Value)}
  {decode : Column → Value → Except String Decoded} {cql : String}

/-- A page with metadata decodes the same against its own columns as against none. -/
theorem parseRowsResult_some_columns {result : RowsResult Column Value} {columns : List Column}
    (metadata : result.metadataColumns = some columns) :
    parseRowsResult decode result (some columns) = parseRowsResult decode result none := by
  simp only [parseRowsResult, metadata]

/-- A page with metadata and rows that decode is parsed with its paging state. -/
theorem parseRowsResult_of_decodeRows {result : RowsResult Column Value} {columns : List Column}
    {rows : List (List Decoded)} (decoded : decodeRows decode columns result.data = .ok rows) :
    parseRowsResult decode result (some columns) = .ok ⟨columns, result.pagingState, rows⟩ := by
  simp only [parseRowsResult, decoded]

/-- An answer of another kind makes the loop send the same frame again. -/
theorem queryLoop_of_other (other : sendAndReceive ⟨cql, none⟩ = .ok .other) :
    ∀ (fuel : Nat) (rowSet : Option (ParsedRowSet Column Decoded)),
      queryLoop sendAndReceive decode cql fuel rowSet = (List.replicate fuel ⟨cql, none⟩, none) := by
  intro fuel
  induction fuel with
  | zero => intro _; rfl
  | succ fuel inductionHypothesis =>
    intro rowSet
    simp only [queryLoop, other, inductionHypothesis, List.replicate_succ]

/-- A first page with a paging state makes the loop send the same frame again: the frame asks
for the first page, which comes back with its paging state each time. -/
theorem queryLoop_of_paged {result : RowsResult Column Value} {columns : List Column}
    {pagingState : List UInt8} {rows : List (List Decoded)}
    (answered : sendAndReceive ⟨cql, none⟩ = .ok (.rowsResult result))
    (metadata : result.metadataColumns = some columns)
    (paged : result.pagingState = some pagingState)
    (decoded : decodeRows decode columns result.data = .ok rows) :
    ∀ (fuel : Nat) (rowSet : Option (ParsedRowSet Column Decoded)),
      rowSet.map (·.columns) = none ∨ rowSet.map (·.columns) = some columns →
      queryLoop sendAndReceive decode cql fuel rowSet = (List.replicate fuel ⟨cql, none⟩, none) := by
  have parsed := parseRowsResult_of_decodeRows decoded
  rw [paged] at parsed
  intro fuel
  induction fuel with
  | zero => intro _ _; rfl
  | succ fuel inductionHypothesis =>
    intro rowSet sameColumns
    -- the rows read so far are either none or of the page's own columns
    have reparsed : parseRowsResult decode result (rowSet.map (·.columns)) =
        .ok ⟨columns, some pagingState, rows⟩ := by
      rcases sameColumns with first | later
      · rw [first, ← parseRowsResult_some_columns metadata, parsed]
      · rw [later, parsed]
    have again := inductionHypothesis
      (some ⟨columns, some pagingState, (rowSet.map (·.rows)).getD [] ++ rows⟩) (Or.inr rfl)
    simp only [queryLoop, answered, reparsed, again, List.replicate_succ]

end Loop

/-- `cqlConn.Query` never returns, however many iterations it runs, when the server answers its
frame with a page that has a paging state or with a result of another kind: every iteration
sends the same frame, without a paging state, and the next page is never asked for. -/
theorem query_resends_first_frame
    (sendAndReceive : QueryFrame → Except String (QueryResponse Column Value))
    (decode : Column → Value → Except String Decoded) (cql : String)
    (unfinished : sendAndReceive ⟨cql, none⟩ = .ok .other ∨
      ∃ result columns pagingState rows,
        sendAndReceive ⟨cql, none⟩ = .ok (.rowsResult result) ∧
        result.metadataColumns = some columns ∧ result.pagingState = some pagingState ∧
        decodeRows decode columns result.data = .ok rows) :
    ∀ fuel, query sendAndReceive decode cql fuel = (List.replicate fuel ⟨cql, none⟩, none) := by
  intro fuel
  rcases unfinished with other | ⟨result, columns, pagingState, rows, answered, metadata,
    paged, decoded⟩
  · exact queryLoop_of_other other fuel none
  · exact queryLoop_of_paged answered metadata paged decoded fuel none (Or.inl rfl)

/-- A server whose `system.peers` table takes two pages, one row each. -/
def twoPagePeers : QueryFrame → Except String (QueryResponse String Nat)
  | ⟨"SELECT * FROM system.peers", none⟩ => .ok (.rowsResult ⟨some ["peer"], some [1], [[7]]⟩)
  | ⟨"SELECT * FROM system.peers", some [1]⟩ => .ok (.rowsResult ⟨some ["peer"], none, [[8]]⟩)
  | _ => .ok .voidResult

theorem query_resends_first_frame_twoPagePeers :
    query twoPagePeers (fun _ value => .ok value) "SELECT * FROM system.peers" 3 =
      (List.replicate 3 ⟨"SELECT * FROM system.peers", none⟩, none) :=
  query_resends_first_frame twoPagePeers (fun _ value => .ok value) "SELECT * FROM system.peers"
    (.inr ⟨_, ["peer"], [1], [[7]], rfl, rfl, rfl, rfl⟩) 3

end ZdmProxy.Conn
