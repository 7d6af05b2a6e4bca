import ZdmProxy.Routing.RequestInfo

/-!
# Rewriting the prepared result for the client

When `now()` calls of a prepared query were replaced by bind markers, the clusters prepare the
rewritten query and their prepared results list one variable per marker of the rewritten
query, generated markers included. `processPreparedResponse` hides the generated variables
from the client: in the positional branch it removes the column at index
`k + previousPositionalIndex + 1` of the `k`-th replaced term, the index at which the parameter
modifier later inserts the `k`-th generated value; in the named branch it removes the
`zdm__now` columns. Partition key indices are then filtered against the removed indices.

The cache keeps the cluster's unmodified result, which the parameter modifier reads.
-/

namespace ZdmProxy.Execute

open ZdmProxy.Cql ZdmProxy.Routing

variable {DataType : Type}

/-- `sort.Ints`: ascending order. -/
def sortInts (values : List Int) : List Int := values.mergeSort (fun left right => decide (left ≤ right))

/-- `sort.SearchInts` on an ascending list: the smallest index whose element is at least
`value`, which is where `value` would be inserted; the length when there is none. -/
def searchInts (sorted : List Int) (value : Int) : Nat :=
  sorted.findIdx (fun element => decide (value ≤ element))

/-- `sort.SearchStrings` on an ascending list, in the byte order of the strings. -/
def searchStrings (sorted : List String) (value : String) : Nat :=
  sorted.findIdx (fun element => decide (value ≤ element))

/-- `GetSortedZdmNamedMarkers`. -/
def sortedZdmNamedMarkers : List String := [zdmNowNamedMarker]

/-- `positionalMarkersToRemove`: `k + previousPositionalIndex + 1` for the `k`-th replaced
term. -/
def positionalMarkersToRemove (replacedTerms : List Term) : List Int :=
  (replacedTerms.zipIdx).map fun (term, offset) => offset + term.previousPositionalIndex + 1

/-- The state of the column removal loop: the next column to copy, the columns kept so far
and the indices removed so far. -/
structure RemovalState (Column : Type) where
  start : Nat
  newColumns : List Column
  indicesToRemove : List Int

/-- One iteration of the positional removal loop. An index is removed only when it is below
`len(Columns)-1`; the slice `Columns[start:index]` panics when `index < start`. -/
def positionalRemovalStep {Column : Type} (columns : List Column) (state : RemovalState Column)
    (index : Int) : Except String (RemovalState Column) :=
  if index < (columns.length : Int) - 1 then
    if (state.start : Int) ≤ index then
      .ok { start := index.toNat + 1
            newColumns := state.newColumns ++ (columns.drop state.start).take (index.toNat - state.start)
            indicesToRemove := state.indicesToRemove ++ [index] }
    else .error "slice bounds out of range"
  else .ok state

/-- The positional removal loop over the indices to remove, in order. -/
def positionalRemovalLoop {Column : Type} (columns : List Column) :
    RemovalState Column → List Int → Except String (RemovalState Column)
  | state, [] => .ok state
  | state, index :: rest => do
      let next ← positionalRemovalStep columns state index
      positionalRemovalLoop columns next rest

/-- The partition key indices kept after a removal: those at which `SearchInts` on the sorted
removed indices returns the length, that is the indices above every removed index. They are
kept unchanged. No filtering happens when nothing was removed or there is no key index. -/
def filterPkIndices (indicesToRemove : List Int) (pkIndices : List Nat) : List Nat :=
  if !indicesToRemove.isEmpty && !pkIndices.isEmpty then
    let sorted := sortInts indicesToRemove
    pkIndices.filter fun pkIndex => searchInts sorted pkIndex == sorted.length
  else pkIndices

/-- The positional branch of `processPreparedResponse`. -/
def removePositionalMarkers (replacedTerms : List Term) (metadata : VariablesMetadata DataType) :
    Except String (VariablesMetadata DataType) := do
  let toRemove := positionalMarkersToRemove replacedTerms
  if metadata.columns.length < toRemove.length then
    throw "prepared response variables metadata has less parameters than the number of markers to remove"
  let final ← positionalRemovalLoop metadata.columns ⟨0, [], []⟩ toRemove
  pure { pkIndices := filterPkIndices final.indicesToRemove metadata.pkIndices
         columns := final.newColumns ++ metadata.columns.drop final.start }

/-- One iteration of the named removal loop, at column index `index`: an unnamed column is
skipped, and a named column is removed when `SearchStrings` does not return the length. -/
def namedRemovalStep (columns : List (ColumnMetadata DataType))
    (state : RemovalState (ColumnMetadata DataType)) (indexed : ColumnMetadata DataType × Nat) :
    RemovalState (ColumnMetadata DataType) :=
  let (column, index) := indexed
  if column.name == "" then state
  else if searchStrings sortedZdmNamedMarkers column.name != sortedZdmNamedMarkers.length then
    { start := index + 1
      newColumns := state.newColumns ++ (columns.drop state.start).take (index - state.start)
      indicesToRemove := state.indicesToRemove ++ [(index : Int)] }
  else state

/-- The named branch of `processPreparedResponse`. -/
def removeNamedMarkers (metadata : VariablesMetadata DataType) : VariablesMetadata DataType :=
  let final := (metadata.columns.zipIdx).foldl (namedRemovalStep metadata.columns) ⟨0, [], []⟩
  { pkIndices := filterPkIndices final.indicesToRemove metadata.pkIndices
    columns := final.newColumns ++ metadata.columns.drop final.start }

/-- The variables metadata `processPreparedResponse` sends to the client. -/
def clientVariablesMetadata (info : PrepareRequestInfo DataType)
    (metadata : Option (VariablesMetadata DataType)) :
    Except String (Option (VariablesMetadata DataType)) :=
  if info.replacedTerms.isEmpty then .ok metadata
  else
    match metadata with
    | none => .error
        "replaced terms in the prepared statement but prepared result doesn't have variables metadata"
    | some metadata =>
        if info.containsPositionalMarkers then
          some <$> removePositionalMarkers info.replacedTerms metadata
        else .ok (some (removeNamedMarkers metadata))

/-- `processPreparedResponse`: the prepared result sent to the client and the entry stored in
the prepared statement cache, which keeps the clusters' unmodified results. -/
def processPreparedResponse (originResult : PreparedResult DataType)
    (requestInfo : RequestInfo DataType) (targetResult : Option (PreparedResult DataType)) :
    Except String (PreparedResult DataType × PreparedData DataType) :=
  match originResult.preparedQueryId, requestInfo, targetResult with
  | none, _, _ => .error "unexpected prepared query id nil"
  | some _, .generic .., _ | some _, .intercepted .., _ | some _, .execute _, _
  | some _, .batch _, _ =>
      .error "unexpected request context statement info is not prepared statement info"
  | some _, .prepare _, none => .error "unexpected target response nil"
  | some _, .prepare info, some target => do
      let metadata ← clientVariablesMetadata info originResult.variablesMetadata
      pure ({ originResult with variablesMetadata := metadata },
        newPreparedData originResult target info)

/-- `INSERT INTO t (a, b) VALUES (?, now())`: the `now()` call is the last value. -/
def insertWithNowLast : CqlStatementContext :=
  .insertStatement
    { tableName := ⟨none, .unquoted "t"⟩
      columns := [.unquoted "a", .unquoted "b"]
      values := [.bindMarker .positionalBindMarker, .functionCall ⟨none, .unquoted "now"⟩ []]
      ifNotExists := false
      usingClause := none }

/-- The text of `insertWithNowLast`. -/
def insertWithNowLastText : QueryText :=
  .ofTokens insertWithNowLast.tokens [1, 2, 3, 6, 8, 9, 12] (by decide)

theorem processPreparedResponse_keeps_generated_last_column :
    positionalMarkersToRemove (((inspectCqlQuery insertWithNowLastText insertWithNowLast
        "").parsedStatements.flatMap ParsedStatement.terms).filter Term.isNowCall) = [1] ∧
      (processPreparedResponse ⟨some [1], some ⟨[0], [⟨"a", ()⟩, ⟨"b", ()⟩]⟩⟩
          (.prepare ⟨.generic .forwardToBoth false true,
            ((inspectCqlQuery insertWithNowLastText insertWithNowLast "").parsedStatements.flatMap
              ParsedStatement.terms).filter Term.isNowCall, true, insertWithNowLastText, ""⟩)
          (some ⟨some [2], some ⟨[0], [⟨"a", ()⟩, ⟨"b", ()⟩]⟩⟩)).map (·.1.variablesMetadata) =
        .ok (some ⟨[0], [⟨"a", ()⟩, ⟨"b", ()⟩]⟩) := by
  decide +kernel

end ZdmProxy.Execute
