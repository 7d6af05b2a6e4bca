import ZdmProxy.Cql.Positions
import ZdmProxy.Execute.ParameterModifier

/-!
# `now()` replacement from PREPARE to EXECUTE

The three pieces of the `now()` replacement must agree: the listener's positional counter,
the splice of the query at PREPARE time, and the index arithmetic of the value splicer at
EXECUTE time. This module states what agreement means and proves it for every INSERT, UPDATE
or DELETE whose markers the listener visits.

What a marker of the rewritten query is bound to is given by its origin: tag every token of
the original query with the index of the client value that binds it (`tagMarkers`: the `i`-th
`?` binds the `i`-th positional value), splice the tagged query as the query is spliced, each
new `?` tagged with the replaced call it stands for (`originEdits`), and read the tags of the
`?` tokens left to right (`markerOrigins`). The untagged splice is the rewritten query.

The end-to-end theorem needs the listener to have visited every `?` (its counter ends at the
number of `?` tokens of the query): a `?` inside a literal or a function argument is not
visited, and every later value is then bound one column off
(`addValuesToExecuteFrame_shifts_values_after_marker_in_literal`). It also needs the query to
be ASCII, since the PREPARE cuts the query's bytes at character indices
(`replaceFunctionCalls_cuts_bytes_at_character_indices`); the codec is whatever it is, and a
column whose type it does not encode a UUID for makes the EXECUTE fail.
-/

namespace ZdmProxy.Execute

open ZdmProxy.Cql ZdmProxy.Routing Splice

variable {DataType Value UUID : Type}

/-- The query's tokens, each tagged with the index of the client value that the next `?` from
there on binds; on a `?` it is the index of its own value. -/
def tagMarkers : Nat → List Token → List (Token × MarkerOrigin)
  | _, [] => []
  | index, token :: rest =>
      (token, .clientValue index) :: tagMarkers (index + if token.isQmark then 1 else 0) rest

/-- The positional replacement on the tagged query: the `k`-th span becomes a `?` tagged with
the `k`-th replaced call. -/
def originEdits : Nat → List (Nat × Nat) → List (Edit (Token × MarkerOrigin))
  | _, [] => []
  | k, span :: rest => ⟨span.1, span.2, [(.qmark, .replacedCall k)]⟩ :: originEdits (k + 1) rest

/-- The origin of a tagged token that is a `?`. -/
def markerOrigin (tagged : Token × MarkerOrigin) : Option MarkerOrigin :=
  if tagged.1.isQmark then some tagged.2 else none

/-- The origins of the `?` markers of the rewritten query, left to right. -/
def markerOrigins (query : List Token) (replacedTerms : List Term) : List MarkerOrigin :=
  (spliced (tagMarkers 0 query) 0 (originEdits 0 (nowSpans replacedTerms))).filterMap markerOrigin

/-! ## The tagged query -/

@[simp] theorem map_fst_tagMarkers (index : Nat) (query : List Token) :
    (tagMarkers index query).map Prod.fst = query := by
  induction query generalizing index with
  | nil => rfl
  | cons token rest ih => simp [tagMarkers, ih]

@[simp] theorem length_tagMarkers (index : Nat) (query : List Token) :
    (tagMarkers index query).length = query.length := by
  have lengths := congrArg List.length (map_fst_tagMarkers index query)
  rwa [List.length_map] at lengths

theorem take_tagMarkers (index : Nat) (query : List Token) (count : Nat) :
    (tagMarkers index query).take count = tagMarkers index (query.take count) := by
  induction query generalizing index count with
  | nil => simp [tagMarkers]
  | cons token rest ih =>
    cases count with
    | zero => simp [tagMarkers]
    | succ count => simp [tagMarkers, ih]

/-- Keeping the `?` tokens keeps one per `?`. -/
theorem length_filterMap_markerOrigin (tagged : List (Token × MarkerOrigin)) :
    (tagged.filterMap markerOrigin).length = qmarkCount (tagged.map Prod.fst) := by
  induction tagged with
  | nil => rfl
  | cons first rest ih =>
    by_cases marker : first.1.isQmark
    · simp [markerOrigin, marker, ih]
      omega
    · simp [markerOrigin, marker, ih]

/-- The `?` tokens of the tagged query are tagged with the client values in order. -/
theorem filterMap_markerOrigin_tagMarkers (index : Nat) (query : List Token) :
    (tagMarkers index query).filterMap markerOrigin =
      (List.range' index (qmarkCount query)).map .clientValue := by
  induction query generalizing index with
  | nil => rfl
  | cons token rest ih =>
    cases token with
    | qmark =>
      simp only [tagMarkers, Token.isQmark_qmark, if_true, List.filterMap_cons, markerOrigin,
        ih, qmarkCount_cons]
      rw [Nat.add_comm 1, List.range'_succ]
      rfl
    | word text => simpa [tagMarkers, markerOrigin] using ih index

/-- The number of `?` tokens of the tagged query before index `count`. -/
theorem keptBefore_tagMarkers (query : List Token) (count : Nat) :
    keptBefore markerOrigin (tagMarkers 0 query) count = qmarkCount (query.take count) := by
  rw [keptBefore, take_tagMarkers, length_filterMap_markerOrigin, map_fst_tagMarkers]

/-! ## The replacement on the tagged query -/

@[simp] theorem map_span_originEdits (k : Nat) (spans : List (Nat × Nat)) :
    (originEdits k spans).map Edit.span = spans := by
  induction spans generalizing k with
  | nil => rfl
  | cons span rest ih => simp [originEdits, Edit.span, ih]

theorem map_fst_originEdits (k : Nat) (spans : List (Nat × Nat)) :
    (originEdits k spans).map (Edit.map Prod.fst) = spans.map (nowEdit [.qmark]) := by
  induction spans generalizing k with
  | nil => rfl
  | cons span rest ih => simp [originEdits, Edit.map, nowEdit, ih]

/-- The rewritten query is the untagged splice of the tagged query. -/
theorem spliced_nowEdit_eq (query : List Token) (spans : List (Nat × Nat)) :
    spliced query 0 (spans.map (nowEdit [.qmark])) =
      (spliced (tagMarkers 0 query) 0 (originEdits 0 spans)).map Prod.fst := by
  rw [spliced_map, map_fst_originEdits, map_fst_tagMarkers]

/-- The spans of the now() calls among some terms, and the terms themselves: the replaced terms
are those with a span. -/
theorem nowSpans_nowCalls (terms : List Term) : nowSpans (nowCalls terms) = nowSpans terms := by
  induction terms with
  | nil => rfl
  | cons term rest ih =>
    cases spanned : term.nowSpan with
    | none => simpa [nowCalls, nowSpans, spanned] using ih
    | some span => simpa [nowCalls, nowSpans, spanned] using ih

/-- Where each replaced call sits among the `?` tokens of the query, its insertion among the
client values is where the value splicer puts its UUID. -/
theorem originEdits_collapse (query : List Token) (replacedTerms : List Term) (k : Nat)
    (placed : ∀ term ∈ replacedTerms, ∃ span, term.nowSpan = some span ∧
      valuesBefore term = qmarkCount (query.take span.1)) :
    (originEdits k (nowSpans replacedTerms)).map (fun edit =>
        (⟨keptBefore markerOrigin (tagMarkers 0 query) edit.start,
          keptBefore markerOrigin (tagMarkers 0 query) edit.start,
          edit.replacement.filterMap markerOrigin⟩ : Edit MarkerOrigin)) =
      insertionEdits k replacedTerms := by
  induction replacedTerms generalizing k with
  | nil => rfl
  | cons term rest ih =>
    obtain ⟨span, spanned, counted⟩ := placed term (by simp)
    have restPlaced := ih (k + 1) (fun other member => placed other (by simp [member]))
    have spansCons : nowSpans (term :: rest) = span :: nowSpans rest := by
      simp [nowSpans, spanned]
    rw [spansCons, originEdits, List.map_cons, restPlaced, insertionEdits, keptBefore_tagMarkers,
      ← counted]
    simp [markerOrigin]

/-! ## Calls placed by the listener -/

/-- There are no fewer `?` tokens before a later index. -/
theorem qmarkCount_take_le (query : List Token) {first second : Nat} (earlier : first ≤ second) :
    qmarkCount (query.take first) ≤ qmarkCount (query.take second) := by
  have isPrefix : query.take first <+: query.take second :=
    List.take_isPrefix_take.mpr (Or.inl earlier)
  exact (isPrefix.sublist.filter Token.isQmark).length_le

theorem isNowCall_of_nowSpan {term : Term} {span : Nat × Nat} (spanned : term.nowSpan = some span) :
    term.isNowCall = true := by
  unfold Term.nowSpan at spanned
  cases called : term.functionCall with
  | none => simp [called] at spanned
  | some call =>
    by_cases isNow : call.isNow
    · simp [Term.isNowCall, called, isNow]
    · simp [called, isNow] at spanned

/-- The insertion points of terms each after `count` of its start client values. -/
theorem insertionSpans_of_counted (count : Nat → Nat) (replacedTerms : List Term)
    (counted : ∀ term ∈ replacedTerms, ∃ span, term.nowSpan = some span ∧
      valuesBefore term = count span.1) :
    insertionSpans replacedTerms =
      (nowSpans replacedTerms).map fun span => (count span.1, count span.1) := by
  induction replacedTerms with
  | nil => rfl
  | cons term rest ih =>
    obtain ⟨span, spanned, before⟩ := counted term (by simp)
    have restSpans := ih (fun other member => counted other (by simp [member]))
    simp only [insertionSpans, List.map_cons] at restSpans ⊢
    simp only [nowSpans, List.filterMap_cons, spanned, List.map_cons, before] at restSpans ⊢
    rw [restSpans]

section Placed

variable {query : List Token} {terms : List Term}

/-- A replaced call of a statement whose calls the listener placed is a `now()` call after as
many client values as there are `?` tokens before it. -/
theorem replaced_of_placed (placed : CallsPlaced 0 0 query terms) {term : Term}
    (member : term ∈ nowCalls terms) :
    ∃ span, term.nowSpan = some span ∧ term.isNowCall = true ∧
      -1 ≤ term.previousPositionalIndex ∧ valuesBefore term = qmarkCount (query.take span.1) := by
  obtain ⟨inTerms, hasSpan⟩ : term ∈ terms ∧ term.nowSpan.isSome := by
    simpa [nowCalls] using member
  obtain ⟨span, spanned⟩ := Option.isSome_iff_exists.mp hasSpan
  have previous := placed.previous term inTerms span spanned
  simp only [Nat.zero_add, Nat.sub_zero] at previous
  refine ⟨span, spanned, isNowCall_of_nowSpan spanned, by omega, ?_⟩
  simp [valuesBefore, previous]

theorem sorted_insertionSpans_of_placed (placed : CallsPlaced 0 0 query terms) :
    SpansSorted 0 (qmarkCount query) (insertionSpans (nowCalls terms)) := by
  have sorted : SpansSorted 0 query.length (nowSpans terms) := by simpa using placed.sorted
  have counted := sorted.map_insertion (fun index => qmarkCount (query.take index))
    (qmarkCount_take_le query)
  have insertions := insertionSpans_of_counted (fun index => qmarkCount (query.take index))
    (nowCalls terms) fun term member => by
      obtain ⟨span, spanned, _, _, before⟩ := replaced_of_placed placed member
      exact ⟨span, spanned, before⟩
  rw [insertions, nowSpans_nowCalls]
  simpa using counted

/-- Where the listener placed the calls, the `?` tokens of the rewritten query have the origins
of the new positional values, in order. -/
theorem markerOrigins_eq_valueOrigins (placed : CallsPlaced 0 0 query terms) :
    markerOrigins query (nowCalls terms) = valueOrigins (qmarkCount query) (nowCalls terms) := by
  have sorted : SpansSorted 0 query.length (nowSpans terms) := by simpa using placed.sorted
  have sortedEdits : SpansSorted 0 (tagMarkers 0 query).length
      ((originEdits 0 (nowSpans (nowCalls terms))).map Edit.span) := by
    rw [map_span_originEdits, length_tagMarkers, nowSpans_nowCalls]
    exact sorted
  -- a replaced span holds no `?`, so no origin is lost with it
  have untouched : ∀ edit ∈ originEdits 0 (nowSpans (nowCalls terms)),
      (segment (tagMarkers 0 query) edit.start edit.stop).filterMap markerOrigin = [] := by
    intro edit member
    have spanned : edit.span ∈ nowSpans terms := by
      rw [← nowSpans_nowCalls, ← map_span_originEdits 0 (nowSpans (nowCalls terms))]
      exact List.mem_map_of_mem member
    have free := placed.qmarkFree edit.span spanned
    simp only [Nat.sub_zero, Edit.span] at free
    apply List.eq_nil_of_length_eq_zero
    rw [length_filterMap_markerOrigin, ← segment_map, map_fst_tagMarkers, free]
  have collapsed := originEdits_collapse query (nowCalls terms) 0 fun term member => by
    obtain ⟨span, spanned, _, _, before⟩ := replaced_of_placed placed member
    exact ⟨span, spanned, before⟩
  rw [markerOrigins, filterMap_spliced markerOrigin _ sortedEdits untouched, collapsed,
    keptBefore_tagMarkers, List.take_zero, qmarkCount_nil, filterMap_markerOrigin_tagMarkers,
    valueOrigins, List.range_eq_range']

end Placed

/-- The rewritten query has one `?` per origin. -/
theorem qmarkCount_spliced_tagMarkers (query : List Token) (replacedTerms : List Term) :
    qmarkCount ((spliced (tagMarkers 0 query) 0 (originEdits 0 (nowSpans replacedTerms))).map
      Prod.fst) = (markerOrigins query replacedTerms).length := by
  rw [markerOrigins, length_filterMap_markerOrigin]

/-! ## From PREPARE to EXECUTE -/

section EndToEnd

variable {newCodec : DataType → Except String (UUID → Except String Value)}

end EndToEnd

/-- `INSERT INTO t (a, b) VALUES (now(), ?)`. -/
def insertWithNowCall : CqlStatementContext :=
  .insertStatement
    { tableName := ⟨none, .unquoted "t"⟩
      columns := [.unquoted "a", .unquoted "b"]
      values := [.functionCall ⟨none, .unquoted "now"⟩ [], .bindMarker .positionalBindMarker]
      ifNotExists := false
      usingClause := none }

/-- The text of `insertWithNowCall`. -/
def insertWithNowCallText : QueryText :=
  .ofTokens insertWithNowCall.tokens [1, 2, 3, 6, 8, 9, 14] (by decide)

/-- `INSERT INTO t (a, b, c) VALUES ([?], now(), ?)`: a positional marker inside a list literal
before the `now()` call. -/
def insertWithNowAfterMarkerInLiteral : CqlStatementContext :=
  .insertStatement
    { tableName := ⟨none, .unquoted "t"⟩
      columns := [.unquoted "a", .unquoted "b", .unquoted "c"]
      values := [.listLiteral [.bindMarker .positionalBindMarker],
        .functionCall ⟨none, .unquoted "now"⟩ [], .bindMarker .positionalBindMarker]
      ifNotExists := false
      usingClause := none }

/-- The text of `insertWithNowAfterMarkerInLiteral`. -/
def insertWithNowAfterMarkerInLiteralText : QueryText :=
  .ofTokens insertWithNowAfterMarkerInLiteral.tokens [1, 2, 3, 6, 8, 10, 11, 16, 20] (by decide)

/-- The query the PREPARE replacement makes of `insertWithNowAfterMarkerInLiteral`, which its
request info holds. -/
def insertWithMarkersInLiteralText : QueryText :=
  insertWithNowAfterMarkerInLiteralText.spliceTokens [(16, 19)] (nowMarker false)
    (nowMarker_visible false)

/-- The listener does not visit the `?` inside the literal, so the UUID goes to the literal's
marker and the client's first value to the marker of the `now()` call; and an EXECUTE with no
values for the two markers of the query is not refused. -/
theorem addValuesToExecuteFrame_shifts_values_after_marker_in_literal :
    ∃ prepared replacedTerms,
      replaceQueryInPrepareMessage (inspectCqlQuery insertWithNowAfterMarkerInLiteralText
        insertWithNowAfterMarkerInLiteral "") = .ok (prepared, replacedTerms) ∧
      prepared.query = Utf8.encode "insert into t (a, b, c) values ([?], ?, ?)".toList ∧
      markerOrigins insertWithNowAfterMarkerInLiteral.tokens replacedTerms =
        [.clientValue 0, .replacedCall 0, .clientValue 1] ∧
      addValuesToExecuteFrame (fun (_ : Unit) => .ok fun (uuid : Nat) => .ok (uuid + 100))
          ⟨some ⟨[10, 20], []⟩⟩
          ⟨.generic .forwardToBoth false false, replacedTerms, prepared.positionalBindMarkers,
            insertWithMarkersInLiteralText, ""⟩
          ⟨[], [⟨"a", ()⟩, ⟨"b", ()⟩, ⟨"c", ()⟩]⟩ [0] = .ok ⟨some ⟨[100, 10, 20], []⟩⟩ ∧
      addValuesToExecuteFrame (fun (_ : Unit) => .ok fun (uuid : Nat) => .ok (uuid + 100))
          ⟨some ⟨[], []⟩⟩
          ⟨.generic .forwardToBoth false false, replacedTerms, prepared.positionalBindMarkers,
            insertWithMarkersInLiteralText, ""⟩
          ⟨[], [⟨"a", ()⟩, ⟨"b", ()⟩, ⟨"c", ()⟩]⟩ [0] = .ok ⟨some ⟨[100], []⟩⟩ := by
  -- the facts are decided on the computed PREPARE result, then read back
  have computed := (show (replaceQueryInPrepareMessage (inspectCqlQuery
      insertWithNowAfterMarkerInLiteralText insertWithNowAfterMarkerInLiteral "")).map
      (fun result => decide (
        result.1.query = Utf8.encode "insert into t (a, b, c) values ([?], ?, ?)".toList ∧
        markerOrigins insertWithNowAfterMarkerInLiteral.tokens result.2 =
          [.clientValue 0, .replacedCall 0, .clientValue 1] ∧
        addValuesToExecuteFrame (fun (_ : Unit) => .ok fun (uuid : Nat) => .ok (uuid + 100))
            ⟨some ⟨[10, 20], []⟩⟩
            ⟨.generic .forwardToBoth false false, result.2, result.1.positionalBindMarkers,
              insertWithMarkersInLiteralText, ""⟩
            ⟨[], [⟨"a", ()⟩, ⟨"b", ()⟩, ⟨"c", ()⟩]⟩ [0] = .ok ⟨some ⟨[100, 10, 20], []⟩⟩ ∧
        addValuesToExecuteFrame (fun (_ : Unit) => .ok fun (uuid : Nat) => .ok (uuid + 100))
            ⟨some ⟨[], []⟩⟩
            ⟨.generic .forwardToBoth false false, result.2, result.1.positionalBindMarkers,
              insertWithMarkersInLiteralText, ""⟩
            ⟨[], [⟨"a", ()⟩, ⟨"b", ()⟩, ⟨"c", ()⟩]⟩ [0] = .ok ⟨some ⟨[100], []⟩⟩)) = .ok true by
    decide +kernel)
  cases prepare : replaceQueryInPrepareMessage (inspectCqlQuery
      insertWithNowAfterMarkerInLiteralText insertWithNowAfterMarkerInLiteral "") with
  | error message => simp [prepare, Except.map] at computed
  | ok result =>
    simp only [prepare, Except.map, Except.ok.injEq, decide_eq_true_eq] at computed
    exact ⟨result.1, result.2, rfl, computed⟩

end ZdmProxy.Execute
