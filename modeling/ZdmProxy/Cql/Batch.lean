import ZdmProxy.Cql.Replace

/-!
# `now()` calls in a batch

A PREPARE may hold a whole batch: `BEGIN BATCH`, an optional USING clause, INSERT, UPDATE and
DELETE statements, each optionally followed by `;`, and `APPLY BATCH`. The walker enters the
batch, where `EnterBatchStatement` reads the USING clause's markers only to advance the
positional counter, and then each child statement in order, so that the listener ends with one
parsed statement per child and a counter that numbered the markers across all of them.

`Recording` is to a walk that records statements what `Extraction` is to one that records
terms: it appends the statements, and the terms of all of them are placed in the tokens walked
once the counter advanced by every `?` among those tokens. It composes along the children
(`Recording.append`), so the `now()` calls of every child of a batch are sorted and placed in
the batch's tokens (`inspectCqlQuery_batch`), and the PREPARE replacement splices each of them,
never panicking, and for ASCII text replacing each call's tokens by the marker
(`replaceQueryInPrepareMessage_batch`).
-/

namespace ZdmProxy.Cql

open Splice

/-- The statement type that `enterStatement` records for a batch child. -/
def BatchChildStatementContext.statementType : BatchChildStatementContext → StatementType
  | .insertStatement _ => .insert
  | .updateStatement _ => .update
  | .deleteStatement _ => .delete

namespace Extraction

variable {listener next : CqlListener} {offset : Nat} {tokens : List Token} {terms : List Term}

/-- An extraction does not look at the parsed statements it keeps. -/
theorem withStatements (extracted : Extraction listener next offset tokens terms)
    (statements : List ParsedStatement) :
    Extraction { listener with parsedStatements := statements }
      { next with parsedStatements := statements } offset tokens terms where
  query := extracted.query
  lexed := extracted.lexed
  parsedStatements := rfl
  nowFunctionCalls := extracted.nowFunctionCalls
  counted := extracted.counted
  bounded := extracted.bounded
  placed := extracted.placed

/-- Terms without a `now()` call can be dropped from an extraction: the listener that reads
them and forgets them (the USING clause of a batch) is still an extraction of no terms. -/
theorem forget (extracted : Extraction listener next offset tokens terms)
    (noCalls : nowSpans terms = []) : Extraction listener next offset tokens [] where
  query := extracted.query
  lexed := extracted.lexed
  parsedStatements := extracted.parsedStatements
  nowFunctionCalls := by simpa [noCalls] using extracted.nowFunctionCalls
  counted := extracted.counted
  bounded := extracted.bounded
  placed _ := CallsPlaced.of_nowSpans_nil rfl

end Extraction

/-- A USING clause holds markers and integers only, so none of its terms calls `now()`. -/
theorem usingClauseTerms_nowSpans (listener : CqlListener) (clause : UsingClauseContext) :
    nowSpans (extractUsingClauseBindMarkers listener clause).1 = [] := by
  unfold extractUsingClauseBindMarkers
  induction clause.items generalizing listener with
  | nil => rfl
  | cons item rest ih =>
    -- a bind marker's term is never a function call
    have marker : nowSpans (extractNillableBindMarker listener item.2).1.toList = [] := by
      cases item.2 with
      | integer _ => rfl
      | bindMarker marker => cases marker <;> rfl
    rw [extractUsingItems_cons, nowSpans_append, marker, ih]
    rfl

/-- The terms of parsed statements, in order. -/
def statementsTerms (statements : List ParsedStatement) : List Term :=
  statements.flatMap ParsedStatement.terms

@[simp] theorem statementsTerms_nil : statementsTerms [] = [] := rfl

@[simp] theorem statementsTerms_append (first second : List ParsedStatement) :
    statementsTerms (first ++ second) = statementsTerms first ++ statementsTerms second :=
  List.flatMap_append

@[simp] theorem statementsTerms_singleton (statement : ParsedStatement) :
    statementsTerms [statement] = statement.terms := by
  simp [statementsTerms]

/-- What a walk from `listener` to `next` over the tokens `tokens` at query index `offset`
guarantees when it recorded `statements`: it appended them, and apart from them it is an
extraction of their terms. -/
structure Recording (listener next : CqlListener) (offset : Nat) (tokens : List Token)
    (statements : List ParsedStatement) : Prop where
  parsedStatements : next.parsedStatements = listener.parsedStatements ++ statements
  extraction : Extraction listener { next with parsedStatements := listener.parsedStatements }
    offset tokens (statementsTerms statements)

namespace Recording

variable {listener middle next : CqlListener} {offset : Nat} {tokens : List Token}

/-- An extraction of terms without `now()` calls that records no statement. -/
theorem of_extraction {terms : List Term} (extracted : Extraction listener next offset tokens terms)
    (noCalls : nowSpans terms = []) : Recording listener next offset tokens [] where
  parsedStatements := by simp [extracted.parsedStatements]
  extraction := by
    have forgotten := extracted.forget noCalls
    rw [← extracted.parsedStatements]
    exact forgotten

/-- Tokens that the walk reads without recording anything. -/
theorem unchanged (listener : CqlListener) (offset : Nat) (tokens : List Token) :
    Recording listener listener offset tokens [] :=
  of_extraction (.unchanged listener offset tokens) rfl

/-- Walking one stretch of tokens and then the next is walking their concatenation. -/
theorem append {firstTokens secondTokens : List Token}
    {firstStatements secondStatements : List ParsedStatement} {secondOffset : Nat}
    (first : Recording listener middle offset firstTokens firstStatements)
    (second : Recording middle next secondOffset secondTokens secondStatements)
    (adjacent : secondOffset = offset + firstTokens.length) :
    Recording listener next offset (firstTokens ++ secondTokens)
      (firstStatements ++ secondStatements) where
  parsedStatements := by
    rw [second.parsedStatements, first.parsedStatements, List.append_assoc]
  extraction := by
    -- the second extraction starts from `middle` with the statements of `listener`
    have moved := second.extraction.withStatements listener.parsedStatements
    have whole := first.extraction.append moved adjacent
    rw [statementsTerms_append]
    exact whole

end Recording

/-- Entering a statement and then its table name records one parsed statement, numbered with
the batch child index the listener had, whose terms the statement's children gave. -/
theorem recording_enterStatement (listener : CqlListener) (statementType : StatementType)
    (offset : Nat) (children : List StatementChild) (name : QualifiedIdentifierContext) :
    Recording listener (enterTableName (enterStatement listener statementType offset children) name)
      offset (statementTokens children)
      [⟨listener.currentBatchChildIndex, statementType,
        (extractStatementChildren listener offset children).1⟩] := by
  have extracted := extraction_extractStatementChildren listener offset children
  obtain ⟨keyspaceName, tableName, named⟩ :=
    enterTableName_eq (enterStatement listener statementType offset children) name
  rw [named]
  constructor
  · simp [enterStatement, extracted.parsedStatements]
  · rw [statementsTerms_singleton]
    exact {
      query := extracted.query
      lexed := extracted.lexed
      parsedStatements := rfl
      nowFunctionCalls := extracted.nowFunctionCalls
      counted := extracted.counted
      bounded := extracted.bounded
      placed := extracted.placed }

/-- The visit of one batch child records one statement of the child's type. -/
theorem recording_enterBatchChildStatement (listener : CqlListener) (offset : Nat)
    (child : BatchChildStatementContext) :
    ∃ statement : ParsedStatement, statement.statementType = child.statementType ∧
      Recording listener (enterBatchChildStatement listener offset child) offset child.tokens
        [statement] := by
  cases child with
  | insertStatement statement =>
    exact ⟨_, rfl, recording_enterStatement listener .insert offset statement.children
      statement.tableName⟩
  | updateStatement statement =>
    exact ⟨_, rfl, recording_enterStatement listener .update offset statement.children
      statement.tableName⟩
  | deleteStatement statement =>
    exact ⟨_, rfl, recording_enterStatement listener .delete offset statement.children
      statement.tableName⟩

/-- The walk over the children of a batch records one statement per child, in order and of
the child's type; the `;` between children is read without recording anything. -/
theorem recording_walkBatchChildren (listener : CqlListener) (offset : Nat)
    (children : List (BatchChildStatementContext × Bool)) :
    ∃ statements : List ParsedStatement,
      statements.map ParsedStatement.statementType =
        children.map (fun child => child.1.statementType) ∧
      Recording listener (walkBatchChildren listener offset children) offset
        (batchChildrenTokens children) statements := by
  induction children generalizing listener offset with
  | nil => exact ⟨[], rfl, .unchanged listener offset []⟩
  | cons child rest ih =>
    obtain ⟨child, eos⟩ := child
    obtain ⟨statement, typed, first⟩ :=
      recording_enterBatchChildStatement listener offset child
    -- the separator, when there is one, sits between this child and the next
    have separator := Recording.unchanged (enterBatchChildStatement listener offset child)
      (offset + child.tokens.length) (if eos then [.word ";"] else [])
    obtain ⟨others, othersTyped, second⟩ := ih (enterBatchChildStatement listener offset child)
      (offset + child.tokens.length + if eos then 1 else 0)
    have whole := (first.append separator rfl).append second (by
      split <;> simp only [List.length_append, List.length_cons, List.length_nil] <;> omega)
    refine ⟨statement :: others, by simp [typed, othersTyped], ?_⟩
    simpa [walkBatchChildren, batchChildrenTokens] using whole

/-- The head of a batch is its keywords and then its USING clause, if any. -/
theorem BatchStatementContext.headTokens_eq (statement : BatchStatementContext) :
    statement.headTokens = { statement with usingClause := none }.headTokens ++
      statementTokens (usingClauseChildren statement.usingClause) := by
  simp [BatchStatementContext.headTokens, usingClauseChildren, statementTokens]

/-- Entering a batch reads its head, whose USING clause's markers only advance the counter. -/
theorem recording_enterBatchStatement (listener : CqlListener) (statement : BatchStatementContext) :
    Recording listener (enterBatchStatement listener statement) 0 statement.headTokens [] := by
  have opening := Recording.unchanged listener 0 { statement with usingClause := none }.headTokens
  rw [statement.headTokens_eq]
  cases clauseOf : statement.usingClause with
  | none =>
    simpa [enterBatchStatement, clauseOf, usingClauseChildren, statementTokens] using opening
  | some clause =>
    have extracted := extraction_extractUsingClauseBindMarkers listener
      (0 + { statement with usingClause := none }.headTokens.length) clause
    have whole := opening.append
      (Recording.of_extraction extracted (usingClauseTerms_nowSpans listener clause)) rfl
    simpa [enterBatchStatement, clauseOf, usingClauseChildren, statementTokens,
      StatementChild.tokens] using whole

/-- `inspectCqlQuery` on a batch is the walk over its children from the listener that entered
its head. -/
theorem inspectCqlQuery_batchStatement (query : QueryText) (statement : BatchStatementContext)
    (keyspace : String) :
    inspectCqlQuery query (.batchStatement statement) keyspace =
      walkBatchChildren
        (enterBatchStatement { newCqlListener query keyspace with statementType := .batch }
          statement)
        statement.headTokens.length statement.statements := rfl

/-- Inspecting a batch records one parsed statement per child, of the child's type, and numbers
the markers across the whole batch, its USING clause included: the counter ends at most at the
number of `?` tokens of the batch, and when it ends exactly there the `now()` calls of all the
children are placed in the batch's tokens. -/
theorem inspectCqlQuery_batch (query : QueryText) (statement : BatchStatementContext)
    (keyspace : String) :
    ∃ statements : List ParsedStatement,
      (inspectCqlQuery query (.batchStatement statement) keyspace).parsedStatements = statements ∧
      statements.map ParsedStatement.statementType =
        statement.statements.map (fun child => child.1.statementType) ∧
      (inspectCqlQuery query (.batchStatement statement) keyspace).query = query.bytes ∧
      (inspectCqlQuery query (.batchStatement statement) keyspace).lexed = query ∧
      (inspectCqlQuery query (.batchStatement statement) keyspace).nowFunctionCalls =
        !(nowSpans (statementsTerms statements)).isEmpty ∧
      (inspectCqlQuery query (.batchStatement statement) keyspace).currentPositionalIndex ≤
        qmarkCount statement.tokens ∧
      ((inspectCqlQuery query (.batchStatement statement) keyspace).currentPositionalIndex =
          qmarkCount statement.tokens →
        CallsPlaced 0 0 statement.tokens (statementsTerms statements)) := by
  let entered : CqlListener := { newCqlListener query keyspace with statementType := .batch }
  have head := recording_enterBatchStatement entered statement
  obtain ⟨statements, typed, children⟩ := recording_walkBatchChildren
    (enterBatchStatement entered statement) statement.headTokens.length statement.statements
  -- `APPLY BATCH` closes the batch without recording anything
  have closing := Recording.unchanged
    (walkBatchChildren (enterBatchStatement entered statement) statement.headTokens.length
      statement.statements)
    (0 + (statement.headTokens ++ batchChildrenTokens statement.statements).length)
    [.word "apply", .word "batch"]
  have recorded := (head.append children (by simp)).append closing rfl
  have whole := recorded.extraction
  rw [List.nil_append, List.append_nil] at whole
  -- the listener that enters the batch has recorded nothing yet
  have noStatements : entered.parsedStatements = [] := rfl
  have unflagged : entered.nowFunctionCalls = false := rfl
  have fresh : entered.currentPositionalIndex = 0 := rfl
  rw [inspectCqlQuery_batchStatement]
  refine ⟨statements, ?_, typed, whole.query, whole.lexed, ?_, ?_, fun exact => whole.placed ?_⟩
  · have appended := recorded.parsedStatements
    rw [noStatements, List.nil_append, List.append_nil] at appended
    exact appended
  · have flagged := whole.nowFunctionCalls
    rw [unflagged, Bool.false_or] at flagged
    exact flagged
  · have bounded := whole.bounded
    rw [fresh, Nat.zero_add] at bounded
    exact bounded
  · show _ = 0 + qmarkCount statement.tokens
    rw [Nat.zero_add]
    exact exact

/-! ## The PREPARE replacement of a batch -/

/-- A PREPARE of a batch whose markers the listener all visited gets every `now()` call of
every child replaced, without a panic: the inspection records one statement per child, the new
query is the query's bytes with the batch's marker (`:zdm__now` or `?`) spliced in at each
call's character span, the replaced terms are all the children's calls in order, and each call
lies in the batch and records the number of `?` markers before it in the whole batch, the
batch's own USING clause included, less one. When the query is ASCII, the new query is the
query with each call's tokens replaced by the marker. -/
theorem replaceQueryInPrepareMessage_batch (statement : BatchStatementContext)
    {query : QueryText} (prefixed : statement.tokens <+: query.tokens) (keyspace : String)
    (visited : (inspectCqlQuery query (.batchStatement statement) keyspace).currentPositionalIndex =
      qmarkCount statement.tokens) :
    ∃ statements prepared,
      (inspectCqlQuery query (.batchStatement statement) keyspace).parsedStatements = statements ∧
      statements.map ParsedStatement.statementType =
        statement.statements.map (fun child => child.1.statementType) ∧
      replaceQueryInPrepareMessage (inspectCqlQuery query (.batchStatement statement) keyspace) =
        .ok (prepared, nowCalls (statementsTerms statements)) ∧
      prepared.query = spliced query.bytes 0 ((charSpans query (statementsTerms statements)).map
        (nowEdit (Utf8.encode (textOf (nowMarker (inspectCqlQuery query
          (.batchStatement statement) keyspace).namedBindMarkers)).toList))) ∧
      (query.chars.all Char.isAscii = true →
        prepared.query = (query.spliceTokens (nowSpans (statementsTerms statements))
          (nowMarker (inspectCqlQuery query (.batchStatement statement) keyspace).namedBindMarkers)
          (nowMarker_visible _)).bytes) ∧
      ∀ term ∈ nowCalls (statementsTerms statements), ∀ span, term.nowSpan = some span →
        span.2 ≤ statement.tokens.length ∧
        term.previousPositionalIndex = (qmarkCount (statement.tokens.take span.1) : Int) - 1 := by
  obtain ⟨statements, recorded, typed, bytes, lexed, flagged, _, placedOf⟩ :=
    inspectCqlQuery_batch query statement keyspace
  have placed := placedOf visited
  have allTerms : (inspectCqlQuery query (.batchStatement statement) keyspace).allTerms =
      statementsTerms statements := by
    rw [CqlListener.allTerms, recorded, statementsTerms]
  -- the spans lie in the batch, which the query's tokens start with
  have sorted : SpansSorted 0
      (inspectCqlQuery query (.batchStatement statement) keyspace).lexed.tokens.length
      (nowSpans (inspectCqlQuery query (.batchStatement statement) keyspace).allTerms) := by
    rw [allTerms, lexed]
    exact placed.sorted.mono_high (by simpa using prefixed.length_le)
  obtain ⟨prepared, prepare, rewritten, ascii, _⟩ :=
    replaceQueryInPrepareMessage_spliceTokens (by rw [bytes, lexed])
      (by rw [allTerms]; exact flagged) sorted (by rw [allTerms]; exact placed.nonempty)
  rw [allTerms] at prepare
  rw [allTerms, lexed, bytes] at rewritten
  rw [allTerms, lexed] at ascii
  refine ⟨statements, prepared, recorded, typed, prepare, rewritten, ascii, ?_⟩
  intro term member span spanned
  have inTerms := (List.mem_filter.mp member).1
  have bounds := placed.sorted.bounds_of_mem (mem_nowSpans inTerms spanned)
  refine ⟨by simpa using bounds.2.2, ?_⟩
  simpa using placed.previous term inTerms span spanned

/-- `BEGIN BATCH USING TIMESTAMP ? INSERT INTO t (a, b) VALUES (now(), ?);
UPDATE t SET c = now() WHERE a = ? APPLY BATCH`. -/
def batchWithNowCalls : BatchStatementContext where
  kind := .logged
  usingClause := some (.timestamp (.bindMarker .positionalBindMarker))
  statements :=
    [(.insertStatement
        { tableName := ⟨none, .unquoted "t"⟩
          columns := [.unquoted "a", .unquoted "b"]
          values := [.functionCall ⟨none, .unquoted "now"⟩ [], .bindMarker .positionalBindMarker]
          ifNotExists := false
          usingClause := none }, true),
      (.updateStatement
        { tableName := ⟨none, .unquoted "t"⟩
          usingClause := none
          operations := [.assign (.unquoted "c") (.functionCall ⟨none, .unquoted "now"⟩ []) none]
          whereClause := ⟨.compare (.unquoted "a") .eq (.bindMarker .positionalBindMarker), []⟩
          ifClause := none }, false)]

/-- The text of `batchWithNowCalls`, a blank between words. -/
def batchWithNowCallsText : QueryText :=
  .ofTokens batchWithNowCalls.tokens
    [1, 2, 3, 4, 5, 6, 7, 8, 11, 13, 14, 19, 22, 23, 24, 25, 26, 27, 30, 31, 32, 33, 34, 35]
    (by decide)

theorem replaceQueryInPrepareMessage_batchWithNowCalls :
    batchWithNowCalls.tokens <+: batchWithNowCallsText.tokens ∧
    (inspectCqlQuery batchWithNowCallsText (.batchStatement batchWithNowCalls)
        "").currentPositionalIndex = qmarkCount batchWithNowCalls.tokens ∧
    ∃ statements prepared,
      (inspectCqlQuery batchWithNowCallsText (.batchStatement batchWithNowCalls)
        "").parsedStatements = statements ∧
      statements.map ParsedStatement.statementType =
        batchWithNowCalls.statements.map (fun child => child.1.statementType) ∧
      replaceQueryInPrepareMessage (inspectCqlQuery batchWithNowCallsText
        (.batchStatement batchWithNowCalls) "") =
        .ok (prepared, nowCalls (statementsTerms statements)) ∧
      prepared.query = spliced batchWithNowCallsText.bytes 0
        ((charSpans batchWithNowCallsText (statementsTerms statements)).map
          (nowEdit (Utf8.encode (textOf (nowMarker (inspectCqlQuery batchWithNowCallsText
            (.batchStatement batchWithNowCalls) "").namedBindMarkers)).toList))) ∧
      (batchWithNowCallsText.chars.all Char.isAscii = true →
        prepared.query = (batchWithNowCallsText.spliceTokens (nowSpans (statementsTerms statements))
          (nowMarker (inspectCqlQuery batchWithNowCallsText (.batchStatement batchWithNowCalls)
            "").namedBindMarkers) (nowMarker_visible _)).bytes) ∧
      ∀ term ∈ nowCalls (statementsTerms statements), ∀ span, term.nowSpan = some span →
        span.2 ≤ batchWithNowCalls.tokens.length ∧
        term.previousPositionalIndex =
          (qmarkCount (batchWithNowCalls.tokens.take span.1) : Int) - 1 := by
  have prefixed : batchWithNowCalls.tokens <+: batchWithNowCallsText.tokens := by
    rw [batchWithNowCallsText, QueryText.tokens_ofTokens]
  have visited : (inspectCqlQuery batchWithNowCallsText (.batchStatement batchWithNowCalls)
      "").currentPositionalIndex = qmarkCount batchWithNowCalls.tokens := by decide +kernel
  exact ⟨prefixed, visited,
    replaceQueryInPrepareMessage_batch batchWithNowCalls prefixed "" visited⟩

end ZdmProxy.Cql
