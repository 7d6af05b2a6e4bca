import ZdmProxy.Cql.Statements
import ZdmProxy.Cql.QueryText

/-!
# The query inspector's listener

`inspectCqlQuery` walks the parse tree of a query with a `cqlListener`. On entering an INSERT,
UPDATE or DELETE statement the listener records one `parsedStatement` with the terms of that
statement, in the order in which its switches meet them. A running counter,
`currentPositionalIndex`, numbers positional bind markers: each `QMARK` the listener visits
gets the counter's value and advances it, and every other term records the counter minus one
as the index of the closest positional marker to its left.

The listener visits a bind marker only where it is itself a term, or where the grammar puts a
bind marker directly in a clause (USING, IN lists, tuple relations, conditions). It does not
descend into literals or function arguments: the whole literal or call is one term.

Listener methods mutate the listener; here each extraction takes the listener and returns the
updated one with its result. Each extraction also takes the token index of the first token of
the context it reads. A function call records the indices of its first and last token; Go
records their character indices, which `QueryText.tokenStart` and `QueryText.tokenStop` give.
-/

namespace ZdmProxy.Cql

/-- `statementType`. -/
inductive StatementType where
  | insert | update | delete | batch | select | use | other
  deriving DecidableEq, Repr

/-- `systemKeyspaceName`. -/
def systemKeyspaceName : String := "system"

/-- `nowFunctionName`. -/
def nowFunctionName : String := "now"

/-- `zdmNowNamedMarker`, the name of the named markers that replace `now()` calls. -/
def zdmNowNamedMarker : String := "zdm__now"

/-- `functionCall`: keyspace, name, arity and the span of a function call term, as the indices
of its first and last token. Go keeps the character indices of those tokens,
`ctx.GetStart().GetStart()` and `ctx.GetStop().GetStop()`: `QueryText.tokenStart` and
`QueryText.tokenStop` of these indices in the inspected query. -/
structure FunctionCall where
  keyspace : String
  name : String
  arity : Nat
  startIndex : Nat
  stopIndex : Nat
  deriving DecidableEq, Repr

/-- `functionCall.isNow`: `now()` or `system.now()` with no argument. -/
def FunctionCall.isNow (call : FunctionCall) : Bool :=
  (call.keyspace == "" || call.keyspace == systemKeyspaceName) && call.name == nowFunctionName &&
    call.arity == 0

/-- `term`: what the listener records for one term. The indices are `-1` when absent. -/
structure Term where
  functionCall : Option FunctionCall
  previousPositionalIndex : Int
  positionalIndex : Int
  bindMarkerName : String
  literal : String
  deriving DecidableEq, Repr

/-- `NewNamedBindMarkerTerm`. -/
def newNamedBindMarkerTerm (name : String) (previousPositionalIndex : Int) : Term :=
  ⟨none, previousPositionalIndex, -1, name, ""⟩

/-- `NewPositionalBindMarkerTerm`. -/
def newPositionalBindMarkerTerm (position : Int) : Term :=
  ⟨none, position - 1, position, "", ""⟩

/-- `NewLiteralTerm`. -/
def newLiteralTerm (literal : String) (previousPositionalIndex : Int) : Term :=
  ⟨none, previousPositionalIndex, -1, "", literal⟩

/-- `NewFunctionCallTerm`. -/
def newFunctionCallTerm (call : FunctionCall) (previousPositionalIndex : Int) : Term :=
  ⟨some call, previousPositionalIndex, -1, "", ""⟩

namespace Term

/-- `term.isFunctionCall`. -/
def isFunctionCall (term : Term) : Bool := term.functionCall.isSome

/-- `term.isPositionalBindMarker`. -/
def isPositionalBindMarker (term : Term) : Bool := term.positionalIndex != -1

/-- `term.isNamedBindMarker`. -/
def isNamedBindMarker (term : Term) : Bool := term.bindMarkerName != ""

/-- `term.isLiteral`. -/
def isLiteral (term : Term) : Bool := term.literal != ""

/-- A replaced term is a function call to `now()`. -/
def isNowCall (term : Term) : Bool :=
  match term.functionCall with
  | some call => call.isNow
  | none => false

end Term

/-- `parsedStatement`: one INSERT, UPDATE or DELETE statement, or one child of a batch. -/
structure ParsedStatement where
  statementIndex : Nat
  statementType : StatementType
  terms : List Term
  deriving DecidableEq, Repr

/-- `selector`: `idSelector`, `countSelector` and `aliasedSelector`. -/
inductive Selector where
  | idSelector (name : String)
  | countSelector (name : String)
  | aliasedSelector (selector : Selector) (aliasName : String)
  deriving DecidableEq, Repr

/-- `selectClause`; `none` selectors is the star clause. -/
structure SelectClause where
  selectors : Option (List Selector)
  deriving DecidableEq, Repr

/-- `cqlListener`, without the time-UUID generator, which only the literal replacement uses.
`query` is Go's query string, as its bytes; `lexed` is the inspected query as the lexer split it,
which the parse tree's tokens and the recorded token indices refer to. -/
structure CqlListener where
  query : List UInt8
  lexed : QueryText
  statementType : StatementType
  keyspaceName : String
  tableName : String
  parsedSelectClause : Option SelectClause
  parsedStatements : List ParsedStatement
  positionalBindMarkers : Bool
  namedBindMarkers : Bool
  nowFunctionCalls : Bool
  currentPositionalIndex : Nat
  currentBatchChildIndex : Nat
  requestKeyspace : String

/-- `getApplicableKeyspace`: the keyspace in the query, else the request keyspace. -/
def CqlListener.getApplicableKeyspace (listener : CqlListener) : String :=
  if listener.keyspaceName != "" then listener.keyspaceName else listener.requestKeyspace

/-- `extractIdentifier`: unquoted identifiers and keywords in lower case, quoted ones with
escaped quotes undoubled. -/
def extractIdentifier : IdentifierContext → String
  | .unquoted text => text.toLower
  | .quoted text => text.replace "\"\"" "\""
  | .unreservedKeyword text => text.toLower

/-- `extractFunctionCall`. The arity is the child count of `functionArgs`, that is the
arguments and the commas between them. -/
def extractFunctionCall (functionName : QualifiedIdentifierContext)
    (args : List FunctionArgContext) (startIndex stopIndex : Nat) : FunctionCall where
  keyspace := match functionName.keyspaceName with
    | some keyspace => extractIdentifier keyspace
    | none => ""
  name := extractIdentifier functionName.identifier
  arity := if args.isEmpty then 0 else 2 * args.length - 1
  startIndex := startIndex
  stopIndex := stopIndex

/-- `extractBindMarker`. A positional marker takes the counter and advances it. -/
def extractBindMarker (listener : CqlListener) : BindMarkerContext → Term × CqlListener
  | .positionalBindMarker =>
      (newPositionalBindMarkerTerm listener.currentPositionalIndex,
        { listener with positionalBindMarkers := true,
                        currentPositionalIndex := listener.currentPositionalIndex + 1 })
  | .namedBindMarker name =>
      (newNamedBindMarkerTerm (extractIdentifier name)
          ((listener.currentPositionalIndex : Int) - 1),
        { listener with namedBindMarkers := true })

/-- `extractTerm` on a term at token offset `offset`: a type cast is followed to its operand,
which starts after `(`, the type and `)`; literals and function calls are single terms. -/
def extractTerm (listener : CqlListener) (offset : Nat) : TermContext → Term × CqlListener
  | .typeCast type operand => extractTerm listener (offset + type.tokens.length + 2) operand
  | .bindMarker marker => extractBindMarker listener marker
  | .functionCall functionName args =>
      let call := extractFunctionCall functionName args offset
        (offset + (TermContext.functionCall functionName args).tokens.length - 1)
      (newFunctionCallTerm call ((listener.currentPositionalIndex : Int) - 1),
        if call.isNow then { listener with nowFunctionCalls := true } else listener)
  | literal =>
      (newLiteralTerm (textOf literal.tokens) ((listener.currentPositionalIndex : Int) - 1),
        listener)

/-- `extractAllTerms` over the terms of a `terms` context starting at `offset`. -/
def extractAllTerms (listener : CqlListener) (offset : Nat) :
    List TermContext → List Term × CqlListener
  | [] => ([], listener)
  | term :: rest =>
      let (first, next) := extractTerm listener offset term
      let (others, last) := extractAllTerms next (offset + term.tokens.length + 1) rest
      (first :: others, last)

/-- `extractAllBindMarkers` over the markers of a `bindMarkers` context. -/
def extractAllBindMarkers (listener : CqlListener) :
    List BindMarkerContext → List Term × CqlListener
  | [] => ([], listener)
  | marker :: rest =>
      let (first, next) := extractBindMarker listener marker
      let (others, last) := extractAllBindMarkers next rest
      (first :: others, last)

/-- The terms of each tuple literal of a `tupleLiterals` context, in order. -/
def extractTupleLiterals (listener : CqlListener) (offset : Nat) :
    List (List TermContext) → List Term × CqlListener
  | [] => ([], listener)
  | items :: rest =>
      let (first, next) := extractAllTerms listener (offset + 1) items
      let (others, last) := extractTupleLiterals next
        (offset + (TermContext.listTokens items).length + 3) rest
      (first ++ others, last)

/-- The switch of `extractRelationTerms` over one classified child. The switches of
`extractConditionsTerms` and of the UPDATE and DELETE operations handle a subset of these
kinds, and their contexts have children of no other kind. -/
def extractChild (listener : CqlListener) (offset : Nat) : ChildContext → List Term × CqlListener
  | .plain _ => ([], listener)
  | .term value =>
      let (term, next) := extractTerm listener offset value
      ([term], next)
  | .terms values => extractAllTerms listener offset values
  | .bindMarker marker =>
      let (term, next) := extractBindMarker listener marker
      ([term], next)
  | .bindMarkers markers => extractAllBindMarkers listener markers
  | .tupleLiteral items => extractAllTerms listener (offset + 1) items
  | .tupleLiterals tuples => extractTupleLiterals listener offset tuples

/-- The switch applied to every child of a context, left to right. -/
def extractChildren (listener : CqlListener) (offset : Nat) :
    List ChildContext → List Term × CqlListener
  | [] => ([], listener)
  | child :: rest =>
      let (first, next) := extractChild listener offset child
      let (others, last) := extractChildren next (offset + child.tokens.length) rest
      (first ++ others, last)

/-- `extractRelationTerms`: a parenthesized relation returns the terms of its inner relation. -/
def extractRelationTerms (listener : CqlListener) (offset : Nat) :
    RelationContext → List Term × CqlListener
  | .parenthesized inner => extractRelationTerms listener (offset + 1) inner
  | relation => extractChildren listener offset relation.children

/-- The relations after the first one of a WHERE clause, each after its logical operator. -/
def extractJoinedRelations (listener : CqlListener) (offset : Nat) :
    List (LogicalOperator × RelationContext) → List Term × CqlListener
  | [] => ([], listener)
  | (_, relation) :: rest =>
      let (first, next) := extractRelationTerms listener (offset + 1) relation
      let (others, last) := extractJoinedRelations next
        (offset + 1 + relation.tokens.length) rest
      (first ++ others, last)

/-- `extractWhereClauseTerms`: the terms of every relation child, after `K_WHERE`. -/
def extractWhereClauseTerms (listener : CqlListener) (offset : Nat) (clause : WhereClauseContext) :
    List Term × CqlListener :=
  let (first, next) := extractRelationTerms listener (offset + 1) clause.first
  let (others, last) := extractJoinedRelations next
    (offset + 1 + clause.first.tokens.length) clause.rest
  (first ++ others, last)

/-- `extractConditionsTerms`: the children of each condition, conditions joined by `K_AND`. -/
def extractConditionsTerms (listener : CqlListener) (offset : Nat) :
    List ConditionContext → List Term × CqlListener
  | [] => ([], listener)
  | condition :: rest =>
      let (first, next) := extractChildren listener offset condition.children
      let (others, last) := extractConditionsTerms next
        (offset + (childrenTokens condition.children).length + 1) rest
      (first ++ others, last)

/-- The terms of the update operations of an UPDATE, operations joined by commas. -/
def extractUpdateOperations (listener : CqlListener) (offset : Nat) :
    List UpdateOperationContext → List Term × CqlListener
  | [] => ([], listener)
  | operation :: rest =>
      let (first, next) := extractChildren listener offset operation.children
      let (others, last) := extractUpdateOperations next
        (offset + (childrenTokens operation.children).length + 1) rest
      (first ++ others, last)

/-- The terms of the delete operations of a DELETE: the element term of `c[term]`. -/
def extractDeleteOperations (listener : CqlListener) (offset : Nat) :
    List DeleteOperationContext → List Term × CqlListener
  | [] => ([], listener)
  | operation :: rest =>
      let (first, next) := extractChildren listener offset operation.children
      let (others, last) := extractDeleteOperations next
        (offset + (childrenTokens operation.children).length + 1) rest
      (first ++ others, last)

/-- `extractNillableBindMarker` on the value of a `timestamp` or `ttl` context. -/
def extractNillableBindMarker (listener : CqlListener) : UsingValue → Option Term × CqlListener
  | .integer _ => (none, listener)
  | .bindMarker marker =>
      let (term, next) := extractBindMarker listener marker
      (some term, next)

/-- The bind markers of the `timestamp` and `ttl` children of a USING clause. -/
def extractUsingItems (listener : CqlListener) :
    List (String × UsingValue) → List Term × CqlListener
  | [] => ([], listener)
  | (_, value) :: rest =>
      let (first, next) := extractNillableBindMarker listener value
      let (others, last) := extractUsingItems next rest
      (first.toList ++ others, last)

/-- `extractUsingClauseBindMarkers`. -/
def extractUsingClauseBindMarkers (listener : CqlListener) (clause : UsingClauseContext) :
    List Term × CqlListener :=
  extractUsingItems listener clause.items

/-- The union of the switches of `EnterInsertStatement`, `EnterUpdateStatement` and
`EnterDeleteStatement` over one statement child; each statement has only children of the
kinds its own switch handles. -/
def extractStatementChild (listener : CqlListener) (offset : Nat) :
    StatementChild → List Term × CqlListener
  | .plain _ => ([], listener)
  | .tableName _ => ([], listener)
  | .terms values => extractAllTerms listener offset values
  | .usingClause clause => extractUsingClauseBindMarkers listener clause
  | .updateOperations operations => extractUpdateOperations listener offset operations
  | .deleteOperations operations => extractDeleteOperations listener offset operations
  | .timestamp value =>
      let (term, next) := extractNillableBindMarker listener value
      (term.toList, next)
  | .whereClause clause => extractWhereClauseTerms listener offset clause
  | .conditions conditions => extractConditionsTerms listener offset conditions

/-- The terms of a statement's children, left to right. -/
def extractStatementChildren (listener : CqlListener) (offset : Nat) :
    List StatementChild → List Term × CqlListener
  | [] => ([], listener)
  | child :: rest =>
      let (first, next) := extractStatementChild listener offset child
      let (others, last) := extractStatementChildren next (offset + child.tokens.length) rest
      (first ++ others, last)

/-- `EnterInsertStatement`, `EnterUpdateStatement` and `EnterDeleteStatement`: record one
parsed statement with the terms of the statement's children and advance the batch child
index. -/
def enterStatement (listener : CqlListener) (statementType : StatementType) (offset : Nat)
    (children : List StatementChild) : CqlListener :=
  let (terms, next) := extractStatementChildren listener offset children
  { next with
    parsedStatements := next.parsedStatements ++
      [⟨listener.currentBatchChildIndex, statementType, terms⟩]
    currentBatchChildIndex := next.currentBatchChildIndex + 1 }

/-- `EnterInsertStatement`. -/
def enterInsertStatement (listener : CqlListener) (offset : Nat) (statement : InsertStatementContext) :
    CqlListener :=
  enterStatement listener .insert offset statement.children

/-- `EnterUpdateStatement`. -/
def enterUpdateStatement (listener : CqlListener) (offset : Nat) (statement : UpdateStatementContext) :
    CqlListener :=
  enterStatement listener .update offset statement.children

/-- `EnterDeleteStatement`. -/
def enterDeleteStatement (listener : CqlListener) (offset : Nat) (statement : DeleteStatementContext) :
    CqlListener :=
  enterStatement listener .delete offset statement.children

/-- `EnterBatchStatement`: the batch's USING markers only advance the counter. -/
def enterBatchStatement (listener : CqlListener) (statement : BatchStatementContext) :
    CqlListener :=
  match statement.usingClause with
  | some clause => (extractUsingClauseBindMarkers listener clause).2
  | none => listener

/-- `EnterTableName`. Only a qualified name changes the keyspace, so in a batch the last
table name wins and a keyspace seen earlier survives an unqualified later name. -/
def enterTableName (listener : CqlListener) (name : QualifiedIdentifierContext) : CqlListener :=
  match name.keyspaceName with
  | some keyspace =>
      { listener with keyspaceName := extractIdentifier keyspace,
                      tableName := extractIdentifier name.identifier }
  | none => { listener with tableName := extractIdentifier name.identifier }

/-- `EnterUseStatement`. -/
def enterUseStatement (listener : CqlListener) (keyspaceName : IdentifierContext) : CqlListener :=
  { listener with keyspaceName := extractIdentifier keyspaceName }

/-- `isSystemKeyspace`. -/
def isSystemKeyspace (keyspace : String) : Bool := keyspace == systemKeyspaceName

/-- `isLocalTable`. -/
def isLocalTable (tableName : String) : Bool := tableName == "local"

/-- `isPeersV1Table`. -/
def isPeersV1Table (tableName : String) : Bool := tableName == "peers"

/-- `isPeersV2Table`. -/
def isPeersV2Table (tableName : String) : Bool := tableName == "peers_v2"

/-- `extractSelector`: identifiers and `count(*)`, optionally aliased; term and cast
selectors are errors. -/
def extractSelector (selector : SelectorContext) : Except String Selector := do
  let parsed ← match selector.selector with
    | .identifier name => pure (.idSelector (extractIdentifier name))
    | .term value =>
        let text := textOf value.tokens
        throw s!"term selector ({text}) not supported"
    | .count text => pure (.countSelector text)
    | .cast _ _ => throw "unrecognized terminal node when parsing selector (cast)"
  match selector.aliasName with
  | some name => pure (.aliasedSelector parsed (extractIdentifier name))
  | none => pure parsed

/-- `extractSelectors`: the first error, or every selector in order. -/
def extractSelectors : List SelectorContext → Except String (List Selector)
  | [] => pure []
  | selector :: rest => do
      let first ← extractSelector selector
      let others ← extractSelectors rest
      pure (first :: others)

/-- `extractSelectClause`; the star clause has no selectors. -/
def extractSelectClause : SelectClauseContext → Except String SelectClause
  | .star => pure ⟨none⟩
  | .selectors list => do
      let parsed ← extractSelectors list
      pure ⟨some parsed⟩

/-- `ExitSelectStatement`: only SELECTs on `system.local`, `system.peers` and
`system.peers_v2` without `JSON` or `DISTINCT` keep their parsed select clause. -/
def exitSelectStatement (listener : CqlListener) (statement : SelectStatementContext) :
    CqlListener :=
  if !isSystemKeyspace listener.getApplicableKeyspace then listener
  else if !isLocalTable listener.tableName && !isPeersV1Table listener.tableName &&
      !isPeersV2Table listener.tableName then listener
  else if statement.json || statement.distinct then listener
  else match extractSelectClause statement.selectClause with
    | .ok clause => { listener with parsedSelectClause := some clause }
    | .error _ => listener

/-- `EnterCqlStatement`: the statement type is the type of the first child. -/
def enterCqlStatement (listener : CqlListener) : CqlStatementContext → CqlListener
  | .insertStatement _ => { listener with statementType := .insert }
  | .updateStatement _ => { listener with statementType := .update }
  | .deleteStatement _ => { listener with statementType := .delete }
  | .batchStatement _ => { listener with statementType := .batch }
  | .selectStatement _ => { listener with statementType := .select }
  | .useStatement _ => { listener with statementType := .use }
  | .unrecognizedStatement _ => listener

/-- The walker's visit of a batch child statement at `offset`: the statement, then its
table name. -/
def enterBatchChildStatement (listener : CqlListener) (offset : Nat) :
    BatchChildStatementContext → CqlListener
  | .insertStatement statement =>
      enterTableName (enterInsertStatement listener offset statement) statement.tableName
  | .updateStatement statement =>
      enterTableName (enterUpdateStatement listener offset statement) statement.tableName
  | .deleteStatement statement =>
      enterTableName (enterDeleteStatement listener offset statement) statement.tableName

/-- The walker's visit of the child statements of a batch, left to right. -/
def walkBatchChildren (listener : CqlListener) (offset : Nat) :
    List (BatchChildStatementContext × Bool) → CqlListener
  | [] => listener
  | (child, eos) :: rest =>
      walkBatchChildren (enterBatchChildStatement listener offset child)
        (offset + child.tokens.length + if eos then 1 else 0) rest

/-- `antlr.ParseTreeWalkerDefault.Walk` with a `cqlListener`: enter methods in pre-order,
`ExitSelectStatement` after the table name of the SELECT. -/
def walk (listener : CqlListener) (tree : CqlStatementContext) : CqlListener :=
  let entered := enterCqlStatement listener tree
  match tree with
  | .insertStatement statement =>
      enterTableName (enterInsertStatement entered 0 statement) statement.tableName
  | .updateStatement statement =>
      enterTableName (enterUpdateStatement entered 0 statement) statement.tableName
  | .deleteStatement statement =>
      enterTableName (enterDeleteStatement entered 0 statement) statement.tableName
  | .batchStatement statement =>
      walkBatchChildren (enterBatchStatement entered statement) statement.headTokens.length
        statement.statements
  | .selectStatement statement =>
      exitSelectStatement (enterTableName entered statement.tableName) statement
  | .useStatement keyspaceName => enterUseStatement entered keyspaceName
  | .unrecognizedStatement _ => entered

/-- The listener `inspectCqlQuery` creates for a query. -/
def newCqlListener (query : QueryText) (currentKeyspace : String) : CqlListener where
  query := query.bytes
  lexed := query
  statementType := .other
  keyspaceName := ""
  tableName := ""
  parsedSelectClause := none
  parsedStatements := []
  positionalBindMarkers := false
  namedBindMarkers := false
  nowFunctionCalls := false
  currentPositionalIndex := 0
  currentBatchChildIndex := 0
  requestKeyspace := currentKeyspace

/-- `inspectCqlQuery` on a query whose parse tree is `tree`; the tree's tokens are a prefix of
the query's tokens. -/
def inspectCqlQuery (query : QueryText) (tree : CqlStatementContext) (currentKeyspace : String) :
    CqlListener :=
  walk (newCqlListener query currentKeyspace) tree

/-- `INSERT INTO t (a, b) VALUES ([?], ?)`: a positional marker inside a list literal, then one
at the top level. -/
def insertWithMarkerInLiteral : CqlStatementContext :=
  .insertStatement
    { tableName := ⟨none, .unquoted "t"⟩
      columns := [.unquoted "a", .unquoted "b"]
      values := [.listLiteral [.bindMarker .positionalBindMarker], .bindMarker .positionalBindMarker]
      ifNotExists := false
      usingClause := none }

/-- The text of `insertWithMarkerInLiteral`. -/
def insertWithMarkerInLiteralText : QueryText :=
  .ofTokens insertWithMarkerInLiteral.tokens [1, 2, 3, 6, 8, 9, 14] (by decide)

theorem inspectCqlQuery_misnumbers_marker_after_literal :
    insertWithMarkerInLiteral.tokens[14]? = some .qmark ∧
      qmarkCount (insertWithMarkerInLiteral.tokens.take 14) = 1 ∧
      (inspectCqlQuery insertWithMarkerInLiteralText insertWithMarkerInLiteral "").parsedStatements =
        [⟨0, .insert, [newLiteralTerm "[?]" (-1), newPositionalBindMarkerTerm 0]⟩] := by
  decide +kernel

end ZdmProxy.Cql
