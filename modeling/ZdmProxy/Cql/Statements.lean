import ZdmProxy.Cql.Syntax

/-!
# Clause and statement contexts of the SimplifiedCql grammar

WHERE relations, LWT conditions, UPDATE and DELETE operations, USING clauses and the seven
`cqlStatement` alternatives. Every clause the listener inspects is described by its
classified children (`ChildContext` or, at statement level, `StatementChild`), so that the
listener and the yield read the same child list. Identifiers and operators are never
inspected by the listener and only contribute tokens.

Lists that the grammar requires to be nonempty (`identifiers`, `terms` of an INSERT, the
relations of a WHERE clause) are plain lists here; the listener treats an empty list as no
child, and every statement the grammar accepts has a tree of these types.
-/

namespace ZdmProxy.Cql

/-- `operator : '=' | '<' | '<=' | '>' | '>=' | '!=' | ':'`. -/
inductive Operator where
  | eq | lt | le | gt | ge | ne | colon
  deriving DecidableEq, Repr

/-- The single token of an operator. -/
def Operator.token : Operator → Token
  | eq => .word "="
  | lt => .word "<"
  | le => .word "<="
  | gt => .word ">"
  | ge => .word ">="
  | ne => .word "!="
  | colon => .word ":"

/-- The parenthesized column list that opens the multi-column relations. -/
def tuplePrefix (columns : List IdentifierContext) : List Token :=
  .word "(" :: identifiersTokens columns ++ [.word ")"]

/-- `relation`, one constructor per alternative of the rule, in the grammar's order. -/
inductive RelationContext where
  | compare (column : IdentifierContext) (operator : Operator) (value : TermContext)
  | token (columns : List IdentifierContext) (operator : Operator) (value : TermContext)
  | like (column : IdentifierContext) (value : TermContext)
  | isNotNull (column : IdentifierContext)
  | contains (column : IdentifierContext) (key : Bool) (value : TermContext)
  | elementCompare (column : IdentifierContext) (element : TermContext) (operator : Operator)
      (value : TermContext)
  | inValues (column : IdentifierContext) (values : List TermContext)
  | inMarker (column : IdentifierContext) (marker : BindMarkerContext)
  | tupleInEmpty (columns : List IdentifierContext)
  | tupleInMarker (columns : List IdentifierContext) (marker : BindMarkerContext)
  | tupleInTuples (columns : List IdentifierContext) (tuples : List (List TermContext))
  | tupleInMarkers (columns : List IdentifierContext) (markers : List BindMarkerContext)
  | tupleCompareTuple (columns : List IdentifierContext) (operator : Operator)
      (items : List TermContext)
  | tupleCompareMarkers (columns : List IdentifierContext) (operator : Operator)
      (markers : List BindMarkerContext)
  | tupleCompareMarker (columns : List IdentifierContext) (operator : Operator)
      (marker : BindMarkerContext)
  | parenthesized (inner : RelationContext)

namespace RelationContext

/-- The classified children of a relation. A parenthesized relation has a relation child,
which `extractRelationTerms` follows by recursion; it has no other inspected child. -/
def children : RelationContext → List ChildContext
  | compare column operator value => [.plain [column.token, operator.token], .term value]
  | token columns operator value =>
      [.plain (.word "token" :: tuplePrefix columns ++ [operator.token]), .term value]
  | like column value => [.plain [column.token, .word "like"], .term value]
  | isNotNull column => [.plain [column.token, .word "is", .word "not", .word "null"]]
  | contains column key value =>
      [.plain (column.token :: .word "contains" :: if key then [.word "key"] else []),
        .term value]
  | elementCompare column element operator value =>
      [.plain [column.token, .word "["], .term element, .plain [.word "]", operator.token],
        .term value]
  | inValues column values =>
      [.plain [column.token, .word "in", .word "("], .terms values, .plain [.word ")"]]
  | inMarker column marker => [.plain [column.token, .word "in"], .bindMarker marker]
  | tupleInEmpty columns => [.plain (tuplePrefix columns ++ [.word "in", .word "(", .word ")"])]
  | tupleInMarker columns marker =>
      [.plain (tuplePrefix columns ++ [.word "in"]), .bindMarker marker]
  | tupleInTuples columns tuples =>
      [.plain (tuplePrefix columns ++ [.word "in", .word "("]), .tupleLiterals tuples,
        .plain [.word ")"]]
  | tupleInMarkers columns markers =>
      [.plain (tuplePrefix columns ++ [.word "in", .word "("]), .bindMarkers markers,
        .plain [.word ")"]]
  | tupleCompareTuple columns operator items =>
      [.plain (tuplePrefix columns ++ [operator.token]), .tupleLiteral items]
  | tupleCompareMarkers columns operator markers =>
      [.plain (tuplePrefix columns ++ [operator.token, .word "("]), .bindMarkers markers,
        .plain [.word ")"]]
  | tupleCompareMarker columns operator marker =>
      [.plain (tuplePrefix columns ++ [operator.token]), .bindMarker marker]
  | parenthesized _ => []

/-- The tokens of a relation. -/
def tokens : RelationContext → List Token
  | parenthesized inner => .word "(" :: inner.tokens ++ [.word ")"]
  | relation => childrenTokens relation.children

end RelationContext

/-- `logicalOperator : K_AND | K_OR`. -/
inductive LogicalOperator where
  | and | or
  deriving DecidableEq, Repr

/-- The single token of a logical operator. -/
def LogicalOperator.token : LogicalOperator → Token
  | and => .word "and"
  | or => .word "or"

/-- `whereClause : K_WHERE relation ( logicalOperator relation )*`. -/
structure WhereClauseContext where
  first : RelationContext
  rest : List (LogicalOperator × RelationContext)

namespace WhereClauseContext

/-- The relations of a WHERE clause, left to right. -/
def relations (clause : WhereClauseContext) : List RelationContext :=
  clause.first :: clause.rest.map Prod.snd

/-- The tokens of a WHERE clause. -/
def tokens (clause : WhereClauseContext) : List Token :=
  .word "where" :: clause.first.tokens ++
    clause.rest.flatMap (fun joined => joined.1.token :: joined.2.tokens)

end WhereClauseContext

/-- The left side of a `condition`: a column, a collection element or a UDT field. -/
inductive ConditionTarget where
  | column (column : IdentifierContext)
  | element (column : IdentifierContext) (element : TermContext)
  | field (column field : IdentifierContext)

/-- The right side of a `condition`: a comparison, an IN list or an IN bind marker. -/
inductive ConditionTest where
  | compare (operator : Operator) (value : TermContext)
  | inValues (values : List TermContext)
  | inMarker (marker : BindMarkerContext)

/-- `condition`: the six alternatives of the rule are the products of a target and a test. -/
structure ConditionContext where
  target : ConditionTarget
  test : ConditionTest

/-- The classified children of a condition. -/
def ConditionContext.children (condition : ConditionContext) : List ChildContext :=
  (match condition.target with
    | .column column => [.plain [column.token]]
    | .element column element => [.plain [column.token, .word "["], .term element, .plain [.word "]"]]
    | .field column field => [.plain [column.token, .word ".", field.token]]) ++
  (match condition.test with
    | .compare operator value => [.plain [operator.token], .term value]
    | .inValues values => [.plain [.word "in", .word "("], .terms values, .plain [.word ")"]]
    | .inMarker marker => [.plain [.word "in"], .bindMarker marker])

/-- `conditions : condition ( K_AND condition )*`. -/
def conditionsTokens : List ConditionContext → List Token
  | [] => []
  | [condition] => childrenTokens condition.children
  | condition :: rest => childrenTokens condition.children ++ .word "and" :: conditionsTokens rest

/-- `updateOperation`, one constructor per alternative of the rule. -/
inductive UpdateOperationContext where
  | assign (column : IdentifierContext) (value : TermContext) (appended : Option IdentifierContext)
  | assignArithmetic (column operand : IdentifierContext) (subtract : Bool) (value : TermContext)
  | compoundAssign (column : IdentifierContext) (subtract : Bool) (value : TermContext)
  | elementAssign (column : IdentifierContext) (element value : TermContext)
  | fieldAssign (column field : IdentifierContext) (value : TermContext)

/-- The classified children of an update operation. -/
def UpdateOperationContext.children : UpdateOperationContext → List ChildContext
  | .assign column value appended =>
      [.plain [column.token, .word "="], .term value] ++
        (match appended with
          | some other => [.plain [.word "+", other.token]]
          | none => [])
  | .assignArithmetic column operand subtract value =>
      [.plain [column.token, .word "=", operand.token, .word (if subtract then "-" else "+")],
        .term value]
  | .compoundAssign column subtract value =>
      [.plain [column.token, .word (if subtract then "-=" else "+=")], .term value]
  | .elementAssign column element value =>
      [.plain [column.token, .word "["], .term element, .plain [.word "]", .word "="], .term value]
  | .fieldAssign column field value =>
      [.plain [column.token, .word ".", field.token, .word "="], .term value]

/-- `updateOperations : updateOperation ( ',' updateOperation )*`. -/
def updateOperationsTokens : List UpdateOperationContext → List Token
  | [] => []
  | [operation] => childrenTokens operation.children
  | operation :: rest =>
      childrenTokens operation.children ++ .word "," :: updateOperationsTokens rest

/-- `deleteOperation : identifier | identifier '[' term ']' | identifier '.' identifier`. -/
inductive DeleteOperationContext where
  | column (column : IdentifierContext)
  | element (column : IdentifierContext) (element : TermContext)
  | field (column field : IdentifierContext)

/-- The classified children of a delete operation. -/
def DeleteOperationContext.children : DeleteOperationContext → List ChildContext
  | .column name => [.plain [name.token]]
  | .element name index => [.plain [name.token, .word "["], .term index, .plain [.word "]"]]
  | .field name fieldName => [.plain [name.token, .word ".", fieldName.token]]

/-- `deleteOperations : deleteOperation ( ',' deleteOperation )*`. -/
def deleteOperationsTokens : List DeleteOperationContext → List Token
  | [] => []
  | [operation] => childrenTokens operation.children
  | operation :: rest =>
      childrenTokens operation.children ++ .word "," :: deleteOperationsTokens rest

/-- The value of `timestamp : K_TIMESTAMP ( INTEGER | bindMarker )` and of `ttl`. -/
inductive UsingValue where
  | integer (text : String)
  | bindMarker (marker : BindMarkerContext)

/-- The tokens of a USING value. -/
def UsingValue.tokens : UsingValue → List Token
  | .integer text => [.word text]
  | .bindMarker marker => marker.tokens

/-- `usingClause`: a timestamp, a ttl, or both in either order. -/
inductive UsingClauseContext where
  | timestamp (timestamp : UsingValue)
  | ttl (ttl : UsingValue)
  | timestampAndTtl (timestamp ttl : UsingValue)
  | ttlAndTimestamp (ttl timestamp : UsingValue)

namespace UsingClauseContext

/-- The `timestamp` and `ttl` children, left to right, each with its keyword. -/
def items : UsingClauseContext → List (String × UsingValue)
  | timestamp value => [("timestamp", value)]
  | ttl value => [("ttl", value)]
  | timestampAndTtl timestampValue ttlValue => [("timestamp", timestampValue), ("ttl", ttlValue)]
  | ttlAndTimestamp ttlValue timestampValue => [("ttl", ttlValue), ("timestamp", timestampValue)]

/-- The tokens of the items after `K_USING`, joined by `K_AND`. -/
def itemsTokens : List (String × UsingValue) → List Token
  | [] => []
  | [(keyword, value)] => .word keyword :: value.tokens
  | (keyword, value) :: rest => .word keyword :: value.tokens ++ .word "and" :: itemsTokens rest

/-- The tokens of a USING clause. -/
def tokens (clause : UsingClauseContext) : List Token :=
  .word "using" :: itemsTokens clause.items

end UsingClauseContext

/-- The `K_IF` tail of UPDATE and DELETE: `K_EXISTS` or `conditions`. -/
inductive IfClause where
  | exists
  | conditions (conditions : List ConditionContext)

/-- A child of a statement context as the `Enter*Statement` switches classify it, or the
`tableName` child at which the walker calls `EnterTableName`. -/
inductive StatementChild where
  | plain (tokens : List Token)
  | tableName (name : QualifiedIdentifierContext)
  | terms (values : List TermContext)
  | usingClause (clause : UsingClauseContext)
  | updateOperations (operations : List UpdateOperationContext)
  | deleteOperations (operations : List DeleteOperationContext)
  | timestamp (value : UsingValue)
  | whereClause (clause : WhereClauseContext)
  | conditions (conditions : List ConditionContext)

/-- The tokens of one statement child. -/
def StatementChild.tokens : StatementChild → List Token
  | .plain tokens => tokens
  | .tableName name => name.tokens
  | .terms values => TermContext.listTokens values
  | .usingClause clause => clause.tokens
  | .updateOperations operations => updateOperationsTokens operations
  | .deleteOperations operations => deleteOperationsTokens operations
  | .timestamp value => .word "timestamp" :: value.tokens
  | .whereClause clause => clause.tokens
  | .conditions conditionList => conditionsTokens conditionList

/-- The tokens of a list of statement children. -/
def statementTokens (children : List StatementChild) : List Token :=
  children.flatMap StatementChild.tokens

/-- The children of the optional `K_IF` tail. -/
def ifClauseChildren : Option IfClause → List StatementChild
  | none => []
  | some .exists => [.plain [.word "if", .word "exists"]]
  | some (.conditions conditionList) => [.plain [.word "if"], .conditions conditionList]

/-- The children of an optional USING clause. -/
def usingClauseChildren : Option UsingClauseContext → List StatementChild
  | none => []
  | some clause => [.usingClause clause]

/-- `insertStatement` (JSON inserts are not in the grammar). -/
structure InsertStatementContext where
  tableName : QualifiedIdentifierContext
  columns : List IdentifierContext
  values : List TermContext
  ifNotExists : Bool
  usingClause : Option UsingClauseContext

/-- The children of an INSERT statement. -/
def InsertStatementContext.children (statement : InsertStatementContext) : List StatementChild :=
  [.plain [.word "insert", .word "into"], .tableName statement.tableName,
    .plain (tuplePrefix statement.columns ++ [.word "values", .word "("]),
    .terms statement.values, .plain [.word ")"]] ++
  (if statement.ifNotExists then [.plain [.word "if", .word "not", .word "exists"]] else []) ++
  usingClauseChildren statement.usingClause

/-- `updateStatement`. -/
structure UpdateStatementContext where
  tableName : QualifiedIdentifierContext
  usingClause : Option UsingClauseContext
  operations : List UpdateOperationContext
  whereClause : WhereClauseContext
  ifClause : Option IfClause

/-- The children of an UPDATE statement. -/
def UpdateStatementContext.children (statement : UpdateStatementContext) : List StatementChild :=
  [.plain [.word "update"], .tableName statement.tableName] ++
  usingClauseChildren statement.usingClause ++
  [.plain [.word "set"], .updateOperations statement.operations,
    .whereClause statement.whereClause] ++
  ifClauseChildren statement.ifClause

/-- `deleteStatement`; `operations` is empty when `deleteOperations?` is absent. -/
structure DeleteStatementContext where
  operations : List DeleteOperationContext
  tableName : QualifiedIdentifierContext
  timestamp : Option UsingValue
  whereClause : WhereClauseContext
  ifClause : Option IfClause

/-- The children of a DELETE statement. -/
def DeleteStatementContext.children (statement : DeleteStatementContext) : List StatementChild :=
  [.plain [.word "delete"]] ++
  (if statement.operations.isEmpty then [] else [.deleteOperations statement.operations]) ++
  [.plain [.word "from"], .tableName statement.tableName] ++
  (match statement.timestamp with
    | some value => [.plain [.word "using"], .timestamp value]
    | none => []) ++
  [.whereClause statement.whereClause] ++
  ifClauseChildren statement.ifClause

/-- `batchChildStatement : insertStatement | updateStatement | deleteStatement`. -/
inductive BatchChildStatementContext where
  | insertStatement (statement : InsertStatementContext)
  | updateStatement (statement : UpdateStatementContext)
  | deleteStatement (statement : DeleteStatementContext)

/-- The children of a batch child statement. -/
def BatchChildStatementContext.children : BatchChildStatementContext → List StatementChild
  | .insertStatement statement => statement.children
  | .updateStatement statement => statement.children
  | .deleteStatement statement => statement.children

/-- The tokens of a batch child statement. -/
def BatchChildStatementContext.tokens (child : BatchChildStatementContext) : List Token :=
  statementTokens child.children

/-- `K_BEGIN ( K_UNLOGGED | K_COUNTER )? K_BATCH`. -/
inductive BatchKind where
  | logged | unlogged | counter
  deriving DecidableEq, Repr

/-- `batchStatement`; each child statement carries whether an `EOS` follows it. -/
structure BatchStatementContext where
  kind : BatchKind
  usingClause : Option UsingClauseContext
  statements : List (BatchChildStatementContext × Bool)

/-- The tokens that open a batch, up to and including its USING clause. -/
def BatchStatementContext.headTokens (statement : BatchStatementContext) : List Token :=
  .word "begin" ::
    (match statement.kind with
      | .logged => []
      | .unlogged => [.word "unlogged"]
      | .counter => [.word "counter"]) ++
    .word "batch" :: statementTokens (usingClauseChildren statement.usingClause)

/-- The tokens of the child statements of a batch, each with its optional `EOS`. -/
def batchChildrenTokens : List (BatchChildStatementContext × Bool) → List Token
  | [] => []
  | (child, eos) :: rest =>
      child.tokens ++ (if eos then [.word ";"] else []) ++ batchChildrenTokens rest

/-- The tokens of a batch. -/
def BatchStatementContext.tokens (statement : BatchStatementContext) : List Token :=
  statement.headTokens ++ batchChildrenTokens statement.statements ++ [.word "apply", .word "batch"]

/-- `unaliasedSelector : identifier | term | K_COUNT '(' '*' ')' | K_CAST '(' ... ')'`. -/
inductive UnaliasedSelectorContext where
  | identifier (name : IdentifierContext)
  | term (value : TermContext)
  | count (text : String)
  | cast (inner : UnaliasedSelectorContext) (type : String)

/-- `selector : unaliasedSelector ( K_AS identifier )?`. -/
structure SelectorContext where
  selector : UnaliasedSelectorContext
  aliasName : Option IdentifierContext

/-- `selectClause : '*' | selectors`. -/
inductive SelectClauseContext where
  | star
  | selectors (selectors : List SelectorContext)

/-- `selectStatement`. The clauses after the table name (WHERE, GROUP BY, ORDER BY, the
limits and ALLOW FILTERING) are never inspected and are kept as tokens. -/
structure SelectStatementContext where
  json : Bool
  distinct : Bool
  selectClause : SelectClauseContext
  tableName : QualifiedIdentifierContext
  clauses : List Token

/-- The tokens of an unaliased selector. -/
def UnaliasedSelectorContext.tokens : UnaliasedSelectorContext → List Token
  | .identifier name => [name.token]
  | .term value => value.tokens
  | .count text => [.word text, .word "(", .word "*", .word ")"]
  | .cast inner type =>
      [.word "cast", .word "("] ++ inner.tokens ++ [.word "as", .word type, .word ")"]

/-- The tokens of a selector. -/
def SelectorContext.tokens (selector : SelectorContext) : List Token :=
  selector.selector.tokens ++
    match selector.aliasName with
    | some name => [.word "as", name.token]
    | none => []

/-- `selectors : selector ( ',' selector )*`. -/
def selectorsTokens : List SelectorContext → List Token
  | [] => []
  | [selector] => selector.tokens
  | selector :: rest => selector.tokens ++ .word "," :: selectorsTokens rest

/-- The tokens of a select clause. -/
def SelectClauseContext.tokens : SelectClauseContext → List Token
  | .star => [.word "*"]
  | .selectors list => selectorsTokens list

/-- The tokens of a SELECT statement. -/
def SelectStatementContext.tokens (statement : SelectStatementContext) : List Token :=
  .word "select" :: (if statement.json then [.word "json"] else []) ++
    (if statement.distinct then [.word "distinct"] else []) ++
    statement.selectClause.tokens ++ .word "from" :: statement.tableName.tokens ++
    statement.clauses

/-- `cqlStatement`, without the optional `EOS`, which no listener method inspects. -/
inductive CqlStatementContext where
  | insertStatement (statement : InsertStatementContext)
  | updateStatement (statement : UpdateStatementContext)
  | deleteStatement (statement : DeleteStatementContext)
  | batchStatement (statement : BatchStatementContext)
  | selectStatement (statement : SelectStatementContext)
  | useStatement (keyspaceName : IdentifierContext)
  | unrecognizedStatement (tokens : List Token)

/-- The tokens of a statement. The query may continue after them: `cqlStatement` is not
anchored at the end of input. -/
def CqlStatementContext.tokens : CqlStatementContext → List Token
  | .insertStatement statement => statementTokens statement.children
  | .updateStatement statement => statementTokens statement.children
  | .deleteStatement statement => statementTokens statement.children
  | .batchStatement statement => statement.tokens
  | .selectStatement statement => statement.tokens
  | .useStatement keyspaceName => [.word "use", keyspaceName.token]
  | .unrecognizedStatement tokens => tokens

end ZdmProxy.Cql
