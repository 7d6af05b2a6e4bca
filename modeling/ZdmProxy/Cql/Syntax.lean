import Mathlib

/-!
# The SimplifiedCql parse tree

The proxy inspects every QUERY, PREPARE and BATCH statement with an ANTLR parser generated
from `antlr/SimplifiedCql.g4`. The parser has no error path that reaches the inspector: the
`unrecognizedStatement` alternative accepts any token sequence and `cqlStatement` is not
anchored at the end of input. What the inspector sees is therefore always a parse tree, and
this module gives the parse trees of the grammar as Lean types, one type per rule the
listener inspects, named after the context classes ANTLR generates for those rules.

A query is its sequence of default-channel tokens. Positions are token indices: the ANTLR
start and stop character indices of a context are the first character of its first token and
the last character of its last token, so a splice at those indices is a splice of whole
tokens. Only the `QMARK` token is distinguished; every other token keeps its text.

The listener's type switches iterate over the children of a context and act on some child
types. Clause contexts are therefore described by the list of their children as those
switches classify them (`ChildContext`), and their yields are read off that list; a run of
terminal nodes and uninspected contexts is one `plain` child.
-/

namespace ZdmProxy.Cql

/-- A default-channel token. `qmark` is the `QMARK` token of a positional bind marker. -/
inductive Token where
  | qmark
  | word (text : String)
  deriving DecidableEq, Repr

namespace Token

/-- The token text, as `GetText` returns it. -/
def text : Token → String
  | qmark => "?"
  | word text => text

/-- Whether the token is `QMARK`. -/
def isQmark : Token → Bool
  | qmark => true
  | word _ => false

@[simp] theorem isQmark_qmark : qmark.isQmark = true := rfl

@[simp] theorem isQmark_word (text : String) : (word text).isQmark = false := rfl

end Token

/-- The number of `QMARK` tokens in a token sequence. -/
def qmarkCount (tokens : List Token) : Nat := (tokens.filter Token.isQmark).length

@[simp] theorem qmarkCount_nil : qmarkCount [] = 0 := rfl

@[simp] theorem qmarkCount_cons (token : Token) (tokens : List Token) :
    qmarkCount (token :: tokens) = (if token.isQmark then 1 else 0) + qmarkCount tokens := by
  cases token with
  | qmark =>
    simp only [qmarkCount, List.filter_cons, Token.isQmark, if_true, List.length_cons]
    omega
  | word text => simp [qmarkCount, Token.isQmark]

@[simp] theorem qmarkCount_append (left right : List Token) :
    qmarkCount (left ++ right) = qmarkCount left + qmarkCount right := by
  simp [qmarkCount]

/-- The concatenated token texts; ANTLR's `GetText` on a context. -/
def textOf (tokens : List Token) : String := String.join (tokens.map Token.text)

/-- `identifier : UNQUOTED_IDENTIFIER | QUOTED_IDENTIFIER | unreservedKeyword`. A quoted
identifier keeps the text between its surrounding quotes, escaped quotes still doubled. -/
inductive IdentifierContext where
  | unquoted (text : String)
  | quoted (text : String)
  | unreservedKeyword (text : String)
  deriving DecidableEq, Repr

/-- The single token of an identifier. -/
def IdentifierContext.token : IdentifierContext → Token
  | unquoted text => .word text
  | quoted text => .word ("\"" ++ text ++ "\"")
  | unreservedKeyword text => .word text

/-- `identifiers : identifier ( ',' identifier )*`. -/
def identifiersTokens : List IdentifierContext → List Token
  | [] => []
  | [identifier] => [identifier.token]
  | identifier :: rest => identifier.token :: .word "," :: identifiersTokens rest

/-- `qualifiedIdentifier : ( keyspaceName '.' )? identifier`. -/
structure QualifiedIdentifierContext where
  keyspaceName : Option IdentifierContext
  identifier : IdentifierContext
  deriving DecidableEq, Repr

/-- The tokens of a qualified identifier. -/
def QualifiedIdentifierContext.tokens (name : QualifiedIdentifierContext) : List Token :=
  match name.keyspaceName with
  | some keyspace => [keyspace.token, .word ".", name.identifier.token]
  | none => [name.identifier.token]

/-- `bindMarker : positionalBindMarker | namedBindMarker`, with `positionalBindMarker : QMARK`
and `namedBindMarker : ':' identifier`. -/
inductive BindMarkerContext where
  | positionalBindMarker
  | namedBindMarker (name : IdentifierContext)
  deriving DecidableEq, Repr

/-- The tokens of a bind marker. -/
def BindMarkerContext.tokens : BindMarkerContext → List Token
  | positionalBindMarker => [.qmark]
  | namedBindMarker name => [.word ":", name.token]

/-- `bindMarkers : bindMarker ( ',' bindMarker )*`. -/
def bindMarkersTokens : List BindMarkerContext → List Token
  | [] => []
  | [marker] => marker.tokens
  | marker :: rest => marker.tokens ++ .word "," :: bindMarkersTokens rest

/-- `cqlType`: primitive, collection, tuple, user and frozen types. -/
inductive CqlTypeContext where
  | primitiveType (keyword : String)
  | listType (element : CqlTypeContext)
  | setType (element : CqlTypeContext)
  | mapType (key value : CqlTypeContext)
  | tupleType (components : List CqlTypeContext)
  | userTypeName (name : QualifiedIdentifierContext)
  | frozenType (inner : CqlTypeContext)
  deriving Repr

mutual
/-- The tokens of a CQL type. -/
def CqlTypeContext.tokens : CqlTypeContext → List Token
  | .primitiveType keyword => [.word keyword]
  | .listType element => [.word "list", .word "<"] ++ element.tokens ++ [.word ">"]
  | .setType element => [.word "set", .word "<"] ++ element.tokens ++ [.word ">"]
  | .mapType key value =>
      [.word "map", .word "<"] ++ key.tokens ++ .word "," :: value.tokens ++ [.word ">"]
  | .tupleType components =>
      [.word "tuple", .word "<"] ++ CqlTypeContext.listTokens components ++ [.word ">"]
  | .userTypeName name => name.tokens
  | .frozenType inner => [.word "frozen", .word "<"] ++ inner.tokens ++ [.word ">"]
/-- Comma-separated CQL types. -/
def CqlTypeContext.listTokens : List CqlTypeContext → List Token
  | [] => []
  | [type] => type.tokens
  | type :: rest => type.tokens ++ .word "," :: CqlTypeContext.listTokens rest
end

mutual
/-- `term : literal | bindMarker | functionCall | typeCast`, with the literal alternatives
inlined. `primitiveLiteral` is one token, or `'-'` before `NaN` or `Infinity`; `K_NULL` is a
primitive literal here. Literals nest terms, so a bind marker may sit inside a literal. -/
inductive TermContext where
  | primitiveLiteral (negated : Bool) (text : String)
  | listLiteral (items : List TermContext)
  | setLiteral (items : List TermContext)
  | mapLiteral (entries : List (TermContext × TermContext))
  | tupleLiteral (items : List TermContext)
  | udtLiteral (fields : List (IdentifierContext × TermContext))
  | bindMarker (marker : BindMarkerContext)
  | functionCall (functionName : QualifiedIdentifierContext) (args : List FunctionArgContext)
  | typeCast (type : CqlTypeContext) (operand : TermContext)
/-- `functionArg : identifier | term`. -/
inductive FunctionArgContext where
  | identifier (name : IdentifierContext)
  | term (value : TermContext)
end

mutual
/-- The tokens of a term. -/
def TermContext.tokens : TermContext → List Token
  | .primitiveLiteral negated text =>
      (if negated then [.word "-"] else []) ++ [.word text]
  | .listLiteral items => .word "[" :: TermContext.listTokens items ++ [.word "]"]
  | .setLiteral items => .word "\x7b" :: TermContext.listTokens items ++ [.word "\x7d"]
  | .mapLiteral entries => .word "\x7b" :: TermContext.entryTokens entries ++ [.word "\x7d"]
  | .tupleLiteral items => .word "(" :: TermContext.listTokens items ++ [.word ")"]
  | .udtLiteral fields => .word "\x7b" :: TermContext.fieldTokens fields ++ [.word "\x7d"]
  | .bindMarker marker => marker.tokens
  | .functionCall functionName args =>
      functionName.tokens ++ .word "(" :: FunctionArgContext.listTokens args ++ [.word ")"]
  | .typeCast type operand => .word "(" :: type.tokens ++ .word ")" :: operand.tokens
/-- `terms : term ( ',' term )*`. -/
def TermContext.listTokens : List TermContext → List Token
  | [] => []
  | [term] => term.tokens
  | term :: rest => term.tokens ++ .word "," :: TermContext.listTokens rest
/-- `mapEntries : mapEntry ( ',' mapEntry )*` with `mapEntry : term ':' term`. -/
def TermContext.entryTokens : List (TermContext × TermContext) → List Token
  | [] => []
  | [(key, value)] => key.tokens ++ .word ":" :: value.tokens
  | (key, value) :: rest =>
      key.tokens ++ .word ":" :: value.tokens ++ .word "," :: TermContext.entryTokens rest
/-- `fieldLiterals : fieldLiteral ( ',' fieldLiteral )*` with `fieldLiteral : identifier ':' term`. -/
def TermContext.fieldTokens : List (IdentifierContext × TermContext) → List Token
  | [] => []
  | [(field, value)] => field.token :: .word ":" :: value.tokens
  | (field, value) :: rest =>
      field.token :: .word ":" :: value.tokens ++ .word "," :: TermContext.fieldTokens rest
/-- The tokens of a function argument. -/
def FunctionArgContext.tokens : FunctionArgContext → List Token
  | .identifier name => [name.token]
  | .term value => value.tokens
/-- `functionArgs : functionArg ( ',' functionArg )*`. -/
def FunctionArgContext.listTokens : List FunctionArgContext → List Token
  | [] => []
  | [arg] => arg.tokens
  | arg :: rest => arg.tokens ++ .word "," :: FunctionArgContext.listTokens rest
end

/-- `tupleLiterals : tupleLiteral ( ',' tupleLiteral )*`, each `tupleLiteral : '(' terms ')'`. -/
def tupleLiteralsTokens : List (List TermContext) → List Token
  | [] => []
  | [items] => .word "(" :: TermContext.listTokens items ++ [.word ")"]
  | items :: rest =>
      .word "(" :: TermContext.listTokens items ++ .word ")" :: .word "," :: tupleLiteralsTokens rest

/-- A child of a clause context as the listener's type switches classify it. Terminal nodes
and contexts that no switch inspects (identifiers, operators) form `plain` children. -/
inductive ChildContext where
  | plain (tokens : List Token)
  | term (value : TermContext)
  | terms (values : List TermContext)
  | bindMarker (marker : BindMarkerContext)
  | bindMarkers (markers : List BindMarkerContext)
  | tupleLiteral (items : List TermContext)
  | tupleLiterals (tuples : List (List TermContext))

/-- The tokens of one classified child. -/
def ChildContext.tokens : ChildContext → List Token
  | .plain tokens => tokens
  | .term value => value.tokens
  | .terms values => TermContext.listTokens values
  | .bindMarker marker => marker.tokens
  | .bindMarkers markers => bindMarkersTokens markers
  | .tupleLiteral items => .word "(" :: TermContext.listTokens items ++ [.word ")"]
  | .tupleLiterals tuples => tupleLiteralsTokens tuples

/-- The tokens of a list of children, left to right. -/
def childrenTokens (children : List ChildContext) : List Token :=
  children.flatMap ChildContext.tokens

@[simp] theorem childrenTokens_nil : childrenTokens [] = [] := rfl

@[simp] theorem childrenTokens_cons (child : ChildContext) (rest : List ChildContext) :
    childrenTokens (child :: rest) = child.tokens ++ childrenTokens rest := rfl

@[simp] theorem childrenTokens_append (left right : List ChildContext) :
    childrenTokens (left ++ right) = childrenTokens left ++ childrenTokens right := by
  simp [childrenTokens]

end ZdmProxy.Cql
