import ZdmProxy.Cql.Listener
import ZdmProxy.Lib.Splice

/-!
# Where the listener's terms sit in the query

The replacement of `now()` calls splices the query at the token spans the listener recorded,
and the value splicer at EXECUTE time places each generated value after
`previousPositionalIndex + 1` client values. Both are right only if the listener's records
agree with the query: the spans of the `now()` calls are sorted and disjoint, and the running
counter at each call equals the number of `?` tokens before it.

The counter only counts the markers the listener visits, so it can fall behind the query.
Every extraction reads a context whose tokens are a contiguous part of the query; an
`Extraction` records what it guarantees about those tokens: the counter advances by at most
the number of `?` tokens read, and when it advances by exactly that many (the listener visited
every marker of the context) the `now()` calls it recorded are placed (`CallsPlaced`). These
facts compose along the concatenation of contexts (`Extraction.append`), and one lemma per
extraction function carries them up to `inspectCqlQuery` (`inspectCqlQuery_modification`).
-/

namespace ZdmProxy.Cql

open Splice

/-- The span of a term that calls `now()`: its start index and one past its stop index. -/
def Term.nowSpan (term : Term) : Option (Nat × Nat) :=
  match term.functionCall with
  | some call => if call.isNow then some (call.startIndex, call.stopIndex + 1) else none
  | none => none

/-- The spans of the `now()` calls among some terms, in order. -/
def nowSpans (terms : List Term) : List (Nat × Nat) := terms.filterMap Term.nowSpan

@[simp] theorem nowSpans_nil : nowSpans [] = [] := rfl

@[simp] theorem nowSpans_append (first second : List Term) :
    nowSpans (first ++ second) = nowSpans first ++ nowSpans second := by
  simp [nowSpans]

theorem mem_nowSpans {terms : List Term} {term : Term} {span : Nat × Nat} (member : term ∈ terms)
    (spanned : term.nowSpan = some span) : span ∈ nowSpans terms :=
  List.mem_filterMap.mpr ⟨term, member, spanned⟩

/-- The `now()` calls among `terms`, read from `tokens` starting at query index `offset` with
the counter at `counter`, sit in order inside `tokens`, each over at least one token, contain no
`?`, and each records as previous positional index the number of `?` tokens before it, less
one. -/
structure CallsPlaced (counter offset : Nat) (tokens : List Token) (terms : List Term) : Prop where
  sorted : SpansSorted offset (offset + tokens.length) (nowSpans terms)
  nonempty : ∀ span ∈ nowSpans terms, span.1 < span.2
  qmarkFree : ∀ span ∈ nowSpans terms,
    qmarkCount (segment tokens (span.1 - offset) (span.2 - offset)) = 0
  previous : ∀ term ∈ terms, ∀ span, term.nowSpan = some span →
    term.previousPositionalIndex =
      ((counter + qmarkCount (tokens.take (span.1 - offset)) : Nat) : Int) - 1

namespace CallsPlaced

variable {counter offset : Nat} {tokens : List Token} {terms : List Term}

/-- Terms with no `now()` call are placed anywhere. -/
theorem of_nowSpans_nil (noCalls : nowSpans terms = []) :
    CallsPlaced counter offset tokens terms where
  sorted := by
    rw [noCalls]
    exact .nil (by omega)
  nonempty := by simp [noCalls]
  qmarkFree := by simp [noCalls]
  previous := fun term member span spanned => by
    have := mem_nowSpans member spanned
    simp [noCalls] at this

theorem append {firstTokens secondTokens : List Token} {firstTerms secondTerms : List Term}
    (first : CallsPlaced counter offset firstTokens firstTerms)
    (second : CallsPlaced (counter + qmarkCount firstTokens) (offset + firstTokens.length)
      secondTokens secondTerms) :
    CallsPlaced counter offset (firstTokens ++ secondTokens) (firstTerms ++ secondTerms) where
  sorted := by
    rw [nowSpans_append, List.length_append, ← Nat.add_assoc]
    exact first.sorted.append second.sorted
  nonempty := by
    intro span member
    rcases List.mem_append.mp (by simpa using member) with inFirst | inSecond
    · exact first.nonempty span inFirst
    · exact second.nonempty span inSecond
  qmarkFree := by
    intro span member
    rcases List.mem_append.mp (by simpa using member) with inFirst | inSecond
    · have bounds := first.sorted.bounds_of_mem inFirst
      rw [segment_append_left _ _ (by omega)]
      exact first.qmarkFree span inFirst
    · have bounds := second.sorted.bounds_of_mem inSecond
      rw [segment_append_right _ _ (by omega), Nat.sub_sub, Nat.sub_sub]
      exact second.qmarkFree span inSecond
  previous := by
    intro term member span spanned
    rcases List.mem_append.mp member with inFirst | inSecond
    · have bounds := first.sorted.bounds_of_mem (mem_nowSpans inFirst spanned)
      rw [first.previous term inFirst span spanned, List.take_append_of_le_length (by omega)]
    · have bounds := second.sorted.bounds_of_mem (mem_nowSpans inSecond spanned)
      have split :
          span.1 - offset = firstTokens.length + (span.1 - (offset + firstTokens.length)) := by
        omega
      rw [second.previous term inSecond span spanned, split, List.take_length_add_append,
        qmarkCount_append, Nat.add_assoc]

end CallsPlaced

/-- What an extraction from `listener` to `next` that read the context `tokens` at query index
`offset` and returned `terms` guarantees: it keeps the query and the parsed statements, sets the
`now()` flag exactly when it met a `now()` call, advances the counter by at most the number of
`?` tokens read, and places its calls when it advanced by exactly that many. -/
structure Extraction (listener next : CqlListener) (offset : Nat) (tokens : List Token)
    (terms : List Term) : Prop where
  query : next.query = listener.query
  lexed : next.lexed = listener.lexed
  parsedStatements : next.parsedStatements = listener.parsedStatements
  nowFunctionCalls :
    next.nowFunctionCalls = (listener.nowFunctionCalls || !(nowSpans terms).isEmpty)
  counted : listener.currentPositionalIndex ≤ next.currentPositionalIndex
  bounded : next.currentPositionalIndex ≤ listener.currentPositionalIndex + qmarkCount tokens
  placed : next.currentPositionalIndex = listener.currentPositionalIndex + qmarkCount tokens →
    CallsPlaced listener.currentPositionalIndex offset tokens terms

namespace Extraction

variable {listener middle next : CqlListener} {offset : Nat} {tokens : List Token}
  {terms : List Term}

/-- Tokens that the listener reads without recording a term. -/
theorem unchanged (listener : CqlListener) (offset : Nat) (tokens : List Token) :
    Extraction listener listener offset tokens [] where
  query := rfl
  lexed := rfl
  parsedStatements := rfl
  nowFunctionCalls := by simp
  counted := le_refl _
  bounded := by omega
  placed _ := CallsPlaced.of_nowSpans_nil rfl

/-- Reading one context and then the next one is reading their concatenation. -/
theorem append {firstTokens secondTokens : List Token} {firstTerms secondTerms : List Term}
    {secondOffset : Nat} (first : Extraction listener middle offset firstTokens firstTerms)
    (second : Extraction middle next secondOffset secondTokens secondTerms)
    (adjacent : secondOffset = offset + firstTokens.length) :
    Extraction listener next offset (firstTokens ++ secondTokens) (firstTerms ++ secondTerms) where
  query := second.query.trans first.query
  lexed := second.lexed.trans first.lexed
  parsedStatements := second.parsedStatements.trans first.parsedStatements
  nowFunctionCalls := by
    rw [second.nowFunctionCalls, first.nowFunctionCalls, nowSpans_append]
    cases listener.nowFunctionCalls <;> cases nowSpans firstTerms <;> simp
  counted := first.counted.trans second.counted
  bounded := by
    have := first.bounded
    have := second.bounded
    rw [qmarkCount_append]
    omega
  placed exact := by
    have firstBounded := first.bounded
    have secondBounded := second.bounded
    have secondCounted := second.counted
    rw [qmarkCount_append] at exact
    have firstExact : middle.currentPositionalIndex =
        listener.currentPositionalIndex + qmarkCount firstTokens := by omega
    have secondExact : next.currentPositionalIndex =
        middle.currentPositionalIndex + qmarkCount secondTokens := by omega
    have secondPlaced := second.placed secondExact
    rw [firstExact, adjacent] at secondPlaced
    exact (first.placed firstExact).append secondPlaced

/-- A step that records no `now()` call and touches only the counter and the marker flags. -/
theorem of_no_calls (noCalls : nowSpans terms = [])
    (query : next.query = listener.query) (lexed : next.lexed = listener.lexed)
    (parsedStatements : next.parsedStatements = listener.parsedStatements)
    (nowFunctionCalls : next.nowFunctionCalls = listener.nowFunctionCalls)
    (counted : listener.currentPositionalIndex ≤ next.currentPositionalIndex)
    (bounded : next.currentPositionalIndex ≤ listener.currentPositionalIndex + qmarkCount tokens) :
    Extraction listener next offset tokens terms where
  query := query
  lexed := lexed
  parsedStatements := parsedStatements
  nowFunctionCalls := by simp [nowFunctionCalls, noCalls]
  counted := counted
  bounded := bounded
  placed _ := CallsPlaced.of_nowSpans_nil noCalls

/-- A context, a separator token, and the next context. -/
theorem separated {firstTokens secondTokens : List Token} {firstTerms secondTerms : List Term}
    {secondOffset : Nat} (first : Extraction listener middle offset firstTokens firstTerms)
    (separator : Token) (second : Extraction middle next secondOffset secondTokens secondTerms)
    (adjacent : secondOffset = offset + firstTokens.length + 1) :
    Extraction listener next offset (firstTokens ++ separator :: secondTokens)
      (firstTerms ++ secondTerms) :=
  first.append ((unchanged middle _ [separator]).append second (by simpa using adjacent)) rfl

/-- A context between an opening and a closing token. -/
theorem enclosed (opening closing : Token) (inner : Extraction listener next (offset + 1) tokens terms) :
    Extraction listener next offset (opening :: tokens ++ [closing]) terms := by
  have whole := (unchanged listener offset [opening]).append
    (inner.append (unchanged next _ [closing]) rfl) rfl
  simpa only [List.nil_append, List.append_nil, List.singleton_append, List.cons_append]
    using whole

end Extraction

/-! The extraction functions thread the listener through `let` pairs; these equations name
the two components, so that the lemmas below can rewrite with them. -/

theorem extractTerm_typeCast (listener : CqlListener) (offset : Nat) (type : CqlTypeContext)
    (operand : TermContext) :
    extractTerm listener offset (.typeCast type operand) =
      extractTerm listener (offset + type.tokens.length + 2) operand := rfl

@[simp] theorem extractAllTerms_nil (listener : CqlListener) (offset : Nat) :
    extractAllTerms listener offset [] = ([], listener) := rfl

@[simp] theorem extractAllBindMarkers_nil (listener : CqlListener) :
    extractAllBindMarkers listener [] = ([], listener) := rfl

@[simp] theorem extractTupleLiterals_nil (listener : CqlListener) (offset : Nat) :
    extractTupleLiterals listener offset [] = ([], listener) := rfl

@[simp] theorem extractConditionsTerms_nil (listener : CqlListener) (offset : Nat) :
    extractConditionsTerms listener offset [] = ([], listener) := rfl

@[simp] theorem extractUpdateOperations_nil (listener : CqlListener) (offset : Nat) :
    extractUpdateOperations listener offset [] = ([], listener) := rfl

@[simp] theorem extractDeleteOperations_nil (listener : CqlListener) (offset : Nat) :
    extractDeleteOperations listener offset [] = ([], listener) := rfl

@[simp] theorem extractUsingItems_nil (listener : CqlListener) :
    extractUsingItems listener [] = ([], listener) := rfl

theorem extractAllTerms_cons (listener : CqlListener) (offset : Nat) (value : TermContext)
    (rest : List TermContext) :
    extractAllTerms listener offset (value :: rest) =
      ((extractTerm listener offset value).1 ::
          (extractAllTerms (extractTerm listener offset value).2
            (offset + value.tokens.length + 1) rest).1,
        (extractAllTerms (extractTerm listener offset value).2
          (offset + value.tokens.length + 1) rest).2) := rfl

theorem extractAllBindMarkers_cons (listener : CqlListener) (marker : BindMarkerContext)
    (rest : List BindMarkerContext) :
    extractAllBindMarkers listener (marker :: rest) =
      ((extractBindMarker listener marker).1 ::
          (extractAllBindMarkers (extractBindMarker listener marker).2 rest).1,
        (extractAllBindMarkers (extractBindMarker listener marker).2 rest).2) := rfl

theorem extractTupleLiterals_cons (listener : CqlListener) (offset : Nat)
    (items : List TermContext) (rest : List (List TermContext)) :
    extractTupleLiterals listener offset (items :: rest) =
      ((extractAllTerms listener (offset + 1) items).1 ++
          (extractTupleLiterals (extractAllTerms listener (offset + 1) items).2
            (offset + (TermContext.listTokens items).length + 3) rest).1,
        (extractTupleLiterals (extractAllTerms listener (offset + 1) items).2
          (offset + (TermContext.listTokens items).length + 3) rest).2) := rfl

theorem extractChildren_cons (listener : CqlListener) (offset : Nat) (child : ChildContext)
    (rest : List ChildContext) :
    extractChildren listener offset (child :: rest) =
      ((extractChild listener offset child).1 ++
          (extractChildren (extractChild listener offset child).2
            (offset + child.tokens.length) rest).1,
        (extractChildren (extractChild listener offset child).2
          (offset + child.tokens.length) rest).2) := rfl

theorem extractJoinedRelations_cons (listener : CqlListener) (offset : Nat)
    (joined : LogicalOperator × RelationContext) (rest : List (LogicalOperator × RelationContext)) :
    extractJoinedRelations listener offset (joined :: rest) =
      ((extractRelationTerms listener (offset + 1) joined.2).1 ++
          (extractJoinedRelations (extractRelationTerms listener (offset + 1) joined.2).2
            (offset + 1 + joined.2.tokens.length) rest).1,
        (extractJoinedRelations (extractRelationTerms listener (offset + 1) joined.2).2
          (offset + 1 + joined.2.tokens.length) rest).2) := rfl

theorem extractWhereClauseTerms_eq (listener : CqlListener) (offset : Nat)
    (clause : WhereClauseContext) :
    extractWhereClauseTerms listener offset clause =
      ((extractRelationTerms listener (offset + 1) clause.first).1 ++
          (extractJoinedRelations (extractRelationTerms listener (offset + 1) clause.first).2
            (offset + 1 + clause.first.tokens.length) clause.rest).1,
        (extractJoinedRelations (extractRelationTerms listener (offset + 1) clause.first).2
          (offset + 1 + clause.first.tokens.length) clause.rest).2) := rfl

theorem extractConditionsTerms_cons (listener : CqlListener) (offset : Nat)
    (condition : ConditionContext) (rest : List ConditionContext) :
    extractConditionsTerms listener offset (condition :: rest) =
      ((extractChildren listener offset condition.children).1 ++
          (extractConditionsTerms (extractChildren listener offset condition.children).2
            (offset + (childrenTokens condition.children).length + 1) rest).1,
        (extractConditionsTerms (extractChildren listener offset condition.children).2
          (offset + (childrenTokens condition.children).length + 1) rest).2) := rfl

theorem extractUpdateOperations_cons (listener : CqlListener) (offset : Nat)
    (operation : UpdateOperationContext) (rest : List UpdateOperationContext) :
    extractUpdateOperations listener offset (operation :: rest) =
      ((extractChildren listener offset operation.children).1 ++
          (extractUpdateOperations (extractChildren listener offset operation.children).2
            (offset + (childrenTokens operation.children).length + 1) rest).1,
        (extractUpdateOperations (extractChildren listener offset operation.children).2
          (offset + (childrenTokens operation.children).length + 1) rest).2) := rfl

theorem extractDeleteOperations_cons (listener : CqlListener) (offset : Nat)
    (operation : DeleteOperationContext) (rest : List DeleteOperationContext) :
    extractDeleteOperations listener offset (operation :: rest) =
      ((extractChildren listener offset operation.children).1 ++
          (extractDeleteOperations (extractChildren listener offset operation.children).2
            (offset + (childrenTokens operation.children).length + 1) rest).1,
        (extractDeleteOperations (extractChildren listener offset operation.children).2
          (offset + (childrenTokens operation.children).length + 1) rest).2) := rfl

theorem extractUsingItems_cons (listener : CqlListener) (item : String × UsingValue)
    (rest : List (String × UsingValue)) :
    extractUsingItems listener (item :: rest) =
      ((extractNillableBindMarker listener item.2).1.toList ++
          (extractUsingItems (extractNillableBindMarker listener item.2).2 rest).1,
        (extractUsingItems (extractNillableBindMarker listener item.2).2 rest).2) := rfl

theorem extractStatementChild_timestamp (listener : CqlListener) (offset : Nat)
    (value : UsingValue) :
    extractStatementChild listener offset (.timestamp value) =
      ((extractNillableBindMarker listener value).1.toList,
        (extractNillableBindMarker listener value).2) := rfl

theorem extractStatementChildren_cons (listener : CqlListener) (offset : Nat)
    (child : StatementChild) (rest : List StatementChild) :
    extractStatementChildren listener offset (child :: rest) =
      ((extractStatementChild listener offset child).1 ++
          (extractStatementChildren (extractStatementChild listener offset child).2
            (offset + child.tokens.length) rest).1,
        (extractStatementChildren (extractStatementChild listener offset child).2
          (offset + child.tokens.length) rest).2) := rfl

/-- A term that calls `now()` over all of `tokens`, recorded with the counter unchanged. -/
theorem Extraction.nowCall {listener : CqlListener} {offset : Nat} {tokens : List Token}
    {term : Term} (spanned : term.nowSpan = some (offset, offset + tokens.length))
    (nonempty : 0 < tokens.length)
    (previous : term.previousPositionalIndex = (listener.currentPositionalIndex : Int) - 1) :
    Extraction listener { listener with nowFunctionCalls := true } offset tokens [term] where
  query := rfl
  lexed := rfl
  parsedStatements := rfl
  nowFunctionCalls := by simp [nowSpans, spanned]
  counted := le_rfl
  bounded := Nat.le_add_right _ _
  placed exact := by
    have noMarker : qmarkCount tokens = 0 := by simpa using exact
    refine ⟨?_, ?_, ?_, ?_⟩
    · simp only [nowSpans, List.filterMap_cons, spanned, List.filterMap_nil]
      exact .cons le_rfl (by omega) (.nil le_rfl)
    · simpa [nowSpans, spanned] using nonempty
    · simp [nowSpans, spanned, Splice.segment, noMarker]
    · intro other member span otherSpanned
      obtain rfl := List.mem_singleton.mp member
      rw [spanned] at otherSpanned
      cases otherSpanned
      simp [previous]

theorem extraction_extractBindMarker (listener : CqlListener) (offset : Nat)
    (marker : BindMarkerContext) :
    Extraction listener (extractBindMarker listener marker).2 offset marker.tokens
      [(extractBindMarker listener marker).1] := by
  cases marker with
  | positionalBindMarker =>
    exact .of_no_calls rfl rfl rfl rfl rfl (by simp [extractBindMarker])
      (by simp [extractBindMarker, BindMarkerContext.tokens])
  | namedBindMarker name => exact .of_no_calls rfl rfl rfl rfl rfl le_rfl (Nat.le_add_right _ _)

/-- A function call is one term spanning all its tokens; only a `now()` call is recorded as
one to replace. -/
theorem extraction_functionCall (listener : CqlListener) (offset : Nat)
    (functionName : QualifiedIdentifierContext) (args : List FunctionArgContext) :
    Extraction listener (extractTerm listener offset (.functionCall functionName args)).2 offset
      (TermContext.functionCall functionName args).tokens
      [(extractTerm listener offset (.functionCall functionName args)).1] := by
  have nonempty : 0 < (TermContext.functionCall functionName args).tokens.length := by
    simp [TermContext.tokens]
  by_cases isNow : (extractFunctionCall functionName args offset
      (offset + (TermContext.functionCall functionName args).tokens.length - 1)).isNow
  · have spanned : (extractTerm listener offset (.functionCall functionName args)).1.nowSpan =
        some (offset, offset + (TermContext.functionCall functionName args).tokens.length) := by
      simp only [extractTerm, Term.nowSpan, newFunctionCallTerm, isNow, if_true,
        Option.some.injEq, Prod.mk.injEq]
      simp only [extractFunctionCall, true_and]
      omega
    have recorded := @Extraction.nowCall listener _ _ _ spanned nonempty rfl
    simpa [extractTerm, isNow] using recorded
  · refine .of_no_calls ?_ ?_ ?_ ?_ ?_ ?_ ?_ <;>
      simp [extractTerm, isNow, nowSpans, Term.nowSpan, newFunctionCallTerm]

theorem extraction_extractTerm (listener : CqlListener) (offset : Nat) :
    ∀ term : TermContext, Extraction listener (extractTerm listener offset term).2 offset
      term.tokens [(extractTerm listener offset term).1]
  | .typeCast type operand => by
    -- the walk goes past `(`, the type and `)` to the operand
    have inner := extraction_extractTerm listener (offset + type.tokens.length + 2) operand
    have whole := (Extraction.unchanged listener offset
      (.word "(" :: type.tokens ++ [.word ")"])).append inner (by simp; omega)
    rw [extractTerm_typeCast]
    simpa [TermContext.tokens] using whole
  | .bindMarker marker => extraction_extractBindMarker listener offset marker
  | .functionCall functionName args => extraction_functionCall listener offset functionName args
  | .primitiveLiteral _ _ | .listLiteral _ | .setLiteral _ | .mapLiteral _ | .tupleLiteral _
  | .udtLiteral _ => .of_no_calls rfl rfl rfl rfl rfl le_rfl (Nat.le_add_right _ _)

theorem extraction_extractAllTerms (listener : CqlListener) (offset : Nat)
    (values : List TermContext) :
    Extraction listener (extractAllTerms listener offset values).2 offset
      (TermContext.listTokens values) (extractAllTerms listener offset values).1 := by
  induction values generalizing listener offset with
  | nil => exact .unchanged listener offset []
  | cons value rest ih =>
    have first := extraction_extractTerm listener offset value
    have others := ih (extractTerm listener offset value).2 (offset + value.tokens.length + 1)
    rw [extractAllTerms_cons]
    cases rest with
    | nil => simpa [TermContext.listTokens] using first
    | cons next more => exact first.separated (.word ",") others rfl

theorem extraction_extractAllBindMarkers (listener : CqlListener) (offset : Nat)
    (markers : List BindMarkerContext) :
    Extraction listener (extractAllBindMarkers listener markers).2 offset
      (bindMarkersTokens markers) (extractAllBindMarkers listener markers).1 := by
  induction markers generalizing listener offset with
  | nil => exact .unchanged listener offset []
  | cons marker rest ih =>
    have first := extraction_extractBindMarker listener offset marker
    have others := ih (extractBindMarker listener marker).2 (offset + marker.tokens.length + 1)
    rw [extractAllBindMarkers_cons]
    cases rest with
    | nil => simpa [bindMarkersTokens] using first
    | cons next more => exact first.separated (.word ",") others rfl

theorem extraction_extractTupleLiterals (listener : CqlListener) (offset : Nat)
    (tuples : List (List TermContext)) :
    Extraction listener (extractTupleLiterals listener offset tuples).2 offset
      (tupleLiteralsTokens tuples) (extractTupleLiterals listener offset tuples).1 := by
  induction tuples generalizing listener offset with
  | nil => exact .unchanged listener offset []
  | cons items rest ih =>
    have first := (extraction_extractAllTerms listener (offset + 1) items).enclosed
      (.word "(") (.word ")")
    have others := ih (extractAllTerms listener (offset + 1) items).2
      (offset + (TermContext.listTokens items).length + 3)
    rw [extractTupleLiterals_cons]
    cases rest with
    | nil => simpa [tupleLiteralsTokens] using first
    | cons next more =>
      have whole := first.separated (.word ",") others (by simp; omega)
      simpa [tupleLiteralsTokens] using whole

theorem extraction_extractChild (listener : CqlListener) (offset : Nat) (child : ChildContext) :
    Extraction listener (extractChild listener offset child).2 offset child.tokens
      (extractChild listener offset child).1 := by
  cases child with
  | plain tokens => exact .unchanged listener offset tokens
  | term value => exact extraction_extractTerm listener offset value
  | terms values => exact extraction_extractAllTerms listener offset values
  | bindMarker marker => exact extraction_extractBindMarker listener offset marker
  | bindMarkers markers => exact extraction_extractAllBindMarkers listener offset markers
  | tupleLiteral items =>
    exact (extraction_extractAllTerms listener (offset + 1) items).enclosed (.word "(") (.word ")")
  | tupleLiterals tuples => exact extraction_extractTupleLiterals listener offset tuples

theorem extraction_extractChildren (listener : CqlListener) (offset : Nat)
    (children : List ChildContext) :
    Extraction listener (extractChildren listener offset children).2 offset
      (childrenTokens children) (extractChildren listener offset children).1 := by
  induction children generalizing listener offset with
  | nil => exact .unchanged listener offset []
  | cons child rest ih =>
    have first := extraction_extractChild listener offset child
    have others := ih (extractChild listener offset child).2 (offset + child.tokens.length)
    rw [childrenTokens_cons, extractChildren_cons]
    exact first.append others rfl

theorem extraction_extractRelationTerms (listener : CqlListener) (offset : Nat)
    (relation : RelationContext) :
    Extraction listener (extractRelationTerms listener offset relation).2 offset relation.tokens
      (extractRelationTerms listener offset relation).1 := by
  induction relation generalizing offset with
  | parenthesized inner ih => exact (ih (offset + 1)).enclosed (.word "(") (.word ")")
  | _ => exact extraction_extractChildren listener offset _

theorem extraction_extractJoinedRelations (listener : CqlListener) (offset : Nat)
    (relations : List (LogicalOperator × RelationContext)) :
    Extraction listener (extractJoinedRelations listener offset relations).2 offset
      (relations.flatMap fun joined => joined.1.token :: joined.2.tokens)
      (extractJoinedRelations listener offset relations).1 := by
  induction relations generalizing listener offset with
  | nil => exact .unchanged listener offset []
  | cons joined rest ih =>
    have first := (Extraction.unchanged listener offset [joined.1.token]).append
      (extraction_extractRelationTerms listener (offset + 1) joined.2) rfl
    have others := ih (extractRelationTerms listener (offset + 1) joined.2).2
      (offset + 1 + joined.2.tokens.length)
    have whole := first.append others (by simp; omega)
    rw [extractJoinedRelations_cons]
    simpa using whole

theorem extraction_extractWhereClauseTerms (listener : CqlListener) (offset : Nat)
    (clause : WhereClauseContext) :
    Extraction listener (extractWhereClauseTerms listener offset clause).2 offset clause.tokens
      (extractWhereClauseTerms listener offset clause).1 := by
  have first := (Extraction.unchanged listener offset [.word "where"]).append
    (extraction_extractRelationTerms listener (offset + 1) clause.first) rfl
  have others := extraction_extractJoinedRelations
    (extractRelationTerms listener (offset + 1) clause.first).2
    (offset + 1 + clause.first.tokens.length) clause.rest
  have whole := first.append others (by simp; omega)
  rw [extractWhereClauseTerms_eq]
  simpa [WhereClauseContext.tokens] using whole

theorem extraction_extractConditionsTerms (listener : CqlListener) (offset : Nat)
    (conditions : List ConditionContext) :
    Extraction listener (extractConditionsTerms listener offset conditions).2 offset
      (conditionsTokens conditions) (extractConditionsTerms listener offset conditions).1 := by
  induction conditions generalizing listener offset with
  | nil => exact .unchanged listener offset []
  | cons condition rest ih =>
    have first := extraction_extractChildren listener offset condition.children
    have others := ih (extractChildren listener offset condition.children).2
      (offset + (childrenTokens condition.children).length + 1)
    rw [extractConditionsTerms_cons]
    cases rest with
    | nil => simpa [conditionsTokens] using first
    | cons next more => exact first.separated (.word "and") others rfl

theorem extraction_extractUpdateOperations (listener : CqlListener) (offset : Nat)
    (operations : List UpdateOperationContext) :
    Extraction listener (extractUpdateOperations listener offset operations).2 offset
      (updateOperationsTokens operations) (extractUpdateOperations listener offset operations).1 := by
  induction operations generalizing listener offset with
  | nil => exact .unchanged listener offset []
  | cons operation rest ih =>
    have first := extraction_extractChildren listener offset operation.children
    have others := ih (extractChildren listener offset operation.children).2
      (offset + (childrenTokens operation.children).length + 1)
    rw [extractUpdateOperations_cons]
    cases rest with
    | nil => simpa [updateOperationsTokens] using first
    | cons next more => exact first.separated (.word ",") others rfl

theorem extraction_extractDeleteOperations (listener : CqlListener) (offset : Nat)
    (operations : List DeleteOperationContext) :
    Extraction listener (extractDeleteOperations listener offset operations).2 offset
      (deleteOperationsTokens operations) (extractDeleteOperations listener offset operations).1 := by
  induction operations generalizing listener offset with
  | nil => exact .unchanged listener offset []
  | cons operation rest ih =>
    have first := extraction_extractChildren listener offset operation.children
    have others := ih (extractChildren listener offset operation.children).2
      (offset + (childrenTokens operation.children).length + 1)
    rw [extractDeleteOperations_cons]
    cases rest with
    | nil => simpa [deleteOperationsTokens] using first
    | cons next more => exact first.separated (.word ",") others rfl

theorem extraction_extractNillableBindMarker (listener : CqlListener) (offset : Nat)
    (value : UsingValue) :
    Extraction listener (extractNillableBindMarker listener value).2 offset value.tokens
      (extractNillableBindMarker listener value).1.toList := by
  cases value with
  | integer text => exact .unchanged listener offset [.word text]
  | bindMarker marker => exact extraction_extractBindMarker listener offset marker

theorem extraction_extractUsingItems (listener : CqlListener) (offset : Nat)
    (items : List (String × UsingValue)) :
    Extraction listener (extractUsingItems listener items).2 offset
      (UsingClauseContext.itemsTokens items) (extractUsingItems listener items).1 := by
  induction items generalizing listener offset with
  | nil => exact .unchanged listener offset []
  | cons item rest ih =>
    have first := (Extraction.unchanged listener offset [.word item.1]).append
      (extraction_extractNillableBindMarker listener (offset + 1) item.2) rfl
    have others := ih (extractNillableBindMarker listener item.2).2
      (offset + 1 + item.2.tokens.length + 1)
    rw [extractUsingItems_cons]
    cases rest with
    | nil => simpa [UsingClauseContext.itemsTokens] using first
    | cons next more =>
      have whole := first.separated (.word "and") others (by simp; omega)
      simpa [UsingClauseContext.itemsTokens] using whole

theorem extraction_extractUsingClauseBindMarkers (listener : CqlListener) (offset : Nat)
    (clause : UsingClauseContext) :
    Extraction listener (extractUsingClauseBindMarkers listener clause).2 offset clause.tokens
      (extractUsingClauseBindMarkers listener clause).1 := by
  have whole := (Extraction.unchanged listener offset [.word "using"]).append
    (extraction_extractUsingItems listener (offset + 1) clause.items) rfl
  simpa [UsingClauseContext.tokens, extractUsingClauseBindMarkers] using whole

theorem extraction_extractStatementChild (listener : CqlListener) (offset : Nat)
    (child : StatementChild) :
    Extraction listener (extractStatementChild listener offset child).2 offset child.tokens
      (extractStatementChild listener offset child).1 := by
  cases child with
  | plain tokens => exact .unchanged listener offset tokens
  | tableName name => exact .unchanged listener offset name.tokens
  | terms values => exact extraction_extractAllTerms listener offset values
  | usingClause clause => exact extraction_extractUsingClauseBindMarkers listener offset clause
  | updateOperations operations =>
    exact extraction_extractUpdateOperations listener offset operations
  | deleteOperations operations =>
    exact extraction_extractDeleteOperations listener offset operations
  | timestamp value =>
    have whole := (Extraction.unchanged listener offset [.word "timestamp"]).append
      (extraction_extractNillableBindMarker listener (offset + 1) value) rfl
    rw [extractStatementChild_timestamp]
    simpa [StatementChild.tokens] using whole
  | whereClause clause => exact extraction_extractWhereClauseTerms listener offset clause
  | conditions conditionList =>
    exact extraction_extractConditionsTerms listener offset conditionList

theorem extraction_extractStatementChildren (listener : CqlListener) (offset : Nat)
    (children : List StatementChild) :
    Extraction listener (extractStatementChildren listener offset children).2 offset
      (statementTokens children) (extractStatementChildren listener offset children).1 := by
  induction children generalizing listener offset with
  | nil => exact .unchanged listener offset []
  | cons child rest ih =>
    have first := extraction_extractStatementChild listener offset child
    have others := ih (extractStatementChild listener offset child).2
      (offset + child.tokens.length)
    rw [extractStatementChildren_cons]
    exact first.append others rfl

/-- `EnterTableName` changes only the keyspace and the table name. -/
theorem enterTableName_eq (listener : CqlListener) (name : QualifiedIdentifierContext) :
    ∃ keyspaceName tableName, enterTableName listener name =
      { listener with keyspaceName := keyspaceName, tableName := tableName } := by
  unfold enterTableName
  split <;> exact ⟨_, _, rfl⟩

/-- The statement type and the children of an INSERT, UPDATE or DELETE statement. -/
def CqlStatementContext.modification :
    CqlStatementContext → Option (StatementType × List StatementChild)
  | .insertStatement statement => some (.insert, statement.children)
  | .updateStatement statement => some (.update, statement.children)
  | .deleteStatement statement => some (.delete, statement.children)
  | _ => none

/-- Entering a statement, and then its table name, on a listener that has recorded nothing
yet leaves one parsed statement, whose terms the extraction from index 0 guarantees. -/
theorem enterStatement_first {listener : CqlListener}
    (noStatements : listener.parsedStatements = []) (firstChild : listener.currentBatchChildIndex = 0)
    (noCalls : listener.nowFunctionCalls = false) (fresh : listener.currentPositionalIndex = 0)
    (statementType : StatementType) (children : List StatementChild)
    (name : QualifiedIdentifierContext) :
    ∃ terms,
      (enterTableName (enterStatement listener statementType 0 children) name).parsedStatements =
        [⟨0, statementType, terms⟩] ∧
      (enterTableName (enterStatement listener statementType 0 children) name).query =
        listener.query ∧
      (enterTableName (enterStatement listener statementType 0 children) name).lexed =
        listener.lexed ∧
      (enterTableName (enterStatement listener statementType 0 children) name).nowFunctionCalls =
        !(nowSpans terms).isEmpty ∧
      (enterTableName (enterStatement listener statementType 0 children)
        name).currentPositionalIndex ≤ qmarkCount (statementTokens children) ∧
      ((enterTableName (enterStatement listener statementType 0 children)
          name).currentPositionalIndex = qmarkCount (statementTokens children) →
        CallsPlaced 0 0 (statementTokens children) terms) := by
  have extracted := extraction_extractStatementChildren listener 0 children
  obtain ⟨keyspaceName, tableName, named⟩ :=
    enterTableName_eq (enterStatement listener statementType 0 children) name
  have placed := extracted.placed
  rw [fresh, Nat.zero_add] at placed
  rw [named]
  refine ⟨(extractStatementChildren listener 0 children).1, ?_, ?_, ?_, ?_, ?_, ?_⟩ <;>
    simp only [enterStatement]
  · simp [extracted.parsedStatements, noStatements, firstChild]
  · exact extracted.query
  · exact extracted.lexed
  · simp [extracted.nowFunctionCalls, noCalls]
  · simpa [fresh] using extracted.bounded
  · exact placed

/-- Inspecting an INSERT, UPDATE or DELETE statement records one parsed statement. The
counter ends at most at the number of `?` tokens of the statement, and when it ends exactly
there, which is when the listener visited every marker, the `now()` calls among the terms
are placed in the statement's tokens. -/
theorem inspectCqlQuery_modification {tree : CqlStatementContext} {statementType : StatementType}
    {children : List StatementChild} (modification : tree.modification = some (statementType, children))
    (query : QueryText) (keyspace : String) :
    ∃ terms, (inspectCqlQuery query tree keyspace).parsedStatements = [⟨0, statementType, terms⟩] ∧
      (inspectCqlQuery query tree keyspace).query = query.bytes ∧
      (inspectCqlQuery query tree keyspace).lexed = query ∧
      (inspectCqlQuery query tree keyspace).nowFunctionCalls = !(nowSpans terms).isEmpty ∧
      (inspectCqlQuery query tree keyspace).currentPositionalIndex ≤ qmarkCount tree.tokens ∧
      ((inspectCqlQuery query tree keyspace).currentPositionalIndex = qmarkCount tree.tokens →
        CallsPlaced 0 0 tree.tokens terms) := by
  cases tree with
  | insertStatement statement =>
    simp only [CqlStatementContext.modification, Option.some.injEq, Prod.mk.injEq] at modification
    obtain ⟨rfl, rfl⟩ := modification
    exact enterStatement_first rfl rfl rfl rfl .insert statement.children statement.tableName
  | updateStatement statement =>
    simp only [CqlStatementContext.modification, Option.some.injEq, Prod.mk.injEq] at modification
    obtain ⟨rfl, rfl⟩ := modification
    exact enterStatement_first rfl rfl rfl rfl .update statement.children statement.tableName
  | deleteStatement statement =>
    simp only [CqlStatementContext.modification, Option.some.injEq, Prod.mk.injEq] at modification
    obtain ⟨rfl, rfl⟩ := modification
    exact enterStatement_first rfl rfl rfl rfl .delete statement.children statement.tableName
  | batchStatement _ | selectStatement _ | useStatement _ | unrecognizedStatement _ =>
    simp [CqlStatementContext.modification] at modification

end ZdmProxy.Cql
