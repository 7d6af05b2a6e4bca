import ZdmProxy.Cql.Positions

/-!
# Replacing `now()` calls in a query

When `ReplaceCqlFunctions` is on, the proxy rewrites a PREPARE whose query calls `now()` so
that both clusters see the same timestamp: `replaceFunctionCalls` walks the terms the listener
recorded, statement by statement, and splices the query at each `now()` call, copying the text
between calls. A PREPARE with named markers gets the named marker `:zdm__now` in place of each
call, any other PREPARE a positional `?`. The replaced terms go into the PREPARE's request
info; at EXECUTE time they tell the parameter modifier where to insert generated values.

The loop is modelled as the source writes it, with its accumulator (`ReplaceState`) and Go's
slice expression, which panics when the recorded spans are out of order. Go slices the bytes of
the query string at the character indices ANTLR gives the call's first and last token. When
those character spans are sorted, the loop succeeds, the query is the splice of the original
bytes at them, and the replaced terms are the `now()` calls in order
(`replaceFunctionCalls_eq`). For a query whose markers the listener visited the token spans are
sorted (`Positions`), so the character spans are too and the loop never panics; for ASCII text
the new query is then the query with each call's tokens replaced by the marker
(`replaceQueryInPrepareMessage_spliceTokens`). A character of two or more bytes before a call
shifts the cuts, and the new query is cut in the wrong places
(`replaceFunctionCalls_cuts_bytes_at_character_indices`).

The query information it returns is not what inspecting the new query gives, and the new query
may still call `now()`: the positional replacement numbers its markers from one, where the
listener numbers the first `?` zero, and a `now()` call inside a function argument or a literal
is not a term, so it is never replaced
(`replaceFunctionCalls_renumbers_markers_and_skips_nested_now`).
-/

namespace ZdmProxy.Cql

open Splice

/-- `replacementType`. -/
inductive ReplacementType where
  | noReplacement
  | literalReplacement
  | namedMarkerReplacement
  | positionalMarkerReplacement
  deriving DecidableEq, Repr

/-- The variables of `replaceFunctionCalls`' loop: the bytes of the query built so far, the
index of the first byte not yet copied, the replaced terms, the counter of generated positional
markers and the two marker flags of the new query. -/
structure ReplaceState where
  result : List UInt8
  i : Nat
  replacedTerms : List Term
  previousPositionalIndex : Int
  namedMarkers : Bool
  positionalMarkers : Bool
  deriving DecidableEq, Repr

/-- The loop variables before the first statement. -/
def ReplaceState.initial : ReplaceState := ⟨[], 0, [], 0, false, false⟩

/-- The `if t.isFunctionCall()` block of the loop for one term: a call with a replacement is
spliced and recorded, and yields the term its replacement stands for. Go slices the bytes of
`query` at the character indices of the call's first and last token, which `lexed` gives. -/
def replaceCall (query : List UInt8) (lexed : QueryText)
    (replacementFunc : FunctionCall → String × ReplacementType) (state : ReplaceState)
    (t : Term) : Except String (Option Term × ReplaceState) :=
  match t.functionCall with
  | none => pure (none, state)
  | some call =>
      let (replacement, rType) := replacementFunc call
      if rType = .noReplacement then pure (none, state)
      else do
        let before ← slice query state.i (lexed.tokenStart call.startIndex)
        let spliced := { state with
          replacedTerms := state.replacedTerms ++ [t]
          result := state.result ++ before ++ Utf8.encode replacement.toList
          i := lexed.tokenStop call.stopIndex + 1 }
        match rType with
        | .literalReplacement =>
            pure (some (newLiteralTerm replacement t.previousPositionalIndex), spliced)
        | .namedMarkerReplacement =>
            -- `replacement[1:]` drops the colon of the named marker, one byte long
            pure (some (newNamedBindMarkerTerm (String.ofList (replacement.toList.drop 1))
              t.previousPositionalIndex), spliced)
        | .positionalMarkerReplacement =>
            pure (some (newPositionalBindMarkerTerm (spliced.previousPositionalIndex + 1)),
              { spliced with previousPositionalIndex := spliced.previousPositionalIndex + 1 })
        | .noReplacement => pure (none, spliced)

/-- One iteration of the inner loop: the new term is the replacement's term or the term itself,
and it sets the positional flag, or else the named flag. -/
def replaceTerm (query : List UInt8) (lexed : QueryText)
    (replacementFunc : FunctionCall → String × ReplacementType) (state : ReplaceState)
    (t : Term) : Except String (Term × ReplaceState) := do
  let (replaced, next) ← replaceCall query lexed replacementFunc state t
  let newTerm := replaced.getD t
  pure (newTerm, { next with
    positionalMarkers := next.positionalMarkers || newTerm.isPositionalBindMarker
    namedMarkers :=
      next.namedMarkers || (!newTerm.isPositionalBindMarker && newTerm.isNamedBindMarker) })

/-- The inner loop, over the terms of one statement. -/
def replaceStatementTerms (query : List UInt8) (lexed : QueryText)
    (replacementFunc : FunctionCall → String × ReplacementType) (state : ReplaceState) :
    List Term → Except String (List Term × ReplaceState)
  | [] => pure ([], state)
  | t :: rest => do
      let (newTerm, next) ← replaceTerm query lexed replacementFunc state t
      let (newTerms, last) ← replaceStatementTerms query lexed replacementFunc next rest
      pure (newTerm :: newTerms, last)

/-- The outer loop, over the parsed statements. -/
def replaceStatements (query : List UInt8) (lexed : QueryText)
    (replacementFunc : FunctionCall → String × ReplacementType) (state : ReplaceState) :
    List ParsedStatement → Except String (List ParsedStatement × ReplaceState)
  | [] => pure ([], state)
  | parsedStmt :: rest => do
      let (newTerms, next) ←
        replaceStatementTerms query lexed replacementFunc state parsedStmt.terms
      let (newParsedStatements, last) ← replaceStatements query lexed replacementFunc next rest
      pure ({ parsedStmt with terms := newTerms } :: newParsedStatements, last)

/-- `replaceFunctionCalls`: the new query information and the replaced terms. A query without
`now()` calls is returned as it is. -/
def CqlListener.replaceFunctionCalls (l : CqlListener)
    (replacementFunc : FunctionCall → String × ReplacementType) :
    Except String (CqlListener × List Term) :=
  if !l.nowFunctionCalls then pure (l, [])
  else do
    let (newParsedStatements, state) ←
      replaceStatements l.query l.lexed replacementFunc .initial l.parsedStatements
    let after ← slice l.query state.i l.query.length
    pure ({ l with
      query := state.result ++ after
      nowFunctionCalls := false
      parsedStatements := newParsedStatements
      namedBindMarkers := state.namedMarkers
      positionalBindMarkers := state.positionalMarkers }, state.replacedTerms)

/-- The replacement functions of the `now()` replacements: a `now()` call is replaced by
`replacement`, any other call is kept. -/
def nowReplacement (replacement : String) (rType : ReplacementType) (call : FunctionCall) :
    String × ReplacementType :=
  if call.isNow then (replacement, rType) else ("", .noReplacement)

/-- `replaceNowFunctionCallsWithPositionalBindMarkers`. -/
def CqlListener.replaceNowFunctionCallsWithPositionalBindMarkers (l : CqlListener) :
    Except String (CqlListener × List Term) :=
  l.replaceFunctionCalls (nowReplacement "?" .positionalMarkerReplacement)

/-- `replaceNowFunctionCallsWithNamedBindMarkers`: the marker `:zdm__now`. -/
def CqlListener.replaceNowFunctionCallsWithNamedBindMarkers (l : CqlListener) :
    Except String (CqlListener × List Term) :=
  l.replaceFunctionCalls (nowReplacement (":" ++ zdmNowNamedMarker) .namedMarkerReplacement)

/-- `replaceQueryInPrepareMessage` on the inspected statement of a PREPARE: a query without
`now()` calls is kept, a query with named markers gets named markers, any other query
positional ones. -/
def replaceQueryInPrepareMessage (queryData : CqlListener) : Except String (CqlListener × List Term) :=
  if !queryData.nowFunctionCalls then pure (queryData, [])
  else if queryData.namedBindMarkers then queryData.replaceNowFunctionCallsWithNamedBindMarkers
  else queryData.replaceNowFunctionCallsWithPositionalBindMarkers

/-- The terms of all parsed statements, in order. -/
def CqlListener.allTerms (l : CqlListener) : List Term :=
  l.parsedStatements.flatMap ParsedStatement.terms

/-- The `now()` calls among some terms: those with a span. -/
def nowCalls (terms : List Term) : List Term := terms.filter fun t => t.nowSpan.isSome

@[simp] theorem nowCalls_append (first second : List Term) :
    nowCalls (first ++ second) = nowCalls first ++ nowCalls second := by
  simp [nowCalls]

theorem nowCalls_eq_nil {terms : List Term} (noCalls : nowSpans terms = []) :
    nowCalls terms = [] := by
  simp only [nowSpans, List.filterMap_eq_nil_iff] at noCalls
  simpa [nowCalls] using noCalls

/-- The character spans of the `now()` calls among some terms, in `lexed`. -/
def charSpans (lexed : QueryText) (terms : List Term) : List (Nat × Nat) :=
  (nowSpans terms).map lexed.charSpan

@[simp] theorem charSpans_append (lexed : QueryText) (first second : List Term) :
    charSpans lexed (first ++ second) = charSpans lexed first ++ charSpans lexed second := by
  simp [charSpans]

section

variable (query : List UInt8) (lexed : QueryText) (replacement : String) (rType : ReplacementType)

/-- What the loop guarantees between two states, having read `terms`, with the character spans
`rest` of later statements still ahead: the spans ahead stay sorted from the copy index, the
bytes built so far followed by the splice of the rest of the query are unchanged, the replaced
terms grow by the `now()` calls read, and a positional replacement sets the positional flag. -/
structure Replaced (state next : ReplaceState) (terms : List Term) (rest : List (Nat × Nat)) :
    Prop where
  sorted : SpansSorted next.i query.length rest
  result : next.result ++
      spliced query next.i (rest.map (nowEdit (Utf8.encode replacement.toList))) =
    state.result ++ spliced query state.i
      ((charSpans lexed terms ++ rest).map (nowEdit (Utf8.encode replacement.toList)))
  replacedTerms : next.replacedTerms = state.replacedTerms ++ nowCalls terms
  counter : 0 ≤ state.previousPositionalIndex → 0 ≤ next.previousPositionalIndex
  positionalMarkers : state.positionalMarkers = true → next.positionalMarkers = true
  positionalReplaced : rType = .positionalMarkerReplacement → 0 ≤ state.previousPositionalIndex →
    nowSpans terms ≠ [] → next.positionalMarkers = true

variable {query lexed replacement rType}

theorem Replaced.nil {state : ReplaceState} {rest : List (Nat × Nat)}
    (sorted : SpansSorted state.i query.length rest) :
    Replaced query lexed replacement rType state state [] rest where
  sorted := sorted
  result := rfl
  replacedTerms := by simp [nowCalls]
  counter := id
  positionalMarkers := id
  positionalReplaced _ _ noCalls := absurd rfl noCalls

theorem Replaced.append {state middle next : ReplaceState} {first second : List Term}
    {rest : List (Nat × Nat)}
    (firstReplaced : Replaced query lexed replacement rType state middle first
      (charSpans lexed second ++ rest))
    (secondReplaced : Replaced query lexed replacement rType middle next second rest) :
    Replaced query lexed replacement rType state next (first ++ second) rest where
  sorted := secondReplaced.sorted
  result := by
    rw [secondReplaced.result, firstReplaced.result, charSpans_append, List.append_assoc]
  replacedTerms := by
    rw [secondReplaced.replacedTerms, firstReplaced.replacedTerms, nowCalls_append,
      List.append_assoc]
  counter := secondReplaced.counter ∘ firstReplaced.counter
  positionalMarkers := secondReplaced.positionalMarkers ∘ firstReplaced.positionalMarkers
  positionalReplaced positional nonnegative calls := by
    by_cases firstCalls : nowSpans first = []
    · rw [nowSpans_append, firstCalls, List.nil_append] at calls
      exact secondReplaced.positionalReplaced positional (firstReplaced.counter nonnegative) calls
    · exact secondReplaced.positionalMarkers
        (firstReplaced.positionalReplaced positional nonnegative firstCalls)

end

/-- A term that is not a `now()` call is kept and changes only the marker flags. -/
theorem replaceTerm_of_nowSpan_none {query : List UInt8} {lexed : QueryText} {replacement : String}
    {rType : ReplacementType} {state : ReplaceState} {t : Term} (notNow : t.nowSpan = none) :
    ∃ next, replaceTerm query lexed (nowReplacement replacement rType) state t = .ok (t, next) ∧
      next.result = state.result ∧ next.i = state.i ∧ next.replacedTerms = state.replacedTerms ∧
      next.previousPositionalIndex = state.previousPositionalIndex ∧
      (state.positionalMarkers = true → next.positionalMarkers = true) := by
  have kept : replaceCall query lexed (nowReplacement replacement rType) state t =
      .ok (none, state) := by
    unfold replaceCall
    cases called : t.functionCall with
    | none => rfl
    | some call =>
      have : call.isNow = false := by
        simpa [Term.nowSpan, called] using notNow
      simp [nowReplacement, this, pure, Except.pure]
  simp only [replaceTerm, kept, bind, Except.bind, pure, Except.pure, Option.getD_none,
    Except.ok.injEq, Prod.mk.injEq, true_and, exists_eq_left', Bool.or_eq_true]
  exact Or.inl

/-- A `now()` call is spliced: the bytes up to the call's first character are copied, the
replacement's bytes appended, and copying continues after the call's last character. -/
theorem replaceTerm_of_nowSpan_some {query : List UInt8} {lexed : QueryText} {replacement : String}
    {rType : ReplacementType} (replaces : rType ≠ .noReplacement) {state : ReplaceState} {t : Term}
    {span : Nat × Nat} (spanned : t.nowSpan = some span) (after : state.i ≤ (lexed.charSpan span).1)
    (inBounds : (lexed.charSpan span).1 ≤ query.length) :
    ∃ newTerm next, replaceTerm query lexed (nowReplacement replacement rType) state t =
        .ok (newTerm, next) ∧
      next.result = state.result ++ segment query state.i (lexed.charSpan span).1 ++
        Utf8.encode replacement.toList ∧
      next.i = (lexed.charSpan span).2 ∧ next.replacedTerms = state.replacedTerms ++ [t] ∧
      (0 ≤ state.previousPositionalIndex → 0 ≤ next.previousPositionalIndex) ∧
      (state.positionalMarkers = true → next.positionalMarkers = true) ∧
      (rType = .positionalMarkerReplacement → 0 ≤ state.previousPositionalIndex →
        next.positionalMarkers = true) := by
  obtain ⟨call, called, isNow, rfl⟩ : ∃ call, t.functionCall = some call ∧ call.isNow = true ∧
      span = (call.startIndex, call.stopIndex + 1) := by
    unfold Term.nowSpan at spanned
    split at spanned
    · rename_i call called
      split at spanned
      · cases spanned
        exact ⟨call, called, by assumption, rfl⟩
      · cases spanned
    · cases spanned
  -- Go's indices: the first character of the first token, one past the last of the last
  have stop : (lexed.charSpan (call.startIndex, call.stopIndex + 1)).2 =
      lexed.tokenStop call.stopIndex + 1 := by
    simp [QueryText.charSpan]
  have sliced : slice query state.i (lexed.tokenStart call.startIndex) =
      .ok (segment query state.i (lexed.tokenStart call.startIndex)) :=
    slice_of_le after inBounds
  rw [stop]
  cases rType with
  | noReplacement => exact absurd rfl replaces
  | literalReplacement =>
    simp [replaceTerm, replaceCall, called, nowReplacement, isNow, sliced, bind, Except.bind,
      pure, Except.pure, QueryText.charSpan]
    exact Or.inl
  | namedMarkerReplacement =>
    simp [replaceTerm, replaceCall, called, nowReplacement, isNow, sliced, bind, Except.bind,
      pure, Except.pure, QueryText.charSpan]
    exact Or.inl
  | positionalMarkerReplacement =>
    simp [replaceTerm, replaceCall, called, nowReplacement, isNow, sliced, bind, Except.bind,
      pure, Except.pure, QueryText.charSpan]
    refine ⟨by omega, Or.inl, fun nonnegative => Or.inr ?_⟩
    simp only [newPositionalBindMarkerTerm, Term.isPositionalBindMarker, bne_iff_ne, ne_eq]
    omega

section

variable {query : List UInt8} {lexed : QueryText} {replacement : String} {rType : ReplacementType}

/-- One iteration keeps the loop's guarantee. -/
theorem replaced_replaceTerm (replaces : rType ≠ .noReplacement) {state : ReplaceState} {t : Term}
    {rest : List (Nat × Nat)}
    (sorted : SpansSorted state.i query.length (charSpans lexed [t] ++ rest)) :
    ∃ newTerm next,
      replaceTerm query lexed (nowReplacement replacement rType) state t = .ok (newTerm, next) ∧
      Replaced query lexed replacement rType state next [t] rest := by
  cases spanned : t.nowSpan with
  | none =>
    have noSpan : nowSpans [t] = [] := by simp [nowSpans, spanned]
    have noCharSpan : charSpans lexed [t] = [] := by simp [charSpans, noSpan]
    obtain ⟨next, step, result, index, replacedTerms, counter, marked⟩ :=
      @replaceTerm_of_nowSpan_none query lexed replacement rType state t spanned
    refine ⟨t, next, step, ?_⟩
    rw [noCharSpan, List.nil_append] at sorted
    exact { sorted := index ▸ sorted
            result := by rw [result, index, noCharSpan, List.nil_append]
            replacedTerms := by rw [replacedTerms, nowCalls_eq_nil noSpan, List.append_nil]
            counter := by rw [counter]; exact id
            positionalMarkers := marked
            positionalReplaced := fun _ _ calls => absurd noSpan calls }
  | some span =>
    have oneSpan : charSpans lexed [t] = [lexed.charSpan span] := by
      simp [charSpans, nowSpans, spanned]
    rw [oneSpan, List.singleton_append] at sorted
    cases sorted with
    | cons after ordered sortedRest =>
      obtain ⟨newTerm, next, step, result, index, replacedTerms, counter, marked, positional⟩ :=
        @replaceTerm_of_nowSpan_some query lexed replacement rType replaces state t _ spanned
          after (le_trans ordered sortedRest.le)
      refine ⟨newTerm, next, step, ?_⟩
      exact { sorted := index ▸ sortedRest
              result := by simp [result, index, oneSpan, nowEdit]
              replacedTerms := by simp [replacedTerms, nowCalls, spanned]
              counter := counter
              positionalMarkers := marked
              positionalReplaced := fun isPositional nonnegative _ => positional isPositional nonnegative }

/-- The inner loop keeps the loop's guarantee over the terms of a statement. -/
theorem replaced_replaceStatementTerms (replaces : rType ≠ .noReplacement) (terms : List Term) :
    ∀ {state : ReplaceState} {rest : List (Nat × Nat)},
      SpansSorted state.i query.length (charSpans lexed terms ++ rest) →
      ∃ newTerms next,
        replaceStatementTerms query lexed (nowReplacement replacement rType) state terms =
          .ok (newTerms, next) ∧
        Replaced query lexed replacement rType state next terms rest := by
  induction terms with
  | nil =>
    intro state rest sorted
    exact ⟨[], state, rfl, .nil (by simpa [charSpans] using sorted)⟩
  | cons t more ih =>
    intro state rest sorted
    have split : charSpans lexed (t :: more) ++ rest =
        charSpans lexed [t] ++ (charSpans lexed more ++ rest) := by
      rw [← List.append_assoc, ← charSpans_append, List.singleton_append]
    rw [split] at sorted
    obtain ⟨newTerm, next, step, first⟩ := replaced_replaceTerm replaces sorted
    obtain ⟨newTerms, last, steps, second⟩ := ih first.sorted
    refine ⟨newTerm :: newTerms, last, ?_, first.append second⟩
    simp [replaceStatementTerms, step, steps, bind, Except.bind, pure, Except.pure]

/-- The outer loop keeps the loop's guarantee over all parsed statements. -/
theorem replaced_replaceStatements (replaces : rType ≠ .noReplacement)
    (statements : List ParsedStatement) :
    ∀ {state : ReplaceState} {rest : List (Nat × Nat)},
      SpansSorted state.i query.length
        (charSpans lexed (statements.flatMap ParsedStatement.terms) ++ rest) →
      ∃ newStatements next,
        replaceStatements query lexed (nowReplacement replacement rType) state statements =
          .ok (newStatements, next) ∧
        Replaced query lexed replacement rType state next
          (statements.flatMap ParsedStatement.terms) rest := by
  induction statements with
  | nil =>
    intro state rest sorted
    exact ⟨[], state, rfl, .nil (by simpa [charSpans] using sorted)⟩
  | cons statement more ih =>
    intro state rest sorted
    rw [List.flatMap_cons, charSpans_append, List.append_assoc] at sorted
    obtain ⟨newTerms, next, step, first⟩ :=
      @replaced_replaceStatementTerms query lexed replacement rType replaces statement.terms _ _
        sorted
    obtain ⟨newStatements, last, steps, second⟩ := ih first.sorted
    refine ⟨{ statement with terms := newTerms } :: newStatements, last, ?_, ?_⟩
    · simp [replaceStatements, step, steps, bind, Except.bind, pure, Except.pure]
    · rw [List.flatMap_cons]
      exact first.append second

/-- When the character spans of the recorded `now()` calls are sorted in the query's bytes, the
replacement succeeds: the new query is the splice of the query's bytes at those spans, the
replaced terms are the `now()` calls in order, and a positional replacement marks the new query
as positional. -/
theorem replaceFunctionCalls_eq (replaces : rType ≠ .noReplacement) {l : CqlListener}
    (flagged : l.nowFunctionCalls = !(nowSpans l.allTerms).isEmpty)
    (sorted : SpansSorted 0 l.query.length (charSpans l.lexed l.allTerms)) :
    ∃ next, l.replaceFunctionCalls (nowReplacement replacement rType) =
        .ok (next, nowCalls l.allTerms) ∧
      next.query = spliced l.query 0
        ((charSpans l.lexed l.allTerms).map (nowEdit (Utf8.encode replacement.toList))) ∧
      (rType = .positionalMarkerReplacement → nowSpans l.allTerms ≠ [] →
        next.positionalBindMarkers = true) := by
  by_cases calls : nowSpans l.allTerms = []
  · have unflagged : l.nowFunctionCalls = false := by simp [flagged, calls]
    refine ⟨l, ?_, by simp [charSpans, calls], fun _ noCalls => absurd calls noCalls⟩
    simp [CqlListener.replaceFunctionCalls, unflagged, nowCalls_eq_nil calls, pure, Except.pure]
  · have isFlagged : l.nowFunctionCalls = true := by simpa [flagged] using calls
    obtain ⟨newStatements, last, loop, replaced⟩ :=
      @replaced_replaceStatements l.query l.lexed replacement rType replaces l.parsedStatements
        .initial [] (by simpa [CqlListener.allTerms, ReplaceState.initial] using sorted)
    have sliced : slice l.query last.i l.query.length = .ok (l.query.drop last.i) := by
      rw [slice_of_le replaced.sorted.le le_rfl, segment_length]
    have result := replaced.result
    have replacedTerms := replaced.replacedTerms
    simp only [spliced_nil, List.map_nil, List.append_nil] at result
    refine ⟨{ l with
        query := last.result ++ l.query.drop last.i
        nowFunctionCalls := false
        parsedStatements := newStatements
        namedBindMarkers := last.namedMarkers
        positionalBindMarkers := last.positionalMarkers }, ?_, ?_, fun isPositional _ =>
      replaced.positionalReplaced isPositional le_rfl (by simpa [CqlListener.allTerms] using calls)⟩
    · simp only [CqlListener.replaceFunctionCalls, isFlagged, Bool.not_true, Bool.false_eq_true,
        if_false, bind, Except.bind, loop, sliced, pure, Except.pure]
      simp [replacedTerms, ReplaceState.initial, CqlListener.allTerms]
    · simpa [ReplaceState.initial, CqlListener.allTerms] using result

end

/-! ## The PREPARE replacement -/

/-- Without named markers a PREPARE gets positional markers; with no `now()` call both return
the query data as it is. -/
theorem replaceQueryInPrepareMessage_of_unnamed {l : CqlListener}
    (unnamed : l.namedBindMarkers = false) :
    replaceQueryInPrepareMessage l = l.replaceNowFunctionCallsWithPositionalBindMarkers := by
  cases called : l.nowFunctionCalls
  · simp [replaceQueryInPrepareMessage, CqlListener.replaceNowFunctionCallsWithPositionalBindMarkers,
      CqlListener.replaceFunctionCalls, called]
  · simp [replaceQueryInPrepareMessage, called, unnamed]

/-- With named markers a PREPARE gets named markers; with no `now()` call both return the
query data as it is. -/
theorem replaceQueryInPrepareMessage_of_named {l : CqlListener} (named : l.namedBindMarkers = true) :
    replaceQueryInPrepareMessage l = l.replaceNowFunctionCallsWithNamedBindMarkers := by
  cases called : l.nowFunctionCalls
  · simp [replaceQueryInPrepareMessage, CqlListener.replaceNowFunctionCallsWithNamedBindMarkers,
      CqlListener.replaceFunctionCalls, called]
  · simp [replaceQueryInPrepareMessage, called, named]

/-- The marker the PREPARE replacement puts in place of a `now()` call, as tokens: `:zdm__now`
in a query with named markers, `?` in any other. -/
def nowMarker (named : Bool) : List Token :=
  if named then [.word ":", .word zdmNowNamedMarker] else [.qmark]

/-- The marker's text is the replacement string of the mode. -/
theorem textOf_nowMarker (named : Bool) :
    textOf (nowMarker named) = if named then ":" ++ zdmNowNamedMarker else "?" := by
  cases named <;> rfl

theorem nowMarker_visible (named : Bool) : ∀ token ∈ nowMarker named, token.text ≠ "" := by
  cases named <;> decide

theorem nowMarker_ne_nil (named : Bool) : nowMarker named ≠ [] := by
  cases named <;> decide

theorem nowMarker_isAscii (named : Bool) :
    (textOf (nowMarker named)).toList.all Char.isAscii = true := by
  cases named <;> decide

/-- When the character spans of the recorded `now()` calls are sorted, the PREPARE replacement
splices the bytes of the query's marker into each of them, returns the `now()` calls as the
replaced terms, and marks the new query positional when it replaced a call in a query without
named markers. -/
theorem replaceQueryInPrepareMessage_eq {l : CqlListener}
    (flagged : l.nowFunctionCalls = !(nowSpans l.allTerms).isEmpty)
    (sorted : SpansSorted 0 l.query.length (charSpans l.lexed l.allTerms)) :
    ∃ next, replaceQueryInPrepareMessage l = .ok (next, nowCalls l.allTerms) ∧
      next.query = spliced l.query 0 ((charSpans l.lexed l.allTerms).map
        (nowEdit (Utf8.encode (textOf (nowMarker l.namedBindMarkers)).toList))) ∧
      (l.namedBindMarkers = false → nowSpans l.allTerms ≠ [] →
        next.positionalBindMarkers = true) := by
  cases named : l.namedBindMarkers
  case false =>
    obtain ⟨next, replaced, query, positional⟩ :=
      @replaceFunctionCalls_eq "?" .positionalMarkerReplacement (by decide) l flagged sorted
    refine ⟨next, ?_, by rw [textOf_nowMarker]; exact query, fun _ => positional rfl⟩
    rw [replaceQueryInPrepareMessage_of_unnamed named,
      CqlListener.replaceNowFunctionCallsWithPositionalBindMarkers, replaced]
  case true =>
    obtain ⟨next, replaced, query, _⟩ :=
      @replaceFunctionCalls_eq (":" ++ zdmNowNamedMarker) .namedMarkerReplacement (by decide) l
        flagged sorted
    refine ⟨next, ?_, by rw [textOf_nowMarker]; exact query, nofun⟩
    rw [replaceQueryInPrepareMessage_of_named named,
      CqlListener.replaceNowFunctionCallsWithNamedBindMarkers, replaced]

/-- For a listener that inspected its query, when the token spans of the recorded `now()` calls
are sorted and each covers a token, the PREPARE replacement never panics: it splices the
marker's bytes at the calls' character indices. When the query is ASCII, the new query is the
query with each call's tokens replaced by the marker, the hidden text before a call kept. -/
theorem replaceQueryInPrepareMessage_spliceTokens {l : CqlListener}
    (inspected : l.query = l.lexed.bytes)
    (flagged : l.nowFunctionCalls = !(nowSpans l.allTerms).isEmpty)
    (sorted : SpansSorted 0 l.lexed.tokens.length (nowSpans l.allTerms))
    (nonempty : ∀ span ∈ nowSpans l.allTerms, span.1 < span.2) :
    ∃ next, replaceQueryInPrepareMessage l = .ok (next, nowCalls l.allTerms) ∧
      next.query = spliced l.query 0 ((charSpans l.lexed l.allTerms).map
        (nowEdit (Utf8.encode (textOf (nowMarker l.namedBindMarkers)).toList))) ∧
      (l.lexed.chars.all Char.isAscii = true →
        next.query = (l.lexed.spliceTokens (nowSpans l.allTerms)
          (nowMarker l.namedBindMarkers) (nowMarker_visible _)).bytes) ∧
      (l.namedBindMarkers = false → nowSpans l.allTerms ≠ [] →
        next.positionalBindMarkers = true) := by
  -- the character spans are sorted too, inside the characters and so inside the bytes
  have charsSorted : SpansSorted 0 l.query.length (charSpans l.lexed l.allTerms) := by
    have sortedChars := QueryText.sorted_charSpans (by simpa [QueryText.tokens] using sorted)
      le_rfl nonempty
    rw [inspected, QueryText.bytes]
    simpa [QueryText.charsBefore, charSpans] using
      sortedChars.mono_high (Utf8.length_le_length_encode l.lexed.chars)
  obtain ⟨next, prepare, rewritten, positional⟩ := replaceQueryInPrepareMessage_eq flagged charsSorted
  refine ⟨next, prepare, rewritten, fun ascii => ?_, positional⟩
  rw [rewritten, inspected, charSpans]
  exact QueryText.bytes_spliceTokens sorted nonempty (nowMarker_visible _) (nowMarker_ne_nil _)
    ascii (nowMarker_isAscii _)

/-- `INSERT INTO t (a) VALUES (now())`. -/
def insertNow : CqlStatementContext :=
  .insertStatement
    { tableName := ⟨none, .unquoted "t"⟩
      columns := [.unquoted "a"]
      values := [.functionCall ⟨none, .unquoted "now"⟩ []]
      ifNotExists := false
      usingClause := none }

/-- `INSERT INTO t (a) VALUES (?)`, the query the positional replacement makes of `insertNow`. -/
def insertMarker : CqlStatementContext :=
  .insertStatement
    { tableName := ⟨none, .unquoted "t"⟩
      columns := [.unquoted "a"]
      values := [.bindMarker .positionalBindMarker]
      ifNotExists := false
      usingClause := none }

/-- `INSERT INTO t (a) VALUES (toTimestamp(now()))`. -/
def insertNestedNow : CqlStatementContext :=
  .insertStatement
    { tableName := ⟨none, .unquoted "t"⟩
      columns := [.unquoted "a"]
      values := [.functionCall ⟨none, .unquoted "toTimestamp"⟩
        [.term (.functionCall ⟨none, .unquoted "now"⟩ [])]]
      ifNotExists := false
      usingClause := none }

/-- The text of `insertNow`, of `insertMarker` and of `insertNestedNow`: blanks before `INTO`,
the table, the column list, `VALUES` and the value list. -/
def insertNowText : QueryText := .ofTokens insertNow.tokens [1, 2, 3, 6, 7] (by decide)

def insertMarkerText : QueryText := .ofTokens insertMarker.tokens [1, 2, 3, 6, 7] (by decide)

def insertNestedNowText : QueryText := .ofTokens insertNestedNow.tokens [1, 2, 3, 6, 7] (by decide)

/-- The replacement's query information disagrees with inspecting the query it builds, and a
nested `now()` call survives it. The marker that replaces the call in `insertNow` is numbered
one, and the listener numbers the same marker of `insertMarker` zero. `toTimestamp(now())` is
one call to `toTimestamp`, so the query is not flagged and is returned with its `now()`. -/
theorem replaceFunctionCalls_renumbers_markers_and_skips_nested_now :
    (replaceQueryInPrepareMessage (inspectCqlQuery insertNowText insertNow "")).map
        (fun replaced => (replaced.1.query, replaced.1.parsedStatements)) =
      .ok (insertMarkerText.bytes, [⟨0, .insert, [newPositionalBindMarkerTerm 1]⟩]) ∧
    (inspectCqlQuery insertMarkerText insertMarker "").parsedStatements =
      [⟨0, .insert, [newPositionalBindMarkerTerm 0]⟩] ∧
    (replaceQueryInPrepareMessage (inspectCqlQuery insertNestedNowText insertNestedNow "")).map
        (fun replaced => (replaced.1.query, replaced.2)) = .ok (insertNestedNowText.bytes, []) ∧
    [Token.word "now", .word "(", .word ")"] <:+: insertNestedNowText.tokens := by
  decide +kernel

/-- `INSERT INTO t (a, b) VALUES ('é', now())`: a `now()` call after a literal with a character
of two bytes. -/
def insertAfterWideLiteral : CqlStatementContext :=
  .insertStatement
    { tableName := ⟨none, .unquoted "t"⟩
      columns := [.unquoted "a", .unquoted "b"]
      values := [.primitiveLiteral false "'é'", .functionCall ⟨none, .unquoted "now"⟩ []]
      ifNotExists := false
      usingClause := none }

def insertAfterWideLiteralText : QueryText :=
  .ofTokens insertAfterWideLiteral.tokens [1, 2, 3, 6, 8, 9, 12] (by decide)

/-- The replacement cuts the bytes of the query at character indices. The call `now()` spans
the characters 34 to 38, and the bytes 35 to 39, since `é` takes two bytes: the bytes before
the call lose the blank, and the call's last parenthesis is kept. Replacing the call's tokens
gives `('é', ?)`. -/
theorem replaceFunctionCalls_cuts_bytes_at_character_indices :
    insertAfterWideLiteralText.chars.all Char.isAscii = false ∧
    (replaceQueryInPrepareMessage
        (inspectCqlQuery insertAfterWideLiteralText insertAfterWideLiteral "")).map
        (fun replaced => replaced.1.query) =
      .ok (Utf8.encode "insert into t (a, b) values ('é',?))".toList) ∧
    (insertAfterWideLiteralText.spliceTokens [(12, 15)] (nowMarker false)
        (nowMarker_visible false)).chars = "insert into t (a, b) values ('é', ?)".toList := by
  decide +kernel

end ZdmProxy.Cql
