import ZdmProxy.Cql.Replace
import ZdmProxy.Routing.RequestInfo

/-!
# Adding generated values to an EXECUTE

An EXECUTE of a statement whose PREPARE had its `now()` calls replaced by bind markers must
bind the new markers too. `AddValuesToExecuteFrame` generates one time UUID per replaced call
and inserts the encoded UUIDs among the client's values, using the replaced terms recorded at
PREPARE time and the variables metadata that the cluster returned for the rewritten query.

With positional markers the values are a list: the value of the `k`-th replaced call goes after
`previousPositionalIndex + 1` client values, at index `k + previousPositionalIndex + 1` of the
new list, which is where the column of its marker is. With named markers the values are a map
and every `zdm__now` marker takes one UUID.

The codec is a parameter: `newCodec` gives the encoder of a data type, or an error, and the
protocol version is folded into it. Which column types take a UUID is the codec's business, so
nothing is assumed of it: `encodeTimeUuid` is what `generateTimeUuidValue` gives, a value or
nothing, and a column whose type the codec rejects makes the EXECUTE fail. The modelled functions
return Go's errors as `Except` messages; the metadata and UUID lists that some messages print are
left out of the text, and a Go panic (an index out of range) is the error `"index out of range"`.

The abstract meaning of the positional insertion is `valueOrigins`: the client's values in order,
with the `k`-th replaced call's UUID inserted after `previousPositionalIndex + 1` of them. The
main lemma (`addPositionalValuesForReplacedPositionalMarkers_eq_ok_iff`) says that the new values,
paired with the metadata columns, are those origins bound to the client's values and the encoded
UUIDs, and that the insertion fails exactly when the codec rejects the column of one of them.
-/

namespace ZdmProxy.Execute

open ZdmProxy.Cql ZdmProxy.Routing Splice

variable {DataType Value UUID : Type}

/-- `message.QueryOptions`, with the values the modifier reads and writes; the named values are
Go's map as an association list. -/
structure QueryOptions (Value : Type) where
  positionalValues : List Value
  namedValues : List (String × Value)
  deriving DecidableEq, Repr

/-- `message.Execute`, with its options; the prepared ids are not touched by the modifier. -/
structure ExecuteMessage (Value : Type) where
  options : Option (QueryOptions Value)
  deriving DecidableEq, Repr

/-- `generateTimeUuids`: one UUID per replaced `now()` call, the `k`-th from the generator's
`k`-th call. A replaced term without a function call dereferences a nil pointer. -/
def generateTimeUuids (getTimeUuid : Nat → UUID) (replacedTerms : List Term) :
    Except String (List UUID) :=
  go 0 replacedTerms
where
  go (generated : Nat) : List Term → Except String (List UUID)
    | [] => pure []
    | currentTerm :: rest =>
        match currentTerm.functionCall with
        | none => throw "invalid memory address or nil pointer dereference"
        | some call =>
            if currentTerm.isFunctionCall == call.isNow then do
              let others ← go (generated + 1) rest
              pure (getTimeUuid generated :: others)
            else go generated rest

/-- With only `now()` calls, the UUIDs are the generator's first ones, one per call. -/
theorem generateTimeUuids_go_eq (getTimeUuid : Nat → UUID) (replacedTerms : List Term)
    (nowCalls : ∀ term ∈ replacedTerms, term.isNowCall = true) (generated : Nat) :
    generateTimeUuids.go getTimeUuid generated replacedTerms =
      .ok ((List.range' generated replacedTerms.length).map getTimeUuid) := by
  induction replacedTerms generalizing generated with
  | nil => rfl
  | cons term rest ih =>
    have isNow := nowCalls term (by simp)
    have restNow : ∀ other ∈ rest, other.isNowCall = true :=
      fun other member => nowCalls other (by simp [member])
    cases called : term.functionCall with
    | none => simp [Term.isNowCall, called] at isNow
    | some call =>
      have callIsNow : call.isNow = true := by simpa [Term.isNowCall, called] using isNow
      simp [generateTimeUuids.go, called, callIsNow, Term.isFunctionCall, ih restNow,
        List.range'_succ, bind, Except.bind, pure, Except.pure]

theorem generateTimeUuids_eq (getTimeUuid : Nat → UUID) {replacedTerms : List Term}
    (nowCalls : ∀ term ∈ replacedTerms, term.isNowCall = true) :
    generateTimeUuids getTimeUuid replacedTerms =
      .ok ((List.range replacedTerms.length).map getTimeUuid) := by
  rw [generateTimeUuids, generateTimeUuids_go_eq getTimeUuid replacedTerms nowCalls,
    List.range_eq_range']

section

variable (newCodec : DataType → Except String (UUID → Except String Value))

/-- `generateTimeUuidValue`: the UUID encoded with the codec of the column type. -/
def generateTimeUuidValue (timeUuid : UUID) (valueType : DataType) : Except String Value :=
  match newCodec valueType with
  | .error err => throw s!"could not create codec for new timeuuid value: {err}"
  | .ok encode =>
      match encode timeUuid with
      | .error err => throw s!"could not encode new timeuuid value: {err}"
      | .ok value => pure value

/-- The value `generateTimeUuidValue` gives a UUID in a column of the type, or nothing when the
type has no codec or its codec does not encode a UUID. -/
def encodeTimeUuid (timeUuid : UUID) (valueType : DataType) : Option Value :=
  (generateTimeUuidValue newCodec timeUuid valueType).toOption

theorem encodeTimeUuid_of_ok {timeUuid : UUID} {valueType : DataType} {value : Value}
    (generated : generateTimeUuidValue newCodec timeUuid valueType = .ok value) :
    encodeTimeUuid newCodec timeUuid valueType = some value := by
  rw [encodeTimeUuid, generated]
  rfl

theorem encodeTimeUuid_of_error {timeUuid : UUID} {valueType : DataType} {err : String}
    (generated : generateTimeUuidValue newCodec timeUuid valueType = .error err) :
    encodeTimeUuid newCodec timeUuid valueType = none := by
  rw [encodeTimeUuid, generated]
  rfl

/-- The loop variables of `addPositionalValuesForReplacedPositionalMarkers`. -/
structure PositionalMarkersState (Value : Type) where
  newPositionalValues : List Value
  start : Nat
  offset : Nat
  replacementIdx : Nat
  deriving DecidableEq, Repr

/-- The copy of the client values up to the current term's previous positional marker. -/
def copyPositionalValues (originalPositionalValues : List Value)
    (state : PositionalMarkersState Value) (currentTerm : Term) :
    Except String (PositionalMarkersState Value) :=
  if 0 ≤ currentTerm.previousPositionalIndex then do
    let endIndex := (currentTerm.previousPositionalIndex + 1).toNat
    let copied ← slice originalPositionalValues state.start endIndex
    pure { state with newPositionalValues := state.newPositionalValues ++ copied, start := endIndex }
  else pure state

/-- The insertion of the next UUID, encoded with the type of column `newValueIdx`. -/
def insertTimeUuidValue (variablesMetadata : VariablesMetadata DataType)
    (replacementTimeUuids : List UUID) (state : PositionalMarkersState Value) (newValueIdx : Int) :
    Except String (PositionalMarkersState Value) := do
  if newValueIdx ≥ variablesMetadata.columns.length then
    throw s!"could not insert positional value ({newValueIdx}) because columns metadata has unexpected length"
  if state.replacementIdx ≥ replacementTimeUuids.length then
    throw s!"could not replace positional value ({newValueIdx}) with index {state.replacementIdx} because replacement timeuuids has unexpected length"
  match replacementTimeUuids[state.replacementIdx]?,
      (if newValueIdx < 0 then none else variablesMetadata.columns[newValueIdx.toNat]?) with
  | some timeUuid, some column =>
      let generatedTimeUuidValue ← (generateTimeUuidValue newCodec timeUuid column.type).mapError
        fun err => s!"could not generate new timeuuid value: {err}"
      pure { state with
        replacementIdx := state.replacementIdx + 1
        newPositionalValues := state.newPositionalValues ++ [generatedTimeUuidValue]
        offset := state.offset + 1 }
  | _, _ => throw "index out of range"

/-- One iteration of the loop over the replaced terms. -/
def addPositionalValuesStep (originalPositionalValues : List Value)
    (variablesMetadata : VariablesMetadata DataType) (replacementTimeUuids : List UUID)
    (state : PositionalMarkersState Value) (currentTerm : Term) :
    Except String (PositionalMarkersState Value) := do
  let newValueIdx : Int := state.offset + currentTerm.previousPositionalIndex + 1
  if currentTerm.previousPositionalIndex ≥ originalPositionalValues.length then
    throw s!"current term has previous positional index {currentTerm.previousPositionalIndex} but number of positional values in the request is {originalPositionalValues.length}"
  let copied ← copyPositionalValues originalPositionalValues state currentTerm
  if currentTerm.isNowCall then
    insertTimeUuidValue newCodec variablesMetadata replacementTimeUuids copied newValueIdx
  else pure copied

/-- The loop over the replaced terms. -/
def addPositionalValuesLoop (originalPositionalValues : List Value)
    (variablesMetadata : VariablesMetadata DataType) (replacementTimeUuids : List UUID)
    (state : PositionalMarkersState Value) : List Term → Except String (PositionalMarkersState Value)
  | [] => pure state
  | currentTerm :: rest => do
      let next ← addPositionalValuesStep newCodec originalPositionalValues variablesMetadata
        replacementTimeUuids state currentTerm
      addPositionalValuesLoop originalPositionalValues variablesMetadata replacementTimeUuids next rest

/-- `addPositionalValuesForReplacedPositionalMarkers`: the loop, then the client values after
the last copied one. -/
def addPositionalValuesForReplacedPositionalMarkers (originalPositionalValues : List Value)
    (replacedTerms : List Term) (variablesMetadata : VariablesMetadata DataType)
    (replacementTimeUuids : List UUID) : Except String (List Value) := do
  let state ← addPositionalValuesLoop newCodec originalPositionalValues variablesMetadata
    replacementTimeUuids ⟨[], 0, 0, 0⟩ replacedTerms
  if state.start < originalPositionalValues.length then
    let rest ← slice originalPositionalValues state.start originalPositionalValues.length
    pure (state.newPositionalValues ++ rest)
  else pure state.newPositionalValues

/-- The loop of `addPositionalValuesForReplacedNamedMarkers`, with the new values, the index of
the next UUID and the index of the next client value. -/
def addPositionalValuesForNamedColumns (originalPositionalValues : List Value)
    (replacementTimeUuids : List UUID) (newPositionalValues : List Value)
    (replacementIdx currentIdx : Nat) : List (ColumnMetadata DataType) → Except String (List Value)
  | [] => pure newPositionalValues
  | col :: rest =>
      if col.name != "" && col.name == zdmNowNamedMarker then
        match replacementTimeUuids[replacementIdx]? with
        | none =>
            throw s!"could not replace positional value with index {replacementIdx} because replacement timeuuids has unexpected length"
        | some timeUuid => do
            let generatedTimeUuidValue ← (generateTimeUuidValue newCodec timeUuid col.type).mapError
              fun err => s!"could not generate new timeuuid value: {err}"
            addPositionalValuesForNamedColumns originalPositionalValues replacementTimeUuids
              (newPositionalValues ++ [generatedTimeUuidValue]) (replacementIdx + 1) currentIdx rest
      else
        match originalPositionalValues[currentIdx]? with
        | none =>
            throw s!"invalid index ({currentIdx}) while copying positional values: {originalPositionalValues.length}"
        | some value =>
            addPositionalValuesForNamedColumns originalPositionalValues replacementTimeUuids
              (newPositionalValues ++ [value]) replacementIdx (currentIdx + 1) rest

/-- `addPositionalValuesForReplacedNamedMarkers`: a `zdm__now` column takes the next UUID, any
other column the next client value. -/
def addPositionalValuesForReplacedNamedMarkers (originalPositionalValues : List Value)
    (variablesMetadata : VariablesMetadata DataType) (replacementTimeUuids : List UUID) :
    Except String (List Value) :=
  addPositionalValuesForNamedColumns newCodec originalPositionalValues replacementTimeUuids [] 0 0
    variablesMetadata.columns

/-- The loop of `addNamedValuesForReplacedNamedMarkers`, with the named values and the index of
the next UUID. -/
def addNamedValuesForColumns (replacementTimeUuids : List UUID) (namedValues : List (String × Value))
    (replacementIdx : Nat) : List (ColumnMetadata DataType) → Except String (List (String × Value))
  | [] => pure namedValues
  | col :: rest =>
      if col.name == "" || (namedValues.lookup col.name).isSome then
        addNamedValuesForColumns replacementTimeUuids namedValues replacementIdx rest
      else if col.name == zdmNowNamedMarker then
        match replacementTimeUuids[replacementIdx]? with
        | none =>
            throw s!"could not replace named value ({zdmNowNamedMarker}) with index ({replacementIdx}) because replacement timeuuids has unexpected length"
        | some timeUuid => do
            let generatedTimeUuidValue ← generateTimeUuidValue newCodec timeUuid col.type
            addNamedValuesForColumns replacementTimeUuids
              (namedValues ++ [(zdmNowNamedMarker, generatedTimeUuidValue)]) (replacementIdx + 1) rest
      else throw s!"could not generate value for column {col.name}"

/-- `addNamedValuesForReplacedNamedMarkers`: each column without a client value must be a
`zdm__now` marker, which takes the next UUID. -/
def addNamedValuesForReplacedNamedMarkers (namedValues : List (String × Value))
    (variablesMetadata : VariablesMetadata DataType) (replacementTimeUuids : List UUID) :
    Except String (List (String × Value)) :=
  addNamedValuesForColumns newCodec replacementTimeUuids namedValues 0 variablesMetadata.columns

/-- `addPositionalValuesForReplacedTerms`: by the kind of markers of the prepared query. -/
def addPositionalValuesForReplacedTerms (originalPositionalValues : List Value)
    (prepareRequestInfo : PrepareRequestInfo DataType)
    (variablesMetadata : VariablesMetadata DataType) (replacementTimeUuids : List UUID) :
    Except String (List Value) :=
  if prepareRequestInfo.containsPositionalMarkers then
    addPositionalValuesForReplacedPositionalMarkers newCodec originalPositionalValues
      prepareRequestInfo.replacedTerms variablesMetadata replacementTimeUuids
  else
    addPositionalValuesForReplacedNamedMarkers newCodec originalPositionalValues variablesMetadata
      replacementTimeUuids

/-- `addValuesToExecuteMessage`: positional values unless the EXECUTE has named values. -/
def addValuesToExecuteMessage (executeMsg : ExecuteMessage Value)
    (prepareRequestInfo : PrepareRequestInfo DataType)
    (variablesMetadata : VariablesMetadata DataType) (replacementTimeUuids : List UUID) :
    Except String (ExecuteMessage Value) := do
  let options := executeMsg.options.getD ⟨[], []⟩
  if options.namedValues.isEmpty then
    let newPositionalValues ← addPositionalValuesForReplacedTerms newCodec options.positionalValues
      prepareRequestInfo variablesMetadata replacementTimeUuids
    pure ⟨some { options with positionalValues := newPositionalValues }⟩
  else
    let namedValues ← addNamedValuesForReplacedNamedMarkers newCodec options.namedValues
      variablesMetadata replacementTimeUuids
    pure ⟨some { options with namedValues := namedValues }⟩

/-- `AddValuesToExecuteFrame` on the decoded EXECUTE: values are added only when the PREPARE
had replaced terms. -/
def addValuesToExecuteFrame (executeMsg : ExecuteMessage Value)
    (prepareRequestInfo : PrepareRequestInfo DataType)
    (variablesMetadata : VariablesMetadata DataType) (replacementTimeUuids : List UUID) :
    Except String (ExecuteMessage Value) :=
  if prepareRequestInfo.replacedTerms.length > 0 then
    addValuesToExecuteMessage newCodec executeMsg prepareRequestInfo variablesMetadata
      replacementTimeUuids
  else pure executeMsg

theorem addValuesToExecuteFrame_of_nil {executeMsg : ExecuteMessage Value}
    (prepareRequestInfo : PrepareRequestInfo DataType)
    (unreplaced : prepareRequestInfo.replacedTerms = [])
    (variablesMetadata : VariablesMetadata DataType) (replacementTimeUuids : List UUID) :
    addValuesToExecuteFrame newCodec executeMsg prepareRequestInfo variablesMetadata
      replacementTimeUuids = .ok executeMsg := by
  simp [addValuesToExecuteFrame, unreplaced, pure, Except.pure]

/-- An EXECUTE with positional values only, of a statement prepared with positional markers and
replaced calls, gets the values of the positional insertion, and fails when it fails. -/
theorem addValuesToExecuteFrame_of_positional (prepareRequestInfo : PrepareRequestInfo DataType)
    {variablesMetadata : VariablesMetadata DataType} {replacementTimeUuids : List UUID}
    (values : List Value) (replaced : prepareRequestInfo.replacedTerms ≠ [])
    (positional : prepareRequestInfo.containsPositionalMarkers = true) :
    addValuesToExecuteFrame newCodec ⟨some ⟨values, []⟩⟩ prepareRequestInfo variablesMetadata
        replacementTimeUuids =
      (addPositionalValuesForReplacedPositionalMarkers newCodec values
        prepareRequestInfo.replacedTerms variablesMetadata replacementTimeUuids).map
        fun newValues => ⟨some ⟨newValues, []⟩⟩ := by
  have nonempty : prepareRequestInfo.replacedTerms.length > 0 := List.length_pos_of_ne_nil replaced
  simp only [addValuesToExecuteFrame, nonempty, if_true, addValuesToExecuteMessage,
    addPositionalValuesForReplacedTerms, positional, Option.getD_some, List.isEmpty_nil]
  cases addPositionalValuesForReplacedPositionalMarkers newCodec values
    prepareRequestInfo.replacedTerms variablesMetadata replacementTimeUuids <;> rfl

/-- An EXECUTE with positional values only ends with the new values exactly when they are what
the modifier computed. -/
theorem map_positionalValues_eq_ok_iff (attempt : Except String (List Value))
    (newValues : List Value) :
    attempt.map (fun newValues => (⟨some ⟨newValues, []⟩⟩ : ExecuteMessage Value)) =
        .ok ⟨some ⟨newValues, []⟩⟩ ↔ attempt = .ok newValues := by
  cases attempt <;> simp [Except.map]

end

/-! ## The positional insertion -/

/-- Where the value bound to a marker comes from: the client's positional value at an index,
or the UUID of the replaced call at an index. -/
inductive MarkerOrigin where
  | clientValue (index : Nat)
  | replacedCall (index : Nat)
  deriving DecidableEq, Repr

/-- The value a marker of the given origin and column is to be bound to, when there is one: the
client value, or the UUID as `encoded` gives it for the column's type. -/
def bindOrigin (values : List Value) (uuids : List UUID) (encoded : UUID → DataType → Option Value) :
    MarkerOrigin → ColumnMetadata DataType → Option Value
  | .clientValue index, _ => values[index]?
  | .replacedCall index, column => uuids[index]?.bind fun uuid => encoded uuid column.type

/-- Values bound through origins are all present: a list of values is never equal to a list
with a missing binding in it. -/
theorem map_some_ne_of_none {Value : Type} (result : List Value) (before after : List (Option Value)) :
    result.map some ≠ before ++ none :: after := by
  intro same
  have missing : none ∈ result.map some := by simp [same]
  simp at missing

/-- The number of client values before a replaced term, one more than its previous positional
index. -/
def valuesBefore (term : Term) : Nat := (term.previousPositionalIndex + 1).toNat

/-- The insertions of the replaced calls, from the `k`-th on, each after its client values. -/
def insertionEdits : Nat → List Term → List (Edit MarkerOrigin)
  | _, [] => []
  | k, term :: rest =>
      ⟨valuesBefore term, valuesBefore term, [.replacedCall k]⟩ :: insertionEdits (k + 1) rest

/-- The origins of the new positional values: `count` client values with the replaced calls'
UUIDs inserted among them. -/
def valueOrigins (count : Nat) (replacedTerms : List Term) : List MarkerOrigin :=
  spliced ((List.range count).map .clientValue) 0 (insertionEdits 0 replacedTerms)

/-- The insertion points of replaced terms, as empty spans. -/
def insertionSpans (replacedTerms : List Term) : List (Nat × Nat) :=
  replacedTerms.map fun term => (valuesBefore term, valuesBefore term)

@[simp] theorem map_span_insertionEdits (k : Nat) (replacedTerms : List Term) :
    (insertionEdits k replacedTerms).map Edit.span = insertionSpans replacedTerms := by
  induction replacedTerms generalizing k with
  | nil => rfl
  | cons term rest ih => simp [insertionEdits, insertionSpans, Edit.span, ih]

theorem insertions_insertionEdits (k : Nat) (replacedTerms : List Term) :
    ∀ edit ∈ insertionEdits k replacedTerms,
      edit.start = edit.stop ∧ edit.replacement.length = 1 := by
  induction replacedTerms generalizing k with
  | nil => simp [insertionEdits]
  | cons term rest ih =>
    intro edit member
    simp only [insertionEdits, List.mem_cons] at member
    rcases member with found | later
    · simp [found]
    · exact ih (k + 1) edit later

/-- One origin per client value and per replaced call. -/
theorem length_valueOrigins {count : Nat} {replacedTerms : List Term}
    (sorted : SpansSorted 0 count (insertionSpans replacedTerms)) :
    (valueOrigins count replacedTerms).length = count + replacedTerms.length := by
  have sortedEdits : SpansSorted 0 ((List.range count).map MarkerOrigin.clientValue).length
      ((insertionEdits 0 replacedTerms).map Edit.span) := by simpa using sorted
  have edits : (insertionEdits 0 replacedTerms).length = replacedTerms.length := by
    have lengths := congrArg List.length (map_span_insertionEdits 0 replacedTerms)
    rwa [List.length_map, insertionSpans, List.length_map] at lengths
  rw [valueOrigins, length_spliced_insertions _ sortedEdits (insertions_insertionEdits 0 _), edits]
  simp

section

variable {newCodec : DataType → Except String (UUID → Except String Value)}
  {encoded : UUID → DataType → Option Value} {values : List Value} {uuids : List UUID}
  {variablesMetadata : VariablesMetadata DataType}

/-- Client values bound through their origins are the client values. -/
theorem zipWith_bindOrigin_segment {low high : Nat} (inBounds : high ≤ values.length) (columns : List (ColumnMetadata DataType))
    (long : high - low ≤ columns.length) :
    List.zipWith (bindOrigin values uuids encoded)
        (segment ((List.range values.length).map .clientValue) low high) columns =
      (segment values low high).map some := by
  have clientOnly : ∀ (origins : List Nat) (columns : List (ColumnMetadata DataType)),
      origins.length ≤ columns.length →
      List.zipWith (bindOrigin values uuids encoded) (origins.map .clientValue) columns =
        origins.map fun index => values[index]? := by
    intro origins columns fits
    rw [List.zipWith_map_left]
    exact zipWith_eq_map_left _ origins columns fits
  have fits : (segment (List.range values.length) low high).length ≤ columns.length := by
    rw [length_segment _ (by simpa using inBounds)]
    exact long
  rw [segment_map, clientOnly _ _ fits, ← segment_map, ← segment_map, map_getElem?_range]

/-- Without replaced calls the origins bind the client values. -/
theorem zipWith_bindOrigin_valueOrigins_nil (columns : List (ColumnMetadata DataType))
    (long : values.length ≤ columns.length) :
    List.zipWith (bindOrigin values uuids encoded) (valueOrigins values.length []) columns =
      values.map some := by
  have clients : ((List.range values.length).map MarkerOrigin.clientValue).length ≤
      values.length := by simp
  rw [valueOrigins, insertionEdits, spliced_nil, ← segment_of_length_le 0 clients,
    zipWith_bindOrigin_segment le_rfl columns (by omega), segment_of_length_le 0 le_rfl,
    List.drop_zero]

/-- A copy up to the term's client values, when the term does not go back. -/
theorem copyPositionalValues_eq {state : PositionalMarkersState Value} {term : Term}
    (previous : -1 ≤ term.previousPositionalIndex) (after : state.start ≤ valuesBefore term)
    (inBounds : valuesBefore term ≤ values.length) :
    copyPositionalValues values state term = .ok { state with
      newPositionalValues := state.newPositionalValues ++ segment values state.start (valuesBefore term)
      start := valuesBefore term } := by
  unfold copyPositionalValues
  by_cases copies : 0 ≤ term.previousPositionalIndex
  · have sliced : slice values state.start (term.previousPositionalIndex + 1).toNat =
        .ok (segment values state.start (valuesBefore term)) := slice_of_le after inBounds
    simp only [copies, if_true, sliced, bind, Except.bind, pure, Except.pure]
    rfl
  · -- a term before the first marker copies nothing, and the copy is still at the start
    have first : valuesBefore term = 0 := by simp [valuesBefore]; omega
    have atStart : state.start = 0 := by omega
    simp only [copies, if_false, first, atStart, Splice.segment, List.drop_zero, Nat.sub_zero,
      List.take_zero, List.append_nil, pure, Except.pure]
    rw [← atStart]

/-- The insertion of the `k`-th UUID at index `index`, when the codec encodes it for the
column's type. -/
theorem insertTimeUuidValue_of_ok (state : PositionalMarkersState Value) {index : Nat}
    (hasUuid : state.replacementIdx < uuids.length)
    (hasColumn : index < variablesMetadata.columns.length) {value : Value}
    (generated : generateTimeUuidValue newCodec uuids[state.replacementIdx]
      variablesMetadata.columns[index].type = .ok value) :
    insertTimeUuidValue newCodec variablesMetadata uuids state index = .ok { state with
      replacementIdx := state.replacementIdx + 1
      newPositionalValues := state.newPositionalValues ++ [value]
      offset := state.offset + 1 } := by
  have noColumnError : ¬ (index : Int) ≥ variablesMetadata.columns.length := by omega
  have noUuidError : ¬ state.replacementIdx ≥ uuids.length := by omega
  have nonnegative : ¬ (index : Int) < 0 := by omega
  simp [insertTimeUuidValue, noColumnError, noUuidError, nonnegative, hasUuid, hasColumn, generated,
    bind, Except.bind, pure, Except.pure, Except.mapError]

/-- The insertion fails when the codec does not encode the UUID for the column's type. -/
theorem insertTimeUuidValue_of_error (state : PositionalMarkersState Value) {index : Nat}
    (hasUuid : state.replacementIdx < uuids.length)
    (hasColumn : index < variablesMetadata.columns.length) {err : String}
    (generated : generateTimeUuidValue newCodec uuids[state.replacementIdx]
      variablesMetadata.columns[index].type = .error err) :
    insertTimeUuidValue newCodec variablesMetadata uuids state index =
      .error s!"could not generate new timeuuid value: {err}" := by
  have noColumnError : ¬ (index : Int) ≥ variablesMetadata.columns.length := by omega
  have noUuidError : ¬ state.replacementIdx ≥ uuids.length := by omega
  have nonnegative : ¬ (index : Int) < 0 := by omega
  simp [insertTimeUuidValue, noColumnError, noUuidError, nonnegative, hasUuid, hasColumn, generated,
    bind, Except.bind, Except.mapError]

/-- One iteration on a replaced `now()` call copies the client values up to the call and then
inserts the next UUID into the column at index `offset + valuesBefore`. -/
theorem addPositionalValuesStep_eq (state : PositionalMarkersState Value) {term : Term}
    (isNow : term.isNowCall = true) (previous : -1 ≤ term.previousPositionalIndex)
    (after : state.start ≤ valuesBefore term) (inBounds : valuesBefore term ≤ values.length) :
    addPositionalValuesStep newCodec values variablesMetadata uuids state term =
      insertTimeUuidValue newCodec variablesMetadata uuids { state with
        newPositionalValues := state.newPositionalValues ++
          segment values state.start (valuesBefore term)
        start := valuesBefore term } (state.offset + valuesBefore term : Nat) := by
  have inRange : ¬ term.previousPositionalIndex ≥ values.length := by
    simp only [valuesBefore] at inBounds
    omega
  have index : (state.offset : Int) + term.previousPositionalIndex + 1 =
      ((state.offset + valuesBefore term : Nat) : Int) := by
    simp only [valuesBefore]
    omega
  simp only [addPositionalValuesStep, inRange, if_false, copyPositionalValues_eq previous after
    inBounds, isNow, if_true, bind, Except.bind, index]

/-- Binding a segment of client values followed by the `k`-th replaced call, against the
columns from `low + k` on. -/
theorem zipWith_bindOrigin_insertion {low cut k : Nat} (after : low ≤ cut)
    (inBounds : cut ≤ values.length) (hasUuid : k < uuids.length)
    (hasColumn : k + cut < variablesMetadata.columns.length) (rest : List MarkerOrigin) :
    List.zipWith (bindOrigin values uuids encoded)
        (segment ((List.range values.length).map .clientValue) low cut ++ [.replacedCall k] ++ rest)
        (variablesMetadata.columns.drop (low + k)) =
      (segment values low cut).map some ++
        encoded uuids[k] variablesMetadata.columns[k + cut].type ::
          List.zipWith (bindOrigin values uuids encoded) rest
            (variablesMetadata.columns.drop (cut + (k + 1))) := by
  -- split the columns where the client segment ends
  have split : variablesMetadata.columns.drop (low + k) =
      (variablesMetadata.columns.drop (low + k)).take (cut - low) ++
        variablesMetadata.columns[k + cut] :: variablesMetadata.columns.drop (cut + (k + 1)) := by
    have afterColumn : cut + (k + 1) = k + cut + 1 := by omega
    rw [afterColumn, ← List.drop_eq_getElem_cons hasColumn]
    conv_lhs => rw [← List.take_append_drop (cut - low) (variablesMetadata.columns.drop (low + k))]
    rw [List.drop_drop]
    congr 2
    omega
  have segmentLength :
      (segment ((List.range values.length).map MarkerOrigin.clientValue) low cut).length =
        cut - low := by
    rw [length_segment _ (by simpa using inBounds)]
  rw [split, List.append_assoc, List.zipWith_append (by simp [segmentLength]; omega),
    zipWith_bindOrigin_segment inBounds _ (by simp; omega), List.singleton_append,
    List.zipWith_cons_cons]
  simp only [bindOrigin, List.getElem?_eq_getElem hasUuid, Option.bind_some]

/-- The client values from `start` on, bound against the columns after them. -/
theorem zipWith_bindOrigin_drop {start offset : Nat} (inBounds : start ≤ values.length)
    (columns : variablesMetadata.columns.length = values.length + offset) :
    List.zipWith (bindOrigin values uuids encoded)
        (((List.range values.length).map .clientValue).drop start)
        (variablesMetadata.columns.drop (start + offset)) =
      (values.drop start).map some := by
  rw [← segment_length values start, ← segment_of_length_le start
    (show ((List.range values.length).map MarkerOrigin.clientValue).length ≤ values.length by
      simp)]
  exact zipWith_bindOrigin_segment (le_refl values.length) _ (by simp [columns]; omega)

/-- The loop over replaced `now()` calls, each after no fewer client values than the one before
it, with the client values after the last call appended, gives `result` exactly when the values
so far followed by the binding of the origins still ahead are `result`'s. A UUID that the codec
does not encode for its column's type binds nothing, and the loop fails there. -/
theorem addPositionalValuesLoop_eq_ok_iff (replacedTerms : List Term) :
    ∀ (state : PositionalMarkersState Value),
      (∀ term ∈ replacedTerms, term.isNowCall = true) →
      (∀ term ∈ replacedTerms, -1 ≤ term.previousPositionalIndex) →
      SpansSorted state.start values.length (insertionSpans replacedTerms) →
      state.replacementIdx = state.offset →
      state.offset + replacedTerms.length ≤ uuids.length →
      variablesMetadata.columns.length = values.length + (state.offset + replacedTerms.length) →
      ∀ result, (addPositionalValuesLoop newCodec values variablesMetadata uuids state
          replacedTerms).map (fun final => final.newPositionalValues ++ values.drop final.start) =
          .ok result ↔
        result.map some = state.newPositionalValues.map some ++
          List.zipWith (bindOrigin values uuids (encodeTimeUuid newCodec))
            (spliced ((List.range values.length).map .clientValue) state.start
              (insertionEdits state.offset replacedTerms))
            (variablesMetadata.columns.drop (state.start + state.offset)) := by
  induction replacedTerms with
  | nil =>
    intro state _ _ sorted _ _ columns result
    -- the client values after the last call are the rest of the binding
    rw [insertionEdits, spliced_nil, zipWith_bindOrigin_drop sorted.le (by simpa using columns),
      ← List.map_append]
    simp only [addPositionalValuesLoop, pure, Except.pure, Except.map, Except.ok.injEq]
    rw [List.map_inj_right fun _ _ => Option.some.inj, eq_comm]
  | cons term rest ih =>
    intro state nowCalls previous sorted counted enoughUuids columns result
    obtain ⟨newValues, start, offset, replacementIdx⟩ := state
    simp only at counted
    subst counted
    simp only [insertionSpans, List.map_cons] at sorted
    cases sorted with
    | cons after _ sortedRest =>
      have inBounds := sortedRest.le
      simp only [List.length_cons] at enoughUuids columns
      have hasUuid : replacementIdx < uuids.length := by omega
      have hasColumn : replacementIdx + valuesBefore term < variablesMetadata.columns.length := by
        omega
      have step : addPositionalValuesStep newCodec values variablesMetadata uuids
          ⟨newValues, start, replacementIdx, replacementIdx⟩ term =
            insertTimeUuidValue newCodec variablesMetadata uuids
              ⟨newValues ++ segment values start (valuesBefore term), valuesBefore term,
                replacementIdx, replacementIdx⟩ (replacementIdx + valuesBefore term : Nat) :=
        addPositionalValuesStep_eq _ (nowCalls term (by simp)) (previous term (by simp)) after
          inBounds
      rw [insertionEdits, spliced_cons, zipWith_bindOrigin_insertion after inBounds hasUuid hasColumn]
      cases generated : generateTimeUuidValue newCodec uuids[replacementIdx]
          variablesMetadata.columns[replacementIdx + valuesBefore term].type with
      | error err =>
        -- the codec rejects the column's type: the loop fails and the binding has a hole
        have missing := encodeTimeUuid_of_error _ generated
        rw [insertTimeUuidValue_of_error _ hasUuid hasColumn generated] at step
        simp only [addPositionalValuesLoop, step, bind, Except.bind, Except.map, reduceCtorEq,
          false_iff, missing, ← List.append_assoc]
        exact map_some_ne_of_none result _ _
      | ok value =>
        have present := encodeTimeUuid_of_ok _ generated
        rw [insertTimeUuidValue_of_ok _ hasUuid hasColumn generated] at step
        have nextUuids : replacementIdx + 1 + rest.length ≤ uuids.length := by omega
        have nextColumns : variablesMetadata.columns.length =
            values.length + (replacementIdx + 1 + rest.length) := by omega
        simp only [addPositionalValuesLoop, step, bind, Except.bind]
        rw [ih _ (fun other member => nowCalls other (by simp [member]))
          (fun other member => previous other (by simp [member])) sortedRest rfl nextUuids
          nextColumns result, present]
        simp only [List.map_append, List.map_cons, List.map_nil, List.append_assoc,
          List.singleton_append]

/-- The positional insertion is its loop with the client values after the last call
appended. -/
theorem addPositionalValuesForReplacedPositionalMarkers_eq_map (replacedTerms : List Term) :
    addPositionalValuesForReplacedPositionalMarkers newCodec values replacedTerms variablesMetadata
        uuids =
      (addPositionalValuesLoop newCodec values variablesMetadata uuids ⟨[], 0, 0, 0⟩
        replacedTerms).map fun final => final.newPositionalValues ++ values.drop final.start := by
  unfold addPositionalValuesForReplacedPositionalMarkers
  cases addPositionalValuesLoop newCodec values variablesMetadata uuids ⟨[], 0, 0, 0⟩
      replacedTerms with
  | error err => rfl
  | ok final =>
    by_cases remaining : final.start < values.length
    · simp [remaining, slice_of_le remaining.le le_rfl, segment_length, bind, Except.bind, pure,
        Except.pure, Except.map]
    · have atEnd : values.drop final.start = [] := List.drop_eq_nil_of_le (by omega)
      simp [remaining, atEnd, bind, Except.bind, pure, Except.pure, Except.map]

/-- With one `now()` call after another, each after at least as many client values as the
previous and at most all of them, enough UUIDs, and one column per client value and per call,
the positional insertion gives exactly the values that the origins of `valueOrigins` bind,
column by column, to the client values and the UUIDs as the codec encodes them for the column's
type. It fails exactly when the codec does not encode one of the UUIDs for its column. -/
theorem addPositionalValuesForReplacedPositionalMarkers_eq_ok_iff {replacedTerms : List Term}
    (nowCalls : ∀ term ∈ replacedTerms, term.isNowCall = true)
    (previous : ∀ term ∈ replacedTerms, -1 ≤ term.previousPositionalIndex)
    (sorted : SpansSorted 0 values.length (insertionSpans replacedTerms))
    (enoughUuids : replacedTerms.length ≤ uuids.length)
    (columns : variablesMetadata.columns.length = values.length + replacedTerms.length)
    (result : List Value) :
    addPositionalValuesForReplacedPositionalMarkers newCodec values replacedTerms variablesMetadata
        uuids = .ok result ↔
      result.map some = List.zipWith (bindOrigin values uuids (encodeTimeUuid newCodec))
        (valueOrigins values.length replacedTerms) variablesMetadata.columns := by
  rw [addPositionalValuesForReplacedPositionalMarkers_eq_map, addPositionalValuesLoop_eq_ok_iff
    replacedTerms ⟨[], 0, 0, 0⟩ nowCalls previous sorted rfl (by simpa using enoughUuids)
    (by simpa using columns) result]
  simp [valueOrigins]

end

end ZdmProxy.Execute
