import ZdmProxy.Execute.ParameterModifier

/-!
# Generated values for named markers

A PREPARE with named markers gets the named marker `:zdm__now` in place of each `now()` call, so
the columns of the variables metadata that the cluster returns for the new query are named after
its markers, and the `zdm__now` columns are those of the replaced calls. At EXECUTE time the
proxy binds them in one of two ways, by how the client bound its own values.

With positional values (`addPositionalValuesForReplacedNamedMarkers`) the columns are walked in
order: a `zdm__now` column takes the next UUID, any other column the next client value. Its
meaning is `namedOrigins`, the origin of each column's value. The loop returns the values these
origins bind exactly when there are enough UUIDs and client values for the columns and the codec
encodes each UUID for its column's type; client values beyond the columns are dropped without an
error.

With named values (`addNamedValuesForReplacedNamedMarkers`) the values are a map. A column with a
client value keeps it, and the first `zdm__now` column without one adds the entry for
`zdm__now`, which then answers every later `zdm__now` column; any other column without a value
is an error, and so is a UUID that the codec does not encode for the column's type. So the
replaced calls of a statement bound by name all share the first UUID, where bound by position
each takes its own.
-/

namespace ZdmProxy.Execute

open ZdmProxy.Cql ZdmProxy.Routing

variable {DataType Value UUID : Type}

/-- Whether a column is the marker of a replaced `now()` call. -/
def isNowColumn (col : ColumnMetadata DataType) : Bool := col.name == zdmNowNamedMarker

/-- The origins of the values that the positional loop binds to the columns, from the `k`-th
UUID and the `j`-th client value on. -/
def namedOrigins : Nat → Nat → List (ColumnMetadata DataType) → List MarkerOrigin
  | _, _, [] => []
  | k, j, col :: rest =>
      if isNowColumn col then .replacedCall k :: namedOrigins (k + 1) j rest
      else .clientValue j :: namedOrigins k (j + 1) rest

/-- The first column that the named loop fills: a `zdm__now` column without a client value. -/
def firstUnboundNowColumn (namedValues : List (String × Value))
    (columns : List (ColumnMetadata DataType)) : Option (ColumnMetadata DataType) :=
  columns.find? fun col => isNowColumn col && (namedValues.lookup col.name).isNone

/-- The marker name is not empty, so the source's test `col.Name != ""` is implied. -/
theorem isNowColumn_iff (col : ColumnMetadata DataType) :
    (col.name != "" && col.name == zdmNowNamedMarker) = isNowColumn col := by
  by_cases named : col.name = zdmNowNamedMarker
  · simp [isNowColumn, named, zdmNowNamedMarker]
  · simp [isNowColumn, named]

section

variable {newCodec : DataType → Except String (UUID → Except String Value)}

/-! ## Positional values -/

/-- The positional loop, from `newPositionalValues` with the `replacementIdx`-th UUID and the
`currentIdx`-th client value next, appends the values that the columns' origins bind, and fails
exactly when one of them binds nothing: the UUIDs or the client values run out, or the codec
does not encode a UUID for its column's type. -/
theorem addPositionalValuesForNamedColumns_eq_ok_iff (values : List Value) (uuids : List UUID) (columns : List (ColumnMetadata DataType))
    (newPositionalValues result : List Value) (replacementIdx currentIdx : Nat) :
    addPositionalValuesForNamedColumns newCodec values uuids newPositionalValues replacementIdx
        currentIdx columns = .ok result ↔
      result.map some = newPositionalValues.map some ++
        List.zipWith (bindOrigin values uuids (encodeTimeUuid newCodec))
          (namedOrigins replacementIdx currentIdx columns) columns := by
  induction columns generalizing newPositionalValues replacementIdx currentIdx with
  | nil =>
    simp [addPositionalValuesForNamedColumns, namedOrigins, pure, Except.pure,
      List.map_inj_right fun _ _ => Option.some.inj, eq_comm]
  | cons col rest ih =>
    simp only [addPositionalValuesForNamedColumns, isNowColumn_iff, namedOrigins]
    cases now : isNowColumn col
    case true =>
      -- a `zdm__now` column takes the next UUID, encoded with the column's type
      cases found : uuids[replacementIdx]? with
      | none =>
        simp only [if_true, List.zipWith_cons_cons, bindOrigin, found, Option.bind_none]
        simpa [throw, throwThe, MonadExceptOf.throw] using
          map_some_ne_of_none result _ _
      | some timeUuid =>
        cases generated : generateTimeUuidValue newCodec timeUuid col.type with
        | error err =>
          -- the codec rejects the column's type
          have missing := encodeTimeUuid_of_error _ generated
          simp only [if_true, generated, Except.mapError, bind, Except.bind, reduceCtorEq,
            false_iff, List.zipWith_cons_cons, bindOrigin, found, Option.bind_some, missing]
          exact map_some_ne_of_none result _ _
        | ok value =>
          have present := encodeTimeUuid_of_ok _ generated
          simp only [if_true, generated, Except.mapError, bind, Except.bind, ih,
            List.zipWith_cons_cons, bindOrigin, found, Option.bind_some, present, List.map_append,
            List.map_cons, List.map_nil, List.append_assoc, List.singleton_append]
    case false =>
      -- any other column takes the next client value
      cases found : values[currentIdx]? with
      | none =>
        simp only [Bool.false_eq_true, if_false, List.zipWith_cons_cons, bindOrigin, found]
        simpa [throw, throwThe, MonadExceptOf.throw] using
          map_some_ne_of_none result _ _
      | some value =>
        simp only [Bool.false_eq_true, if_false, ih, List.zipWith_cons_cons, bindOrigin, found,
          List.map_append, List.map_cons, List.map_nil, List.append_assoc, List.singleton_append]

/-- A list of optional values is a list of values exactly when every entry is present. -/
theorem exists_map_some_iff (options : List (Option Value)) :
    (∃ bound : List Value, bound.map some = options) ↔ ∀ option ∈ options, option.isSome := by
  induction options with
  | nil => simp
  | cons option rest ih =>
    cases option with
    | none => simp [List.map_eq_cons_iff]
    | some value => simp [List.map_eq_cons_iff, ih]

/-- The origins of the columns all bind a value exactly when the UUIDs from the `k`-th on
cover the `zdm__now` columns, the client values from the `j`-th on cover the others, and each
`zdm__now` column's UUID is encoded for the column's type. -/
theorem bound_namedOrigins_iff (values : List Value) (uuids : List UUID)
    (encoded : UUID → DataType → Option Value) (columns : List (ColumnMetadata DataType)) (k j : Nat) :
    (∀ bound ∈ List.zipWith (bindOrigin values uuids encoded) (namedOrigins k j columns) columns,
        bound.isSome) ↔
      (columns.countP isNowColumn = 0 ∨ k + columns.countP isNowColumn ≤ uuids.length) ∧
      (columns.countP (fun col => !isNowColumn col) = 0 ∨
        j + columns.countP (fun col => !isNowColumn col) ≤ values.length) ∧
      ∀ pair ∈ (uuids.drop k).zip (columns.filter isNowColumn), (encoded pair.1 pair.2.type).isSome := by
  induction columns generalizing k j with
  | nil => simp [namedOrigins]
  | cons col rest ih =>
    cases now : isNowColumn col
    case true =>
      rw [namedOrigins, if_pos now, List.zipWith_cons_cons, List.forall_mem_cons, ih]
      simp only [List.countP_cons, now, Bool.not_true, Bool.false_eq_true, if_true, if_false,
        List.filter_cons_of_pos now]
      by_cases hasUuid : k < uuids.length
      · -- the column binds the `k`-th UUID, encoded for its type, and the rest count from the next
        have head : (bindOrigin values uuids encoded (.replacedCall k) col).isSome =
            (encoded uuids[k] col.type).isSome := by
          simp [bindOrigin, List.getElem?_eq_getElem hasUuid]
        have counted : (rest.countP isNowColumn = 0 ∨
              k + 1 + rest.countP isNowColumn ≤ uuids.length) ↔
            (rest.countP isNowColumn + 1 = 0 ∨ k + (rest.countP isNowColumn + 1) ≤ uuids.length) := by
          omega
        rw [head, List.drop_eq_getElem_cons hasUuid, List.zip_cons_cons, List.forall_mem_cons,
          counted]
        tauto
      · -- no UUID is left for the column
        have head : (bindOrigin values uuids encoded (.replacedCall k) col).isSome = false := by
          simp [bindOrigin, List.getElem?_eq_none (Nat.le_of_not_lt hasUuid)]
        rw [head]
        simp only [Bool.false_eq_true, false_and, false_iff, not_and]
        intro counted
        omega
    case false =>
      -- the column binds the `j`-th client value
      have head : (bindOrigin values uuids encoded (.clientValue j) col).isSome ↔
          j < values.length := by
        simp [bindOrigin]
      rw [namedOrigins, if_neg (by simp [now]), List.zipWith_cons_cons, List.forall_mem_cons, ih,
        head]
      have notNow : ¬ isNowColumn col = true := by simp [now]
      simp only [List.countP_cons, now, Bool.not_false, Bool.false_eq_true, if_true, if_false,
        List.filter_cons_of_neg notNow]
      constructor
      · rintro ⟨present, uuidsCover, valuesCover, encodes⟩
        exact ⟨uuidsCover, by omega, encodes⟩
      · rintro ⟨uuidsCover, valuesCover, encodes⟩
        exact ⟨by omega, uuidsCover, by omega, encodes⟩

/-- An EXECUTE with positional values of a statement prepared with named markers gets, for
each column in order, the value of its origin: the `k`-th `zdm__now` column takes the `k`-th
UUID encoded with the column's type, and the `j`-th other column the client's `j`-th value. The
call fails exactly when there are fewer UUIDs than `zdm__now` columns, fewer client values than
other columns, or the codec does not encode the UUID of a `zdm__now` column for its type; client
values beyond those are dropped. -/
theorem addPositionalValuesForReplacedNamedMarkers_eq_ok_iff (values : List Value) (variablesMetadata : VariablesMetadata DataType) (uuids : List UUID) :
    (∀ newValues, addPositionalValuesForReplacedNamedMarkers newCodec values variablesMetadata
        uuids = .ok newValues ↔
      newValues.map some = List.zipWith (bindOrigin values uuids (encodeTimeUuid newCodec))
        (namedOrigins 0 0 variablesMetadata.columns) variablesMetadata.columns) ∧
    ((∃ newValues, addPositionalValuesForReplacedNamedMarkers newCodec values variablesMetadata
        uuids = .ok newValues) ↔
      variablesMetadata.columns.countP isNowColumn ≤ uuids.length ∧
      variablesMetadata.columns.countP (fun col => !isNowColumn col) ≤ values.length ∧
      ∀ pair ∈ uuids.zip (variablesMetadata.columns.filter isNowColumn),
        (encodeTimeUuid newCodec pair.1 pair.2.type).isSome) := by
  have loop : ∀ newValues, addPositionalValuesForReplacedNamedMarkers newCodec values
      variablesMetadata uuids = .ok newValues ↔
      newValues.map some = List.zipWith (bindOrigin values uuids (encodeTimeUuid newCodec))
        (namedOrigins 0 0 variablesMetadata.columns) variablesMetadata.columns := by
    intro newValues
    simpa [addPositionalValuesForReplacedNamedMarkers] using
      addPositionalValuesForNamedColumns_eq_ok_iff values uuids variablesMetadata.columns []
        newValues 0 0
  refine ⟨loop, ?_⟩
  simp only [loop, exists_map_some_iff, bound_namedOrigins_iff, List.drop_zero]
  constructor
  · rintro ⟨uuidsCover, valuesCover, encodes⟩
    exact ⟨by omega, by omega, encodes⟩
  · rintro ⟨uuidsCover, valuesCover, encodes⟩
    exact ⟨by omega, by omega, encodes⟩

/-! ## Named values -/

/-- An entry added at the end of an association list does not change the lookup of another
key. -/
theorem lookup_append_of_ne (entries : List (String × Value)) {key name : String} (value : Value)
    (other : name ≠ key) : (entries ++ [(key, value)]).lookup name = entries.lookup name := by
  induction entries with
  | nil => simp [List.lookup, beq_false_of_ne other]
  | cons entry rest ih =>
    by_cases found : name = entry.1
    · simp [List.lookup, found]
    · simp [List.lookup, beq_false_of_ne found, ih]

/-- Once `zdm__now` has a value, no `zdm__now` column is left to fill. -/
theorem firstUnboundNowColumn_eq_none {namedValues : List (String × Value)}
    (bound : (namedValues.lookup zdmNowNamedMarker).isSome) (columns : List (ColumnMetadata DataType)) :
    firstUnboundNowColumn namedValues columns = none := by
  rw [firstUnboundNowColumn, List.find?_eq_none]
  intro col _
  by_cases now : isNowColumn col
  · have named : col.name = zdmNowNamedMarker := by simpa [isNowColumn] using now
    rw [named]
    cases looked : namedValues.lookup zdmNowNamedMarker with
    | none => simp [looked] at bound
    | some _ => simp
  · simp [now]

/-- Adding the `zdm__now` entry does not change which columns lack a value, up to `zdm__now`
columns. -/
theorem unbound_append_now_iff (namedValues : List (String × Value)) (value : Value)
    (columns : List (ColumnMetadata DataType)) :
    (∀ col ∈ columns, col.name ≠ "" →
        (namedValues ++ [(zdmNowNamedMarker, value)]).lookup col.name = none → isNowColumn col) ↔
      ∀ col ∈ columns, col.name ≠ "" → namedValues.lookup col.name = none → isNowColumn col := by
  refine forall₂_congr fun col _ => ?_
  by_cases now : col.name = zdmNowNamedMarker
  · simp [isNowColumn, now]
  · rw [lookup_append_of_ne namedValues value now]

/-- The named loop, from the named values `namedValues` with the `replacementIdx`-th UUID next,
succeeds exactly when every named column without a value is a `zdm__now` column and, if there
is one, the `replacementIdx`-th UUID exists and the codec encodes it for the type of the first
such column. It then adds a single entry for `zdm__now`, bound to that encoded UUID. -/
theorem addNamedValuesForColumns_eq_ok_iff (uuids : List UUID) (columns : List (ColumnMetadata DataType))
    (namedValues result : List (String × Value)) (replacementIdx : Nat) :
    addNamedValuesForColumns newCodec uuids namedValues replacementIdx columns = .ok result ↔
      (∀ col ∈ columns, col.name ≠ "" → namedValues.lookup col.name = none → isNowColumn col) ∧
      (firstUnboundNowColumn namedValues columns).elim (result = namedValues) fun col =>
        ∃ uuid, uuids[replacementIdx]? = some uuid ∧ ∃ value,
          encodeTimeUuid newCodec uuid col.type = some value ∧
          result = namedValues ++ [(zdmNowNamedMarker, value)] := by
  induction columns generalizing namedValues replacementIdx with
  | nil =>
    simp only [addNamedValuesForColumns, pure, Except.pure, Except.ok.injEq, firstUnboundNowColumn,
      List.find?_nil, Option.elim_none]
    exact ⟨fun same => ⟨nofun, same.symm⟩, fun ⟨_, same⟩ => same.symm⟩
  | cons col rest ih =>
    by_cases skipped : (col.name == "" || (namedValues.lookup col.name).isSome) = true
    case pos =>
      -- a column without a name or with a client value is left as it is
      have notUnbound : (isNowColumn col && (namedValues.lookup col.name).isNone) = false := by
        rcases Bool.or_eq_true_iff.mp skipped with unnamed | valued
        · have empty : col.name = "" := by simpa using unnamed
          simp [isNowColumn, empty, zdmNowNamedMarker]
        · rw [← Option.not_isSome, valued, Bool.not_true, Bool.and_false]
      have colFine : col.name ≠ "" → namedValues.lookup col.name = none → isNowColumn col := by
        intro named missing
        rcases Bool.or_eq_true_iff.mp skipped with unnamed | valued
        · exact absurd (by simpa using unnamed) named
        · simp [missing] at valued
      simp only [addNamedValuesForColumns, skipped, if_true, ih, firstUnboundNowColumn,
        List.find?_cons, notUnbound, List.forall_mem_cons]
      exact ⟨fun ⟨restFine, bound⟩ => ⟨⟨colFine, restFine⟩, bound⟩,
        fun ⟨⟨_, restFine⟩, bound⟩ => ⟨restFine, bound⟩⟩
    case neg =>
      have named : col.name ≠ "" := by
        intro empty
        simp [empty] at skipped
      have missing : namedValues.lookup col.name = none := by
        by_contra present
        simp [Option.ne_none_iff_isSome.mp present] at skipped
      cases now : isNowColumn col
      case false =>
        -- any other column without a value is an error
        have notNow : (col.name == zdmNowNamedMarker) = false := now
        simp only [addNamedValuesForColumns, skipped, notNow, Bool.false_eq_true, if_false,
          throw, throwThe, MonadExceptOf.throw, reduceCtorEq, false_iff, not_and]
        intro fine
        exact absurd (fine col List.mem_cons_self named missing) (by simp [now])
      case true =>
        -- the first `zdm__now` column without a value takes the next UUID
        have isNow : (col.name == zdmNowNamedMarker) = true := now
        have first : firstUnboundNowColumn namedValues (col :: rest) = some col := by
          simp [firstUnboundNowColumn, now, missing]
        have colFine : col.name ≠ "" → namedValues.lookup col.name = none → isNowColumn col :=
          fun _ _ => now
        rw [first, Option.elim_some]
        cases found : uuids[replacementIdx]? with
        | none =>
          simp [addNamedValuesForColumns, skipped, isNow, found, throw, throwThe,
            MonadExceptOf.throw]
        | some timeUuid =>
          cases generated : generateTimeUuidValue newCodec timeUuid col.type with
          | error err =>
            -- the codec rejects the column's type
            have missing := encodeTimeUuid_of_error _ generated
            simp only [addNamedValuesForColumns, skipped, isNow, Bool.false_eq_true, if_false,
              if_true, found, generated, bind, Except.bind, reduceCtorEq, Option.some.injEq,
              exists_eq_left', missing, false_and, exists_false, and_false]
          | ok value =>
            have present := encodeTimeUuid_of_ok _ generated
            have bound : ((namedValues ++ [(zdmNowNamedMarker, value)]).lookup
                zdmNowNamedMarker).isSome := by
              simp [List.lookup_append]
            simp only [addNamedValuesForColumns, skipped, isNow, Bool.false_eq_true, if_false,
              if_true, found, generated, bind, Except.bind, ih, firstUnboundNowColumn_eq_none bound,
              unbound_append_now_iff, List.forall_mem_cons, Option.some.injEq, exists_eq_left',
              present, Option.elim_none]
            exact ⟨fun ⟨restFine, same⟩ => ⟨⟨colFine, restFine⟩, same⟩,
              fun ⟨⟨_, restFine⟩, same⟩ => ⟨restFine, same⟩⟩

/-- An EXECUTE with named values of a statement prepared with named markers succeeds exactly
when every named column without a client value is a `zdm__now` column and, if there is such a
column, there is a UUID and the codec encodes the first one for the type of the first such
column. The client's values are kept and one entry for `zdm__now` is added, bound to that
encoded UUID: every `zdm__now` marker of the statement gets that one value, and the other UUIDs
are not used. -/
theorem addNamedValuesForReplacedNamedMarkers_eq_ok_iff (namedValues : List (String × Value)) (variablesMetadata : VariablesMetadata DataType)
    (uuids : List UUID) (result : List (String × Value)) :
    addNamedValuesForReplacedNamedMarkers newCodec namedValues variablesMetadata uuids =
        .ok result ↔
      (∀ col ∈ variablesMetadata.columns, col.name ≠ "" → namedValues.lookup col.name = none →
        isNowColumn col) ∧
      (firstUnboundNowColumn namedValues variablesMetadata.columns).elim (result = namedValues)
        fun col => ∃ uuid, uuids.head? = some uuid ∧ ∃ value,
          encodeTimeUuid newCodec uuid col.type = some value ∧
          result = namedValues ++ [(zdmNowNamedMarker, value)] := by
  rw [List.head?_eq_getElem?]
  exact addNamedValuesForColumns_eq_ok_iff uuids variablesMetadata.columns namedValues result 0

end

end ZdmProxy.Execute
