import Mathlib

/-!
# Splicing replacements into a sequence

A text rewrite that replaces a few spans of a sequence, left to right, is a loop that copies
the part before each span, appends the replacement and continues after the span. The spans
come from a separate pass over the sequence, so the rewrite is only well defined when they
are sorted and disjoint; Go's slice expression `xs[low:high]` panics otherwise.

This module gives the slice (`slice`, an error where Go panics), the rewrite as a function of
the spans (`spliced`), the condition under which every slice of the rewrite succeeds
(`SpansSorted`), and the two facts a rewrite of bound parameters needs:

* `spliced_map`: tagging commutes with the rewrite, so a rewrite of tagged elements is the
  rewrite of the elements, each carrying its tag;
* `filterMap_spliced`: keeping only some elements (the parameter markers, say) commutes with
  the rewrite when no span contains a kept element; each span then becomes an insertion at the
  number of kept elements before it.
-/

namespace Splice

variable {α β : Type}

/-- One replacement: the elements `start` up to, but excluding, `stop` are replaced. -/
structure Edit (α : Type) where
  start : Nat
  stop : Nat
  replacement : List α
  deriving DecidableEq, Repr

/-- The edit with its replacement mapped by `f`. -/
def Edit.map (f : α → β) (edit : Edit α) : Edit β :=
  ⟨edit.start, edit.stop, edit.replacement.map f⟩

/-- The span of an edit. -/
def Edit.span (edit : Edit α) : Nat × Nat := (edit.start, edit.stop)

/-- The edits replacing each span by the replacement at the same index. -/
def edits (spans : List (Nat × Nat)) (replacements : List (List α)) : List (Edit α) :=
  List.zipWith (fun span replacement => ⟨span.1, span.2, replacement⟩) spans replacements

/-- The elements from index `low` up to, but excluding, `high`; Go's `xs[low:high]` when it is
in bounds. -/
def segment (xs : List α) (low high : Nat) : List α := (xs.drop low).take (high - low)

/-- Go's slice expression `xs[low:high]`, an error where Go panics. -/
def slice (xs : List α) (low high : Nat) : Except String (List α) :=
  if low ≤ high ∧ high ≤ xs.length then .ok (segment xs low high)
  else .error "slice bounds out of range"

/-- The rewrite of `xs` from index `i` on: copy up to each edit's start, append its
replacement and continue at its stop. -/
def spliced (xs : List α) (i : Nat) : List (Edit α) → List α
  | [] => xs.drop i
  | edit :: rest => segment xs i edit.start ++ edit.replacement ++ spliced xs edit.stop rest

@[simp] theorem spliced_nil (xs : List α) (i : Nat) : spliced xs i [] = xs.drop i := rfl

@[simp] theorem spliced_cons (xs : List α) (i : Nat) (edit : Edit α) (rest : List (Edit α)) :
    spliced xs i (edit :: rest) =
      segment xs i edit.start ++ edit.replacement ++ spliced xs edit.stop rest := rfl

@[simp] theorem map_span_edits (spans : List (Nat × Nat)) (replacements : List (List α))
    (lengths : spans.length = replacements.length) :
    (edits spans replacements).map Edit.span = spans := by
  induction spans generalizing replacements with
  | nil => rfl
  | cons span rest ih =>
    cases replacements with
    | nil => simp at lengths
    | cons replacement others =>
      simp only [edits, List.zipWith_cons_cons, List.map_cons] at ih ⊢
      rw [ih others (by simpa using lengths)]
      rfl

theorem slice_of_le {xs : List α} {low high : Nat} (ordered : low ≤ high)
    (inBounds : high ≤ xs.length) : slice xs low high = .ok (segment xs low high) := by
  simp [slice, ordered, inBounds]

theorem segment_length (xs : List α) (i : Nat) : segment xs i xs.length = xs.drop i := by
  simp [segment]

theorem segment_of_length_le {xs : List α} {high : Nat} (low : Nat) (beyond : xs.length ≤ high) :
    segment xs low high = xs.drop low := by
  rw [segment, List.take_of_length_le]
  simp only [List.length_drop]
  omega

theorem segment_map (f : α → β) (xs : List α) (low high : Nat) :
    segment (xs.map f) low high = (segment xs low high).map f := by
  simp [segment, List.map_take, List.map_drop]

/-- Cutting at `low ≤ middle ≤ high` splits a segment in two. -/
theorem segment_append_segment (xs : List α) {low middle high : Nat} (first : low ≤ middle)
    (second : middle ≤ high) :
    segment xs low middle ++ segment xs middle high = segment xs low high := by
  have split : high - low = (middle - low) + (high - middle) := by omega
  rw [segment, segment, segment, split, List.take_add, List.drop_drop]
  congr 3
  omega

theorem take_append_segment (xs : List α) {low high : Nat} (ordered : low ≤ high) :
    xs.take low ++ segment xs low high = xs.take high := by
  have split : high = low + (high - low) := by omega
  rw [segment, split, List.take_add]
  simp

theorem segment_append_drop (xs : List α) {low high : Nat} (ordered : low ≤ high) :
    segment xs low high ++ xs.drop high = xs.drop low := by
  have split : high = low + (high - low) := by omega
  rw [segment, split, ← List.drop_drop]
  simp

theorem length_segment (xs : List α) {low high : Nat} (inBounds : high ≤ xs.length) :
    (segment xs low high).length = high - low := by
  simp [segment]
  omega

theorem segment_append_left (xs ys : List α) {low high : Nat} (inFirst : high ≤ xs.length) :
    segment (xs ++ ys) low high = segment xs low high := by
  have beyond : high - low - (xs.drop low).length = 0 := by
    simp only [List.length_drop]
    omega
  rw [segment, segment, List.drop_append, List.take_append, beyond, List.take_zero,
    List.append_nil]

theorem segment_append_right (xs ys : List α) {low high : Nat} (inSecond : xs.length ≤ low) :
    segment (xs ++ ys) low high = segment ys (low - xs.length) (high - xs.length) := by
  have before : xs.drop low = [] := List.drop_eq_nil_of_le inSecond
  rw [segment, segment, List.drop_append, before, List.nil_append]
  congr 1
  omega

/-- Cutting a flattened sequence where whole pieces end gives the flattened pieces between. -/
theorem segment_flatMap (f : α → List β) (xs : List α) {low high : Nat} (ordered : low ≤ high) :
    segment (xs.flatMap f) ((xs.take low).flatMap f).length ((xs.take high).flatMap f).length =
      (segment xs low high).flatMap f := by
  have pieces : (xs.take high).flatMap f = (xs.take low).flatMap f ++ (segment xs low high).flatMap f := by
    rw [← List.flatMap_append, take_append_segment xs ordered]
  have whole : xs.flatMap f = (xs.take high).flatMap f ++ (xs.drop high).flatMap f := by
    rw [← List.flatMap_append, List.take_append_drop]
  rw [whole, segment_append_left _ _ le_rfl, pieces, segment, List.drop_left, List.length_append,
    Nat.add_sub_cancel_left, List.take_length]

/-- Spans that sit, in order and without overlap, between `low` and `high`. -/
inductive SpansSorted : Nat → Nat → List (Nat × Nat) → Prop where
  | nil {low high : Nat} (bounded : low ≤ high) : SpansSorted low high []
  | cons {low high start stop : Nat} {rest : List (Nat × Nat)} (after : low ≤ start)
      (ordered : start ≤ stop) (sorted : SpansSorted stop high rest) :
      SpansSorted low high ((start, stop) :: rest)

namespace SpansSorted

theorem le {low high : Nat} {spans : List (Nat × Nat)} (sorted : SpansSorted low high spans) :
    low ≤ high := by
  induction sorted with
  | nil bounded => exact bounded
  | cons after ordered _ ih => omega

theorem of_le {low low' high : Nat} {spans : List (Nat × Nat)} (earlier : low' ≤ low)
    (sorted : SpansSorted low high spans) : SpansSorted low' high spans := by
  cases sorted with
  | nil bounded => exact .nil (by omega)
  | cons after ordered rest => exact .cons (by omega) ordered rest

theorem append {low middle high : Nat} {first second : List (Nat × Nat)}
    (sortedFirst : SpansSorted low middle first) (sortedSecond : SpansSorted middle high second) :
    SpansSorted low high (first ++ second) := by
  induction sortedFirst with
  | nil bounded => exact sortedSecond.of_le bounded
  | cons after ordered _ ih => exact .cons after ordered (ih sortedSecond)

theorem mono_high {low high high' : Nat} {spans : List (Nat × Nat)} (later : high ≤ high')
    (sorted : SpansSorted low high spans) : SpansSorted low high' spans := by
  induction sorted with
  | nil bounded => exact .nil (by omega)
  | cons after ordered _ ih => exact .cons after ordered (ih later)

/-- A span of a sorted list lies between the bounds. -/
theorem bounds_of_mem {low high : Nat} {spans : List (Nat × Nat)}
    (sorted : SpansSorted low high spans) {span : Nat × Nat} (member : span ∈ spans) :
    low ≤ span.1 ∧ span.1 ≤ span.2 ∧ span.2 ≤ high := by
  induction sorted with
  | nil _ => simp at member
  | @cons low high start stop rest after ordered sortedRest ih =>
    rcases List.mem_cons.mp member with found | later
    · subst found
      exact ⟨after, ordered, sortedRest.le⟩
    · have := ih later
      omega

/-- Through a monotone count, sorted spans become sorted insertion points. -/
theorem map_insertion {low high : Nat} {spans : List (Nat × Nat)} (count : Nat → Nat)
    (monotone : ∀ {first second}, first ≤ second → count first ≤ count second)
    (sorted : SpansSorted low high spans) :
    SpansSorted (count low) (count high)
      (spans.map fun span => (count span.1, count span.1)) := by
  induction sorted with
  | nil bounded => exact .nil (monotone bounded)
  | cons after ordered _ ih =>
    exact .cons (monotone after) le_rfl (ih.of_le (monotone ordered))

end SpansSorted

/-- Mapping the rewritten sequence is rewriting the mapped sequence with mapped replacements. -/
theorem spliced_map (f : α → β) (xs : List α) (i : Nat) (es : List (Edit α)) :
    (spliced xs i es).map f = spliced (xs.map f) i (es.map (Edit.map f)) := by
  induction es generalizing i with
  | nil => simp [List.map_drop]
  | cons edit rest ih => simp [ih, segment_map, Edit.map]

/-- An element of a rewrite comes from the sequence or from a replacement. -/
theorem mem_spliced {xs : List α} {i : Nat} {es : List (Edit α)} {x : α}
    (member : x ∈ spliced xs i es) : x ∈ xs ∨ ∃ edit ∈ es, x ∈ edit.replacement := by
  induction es generalizing i with
  | nil => exact .inl (List.mem_of_mem_drop member)
  | cons edit rest ih =>
    rcases List.mem_append.mp member with copied | later
    · rcases List.mem_append.mp copied with inSegment | replaced
      · exact .inl (List.mem_of_mem_drop (List.mem_of_mem_take inSegment))
      · exact .inr ⟨edit, List.mem_cons_self, replaced⟩
    · rcases ih later with original | ⟨other, present, replaced⟩
      · exact .inl original
      · exact .inr ⟨other, List.mem_cons_of_mem edit present, replaced⟩

/-- Inserting one element at each of sorted points adds one element per insertion. -/
theorem length_spliced_insertions (xs : List α) {i : Nat} {es : List (Edit α)}
    (sorted : SpansSorted i xs.length (es.map Edit.span))
    (insertions : ∀ edit ∈ es, edit.start = edit.stop ∧ edit.replacement.length = 1) :
    (spliced xs i es).length = xs.length - i + es.length := by
  induction es generalizing i with
  | nil => simp
  | cons edit rest ih =>
    cases sorted with
    | cons after _ sortedRest =>
      have inserted := insertions edit (by simp)
      have restLength := ih sortedRest (fun other member => insertions other (by simp [member]))
      have inBounds := sortedRest.le
      simp only [spliced_cons, List.length_append, restLength, inserted.2, List.length_cons]
      rw [length_segment _ (by omega)]
      omega

/-- The number of kept elements before index `p`. -/
def keptBefore (g : α → Option β) (xs : List α) (p : Nat) : Nat :=
  ((xs.take p).filterMap g).length

theorem filterMap_drop (g : α → Option β) (xs : List α) (i : Nat) :
    (xs.drop i).filterMap g = (xs.filterMap g).drop (keptBefore g xs i) := by
  conv_rhs => rw [← List.take_append_drop i xs, List.filterMap_append]
  simp [keptBefore]

theorem keptBefore_segment (g : α → Option β) (xs : List α) {low high : Nat}
    (ordered : low ≤ high) :
    keptBefore g xs high = keptBefore g xs low + ((segment xs low high).filterMap g).length := by
  rw [keptBefore, keptBefore, ← take_append_segment xs ordered, List.filterMap_append,
    List.length_append]

/-- Keeping the elements of a segment keeps a segment of the kept elements. -/
theorem filterMap_segment (g : α → Option β) (xs : List α) {low high : Nat}
    (ordered : low ≤ high) :
    (segment xs low high).filterMap g =
      segment (xs.filterMap g) (keptBefore g xs low) (keptBefore g xs high) := by
  have counted := keptBefore_segment g xs ordered
  have dropped := filterMap_drop g xs low
  rw [← segment_append_drop xs ordered, List.filterMap_append] at dropped
  conv_rhs => rw [segment, ← dropped, counted, Nat.add_sub_cancel_left]
  exact (List.take_left' rfl).symm

/-- Keeping the elements of a rewrite, when no span holds a kept element, is the rewrite of
the kept elements in which every edit is an insertion at the number of kept elements before
its span. -/
theorem filterMap_spliced (g : α → Option β) (xs : List α) {i : Nat} {es : List (Edit α)}
    (sorted : SpansSorted i xs.length (es.map Edit.span))
    (untouched : ∀ edit ∈ es, (segment xs edit.start edit.stop).filterMap g = []) :
    (spliced xs i es).filterMap g =
      spliced (xs.filterMap g) (keptBefore g xs i)
        (es.map fun edit =>
          ⟨keptBefore g xs edit.start, keptBefore g xs edit.start,
            edit.replacement.filterMap g⟩) := by
  induction es generalizing i with
  | nil => simp [filterMap_drop]
  | cons edit rest ih =>
    cases sorted with
    | cons after ordered sortedRest =>
      have sameCount : keptBefore g xs edit.stop = keptBefore g xs edit.start := by
        rw [keptBefore_segment g xs ordered, untouched edit (by simp)]
        rfl
      have restEq := ih sortedRest (fun other member => untouched other (by simp [member]))
      rw [sameCount] at restEq
      simp only [spliced_cons, List.filterMap_append, List.map_cons, filterMap_segment g xs after,
        restEq]

/-- Pairing with a list that is long enough, by a function that ignores its right argument,
maps the left list. -/
theorem zipWith_eq_map_left (f : α → β) (xs : List α) {γ : Type} (ys : List γ)
    (long : xs.length ≤ ys.length) : List.zipWith (fun x _ => f x) xs ys = xs.map f := by
  induction xs generalizing ys with
  | nil => rfl
  | cons x rest ih =>
    cases ys with
    | nil => simp at long
    | cons y others =>
      simp only [List.zipWith_cons_cons, List.map_cons]
      rw [ih others (by simpa using long)]

theorem map_getElem?_range (xs : List α) :
    (List.range xs.length).map (fun index => xs[index]?) = xs.map some :=
  List.ext_getElem (by simp) (by intro index _ _; simp)

end Splice
