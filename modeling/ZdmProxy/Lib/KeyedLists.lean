import Mathlib

/-!
# Lists of keyed elements

Two facts about lists whose elements carry a key. A map built by inserting the elements of a
list one after the other holds, for each key, the last element with that key
(`lookup_insertAll`), whatever the order of the map's entries. And a list whose elements have
distinct keys, sorted by a linear order on the keys, does not depend on the order it is sorted
from (`sortByKey_eq_of_perm`): two sorted permutations of one list are equal, so neither the order
in which a map's entries are enumerated nor the sorting algorithm changes the sorted list.
-/

namespace KeyedLists

variable {α κ : Type}

section Insertion

variable [DecidableEq κ] (key : α → κ)

/-- The map that inserting `elements` into `map` in order builds, each under its key. -/
def insertAll (map : AList fun _ : κ => α) (elements : List α) : AList fun _ : κ => α :=
  elements.foldl (fun map element => map.insert (key element) element) map

@[simp] theorem insertAll_nil (map : AList fun _ : κ => α) : insertAll key map [] = map := rfl

/-- Each key maps to the last element inserted with it, or to what the map held before. -/
theorem lookup_insertAll (map : AList fun _ : κ => α) (elements : List α) (k : κ) :
    (insertAll key map elements).lookup k =
      (elements.reverse.find? fun element => key element = k).or (map.lookup k) := by
  induction elements generalizing map with
  | nil => simp
  | cons element rest ih =>
    rw [insertAll, List.foldl_cons, ← insertAll, ih, List.reverse_cons, List.find?_append,
      Option.or_assoc]
    congr 1
    by_cases same : key element = k
    · subst same
      simp [AList.lookup_insert]
    · simp [same, AList.lookup_insert_ne (Ne.symm same)]

/-- Every entry of the map is stored under its element's key. -/
def Keyed (map : AList fun _ : κ => α) : Prop :=
  ∀ entry ∈ map.entries, key entry.2 = entry.1

omit [DecidableEq κ] in
theorem keyed_empty : Keyed key (∅ : AList fun _ : κ => α) := by
  intro entry inside
  cases inside

theorem Keyed.insert {map : AList fun _ : κ => α} (keyed : Keyed key map) (element : α) :
    Keyed key (map.insert (key element) element) := by
  intro entry inside
  rw [AList.entries_insert, List.mem_cons] at inside
  rcases inside with rfl | kept
  · rfl
  · exact keyed entry ((List.kerase_sublist _ _).subset kept)

theorem Keyed.insertAll {map : AList fun _ : κ => α} (keyed : Keyed key map) (elements : List α) :
    Keyed key (insertAll key map elements) := by
  induction elements generalizing map with
  | nil => exact keyed
  | cons element rest ih => exact ih (keyed.insert key element)

/-- In a keyed map an element is stored exactly when looking its key up finds it. -/
theorem Keyed.mem_entries_iff {map : AList fun _ : κ => α} (keyed : Keyed key map) {element : α} :
    element ∈ map.entries.map Sigma.snd ↔ map.lookup (key element) = some element := by
  rw [← Option.mem_def, AList.mem_lookup_iff]
  constructor
  · intro stored
    obtain ⟨entry, inside, rfl⟩ := List.mem_map.mp stored
    rwa [keyed entry inside]
  · intro stored
    exact List.mem_map.mpr ⟨_, stored, rfl⟩

omit [DecidableEq κ] in
/-- The elements of a keyed map have distinct keys. -/
theorem Keyed.nodup_keys {map : AList fun _ : κ => α} (keyed : Keyed key map) :
    ((map.entries.map Sigma.snd).map key).Nodup := by
  have same : (map.entries.map Sigma.snd).map key = map.keys := by
    rw [List.map_map, AList.keys, List.keys]
    exact List.map_congr_left fun entry inside => keyed entry inside
  rw [same]
  exact map.keys_nodup

/-- An element the map holds was inserted. -/
theorem mem_of_mem_insertAll {elements : List α} {entry : Σ _ : κ, α}
    (inside : entry ∈ (insertAll key ∅ elements).entries) : entry.2 ∈ elements := by
  obtain ⟨k, element⟩ := entry
  rw [← AList.mem_lookup_iff, Option.mem_def, lookup_insertAll, AList.lookup_empty,
    Option.or_none] at inside
  exact List.mem_reverse.mp (List.mem_of_find?_eq_some inside)

end Insertion

section Association

variable {β : Type} [BEq κ] [LawfulBEq κ]

/-- A predicate of the value found in an association list is the value found in the list of the
predicate's values, `false` where nothing is found. -/
theorem any_lookup (p : β → Bool) (entries : List (κ × β)) (k : κ) :
    (entries.lookup k).any p = ((entries.map fun entry => (entry.1, p entry.2)).lookup k).getD false := by
  induction entries with
  | nil => rfl
  | cons entry rest ih =>
    obtain ⟨k', value⟩ := entry
    by_cases same : k = k'
    · subst same
      simp [List.lookup]
    · simp [List.lookup, beq_false_of_ne same, ih]

/-- Looking a key up in the graph of a predicate over some keys. -/
theorem lookup_graph_getD (p : κ → Bool) (keys : List κ) (k : κ) :
    ((keys.map fun key => (key, p key)).lookup k).getD false = (decide (k ∈ keys) && p k) := by
  induction keys with
  | nil => rfl
  | cons key rest ih =>
    by_cases same : k = key
    · subst same
      simp
    · simp [List.lookup, beq_false_of_ne same, ih, same]

end Association

section Sorting

variable {β : Type} [LinearOrder β] (key : α → β)

/-- The list sorted by the key, as merge sort sorts it. -/
def sortByKey (elements : List α) : List α :=
  elements.mergeSort fun first second => decide (key first ≤ key second)

theorem sortByKey_perm (elements : List α) : (sortByKey key elements).Perm elements :=
  List.mergeSort_perm elements _

theorem pairwise_sortByKey (elements : List α) :
    (sortByKey key elements).Pairwise fun first second => key first ≤ key second := by
  have sorted := @List.pairwise_mergeSort _ (fun first second => decide (key first ≤ key second))
    (fun _ _ _ ordered next => by simpa using le_trans (by simpa using ordered) (by simpa using next))
    (fun first second => by simpa using le_total (key first) (key second)) elements
  exact sorted.imp fun ordered => by simpa using ordered

/-- Two permutations of a list with distinct keys sort to the same list. -/
theorem sortByKey_eq_of_perm {first second : List α} (perm : first.Perm second)
    (distinct : ∀ a ∈ first, ∀ b ∈ first, key a = key b → a = b) :
    sortByKey key first = sortByKey key second := by
  have sortedPerm : (sortByKey key first).Perm (sortByKey key second) :=
    ((sortByKey_perm key first).trans perm).trans (sortByKey_perm key second).symm
  refine List.Perm.eq_of_pairwise (fun a b inFirst inSecond below above => ?_)
    (pairwise_sortByKey key first) (pairwise_sortByKey key second) sortedPerm
  have a_mem : a ∈ first := (sortByKey_perm key first).mem_iff.mp inFirst
  have b_mem : b ∈ first := perm.mem_iff.mpr ((sortByKey_perm key second).mem_iff.mp inSecond)
  exact distinct a a_mem b b_mem (le_antisymm below above)

/-- With distinct keys the sorted list is strictly increasing. -/
theorem pairwise_lt_sortByKey {elements : List α} (distinct : (elements.map key).Nodup) :
    (sortByKey key elements).Pairwise fun first second => key first < key second := by
  have keysNodup : ((sortByKey key elements).map key).Nodup :=
    ((sortByKey_perm key elements).map key).nodup_iff.mpr distinct
  have nodupKeys := List.pairwise_map.mp keysNodup
  exact (pairwise_sortByKey key elements).imp₂ (fun _ _ below apart => lt_of_le_of_ne below apart)
    nodupKeys

/-- A permutation sorted strictly by the key is the sorted list: any sorting algorithm that
sorts a list with distinct keys gives what merge sort gives. -/
theorem eq_sortByKey_of_pairwise_lt {elements sorted : List α} (perm : sorted.Perm elements)
    (strict : sorted.Pairwise fun first second => key first < key second) :
    sorted = sortByKey key elements := by
  have keysNodup : (sorted.map key).Nodup :=
    List.pairwise_map.mpr (strict.imp fun below => ne_of_lt below)
  have distinct : (elements.map key).Nodup := (perm.map key).nodup_iff.mp keysNodup
  refine List.Perm.eq_of_pairwise (fun _ _ _ _ below above => absurd above (lt_asymm below))
    strict (pairwise_lt_sortByKey key distinct) (perm.trans (sortByKey_perm key elements).symm)

end Sorting

end KeyedLists
