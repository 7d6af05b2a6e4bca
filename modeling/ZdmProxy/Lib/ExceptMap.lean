import Mathlib

/-!
# Fallible maps over lists

A loop that converts each element of a list and stops at the first failure is `List.mapM` in
`Except`. What it returns on success is an element-wise relation between the two lists:
`mapM_eq_ok_iff` states it as `List.Forall₂`, so that what is known of one conversion carries
over to the whole list; `forall₂_comp` chains two such relations, as when the outputs of one
loop are the inputs of the next, and `forall₂_getElem?` reads one back at an index. A sequence
of fallible steps succeeds when each of its steps does (`bind_eq_ok_iff`), which takes such a
sequence apart one step at a time.
-/

namespace ExceptMap

variable {α β γ ε : Type}

/-- A bind succeeds exactly when its first step does and the rest does on what it returned. -/
theorem bind_eq_ok_iff {x : Except ε α} {f : α → Except ε β} {b : β} :
    x >>= f = .ok b ↔ ∃ a, x = .ok a ∧ f a = .ok b := by
  cases x with
  | error err =>
    constructor
    · intro bound
      cases bound
    · rintro ⟨a, failed, _⟩
      cases failed
  | ok a =>
    constructor
    · intro bound
      exact ⟨a, rfl, bound⟩
    · rintro ⟨a', same, rest⟩
      cases same
      exact rest

/-- A mapped result succeeds exactly when the result it maps does. -/
theorem map_eq_ok_iff {x : Except ε α} {f : α → β} {b : β} :
    x.map f = .ok b ↔ ∃ a, x = .ok a ∧ f a = b := by
  cases x with
  | error err =>
    constructor
    · intro mapped
      cases mapped
    · rintro ⟨a, failed, _⟩
      cases failed
  | ok a =>
    constructor
    · intro mapped
      cases mapped
      exact ⟨a, rfl, rfl⟩
    · rintro ⟨a', same, rfl⟩
      cases same
      rfl

theorem mapM_eq_ok_iff {f : α → Except ε β} {xs : List α} {ys : List β} :
    xs.mapM f = .ok ys ↔ List.Forall₂ (fun x y => f x = .ok y) xs ys := by
  induction xs generalizing ys with
  | nil =>
    rw [List.mapM_nil, List.forall₂_nil_left_iff]
    exact ⟨fun mapped => (Except.ok.inj mapped).symm, fun empty => empty ▸ rfl⟩
  | cons x xs inductionHypothesis =>
    rw [List.mapM_cons, List.forall₂_cons_left_iff]
    -- the head and the rest must both have succeeded
    cases first : f x with
    | error err =>
      constructor
      · intro mapped
        cases mapped
      · rintro ⟨y, _, converted, _, _⟩
        cases converted
    | ok y =>
      cases rest : xs.mapM f with
      | error err =>
        constructor
        · intro mapped
          cases mapped
        · rintro ⟨_, others, _, converted, _⟩
          rw [← inductionHypothesis, rest] at converted
          cases converted
      | ok others =>
        have converted := inductionHypothesis.mp rest
        constructor
        · intro mapped
          cases mapped
          exact ⟨y, others, rfl, converted, rfl⟩
        · rintro ⟨y', others', same, converted', rfl⟩
          cases same
          rw [← inductionHypothesis, rest] at converted'
          cases converted'
          rfl

/-- Two element-wise relations in a row relate the first list to the last. -/
theorem forall₂_comp {R : α → β → Prop} {S : β → γ → Prop} {xs : List α} {ys : List β}
    {zs : List γ} (first : List.Forall₂ R xs ys) (second : List.Forall₂ S ys zs) :
    List.Forall₂ (fun x z => ∃ y, R x y ∧ S y z) xs zs := by
  induction first generalizing zs with
  | nil =>
    cases second
    exact .nil
  | cons related _ inductionHypothesis =>
    cases second with
    | cons related' rest => exact .cons ⟨_, related, related'⟩ (inductionHypothesis rest)

/-- An element-wise relation relates the elements at each index. -/
theorem forall₂_getElem? {R : α → β → Prop} {xs : List α} {ys : List β}
    (related : List.Forall₂ R xs ys) {i : Nat} {x : α} (found : xs[i]? = some x) :
    ∃ y, ys[i]? = some y ∧ R x y := by
  induction related generalizing i with
  | nil => cases found
  | @cons x' y' _ _ head _ inductionHypothesis =>
    cases i with
    | zero =>
      cases found
      exact ⟨y', rfl, head⟩
    | succ i => exact inductionHypothesis found

/-- A relation from a single element relates it to a single element. -/
theorem forall₂_singleton_left_iff {R : α → β → Prop} {x : α} {ys : List β} :
    List.Forall₂ R [x] ys ↔ ∃ y, R x y ∧ ys = [y] := by
  rw [List.forall₂_cons_left_iff]
  constructor
  · rintro ⟨y, rest, related, noMore, rfl⟩
    rw [List.forall₂_nil_left_iff] at noMore
    exact ⟨y, related, by rw [noMore]⟩
  · rintro ⟨y, related, rfl⟩
    exact ⟨y, [], related, .nil, rfl⟩

/-- What the relation says of every element of the second list. -/
theorem forall_mem_of_forall₂ {R : α → β → Prop} {P : β → Prop} {xs : List α} {ys : List β}
    (related : List.Forall₂ R xs ys) (implies : ∀ x y, R x y → P y) : ∀ y ∈ ys, P y := by
  induction related with
  | nil => simp
  | @cons x y _ _ head _ inductionHypothesis =>
    intro member inside
    rcases List.mem_cons.mp inside with rfl | later
    · exact implies x member head
    · exact inductionHypothesis member later

/-- Each element of the second list is related to an element of the first. -/
theorem exists_mem_of_forall₂ {R : α → β → Prop} {xs : List α} {ys : List β}
    (related : List.Forall₂ R xs ys) {y : β} (inside : y ∈ ys) : ∃ x ∈ xs, R x y := by
  induction related with
  | nil => cases inside
  | @cons x y' _ _ head _ inductionHypothesis =>
    rcases List.mem_cons.mp inside with rfl | later
    · exact ⟨x, List.mem_cons_self, head⟩
    · obtain ⟨x', inside', related'⟩ := inductionHypothesis later
      exact ⟨x', List.mem_cons_of_mem _ inside', related'⟩

end ExceptMap
