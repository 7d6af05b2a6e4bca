import Mathlib

/-!
# Runs of calls on an object

An object whose methods are atomic (each one holds the object's lock for all it reads and
writes) is described by a step function `step : σ → ι → β × σ`: a call `c` on state `s`
returns `(step s c).1` and leaves `(step s c).2`. Any interleaving of concurrent callers is
then a sequence of calls, and `Calls.run step s calls` gives the results of the calls in order
and the final state.

A system whose calls are in flight at once keeps them in a list, and a step of one call
replaces it by its next state (`forall_mem_replace`), or changes it in place, so that what the
others hold stays (`filterMap_modify_perm`).

The main lemma is about one-shot objects: a state predicate `pending` that no call makes true
again once it is false, and a Boolean result that is `true` exactly at the call that makes it
false. Over every run from a pending state, exactly one call returns `true` if the run leaves
the pending states, and none otherwise (`count_true_run_of_oneShot`).
-/

namespace Calls

variable {σ ι β : Type}

/-- The results of `calls` in order, and the final state. -/
def run (step : σ → ι → β × σ) : σ → List ι → List β × σ
  | state, [] => ([], state)
  | state, call :: calls =>
      let (first, next) := step state call
      let (others, final) := run step next calls
      (first :: others, final)

@[simp] theorem run_nil (step : σ → ι → β × σ) (state : σ) : run step state [] = ([], state) :=
  rfl

@[simp] theorem run_cons (step : σ → ι → β × σ) (state : σ) (call : ι) (calls : List ι) :
    run step state (call :: calls) =
      ((step state call).1 :: (run step (step state call).2 calls).1,
        (run step (step state call).2 calls).2) :=
  rfl

/-- A property every call preserves holds after every run. -/
theorem run_invariant {step : σ → ι → β × σ} {invariant : σ → Prop}
    (preserved : ∀ state call, invariant state → invariant (step state call).2) :
    ∀ {state : σ} (calls : List ι), invariant state → invariant (run step state calls).2 := by
  intro state calls holds
  induction calls generalizing state with
  | nil => exact holds
  | cons call calls inductionHypothesis =>
    exact inductionHypothesis (preserved state call holds)

/-- In a system of calls in flight, one step replaces one call by its next state. A property
of every call survives the step when the new state has it and the others keep it. -/
theorem forall_mem_replace {P Q : ι → Prop} {before after : List ι} {old new : ι}
    (all : ∀ call ∈ before ++ old :: after, P call) (weaken : ∀ call, P call → Q call)
    (replacement : Q new) : ∀ call ∈ before ++ new :: after, Q call := by
  intro call present
  rcases List.mem_append.mp present with inBefore | inRest
  · exact weaken call (all call (List.mem_append_left _ inBefore))
  · rcases List.mem_cons.mp inRest with rfl | inAfter
    · exact replacement
    · exact weaken call (all call (List.mem_append_right _ (List.mem_cons_of_mem _ inAfter)))

/-- In a system of calls in flight, what the calls hold after the one at `index` changes: the
others hold what they held, so the holdings lose the old call's and gain the new one's. -/
theorem filterMap_modify_perm {α : Type} (holds : ι → Option α) (change : ι → ι) :
    ∀ {calls : List ι} {index : Nat} {call : ι}, calls[index]? = some call →
      ((calls.modify index change).filterMap holds ++ (holds call).toList).Perm
        (calls.filterMap holds ++ (holds (change call)).toList)
  | [], _, _, found => by cases found
  | first :: rest, 0, call, found => by
    cases found
    have front : ∀ held, (held :: rest).filterMap holds =
        (holds held).toList ++ rest.filterMap holds := by
      intro held
      cases holding : holds held <;> simp [holding]
    classical
    rw [List.modify_zero_cons, front, front, List.perm_iff_count]
    intro a
    simp only [List.count_append]
    omega
  | first :: rest, index + 1, call, found => by
    have moved := filterMap_modify_perm holds change (show rest[index]? = some call from found)
    rw [List.modify_succ_cons]
    cases kept : holds first with
    | none => simpa [kept] using moved
    | some held => simpa [kept] using moved.cons held

section OneShot

variable {step : σ → ι → Bool × σ} {pending : σ → Prop}

/-- Once a run has left the pending states it stays out of them. -/
theorem not_pending_run (staysDone : ∀ state call, ¬pending state → ¬pending (step state call).2)
    {state : σ} (calls : List ι) (done : ¬pending state) : ¬pending (run step state calls).2 :=
  run_invariant staysDone calls done

variable [DecidablePred pending]

/-- In a one-shot object, the number of calls that return `true` over a run is one if the run
left the pending states and zero otherwise. -/
theorem count_true_run_of_oneShot
    (staysDone : ∀ state call, ¬pending state → ¬pending (step state call).2)
    (trueIff : ∀ state call, (step state call).1 = true ↔ pending state ∧ ¬pending (step state call).2) :
    ∀ (state : σ) (calls : List ι),
      (run step state calls).1.count true =
        if pending state ∧ ¬pending (run step state calls).2 then 1 else 0 := by
  intro state calls
  induction calls generalizing state with
  | nil => simp
  | cons call calls inductionHypothesis =>
    rw [run_cons, List.count_cons, inductionHypothesis]
    by_cases leaves : (step state call).1 = true
    · obtain ⟨wasPending, nowDone⟩ := (trueIff state call).mp leaves
      have finalDone := not_pending_run staysDone calls nowDone
      simp [leaves, wasPending, finalDone, nowDone]
    · have stillPending : pending state → pending (step state call).2 := by
        intro wasPending
        by_contra nowDone
        exact leaves ((trueIff state call).mpr ⟨wasPending, nowDone⟩)
      by_cases wasPending : pending state
      · simp [leaves, wasPending, stillPending wasPending]
      · have nowDone := staysDone state call wasPending
        simp [leaves, wasPending, nowDone]

end OneShot

end Calls
