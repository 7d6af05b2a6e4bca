import ZdmProxy.Lib.Calls
import ZdmProxy.Execute.TimeUuid

/-!
# Host assignment across proxy instances

Each proxy instance of a topology of `count` instances connects its clients to a share of the
cluster's hosts in the local datacenter: `computeAssignedHosts` (`controlconn.go`) walks the
ordered hosts with a counter that cycles modulo `count` and keeps the hosts where it equals
`index % len(hosts)`. New client connections then take the shared hosts round robin,
`NextAssignedHost` under the topology read lock, with an atomic counter that
`incCurrentAssignmentCounter` increments and, when the value is a multiple of the list's
length, brings back down by the length. A topology refresh replaces the list under the write
lock.

The host at position `p` is kept by instance `index` exactly when `p % count` is
`index % len(hosts)` (`computeAssignedHosts_eq`). Every instance gets a host, every host is
assigned, each list keeps the hosts' order, and with at least `count` hosts the lists split the
hosts (`assignedHosts_perm`).

The counter is modelled as a step relation over the calls in flight. A call takes two atomic
steps on the shared counter, and other calls interleave with them, but no refresh does: the
call holds the read lock. The counter is an `int64`, and both atomic additions wrap; a ghost
flag records whether one has. Until then the invariant (`AssignmentInvariant`) holds: the
counter is at least the list's length times the number of calls still to bring it down, so it
never goes negative and every index is inside the list.

The compensation only ever undoes the increment that reached a multiple of the current length,
so refreshes that change the length make the counter climb: with lengths whose least common
multiple is past `2^63`, every value up to `2^63 - 1` is reachable (`reachable_counter`), and
the next call wraps it to `-2^63` and returns a negative index.
-/

namespace ZdmProxy.Control

variable {α : Type}

/-! ## Splitting a list by a key -/

section Partition

variable {β : Type}

/-- The elements of each key below `count`, key after key, are the elements whose key is
below `count`. -/
theorem flatMap_filter_key_perm (key : β → Nat) (xs : List β) (count : Nat) :
    ((List.range count).flatMap fun i => xs.filter fun x => key x = i).Perm
      (xs.filter fun x => key x < count) := by
  induction count with
  | zero => simp
  | succ count inductionHypothesis =>
    rw [List.range_succ, List.flatMap_append, List.flatMap_singleton]
    -- the elements below `count + 1` are those below `count`, then those at `count`
    have split := List.filter_append_perm (fun x => decide (key x < count))
      (xs.filter fun x => key x < count + 1)
    rw [List.filter_filter, List.filter_filter] at split
    have below : (fun x => decide (key x < count) && decide (key x < count + 1)) =
        fun x => decide (key x < count) := by
      funext x
      by_cases lower : key x < count
      · have within : key x < count + 1 := by omega
        simp [lower, within]
      · simp [lower]
    have at_count : (fun x => !decide (key x < count) && decide (key x < count + 1)) =
        fun x => decide (key x = count) := by
      funext x
      by_cases lower : key x < count <;> simp [lower] <;> omega
    rw [below, at_count] at split
    exact (inductionHypothesis.append (List.Perm.refl _)).trans split

end Partition

/-! ## `computeAssignedHosts` -/

/-- The loop of `computeAssignedHosts`: `i` is the counter that cycles modulo `count`, and the
hosts left to visit. For `count = 0` Go divides by zero; `ParseTopologyConfig` admits no such
count. -/
def assignLoop (index count hostsCount : Nat) : Nat → List α → List α
  | _, [] => []
  | i, h :: rest =>
      (if i = index % hostsCount then [h] else []) ++
        assignLoop index count hostsCount ((i + 1) % count) rest

/-- `computeAssignedHosts`: the hosts of `orderedHosts` that proxy instance `index` of `count`
connects its clients to. -/
def computeAssignedHosts (index count : Nat) (orderedHosts : List α) : List α :=
  assignLoop index count orderedHosts.length 0 orderedHosts

/-- The hosts the loop keeps from position `start` on: those whose position modulo `count` is
`index % hostsCount`. -/
theorem assignLoop_eq (index count hostsCount : Nat) (hosts : List α) (start : Nat) :
    assignLoop index count hostsCount (start % count) hosts =
      ((hosts.zipIdx start).filter fun x => x.2 % count = index % hostsCount).map Prod.fst := by
  induction hosts generalizing start with
  | nil => rfl
  | cons h rest inductionHypothesis =>
    have next : (start % count + 1) % count = (start + 1) % count := by
      rw [Nat.add_mod, Nat.mod_mod, ← Nat.add_mod]
    rw [assignLoop, next, inductionHypothesis, List.zipIdx_cons, List.filter_cons]
    by_cases kept : start % count = index % hostsCount <;> simp [kept]

theorem computeAssignedHosts_eq (index count : Nat) (orderedHosts : List α) :
    computeAssignedHosts index count orderedHosts =
      ((orderedHosts.zipIdx).filter fun x => x.2 % count = index % orderedHosts.length).map
        Prod.fst := by
  rw [computeAssignedHosts, ← assignLoop_eq index count orderedHosts.length orderedHosts 0,
    Nat.zero_mod]

/-- Instance 1 of 3 keeps the hosts at positions 1 and 4 of five. -/
example : computeAssignedHosts 1 3 [10, 11, 12, 13, 14] = [11, 14] := rfl

/-- Each list keeps the hosts' order. -/
theorem computeAssignedHosts_sublist (index count : Nat) (orderedHosts : List α) :
    (computeAssignedHosts index count orderedHosts).Sublist orderedHosts := by
  rw [computeAssignedHosts_eq]
  conv_rhs => rw [← List.zipIdx_map_fst 0 orderedHosts]
  exact List.filter_sublist.map Prod.fst

/-- The host at a position is assigned to the instance whose index it matching. -/
theorem mem_computeAssignedHosts {index count : Nat} {orderedHosts : List α} {position : Nat}
    (inside : position < orderedHosts.length)
    (matching : position % count = index % orderedHosts.length) :
    orderedHosts[position] ∈ computeAssignedHosts index count orderedHosts := by
  rw [computeAssignedHosts_eq]
  apply List.mem_map.mpr
  refine ⟨(orderedHosts[position], position), ?_, rfl⟩
  apply List.mem_filter.mpr
  constructor
  · exact List.mem_zipIdx_iff_getElem?.mpr (List.getElem?_eq_getElem inside)
  · simpa using matching

/-- Every instance of the topology gets a host. -/
theorem computeAssignedHosts_ne_nil {index count : Nat} {orderedHosts : List α}
    (instance_lt : index < count) (nonempty : orderedHosts ≠ []) :
    computeAssignedHosts index count orderedHosts ≠ [] := by
  have positive : 0 < orderedHosts.length := List.length_pos_of_ne_nil nonempty
  -- the first position the instance matching is `index % len(hosts)`, itself below `count`
  have position_lt : index % orderedHosts.length < orderedHosts.length := Nat.mod_lt _ positive
  have matching : index % orderedHosts.length % count = index % orderedHosts.length :=
    Nat.mod_eq_of_lt (lt_of_le_of_lt (Nat.mod_le _ _) instance_lt)
  exact List.ne_nil_of_mem (mem_computeAssignedHosts position_lt matching)

/-- Every host is assigned to some instance. -/
theorem exists_computeAssignedHosts {count : Nat} (positive : 0 < count) {orderedHosts : List α}
    {host : α} (present : host ∈ orderedHosts) :
    ∃ index < count, host ∈ computeAssignedHosts index count orderedHosts := by
  obtain ⟨position, inside, rfl⟩ := List.getElem_of_mem present
  refine ⟨position % count, Nat.mod_lt _ positive, mem_computeAssignedHosts inside ?_⟩
  exact (Nat.mod_eq_of_lt (lt_of_le_of_lt (Nat.mod_le _ _) inside)).symm

/-- With at least `count` hosts, the instances' lists split the hosts: each host appears in the
lists as often as in the hosts. -/
theorem assignedHosts_perm {count : Nat} (positive : 0 < count) {orderedHosts : List α}
    (enough : count ≤ orderedHosts.length) :
    ((List.range count).flatMap fun index => computeAssignedHosts index count orderedHosts).Perm
      orderedHosts := by
  -- below `count ≤ len(hosts)` an index is its own residue
  have residue : ∀ index ∈ List.range count, computeAssignedHosts index count orderedHosts =
      (orderedHosts.zipIdx.filter fun x => x.2 % count = index).map Prod.fst := by
    intro index present
    rw [computeAssignedHosts_eq,
      Nat.mod_eq_of_lt (lt_of_lt_of_le (List.mem_range.mp present) enough)]
  rw [List.flatMap_congr residue, ← List.map_flatMap]
  have every : (orderedHosts.zipIdx.filter fun x => x.2 % count < count) = orderedHosts.zipIdx := by
    apply List.filter_eq_self.mpr
    intro x _
    simpa using Nat.mod_lt x.2 positive
  have split := (flatMap_filter_key_perm (fun x : α × Nat => x.2 % count) orderedHosts.zipIdx
    count).map Prod.fst
  rwa [every, List.zipIdx_map_fst] at split

/-! ## Round robin over the assigned hosts -/

/-- The error of `NextAssignedHost` before the first topology refresh. -/
def assignedHostsNotRetrieved : String :=
  "could not get assigned hosts because topology information has not been retrieved yet"

/-- Where a `NextAssignedHost` call is. After the increment of `incCurrentAssignmentCounter`, a
call whose value was 0 still holds the read lock and has to bring the counter down by the length
of the hosts it read; any other call has returned. -/
inductive AssignmentCall (α : Type) where
  | started
  | compensating (hosts : List α)
  | returned (assignment : Int) (hosts : List α)
  | failed (message : String)

/-- `ControlConn`'s `assignedHosts` (nil before the first refresh) and `currentAssignment`, an
`int64`, and the `NextAssignedHost` calls in flight. `overflowed` is a ghost flag that records
whether an atomic addition to the counter has wrapped around. -/
structure AssignmentSystem (α : Type) where
  assignedHosts : Option (List α)
  currentAssignment : Int
  calls : List (AssignmentCall α)
  overflowed : Bool

/-- A new control connection. -/
def AssignmentSystem.initial : AssignmentSystem α := ⟨none, 0, [], false⟩

/-- Whether a sum leaves the `int64` range, so that `atomic.AddInt64` wraps it. -/
def overflowsInt64 (value : Int) : Bool := decide (value < -2 ^ 63 ∨ 2 ^ 63 ≤ value)

/-- The value of `incCurrentAssignmentCounter` after its increment:
`atomic.AddInt64(&cc.currentAssignment, 1) % int64(assignedHostsLength)`, with the wrap of the
addition and Go's truncating `%`. -/
def assignmentValue (currentAssignment : Int) (assignedHostsLength : Nat) : Int :=
  (Execute.wrapInt64 (currentAssignment + 1)).tmod assignedHostsLength

/-- A call that still holds the topology read lock. -/
def AssignmentCall.holdsReadLock : AssignmentCall α → Bool
  | .compensating _ => true
  | _ => false

/-- One step of the system. A call starts; takes the read lock and either fails on a nil list or
increments the counter; or, when its value was 0, brings the counter down and returns. A
refresh replaces the list by another non-empty one under the write lock, so only while no call
holds the read lock. Both additions to the counter wrap as `int64`s. -/
inductive AssignmentStep : AssignmentSystem α → AssignmentSystem α → Prop
  | start (system : AssignmentSystem α) :
      AssignmentStep system { system with calls := system.calls ++ [.started] }
  | notRetrieved (system : AssignmentSystem α) (before after : List (AssignmentCall α)) :
      system.assignedHosts = none → system.calls = before ++ .started :: after →
      AssignmentStep system
        { system with calls := before ++ .failed assignedHostsNotRetrieved :: after }
  | increment (system : AssignmentSystem α) (before after : List (AssignmentCall α))
      (hosts : List α) :
      system.assignedHosts = some hosts → system.calls = before ++ .started :: after →
      AssignmentStep system
        { system with
          currentAssignment := Execute.wrapInt64 (system.currentAssignment + 1)
          overflowed := system.overflowed || overflowsInt64 (system.currentAssignment + 1)
          calls := before ++
            (if assignmentValue system.currentAssignment hosts.length = 0 then .compensating hosts
              else .returned (assignmentValue system.currentAssignment hosts.length) hosts) ::
            after }
  | compensate (system : AssignmentSystem α) (before after : List (AssignmentCall α))
      (hosts : List α) :
      system.calls = before ++ .compensating hosts :: after →
      AssignmentStep system
        { system with
          currentAssignment := Execute.wrapInt64 (system.currentAssignment + -(hosts.length : Int))
          overflowed :=
            system.overflowed || overflowsInt64 (system.currentAssignment + -(hosts.length : Int))
          calls := before ++ .returned 0 hosts :: after }
  | refresh (system : AssignmentSystem α) (hosts : List α) :
      hosts ≠ [] → (∀ call ∈ system.calls, call.holdsReadLock = false) →
      AssignmentStep system { system with assignedHosts := some hosts }

/-- The systems reachable from a new control connection. -/
def AssignmentSystem.Reachable (system : AssignmentSystem α) : Prop :=
  Relation.ReflTransGen AssignmentStep AssignmentSystem.initial system

/-- The calls that still have to bring the counter down. -/
def pendingCompensations (calls : List (AssignmentCall α)) : Nat :=
  calls.countP AssignmentCall.holdsReadLock

/-- What a call in flight knows: a call that has to bring the counter down read the current
list, and a returned call's index is inside the list it read. -/
def AssignmentCall.Consistent (assignedHosts : Option (List α)) : AssignmentCall α → Prop
  | .compensating hosts => assignedHosts = some hosts
  | .returned assignment hosts => 0 ≤ assignment ∧ assignment < hosts.length
  | _ => True

/-- The invariant of the round robin: the list is never empty, and until an addition to the
counter wraps, the counter is never negative, it is at least the list's length for each call
that has still to bring it down, and every call in flight is consistent. -/
structure AssignmentInvariant (system : AssignmentSystem α) : Prop where
  nonempty : ∀ hosts, system.assignedHosts = some hosts → hosts ≠ []
  nonnegative : system.overflowed = false → 0 ≤ system.currentAssignment
  counter : system.overflowed = false → ∀ hosts, system.assignedHosts = some hosts →
    (pendingCompensations system.calls : Int) * hosts.length ≤ system.currentAssignment
  consistent : system.overflowed = false → ∀ call ∈ system.calls,
    call.Consistent system.assignedHosts

@[simp] theorem pendingCompensations_append (first second : List (AssignmentCall α)) :
    pendingCompensations (first ++ second) =
      pendingCompensations first + pendingCompensations second :=
  List.countP_append

@[simp] theorem pendingCompensations_cons (call : AssignmentCall α)
    (calls : List (AssignmentCall α)) :
    pendingCompensations (call :: calls) =
      pendingCompensations calls + if call.holdsReadLock then 1 else 0 :=
  List.countP_cons

@[simp] theorem pendingCompensations_nil : pendingCompensations ([] : List (AssignmentCall α)) = 0 :=
  rfl

/-- A call that does not hold the read lock knows nothing of the current list. -/
theorem AssignmentCall.consistent_of_not_holdsReadLock {call : AssignmentCall α}
    {assignedHosts assignedHosts' : Option (List α)} (unlocked : call.holdsReadLock = false)
    (consistent : call.Consistent assignedHosts) : call.Consistent assignedHosts' := by
  cases call with
  | compensating hosts => cases unlocked
  | started | failed _ => trivial
  | returned assignment hosts => exact consistent

/-- An addition inside the `int64` range does not wrap. -/
theorem wrapInt64_of_not_overflowsInt64 {value : Int} (inside : overflowsInt64 value = false) :
    Execute.wrapInt64 value = value := by
  simp only [overflowsInt64, decide_eq_false_iff_not, not_or, not_lt] at inside
  exact Execute.wrapInt64_of_lt inside.1 (by omega)

/-- Without a wrap, the value of an increment is the truncated remainder of the counter plus
one. -/
theorem assignmentValue_of_not_overflowsInt64 {currentAssignment : Int} (length : Nat)
    (inside : overflowsInt64 (currentAssignment + 1) = false) :
    assignmentValue currentAssignment length = (currentAssignment + 1).tmod length := by
  rw [assignmentValue, wrapInt64_of_not_overflowsInt64 inside]

/-- The value of an increment from a non-negative counter is an index of the list. -/
theorem tmod_mem_range {currentAssignment : Int} (nonnegative : 0 ≤ currentAssignment)
    {length : Nat} (positive : 0 < length) :
    0 ≤ (currentAssignment + 1).tmod length ∧ (currentAssignment + 1).tmod length < length :=
  ⟨Int.tmod_nonneg _ (by omega), Int.tmod_lt_of_pos _ (by omega)⟩

/-- An increment whose value is 0 leaves the counter a positive multiple of the length, so at
least one length above the multiple it had for the calls already pending. -/
theorem le_of_tmod_eq_zero {currentAssignment : Int} {pending length : Nat}
    (covered : (pending : Int) * length ≤ currentAssignment)
    (zero : (currentAssignment + 1).tmod length = 0) :
    ((pending + 1 : Nat) : Int) * length ≤ currentAssignment + 1 := by
  obtain ⟨multiple, isMultiple⟩ := Int.dvd_of_tmod_eq_zero zero
  rw [isMultiple]
  have length_nonneg : (0 : Int) ≤ length := by omega
  -- the new multiple lies strictly above `pending`, as the counter grew past `pending * length`
  have above : (pending : Int) < multiple := by
    by_contra notAbove
    have smaller : (length : Int) * multiple ≤ length * pending :=
      mul_le_mul_of_nonneg_left (by omega) length_nonneg
    rw [mul_comm (length : Int) pending] at smaller
    omega
  calc ((pending + 1 : Nat) : Int) * length = length * (pending + 1) := by push_cast; ring
    _ ≤ length * multiple := mul_le_mul_of_nonneg_left (by omega) length_nonneg

namespace AssignmentInvariant

variable {system : AssignmentSystem α}

/-- A call's increment keeps the invariant: either it wraps the counter, or it returns an index
of the list, or it joins the calls that have to bring the counter down, whose number the counter
still covers. -/
theorem increment (invariant : AssignmentInvariant system) {before after : List (AssignmentCall α)}
    {hosts : List α} (current : system.assignedHosts = some hosts)
    (split : system.calls = before ++ .started :: after) :
    AssignmentInvariant
      { system with
        currentAssignment := Execute.wrapInt64 (system.currentAssignment + 1)
        overflowed := system.overflowed || overflowsInt64 (system.currentAssignment + 1)
        calls := before ++
          (if assignmentValue system.currentAssignment hosts.length = 0 then .compensating hosts
            else .returned (assignmentValue system.currentAssignment hosts.length) hosts) ::
          after } := by
  refine ⟨invariant.nonempty, ?_, ?_, ?_⟩ <;> intro notOverflowed <;>
    obtain ⟨wasNot, inside⟩ := Bool.or_eq_false_iff.mp notOverflowed <;>
    simp only [wrapInt64_of_not_overflowsInt64 inside,
      assignmentValue_of_not_overflowsInt64 hosts.length inside]
  · exact le_trans (invariant.nonnegative wasNot) (by omega)
  · have covered := invariant.counter wasNot hosts current
    rw [split] at covered
    simp only [pendingCompensations_append, pendingCompensations_cons,
      AssignmentCall.holdsReadLock] at covered
    intro hosts' current'
    rw [current] at current'
    cases current'
    by_cases zero : (system.currentAssignment + 1).tmod hosts.length = 0
    · have raised := le_of_tmod_eq_zero covered zero
      simp only [zero, if_true, pendingCompensations_append, pendingCompensations_cons,
        AssignmentCall.holdsReadLock]
      push_cast at raised ⊢
      linarith
    · simp only [zero, if_false, pendingCompensations_append, pendingCompensations_cons,
        AssignmentCall.holdsReadLock]
      push_cast at covered ⊢
      linarith
  · have positive : 0 < hosts.length := List.length_pos_of_ne_nil (invariant.nonempty hosts current)
    have consistent := invariant.consistent wasNot
    rw [split] at consistent
    by_cases zero : (system.currentAssignment + 1).tmod hosts.length = 0
    · simp only [zero, if_true]
      exact Calls.forall_mem_replace consistent (fun _ known => known) current
    · simp only [zero, if_false]
      exact Calls.forall_mem_replace consistent (fun _ known => known)
        (tmod_mem_range (invariant.nonnegative wasNot) positive)

/-- A call that brings the counter down by the length returns index 0, and the counter still
covers the calls left; the subtraction cannot wrap, as the counter covers this call too. -/
theorem compensate (invariant : AssignmentInvariant system) {before after : List (AssignmentCall α)}
    {hosts : List α} (split : system.calls = before ++ .compensating hosts :: after) :
    AssignmentInvariant
      { system with
        currentAssignment := Execute.wrapInt64 (system.currentAssignment + -(hosts.length : Int))
        overflowed :=
          system.overflowed || overflowsInt64 (system.currentAssignment + -(hosts.length : Int))
        calls := before ++ .returned 0 hosts :: after } := by
  refine ⟨invariant.nonempty, ?_, ?_, ?_⟩ <;> intro notOverflowed <;>
    obtain ⟨wasNot, inside⟩ := Bool.or_eq_false_iff.mp notOverflowed <;>
    dsimp only
  all_goals
    have consistent := invariant.consistent wasNot
    rw [split] at consistent
    -- the call read the current list, as it holds the read lock
    have current : system.assignedHosts = some hosts :=
      consistent _ (List.mem_append_right _ List.mem_cons_self)
    have covered := invariant.counter wasNot hosts current
    rw [split] at covered
    simp only [pendingCompensations_append, pendingCompensations_cons,
      AssignmentCall.holdsReadLock] at covered
    push_cast at covered
    have lowered : ((pendingCompensations before + pendingCompensations after : Nat) : Int) *
        hosts.length ≤ system.currentAssignment + -(hosts.length : Int) := by
      push_cast
      linarith
  · have : (0 : Int) ≤ ((pendingCompensations before + pendingCompensations after : Nat) : Int) *
        hosts.length := by positivity
    rw [wrapInt64_of_not_overflowsInt64 inside]
    exact this.trans lowered
  · rw [wrapInt64_of_not_overflowsInt64 inside]
    intro hosts' current'
    rw [current] at current'
    cases current'
    simpa [AssignmentCall.holdsReadLock] using lowered
  · have positive : 0 < hosts.length := List.length_pos_of_ne_nil (invariant.nonempty hosts current)
    exact Calls.forall_mem_replace consistent (fun _ known => known) ⟨le_refl 0, by omega⟩

/-- Every step of the system keeps the invariant. -/
theorem step (invariant : AssignmentInvariant system) {next : AssignmentSystem α}
    (systemStep : AssignmentStep system next) : AssignmentInvariant next := by
  cases systemStep with
  | start =>
    refine ⟨invariant.nonempty, invariant.nonnegative, ?_, ?_⟩
    · intro notOverflowed hosts current
      simpa [AssignmentCall.holdsReadLock] using invariant.counter notOverflowed hosts current
    · intro notOverflowed call present
      rcases List.mem_append.mp present with old | isNew
      · exact invariant.consistent notOverflowed call old
      · rw [List.mem_singleton.mp isNew]
        trivial
  | notRetrieved before after noHosts split =>
    refine ⟨invariant.nonempty, invariant.nonnegative, ?_, ?_⟩
    · intro _ hosts current
      rw [noHosts] at current
      cases current
    · intro notOverflowed
      have consistent := invariant.consistent notOverflowed
      rw [split] at consistent
      exact Calls.forall_mem_replace consistent (fun _ known => known) trivial
  | increment before after hosts current split => exact invariant.increment current split
  | compensate before after hosts split => exact invariant.compensate split
  | refresh hosts nonempty unlocked =>
    -- no call holds the read lock, so none is left to bring the counter down
    have none_pending : pendingCompensations system.calls = 0 :=
      List.countP_eq_zero.mpr fun call present => by simp [unlocked call present]
    refine ⟨?_, invariant.nonnegative, ?_, ?_⟩
    · intro hosts' replaced
      cases replaced
      exact nonempty
    · intro notOverflowed hosts' _
      simpa [none_pending] using invariant.nonnegative notOverflowed
    · intro notOverflowed call present
      exact AssignmentCall.consistent_of_not_holdsReadLock (unlocked call present)
        (invariant.consistent notOverflowed call present)

theorem initial : AssignmentInvariant (AssignmentSystem.initial : AssignmentSystem α) :=
  ⟨fun _ absent => (by cases absent), fun _ => le_refl 0, fun _ _ absent => (by cases absent),
    fun _ _ present => (by cases present)⟩

/-- Every reachable system keeps the invariant. -/
theorem of_reachable (reachable : system.Reachable) : AssignmentInvariant system := by
  induction reachable with
  | refl => exact initial
  | tail _ systemStep inductionHypothesis => exact inductionHypothesis.step systemStep

end AssignmentInvariant

/-- `refreshHosts` installs a shuffle of the instance's hosts: a refresh of the system, as the
list is never empty. -/
theorem refresh_computeAssignedHosts (system : AssignmentSystem α) {index count : Nat}
    {orderedHosts shuffled : List α} (instance_lt : index < count) (nonempty : orderedHosts ≠ [])
    (shuffle : shuffled.Perm (computeAssignedHosts index count orderedHosts))
    (unlocked : ∀ call ∈ system.calls, call.holdsReadLock = false) :
    AssignmentStep system { system with assignedHosts := some shuffled } := by
  refine .refresh system shuffled ?_ unlocked
  rintro rfl
  exact computeAssignedHosts_ne_nil instance_lt nonempty shuffle.symm.eq_nil

/-- For a non-empty ordered host list and at least one instance: every instance's list is
non-empty and keeps the hosts' order, every host is in some list, and with at least `count`
hosts the lists split the hosts, so distinct hosts land in pairwise disjoint lists. In every
interleaving of `NextAssignedHost` calls with refreshes to non-empty lists, as long as no
addition to the `int64` counter has wrapped, the counter is never negative and every index
returned is inside the list it indexes. -/
theorem assignedHosts_cover_and_round_robin_in_range (count : Nat) (orderedHosts : List α)
    (positive : 0 < count) (nonempty : orderedHosts ≠ []) :
    (∀ index < count, computeAssignedHosts index count orderedHosts ≠ [] ∧
        (computeAssignedHosts index count orderedHosts).Sublist orderedHosts) ∧
      (∀ host ∈ orderedHosts, ∃ index < count,
        host ∈ computeAssignedHosts index count orderedHosts) ∧
      (count ≤ orderedHosts.length →
        ((List.range count).flatMap fun index =>
          computeAssignedHosts index count orderedHosts).Perm orderedHosts ∧
        (orderedHosts.Nodup → (List.range count).Pairwise fun first second =>
          (computeAssignedHosts first count orderedHosts).Disjoint
            (computeAssignedHosts second count orderedHosts))) ∧
      ∀ system : AssignmentSystem α, system.Reachable → system.overflowed = false →
        0 ≤ system.currentAssignment ∧
        ∀ assignment hosts, .returned assignment hosts ∈ system.calls →
          0 ≤ assignment ∧ assignment < hosts.length := by
  refine ⟨fun index instance_lt => ⟨computeAssignedHosts_ne_nil instance_lt nonempty,
    computeAssignedHosts_sublist index count orderedHosts⟩,
    fun host present => exists_computeAssignedHosts positive present, ?_, ?_⟩
  · intro enough
    have split := assignedHosts_perm positive enough
    refine ⟨split, fun distinct => ?_⟩
    exact (List.nodup_flatMap.mp (split.nodup_iff.mpr distinct)).2
  · intro system reachable notOverflowed
    have invariant := AssignmentInvariant.of_reachable reachable
    exact ⟨invariant.nonnegative notOverflowed, fun assignment hosts returned =>
      invariant.consistent notOverflowed (.returned assignment hosts) returned⟩

theorem assignedHosts_cover_and_round_robin_in_range_three_hosts :
    0 < 2 ∧ [10, 11, 12] ≠ [] ∧ computeAssignedHosts 1 2 [10, 11, 12] ≠ [] :=
  ⟨by decide, by decide,
    ((assignedHosts_cover_and_round_robin_in_range 2 [10, 11, 12] (by decide) (by decide)).1 1
      (by decide)).1⟩

/-! ## The counter wraps -/

/-- A single proxy instance is assigned every host. -/
theorem computeAssignedHosts_single (orderedHosts : List α) :
    computeAssignedHosts 0 1 orderedHosts = orderedHosts := by
  rw [computeAssignedHosts_eq, List.filter_eq_self.mpr (by simp [Nat.mod_one]), List.zipIdx_map_fst]

/-- No call holds the read lock, so a refresh may come. -/
def AssignmentSystem.Quiet (system : AssignmentSystem α) : Prop :=
  ∀ call ∈ system.calls, call.holdsReadLock = false

/-- A refresh of a single instance to `length` hosts, then one `NextAssignedHost` call whose
value is not 0: the counter goes up by one and nothing is left to bring it down. -/
theorem climb_step {system : AssignmentSystem Nat} (quiet : system.Quiet) {length : Nat}
    (positive : 0 < length) (notMultiple : ¬ (length : Int) ∣ system.currentAssignment + 1)
    (inside : overflowsInt64 (system.currentAssignment + 1) = false) :
    ∃ next, Relation.ReflTransGen AssignmentStep system next ∧ next.Quiet ∧
      next.overflowed = system.overflowed ∧
      next.currentAssignment = system.currentAssignment + 1 := by
  have nonempty : List.range length ≠ [] := by simpa using Nat.pos_iff_ne_zero.mp positive
  have refreshed := refresh_computeAssignedHosts system Nat.zero_lt_one nonempty
    (.refl (computeAssignedHosts 0 1 (List.range length))) quiet
  rw [computeAssignedHosts_single] at refreshed
  have started := AssignmentStep.start { system with assignedHosts := some (List.range length) }
  have incremented := AssignmentStep.increment
    { system with assignedHosts := some (List.range length), calls := system.calls ++ [.started] }
    system.calls [] (List.range length) rfl rfl
  -- the value is not 0, so the call returns at once
  have notZero : assignmentValue system.currentAssignment (List.range length).length ≠ 0 := by
    rw [assignmentValue_of_not_overflowsInt64 _ inside, List.length_range]
    exact fun zero => notMultiple (Int.dvd_of_tmod_eq_zero zero)
  refine ⟨_, .tail (.tail (.single refreshed) started) incremented, ?_, ?_, ?_⟩
  · intro call present
    simp only [notZero, if_false] at present
    rcases List.mem_append.mp present with old | isNew
    · exact quiet call old
    · rw [List.mem_singleton.mp isNew]
      rfl
  · simp [inside]
  · exact wrapInt64_of_not_overflowsInt64 inside

/-- Host list lengths whose least common multiple is beyond the `int64` range: the primes up to
53. -/
def drivingLengths : List Nat := [2, 3, 5, 7, 11, 13, 17, 19, 23, 29, 31, 37, 41, 43, 47, 53]

theorem drivingLengths_pos : ∀ length ∈ drivingLengths, 0 < length := by
  decide

/-- Below `2^63` every counter value plus one is off a multiple of one of the lengths. -/
theorem exists_drivingLength_not_dvd {n : Nat} (small : n + 1 < 2 ^ 63) :
    ∃ length ∈ drivingLengths, ¬ length ∣ n + 1 := by
  by_contra allDivide
  push Not at allDivide
  have common : (drivingLengths : Multiset Nat).lcm ∣ n + 1 :=
    Multiset.lcm_dvd.mpr fun length present => allDivide length present
  have large : 2 ^ 63 < (drivingLengths : Multiset Nat).lcm := by decide
  have bounded := Nat.le_of_dvd (Nat.succ_pos n) common
  omega

/-- Refreshes to lists of the driving lengths, each followed by one call, raise the counter from 0
to any value below `2^63` without a wrap. The induction is on that value. -/
theorem reachable_counter : ∀ n : Nat, n < 2 ^ 63 →
    ∃ system : AssignmentSystem Nat, system.Reachable ∧ system.Quiet ∧
      system.overflowed = false ∧ system.currentAssignment = n := by
  intro n
  induction n with
  | zero => exact fun _ => ⟨.initial, .refl, fun _ absent => (by cases absent), rfl, rfl⟩
  | succ n inductionHypothesis =>
    intro small
    obtain ⟨system, reachable, quiet, notOverflowed, counter⟩ := inductionHypothesis (by omega)
    obtain ⟨length, driving, notMultiple⟩ := exists_drivingLength_not_dvd small
    have positive : 0 < length := drivingLengths_pos length driving
    have inside : overflowsInt64 (system.currentAssignment + 1) = false := by
      simp only [overflowsInt64, counter, decide_eq_false_iff_not]
      omega
    obtain ⟨next, steps, nextQuiet, sameOverflowed, raised⟩ := climb_step quiet positive
      (by rw [counter]; exact_mod_cast notMultiple) inside
    exact ⟨next, reachable.trans steps, nextQuiet, sameOverflowed.trans notOverflowed,
      by rw [raised, counter]; push_cast; rfl⟩

/-- The counter can reach the top of the `int64` range: refreshes that change the list's length
move it up past each multiple of a length that is not a multiple of the next one, and the
compensation of `incCurrentAssignmentCounter` never brings it back. One more call then wraps it
to `-2^63`, and with three hosts `NextAssignedHost` returns the index -2, out of range. -/
theorem nextAssignedHost_returns_negative_index_after_wrap :
    ∃ system : AssignmentSystem Nat, system.Reachable ∧ system.overflowed = true ∧
      system.currentAssignment = -2 ^ 63 ∧ .returned (-2) [0, 1, 2] ∈ system.calls := by
  obtain ⟨system, reachable, quiet, -, counter⟩ := reachable_counter (2 ^ 63 - 1) (by decide)
  have refreshed := refresh_computeAssignedHosts system Nat.zero_lt_one (List.cons_ne_nil 0 [1, 2])
    (.refl (computeAssignedHosts 0 1 [0, 1, 2])) quiet
  rw [computeAssignedHosts_single] at refreshed
  have started := AssignmentStep.start { system with assignedHosts := some [0, 1, 2] }
  have incremented := AssignmentStep.increment
    { system with assignedHosts := some [0, 1, 2], calls := system.calls ++ [.started] }
    system.calls [] [0, 1, 2] rfl rfl
  have wrapped : Execute.wrapInt64 (system.currentAssignment + 1) = -2 ^ 63 := by
    rw [counter]
    decide
  have negative : assignmentValue system.currentAssignment [0, 1, 2].length = -2 := by
    rw [assignmentValue, wrapped]
    decide
  have overflow : overflowsInt64 (system.currentAssignment + 1) = true := by
    rw [counter]
    decide
  refine ⟨_, (reachable.tail refreshed).tail started |>.tail incremented, ?_, wrapped, ?_⟩
  · simp [overflow]
  · exact List.mem_append_right _ (List.mem_singleton.mpr (by rw [negative]; rfl))

end ZdmProxy.Control
