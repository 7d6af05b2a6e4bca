import ZdmProxy.Control.Refresh

/-!
# The control connection's topology

`RefreshHosts` runs from two goroutines of the control connection: the loop that refreshes on
topology events and the loop that reopens the connection. Each reads the datacenter under the
read lock of `topologyLock`, computes its result, and installs it under the write lock, setting
the datacenter only if none was set before. The model is a step relation on the fields the lock
protects and the refreshes in flight, over which every interleaving is a run.

The results: once the datacenter is set no run changes it, and a refresh that read it installs
hosts of it only (`topology_datacenter_stable`); and in every reachable state the installed fields
are those of one refresh, with the properties `refreshHosts` gives them
(`topology_installed_consistent`).
-/

namespace ZdmProxy.Control

open ZdmProxy.Routing ZdmProxy.Conn

variable {β : Type}

/-! ## Refreshes in flight -/

/-- What every result of a refresh satisfies, on the datacenter it read: its sorted hosts are
the map's hosts of its datacenter, strictly ordered and not none, its datacenter is the one read if
any, its assigned hosts are the instance's share of the sorted hosts, and its virtual hosts are
computed from them. -/
structure RefreshResult.Valid (config : RefreshConfig β) (readDatacenter : String)
    (result : RefreshResult β) : Prop where
  nonempty : result.orderedHosts ≠ []
  sorted : result.orderedHosts.Pairwise fun first second => hostLess first second
  mem_iff : ∀ host, host ∈ result.orderedHosts ↔
    result.hostsById.lookup host.hostId = some host ∧ host.datacenter = result.datacenter
  datacenter : readDatacenter ≠ "" → result.datacenter = readDatacenter
  assigned : result.assignedHosts.Perm (computeAssignedHosts config.topologyConfig.index
    config.topologyConfig.addresses.length result.orderedHosts)
  virtual : (if config.virtualizationEnabled then
    computeVirtualHosts config.topologyConfig result.orderedHosts else pure []) = .ok result.virtualHosts

/-- A `RefreshHosts` call waiting for the write lock: the datacenter it read under the read lock
and the result it computed on it, for some answers of the two queries and some choices of the
runtime. -/
structure PendingRefresh (config : RefreshConfig β) where
  readDatacenter : String
  result : RefreshResult β
  computed : ∃ localQuery peersQuery ccEndpoint iterate shuffle, Enumerates iterate ∧
    Shuffles shuffle ∧
    refreshHosts config localQuery peersQuery ccEndpoint readDatacenter iterate shuffle =
      .ok (.ok result)

/-- Every refresh computes a valid result. -/
theorem PendingRefresh.valid {config : RefreshConfig β} (refresh : PendingRefresh config) :
    refresh.result.Valid config refresh.readDatacenter := by
  obtain ⟨localQuery, peersQuery, ccEndpoint, iterate, shuffle, enumerates, shuffles, refreshed⟩ :=
    refresh.computed
  obtain ⟨_, _, _, _, chosen, nonempty, mem_iff, sorted⟩ :=
    refreshHosts_orderedHosts enumerates refreshed
  obtain ⟨_, _, _, _, _, _, _, _, assigned, virtual⟩ := refreshHosts_eq_ok_ok refreshed
  exact ⟨nonempty, sorted, mem_iff, fun set => chosen.trans (chosenDatacenter_of_ne set ..),
    assigned ▸ shuffles _, virtual⟩

/-- The fields of `ControlConn` that `RefreshHosts` writes under `topologyLock`, none where Go has
nil. -/
structure TopologyState (β : Type) where
  datacenter : String
  orderedHostsInLocalDc : Option (List TopologyHost)
  hostsInLocalDcById : Option HostsById
  assignedHosts : Option (List TopologyHost)
  systemLocalColumnData : Option (List (String × OptionalColumn))
  systemPeersColumnNames : Option (String → Bool)
  virtualHosts : Option (List (VirtualHost TopologyHost β))

/-- `NewControlConn`: no datacenter, an empty host map, the rest nil. -/
def TopologyState.initial : TopologyState β :=
  ⟨"", none, some ∅, none, none, none, none⟩

/-- The end of `RefreshHosts`, under the write lock: the datacenter is set only if it was not,
the other fields take the refresh's values, and the hosts of the old map whose ids the new one
lacks are reported removed to the observers, in the old map's iteration order. -/
def commitRefresh (iterate : HostsById → List (Σ _ : HostUuid, TopologyHost))
    (state : TopologyState β) (result : RefreshResult β) : TopologyState β × List TopologyHost :=
  let datacenter := if state.datacenter == "" then result.datacenter else state.datacenter
  let removedHosts := match state.hostsInLocalDcById with
    | some oldHosts =>
      ((iterate oldHosts).filter fun old => (result.hostsById.lookup old.1).isNone).map Sigma.snd
    | none => []
  ({ datacenter, orderedHostsInLocalDc := some result.orderedHosts,
      hostsInLocalDcById := some result.hostsById, assignedHosts := some result.assignedHosts,
      systemLocalColumnData := some result.systemLocalColumnData,
      systemPeersColumnNames := result.peersColumns, virtualHosts := some result.virtualHosts },
    removedHosts)

/-- The state holds the fields of one result. -/
def TopologyState.Installs (state : TopologyState β) (result : RefreshResult β) : Prop :=
  state.orderedHostsInLocalDc = some result.orderedHosts ∧
    state.hostsInLocalDcById = some result.hostsById ∧
    state.assignedHosts = some result.assignedHosts ∧
    state.systemLocalColumnData = some result.systemLocalColumnData ∧
    state.systemPeersColumnNames = result.peersColumns ∧
    state.virtualHosts = some result.virtualHosts

theorem installs_commitRefresh (iterate : HostsById → List (Σ _ : HostUuid, TopologyHost))
    (state : TopologyState β) (result : RefreshResult β) :
    (commitRefresh iterate state result).1.Installs result :=
  ⟨rfl, rfl, rfl, rfl, rfl, rfl⟩

theorem datacenter_commitRefresh (iterate : HostsById → List (Σ _ : HostUuid, TopologyHost))
    (state : TopologyState β) (result : RefreshResult β) :
    (commitRefresh iterate state result).1.datacenter =
      if state.datacenter = "" then result.datacenter else state.datacenter := by
  simp [commitRefresh]

/-- The control connection's topology and the refreshes in flight. -/
structure ControlTopology (config : RefreshConfig β) where
  state : TopologyState β
  pending : List (PendingRefresh config)

/-- A new control connection. -/
def ControlTopology.initial {config : RefreshConfig β} : ControlTopology config :=
  ⟨TopologyState.initial, []⟩

/-- One step: a refresh reads the datacenter under the read lock and computes its result on it,
or a refresh in flight takes the write lock and installs its result. A refresh that fails
changes nothing and is no step. -/
inductive TopologyStep (config : RefreshConfig β) :
    ControlTopology config → ControlTopology config → Prop
  | start (system : ControlTopology config) (refresh : PendingRefresh config) :
      refresh.readDatacenter = system.state.datacenter →
      TopologyStep config system { system with pending := system.pending ++ [refresh] }
  | commit (system : ControlTopology config) (before after : List (PendingRefresh config))
      (refresh : PendingRefresh config) (iterate : HostsById → List (Σ _ : HostUuid, TopologyHost)) :
      Enumerates iterate → system.pending = before ++ refresh :: after →
      TopologyStep config system
        ⟨(commitRefresh iterate system.state refresh.result).1, before ++ after⟩

/-- The states reachable from a new control connection. -/
def ControlTopology.Reachable {config : RefreshConfig β} (system : ControlTopology config) : Prop :=
  Relation.ReflTransGen (TopologyStep config) ControlTopology.initial system

/-- The invariant: a refresh in flight read no datacenter or the current one, and the installed
fields are none or those of one refresh. -/
structure TopologyInvariant {config : RefreshConfig β} (system : ControlTopology config) : Prop where
  readCurrent : ∀ refresh ∈ system.pending,
    refresh.readDatacenter = "" ∨ refresh.readDatacenter = system.state.datacenter
  installed : system.state.orderedHostsInLocalDc = none ∨
    ∃ refresh : PendingRefresh config, system.state.Installs refresh.result

namespace TopologyInvariant

variable {config : RefreshConfig β} {system : ControlTopology config}

/-- A step keeps the datacenter once it is set. -/
theorem datacenter_step {next : ControlTopology config} (systemStep : TopologyStep config system next)
    (set : system.state.datacenter ≠ "") : next.state.datacenter = system.state.datacenter := by
  cases systemStep with
  | start refresh _ => rfl
  | commit before after refresh iterate _ _ =>
    rw [datacenter_commitRefresh, if_neg set]

theorem step (invariant : TopologyInvariant system) {next : ControlTopology config}
    (systemStep : TopologyStep config system next) : TopologyInvariant next := by
  cases systemStep with
  | start refresh readNow =>
    refine ⟨?_, invariant.installed⟩
    intro refresh' present
    rcases List.mem_append.mp present with old | isNew
    · exact invariant.readCurrent refresh' old
    · rw [List.mem_singleton.mp isNew]
      exact .inr readNow
  | commit before after refresh iterate _ split =>
    refine ⟨?_, .inr ⟨refresh, installs_commitRefresh iterate system.state refresh.result⟩⟩
    intro refresh' present
    have stillPending : refresh' ∈ system.pending := by
      rw [split]
      rcases List.mem_append.mp present with old | later
      · exact List.mem_append_left _ old
      · exact List.mem_append_right _ (List.mem_cons_of_mem _ later)
    -- an unset datacenter stays unset for what read it, a set one does not change
    rw [datacenter_commitRefresh]
    by_cases unset : system.state.datacenter = ""
    · rw [if_pos unset]
      rcases invariant.readCurrent refresh' stillPending with readNone | readCurrent
      · exact .inl readNone
      · exact .inl (readCurrent.trans unset)
    · rw [if_neg unset]
      exact invariant.readCurrent refresh' stillPending

theorem initial : TopologyInvariant (ControlTopology.initial : ControlTopology config) :=
  ⟨fun _ absent => (by cases absent), .inl rfl⟩

theorem of_reachable (reachable : system.Reachable) : TopologyInvariant system := by
  induction reachable with
  | refl => exact initial
  | tail _ systemStep inductionHypothesis => exact inductionHypothesis.step systemStep

end TopologyInvariant

section Runs

variable {config : RefreshConfig β} {system : ControlTopology config}

/-- Along every run, a datacenter once set stays. -/
theorem datacenter_run {later : ControlTopology config}
    (run : Relation.ReflTransGen (TopologyStep config) system later)
    (set : system.state.datacenter ≠ "") : later.state.datacenter = system.state.datacenter := by
  induction run with
  | refl => rfl
  | tail _ systemStep inductionHypothesis =>
    rw [TopologyInvariant.datacenter_step systemStep (inductionHypothesis ▸ set), inductionHypothesis]

/-- Installed virtual hosts come from a refresh: the state holds the fields of one result. -/
theorem installs_of_virtualHosts (reachable : system.Reachable)
    {virtualHosts : List (VirtualHost TopologyHost β)}
    (installed : system.state.virtualHosts = some virtualHosts) :
    ∃ refresh : PendingRefresh config, system.state.Installs refresh.result := by
  induction reachable generalizing virtualHosts with
  | refl => cases installed
  | tail _ systemStep inductionHypothesis =>
    cases systemStep with
    | start refresh _ => exact inductionHypothesis installed
    | commit before after refresh iterate _ _ =>
      exact ⟨refresh, installs_commitRefresh iterate _ refresh.result⟩

/-- Over every interleaving of refreshes: once the datacenter is set, no run changes it; and a
refresh in flight that read a datacenter read the current one, so that installing it keeps the
datacenter and installs a non-empty list of hosts all of that datacenter.

A refresh that read no datacenter may install the hosts of another one than the datacenter
another refresh set meanwhile; the premise excludes it.

Proof: `datacenter_run` for the runs; for a refresh in flight, the invariant's `readCurrent`
names the datacenter it read, and `PendingRefresh.valid` what it computed on it. -/
theorem topology_datacenter_stable (reachable : system.Reachable) :
    (∀ later, Relation.ReflTransGen (TopologyStep config) system later →
      system.state.datacenter ≠ "" → later.state.datacenter = system.state.datacenter) ∧
    ∀ refresh ∈ system.pending, refresh.readDatacenter ≠ "" →
      refresh.readDatacenter = system.state.datacenter ∧
      ∀ iterate, (commitRefresh iterate system.state refresh.result).1.datacenter =
          system.state.datacenter ∧
        ∃ hosts, (commitRefresh iterate system.state refresh.result).1.orderedHostsInLocalDc =
          some hosts ∧ hosts ≠ [] ∧ ∀ host ∈ hosts, host.datacenter = system.state.datacenter := by
  refine ⟨fun later run set => datacenter_run run set, ?_⟩
  intro refresh present readSome
  have readNow : refresh.readDatacenter = system.state.datacenter :=
    ((TopologyInvariant.of_reachable reachable).readCurrent refresh present).resolve_left readSome
  have valid := refresh.valid
  have chosen : refresh.result.datacenter = system.state.datacenter :=
    (valid.datacenter readSome).trans readNow
  refine ⟨readNow, fun iterate => ⟨?_, refresh.result.orderedHosts, rfl, valid.nonempty, ?_⟩⟩
  · rw [datacenter_commitRefresh, if_neg (readNow ▸ readSome)]
  · intro host present
    exact ((valid.mem_iff host).mp present).2.trans chosen

/-- A refresh of the sample cluster on no datacenter, installed: the datacenter is `dc1`. -/
theorem twoDatacenters_installed :
    ∃ system : ControlTopology twoProxiesConfig, system.Reachable ∧ system.pending = [] ∧
      system.state.datacenter = "dc1" ∧ system.state.orderedHostsInLocalDc ≠ none := by
  obtain ⟨first, refreshed, chosen⟩ := twoDatacenters_refreshes (.inl rfl)
  let refresh : PendingRefresh twoProxiesConfig :=
    ⟨"", first, _, _, _, _, _, enumerates_entries, fun _ => List.Perm.refl _, refreshed⟩
  have started := TopologyStep.start ControlTopology.initial refresh rfl
  have committed := TopologyStep.commit ⟨TopologyState.initial, [refresh]⟩ [] [] refresh
    AList.entries enumerates_entries rfl
  refine ⟨_, (Relation.ReflTransGen.single started).tail committed, rfl, ?_, nofun⟩
  rw [datacenter_commitRefresh]
  exact (if_pos rfl).trans chosen

theorem topology_datacenter_stable_twoDatacenters :
    ∃ system : ControlTopology twoProxiesConfig, system.Reachable ∧ system.pending ≠ [] ∧
      (∀ later, Relation.ReflTransGen (TopologyStep twoProxiesConfig) system later →
        system.state.datacenter ≠ "" → later.state.datacenter = system.state.datacenter) ∧
      ∀ refresh ∈ system.pending, refresh.readDatacenter ≠ "" →
        refresh.readDatacenter = system.state.datacenter ∧
        ∀ iterate, (commitRefresh iterate system.state refresh.result).1.datacenter =
            system.state.datacenter ∧
          ∃ hosts, (commitRefresh iterate system.state refresh.result).1.orderedHostsInLocalDc =
            some hosts ∧ hosts ≠ [] ∧ ∀ host ∈ hosts, host.datacenter = system.state.datacenter := by
  obtain ⟨installed, reachable, _, set, _⟩ := twoDatacenters_installed
  obtain ⟨second, refreshed, _⟩ := twoDatacenters_refreshes (.inr rfl)
  let refresh : PendingRefresh twoProxiesConfig :=
    ⟨"dc1", second, _, _, _, _, _, enumerates_entries, fun _ => List.Perm.refl _, refreshed⟩
  have started := TopologyStep.start installed refresh set.symm
  have reachable' := reachable.tail started
  exact ⟨_, reachable', by simp, topology_datacenter_stable reachable'⟩

/-- In every reachable state, the installed topology is that of one refresh: its sorted hosts
are not empty, strictly ordered by rack and host id, all of one datacenter, and exactly the
hosts of that datacenter in the installed map; the assigned hosts are the instance's share of
them, and not empty, as the round robin of `NextAssignedHost` needs; the virtual hosts are
computed from them. Refreshes never mix their fields, whatever their interleaving.

Proof: the invariant's `installed` names the refresh whose fields the state holds, and
`PendingRefresh.valid` says what they satisfy. -/
theorem topology_installed_consistent (reachable : system.Reachable) {hosts : List TopologyHost}
    (installed : system.state.orderedHostsInLocalDc = some hosts) :
    ∃ datacenter hostsById assignedHosts virtualHosts,
      system.state.hostsInLocalDcById = some hostsById ∧
      system.state.assignedHosts = some assignedHosts ∧
      system.state.virtualHosts = some virtualHosts ∧
      hosts ≠ [] ∧ hosts.Pairwise (fun first second => hostLess first second) ∧
      (∀ host, host ∈ hosts ↔ hostsById.lookup host.hostId = some host ∧ host.datacenter = datacenter) ∧
      assignedHosts.Perm (computeAssignedHosts config.topologyConfig.index
        config.topologyConfig.addresses.length hosts) ∧ assignedHosts ≠ [] ∧
      (if config.virtualizationEnabled then
        computeVirtualHosts config.topologyConfig hosts else pure []) = .ok virtualHosts := by
  rcases (TopologyInvariant.of_reachable reachable).installed with none | ⟨refresh, installs⟩
  · rw [none] at installed
    cases installed
  obtain ⟨ordered, byId, assigned, _, _, virtual⟩ := installs
  rw [ordered] at installed
  cases installed
  have valid := refresh.valid
  refine ⟨refresh.result.datacenter, _, _, _, byId, assigned, virtual, valid.nonempty, valid.sorted,
    valid.mem_iff, valid.assigned, ?_, valid.virtual⟩
  exact fun empty => computeAssignedHosts_ne_nil config.topologyConfig.index_lt valid.nonempty
    (List.Perm.eq_nil (empty ▸ valid.assigned.symm))

theorem topology_installed_consistent_twoDatacenters :
    ∃ (system : ControlTopology twoProxiesConfig) (hosts : List TopologyHost), system.Reachable ∧
      system.state.orderedHostsInLocalDc = some hosts ∧
      ∃ datacenter hostsById assignedHosts virtualHosts,
        system.state.hostsInLocalDcById = some hostsById ∧
        system.state.assignedHosts = some assignedHosts ∧
        system.state.virtualHosts = some virtualHosts ∧
        hosts ≠ [] ∧ hosts.Pairwise (fun first second => hostLess first second) ∧
        (∀ host, host ∈ hosts ↔
          hostsById.lookup host.hostId = some host ∧ host.datacenter = datacenter) ∧
        assignedHosts.Perm (computeAssignedHosts twoProxiesConfig.topologyConfig.index
          twoProxiesConfig.topologyConfig.addresses.length hosts) ∧ assignedHosts ≠ [] ∧
        (if twoProxiesConfig.virtualizationEnabled then
          computeVirtualHosts twoProxiesConfig.topologyConfig hosts else pure []) =
          .ok virtualHosts := by
  obtain ⟨installed, reachable, _, _, hostsInstalled⟩ := twoDatacenters_installed
  obtain ⟨hosts, some⟩ := Option.ne_none_iff_exists'.mp hostsInstalled
  exact ⟨installed, hosts, reachable, some, topology_installed_consistent reachable some⟩

end Runs

end ZdmProxy.Control
