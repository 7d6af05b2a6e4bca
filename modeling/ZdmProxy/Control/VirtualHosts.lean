import ZdmProxy.Execute.TimeUuid

/-!
# The virtual token ring

With a proxy topology, the proxies present themselves to clients as a cluster of their own:
each of the `count` configured proxy addresses is a virtual host with `numTokens` tokens of the
Murmur3 ring, backed by one of the real hosts (`computeVirtualHosts`, `controlconn.go`). The
configuration is checked by `ParseTopologyConfig` (`config.go`): the index must be an address's
and the token count between 1 and 256.

With `a = 2^64 / (numTokens * count)`, the proxy `i`'s `t`-th token is `a * (t * count + i) - 2^63`,
computed on `big.Int` and converted by `Int64()`. The token of position `b = t * count + i` is
written `ringToken`; the list of all positions in order with their owners `b % count` is
`tokenRing`.

Every token fits an `int64`, so the conversion never wraps (`virtualToken_eq`). The tokens
grow with `b` when `count * numTokens ≤ 2^64`, which every configuration meets whose addresses fit
in memory: sorted, the proxies' tokens are the ring (`ownedTokens_perm`), owners cycle through the
proxies, and every range between two tokens is `a` wide but the one that wraps around, which also
holds the remainder `2^64 % (numTokens * count)`.
-/

namespace ZdmProxy.Control

open ZdmProxy.Execute

variable {α β : Type}

/-- `common.TopologyConfig` as `ParseTopologyConfig` returns it; `Count` is the number of
addresses. -/
structure TopologyConfig (β : Type) where
  addresses : List β
  index : Nat
  numTokens : Nat
  index_lt : index < addresses.length
  numTokens_pos : 0 < numTokens
  numTokens_le : numTokens ≤ 256

/-- The numeric checks of `ParseTopologyConfig`, on the addresses it has parsed. -/
def parseTopologyConfig (addresses : List β) (proxyIndex proxyTopologyNumTokens : Int) :
    Except String (TopologyConfig β) :=
  let proxyInstanceCount := addresses.length
  if indexInvalid : proxyIndex < 0 ∨ proxyIndex ≥ proxyInstanceCount then
    .error s!"invalid ZDM_PROXY_TOPOLOGY_INDEX and ZDM_PROXY_TOPOLOGY_ADDRESSES values; proxy index ({proxyIndex}) must be less than length of addresses ({proxyInstanceCount}) and non negative"
  else if tokensInvalid : proxyTopologyNumTokens ≤ 0 ∨ proxyTopologyNumTokens > 256 then
    .error s!"invalid ZDM_PROXY_TOPOLOGY_NUM_TOKENS ({proxyTopologyNumTokens}), it must be positive and equal or less than 256"
  else
    .ok ⟨addresses, proxyIndex.toNat, proxyTopologyNumTokens.toNat, by omega, by omega, by omega⟩

/-- A `VirtualHost`: its tokens, which the code formats with `%d`, its proxy address and the real
host behind it. -/
structure VirtualHost (α β : Type) where
  tokens : List Int
  addr : β
  host : α

/-- `computeAssignedHostsForVirtualization`: the real host behind each of `count` virtual hosts.
With no real host, `i % hostsCount` divides by zero. -/
def computeAssignedHostsForVirtualization (count : Nat) (orderedHosts : List α) :
    Except String (List α) :=
  (List.range count).mapM fun i =>
    match orderedHosts[i % orderedHosts.length]? with
    | some host => .ok host
    | none => .error "runtime error: integer divide by zero"

/-- The proxy `i`'s `t`-th token: `a * b - 2^63` with `a = 2^64 / (numTokens * count)` and
`b = t * count + i`, converted by `Int64()`. -/
def virtualToken (numTokens count i t : Nat) : Int :=
  wrapInt64 (((2 ^ 64 / (numTokens * count) * (t * count + i) : Nat) : Int) - 2 ^ 63)

/-- `computeVirtualHosts`. -/
def computeVirtualHosts (config : TopologyConfig β) (orderedHosts : List α) :
    Except String (List (VirtualHost α β)) := do
  let proxyAddressesCount := config.addresses.length
  let assignedHostsForVirtualization ←
    computeAssignedHostsForVirtualization proxyAddressesCount orderedHosts
  return (config.addresses.zip assignedHostsForVirtualization).zipIdx.map fun ((addr, host), i) =>
    { tokens := (List.range config.numTokens).map (virtualToken config.numTokens
        proxyAddressesCount i)
      addr
      host }

/-! ## The ring -/

/-- The width of the ranges between consecutive tokens, `2^64 / (numTokens * count)`. -/
def tokenWidth (count numTokens : Nat) : Nat := 2 ^ 64 / (numTokens * count)

/-- The token of ring position `b`, without the `int64` conversion. -/
def ringToken (count numTokens b : Nat) : Int := ((tokenWidth count numTokens * b : Nat) : Int) - 2 ^ 63

/-- All ring positions in order, each with its owner `b % count` and its token. -/
def tokenRing (count numTokens : Nat) : List (Nat × Int) :=
  (List.range (count * numTokens)).map fun b => (b % count, ringToken count numTokens b)

/-- Each virtual host's tokens, tagged with its position among the virtual hosts. -/
def ownedTokens (tokenLists : List (List Int)) : List (Nat × Int) :=
  tokenLists.zipIdx.flatMap fun (tokens, i) => tokens.map fun token => (i, token)

/-- The ring positions of the proxies' tokens, proxy after proxy: `t * count + i` for the proxy
`i`'s `t`-th token. -/
def virtualIndices (count numTokens : Nat) : List Nat :=
  (List.range count).flatMap fun i => (List.range numTokens).map fun t => t * count + i

/-! ## The configuration -/

/-- `ParseTopologyConfig` accepts exactly an index among the addresses and a token count between
1 and 256. -/
theorem parseTopologyConfig_ok_iff (addresses : List β) (proxyIndex proxyTopologyNumTokens : Int) :
    (∃ config, parseTopologyConfig addresses proxyIndex proxyTopologyNumTokens = .ok config) ↔
      (0 ≤ proxyIndex ∧ proxyIndex < addresses.length) ∧
        (0 < proxyTopologyNumTokens ∧ proxyTopologyNumTokens ≤ 256) := by
  unfold parseTopologyConfig
  by_cases indexInvalid : proxyIndex < 0 ∨ proxyIndex ≥ addresses.length
  · simp only [indexInvalid, dite_true]
    constructor
    · rintro ⟨_, impossible⟩
      cases impossible
    · omega
  · by_cases tokensInvalid : proxyTopologyNumTokens ≤ 0 ∨ proxyTopologyNumTokens > 256
    · simp only [indexInvalid, tokensInvalid, dite_true, dite_false]
      constructor
      · rintro ⟨_, impossible⟩
        cases impossible
      · omega
    · simp only [indexInvalid, tokensInvalid, dite_false]
      constructor
      · intro _
        omega
      · intro _
        exact ⟨_, rfl⟩

/-! ## Hosts and tokens of the virtual hosts -/

/-- With a real host, the virtual host `i` is backed by the host `i % len(hosts)`. -/
theorem computeAssignedHostsForVirtualization_eq (count : Nat) {orderedHosts : List α}
    (nonempty : orderedHosts ≠ []) :
    computeAssignedHostsForVirtualization count orderedHosts =
      .ok ((List.range count).map fun i => orderedHosts.get
        ⟨i % orderedHosts.length, Nat.mod_lt _ (List.length_pos_of_ne_nil nonempty)⟩) := by
  have positive := List.length_pos_of_ne_nil nonempty
  unfold computeAssignedHostsForVirtualization
  show _ = pure _
  rw [← List.mapM_pure]
  congr
  funext i
  rw [List.getElem?_eq_getElem (Nat.mod_lt i positive)]
  rfl

/-- Every token fits an `int64`: `a * b < 2^64` for every position below `count * numTokens`. -/
theorem tokenWidth_mul_lt {count numTokens b : Nat} (inside : b < count * numTokens) :
    tokenWidth count numTokens * b < 2 ^ 64 := by
  have whole : tokenWidth count numTokens * (numTokens * count) ≤ 2 ^ 64 :=
    Nat.div_mul_le_self _ _
  rcases Nat.eq_zero_or_pos (tokenWidth count numTokens) with zero | positive
  · rw [zero, Nat.zero_mul]
    norm_num
  · calc tokenWidth count numTokens * b < tokenWidth count numTokens * (numTokens * count) :=
          Nat.mul_lt_mul_of_pos_left (by rw [Nat.mul_comm numTokens]; exact inside) positive
      _ ≤ 2 ^ 64 := whole

/-- The conversion by `Int64()` never wraps. -/
theorem virtualToken_eq {numTokens count i t : Nat} (inside : t * count + i < count * numTokens) :
    virtualToken numTokens count i t = ringToken count numTokens (t * count + i) := by
  have fits := tokenWidth_mul_lt inside
  unfold virtualToken ringToken tokenWidth at *
  apply wrapInt64_of_lt <;> omega

/-- A position of the proxy `i`'s tokens. -/
theorem lt_of_mem_range {count numTokens i t : Nat} (proxy_lt : i < count) (token_lt : t < numTokens) :
    t * count + i < count * numTokens := by
  calc t * count + i < t * count + count := by omega
    _ = (t + 1) * count := (Nat.succ_mul t count).symm
    _ ≤ numTokens * count := Nat.mul_le_mul_right count token_lt
    _ = count * numTokens := Nat.mul_comm _ _

/-- With a real host, `computeVirtualHosts` succeeds: one virtual host per address, the proxy
`i`'s with its tokens and the real host `i % len(hosts)`. -/
theorem computeVirtualHosts_ok (config : TopologyConfig β) {orderedHosts : List α}
    (nonempty : orderedHosts ≠ []) :
    ∃ virtualHosts, computeVirtualHosts config orderedHosts = .ok virtualHosts ∧
      virtualHosts.map VirtualHost.tokens = (List.range config.addresses.length).map (fun i =>
        (List.range config.numTokens).map (virtualToken config.numTokens config.addresses.length i)) ∧
      virtualHosts.map VirtualHost.addr = config.addresses ∧
      virtualHosts.map VirtualHost.host = (List.range config.addresses.length).map fun i =>
        orderedHosts.get
          ⟨i % orderedHosts.length, Nat.mod_lt _ (List.length_pos_of_ne_nil nonempty)⟩ := by
  refine ⟨_, by rw [computeVirtualHosts, computeAssignedHostsForVirtualization_eq _ nonempty]; rfl,
    ?_, ?_, ?_⟩ <;>
  · apply List.ext_getElem
    · simp
    · intro position _ _
      simp [List.getElem_zipIdx, List.getElem_zip]

/-- With no real host, `computeVirtualHosts` divides by zero: a result has a host behind it. -/
theorem ne_nil_of_computeVirtualHosts {config : TopologyConfig β} {orderedHosts : List α}
    {virtualHosts : List (VirtualHost α β)}
    (computed : computeVirtualHosts config orderedHosts = .ok virtualHosts) : orderedHosts ≠ [] := by
  rintro rfl
  obtain ⟨first, rest, addresses⟩ := List.exists_cons_of_length_pos
    (Nat.lt_of_le_of_lt (Nat.zero_le _) config.index_lt)
  simp [computeVirtualHosts, computeAssignedHostsForVirtualization, addresses,
    List.range_succ_eq_map, bind, Except.bind] at computed

/-- One virtual host per proxy address. -/
theorem length_computeVirtualHosts {config : TopologyConfig β} {orderedHosts : List α}
    {virtualHosts : List (VirtualHost α β)}
    (computed : computeVirtualHosts config orderedHosts = .ok virtualHosts) :
    virtualHosts.length = config.addresses.length := by
  obtain ⟨computedHosts, computed', -, addrs, -⟩ :=
    computeVirtualHosts_ok config (ne_nil_of_computeVirtualHosts computed)
  rw [computed, Except.ok.injEq] at computed'
  subst computed'
  rw [← addrs, List.length_map]

/-- The virtual host of proxy `i`: its tokens, its address and the real host `i % len(hosts)`. -/
theorem getElem?_computeVirtualHosts {config : TopologyConfig β} {orderedHosts : List α}
    {virtualHosts : List (VirtualHost α β)}
    (computed : computeVirtualHosts config orderedHosts = .ok virtualHosts) {i : Nat} {address : β}
    (addressed : config.addresses[i]? = some address) :
    ∃ host, orderedHosts[i % orderedHosts.length]? = some host ∧
      virtualHosts[i]? = some ⟨(List.range config.numTokens).map
        (virtualToken config.numTokens config.addresses.length i), address, host⟩ := by
  obtain ⟨computedHosts, computed', tokens, addrs, hosts⟩ :=
    computeVirtualHosts_ok config (ne_nil_of_computeVirtualHosts computed)
  rw [computed, Except.ok.injEq] at computed'
  subst computed'
  have inside : i < config.addresses.length := (List.getElem?_eq_some_iff.mp addressed).1
  obtain ⟨virtualHost, found⟩ : ∃ virtualHost, virtualHosts[i]? = some virtualHost :=
    ⟨_, List.getElem?_eq_getElem (by simpa [← addrs] using inside)⟩
  -- read each field of the virtual host off the projections `computeVirtualHosts_ok` gives
  have tokensAt := congrArg (·[i]?) tokens
  have addrAt := congrArg (·[i]?) addrs
  have hostAt := congrArg (·[i]?) hosts
  simp only [List.getElem?_map, found, List.getElem?_range inside, addressed, Option.map_some,
    Option.some.injEq] at tokensAt addrAt hostAt
  refine ⟨virtualHost.host, ?_, ?_⟩
  · rw [hostAt, List.get_eq_getElem, List.getElem?_eq_getElem]
  · rw [found, ← tokensAt, ← addrAt]

/-! ## The ring positions -/

theorem mem_virtualIndices {count numTokens b : Nat} (positive : 0 < count) :
    b ∈ virtualIndices count numTokens ↔ b < count * numTokens := by
  simp only [virtualIndices, List.mem_flatMap, List.mem_range, List.mem_map]
  constructor
  · rintro ⟨i, proxy_lt, t, token_lt, rfl⟩
    exact lt_of_mem_range proxy_lt token_lt
  · intro inside
    -- the position `b` is the proxy `b % count`'s `(b / count)`-th token
    refine ⟨b % count, Nat.mod_lt _ positive, b / count, ?_, Nat.div_add_mod' b count⟩
    exact Nat.div_lt_of_lt_mul inside

/-- The position of a proxy's token leaves the proxy as remainder. -/
theorem position_mod {count i : Nat} (proxy_lt : i < count) (t : Nat) :
    (t * count + i) % count = i := by
  rw [Nat.mul_add_mod_self_right, Nat.mod_eq_of_lt proxy_lt]

theorem virtualIndices_nodup {count : Nat} (positive : 0 < count) (numTokens : Nat) :
    (virtualIndices count numTokens).Nodup := by
  apply List.nodup_flatMap.mpr
  constructor
  · intro i _
    apply List.nodup_range.map
    intro t t' same
    exact Nat.eq_of_mul_eq_mul_right positive (Nat.add_right_cancel same)
  · -- two proxies' positions differ modulo `count`
    refine List.pairwise_lt_range.imp_of_mem ?_
    intro i j first second earlier
    simp only [Function.onFun, List.disjoint_left, List.mem_map, List.mem_range]
    rintro _ ⟨t, _, rfl⟩ ⟨t', _, same⟩
    have remainders := congrArg (· % count) same
    simp only [position_mod (List.mem_range.mp first), position_mod (List.mem_range.mp second)]
      at remainders
    omega

/-- The proxies' positions, proxy after proxy, are all the ring positions. -/
theorem virtualIndices_perm {count : Nat} (positive : 0 < count) (numTokens : Nat) :
    (virtualIndices count numTokens).Perm (List.range (count * numTokens)) := by
  apply (List.perm_ext_iff_of_nodup (virtualIndices_nodup positive numTokens) List.nodup_range).mpr
  intro b
  rw [mem_virtualIndices positive, List.mem_range]

/-! ## The tokens on the ring -/

/-- The proxies' tokens are the ring tokens of their positions. -/
theorem map_virtualToken_eq (count numTokens : Nat) :
    (List.range count).map (fun i => (List.range numTokens).map (virtualToken numTokens count i)) =
      (List.range count).map fun i =>
        (List.range numTokens).map fun t => ringToken count numTokens (t * count + i) := by
  apply List.map_congr_left
  intro i proxy
  apply List.map_congr_left
  intro t token
  exact virtualToken_eq (lt_of_mem_range (List.mem_range.mp proxy) (List.mem_range.mp token))

/-- A ring token fits an `int64`. -/
theorem ringToken_bounds {count numTokens b : Nat} (inside : b < count * numTokens) :
    -2 ^ 63 ≤ ringToken count numTokens b ∧ ringToken count numTokens b < 2 ^ 63 := by
  have fits := tokenWidth_mul_lt inside
  unfold ringToken
  omega

/-- The tokens of all proxies, proxy after proxy, are the ring tokens of `virtualIndices`. -/
theorem flatten_ringTokens (count numTokens : Nat) :
    ((List.range count).map fun i =>
        (List.range numTokens).map fun t => ringToken count numTokens (t * count + i)).flatten =
      (virtualIndices count numTokens).map (ringToken count numTokens) := by
  rw [← List.flatMap_def, virtualIndices, List.map_flatMap]
  simp only [List.map_map, Function.comp_def]

/-- Tagging a range of proxies' lists with the proxies. -/
theorem ownedTokens_range (count : Nat) (tokensOf : Nat → List Int) :
    ownedTokens ((List.range count).map tokensOf) =
      (List.range count).flatMap fun i => (tokensOf i).map fun token => (i, token) := by
  have positions : (List.range count).zipIdx = (List.range count).map fun i => (i, i) := by
    apply List.ext_getElem <;> simp [List.getElem_zipIdx]
  rw [ownedTokens, List.zipIdx_map, positions, List.map_map, List.flatMap_map]
  rfl

/-- Tagged with their proxies, the proxies' tokens are the ring. -/
theorem ownedTokens_perm {count : Nat} (positive : 0 < count) (numTokens : Nat) :
    (ownedTokens ((List.range count).map fun i =>
        (List.range numTokens).map fun t => ringToken count numTokens (t * count + i))).Perm
      (tokenRing count numTokens) := by
  rw [ownedTokens_range]
  -- each proxy's tokens, tagged, are the ring entries of its positions
  have positions : ((List.range count).flatMap fun i =>
      ((List.range numTokens).map fun t => ringToken count numTokens (t * count + i)).map
        fun token => (i, token)) =
      (virtualIndices count numTokens).map fun b => (b % count, ringToken count numTokens b) := by
    rw [virtualIndices, List.map_flatMap]
    apply List.flatMap_congr
    intro i proxy
    simp [position_mod (List.mem_range.mp proxy)]
  rw [positions, tokenRing]
  exact (virtualIndices_perm positive numTokens).map _

/-- Within the bound the width is positive, and the ring grows strictly. -/
theorem tokenRing_sorted {count numTokens : Nat} (widthPositive : 0 < tokenWidth count numTokens) :
    (tokenRing count numTokens).Pairwise fun first second => first.2 < second.2 := by
  rw [tokenRing, List.pairwise_map]
  refine List.pairwise_lt_range.imp ?_
  intro b b' earlier
  have larger := Nat.mul_lt_mul_of_pos_left earlier widthPositive
  unfold ringToken
  omega

theorem tokenWidth_pos {count numTokens : Nat} (positive : 0 < count * numTokens)
    (bound : count * numTokens ≤ 2 ^ 64) : 0 < tokenWidth count numTokens := by
  rw [Nat.mul_comm] at positive bound
  exact Nat.div_pos bound positive

/-- Within the bound, the ring tokens of distinct positions differ. -/
theorem ringToken_injective {count numTokens : Nat} (widthPositive : 0 < tokenWidth count numTokens) :
    Function.Injective (ringToken count numTokens) := by
  intro b b' same
  unfold ringToken at same
  have scaled : tokenWidth count numTokens * b = tokenWidth count numTokens * b' := by omega
  exact Nat.eq_of_mul_eq_mul_left widthPositive scaled

/-- Consecutive tokens are one width apart. -/
theorem ringToken_succ_sub (count numTokens b : Nat) :
    ringToken count numTokens (b + 1) - ringToken count numTokens b = tokenWidth count numTokens := by
  unfold ringToken
  push_cast
  ring

/-- The range that wraps around, from the last token to the first, is one width wide plus the
remainder of the division. -/
theorem wrap_width {count numTokens : Nat} (positive : 0 < count * numTokens) :
    2 ^ 64 - (ringToken count numTokens (count * numTokens - 1) - ringToken count numTokens 0) =
      tokenWidth count numTokens + ((2 ^ 64 % (numTokens * count) : Nat) : Int) := by
  obtain ⟨last, total⟩ : ∃ last, count * numTokens = last + 1 :=
    ⟨_, (Nat.succ_pred_eq_of_pos positive).symm⟩
  -- the division of 2^64 by the number of tokens leaves the remainder
  have whole : (last + 1) * tokenWidth count numTokens + 2 ^ 64 % (last + 1) = 2 ^ 64 := by
    rw [← total, tokenWidth, Nat.mul_comm count numTokens]
    exact Nat.div_add_mod _ _
  rw [Nat.mul_comm numTokens count, total, Nat.add_sub_cancel]
  unfold ringToken
  have cast := congrArg (fun value : Nat => (value : Int)) whole
  push_cast at cast ⊢
  linarith

/-! ## The virtual hosts' ring -/

/-- With a real host and at most 2^64 tokens in all, the proxy `i`'s tokens are
`a * (t * count + i) - 2^63`, which fit an `int64`; all tokens differ; tagged with their proxies
they are, sorted, the ring, whose owners cycle through the proxies; consecutive tokens are `a`
apart and the range that wraps around is `a` plus the remainder wide; and the virtual host `i`
is backed by the real host `i % len(hosts)`. -/
theorem computeVirtualHosts_token_ring (config : TopologyConfig β) (orderedHosts : List α)
    (nonempty : orderedHosts ≠ [])
    (bound : config.addresses.length * config.numTokens ≤ 2 ^ 64) :
    ∃ virtualHosts, computeVirtualHosts config orderedHosts = .ok virtualHosts ∧
      virtualHosts.map VirtualHost.tokens =
        (List.range config.addresses.length).map (fun i => (List.range config.numTokens).map
          fun t => ringToken config.addresses.length config.numTokens
            (t * config.addresses.length + i)) ∧
      virtualHosts.map VirtualHost.addr = config.addresses ∧
      (∀ i (inside : i < virtualHosts.length),
        orderedHosts[i % orderedHosts.length]? = some virtualHosts[i].host) ∧
      (∀ virtualHost ∈ virtualHosts, ∀ token ∈ virtualHost.tokens,
        -2 ^ 63 ≤ token ∧ token < 2 ^ 63) ∧
      (virtualHosts.flatMap VirtualHost.tokens).Nodup ∧
      (ownedTokens (virtualHosts.map VirtualHost.tokens)).Perm
        (tokenRing config.addresses.length config.numTokens) ∧
      (tokenRing config.addresses.length config.numTokens).Pairwise
        (fun first second => first.2 < second.2) ∧
      (∀ b, ringToken config.addresses.length config.numTokens (b + 1) -
        ringToken config.addresses.length config.numTokens b =
          tokenWidth config.addresses.length config.numTokens) ∧
      2 ^ 64 - (ringToken config.addresses.length config.numTokens
          (config.addresses.length * config.numTokens - 1) -
        ringToken config.addresses.length config.numTokens 0) =
        tokenWidth config.addresses.length config.numTokens +
          ((2 ^ 64 % (config.numTokens * config.addresses.length) : Nat) : Int) := by
  have positive : 0 < config.addresses.length := lt_of_le_of_lt (Nat.zero_le _) config.index_lt
  have allPositive : 0 < config.addresses.length * config.numTokens :=
    Nat.mul_pos positive config.numTokens_pos
  have widthPositive := tokenWidth_pos allPositive bound
  obtain ⟨virtualHosts, computed, tokens, addresses, hosts⟩ :=
    computeVirtualHosts_ok config nonempty
  rw [map_virtualToken_eq] at tokens
  -- all tokens, proxy after proxy, are the ring tokens of the proxies' positions
  have allTokens : virtualHosts.flatMap VirtualHost.tokens =
      (virtualIndices config.addresses.length config.numTokens).map
        (ringToken config.addresses.length config.numTokens) := by
    rw [List.flatMap_def, tokens, flatten_ringTokens]
  refine ⟨virtualHosts, computed, tokens, addresses, ?_, ?_, ?_, ?_,
    tokenRing_sorted widthPositive, ringToken_succ_sub _ _, wrap_width allPositive⟩
  · intro i inside
    have lengths := congrArg List.length addresses
    rw [List.length_map] at lengths
    have backed := congrArg (·[i]?) hosts
    simp only [List.getElem?_map, List.getElem?_eq_getElem inside, Option.map_some] at backed
    rw [List.getElem?_range (lengths ▸ inside), Option.map_some, Option.some_inj] at backed
    rw [backed, List.getElem?_eq_getElem (Nat.mod_lt i (List.length_pos_of_ne_nil nonempty))]
    rfl
  · intro virtualHost present token inTokens
    have everywhere : token ∈ virtualHosts.flatMap VirtualHost.tokens :=
      List.mem_flatMap.mpr ⟨virtualHost, present, inTokens⟩
    rw [allTokens, List.mem_map] at everywhere
    obtain ⟨b, position, rfl⟩ := everywhere
    exact ringToken_bounds ((mem_virtualIndices positive).mp position)
  · rw [allTokens]
    exact (virtualIndices_nodup positive _).map (ringToken_injective widthPositive)
  · rw [tokens]
    exact ownedTokens_perm positive _

/-- Three proxies with 8 tokens each, over two real hosts. -/
def threeProxies : TopologyConfig Nat := ⟨[0, 1, 2], 1, 8, by decide, by decide, by decide⟩

theorem computeVirtualHosts_token_ring_threeProxies :
    [10, 11] ≠ [] ∧ threeProxies.addresses.length * threeProxies.numTokens ≤ 2 ^ 64 ∧
      ∃ virtualHosts, computeVirtualHosts threeProxies [10, 11] = .ok virtualHosts ∧
        (virtualHosts.flatMap VirtualHost.tokens).Nodup := by
  have nonempty : [10, 11] ≠ [] := by decide
  have bound : threeProxies.addresses.length * threeProxies.numTokens ≤ 2 ^ 64 := by decide
  obtain ⟨virtualHosts, computed, -, -, -, -, distinct, -⟩ :=
    computeVirtualHosts_token_ring threeProxies [10, 11] nonempty bound
  exact ⟨nonempty, bound, virtualHosts, computed, distinct⟩

end ZdmProxy.Control
