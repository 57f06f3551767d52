import AssessmentEngine.Cache.CacheAside
import AssessmentEngine.Services.CacheSerializer

/-!
# The cached details of a server

`get_server` answers with what an earlier request put into Redis, for five minutes at most, and the
inventory handler deletes that when it has committed a new inventory.  Details that come out of the
cache are those that were read; how old they can be is the question of `Cache/CacheAside`.

`resolve_server_id` keeps its answers for good.  They stay right because a public id belongs to one
server.
-/

namespace AssessmentEngine

open ExpiringStore Runs

/-- What `get_server` returns: parsed from the cache, or built from the row. -/
def getServerResponse (u : Unicode) (d : Served ℕ ServerDetailDto) : Option ServerDetailResponse :=
  if d.hit then serverDetailFromJson u (serverDetailToJson (toServerDetail u d.stamp.value))
  else some (toServerDetail u d.stamp.value)

/-- From the cache come the details that were built from the row. -/
lemma getServerResponse_eq (u : Unicode) (d : Served ℕ ServerDetailDto) :
    getServerResponse u d = some (toServerDetail u d.stamp.value) := by
  unfold getServerResponse
  split_ifs
  · rw [serverDetailFromJson_toJson u (toServerDetail_kept u d.stamp.value)]
    exact congrArg some (enrichServerDetail_idem u _)
  · rfl

/-- The steps of `get_server` and of the inventory handler on `cache:inventory:{}`. -/
def detailStep (ttls : RedisTtls) :
    CacheAction ℕ ServerDetailDto → CacheWorld ℕ ServerDetailDto →
      Option (CacheWorld ℕ ServerDetailDto) :=
  cacheStep (some ttls.redisTtlCacheDetail)

/-- Whatever readers and inventory handlers do in which order, with Redis up or down and its
deletions made or not: each response of `get_server` shows a version of the row, and misses none
that was committed longer ago than the lifetime of the cache and the longest time that a reader
takes from the row to the cache. -/
theorem detail_cache_recent (u : Unicode) {ttls : RedisTtls} {delay : ℤ}
    {as : List (CacheAction ℕ ServerDetailDto)} {t : CacheWorld ℕ ServerDetailDto}
    (hmeets : Meets (detailStep ttls) (fun a s => prompt delay a s = true) as CacheWorld.init)
    (hrun : run (detailStep ttls) as CacheWorld.init = some t) :
    ∀ d ∈ t.served, ∃ w dto, (t.rows d.key)[d.stamp.version]? = some (w, dto) ∧
      getServerResponse u d = some (toServerDetail u dto) ∧
      ∀ i w' dto', d.stamp.version < i → (t.rows d.key)[i]? = some (w', dto') →
        d.time < w' + delay + ttlMicros ttls.redisTtlCacheDetail := by
  intro d hd
  obtain ⟨⟨w, hversion⟩, hrecent⟩ := served_recent hmeets hrun d hd
  exact ⟨w, d.stamp.value, hversion, getServerResponse_eq u d, hrecent⟩

/-- A server whose agent has sent nothing but metrics. -/
def placeholderDetail (hostname : String) : ServerDetailDto where
  id := 7
  publicId := "0b9a3a0e-98a3-4f0a-8ad7-64a3b0a4c1d2"
  agentId := "5f0c2a34-0000-4000-8000-0000000000a1"
  compositeId := none
  machineId := none
  hostname := hostname
  agentVersion := none
  osFamily := none
  osId := none
  osVersion := none
  osCodename := none
  kernelVersion := none
  cpuCores := none
  cpuModel := none
  cpuArch := none
  cpuBits := none
  memTotalBytes := none
  bootTime := none
  agentStartedAt := none
  netInterfaces := []
  ipExternal := none
  blockDevices := []
  services := none
  listenPorts := []
  lastSeenAt := none
  productName := none
  edition := none

/-- A reader fills the cache with the row that the next inventory replaces. -/
def overtakenFill : List (CacheAction ℕ ServerDetailDto) :=
  [.commit 7 (placeholderDetail "5f0c2a34"), .look 0 7 .answered, .fetch 0,
    .commit 7 (placeholderDetail "db-01"), .invalidate 7 .answered, .tick 1000, .fill 0 .answered,
    .look 1 7 .answered]

theorem detail_cache_recent_overtaken :
    ∃ t, run (detailStep {}) overtakenFill CacheWorld.init = some t ∧
      ∀ d ∈ t.served, ∃ w dto, (t.rows d.key)[d.stamp.version]? = some (w, dto) ∧
        getServerResponse asciiText d = some (toServerDetail asciiText dto) ∧
        ∀ i w' dto', d.stamp.version < i → (t.rows d.key)[i]? = some (w', dto') →
          d.time < w' + 1000 + ttlMicros ({} : RedisTtls).redisTtlCacheDetail := by
  obtain ⟨t, ht⟩ : ∃ t, run (detailStep {}) overtakenFill CacheWorld.init = some t := ⟨_, rfl⟩
  have hmeets : Meets (detailStep {}) (fun a s => prompt 1000 a s = true) overtakenFill
      CacheWorld.init := by decide
  exact ⟨t, ht, detail_cache_recent asciiText hmeets ht⟩

/-- Once the inventory handler has deleted the key of a server, and no request that had read an
older row was still to fill the cache, no later response shows an older row than the one that was
there at the deletion, whatever happens then. -/
theorem detail_cache_fresh (u : Unicode) {ttls : RedisTtls}
    {as bs : List (CacheAction ℕ ServerDetailDto)} {serverId : ℕ} {reply : Reply}
    {s s' t : CacheWorld ℕ ServerDetailDto}
    (hrun : run (detailStep ttls) as CacheWorld.init = some s)
    (happlied : reply.applied = true) (hrow : s.rows serverId ≠ [])
    (hheld : ∀ r stamp, s.readers r = .fetched serverId stamp →
      (s.rows serverId).length = stamp.version + 1)
    (hstep : detailStep ttls (.invalidate serverId reply) s = some s')
    (hrest : run (detailStep ttls) bs s' = some t) :
    ∃ new, t.served = new ++ s.served ∧ ∀ d ∈ new, d.key = serverId →
      (s.rows serverId).length ≤ d.stamp.version + 1 ∧
        ∃ w dto, (t.rows serverId)[d.stamp.version]? = some (w, dto) ∧
          getServerResponse u d = some (toServerDetail u dto) := by
  have hfresh := freshFrom_invalidate happlied hrow hheld hstep
  have hserved : s'.served = s.served := by
    cases hstep
    rfl
  have hall : run (detailStep ttls) (as ++ .invalidate serverId reply :: bs) CacheWorld.init =
      some t :=
    run_append_eq_some.mpr ⟨s, hrun, run_cons_eq_some.mpr ⟨s', hstep, hrest⟩⟩
  obtain ⟨new, hnew, hversions⟩ := hfresh.run hrest
  refine ⟨new, by rw [hnew, hserved], ?_⟩
  rintro d hd rfl
  obtain ⟨w, hversion⟩ := served_version hall d (hnew ▸ List.mem_append_left _ hd)
  have hle := hversions d hd rfl
  exact ⟨by omega, w, d.stamp.value, hversion, getServerResponse_eq u d⟩

/-- An inventory, its deletion and a request after it. -/
theorem detail_cache_fresh_after_inventory :
    ∃ s s' t, run (detailStep {}) [.commit 7 (placeholderDetail "5f0c2a34"),
        .commit 7 (placeholderDetail "db-01")] CacheWorld.init = some s ∧
      detailStep {} (.invalidate 7 .answered) s = some s' ∧
      run (detailStep {}) [.look 0 7 .answered, .fetch 0, .fill 0 .answered] s' = some t ∧
      ∃ new, t.served = new ++ s.served ∧ ∀ d ∈ new, d.key = 7 →
        (s.rows 7).length ≤ d.stamp.version + 1 ∧
          ∃ w dto, (t.rows 7)[d.stamp.version]? = some (w, dto) ∧
            getServerResponse asciiText d = some (toServerDetail asciiText dto) := by
  obtain ⟨s, hs⟩ : ∃ s, run (detailStep {}) [.commit 7 (placeholderDetail "5f0c2a34"),
      .commit 7 (placeholderDetail "db-01")] CacheWorld.init = some s := ⟨_, rfl⟩
  obtain ⟨s', hs'⟩ : ∃ s', detailStep {} (.invalidate 7 .answered) s = some s' := ⟨_, rfl⟩
  have hrows : s.rows 7 = [(0, placeholderDetail "5f0c2a34"), (0, placeholderDetail "db-01")] := by
    cases hs
    rfl
  have hreaders : s.readers = fun _ => .idle := by
    cases hs
    rfl
  obtain ⟨t, ht⟩ : ∃ t, run (detailStep {}) [.look 0 7 .answered, .fetch 0, .fill 0 .answered] s' =
      some t := by
    cases hs
    cases hs'
    exact ⟨_, rfl⟩
  refine ⟨s, s', t, hs, hs', ht, detail_cache_fresh asciiText hs rfl ?_ ?_ hs' ht⟩
  · rw [hrows]
    simp
  · intro r stamp hr
    rw [hreaders] at hr
    cases hr

/-! ## Public ids -/

/-- The steps of `resolve_server_id` on `cache:resolve:{}`, whose entries do not expire. -/
def resolveStep : CacheAction String ℕ → CacheWorld String ℕ → Option (CacheWorld String ℕ) :=
  cacheStep none

/-- A public id is given to one server. -/
def registersOnce : CacheAction String ℕ → CacheWorld String ℕ → Bool
  | .commit publicId _, s => decide (s.rows publicId = [])
  | _, _ => true

/-- An id that was resolved once is resolved for good, and rightly. -/
theorem resolve_cache_right {as : List (CacheAction String ℕ)} {t : CacheWorld String ℕ}
    (hmeets : Meets resolveStep (fun a s => registersOnce a s = true) as CacheWorld.init)
    (hrun : run resolveStep as CacheWorld.init = some t) :
    ∀ d ∈ t.served, ∃ w, t.rows d.key = [(w, d.stamp.value)] := by
  have hone : ∀ publicId, (t.rows publicId).length ≤ 1 := by
    refine run_invariant_of_meets (I := fun u => ∀ publicId, (u.rows publicId).length ≤ 1)
      ?_ hmeets hrun fun _ => Nat.zero_le 1
    intro a u v hC hu hstep publicId
    cases cacheStep_move hstep with
    | commit k n ha ht =>
      subst ht ha
      by_cases hk : publicId = k
      · subst hk
        have hnone : u.rows publicId = [] := of_decide_eq_true hC
        simp [hnone]
      · simpa only [Function.update_of_ne hk] using hu publicId
    | tick _ ht | invalidate _ ht | idle _ _ _ ht | hit _ _ _ ht | fetch _ _ _ _ ht
    | fill _ _ _ _ _ _ _ _ ht =>
      rw [ht]
      exact hu publicId
  intro d hd
  obtain ⟨w, hversion⟩ := served_version hrun d hd
  obtain ⟨hbound, heq⟩ := List.getElem?_eq_some_iff.mp hversion
  have hlength := hone d.key
  obtain ⟨row, hrow⟩ := List.length_eq_one_iff.mp (by omega : (t.rows d.key).length = 1)
  refine ⟨w, ?_⟩
  have hzero : d.stamp.version = 0 := by omega
  simp only [hrow, hzero, List.getElem_cons_zero] at heq
  rw [hrow, heq]

end AssessmentEngine
