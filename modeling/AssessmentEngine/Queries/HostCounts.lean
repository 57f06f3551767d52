import AssessmentEngine.Queries.MetricTrend

/-!
# Charts of the fleet and of its servers

Each chart that counts servers over a threshold has a sibling for one server.  The stages of the two
group by different keys, but every one of them can be split by server, so the counts are sums of
the charts of the servers (`countsServers_metricTrend`).
-/

namespace AssessmentEngine

open RowGroups

/-- The thresholds that have a chart for one server and one for the environment. -/
inductive HostSignal
  | cpuSaturation
  | memPagingPressure
  | diskSaturation
  | netCongested
  deriving DecidableEq, Repr

namespace HostSignal

/-- The chart of a server. -/
def own : HostSignal → TrendMetric
  | .cpuSaturation => .cpuSaturation
  | .memPagingPressure => .memPagingPressure
  | .diskSaturation => .diskSaturation
  | .netCongested => .netCongested

/-- The chart of the environment. -/
def hosts : HostSignal → TrendMetric
  | .cpuSaturation => .cpuSaturationHosts
  | .memPagingPressure => .memPagingPressureHosts
  | .diskSaturation => .diskSaturationHosts
  | .netCongested => .netCongestedHosts

end HostSignal

/-- The same chart of other servers. -/
def MetricTrendCtx.withServers (ctx : MetricTrendCtx) (serverIds : List ℕ) : MetricTrendCtx :=
  { ctx with serverIds := some serverIds }

/-- A chart has a bucket. -/
def HasBucket (series : List TrendPoint) (ts : ℤ) : Prop := ∃ p ∈ series, p.collectedAt = ts

/-- A chart is one in a bucket. -/
def IsOneAt (series : List TrendPoint) (ts : ℤ) : Prop :=
  ∃ p ∈ series, p.collectedAt = ts ∧ p.value = some 1

instance (series : List TrendPoint) (ts : ℤ) : Decidable (IsOneAt series ts) :=
  inferInstanceAs (Decidable (∃ p ∈ series, _))

/-- No bucket is there twice, and they are in order. -/
def InBuckets (series : List TrendPoint) : Prop :=
  series.Pairwise fun p q => p.collectedAt < q.collectedAt

/-- The buckets of a chart are those of the charts of the servers, and its values are the numbers
of servers whose charts are one. -/
structure CountsServers (fleet : List TrendPoint) (own : ℕ → List TrendPoint)
    (serverIds : List ℕ) : Prop where
  inBuckets : InBuckets fleet
  own_inBuckets : ∀ sid ∈ serverIds, InBuckets (own sid)
  hasBucket_iff : ∀ ts, HasBucket fleet ts ↔ ∃ sid ∈ serverIds, HasBucket (own sid) ts
  value_eq : ∀ p ∈ fleet,
    p.value = some ((serverIds.countP fun sid => IsOneAt (own sid) p.collectedAt : ℕ) : ℚ)

/-! ## Series of flags -/

section Series

variable {ctx : MetricTrendCtx}

lemma hasBucket_everSeries {flags : List (ℤ × Option Bool)} {ts : ℤ} :
    HasBucket (everSeries ctx flags) ts ↔ ∃ x ∈ flags, ctx.bucket.of x.1 = ts := by
  simp only [HasBucket, everSeries, orderByTs, List.mem_insertionSort, mem_groupBy]
  constructor
  · rintro ⟨p, ⟨k, hk, rfl⟩, rfl⟩
    exact List.mem_map.mp hk
  · intro hx
    exact ⟨_, ⟨ts, List.mem_map.mpr hx, rfl⟩, rfl⟩

lemma isOneAt_everSeries {flags : List (ℤ × Option Bool)} {ts : ℤ} :
    IsOneAt (everSeries ctx flags) ts ↔
      ∃ x ∈ flags, ctx.bucket.of x.1 = ts ∧ x.2 = some true := by
  simp only [IsOneAt, everSeries, orderByTs, List.mem_insertionSort, mem_groupBy]
  constructor
  · rintro ⟨p, ⟨k, -, rfl⟩, rfl, hone⟩
    have hever : boolOr ((rowsWith (fun x : ℤ × Option Bool => ctx.bucket.of x.1) k flags).map
        Prod.snd) = some true := by
      by_contra hnot
      simp [hnot] at hone
    obtain ⟨x, hx, hcrossed⟩ := List.mem_map.mp (boolOr_eq_some_true_iff.mp hever)
    obtain ⟨hx, hts⟩ := mem_rowsWith.mp hx
    exact ⟨x, hx, hts, hcrossed⟩
  · rintro ⟨x, hx, rfl, hcrossed⟩
    have hever : boolOr ((rowsWith (fun x : ℤ × Option Bool => ctx.bucket.of x.1)
        (ctx.bucket.of x.1) flags).map Prod.snd) = some true :=
      boolOr_eq_some_true_iff.mpr (List.mem_map.mpr ⟨x, mem_rowsWith.mpr ⟨hx, rfl⟩, hcrossed⟩)
    exact ⟨_, ⟨_, List.mem_map_of_mem hx, rfl⟩, rfl, by simp [hever]⟩

lemma hasBucket_hostsSeries {flags : List HostFlag} {ts : ℤ} :
    HasBucket (hostsSeries ctx flags) ts ↔ ∃ x ∈ flags, ctx.bucket.of x.collectedAt = ts := by
  simp only [HasBucket, hostsSeries, orderByTs, List.mem_insertionSort, mem_groupBy, List.mem_map]
  constructor
  · rintro ⟨p, ⟨k, ⟨b, ⟨k', ⟨x, hx, rfl⟩, rfl⟩, rfl⟩, rfl⟩, rfl⟩
    exact ⟨x, hx, rfl⟩
  · rintro ⟨x, hx, rfl⟩
    exact ⟨_, ⟨_, ⟨_, ⟨_, ⟨x, hx, rfl⟩, rfl⟩, rfl⟩, rfl⟩, rfl⟩

lemma inBuckets_orderByTs {series : List TrendPoint}
    (h : (series.map fun p => p.collectedAt).Nodup) : InBuckets (orderByTs series) := by
  have hordered : (orderByTs series).Pairwise fun p q => p.collectedAt ≤ q.collectedAt :=
    List.pairwise_insertionSort _ _
  have hnodup : ((orderByTs series).map fun p => p.collectedAt).Nodup :=
    ((List.perm_insertionSort _ _).map _).nodup_iff.mpr h
  refine (hordered.and (List.pairwise_map.mp hnodup)).imp fun hpq => ?_
  exact lt_of_le_of_ne hpq.1 hpq.2

lemma inBuckets_everSeries (flags : List (ℤ × Option Bool)) : InBuckets (everSeries ctx flags) :=
  inBuckets_orderByTs (nodup_groupBy_map fun _ _ => rfl)

lemma inBuckets_hostsSeries (flags : List HostFlag) : InBuckets (hostsSeries ctx flags) :=
  inBuckets_orderByTs (nodup_groupBy_map fun _ _ => rfl)

/-- A bucket counts the servers with a flag that is set. -/
lemma value_of_mem_hostsSeries {flags : List HostFlag} {serverIds : List ℕ} {q : ℕ → Prop}
    [DecidablePred q] (hnodup : serverIds.Nodup) {p : TrendPoint} (hp : p ∈ hostsSeries ctx flags)
    (h : ∀ sid, (∃ x ∈ flags, ctx.bucket.of x.collectedAt = p.collectedAt ∧ x.serverId = sid ∧
      x.crossed = some true) ↔ sid ∈ serverIds ∧ q sid) :
    p.value = some ((serverIds.countP fun sid => q sid : ℕ) : ℚ) := by
  let key := fun x : HostFlag => (ctx.bucket.of x.collectedAt, x.serverId)
  let ever := fun k => boolOr ((rowsWith key k flags).map fun x => x.crossed)
  let set := (flags.map key).dedup.filter fun k => k.1 = p.collectedAt ∧ ever k = some true
  have hvalue : p.value = some ((set.length : ℕ) : ℚ) := by
    obtain ⟨ts, -, rfl⟩ := mem_groupBy.mp ((List.mem_insertionSort _).mp hp)
    simp only [Option.some.injEq, Nat.cast_inj]
    rw [rowsWith, groupBy, List.countP_filter, List.countP_map, List.countP_eq_length_filter]
    refine congrArg List.length (List.filter_congr fun k _ => ?_)
    simp [ever, key, Bool.and_comm]
  have hever : ∀ k, ever k = some true ↔ ∃ x ∈ flags, key x = k ∧ x.crossed = some true := by
    intro k
    simp only [ever, boolOr_eq_some_true_iff, List.mem_map, mem_rowsWith, and_assoc]
  -- in one bucket the keys are the servers
  have hset : (set.map Prod.snd).Perm (serverIds.filter fun sid => q sid) := by
    refine (List.perm_ext_iff_of_nodup ?_ (hnodup.filter _)).mpr fun sid => ?_
    · refine ((List.nodup_dedup _).filter _).map_on fun k hk k' hk' hsid => ?_
      have hts := (of_decide_eq_true (List.mem_filter.mp hk).2).1
      have hts' := (of_decide_eq_true (List.mem_filter.mp hk').2).1
      exact Prod.ext (hts.trans hts'.symm) hsid
    · rw [List.mem_filter, decide_eq_true_eq, ← h sid]
      constructor
      · intro hsid
        obtain ⟨k, hk, rfl⟩ := List.mem_map.mp hsid
        obtain ⟨hts, htrue⟩ := of_decide_eq_true (List.mem_filter.mp hk).2
        obtain ⟨x, hx, rfl, hcrossed⟩ := (hever k).mp htrue
        exact ⟨x, hx, hts, rfl, hcrossed⟩
      · rintro ⟨x, hx, hts, rfl, hcrossed⟩
        refine List.mem_map.mpr ⟨key x, List.mem_filter.mpr ⟨?_, decide_eq_true ⟨hts, ?_⟩⟩, rfl⟩
        · exact List.mem_dedup.mpr (List.mem_map_of_mem hx)
        · exact (hever _).mpr ⟨x, hx, rfl, hcrossed⟩
  rw [hvalue, List.countP_eq_length_filter, ← hset.length_eq, List.length_map]

/-- The flags of a server among those of the fleet. -/
structure IsShare (fleet : List HostFlag) (sid : ℕ) (own : List (ℤ × Option Bool)) : Prop where
  times : ∀ t, (∃ x ∈ fleet, x.serverId = sid ∧ x.collectedAt = t) ↔ ∃ x ∈ own, x.1 = t
  crossed : ∀ t, (∃ x ∈ fleet, x.serverId = sid ∧ x.collectedAt = t ∧ x.crossed = some true) ↔
    (t, some true) ∈ own

/-- When the flags of the fleet are those of its servers, the counts are those of their charts. -/
lemma countsServers_of_isShare {serverIds : List ℕ} {flags : List HostFlag}
    {own : ℕ → List (ℤ × Option Bool)} (hnodup : serverIds.Nodup)
    (hmem : ∀ x ∈ flags, x.serverId ∈ serverIds)
    (hshare : ∀ sid ∈ serverIds, IsShare flags sid (own sid)) {series : ℕ → MetricTrendCtx}
    (hbucket : ∀ sid, (series sid).bucket = ctx.bucket) :
    CountsServers (hostsSeries ctx flags) (fun sid => everSeries (series sid) (own sid))
      serverIds where
  inBuckets := inBuckets_hostsSeries flags
  own_inBuckets := fun sid _ => inBuckets_everSeries (own sid)
  hasBucket_iff := by
    intro ts
    rw [hasBucket_hostsSeries]
    simp only [hasBucket_everSeries, hbucket]
    constructor
    · rintro ⟨x, hx, hts⟩
      have hsid := hmem x hx
      obtain ⟨y, hy, htime⟩ := ((hshare _ hsid).times x.collectedAt).mp ⟨x, hx, rfl, rfl⟩
      exact ⟨x.serverId, hsid, y, hy, htime ▸ hts⟩
    · rintro ⟨sid, hsid, y, hy, hts⟩
      obtain ⟨x, hx, -, htime⟩ := ((hshare sid hsid).times y.1).mpr ⟨y, hy, rfl⟩
      exact ⟨x, hx, htime ▸ hts⟩
  value_eq := by
    intro p hp
    refine value_of_mem_hostsSeries hnodup hp fun sid => ?_
    rw [isOneAt_everSeries, hbucket]
    constructor
    · rintro ⟨x, hx, hts, rfl, hcrossed⟩
      have hsid := hmem x hx
      have hown := ((hshare _ hsid).crossed x.collectedAt).mp ⟨x, hx, rfl, rfl, hcrossed⟩
      exact ⟨hsid, _, hown, hts, rfl⟩
    · rintro ⟨hsid, ⟨t, crossed⟩, hy, hts, rfl⟩
      obtain ⟨x, hx, hserver, rfl, hcrossed⟩ := ((hshare sid hsid).crossed t).mpr hy
      exact ⟨x, hx, hts, hserver, hcrossed⟩

lemma isShare_of_mem {fleet own : List HostFlag} {sid : ℕ}
    (h : ∀ x, x ∈ own ↔ x ∈ fleet ∧ x.serverId = sid) :
    IsShare fleet sid (own.map fun x => (x.collectedAt, x.crossed)) where
  times := by
    intro t
    constructor
    · rintro ⟨x, hx, hsid, htime⟩
      exact ⟨_, List.mem_map_of_mem ((h x).mpr ⟨hx, hsid⟩), htime⟩
    · rintro ⟨y, hy, htime⟩
      obtain ⟨x, hx, rfl⟩ := List.mem_map.mp hy
      obtain ⟨hx, hsid⟩ := (h x).mp hx
      exact ⟨x, hx, hsid, htime⟩
  crossed := by
    intro t
    simp only [List.mem_map, h, Prod.mk.injEq, and_assoc]

/-- The disks of a server may be put together before its buckets. -/
lemma isShare_groupBy {fleet own : List HostFlag} {sid : ℕ}
    (h : ∀ x, x ∈ own ↔ x ∈ fleet ∧ x.serverId = sid) :
    IsShare (groupBy (fun x : HostFlag => (x.collectedAt, x.serverId))
        (fun k group => ⟨k.1, k.2, boolOr (group.map fun x => x.crossed)⟩) fleet) sid
      (groupBy (fun x : HostFlag => x.collectedAt)
        (fun t group => (t, boolOr (group.map fun x => x.crossed))) own) where
  times := by
    intro t
    simp only [mem_groupBy]
    constructor
    · rintro ⟨_, ⟨k, hk, rfl⟩, hsid, rfl⟩
      obtain ⟨x, hx, rfl⟩ := List.mem_map.mp hk
      exact ⟨_, ⟨_, List.mem_map_of_mem ((h x).mpr ⟨hx, hsid⟩), rfl⟩, rfl⟩
    · rintro ⟨_, ⟨k, hk, rfl⟩, rfl⟩
      obtain ⟨x, hx, rfl⟩ := List.mem_map.mp hk
      obtain ⟨hx, hsid⟩ := (h x).mp hx
      exact ⟨_, ⟨_, List.mem_map_of_mem hx, rfl⟩, hsid, rfl⟩
  crossed := by
    intro t
    simp only [mem_groupBy]
    constructor
    · rintro ⟨_, ⟨k, hk, rfl⟩, hsid, rfl, hever⟩
      obtain ⟨x, hgroup, hcrossed⟩ := List.mem_map.mp (boolOr_eq_some_true_iff.mp hever)
      obtain ⟨hx, rfl⟩ := mem_rowsWith.mp hgroup
      have hown : x ∈ own := (h x).mpr ⟨hx, hsid⟩
      refine ⟨_, List.mem_map_of_mem hown, Prod.ext rfl (boolOr_eq_some_true_iff.mpr ?_)⟩
      exact List.mem_map.mpr ⟨x, mem_rowsWith.mpr ⟨hown, rfl⟩, hcrossed⟩
    · rintro ⟨k, hk, hever⟩
      obtain ⟨rfl, htrue⟩ := Prod.mk.inj hever
      obtain ⟨x, hgroup, hcrossed⟩ := List.mem_map.mp (boolOr_eq_some_true_iff.mp htrue)
      obtain ⟨hown, rfl⟩ := mem_rowsWith.mp hgroup
      obtain ⟨hx, rfl⟩ := (h x).mp hown
      refine ⟨_, ⟨_, List.mem_map_of_mem hx, rfl⟩, rfl, rfl, boolOr_eq_some_true_iff.mpr ?_⟩
      exact List.mem_map.mpr ⟨x, mem_rowsWith.mpr ⟨hx, rfl⟩, hcrossed⟩

end Series

/-! ## Splitting the fleet -/

section Split

variable {db : MetricTables} {ctx : MetricTrendCtx} {serverIds : List ℕ} {sid : ℕ}

lemma selects_withServers (hids : serverIds ≠ []) :
    (ctx.withServers serverIds).Selects sid ↔ sid ∈ serverIds := by
  simp [MetricTrendCtx.Selects, MetricTrendCtx.withServers, hids]

/-- The samples of a server are those of the fleet that are its own. -/
lemma filter_reads_own {ρ : Type} {rows : List ρ} {server : ρ → ℕ} {time : ρ → ℤ} {first : ℤ}
    (hsid : sid ∈ serverIds) :
    rows.filter (fun r => (ctx.withServers [sid]).Reads first (server r) (time r)) =
      (rows.filter fun r => (ctx.withServers serverIds).Reads first (server r) (time r)).filter
        fun r => server r = sid := by
  have hids : serverIds ≠ [] := List.ne_nil_of_mem hsid
  rw [List.filter_filter]
  apply List.filter_congr
  intro r _
  rw [← Bool.decide_and, decide_eq_decide, MetricTrendCtx.Reads, MetricTrendCtx.Reads,
    selects_withServers (List.cons_ne_nil _ _), selects_withServers hids, List.mem_singleton]
  constructor
  · rintro ⟨hfirst, hlast, rfl⟩
    exact ⟨rfl, hfirst, hlast, hsid⟩
  · rintro ⟨rfl, hfirst, hlast, -⟩
    exact ⟨hfirst, hlast, rfl⟩

lemma metricsOf_own (hsid : sid ∈ serverIds) (first : ℤ) :
    db.metricsOf (ctx.withServers [sid]) first =
      (db.metricsOf (ctx.withServers serverIds) first).filter fun r => r.serverId = sid :=
  filter_reads_own hsid

/-- What is made of the rows of a server is what is its own of what is made of all rows. -/
lemma filterMap_filter_own {ρ β : Type} {rows : List ρ} {f : ρ → Option β} {server : ρ → ℕ}
    {server' : β → ℕ} (h : ∀ r b, f r = some b → server' b = server r) :
    (rows.filter fun r => server r = sid).filterMap f =
      (rows.filterMap f).filter fun b => server' b = sid := by
  rw [List.filterMap_filter, List.filter_filterMap]
  apply List.filterMap_congr
  intro r _
  cases hf : f r with
  | none => simp
  | some b => simp [← h r b hf, Option.filter]

lemma joinedOf_own (hsid : sid ∈ serverIds) (first : ℤ) :
    db.joinedOf (ctx.withServers [sid]) first =
      (db.joinedOf (ctx.withServers serverIds) first).filter fun p => p.1.serverId = sid := by
  rw [MetricTables.joinedOf, metricsOf_own hsid]
  refine filterMap_filter_own fun r p hp => ?_
  obtain ⟨si, _, rfl⟩ := Option.map_eq_some_iff.mp hp
  rfl

lemma cpuSaturationFlags_own (hsid : sid ∈ serverIds) :
    cpuSaturationFlags db (ctx.withServers [sid]) =
      (cpuSaturationFlags db (ctx.withServers serverIds)).filter fun x => x.serverId = sid := by
  rw [cpuSaturationFlags, joinedOf_own hsid, List.filter_comm, cpuSaturationFlags,
    List.filter_map]
  rfl

lemma pagingSamples_own (hsid : sid ∈ serverIds) :
    pagingSamples db (ctx.withServers [sid]) =
      (pagingSamples db (ctx.withServers serverIds)).filter fun r => r.serverId = sid := by
  unfold pagingSamples
  rw [joinedOf_own hsid]
  apply filterMap_filter_own
  intro p r hr
  obtain ⟨v, _, rfl⟩ := Option.map_eq_some_iff.mp hr
  rfl

lemma memPagingFlag_own {raw : List PagingSample} {r : PagingSample} (hr : r.serverId = sid) :
    memPagingFlag (raw.filter fun a => a.serverId = sid) r = memPagingFlag raw r := by
  have hlag : pagingLag (raw.filter fun a => a.serverId = sid) r = pagingLag raw r :=
    lag_filter fun a ha => decide_eq_true (ha.trans hr)
  rw [memPagingFlag, memPagingFlag, pagingRate, pagingRate, hlag]

lemma memPagingFlags_own (hsid : sid ∈ serverIds) :
    memPagingFlags db (ctx.withServers [sid]) =
      (memPagingFlags db (ctx.withServers serverIds)).filter fun x => x.serverId = sid := by
  unfold memPagingFlags
  simp only [pagingSamples_own hsid]
  rw [List.filter_comm]
  have hflag : ∀ r ∈ (((pagingSamples db (ctx.withServers serverIds)).filter fun r =>
      (ctx.withServers serverIds).start ≤ r.collectedAt).filter fun r => r.serverId = sid),
      memPagingFlag ((pagingSamples db (ctx.withServers serverIds)).filter fun a =>
        a.serverId = sid) r = memPagingFlag (pagingSamples db (ctx.withServers serverIds)) r :=
    fun r hr => memPagingFlag_own (of_decide_eq_true (List.mem_filter.mp hr).2)
  refine (List.filterMap_congr hflag).trans ?_
  apply filterMap_filter_own
  intro r x hx
  obtain ⟨rate, _, rfl⟩ := Option.map_eq_some_iff.mp hx
  rfl

lemma diskRaw_own (hsid : sid ∈ serverIds) :
    diskRaw db (ctx.withServers [sid]) =
      (diskRaw db (ctx.withServers serverIds)).filter fun r => r.serverId = sid := by
  rw [diskRaw, MetricTables.diskIoOf, filter_reads_own hsid, List.filter_comm]
  rfl

lemma diskAwaitCrossed_own {raw : List DiskIoRow} {r : DiskIoRow} (hr : r.serverId = sid) :
    diskAwaitCrossed (raw.filter fun a => a.serverId = sid) r = diskAwaitCrossed raw r := by
  have hlag : diskLag (raw.filter fun a => a.serverId = sid) r = diskLag raw r :=
    lag_filter fun a ha => decide_eq_true ((congrArg Prod.fst ha).trans hr)
  rw [diskAwaitCrossed, diskAwaitCrossed, diskAwaitMs, diskAwaitMs, hlag]

lemma diskPerDev_own (hsid : sid ∈ serverIds) :
    diskPerDev db (ctx.withServers [sid]) =
      (diskPerDev db (ctx.withServers serverIds)).filter fun x => x.serverId = sid := by
  unfold diskPerDev
  simp only [diskRaw_own hsid]
  rw [List.filter_comm, List.filter_map]
  apply List.map_congr_left
  intro r hr
  rw [diskAwaitCrossed_own (of_decide_eq_true (List.mem_filter.mp hr).2)]

lemma netRaw_own (hsid : sid ∈ serverIds) :
    netRaw db (ctx.withServers [sid]) =
      (netRaw db (ctx.withServers serverIds)).filter fun r => r.serverId = sid := by
  rw [netRaw, MetricTables.netIoOf, filter_reads_own hsid, List.filter_comm]
  rfl

/-- The sums over the interfaces of a server need its own samples only. -/
lemma netDeltaOf_own {raw : List NetIoRow} {k : ℤ × ℕ} {group : List NetIoRow}
    (hgroup : ∀ r ∈ group, r.serverId = sid) :
    netDeltaOf (raw.filter fun a => a.serverId = sid) k group = netDeltaOf raw k group := by
  have hlag : ∀ r ∈ group, netLag (raw.filter fun a => a.serverId = sid) r = netLag raw r :=
    fun r hr => lag_filter fun a ha =>
      decide_eq_true ((congrArg Prod.fst ha).trans (hgroup r hr))
  have hdelta : ∀ f, group.map (netDelta f (raw.filter fun a => a.serverId = sid)) =
      group.map (netDelta f raw) := by
    intro f
    apply List.map_congr_left
    intro r hr
    exact congrArg (fun prev => greatestZero (Option.bind prev _)) (hlag r hr)
  have hdt : group.map (netDt (raw.filter fun a => a.serverId = sid)) = group.map (netDt raw) :=
    List.map_congr_left fun r hr => congrArg (Option.map _) (hlag r hr)
  simp only [netDeltaOf, hdelta, hdt]

lemma mem_netDeltas_own (hsid : sid ∈ serverIds) {n : NetDelta} :
    n ∈ netDeltas db (ctx.withServers [sid]) ↔
      n ∈ netDeltas db (ctx.withServers serverIds) ∧ n.serverId = sid := by
  unfold netDeltas
  simp only [netRaw_own hsid]
  refine Iff.trans (mem_groupBy_filter (fun k => k.2 = sid) fun r => decide_eq_true_iff) ?_
  rw [mem_groupBy]
  constructor
  · rintro ⟨k, hk, hserver, rfl⟩
    rw [netDeltaOf_own fun r hr => ?_]
    · exact ⟨⟨k, hk, rfl⟩, hserver⟩
    · exact (congrArg Prod.snd (mem_rowsWith.mp hr).2).trans hserver
  · rintro ⟨⟨k, hk, rfl⟩, hserver⟩
    refine ⟨k, hk, hserver, netDeltaOf_own fun r hr => ?_⟩
    exact (congrArg Prod.snd (mem_rowsWith.mp hr).2).trans hserver

lemma retransDelta_own {raw : List MetricsRow} {r : MetricsRow} (hr : r.serverId = sid) :
    retransDelta (raw.filter fun a => a.serverId = sid) r = retransDelta raw r := by
  have hlag : lag (fun a : MetricsRow => a.serverId) (fun a => a.collectedAt)
      (raw.filter fun a => a.serverId = sid) r = lag (fun a => a.serverId)
        (fun a => a.collectedAt) raw r :=
    lag_filter fun a ha => decide_eq_true (ha.trans hr)
  rw [retransDelta, lagDelta, hlag, retransDelta, lagDelta]

lemma tcpDeltas_own (hsid : sid ∈ serverIds) :
    tcpDeltas db (ctx.withServers [sid]) =
      (tcpDeltas db (ctx.withServers serverIds)).filter fun t => t.serverId = sid := by
  unfold tcpDeltas
  simp only [metricsOf_own hsid]
  rw [List.filter_map]
  apply List.map_congr_left
  intro r hr
  rw [retransDelta_own (of_decide_eq_true (List.mem_filter.mp hr).2)]
  rfl

lemma netFlagOf_own (hsid : sid ∈ serverIds) {n : NetDelta} (hn : n.serverId = sid) :
    netFlagOf (tcpDeltas db (ctx.withServers [sid])) n =
      netFlagOf (tcpDeltas db (ctx.withServers serverIds)) n := by
  have hfor : tcpDeltaFor (tcpDeltas db (ctx.withServers [sid])) n =
      tcpDeltaFor (tcpDeltas db (ctx.withServers serverIds)) n := by
    rw [tcpDeltas_own hsid, tcpDeltaFor, List.find?_filter]
    refine congrArg (List.find? · _) (funext fun t => ?_)
    by_cases ht : t.serverId = sid <;> simp [ht, hn]
  rw [netFlagOf, netFlagOf, hfor]

lemma mem_netFlags_own (hsid : sid ∈ serverIds) {x : NetFlag} :
    x ∈ netFlags db (ctx.withServers [sid]) ↔
      x ∈ netFlags db (ctx.withServers serverIds) ∧ x.serverId = sid := by
  unfold netFlags
  simp only [List.mem_map, List.mem_filter, mem_netDeltas_own hsid]
  constructor
  · rintro ⟨n, ⟨⟨hn, hserver⟩, hstart⟩, rfl⟩
    rw [netFlagOf_own hsid hserver]
    exact ⟨⟨n, ⟨hn, hstart⟩, rfl⟩, hserver⟩
  · rintro ⟨⟨n, ⟨hn, hstart⟩, rfl⟩, hserver⟩
    exact ⟨n, ⟨⟨hn, hserver⟩, hstart⟩, netFlagOf_own hsid hserver⟩

lemma mem_serverIds_of_joinedOf (hids : serverIds ≠ []) {first : ℤ} {p : MetricsRow × InventoryRow}
    (hp : p ∈ db.joinedOf (ctx.withServers serverIds) first) : p.1.serverId ∈ serverIds := by
  obtain ⟨r, hr, hsome⟩ := List.mem_filterMap.mp hp
  obtain ⟨si, _, rfl⟩ := Option.map_eq_some_iff.mp hsome
  have hreads : (ctx.withServers serverIds).Reads first r.serverId r.collectedAt :=
    of_decide_eq_true (List.mem_filter.mp hr).2
  exact (selects_withServers hids).mp hreads.2.2

lemma mem_serverIds_of_diskRaw (hids : serverIds ≠ []) {r : DiskIoRow}
    (hr : r ∈ diskRaw db (ctx.withServers serverIds)) : r.serverId ∈ serverIds := by
  have hreads : (ctx.withServers serverIds).Reads _ r.serverId r.collectedAt :=
    of_decide_eq_true (List.mem_filter.mp (List.mem_filter.mp hr).1).2
  exact (selects_withServers hids).mp hreads.2.2

lemma mem_serverIds_of_netRaw (hids : serverIds ≠ []) {r : NetIoRow}
    (hr : r ∈ netRaw db (ctx.withServers serverIds)) : r.serverId ∈ serverIds := by
  have hreads : (ctx.withServers serverIds).Reads _ r.serverId r.collectedAt :=
    of_decide_eq_true (List.mem_filter.mp (List.mem_filter.mp hr).1).2
  exact (selects_withServers hids).mp hreads.2.2

end Split

/-- The charts of the environment count the servers whose own charts are one. -/
theorem countsServers_metricTrend (signal : HostSignal) (db : MetricTables) (ctx : MetricTrendCtx)
    {serverIds : List ℕ} (hids : serverIds ≠ []) (hnodup : serverIds.Nodup) :
    CountsServers (metricTrend signal.hosts db (ctx.withServers serverIds))
      (fun sid => metricTrend signal.own db (ctx.withServers [sid])) serverIds := by
  cases signal with
  | cpuSaturation =>
    apply countsServers_of_isShare hnodup
    · intro x hx
      obtain ⟨p, hp, rfl⟩ := List.mem_map.mp hx
      exact mem_serverIds_of_joinedOf hids (List.mem_filter.mp hp).1
    · intro sid hsid
      apply isShare_of_mem
      intro x
      rw [cpuSaturationFlags_own hsid, List.mem_filter, decide_eq_true_eq]
    · exact fun sid => rfl
  | memPagingPressure =>
    apply countsServers_of_isShare hnodup
    · intro x hx
      obtain ⟨r, hr, hflag⟩ := List.mem_filterMap.mp hx
      obtain ⟨rate, _, rfl⟩ := Option.map_eq_some_iff.mp hflag
      obtain ⟨p, hp, hsample⟩ := List.mem_filterMap.mp (List.mem_filter.mp hr).1
      obtain ⟨v, _, rfl⟩ := Option.map_eq_some_iff.mp hsample
      exact mem_serverIds_of_joinedOf hids hp
    · intro sid hsid
      apply isShare_of_mem
      intro x
      rw [memPagingFlags_own hsid, List.mem_filter, decide_eq_true_eq]
    · exact fun sid => rfl
  | diskSaturation =>
    apply countsServers_of_isShare hnodup
    · intro x hx
      obtain ⟨k, hk, rfl⟩ := mem_groupBy.mp hx
      obtain ⟨y, hy, rfl⟩ := List.mem_map.mp hk
      obtain ⟨r, hr, rfl⟩ := List.mem_map.mp hy
      exact mem_serverIds_of_diskRaw hids (List.mem_filter.mp hr).1
    · intro sid hsid
      apply isShare_groupBy
      intro x
      rw [diskPerDev_own hsid, List.mem_filter, decide_eq_true_eq]
    · exact fun sid => rfl
  | netCongested =>
    apply countsServers_of_isShare hnodup
    · intro y hy
      obtain ⟨x, hx, rfl⟩ := List.mem_map.mp hy
      obtain ⟨n, hn, rfl⟩ := List.mem_map.mp hx
      obtain ⟨k, hk, rfl⟩ := mem_groupBy.mp (List.mem_filter.mp hn).1
      obtain ⟨r, hr, rfl⟩ := List.mem_map.mp hk
      exact mem_serverIds_of_netRaw hids hr
    · intro sid hsid
      have hmem : ∀ y : HostFlag,
          y ∈ (netFlags db (ctx.withServers [sid])).map NetFlag.hostFlag ↔
            y ∈ (netFlags db (ctx.withServers serverIds)).map NetFlag.hostFlag ∧
              y.serverId = sid := by
        intro y
        simp only [List.mem_map, mem_netFlags_own hsid]
        constructor
        · rintro ⟨x, ⟨hx, hserver⟩, rfl⟩
          exact ⟨⟨x, hx, rfl⟩, hserver⟩
        · rintro ⟨⟨x, hx, rfl⟩, hserver⟩
          exact ⟨x, ⟨hx, hserver⟩, rfl⟩
      have hshare := isShare_of_mem hmem
      rwa [List.map_map] at hshare
    · exact fun sid => rfl

/-- A run queue at an instant. -/
def runQueueSample (sid : ℕ) (t : ℤ) (runQueue : ℚ) : MetricsRow :=
  { MetricsRow.blank sid t with cpuRunQueue := some runQueue }

/-- Two servers with four cores, of which the first has eight runnable processes. -/
def loadedFleet : MetricTables :=
  { MetricTables.empty with
    serverInventory :=
      { rows := [⟨1, "first", some "linux", some 4, none, none⟩,
          ⟨2, "second", some "linux", some 4, none, none⟩]
        sorted := by decide }
    publicIds_nodup := by decide
    serverMetrics :=
      { rows := [runQueueSample 1 1699999800000000 8, runQueueSample 2 1699999860000000 1]
        sorted := by decide } }

/-- The five minutes up to 22:13:20 in buckets of five minutes. -/
def lastMinutes : MetricTrendCtx where
  bucket := .m5
  agg := .avg
  start := 1699999700000000
  stop := 1700000000000000
  serverIds := none
  dimension := none
  collapse := true

theorem loadedFleet_counts :
    CountsServers (metricTrend .cpuSaturationHosts loadedFleet (lastMinutes.withServers [1, 2]))
        (fun sid => metricTrend .cpuSaturation loadedFleet (lastMinutes.withServers [sid]))
        [1, 2] ∧
      metricTrend .cpuSaturationHosts loadedFleet (lastMinutes.withServers [1, 2]) =
        [⟨1699999800000000, some 1, none, none⟩] :=
  ⟨countsServers_metricTrend .cpuSaturation loadedFleet lastMinutes (by decide) (by decide),
    by decide +kernel⟩

end AssessmentEngine
