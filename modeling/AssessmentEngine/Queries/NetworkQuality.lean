import AssessmentEngine.Queries.LatestSaturation

/-!
# The quality of the network, now and in the chart

The chart takes the increments of each physical interface, clamps them and adds them up; the
current figures add up the counters of all interfaces first.  The two agree when the interfaces that
did not simply count up add nothing (`qualityAgrees_of_regular`).  What else could make them agree
is a coincidence: what those interfaces seem to have dropped stands to their packets as the drops of
the others do (`qualityAgrees_iff_ratio`).
-/

namespace AssessmentEngine

open RowGroups RowRanks

/-! ## What the interfaces counted -/

section Interfaces

variable (db : MetricTables) (n2 : List NetIoRow) (newest : ℤ) (f : NetIoRow → Option ℤ)

/-- The newest sample of each interface. -/
def newestNet : List NetIoRow :=
  n2.filter fun r => ∀ a ∈ n2, a.ifaceId = r.ifaceId → a.collectedAt ≤ r.collectedAt

/-- The counter of an interface less its value in the sample before; what is missing counts zero. -/
def countedSince (r : NetIoRow) : ℤ :=
  (f r).getD 0 - (netLag n2 r).elim 0 fun prev => (f prev).getD 0

/-- The interface is physical, was sampled at the newest instant, and its counter was measured there
and in the sample before and did not fall. -/
def countsUp (r : NetIoRow) : Bool :=
  db.physIface r.serverId r.ifaceId && r.collectedAt = newest && (netLag n2 r).any fun prev =>
    (f r).any fun u => (f prev).any fun v => v ≤ u

/-- What the interfaces counted that count up. -/
def regularCount : ℤ :=
  (((newestNet n2).filter (countsUp db n2 newest f)).map (countedSince n2 f)).sum

/-- What the others seem to have counted: those that are virtual, gone, new, not measured or
reset. -/
def oddCount : ℤ :=
  (((newestNet n2).filter fun r => !countsUp db n2 newest f r).map (countedSince n2 f)).sum

/-- An interface has two samples. -/
def HasPair : Prop := ∃ r ∈ newestNet n2, (netLag n2 r).isSome = true

end Interfaces

namespace MetricTables

variable (db : MetricTables) (sid : ℕ)

/-- The sample of a host at an instant. -/
def hostAt (t : ℤ) : Option MetricsRow :=
  db.serverMetrics.rows.find? fun r => r.serverId = sid ∧ r.collectedAt = t

/-- The retransmits of a host between two instants. -/
def retransGrowth (newest before : ℤ) : Option ℤ :=
  minus ((db.hostAt sid newest).bind fun r => r.netTcpRetransmits)
    ((db.hostAt sid before).bind fun r => r.netTcpRetransmits)

end MetricTables

/-! ## The two newest instants -/

/-- The newest of some instants and the one before. -/
structure TwoNewest (times : List ℤ) (newest before : ℤ) : Prop where
  newest_mem : newest ∈ times
  before_mem : before ∈ times
  before_lt : before < newest
  eq_or_le : ∀ t ∈ times, t = newest ∨ t ≤ before

/-- The two newest instants of a server are shared by its interfaces and the host, and the chart
shows the newest and reads the one before. -/
structure SharedNewest (db : MetricTables) (ctx : MetricTrendCtx) (sid : ℕ)
    (since now newest before : ℤ) : Prop where
  netTimes : TwoNewest ((db.netIoIn [sid] since now).map fun r => r.collectedAt) newest before
  hostTimes : TwoNewest ((db.metricsIn [sid] since now).map fun r => r.collectedAt) newest before
  selects : ctx.Selects sid
  start_le : ctx.start ≤ newest
  windowStart_le : ctx.windowStart ≤ before
  le_stop : newest ≤ ctx.stop

/-- A value of the chart for a server at an instant. -/
def ChartShows (db : MetricTables) (ctx : MetricTrendCtx) (sid : ℕ) (t : ℤ)
    (f : NetFlag → Option ℚ) (v : ℚ) : Prop :=
  ∃ x ∈ netFlags db ctx, x.collectedAt = t ∧ x.serverId = sid ∧ f x = some v

/-- The percentages that are shown for a server now are those of the chart at the newest instant. -/
def QualityAgrees (db : MetricTables) (ctx : MetricTrendCtx) (sids : List ℕ) (sid : ℕ)
    (since now newest : ℤ) : Prop :=
  ∀ raw, (sid, raw) ∈ db.latestSaturation sids since now →
    (∀ v, raw.retransPct = some v → ChartShows db ctx sid newest (fun x => x.retransPct) v) ∧
      ∀ v, raw.dropPct = some v → ChartShows db ctx sid newest (fun x => x.dropPct) v

/-- The sample before the newest one of a physical interface is the same in both windows: it is the
sample at the instant before, or the interface has come back and the older sample is in both windows
or in neither. -/
def SamePrevious (db : MetricTables) (ctx : MetricTrendCtx) (sid : ℕ) (since now newest : ℤ) :
    Prop :=
  ∀ r ∈ db.netIoIn [sid] since now, db.physIface r.serverId r.ifaceId = true →
    r.collectedAt = newest →
      netLag (netRaw db ctx) r = netLag (db.netIoIn [sid] since now) r

/-- The retransmits are divided by what the regular interfaces sent: the others sent nothing, or
nothing was retransmitted. -/
def RetransRegular (db : MetricTables) (sid : ℕ) (since now newest before : ℤ) : Prop :=
  let n2 := db.netIoIn [sid] since now
  let sent := regularCount db n2 newest NetIoRow.txPackets
  let oddSent := oddCount db n2 newest NetIoRow.txPackets
  ∀ growth, db.retransGrowth sid newest before = some growth → 0 ≤ growth → 0 < sent + oddSent →
    0 < sent ∧ (growth = 0 ∨ oddSent = 0)

section Drops

variable (db : MetricTables) (sid : ℕ) (since now newest : ℤ)

/-- The packets of the regular interfaces, both ways. -/
def regularPackets : ℤ :=
  regularCount db (db.netIoIn [sid] since now) newest NetIoRow.txPackets +
    regularCount db (db.netIoIn [sid] since now) newest NetIoRow.rxPackets

def oddPackets : ℤ :=
  oddCount db (db.netIoIn [sid] since now) newest NetIoRow.txPackets +
    oddCount db (db.netIoIn [sid] since now) newest NetIoRow.rxPackets

/-- What the regular interfaces dropped, both ways. -/
def regularDropped : ℤ :=
  regularCount db (db.netIoIn [sid] since now) newest NetIoRow.rxDropped +
    regularCount db (db.netIoIn [sid] since now) newest NetIoRow.txDropped

def oddDropped : ℤ :=
  oddCount db (db.netIoIn [sid] since now) newest NetIoRow.rxDropped +
    oddCount db (db.netIoIn [sid] since now) newest NetIoRow.txDropped

/-- The others dropped nothing, and counted no packets unless nothing was dropped at all. -/
def DropsRegular : Prop :=
  0 < regularPackets db sid since now newest + oddPackets db sid since now newest →
    0 ≤ regularDropped db sid since now newest + oddDropped db sid since now newest →
      0 < regularPackets db sid since now newest ∧ oddDropped db sid since now newest = 0 ∧
        (regularDropped db sid since now newest = 0 ∨ oddPackets db sid since now newest = 0)

/-- The others dropped as many of their packets as the regular ones did. -/
def DropsInRatio : Prop :=
  0 < regularPackets db sid since now newest + oddPackets db sid since now newest →
    0 ≤ regularDropped db sid since now newest + oddDropped db sid since now newest →
      0 < regularPackets db sid since now newest ∧
        oddDropped db sid since now newest * regularPackets db sid since now newest =
          regularDropped db sid since now newest * oddPackets db sid since now newest

variable {db sid since now newest}

lemma DropsRegular.inRatio (h : DropsRegular db sid since now newest) :
    DropsInRatio db sid since now newest := by
  intro hpackets hdropped
  obtain ⟨hpos, hodd, hnone | hnone⟩ := h hpackets hdropped
  · exact ⟨hpos, by rw [hodd, hnone, zero_mul, zero_mul]⟩
  · exact ⟨hpos, by rw [hodd, hnone, zero_mul, mul_zero]⟩

end Drops

/-- Where percentages are shown, the interfaces that do not count up do not change them. -/
structure QualityRegular (db : MetricTables) (ctx : MetricTrendCtx) (sid : ℕ)
    (since now newest before : ℤ) : Prop where
  samePrevious : SamePrevious db ctx sid since now newest
  retrans : HasPair (db.netIoIn [sid] since now) → RetransRegular db sid since now newest before
  drops : HasPair (db.netIoIn [sid] since now) → DropsRegular db sid since now newest

/-! ## The current figures -/

section Now

variable {db : MetricTables} {sids : List ℕ} {sid : ℕ} {since now : ℤ}

lemma netIoIn_own (hsid : sid ∈ sids) :
    rowsWith (fun r : NetIoRow => r.serverId) sid (db.netIoIn sids since now) =
      db.netIoIn [sid] since now := by
  rw [rowsWith, MetricTables.netIoIn, MetricTables.netIoIn, List.filter_filter]
  apply List.filter_congr
  intro r _
  rw [← Bool.decide_and, decide_eq_decide, List.mem_singleton]
  constructor
  · rintro ⟨rfl, -, hwindow⟩
    exact ⟨rfl, hwindow⟩
  · rintro ⟨rfl, hwindow⟩
    exact ⟨rfl, hsid, hwindow⟩

lemma serverId_of_netIoIn {r : NetIoRow} (hr : r ∈ db.netIoIn [sid] since now) :
    r.serverId = sid :=
  List.mem_singleton.mp (of_decide_eq_true (List.mem_filter.mp hr).2).1

/-- No interface has two samples at one instant. -/
lemma nodup_netIoIn_keys (db : MetricTables) (sids : List ℕ) (since now : ℤ) :
    ((db.netIoIn sids since now).map
      fun r => ((r.serverId, r.ifaceId), r.collectedAt)).Nodup := by
  refine (db.serverNetIo.nodup.filter _).map_on fun a ha b hb heq => ?_
  have hparts := Prod.mk.inj heq
  have hdevice := Prod.mk.inj hparts.1
  apply db.serverNetIo.eq_of_key_eq (List.mem_of_mem_filter ha) (List.mem_of_mem_filter hb)
  rw [NetIoRow.key, NetIoRow.key, hdevice.1, hdevice.2, hparts.2]

lemma newestNet_eq :
    newestNet (db.netIoIn [sid] since now) =
      ranked (netRn (db.netIoIn [sid] since now)) 1 (db.netIoIn [sid] since now) := by
  apply List.filter_congr
  intro r hr
  rw [decide_eq_decide, netRn, rowNumber_eq_one_iff]
  refine forall₂_congr fun a ha => ?_
  rw [Prod.mk.injEq, serverId_of_netIoIn ha, serverId_of_netIoIn hr]
  simp

/-- The numbers of the rows of a server do not depend on the other servers. -/
lemma ranked_netRn (hsid : sid ∈ sids) (n : ℕ) :
    ranked (netRn (db.netIoIn sids since now)) n
        (rowsWith (fun r : NetIoRow => r.serverId) sid (db.netIoIn sids since now)) =
      ranked (netRn (db.netIoIn [sid] since now)) n (db.netIoIn [sid] since now) := by
  rw [netIoIn_own hsid]
  apply List.filter_congr
  intro r hr
  have hrn : netRn (db.netIoIn [sid] since now) r = netRn (db.netIoIn sids since now) r := by
    rw [← netIoIn_own hsid]
    refine rowNumber_filter fun a ha => decide_eq_true ?_
    exact (congrArg Prod.fst ha).trans (serverId_of_netIoIn hr)
  rw [hrn]

/-- The rows of a server with their numbers, as `nt` groups them. -/
def netGroup (n2 : List NetIoRow) (sid : ℕ) : List NetIoRow :=
  rowsWith (fun r : NetIoRow => r.serverId) sid (n2.filter fun r => netRn n2 r ≤ 2)

/-- The sum over the newest samples of a server less that over the second newest. -/
def sumsNow (n2 : List NetIoRow) (sid : ℕ) (f : NetIoRow → ℤ) : Option ℤ :=
  minus (sumAt (netRn n2) 1 f (netGroup n2 sid)) (sumAt (netRn n2) 2 f (netGroup n2 sid))

lemma ranked_netGroup (hsid : sid ∈ sids) {n : ℕ} (hn : n ≤ 2) :
    ranked (netRn (db.netIoIn sids since now)) n (netGroup (db.netIoIn sids since now) sid) =
      ranked (netRn (db.netIoIn [sid] since now)) n (db.netIoIn [sid] since now) := by
  rw [netGroup, ranked_rowsWith_filter hn, ranked_netRn hsid]

lemma hasPair_iff : HasPair (db.netIoIn [sid] since now) ↔
    ranked (netRn (db.netIoIn [sid] since now)) 2 (db.netIoIn [sid] since now) ≠ [] := by
  have hkeys := nodup_netIoIn_keys db [sid] since now
  have hnone : ranked (netRn (db.netIoIn [sid] since now)) 2 (db.netIoIn [sid] since now) = [] ↔
      ∀ r ∈ ranked (netRn (db.netIoIn [sid] since now)) 1 (db.netIoIn [sid] since now),
        netLag (db.netIoIn [sid] since now) r = none :=
    ranked_two_eq_nil_iff hkeys
  rw [ne_eq, hnone, HasPair, newestNet_eq]
  push Not
  simp only [Option.isSome_iff_ne_none, ne_eq]

/-- The difference of the sums is the sum of the differences. -/
lemma sumsNow_eq (hsid : sid ∈ sids) (f : NetIoRow → ℤ)
    (hpair : HasPair (db.netIoIn [sid] since now)) :
    sumsNow (db.netIoIn sids since now) sid f =
      some ((newestNet (db.netIoIn [sid] since now)).map fun r =>
        f r - (netLag (db.netIoIn [sid] since now) r).elim 0 f).sum := by
  have hkeys := nodup_netIoIn_keys db [sid] since now
  have htwo := hasPair_iff.mp hpair
  obtain ⟨r, hr, -⟩ := hpair
  rw [newestNet_eq] at hr ⊢
  rw [sumsNow, sumAt_eq, sumAt_eq, ranked_netGroup hsid (by omega), ranked_netGroup hsid le_rfl,
    if_neg (List.ne_nil_of_mem hr), if_neg htwo]
  exact congrArg some (sum_ranked_sub hkeys f)

/-- Without a second sample there is no difference. -/
lemma sumsNow_eq_none (hsid : sid ∈ sids) (f : NetIoRow → ℤ)
    (hpair : ¬HasPair (db.netIoIn [sid] since now)) :
    sumsNow (db.netIoIn sids since now) sid f = none := by
  rw [hasPair_iff, not_not] at hpair
  rw [sumsNow, sumAt_eq _ 2, ranked_netGroup hsid le_rfl, if_pos hpair]
  cases sumAt (netRn (db.netIoIn sids since now)) 1 f
    (netGroup (db.netIoIn sids since now) sid) <;> rfl

lemma find?_netsNow (hsid : sid ∈ sids) (hrow : db.netIoIn [sid] since now ≠ []) :
    (db.netsNow sids since now).find? (fun n => decide (n.serverId = sid)) =
      some (netNowOf (db.netIoIn sids since now) sid
        (netGroup (db.netIoIn sids since now) sid)) := by
  have hkeys := nodup_netIoIn_keys db [sid] since now
  obtain ⟨r, hr⟩ := List.exists_mem_of_ne_nil _ hrow
  obtain ⟨a, ha, -, hone⟩ := exists_rowNumber_one hkeys hr
  have hranked := mem_ranked.mpr ⟨ha, hone⟩
  have hgroup : a ∈ ranked (netRn (db.netIoIn sids since now)) 1
      (netGroup (db.netIoIn sids since now) sid) := by
    rw [ranked_netGroup hsid (by omega)]
    exact hranked
  obtain ⟨hmem, hserver⟩ := mem_rowsWith.mp (mem_ranked.mp hgroup).1
  unfold MetricTables.netsNow
  rw [find?_groupBy fun _ _ => rfl, if_pos (List.mem_map.mpr ⟨a, hmem, hserver⟩)]
  rfl

lemma sum_countedSince (n2 : List NetIoRow) (newest : ℤ) (f : NetIoRow → Option ℤ) :
    ((newestNet n2).map (countedSince n2 f)).sum =
      regularCount db n2 newest f + oddCount db n2 newest f :=
  sum_eq_sum_filter_add _ _ _

lemma sum_countedSince_add (n2 : List NetIoRow) (newest : ℤ) (f g : NetIoRow → Option ℤ) :
    ((newestNet n2).map fun r => ((f r).getD 0 + (g r).getD 0) -
      (netLag n2 r).elim 0 fun prev => (f prev).getD 0 + (g prev).getD 0).sum =
        (regularCount db n2 newest f + oddCount db n2 newest f) +
          (regularCount db n2 newest g + oddCount db n2 newest g) := by
  rw [← sum_countedSince, ← sum_countedSince, ← List.sum_map_add]
  refine congrArg List.sum (List.map_congr_left fun r _ => ?_)
  unfold countedSince
  cases netLag n2 r with
  | none => simp
  | some prev =>
    simp only [Option.elim_some]
    ring

/-! ### The host -/

/-- No host has two samples at one instant. -/
lemma nodup_hostRows_keys :
    ((db.hostRows sids since now).map fun p => (p.1.serverId, p.1.collectedAt)).Nodup := by
  have hrows : (db.metricsIn sids since now).Nodup := db.serverMetrics.nodup.filter _
  rw [List.nodup_iff_pairwise_ne, List.pairwise_map, MetricTables.hostRows,
    List.pairwise_filterMap]
  refine hrows.imp_of_mem ?_
  rintro a b ha hb hne p hp q hq heq
  obtain ⟨si, -, rfl⟩ := Option.map_eq_some_iff.mp hp
  obtain ⟨si', -, rfl⟩ := Option.map_eq_some_iff.mp hq
  obtain ⟨hserver, htime⟩ := Prod.mk.inj heq
  apply hne
  apply db.serverMetrics.eq_of_key_eq (List.mem_of_mem_filter ha) (List.mem_of_mem_filter hb)
  rw [MetricsRow.key, MetricsRow.key, hserver, htime]

lemma mem_hostRows (hsid : sid ∈ sids) {si : InventoryRow} (hserver : db.server sid = some si)
    {p : MetricsRow × InventoryRow} :
    p ∈ db.hostRows sids since now ∧ p.1.serverId = sid ↔
      p.1 ∈ db.metricsIn [sid] since now ∧ p.2 = si := by
  obtain ⟨r, s⟩ := p
  simp only [MetricTables.hostRows, List.mem_filterMap, Option.map_eq_some_iff, Prod.mk.injEq,
    MetricTables.metricsIn, List.mem_filter, decide_eq_true_eq, List.mem_singleton]
  constructor
  · rintro ⟨⟨a, ⟨ha, -, hwindow⟩, b, hb, rfl, rfl⟩, rfl⟩
    rw [hserver] at hb
    exact ⟨⟨ha, rfl, hwindow⟩, (Option.some.inj hb).symm⟩
  · rintro ⟨⟨ha, rfl, hwindow⟩, rfl⟩
    exact ⟨⟨r, ⟨ha, hsid, hwindow⟩, s, hserver, rfl, rfl⟩, rfl⟩

/-- The newest sample of a host, and the one before. -/
structure NewestHost (db : MetricTables) (sids : List ℕ) (sid : ℕ) (since now newest before : ℤ)
    (p prev : MetricsRow × InventoryRow) : Prop where
  mem : p ∈ db.hostRows sids since now
  serverId : p.1.serverId = sid
  at_newest : db.hostAt sid newest = some p.1
  at_before : db.hostAt sid before = some prev.1
  hostRn_one : hostRn (db.hostRows sids since now) p = 1
  lag_eq : lag (fun p : MetricsRow × InventoryRow => p.1.serverId) (fun p => p.1.collectedAt)
    (db.hostRows sids since now) p = some prev

lemma hostAt_of_mem {r : MetricsRow} (hr : r ∈ db.metricsIn [sid] since now) :
    db.hostAt sid r.collectedAt = some r := by
  have hserver : r.serverId = sid :=
    List.mem_singleton.mp (of_decide_eq_true (List.mem_filter.mp hr).2).1
  have hfound := Table.findId_of_mem db.serverMetrics.nodup_keys (List.mem_of_mem_filter hr)
  rw [← hfound, MetricTables.hostAt, Table.findId]
  refine congrArg (List.find? · _) (funext fun a => ?_)
  simp [MetricsRow.key, hserver]

variable {newest before : ℤ}

lemma exists_newestHost (hsid : sid ∈ sids) {si : InventoryRow} (hserver : db.server sid = some si)
    (htimes : TwoNewest ((db.metricsIn [sid] since now).map fun r => r.collectedAt) newest
      before) : ∃ p prev, NewestHost db sids sid since now newest before p prev := by
  obtain ⟨r, hr, hnewest⟩ := List.mem_map.mp htimes.newest_mem
  obtain ⟨r', hr', hbefore⟩ := List.mem_map.mp htimes.before_mem
  obtain ⟨hp, hpserver⟩ := (mem_hostRows hsid hserver (p := (r, si))).mpr ⟨hr, rfl⟩
  obtain ⟨hp', hpserver'⟩ := (mem_hostRows hsid hserver (p := (r', si))).mpr ⟨hr', rfl⟩
  have hown : ∀ q ∈ db.hostRows sids since now, q.1.serverId = r.serverId →
      q.1.collectedAt = newest ∨ q.1.collectedAt ≤ before := by
    intro q hq hqserver
    apply htimes.eq_or_le
    exact List.mem_map_of_mem ((mem_hostRows hsid hserver).mp ⟨hq, hqserver.trans hpserver⟩).1
  have hlt := htimes.before_lt
  refine ⟨(r, si), (r', si), hp, hpserver, ?_, ?_, ?_, ?_⟩
  · rw [← hnewest]
    exact hostAt_of_mem hr
  · rw [← hbefore]
    exact hostAt_of_mem hr'
  · refine rowNumber_eq_one_iff.mpr fun q hq hqserver => ?_
    rcases hown q hq hqserver with h | h
    · exact (h.trans hnewest.symm).le
    · exact h.trans (hlt.le.trans hnewest.ge)
  · refine (lag_eq_some_iff nodup_hostRows_keys).mpr ⟨⟨hp', ?_, ?_⟩, fun q hq hqserver hqlt => ?_⟩
    · exact hpserver'.trans hpserver.symm
    · simpa [hnewest, hbefore] using hlt
    · rcases hown q hq hqserver with h | h
      · exact absurd hqlt (not_lt.mpr (hnewest.trans h.symm).le)
      · exact h.trans hbefore.ge

lemma maxSome_singleton {α : Type} [LinearOrder α] (v : Option α) : Nullable.maxSome [v] = v := by
  cases v <;> rfl

/-- What `m` says about the retransmits of a host. -/
lemma retransDelta_eq {p prev : MetricsRow × InventoryRow}
    (h : NewestHost db sids sid since now newest before p prev) {m : HostNow}
    (hm : m ∈ db.hostsNow sids since now) (hmsid : m.serverId = sid) :
    m.retransDelta = db.retransGrowth sid newest before := by
  obtain ⟨k, hk, rfl⟩ := mem_groupBy.mp hm
  have hksid : k = p.1.serverId := hmsid.trans h.serverId.symm
  subst hksid
  have hone := ranked_one_rowsWith nodup_hostRows_keys h.mem h.hostRn_one
  have htwo := ranked_two_rowsWith nodup_hostRows_keys h.mem h.hostRn_one
  rw [h.lag_eq] at htwo
  have hgroup : ∀ n, n ≤ 2 → ranked (hostRn (db.hostRows sids since now)) n
      (rowsWith (fun p : MetricsRow × InventoryRow => p.1.serverId) p.1.serverId
        ((db.hostRows sids since now).filter fun p =>
          hostRn (db.hostRows sids since now) p ≤ 2)) =
      ranked (hostRn (db.hostRows sids since now)) n
        (rowsWith (fun p : MetricsRow × InventoryRow => p.1.serverId) p.1.serverId
          (db.hostRows sids since now)) :=
    fun n hn => ranked_rowsWith_filter hn _
  unfold hostNowOf MetricTables.retransGrowth
  simp only [maxAt_eq]
  rw [hgroup 1 (by omega), hgroup 2 le_rfl, h.at_newest, h.at_before]
  unfold hostRn
  rw [hone, htwo]
  exact congrArg₂ minus (maxSome_singleton _) (maxSome_singleton _)

/-- What is shown for a server now. -/
lemma latestSaturation_eq {p prev : MetricsRow × InventoryRow} (hsid : sid ∈ sids)
    (h : NewestHost db sids sid since now newest before p prev)
    (hrow : db.netIoIn [sid] since now ≠ []) {raw : SaturationRaw}
    (hraw : (sid, raw) ∈ db.latestSaturation sids since now) :
    raw.retransPct = shownPct (db.retransGrowth sid newest before)
        (sumsNow (db.netIoIn sids since now) sid NetIoRow.sent) ∧
      raw.dropPct = shownPct (sumsNow (db.netIoIn sids since now) sid NetIoRow.dropped)
        (sumsNow (db.netIoIn sids since now) sid NetIoRow.packets) := by
  rw [MetricTables.latestSaturation, if_neg (List.ne_nil_of_mem hsid)] at hraw
  obtain ⟨m, hm, heq⟩ := List.mem_map.mp hraw
  obtain ⟨hmsid, rfl⟩ := Prod.mk.inj heq
  simp only [hmsid, find?_netsNow hsid hrow, retransDelta_eq h hm hmsid]
  exact ⟨rfl, rfl⟩

lemma exists_latestSaturation {p prev : MetricsRow × InventoryRow} (hsid : sid ∈ sids)
    (h : NewestHost db sids sid since now newest before p prev) :
    ∃ raw, (sid, raw) ∈ db.latestSaturation sids since now := by
  have hrn : hostRn (db.hostRows sids since now) p ≤ 2 := by
    rw [h.hostRn_one]
    omega
  have hp : p ∈ (db.hostRows sids since now).filter fun p =>
      hostRn (db.hostRows sids since now) p ≤ 2 :=
    List.mem_filter.mpr ⟨h.mem, decide_eq_true hrn⟩
  have hm : ∃ m ∈ db.hostsNow sids since now, m.serverId = sid :=
    ⟨_, mem_groupBy.mpr ⟨_, List.mem_map.mpr ⟨p, hp, rfl⟩, rfl⟩, h.serverId⟩
  obtain ⟨m, hm, hmsid⟩ := hm
  rw [MetricTables.latestSaturation, if_neg (List.ne_nil_of_mem hsid)]
  exact ⟨_, List.mem_map.mpr ⟨m, hm, Prod.ext hmsid rfl⟩⟩

end Now

/-! ## The chart -/

section Chart

variable {db : MetricTables} {ctx : MetricTrendCtx} {sid : ℕ} {since now newest before : ℤ}

/-- The samples of the physical interfaces of a server at an instant. -/
def chartGroup (db : MetricTables) (ctx : MetricTrendCtx) (sid : ℕ) (t : ℤ) : List NetIoRow :=
  rowsWith (fun r : NetIoRow => (r.collectedAt, r.serverId)) (t, sid) (netRaw db ctx)

lemma chartShows_iff (hstart : ctx.start ≤ newest) {f : NetFlag → Option ℚ} {v : ℚ} :
    ChartShows db ctx sid newest f v ↔ chartGroup db ctx sid newest ≠ [] ∧
      f (netFlagOf (tcpDeltas db ctx)
        (netDeltaOf (netRaw db ctx) (newest, sid) (chartGroup db ctx sid newest))) = some v := by
  have hgroup : chartGroup db ctx sid newest ≠ [] ↔
      (newest, sid) ∈ (netRaw db ctx).map fun r => (r.collectedAt, r.serverId) := by
    rw [ne_eq, chartGroup, rowsWith_eq_nil_iff, not_not]
  rw [hgroup]
  constructor
  · rintro ⟨x, hx, htime, hserver, hv⟩
    obtain ⟨n, hn, rfl⟩ := List.mem_map.mp hx
    obtain ⟨k, hk, rfl⟩ := mem_groupBy.mp (List.mem_filter.mp hn).1
    obtain rfl : k = (newest, sid) := Prod.ext htime hserver
    exact ⟨hk, hv⟩
  · rintro ⟨hk, hv⟩
    refine ⟨_, List.mem_map.mpr ⟨_, List.mem_filter.mpr ⟨?_, ?_⟩, rfl⟩, rfl, rfl, hv⟩
    · exact mem_groupBy.mpr ⟨_, hk, rfl⟩
    · exact decide_eq_true hstart

/-- The newest instant is in both windows. -/
lemma reads_newest (h : SharedNewest db ctx sid since now newest before) :
    ctx.Reads ctx.windowStart sid newest ∧ since ≤ newest ∧ newest ≤ skewEnd now := by
  obtain ⟨r, hr, hnewest⟩ := List.mem_map.mp h.netTimes.newest_mem
  obtain ⟨-, hfirst, hlast⟩ := of_decide_eq_true (List.mem_filter.mp hr).2
  have hlt := h.netTimes.before_lt
  exact ⟨⟨h.windowStart_le.trans hlt.le, h.le_stop, h.selects⟩, hnewest ▸ hfirst, hnewest ▸ hlast⟩

/-- Clamping keeps what an interface counted up and drops the rest. -/
lemma greatestZero_lagDelta {n2 : List NetIoRow} {f : NetIoRow → Option ℤ} {r : NetIoRow}
    (hphys : db.physIface r.serverId r.ifaceId = true) (hnewest : r.collectedAt = newest) :
    (greatestZero ((netLag n2 r).bind fun prev => (f r).bind fun cur =>
        (f prev).map fun old => cur - old) : ℤ) =
      if countsUp db n2 newest f r then countedSince n2 f r else 0 := by
  unfold countsUp countedSince
  simp only [hphys, hnewest, decide_true, Bool.true_and]
  cases netLag n2 r with
  | none => simp [greatestZero]
  | some prev =>
    cases f r with
    | none => simp [greatestZero]
    | some u =>
      cases hv : f prev with
      | none => simp [greatestZero, hv]
      | some v =>
        by_cases hle : v ≤ u
        · simp [greatestZero, hv, hle]
        · have hlt : u - v ≤ 0 := by omega
          simp [greatestZero, hv, hle, hlt]

/-- The interfaces of the chart are some of the newest ones. -/
lemma chartGroup_eq (h : SharedNewest db ctx sid since now newest before) :
    chartGroup db ctx sid newest =
      (newestNet (db.netIoIn [sid] since now)).filter fun r =>
        db.physIface r.serverId r.ifaceId && r.collectedAt = newest := by
  have hle : ∀ a ∈ db.netIoIn [sid] since now, a.collectedAt ≤ newest := by
    intro a ha
    have hlt := h.netTimes.before_lt
    rcases h.netTimes.eq_or_le _ (List.mem_map_of_mem ha) with heq | hbefore
    · exact heq.le
    · exact hbefore.trans hlt.le
  have hnewest : ∀ r ∈ db.netIoIn [sid] since now, r.collectedAt = newest →
      ∀ a ∈ db.netIoIn [sid] since now, a.ifaceId = r.ifaceId → a.collectedAt ≤ r.collectedAt :=
    fun r _ hr a ha _ => hr ▸ hle a ha
  change _ = ((db.serverNetIo.rows.filter fun r =>
    r.serverId ∈ [sid] ∧ since ≤ r.collectedAt ∧ r.collectedAt ≤ skewEnd now).filter fun r =>
      ∀ a ∈ db.netIoIn [sid] since now, a.ifaceId = r.ifaceId →
        a.collectedAt ≤ r.collectedAt).filter _
  rw [chartGroup, rowsWith, netRaw, MetricTables.netIoOf, List.filter_filter, List.filter_filter,
    List.filter_filter, List.filter_filter]
  apply List.filter_congr
  intro r hr
  rw [Bool.eq_iff_iff]
  simp only [Bool.and_eq_true, decide_eq_true_eq, Prod.mk.injEq]
  obtain ⟨hreads, hfirst, hlast⟩ := reads_newest h
  constructor
  · rintro ⟨⟨⟨htime, hsid⟩, hphys⟩, -⟩
    have hwindow : r.serverId ∈ [sid] ∧ since ≤ r.collectedAt ∧ r.collectedAt ≤ skewEnd now :=
      ⟨List.mem_singleton.mpr hsid, htime ▸ hfirst, htime ▸ hlast⟩
    have hmem : r ∈ db.netIoIn [sid] since now :=
      List.mem_filter.mpr ⟨hr, decide_eq_true hwindow⟩
    exact ⟨⟨⟨hphys, htime⟩, hnewest r hmem htime⟩, hwindow⟩
  · rintro ⟨⟨⟨hphys, htime⟩, -⟩, hwindow⟩
    have hsid := List.mem_singleton.mp hwindow.1
    exact ⟨⟨⟨htime, hsid⟩, hphys⟩, hsid ▸ htime ▸ hreads⟩

/-- The clamped increments of the chart add up to what counted up. -/
lemma sum_netDelta (h : SharedNewest db ctx sid since now newest before)
    (hprevious : SamePrevious db ctx sid since now newest) (f : NetIoRow → Option ℤ) :
    ((chartGroup db ctx sid newest).map (netDelta f (netRaw db ctx))).sum =
      regularCount db (db.netIoIn [sid] since now) newest f := by
  rw [chartGroup_eq h, sum_filter, regularCount, sum_filter]
  refine congrArg List.sum (List.map_congr_left fun r hr => ?_)
  by_cases hchart : db.physIface r.serverId r.ifaceId = true ∧ r.collectedAt = newest
  · obtain ⟨hphys, hnewest⟩ := hchart
    rw [if_pos (by simp [hphys, hnewest]), ← greatestZero_lagDelta hphys hnewest,
      ← hprevious r (List.mem_of_mem_filter hr) hphys hnewest]
    rfl
  · have hnot : countsUp db (db.netIoIn [sid] since now) newest f r = false := by
      unfold countsUp
      rw [Bool.and_assoc, ← Bool.and_assoc, Bool.and_eq_false_iff]
      exact Or.inl (by simpa [Bool.and_eq_false_iff] using hchart)
    rw [hnot, if_neg (by simpa using hchart)]
    rfl

lemma netDelta_nonneg (raw : List NetIoRow) (f : NetIoRow → Option ℤ) (r : NetIoRow) :
    0 ≤ netDelta f raw r := by
  unfold netDelta greatestZero
  cases lagDelta (fun a : NetIoRow => (a.serverId, a.ifaceId)) (fun a => a.collectedAt) f raw r with
  | none => exact le_rfl
  | some v => exact le_max_right v 0

lemma regularCount_nonneg (h : SharedNewest db ctx sid since now newest before)
    (hprevious : SamePrevious db ctx sid since now newest) (f : NetIoRow → Option ℤ) :
    0 ≤ regularCount db (db.netIoIn [sid] since now) newest f := by
  rw [← sum_netDelta h hprevious]
  apply List.sum_nonneg
  intro v hv
  obtain ⟨r, _, rfl⟩ := List.mem_map.mp hv
  exact netDelta_nonneg _ _ _

/-- Where something counted up, the chart has the server at the newest instant. -/
lemma chartGroup_ne_nil (h : SharedNewest db ctx sid since now newest before)
    (hprevious : SamePrevious db ctx sid since now newest) {f : NetIoRow → Option ℤ}
    (hpos : 0 < regularCount db (db.netIoIn [sid] since now) newest f) :
    chartGroup db ctx sid newest ≠ [] := by
  intro hnil
  rw [← sum_netDelta h hprevious, hnil] at hpos
  exact lt_irrefl 0 hpos

/-! ### The host -/

/-- The chart reads the host at the two newest instants. -/
lemma reads_metrics (h : SharedNewest db ctx sid since now newest before) {r : MetricsRow}
    (hr : r ∈ db.metricsIn [sid] since now) (hfirst : before ≤ r.collectedAt)
    (hlast : r.collectedAt ≤ newest) : r ∈ db.metricsOf ctx ctx.windowStart ∧ r.serverId = sid := by
  obtain ⟨hmem, hsid, -⟩ := mem_metricsIn.mp hr
  obtain rfl := List.mem_singleton.mp hsid
  refine ⟨List.mem_filter.mpr ⟨hmem, decide_eq_true ⟨?_, ?_, h.selects⟩⟩, rfl⟩
  · exact h.windowStart_le.trans hfirst
  · exact hlast.trans h.le_stop

/-- The chart reads no sample between the two. -/
lemma le_before_of_reads (h : SharedNewest db ctx sid since now newest before) {r : MetricsRow}
    (hr : r ∈ db.metricsOf ctx ctx.windowStart) (hsid : r.serverId = sid)
    (hlt : r.collectedAt < newest) : r.collectedAt ≤ before := by
  by_contra hafter
  obtain ⟨q, hq, hnewest⟩ := List.mem_map.mp h.hostTimes.newest_mem
  obtain ⟨q', hq', hbefore⟩ := List.mem_map.mp h.hostTimes.before_mem
  obtain ⟨-, -, -, hlast⟩ := mem_metricsIn.mp hq
  obtain ⟨-, -, hfirst, -⟩ := mem_metricsIn.mp hq'
  -- a sample between the two would be in the window of the current figures
  have hmem : r ∈ db.metricsIn [sid] since now :=
    mem_metricsIn.mpr ⟨(List.mem_filter.mp hr).1, List.mem_singleton.mpr hsid, by omega, by omega⟩
  rcases h.hostTimes.eq_or_le _ (List.mem_map_of_mem hmem) with heq | hle <;> omega

lemma nodup_metricsOf_keys (first : ℤ) :
    ((db.metricsOf ctx first).map fun r => (r.serverId, r.collectedAt)).Nodup := by
  refine (db.serverMetrics.nodup.filter _).map_on fun a ha b hb heq => ?_
  obtain ⟨hserver, htime⟩ := Prod.mk.inj heq
  apply db.serverMetrics.eq_of_key_eq (List.mem_of_mem_filter ha) (List.mem_of_mem_filter hb)
  rw [MetricsRow.key, MetricsRow.key, hserver, htime]

/-- The chart finds the retransmits of the host at the newest instant. -/
lemma tcpDeltaFor_eq (h : SharedNewest db ctx sid since now newest before)
    (group : List NetIoRow) :
    (tcpDeltaFor (tcpDeltas db ctx) (netDeltaOf (netRaw db ctx) (newest, sid) group)).map
        (fun t => t.dRetrans) =
      some (greatestZero (db.retransGrowth sid newest before)) := by
  obtain ⟨r, hr, hnewest⟩ := List.mem_map.mp h.hostTimes.newest_mem
  obtain ⟨r', hr', hbefore⟩ := List.mem_map.mp h.hostTimes.before_mem
  have hlt := h.hostTimes.before_lt
  obtain ⟨hmem, hsid⟩ := reads_metrics h hr (by omega) hnewest.le
  obtain ⟨hmem', hsid'⟩ := reads_metrics h hr' hbefore.ge (by omega)
  have hlag : lag (fun a : MetricsRow => a.serverId) (fun a => a.collectedAt)
      (db.metricsOf ctx ctx.windowStart) r = some r' := by
    refine (lag_eq_some_iff (nodup_metricsOf_keys _)).mpr ⟨⟨hmem', hsid'.trans hsid.symm, ?_⟩, ?_⟩
    · omega
    · intro x hx hxsid hxlt
      have hle := le_before_of_reads h hx (hxsid.trans hsid) (by omega)
      omega
  have hgrowth : retransDelta (db.metricsOf ctx ctx.windowStart) r =
      greatestZero (db.retransGrowth sid newest before) := by
    rw [MetricTables.retransGrowth, ← hnewest, ← hbefore, hostAt_of_mem hr, hostAt_of_mem hr',
      retransDelta, lagDelta, hlag]
    rfl
  have hfound : (tcpDeltas db ctx).find? (fun t => t.collectedAt = newest ∧ t.serverId = sid) =
      some ⟨r.collectedAt, r.serverId, retransDelta (db.metricsOf ctx ctx.windowStart) r,
        conntrackRatioOf r⟩ := by
    have hrow := Table.findId_of_mem (nodup_metricsOf_keys ctx.windowStart) hmem
    unfold tcpDeltas
    rw [List.find?_map]
    refine (congrArg (Option.map _) (Eq.trans ?_ hrow)).trans rfl
    refine congrArg (List.find? · _) (funext fun a => ?_)
    simp [hnewest, hsid, and_comm]
  rw [← hgrowth]
  exact congrArg (Option.map _) hfound

end Chart

/-! ## When they agree -/

section Agree

variable {db : MetricTables} {ctx : MetricTrendCtx} {sids : List ℕ} {sid : ℕ}
  {since now newest before : ℤ}

lemma shownPct_eq_some_iff {num : Option ℤ} {den : ℤ} {v : ℚ} :
    shownPct num (some den) = some v ↔
      0 < den ∧ ∃ n, num = some n ∧ 0 ≤ n ∧ (n : ℚ) / den * 100 = v := by
  unfold shownPct
  cases num with
  | none => simp
  | some n =>
    by_cases hshown : 0 < den ∧ 0 ≤ n
    · have hne : (den : ℚ) ≠ 0 := by exact_mod_cast hshown.1.ne'
      simp [hshown, percent, ratio, column, hne]
    · rw [if_neg (by simpa using hshown)]
      simp only [reduceCtorEq, Option.some.injEq, exists_eq_left', false_iff]
      exact fun h => hshown ⟨h.1, h.2.1⟩

lemma percent_eq_some_iff {num den : ℤ} {v : ℚ} :
    percent (some num) (some den) = some v ↔ den ≠ 0 ∧ (num : ℚ) / den * 100 = v := by
  by_cases hden : den = 0 <;> simp [percent, ratio, hden]

/-- Two percentages agree when they are the same ratio. -/
lemma shown_agree_iff {num : Option ℤ} {den num' den' : ℤ} {shows : ℚ → Prop} {present : Prop}
    (hshows : ∀ v, shows v ↔ present ∧ percent (some num') (some den') = some v)
    (hnonneg : 0 ≤ den') (hpresent : 0 < den' → present) :
    (∀ v, shownPct num (some den) = some v → shows v) ↔
      ∀ n, num = some n → 0 ≤ n → 0 < den → 0 < den' ∧ n * den' = num' * den := by
  simp only [shownPct_eq_some_iff, hshows, percent_eq_some_iff]
  constructor
  · intro h n hn hn0 hden
    obtain ⟨-, hne, heq⟩ := h _ ⟨hden, n, hn, hn0, rfl⟩
    refine ⟨lt_of_le_of_ne hnonneg hne.symm, ?_⟩
    have hden' : (den' : ℚ) ≠ 0 := by exact_mod_cast hne
    have hden0 : (den : ℚ) ≠ 0 := by exact_mod_cast hden.ne'
    have hcast : (n : ℚ) * den' = num' * den := by
      field_simp at heq
      linarith
    exact_mod_cast hcast
  · rintro h v ⟨hden, n, hn, hn0, rfl⟩
    obtain ⟨hpos, heq⟩ := h n hn hn0 hden
    refine ⟨hpresent hpos, hpos.ne', ?_⟩
    have hden' : (den' : ℚ) ≠ 0 := by exact_mod_cast hpos.ne'
    have hden0 : (den : ℚ) ≠ 0 := by exact_mod_cast hden.ne'
    have hcast : (n : ℚ) * den' = num' * den := by exact_mod_cast heq
    field_simp
    linarith

/-- The retransmits of the chart. -/
lemma chartShows_retransPct_iff (h : SharedNewest db ctx sid since now newest before)
    (hprevious : SamePrevious db ctx sid since now newest) {growth : ℤ}
    (hgrowth : db.retransGrowth sid newest before = some growth) (hnonneg : 0 ≤ growth) (v : ℚ) :
    ChartShows db ctx sid newest (fun x => x.retransPct) v ↔
      chartGroup db ctx sid newest ≠ [] ∧
        percent (some growth)
          (some (regularCount db (db.netIoIn [sid] since now) newest NetIoRow.txPackets)) =
            some v := by
  have hretrans := tcpDeltaFor_eq h (chartGroup db ctx sid newest)
  rw [hgrowth] at hretrans
  have hclamped : greatestZero (some growth) = growth := max_eq_left hnonneg
  rw [chartShows_iff h.start_le, netFlagOf]
  simp only [hretrans, hclamped]
  rw [← sum_netDelta h hprevious]
  rfl

/-- The drops of the chart. -/
lemma chartShows_dropPct_iff (h : SharedNewest db ctx sid since now newest before)
    (hprevious : SamePrevious db ctx sid since now newest) (v : ℚ) :
    ChartShows db ctx sid newest (fun x => x.dropPct) v ↔
      chartGroup db ctx sid newest ≠ [] ∧
        percent (some ((regularDropped db sid since now newest : ℤ) : ℚ))
          (some ((regularPackets db sid since now newest : ℤ) : ℚ)) = some v := by
  rw [chartShows_iff h.start_le, netFlagOf, regularDropped, regularPackets]
  simp only [← sum_netDelta h hprevious]
  rw [add_comm ((chartGroup db ctx sid newest).map
    (netDelta NetIoRow.txPackets (netRaw db ctx))).sum]
  rfl

/-- The sums of the current figures, where an interface has two samples. -/
lemma sumsNow_sent (hsid : sid ∈ sids) (hpair : HasPair (db.netIoIn [sid] since now))
    (newest : ℤ) :
    sumsNow (db.netIoIn sids since now) sid NetIoRow.sent =
      some (regularCount db (db.netIoIn [sid] since now) newest NetIoRow.txPackets +
        oddCount db (db.netIoIn [sid] since now) newest NetIoRow.txPackets) := by
  rw [sumsNow_eq hsid _ hpair, ← sum_countedSince]
  rfl

lemma sumsNow_packets (hsid : sid ∈ sids) (hpair : HasPair (db.netIoIn [sid] since now))
    (newest : ℤ) :
    sumsNow (db.netIoIn sids since now) sid NetIoRow.packets =
      some (regularPackets db sid since now newest + oddPackets db sid since now newest) := by
  rw [sumsNow_eq hsid _ hpair, regularPackets, oddPackets, add_add_add_comm,
    ← sum_countedSince_add]
  rfl

lemma sumsNow_dropped (hsid : sid ∈ sids) (hpair : HasPair (db.netIoIn [sid] since now))
    (newest : ℤ) :
    sumsNow (db.netIoIn sids since now) sid NetIoRow.dropped =
      some (regularDropped db sid since now newest + oddDropped db sid since now newest) := by
  rw [sumsNow_eq hsid _ hpair, regularDropped, oddDropped, add_add_add_comm,
    ← sum_countedSince_add]
  rfl

/-- What is shown now has one value for a server. -/
lemma qualityAgrees_iff_shown (h : SharedNewest db ctx sid since now newest before)
    (hsid : sid ∈ sids) (hserver : (db.server sid).isSome) :
    QualityAgrees db ctx sids sid since now newest ↔
      (∀ v, shownPct (db.retransGrowth sid newest before)
          (sumsNow (db.netIoIn sids since now) sid NetIoRow.sent) = some v →
        ChartShows db ctx sid newest (fun x => x.retransPct) v) ∧
      ∀ v, shownPct (sumsNow (db.netIoIn sids since now) sid NetIoRow.dropped)
          (sumsNow (db.netIoIn sids since now) sid NetIoRow.packets) = some v →
        ChartShows db ctx sid newest (fun x => x.dropPct) v := by
  obtain ⟨si, hsi⟩ := Option.isSome_iff_exists.mp hserver
  obtain ⟨p, prev, hhost⟩ := exists_newestHost hsid hsi h.hostTimes
  have hrow : db.netIoIn [sid] since now ≠ [] := by
    obtain ⟨r, hr, _⟩ := List.mem_map.mp h.netTimes.newest_mem
    exact List.ne_nil_of_mem hr
  constructor
  · intro hagrees
    obtain ⟨raw, hraw⟩ := exists_latestSaturation hsid hhost
    obtain ⟨hretrans, hdrop⟩ := latestSaturation_eq hsid hhost hrow hraw
    rw [← hretrans, ← hdrop]
    exact hagrees raw hraw
  · intro hshown raw hraw
    obtain ⟨hretrans, hdrop⟩ := latestSaturation_eq hsid hhost hrow hraw
    rw [hretrans, hdrop]
    exact hshown

/-- The retransmits agree when nothing was retransmitted or the others sent nothing. -/
lemma retransPct_agrees_iff (h : SharedNewest db ctx sid since now newest before)
    (hprevious : SamePrevious db ctx sid since now newest) (hsid : sid ∈ sids)
    (hpair : HasPair (db.netIoIn [sid] since now)) :
    (∀ v, shownPct (db.retransGrowth sid newest before)
        (sumsNow (db.netIoIn sids since now) sid NetIoRow.sent) = some v →
      ChartShows db ctx sid newest (fun x => x.retransPct) v) ↔
      RetransRegular db sid since now newest before := by
  rw [sumsNow_sent hsid hpair newest, RetransRegular]
  cases hgrowth : db.retransGrowth sid newest before with
  | none => simp [shownPct]
  | some growth =>
    by_cases hnonneg : 0 ≤ growth
    · rw [shown_agree_iff (chartShows_retransPct_iff h hprevious hgrowth hnonneg)
        (regularCount_nonneg h hprevious _) (chartGroup_ne_nil h hprevious)]
      refine forall_congr' fun g => imp_congr_right fun hg => imp_congr_right fun _ =>
        imp_congr_right fun _ => and_congr_right fun _ => ?_
      obtain rfl := Option.some.inj hg
      constructor
      · intro heq
        have hprod : growth * oddCount db (db.netIoIn [sid] since now) newest
            NetIoRow.txPackets = 0 := by linarith
        exact mul_eq_zero.mp hprod
      · rintro (rfl | hodd)
        · rw [zero_mul, zero_mul]
        · rw [hodd, add_zero]
    · constructor
      · rintro - g hg hg0
        obtain rfl := Option.some.inj hg
        exact absurd hg0 hnonneg
      · intro _ v hv
        obtain ⟨-, n, hn, hn0, -⟩ := shownPct_eq_some_iff.mp hv
        obtain rfl := Option.some.inj hn
        exact absurd hn0 hnonneg

/-- The drops agree when the others dropped as many of their packets as the regular ones. -/
lemma dropPct_agrees_iff (h : SharedNewest db ctx sid since now newest before)
    (hprevious : SamePrevious db ctx sid since now newest) (hsid : sid ∈ sids)
    (hpair : HasPair (db.netIoIn [sid] since now)) :
    (∀ v, shownPct (sumsNow (db.netIoIn sids since now) sid NetIoRow.dropped)
        (sumsNow (db.netIoIn sids since now) sid NetIoRow.packets) = some v →
      ChartShows db ctx sid newest (fun x => x.dropPct) v) ↔
      DropsInRatio db sid since now newest := by
  have hnonneg : 0 ≤ regularPackets db sid since now newest :=
    add_nonneg (regularCount_nonneg h hprevious _) (regularCount_nonneg h hprevious _)
  have hpresent : 0 < regularPackets db sid since now newest →
      chartGroup db ctx sid newest ≠ [] := by
    intro hpos
    rcases lt_or_ge 0 (regularCount db (db.netIoIn [sid] since now) newest
      NetIoRow.txPackets) with htx | htx
    · exact chartGroup_ne_nil h hprevious htx
    · apply chartGroup_ne_nil h hprevious (f := NetIoRow.rxPackets)
      rw [regularPackets] at hpos
      omega
  rw [sumsNow_dropped hsid hpair newest, sumsNow_packets hsid hpair newest,
    shown_agree_iff (chartShows_dropPct_iff h hprevious) hnonneg hpresent, DropsInRatio]
  constructor
  · intro hdrop hden hnum
    obtain ⟨hpos, heq⟩ := hdrop _ rfl hnum hden
    exact ⟨hpos, by linarith⟩
  · intro hdrop n hn hnum hden
    obtain rfl := Option.some.inj hn
    obtain ⟨hpos, heq⟩ := hdrop hden hnum
    exact ⟨hpos, by linarith⟩

/-- Where the rows before are the same, the figures agree exactly when the retransmits are regular
and the drops of the other interfaces leave the ratio as it is. -/
lemma qualityAgrees_iff_ratio (h : SharedNewest db ctx sid since now newest before)
    (hprevious : SamePrevious db ctx sid since now newest) (hsid : sid ∈ sids)
    (hserver : (db.server sid).isSome) :
    QualityAgrees db ctx sids sid since now newest ↔
      (HasPair (db.netIoIn [sid] since now) →
        RetransRegular db sid since now newest before ∧ DropsInRatio db sid since now newest) := by
  rw [qualityAgrees_iff_shown h hsid hserver]
  by_cases hpair : HasPair (db.netIoIn [sid] since now)
  · rw [retransPct_agrees_iff h hprevious hsid hpair, dropPct_agrees_iff h hprevious hsid hpair]
    exact (true_imp_iff.symm.trans (imp_congr_left (iff_true_intro hpair).symm))
  · have hnone : ∀ f, sumsNow (db.netIoIn sids since now) sid f = none :=
      fun f => sumsNow_eq_none hsid f hpair
    simp only [hnone, hpair, false_imp_iff, iff_true]
    constructor
    · intro v hv
      simp [shownPct] at hv
    · intro v hv
      simp [shownPct] at hv

end Agree

/-- The current figures agree with the chart when the interfaces that do not count up do not change
them. -/
theorem qualityAgrees_of_regular {db : MetricTables} {ctx : MetricTrendCtx} {sids : List ℕ}
    {sid : ℕ} {since now newest before : ℤ} (h : SharedNewest db ctx sid since now newest before)
    (hsid : sid ∈ sids) (hserver : (db.server sid).isSome)
    (hregular : QualityRegular db ctx sid since now newest before) :
    QualityAgrees db ctx sids sid since now newest := by
  rw [qualityAgrees_iff_ratio h hregular.samePrevious hsid hserver]
  intro hpair
  exact ⟨hregular.retrans hpair, (hregular.drops hpair).inRatio⟩

/-! ## A host with a virtual interface -/

/-- Packets of an interface at an instant. -/
def packetsAt (ifaceId : String) (t sent : ℤ) : NetIoRow where
  serverId := 1
  ifaceId := ifaceId
  collectedAt := t
  rxBytes := some 0
  txBytes := some 0
  rxPackets := some 0
  txPackets := some sent
  rxErrors := some 0
  txErrors := some 0
  rxDropped := some 0
  txDropped := some 0

/-- A host that has been watched for more than half an hour.  In the last half minute the network
card sent a thousand packets, of which a hundred were retransmits, and the bridge of the containers
sent some more. -/
def bridgedHost (sent : ℤ) : MetricTables :=
  { MetricTables.empty with
    serverInventory :=
      { rows := [⟨1, "host", some "linux", some 4, none,
          some [⟨some "mac", some "02", some "eth0", some "physical"⟩,
            ⟨some "mac", some "42", some "docker0", some "virtual"⟩]⟩]
        sorted := List.pairwise_singleton _ _ }
    publicIds_nodup := List.nodup_singleton _
    serverMetrics :=
      { rows := [{ MetricsRow.blank 1 1699998000000000 with netTcpRetransmits := some 0 },
          { MetricsRow.blank 1 1699999970000000 with netTcpRetransmits := some 0 },
          { MetricsRow.blank 1 1700000000000000 with netTcpRetransmits := some 100 }]
        sorted := by decide }
    serverNetIo :=
      { rows := [packetsAt "mac:02" 1699998000000000 0, packetsAt "mac:02" 1699999970000000 0,
          packetsAt "mac:02" 1700000000000000 1000, packetsAt "mac:42" 1699998000000000 0,
          packetsAt "mac:42" 1699999970000000 0, packetsAt "mac:42" 1700000000000000 sent]
        sorted := by
          simp only [List.pairwise_cons, List.forall_mem_cons, NetIoRow.key, packetsAt,
            Prod.Lex.toLex_lt_toLex, String.lt_iff_toList_lt]
          simp
          decide } }

/-- The hour before 22:13:20 in buckets of five minutes. -/
def lastHour : MetricTrendCtx where
  bucket := .m5
  agg := .avg
  start := 1699996400000000
  stop := 1700000000000000
  serverIds := some [1]
  dimension := none
  collapse := false

/-- The samples of the last ten minutes. -/
lemma netIoIn_bridgedHost (sent : ℤ) :
    (bridgedHost sent).netIoIn [1] 1699999400000000 1700000000000000 =
      [packetsAt "mac:02" 1699999970000000 0, packetsAt "mac:02" 1700000000000000 1000,
        packetsAt "mac:42" 1699999970000000 0, packetsAt "mac:42" 1700000000000000 sent] := rfl

lemma sharedNewest_bridgedHost (sent : ℤ) : SharedNewest (bridgedHost sent) lastHour 1
    1699999400000000 1700000000000000 1700000000000000 1699999970000000 := by
  have htimes : ((bridgedHost sent).netIoIn [1] 1699999400000000 1700000000000000).map
      (fun r => r.collectedAt) =
        [1699999970000000, 1700000000000000, 1699999970000000, 1700000000000000] := rfl
  have htimes' : ((bridgedHost sent).metricsIn [1] 1699999400000000 1700000000000000).map
      (fun r => r.collectedAt) = [1699999970000000, 1700000000000000] := rfl
  refine ⟨?_, ?_, Or.inr List.mem_cons_self, by decide, by decide, by decide⟩
  · rw [htimes]
    exact ⟨by decide, by decide, by decide, by decide⟩
  · rw [htimes']
    exact ⟨by decide, by decide, by decide, by decide⟩

lemma qualityRegular_silentBridge : QualityRegular (bridgedHost 0) lastHour 1 1699999400000000
    1700000000000000 1700000000000000 1699999970000000 := by
  refine ⟨?_, fun _ _ _ _ _ => ?_, fun _ _ _ => ?_⟩
  · rw [SamePrevious, netIoIn_bridgedHost]
    decide +kernel
  · exact ⟨by decide +kernel, Or.inr (by decide +kernel)⟩
  · exact ⟨by decide +kernel, by decide +kernel, Or.inl (by decide +kernel)⟩

/-- While the bridge is silent the figures agree. -/
theorem silentBridge_agrees :
    QualityAgrees (bridgedHost 0) lastHour [1] 1 1699999400000000 1700000000000000
      1700000000000000 :=
  qualityAgrees_of_regular (sharedNewest_bridgedHost 0) List.mem_cons_self (by decide)
    qualityRegular_silentBridge

/-- A thousand packets on the bridge halve the retransmits that are shown now. -/
theorem busyBridge_not_agrees :
    ¬QualityAgrees (bridgedHost 1000) lastHour [1] 1 1699999400000000 1700000000000000
        1700000000000000 ∧
      ((bridgedHost 1000).latestSaturation [1] 1699999400000000 1700000000000000).map
        (fun x => (x.1, x.2.retransPct)) = [(1, some 5)] ∧
      (netFlags (bridgedHost 1000) lastHour).map (fun x => (x.collectedAt, x.retransPct)) =
        [(1699998000000000, none), (1699999970000000, none), (1700000000000000, some 10)] := by
  have hnow : ((bridgedHost 1000).latestSaturation [1] 1699999400000000 1700000000000000).map
      (fun x => (x.1, x.2.retransPct)) = [(1, some 5)] := by decide +kernel
  have hchart : (netFlags (bridgedHost 1000) lastHour).map
      (fun x => (x.collectedAt, x.retransPct)) =
        [(1699998000000000, none), (1699999970000000, none), (1700000000000000, some 10)] := by
    decide +kernel
  refine ⟨fun hagrees => ?_, hnow, hchart⟩
  have hshown : (1, some (5 : ℚ)) ∈ ((bridgedHost 1000).latestSaturation [1] 1699999400000000
      1700000000000000).map fun x => (x.1, x.2.retransPct) := hnow ▸ List.mem_cons_self
  obtain ⟨⟨_, raw⟩, hraw, heq⟩ := List.mem_map.mp hshown
  obtain ⟨rfl, hfive⟩ := Prod.mk.inj heq
  obtain ⟨x, hx, htime, _, hv⟩ := (hagrees raw hraw).1 5 hfive
  have hmem := List.mem_map_of_mem (f := fun x : NetFlag => (x.collectedAt, x.retransPct)) hx
  rw [hchart] at hmem
  simp only at hv
  rw [htime, hv] at hmem
  exact absurd hmem (by decide)

end AssessmentEngine
