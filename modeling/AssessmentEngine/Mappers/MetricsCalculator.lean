import Mathlib.Data.List.ReduceOption
import AssessmentEngine.Ingest.Inventory
import AssessmentEngine.Library.FixedPoint
import AssessmentEngine.Library.RoundedSums
import AssessmentEngine.Library.SetDefault
import AssessmentEngine.Recommendation.Thresholds

/-!
# Shares of CPU and memory

`metrics_calculator` on the latest samples of a server: the shares of CPU time between two samples
of the counters, for the host and for each core, and the parts of the memory bar at one sample.
The arithmetic of the CPU shares is a parameter: exact, or that of doubles, in which the counters
that are not shown have to make up for what rounding takes (`SharesHold`).
-/

namespace AssessmentEngine

open FixedPoint SetDefault

/-! ## Samples -/

/-- The counters of CPU time; an operating system leaves out those that it does not know. -/
structure CpuSeconds where
  cpuUserS : Option ℚ
  cpuNiceS : Option ℚ
  cpuSystemS : Option ℚ
  cpuIdleS : Option ℚ
  cpuIowaitS : Option ℚ
  cpuIrqS : Option ℚ
  cpuSoftirqS : Option ℚ
  cpuStealS : Option ℚ
  deriving DecidableEq, Repr

/-- The fields of `MetricPairRaw` that `compute_cpu` and `compute_mem` read. -/
structure MetricPairRaw extends CpuSeconds where
  memLimitBytes : Option ℤ
  memAvailableBytes : Option ℤ
  memBufferedBytes : Option ℤ
  memCachedBytes : Option ℤ
  bootTime : Option ℤ
  deriving DecidableEq, Repr

structure CpuCoreRaw extends CpuSeconds where
  coreId : ℤ
  collectedAt : ℤ
  deriving DecidableEq, Repr

def CpuSeconds.values (r : CpuSeconds) : List (Option ℚ) :=
  [r.cpuUserS, r.cpuNiceS, r.cpuSystemS, r.cpuIdleS, r.cpuIowaitS, r.cpuIrqS, r.cpuSoftirqS,
    r.cpuStealS]

/-- How numbers are rounded, and how lists of them are summed up. -/
structure Arithmetic where
  round : ℚ → ℚ
  sum : List ℚ → ℚ

namespace Arithmetic

def exact : Arithmetic := ⟨id, List.sum⟩

/-- The arithmetic of doubles. -/
def double : Arithmetic := ⟨Double.nearest, Double.compensatedSum⟩

@[simp]
lemma double_round : double.round = Double.nearest := rfl

end Arithmetic

/-- `cpu_total`: the counters that are there. -/
def CpuSeconds.total (ar : Arithmetic) (r : CpuSeconds) : ℚ := ar.sum r.values.reduceOption

/-! ## CPU -/

/-- `is_counter_reset`. -/
def isCounterReset (curBoot prevBoot : Option ℤ) : Bool :=
  match curBoot, prevBoot with
  | some cur, some prev => decide (bootTimeJitterTolerance < (cur - prev).natAbs)
  | _, _ => false

structure CpuSnapshot where
  usagePct : Option ℚ
  userPct : Option ℚ
  systemPct : Option ℚ
  iowaitPct : Option ℚ
  stealPct : Option ℚ
  nicePct : Option ℚ
  deriving DecidableEq, Repr

/-- The snapshot that says nothing. -/
def CpuSnapshot.unavailable : CpuSnapshot := ⟨none, none, none, none, none, none⟩

/-- `pct` of `compute_cpu`: the share of one counter in the increase of all. -/
def cpuPct (ar : Arithmetic) (deltaTotal : ℚ) (c p : Option ℚ) : Option ℚ :=
  match c, p with
  | some c, some p =>
    let share := ar.round (ar.round (ar.round (c - p) / deltaTotal) * 100)
    some (ar.round (roundTo 1 (max 0 share)))
  | _, _ => none

/-- `compute_cpu`. -/
def computeCpuWith (ar : Arithmetic) (cur prev : Option MetricPairRaw) : Option CpuSnapshot :=
  match cur, prev with
  | none, _ => none
  | some _, none => some .unavailable
  | some cur, some prev =>
    if isCounterReset cur.bootTime prev.bootTime then some .unavailable
    else
      let deltaTotal := ar.round (cur.total ar - prev.total ar)
      if deltaTotal ≤ 0 then some .unavailable
      else
        let pct := cpuPct ar deltaTotal
        let idlePct := pct cur.cpuIdleS prev.cpuIdleS
        some {
          usagePct := idlePct.map fun idle => ar.round (roundTo 1 (max 0 (ar.round (100 - idle))))
          userPct := pct cur.cpuUserS prev.cpuUserS
          systemPct := pct cur.cpuSystemS prev.cpuSystemS
          iowaitPct := pct cur.cpuIowaitS prev.cpuIowaitS
          stealPct := pct cur.cpuStealS prev.cpuStealS
          nicePct := pct cur.cpuNiceS prev.cpuNiceS }

def computeCpu : Option MetricPairRaw → Option MetricPairRaw → Option CpuSnapshot :=
  computeCpuWith .exact

structure CpuCoreSnapshot where
  coreId : ℤ
  usagePct : Option ℚ
  hot : Bool
  deriving DecidableEq, Repr

/-- `_group_by_dim`. -/
def groupByDim {ρ κ : Type*} [BEq κ] (key : ρ → κ) (rows : List ρ) : List (κ × List ρ) :=
  rows.foldl (fun byDim r => setDefault (key r) [] (· ++ [r]) byDim) []

/-- The usage of a core between its last two samples. -/
def coreUsage (ar : Arithmetic) (rows : List CpuCoreRaw) : Option ℚ :=
  match rows.mergeSort fun a b => decide (b.collectedAt ≤ a.collectedAt) with
  | cur :: prev :: _ =>
    let deltaTotal := ar.round (cur.total ar - prev.total ar)
    match cur.cpuIdleS, prev.cpuIdleS with
    | some c, some p =>
      if deltaTotal ≤ 0 then none
      else
        let idlePct := max 0 (ar.round (ar.round (ar.round (c - p) / deltaTotal) * 100))
        some (ar.round (roundTo 1 (max 0 (ar.round (100 - idlePct)))))
    | _, _ => none
  | _ => none

/-- `compute_cpu_cores`; the text of a core's id stands for the id. -/
def computeCpuCoresWith (ar : Arithmetic) (pairs : List CpuCoreRaw) : List CpuCoreSnapshot :=
  let byCore := (groupByDim CpuCoreRaw.coreId pairs).mergeSort fun a b => decide (a.1 ≤ b.1)
  byCore.map fun (coreId, rows) =>
    let usage := coreUsage ar rows
    { coreId, usagePct := usage, hot := usage.any (rsCpuPercoreHoldPct ≤ ·) }

def computeCpuCores : List CpuCoreRaw → List CpuCoreSnapshot := computeCpuCoresWith .exact

/-! ## Memory -/

/-- `usage_pct`. -/
def usagePct (used total : Option ℤ) : Option ℚ :=
  match used, total with
  | some used, some total =>
    if total = 0 then none else some (roundTo 1 (max 0 ((used : ℚ) / total * 100)))
  | _, _ => none

/-- `_clip_to_remaining`. -/
def clipToRemaining (rawPct : Option ℚ) (remainingRoom : ℚ) : Option ℚ :=
  rawPct.map fun raw => roundTo 1 (min (max 0 remainingRoom) raw)

structure MemSnapshot where
  totalBytes : Option ℤ
  usedBytes : Option ℤ
  availableBytes : Option ℤ
  cachedBytes : Option ℤ
  bufferedBytes : Option ℤ
  usagePct : Option ℚ
  cachedPct : Option ℚ
  buffersPct : Option ℚ
  freePct : Option ℚ
  deriving DecidableEq, Repr

/-- `compute_mem`. -/
def computeMem (cur : Option MetricPairRaw) : Option MemSnapshot := do
  let cur ← cur
  let limit ← cur.memLimitBytes
  let used := cur.memAvailableBytes.map fun available => max 0 (limit - available)
  let usedPct := usagePct used limit
  let remainingAfterUsed := 100 - usedPct.getD 0
  let cachedPct := clipToRemaining (usagePct cur.memCachedBytes limit) remainingAfterUsed
  let remainingAfterCached := remainingAfterUsed - cachedPct.getD 0
  let buffersPct := clipToRemaining (usagePct cur.memBufferedBytes limit) remainingAfterCached
  return {
    totalBytes := limit
    usedBytes := used
    availableBytes := cur.memAvailableBytes
    cachedBytes := cur.memCachedBytes
    bufferedBytes := cur.memBufferedBytes
    usagePct := usedPct
    cachedPct, buffersPct
    freePct := roundTo 1 (max 0 (remainingAfterCached - buffersPct.getD 0)) }

/-! ## Percentages -/

/-- The number is a percentage. -/
def Percentage (p : ℚ) : Prop := 0 ≤ p ∧ p ≤ 100

instance (p : ℚ) : Decidable (Percentage p) := inferInstanceAs (Decidable (_ ∧ _))

lemma roundTo_nonneg {x : ℚ} (h : 0 ≤ x) : 0 ≤ roundTo 1 x := by
  have hround := le_roundTo_of_le (d := 1) (n := 0) (x := x) (by simpa using h)
  simpa using hround

/-- The last half digit above a hundred is lost in rounding, the tie included. -/
lemma roundTo_le_hundred_iff {x : ℚ} : roundTo 1 x ≤ 100 ↔ x ≤ 100 + 1 / 20 := by
  have hround := roundTo_le_iff_of_even (d := 1) (n := 1000) (by decide) x
  norm_num at hround ⊢
  exact hround

/-- Rounding to a double leaves a percentage one. -/
lemma Percentage.nearest {x : ℚ} (h : Percentage x) : Percentage (Double.nearest x) := by
  have hundred : Double.IsDouble (100 : ℚ) := by
    exact_mod_cast Double.isDouble_natCast (n := 100) (by norm_num)
  exact ⟨Double.nearest_nonneg h.1, Double.nearest_le_of_le hundred h.1 h.2⟩

lemma Percentage.roundTo {x : ℚ} (h : Percentage x) : Percentage (roundTo 1 x) :=
  ⟨roundTo_nonneg h.1, roundTo_le_hundred_iff.mpr (by linarith [h.2])⟩

lemma usagePct_isDecimal {used total : Option ℤ} {pct : ℚ} (h : usagePct used total = some pct) :
    IsDecimal 1 pct ∧ 0 ≤ pct := by
  unfold usagePct at h
  split at h
  · split_ifs at h
    cases h
    exact ⟨isDecimal_roundTo _ _, roundTo_nonneg (le_max_left _ _)⟩
  · cases h

/-- What is used of something is no more than all of it. -/
lemma usagePct_le {used total : ℤ} {pct : ℚ} (hle : used ≤ total) (hpos : 0 < total)
    (h : usagePct used total = some pct) : pct ≤ 100 := by
  have hne : total ≠ 0 := hpos.ne'
  have htotal : (0 : ℚ) < total := by exact_mod_cast hpos
  have hshare : (used : ℚ) / total ≤ 1 := by
    rw [div_le_one htotal]
    exact_mod_cast hle
  simp only [usagePct, if_neg hne, Option.some_inj] at h
  rw [← h, roundTo_le_hundred_iff]
  have hmax : max 0 ((used : ℚ) / total * 100) ≤ 100 := max_le (by norm_num) (by linarith)
  linarith

/-! ## CPU shares -/

/-- The percentages of a snapshot. -/
def CpuSnapshot.percentages (s : CpuSnapshot) : List (Option ℚ) :=
  [s.usagePct, s.userPct, s.systemPct, s.iowaitPct, s.stealPct, s.nicePct]

/-- The counters whose shares are shown as they are. -/
def shownCounters : List (CpuSeconds → Option ℚ) :=
  [CpuSeconds.cpuUserS, CpuSeconds.cpuSystemS, CpuSeconds.cpuIowaitS, CpuSeconds.cpuStealS,
    CpuSeconds.cpuNiceS]

/-- What the counters of a sample amount to. -/
def CpuSeconds.standing (r : CpuSeconds) : ℚ := Double.size r.values.reduceOption

/-- The other counters fall by less than the 5000th part of the increase of all, which rounding to
one decimal hides, by as much as rounding sums of such counters takes. -/
def OthersHold (cur prev : CpuSeconds) (counter : CpuSeconds → Option ℚ) : Prop :=
  ∀ c ∈ counter cur, ∀ p ∈ counter prev,
    (cur.standing + prev.standing + 2) / 2 ^ 42 ≤
      cur.total .exact - prev.total .exact - (c - p) +
        (cur.total .exact - prev.total .exact) / 5000

instance (cur prev : CpuSeconds) (counter : CpuSeconds → Option ℚ) :
    Decidable (OthersHold cur prev counter) := by
  unfold OthersHold
  infer_instance

/-- Two samples of one boot whose counters increase in all, and each counter that is shown leaves
the others enough of the increase. -/
def SharesHold (cur prev : MetricPairRaw) : Prop :=
  isCounterReset cur.bootTime prev.bootTime = false →
    0 < Double.nearest (cur.total .double - prev.total .double) →
      ∀ counter ∈ shownCounters, OthersHold cur.toCpuSeconds prev.toCpuSeconds counter

/-- What is left of a hundred is a percentage. -/
lemma percentage_rest {x : ℚ} (h : 0 ≤ x) :
    Percentage (Double.nearest (roundTo 1 (max 0 (Double.nearest (100 - x))))) := by
  refine (Percentage.roundTo ⟨le_max_left _ _, max_le (by norm_num) ?_⟩).nearest
  rcases le_total x 100 with hle | hgt
  · exact (Percentage.nearest ⟨by linarith, by linarith⟩).2
  · exact (Double.nearest_nonpos (by linarith)).trans (by norm_num)

lemma cpuPct_nonneg {deltaTotal : ℚ} {c p : Option ℚ} {pct : ℚ}
    (h : cpuPct .double deltaTotal c p = some pct) : 0 ≤ pct := by
  unfold cpuPct at h
  split at h
  · cases h
    exact Double.nearest_nonneg (roundTo_nonneg (le_max_left _ _))
  · cases h

section Standing

variable {r : CpuSeconds}

lemma CpuSeconds.standing_nonneg : 0 ≤ r.standing := Double.size_nonneg _

/-- A counter is part of what the counters amount to. -/
lemma CpuSeconds.abs_le_standing {x : ℚ} (hx : some x ∈ r.values) : |x| ≤ r.standing := by
  have hmem : x ∈ r.values.reduceOption := List.reduceOption_mem_iff.mpr hx
  exact Double.abs_le_size hmem

/-- The total of doubles is near the total. -/
lemma CpuSeconds.abs_total_sub_le :
    |r.total .double - r.total .exact| ≤ (r.standing + 1) / 2 ^ 45 := by
  have hlength : (r.values.reduceOption.length : ℚ) ≤ 8 := by
    exact_mod_cast List.reduceOption_length_le r.values
  have hsum := Double.abs_compensatedSum_sub_le r.values.reduceOption (by linarith)
  have hnonneg : 0 ≤ r.standing := CpuSeconds.standing_nonneg
  refine hsum.trans ?_
  calc _ ≤ (8 * 8 + 1) * ((r.standing + 1) / 2 ^ 52) :=
        mul_le_mul_of_nonneg_right (by linarith) (by positivity)
    _ ≤ (r.standing + 1) / 2 ^ 45 := by linarith

lemma abs_total_le : |r.total .exact| ≤ r.standing := Double.abs_sum_le_size _

/-- And so is the increase of the total. -/
lemma abs_deltaTotal_sub_le (cur prev : CpuSeconds) :
    |Double.nearest (cur.total .double - prev.total .double) -
      (cur.total .exact - prev.total .exact)| ≤ (cur.standing + prev.standing + 2) / 2 ^ 44 := by
  have hcur := CpuSeconds.standing_nonneg (r := cur)
  have hprev := CpuSeconds.standing_nonneg (r := prev)
  have hexact : |cur.total .exact - prev.total .exact| ≤ cur.standing + prev.standing :=
    (abs_sub _ _).trans (add_le_add abs_total_le abs_total_le)
  have hnear : |cur.total .double - prev.total .double - (cur.total .exact - prev.total .exact)| ≤
      (cur.standing + prev.standing + 2) / 2 ^ 45 := by
    have heq : cur.total .double - prev.total .double - (cur.total .exact - prev.total .exact) =
        (cur.total .double - cur.total .exact) - (prev.total .double - prev.total .exact) := by ring
    have hboth := add_le_add (CpuSeconds.abs_total_sub_le (r := cur))
      (CpuSeconds.abs_total_sub_le (r := prev))
    rw [heq]
    refine (abs_sub _ _).trans (hboth.trans (le_of_eq ?_))
    ring
  refine (Double.abs_nearest_sub_le_of_near hnear hexact).trans ?_
  linarith

end Standing

/-- A share is a percentage when the other counters hold. -/
lemma cpuPct_percentage {cur prev : CpuSeconds} {counter : CpuSeconds → Option ℚ}
    (hshown : ∀ r : CpuSeconds, counter r ∈ r.values)
    (hpos : 0 < Double.nearest (cur.total .double - prev.total .double))
    (hothers : OthersHold cur prev counter) :
    ∀ pct ∈ cpuPct .double (Double.nearest (cur.total .double - prev.total .double))
      (counter cur) (counter prev), Percentage pct := by
  have hcurShown := hshown cur
  have hprevShown := hshown prev
  unfold OthersHold at hothers
  generalize counter cur = c at *
  generalize counter prev = p at *
  cases c with
  | none => exact fun _ h => nomatch h
  | some c =>
    cases p with
    | none => exact fun _ h => nomatch h
    | some p =>
      rintro pct ⟨⟩
      have hrest := hothers c rfl p rfl
      have htotal := (abs_le.mp (abs_deltaTotal_sub_le cur prev)).1
      have hdiff : |c - p| ≤ cur.standing + prev.standing :=
        (abs_sub _ _).trans (add_le_add (CpuSeconds.abs_le_standing hcurShown)
          (CpuSeconds.abs_le_standing hprevShown))
      have hnum := (abs_le.mp (Double.abs_nearest_sub_le_unit (c - p))).2
      have hcur := CpuSeconds.standing_nonneg (r := cur)
      have hprev := CpuSeconds.standing_nonneg (r := prev)
      refine (Percentage.nearest ⟨roundTo_nonneg (le_max_left _ _), ?_⟩)
      rw [roundTo_le_hundred_iff]
      refine max_le (by norm_num) ?_
      simp only [Arithmetic.double_round]
      set total := Double.nearest (cur.total .double - prev.total .double)
      set num := Double.nearest (c - p)
      rcases le_or_gt num 0 with hneg | hgrown
      · -- a counter that falls is cut off
        have hshare := Double.nearest_nonpos (div_nonpos_of_nonpos_of_nonneg hneg hpos.le)
        have hpct := Double.nearest_nonpos (q := Double.nearest (num / total) * 100) (by linarith)
        linarith
      have hratio : num / total ≤ 5001 / 5000 := by
        rw [div_le_iff₀ hpos]
        linarith
      have hratio0 : 0 ≤ num / total := div_nonneg hgrown.le hpos.le
      have hshare := (abs_le.mp (Double.abs_nearest_sub_le_unit (num / total))).2
      rw [abs_of_nonneg hratio0] at hshare
      have hshare0 := Double.nearest_nonneg hratio0
      set share := Double.nearest (num / total)
      have hpct := (abs_le.mp (Double.abs_nearest_sub_le_unit (share * 100))).2
      rw [abs_of_nonneg (by linarith)] at hpct
      linarith

/-- The percentages of a host are percentages when its shares hold; the usage always is one. -/
lemma computeCpu_percentages {cur prev : Option MetricPairRaw}
    (hshares : ∀ c ∈ cur, ∀ p ∈ prev, SharesHold c p) :
    ∀ s ∈ computeCpuWith .double cur prev, ∀ part ∈ s.percentages, ∀ pct ∈ part,
      Percentage pct := by
  have hunavailable : ∀ s ∈ some CpuSnapshot.unavailable, ∀ part ∈ s.percentages, ∀ pct ∈ part,
      Percentage pct := by
    rintro s ⟨⟩ part hpart pct hpct
    simp only [CpuSnapshot.percentages, CpuSnapshot.unavailable, List.mem_cons, List.not_mem_nil,
      or_false, or_self] at hpart
    subst hpart
    cases hpct
  cases cur with
  | none => exact fun _ h => nomatch h
  | some cur =>
    cases prev with
    | none => exact hunavailable
    | some prev =>
      have hshares' := hshares cur rfl prev rfl
      unfold computeCpuWith
      simp only
      by_cases hreset : isCounterReset cur.bootTime prev.bootTime = true
      · rw [if_pos hreset]
        exact hunavailable
      rw [if_neg hreset]
      by_cases htotal : Arithmetic.double.round (cur.total .double - prev.total .double) ≤ 0
      · rw [if_pos htotal]
        exact hunavailable
      · have hpos : 0 < Double.nearest (cur.total .double - prev.total .double) := not_le.mp htotal
        have hothers := hshares' (Bool.not_eq_true _ ▸ hreset) hpos
        have hshown : ∀ counter ∈ shownCounters, ∀ r : CpuSeconds, counter r ∈ r.values := by
          simp [shownCounters, CpuSeconds.values]
        have hpct : ∀ counter ∈ shownCounters, ∀ pct ∈ cpuPct .double
            (Double.nearest (cur.total .double - prev.total .double))
            (counter cur.toCpuSeconds) (counter prev.toCpuSeconds), Percentage pct :=
          fun counter hcounter => cpuPct_percentage (hshown counter hcounter) hpos
            (hothers counter hcounter)
        rw [if_neg htotal]
        simp only [shownCounters, List.forall_mem_cons] at hpct
        simp only [Option.mem_some_iff, forall_eq', CpuSnapshot.percentages, List.forall_mem_cons]
        obtain ⟨huser, hsystem, hiowait, hsteal, hnice, -⟩ := hpct
        refine ⟨?_, huser, hsystem, hiowait, hsteal, hnice, fun _ h => nomatch h⟩
        intro pct hpct
        obtain ⟨idle, hidle, rfl⟩ := Option.map_eq_some_iff.mp hpct
        exact percentage_rest (cpuPct_nonneg hidle)

/-- The usage of a core is always a percentage. -/
lemma coreUsage_percentage (rows : List CpuCoreRaw) :
    ∀ pct ∈ coreUsage .double rows, Percentage pct := by
  intro pct hpct
  rw [Option.mem_def] at hpct
  unfold coreUsage at hpct
  split at hpct
  · simp only at hpct
    split at hpct
    · split_ifs at hpct
      cases hpct
      exact percentage_rest (le_max_left _ _)
    · cases hpct
  · cases hpct

lemma computeCpuCores_percentage (pairs : List CpuCoreRaw) :
    ∀ core ∈ computeCpuCoresWith .double pairs, ∀ pct ∈ core.usagePct, Percentage pct := by
  intro core hcore
  obtain ⟨group, _, rfl⟩ := List.mem_map.mp hcore
  exact coreUsage_percentage group.2

/-! ## The memory bar -/

/-- A part takes some of the room that is left, down to the decimal. -/
structure Takes (room : ℚ) (part : Option ℚ) : Prop where
  isDecimal : ∀ pct ∈ part, IsDecimal 1 pct
  nonneg : ∀ pct ∈ part, 0 ≤ pct
  le : ∀ pct ∈ part, pct ≤ room

lemma Takes.rest {room : ℚ} {part : Option ℚ} (hroom : IsDecimal 1 room ∧ 0 ≤ room)
    (h : Takes room part) : IsDecimal 1 (room - part.getD 0) ∧ 0 ≤ room - part.getD 0 := by
  cases part with
  | none => simpa using hroom
  | some pct => exact ⟨hroom.1.sub (h.isDecimal pct rfl), sub_nonneg.mpr (h.le pct rfl)⟩

lemma takes_clipToRemaining {room : ℚ} (hroom : IsDecimal 1 room ∧ 0 ≤ room)
    (used total : Option ℤ) : Takes room (clipToRemaining (usagePct used total) room) := by
  cases hraw : usagePct used total with
  | none => constructor <;> exact fun _ h => nomatch h
  | some raw =>
    obtain ⟨hdecimal, hnonneg⟩ := usagePct_isDecimal hraw
    have hclip : roundTo 1 (min (max 0 room) raw) = min room raw := by
      rw [max_eq_right hroom.2]
      exact (hroom.1.min hdecimal).roundTo_eq
    have hpart : clipToRemaining (some raw) room = some (min room raw) := by
      rw [clipToRemaining, Option.map_some, hclip]
    rw [hpart]
    constructor <;> rintro pct ⟨⟩
    · exact hroom.1.min hdecimal
    · exact le_min hroom.2 hnonneg
    · exact min_le_left _ _

/-- Memory that is not available takes its share of the bar. -/
lemma takes_usagePct {limit : ℤ} (hpos : 0 < limit) {available : Option ℤ}
    (havailable : ∀ b ∈ available, 0 ≤ b) :
    Takes 100 (usagePct (available.map fun b => max 0 (limit - b)) limit) := by
  constructor
  · exact fun pct hpct => (usagePct_isDecimal hpct).1
  · exact fun pct hpct => (usagePct_isDecimal hpct).2
  · intro pct hpct
    cases available with
    | none => cases hpct
    | some b =>
      have hb : 0 ≤ b := havailable b rfl
      exact usagePct_le (by omega : max 0 (limit - b) ≤ limit) hpos hpct

/-- A part of a part of the bar is a percentage. -/
lemma Takes.percentage {room : ℚ} {part : Option ℚ} (h : Takes room part) (hroom : room ≤ 100) :
    ∀ pct ∈ part, Percentage pct :=
  fun pct hpct => ⟨h.nonneg pct hpct, (h.le pct hpct).trans hroom⟩

lemma Takes.getD_nonneg {room : ℚ} {part : Option ℚ} (h : Takes room part) :
    0 ≤ part.getD 0 := by
  cases part with
  | none => exact le_rfl
  | some pct => exact h.nonneg pct rfl

/-- The parts of the bar. -/
def MemSnapshot.parts (m : MemSnapshot) : List (Option ℚ) :=
  [m.usagePct, m.cachedPct, m.buffersPct, m.freePct]

/-- The four parts of the memory bar are percentages, and fill it. -/
theorem memoryBar_full {cur : MetricPairRaw} {limit : ℤ} (hlimit : cur.memLimitBytes = some limit)
    (hpos : 0 < limit) (havailable : ∀ b ∈ cur.memAvailableBytes, 0 ≤ b) :
    ∃ m, computeMem (some cur) = some m ∧
      (∀ part ∈ m.parts, ∀ pct ∈ part, Percentage pct) ∧
      (m.parts.map fun part => part.getD 0).sum = 100 := by
  set used := usagePct (cur.memAvailableBytes.map fun b => max 0 (limit - b)) limit with hused
  set cached := clipToRemaining (usagePct cur.memCachedBytes limit) (100 - used.getD 0) with hcached
  set buffers := clipToRemaining (usagePct cur.memBufferedBytes limit)
    (100 - used.getD 0 - cached.getD 0) with hbuffers
  set free := 100 - used.getD 0 - cached.getD 0 - buffers.getD 0 with hfree
  have htakesUsed : Takes 100 used := takes_usagePct hpos havailable
  have hbar : IsDecimal 1 (100 : ℚ) := by exact_mod_cast isDecimal_intCast 1 100
  have hroomUsed := htakesUsed.rest ⟨hbar, by norm_num⟩
  have htakesCached : Takes (100 - used.getD 0) cached := takes_clipToRemaining hroomUsed _ _
  have hroomCached := htakesCached.rest hroomUsed
  have htakesBuffers : Takes (100 - used.getD 0 - cached.getD 0) buffers :=
    takes_clipToRemaining hroomCached _ _
  obtain ⟨hdecimal, hnonneg⟩ := htakesBuffers.rest hroomCached
  have hround : roundTo 1 (max 0 free) = free := by
    rw [max_eq_right hnonneg]
    exact hdecimal.roundTo_eq
  have hleCached : 100 - used.getD 0 ≤ 100 := by linarith [htakesUsed.getD_nonneg]
  have hleBuffers : 100 - used.getD 0 - cached.getD 0 ≤ 100 := by
    linarith [htakesCached.getD_nonneg]
  have hleFree : free ≤ 100 := by linarith [htakesBuffers.getD_nonneg]
  refine ⟨_, by rw [computeMem, Option.bind_eq_bind, Option.bind_some, hlimit]; rfl, ?_, ?_⟩
  · intro part hpart
    simp only [MemSnapshot.parts, List.mem_cons, List.not_mem_nil, or_false] at hpart
    rcases hpart with rfl | rfl | rfl | rfl
    · exact htakesUsed.percentage le_rfl
    · exact htakesCached.percentage hleCached
    · exact htakesBuffers.percentage hleBuffers
    · rintro pct ⟨⟩
      rw [← hused, ← hcached, ← hbuffers, ← hfree, hround]
      exact ⟨hnonneg, hleFree⟩
  · simp only [MemSnapshot.parts, List.map_cons, List.map_nil, List.sum_cons, List.sum_nil,
      Option.getD_some]
    rw [← hused, ← hcached, ← hbuffers, ← hfree, hround, hfree]
    ring

/-- Eight GiB, three of them available, and caches that count for more than these. -/
def cachedMemory : MetricPairRaw where
  cpuUserS := none
  cpuNiceS := none
  cpuSystemS := none
  cpuIdleS := none
  cpuIowaitS := none
  cpuIrqS := none
  cpuSoftirqS := none
  cpuStealS := none
  memLimitBytes := some 8589934592
  memAvailableBytes := some 3221225472
  memBufferedBytes := some 1073741824
  memCachedBytes := some 4294967296
  bootTime := none

theorem memoryBar_full_cachedMemory :
    ∃ m, computeMem (some cachedMemory) = some m ∧
      (∀ part ∈ m.parts, ∀ pct ∈ part, Percentage pct) ∧
      (m.parts.map fun part => part.getD 0).sum = 100 :=
  memoryBar_full rfl (by decide) (by rintro b ⟨⟩; decide)

end AssessmentEngine
