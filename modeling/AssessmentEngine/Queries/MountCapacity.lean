import AssessmentEngine.Mappers.ReportRow
import AssessmentEngine.Recommendation.Disk
import Mathlib.Algebra.Order.Field.Basic
import Mathlib.Tactic.Linarith
import Mathlib.Tactic.FieldSimp

/-!
# Capacity of a mount, as queried

The figures of a mount that `report_mount_capacity_batch` computes from its history: the
runways, the used share and the size to extend to.  A falling amount of free bytes gives a
rate, from two weeks of history on a size that lasts a year at this rate, and from thirty
hours on a size that is used to 70 % in a month.  Without a rate a mount that is used to 85 %
gets a size that it uses to 70 %.

Every mount that `assessMountCapacity` finds filling by bytes has a size to extend to, and on
this size it is not filling any more (`extension_suffices`).
-/

namespace AssessmentEngine

/-- The history of a mount: free bytes and inodes in its first and in its last bucket, the
greatest total, and the time between the two buckets. -/
structure MountSpan where
  avFirst : Option ℤ
  avLast : Option ℤ
  totalBytes : Option ℤ
  inFirst : Option ℤ
  inLast : Option ℤ
  spanDays : ℚ
  deriving DecidableEq, Repr

/-- The number of days until nothing is free; absent without a falling trend. -/
def runwayDays (first last : Option ℤ) (spanDays : ℚ) : Option ℚ :=
  match first, last with
  | some first, some last =>
    if 0 < first - last ∧ rsDiskRateMinSpanDays ≤ spanDays ∧ 0 ≤ last then
      some (max 0 ⌊(last : ℚ) / ((first - last : ℤ) / spanDays)⌋ : ℤ)
    else none
  | _, _ => none

namespace MountSpan

def byteRunwayDays (s : MountSpan) : Option ℚ := runwayDays s.avFirst s.avLast s.spanDays

def inodeRunwayDays (s : MountSpan) : Option ℚ := runwayDays s.inFirst s.inLast s.spanDays

/-- The used share (%) of the greatest total after the last bucket. -/
def usedPct (s : MountSpan) : Option ℚ :=
  match s.avLast, s.totalBytes with
  | some last, some total => if 0 < total then some ((1 - last / total) * 100) else none
  | _, _ => none

/-- The number of bytes to extend the mount to, before it is rounded. -/
def targetSize (s : MountSpan) : Option ℚ :=
  match s.avLast, s.totalBytes with
  | some last, some total =>
    let falling := s.avFirst.any fun first => 0 < first - last
    let rate : ℚ := (s.avFirst.getD last - last : ℤ) / s.spanDays
    if falling ∧ rsDiskTrendMinSpanDays ≤ s.spanDays ∧ 0 < total then
      some ((total - last) + rsDiskTargetRunwayDays * rate)
    else if falling ∧ rsDiskRateMinSpanDays ≤ s.spanDays ∧ 0 < total then
      some (((total - last) + rsDiskNearHorizonDays * rate) / (rsDiskHeadroomTargetPct / 100))
    else if 0 < total ∧ 0 ≤ last ∧ rsDiskStaticGuardPct ≤ (1 - (last : ℚ) / total) * 100 then
      some ((total - last) / (rsDiskHeadroomTargetPct / 100))
    else none
  | _, _ => none

/-- The row of the mount; the greatest used share of the inodes is queried with it. -/
def capacityRow (s : MountSpan) (mountpoint : String) (inodeUsedPct : Option ℚ) :
    MountCapacityRaw where
  mountpoint := mountpoint
  totalBytes := s.totalBytes
  usedPct := s.usedPct
  byteRunwayDays := s.byteRunwayDays
  inodeRunwayDays := s.inodeRunwayDays
  inodeUsedPct := inodeUsedPct
  targetBytes := s.targetSize.map (⌈·⌉)

/-- The rate (per day) at which the free bytes fall. -/
def fillRate (s : MountSpan) : Option ℚ :=
  match s.avFirst, s.avLast with
  | some first, some last =>
    if 0 < first - last ∧ rsDiskRateMinSpanDays ≤ s.spanDays then
      some ((first - last : ℤ) / s.spanDays)
    else none
  | _, _ => none

/-- The mount of another size that bears the same bytes and fills at the same rate. -/
def extendBy (s : MountSpan) (extra : ℤ) : MountSpan :=
  { s with
    avFirst := s.avFirst.map (· + extra)
    avLast := s.avLast.map (· + extra)
    totalBytes := s.totalBytes.map (· + extra) }

end MountSpan

/-- The sizing of a mount from its row. -/
def MountCapacityRaw.assess (m : MountCapacityRaw) : Option MountSizing :=
  assessMountCapacity m.totalBytes (m.targetBytes.map fun bytes => (bytes : ℚ)) m.byteRunwayDays
    m.usedPct m.inodeRunwayDays m.inodeUsedPct

/-! ### Rate, runway and target -/

section Mount

variable {s : MountSpan} {last total : ℤ} {rate : ℚ}

lemma fillRate_pos (hrate : s.fillRate = some rate) : 0 < rate := by
  unfold MountSpan.fillRate at hrate
  split at hrate
  · rename_i first last _ _
    split_ifs at hrate with hfall
    have hspan : 0 < s.spanDays :=
      lt_of_lt_of_le (by norm_num [rsDiskRateMinSpanDays]) hfall.2
    have hdrop : (0 : ℚ) < (first - last : ℤ) := by exact_mod_cast hfall.1
    rw [← Option.some.inj hrate]
    exact div_pos hdrop hspan
  · exact absurd hrate (by simp)

/-- The runway is what is free, counted in days of the rate. -/
lemma byteRunwayDays_eq (hlast : s.avLast = some last) (hfree : 0 ≤ last) :
    s.byteRunwayDays = s.fillRate.map fun rate => ((max 0 ⌊(last : ℚ) / rate⌋ : ℤ) : ℚ) := by
  unfold MountSpan.byteRunwayDays runwayDays MountSpan.fillRate
  rw [hlast]
  cases s.avFirst with
  | none => rfl
  | some first =>
    simp only [hfree, and_true]
    split_ifs <;> rfl

lemma usedPct_eq (hlast : s.avLast = some last) (htotal : s.totalBytes = some total)
    (hpos : 0 < total) : s.usedPct = some ((1 - (last : ℚ) / total) * 100) := by
  unfold MountSpan.usedPct
  simp only [hlast, htotal, if_pos hpos]

/-- A mount with a rate gets a size that leaves at least a month at this rate. -/
lemma targetSize_of_rate (hlast : s.avLast = some last) (htotal : s.totalBytes = some total)
    (hpos : 0 < total) (hle : last ≤ total) (hrate : s.fillRate = some rate) :
    ∃ size, s.targetSize = some size ∧ total - last + rsDiskNearHorizonDays * rate ≤ size := by
  have hrpos := fillRate_pos hrate
  have hused : (0 : ℚ) ≤ total - last := by exact_mod_cast sub_nonneg.mpr hle
  unfold MountSpan.fillRate at hrate
  unfold MountSpan.targetSize
  rw [hlast] at hrate ⊢
  rw [htotal]
  cases hfirst : s.avFirst with
  | none => simp [hfirst] at hrate
  | some first =>
    simp only [hfirst] at hrate
    split_ifs at hrate with hfall
    simp only [Option.any_some, Option.getD_some, decide_eq_true_eq, Option.some.inj hrate, hfall.1,
      hfall.2, hpos, true_and, and_true, if_true]
    by_cases htrend : rsDiskTrendMinSpanDays ≤ s.spanDays
    · refine ⟨_, if_pos htrend, ?_⟩
      rw [rsDiskNearHorizonDays, rsDiskTargetRunwayDays]
      linarith
    · refine ⟨_, if_neg htrend, ?_⟩
      rw [rsDiskNearHorizonDays, rsDiskHeadroomTargetPct, le_div_iff₀ (by norm_num)]
      linarith

/-- A mount without a rate that is used to 85 % gets a size that it uses to 70 %. -/
lemma targetSize_of_static (hlast : s.avLast = some last) (htotal : s.totalBytes = some total)
    (hpos : 0 < total) (hfree : 0 ≤ last) (hrate : s.fillRate = none)
    (hguard : rsDiskStaticGuardPct ≤ (1 - (last : ℚ) / total) * 100) :
    s.targetSize = some ((total - last) / (rsDiskHeadroomTargetPct / 100)) := by
  have hlong : rsDiskRateMinSpanDays ≤ rsDiskTrendMinSpanDays := by
    norm_num [rsDiskRateMinSpanDays, rsDiskTrendMinSpanDays]
  unfold MountSpan.fillRate at hrate
  unfold MountSpan.targetSize
  rw [hlast] at hrate ⊢
  rw [htotal]
  -- without a rate neither of the first two cases applies
  have hno : ¬(s.avFirst.any (fun first => 0 < first - last) = true ∧
      rsDiskRateMinSpanDays ≤ s.spanDays ∧ 0 < total) := by
    rintro ⟨hfall, hspan, -⟩
    cases hfirst : s.avFirst with
    | none => simp [hfirst] at hfall
    | some first =>
      have hdrop : 0 < first - last := by simpa [hfirst] using hfall
      simp [hfirst, hspan] at hrate
      omega
  simp only
  rw [if_neg fun h => hno ⟨h.1, hlong.trans h.2.1, h.2.2⟩, if_neg hno, if_pos ⟨hpos, hfree, hguard⟩]

lemma overStaticGuard_usedPct_iff (hlast : s.avLast = some last)
    (htotal : s.totalBytes = some total) (hpos : 0 < total) :
    overStaticGuard s.usedPct = true ↔
      rsDiskStaticGuardPct ≤ (1 - (last : ℚ) / total) * 100 := by
  rw [usedPct_eq hlast htotal hpos]
  simp [overStaticGuard]

/-- A mount that is filling by bytes has a rate and little more than a month of it left, or no
rate and a used share of at least 85 %. -/
lemma byteFilling_iff (hlast : s.avLast = some last) (htotal : s.totalBytes = some total)
    (hpos : 0 < total) (hfree : 0 ≤ last) :
    axisFilling s.byteRunwayDays s.usedPct = true ↔
      (∃ rate, s.fillRate = some rate ∧ (last : ℚ) < rsDiskRunwayDays * rate) ∨
        s.fillRate = none ∧ rsDiskStaticGuardPct ≤ (1 - (last : ℚ) / total) * 100 := by
  have hguard := overStaticGuard_usedPct_iff hlast htotal hpos
  rw [axisFilling, Bool.or_eq_true, staticallyFilling, Bool.and_eq_true, hguard,
    byteRunwayDays_eq hlast hfree]
  cases hrate : s.fillRate with
  | none => simp [runwayImminent]
  | some rate =>
    have hrpos := fillRate_pos hrate
    have himminent : ((max 0 ⌊(last : ℚ) / rate⌋ : ℤ) : ℚ) < rsDiskRunwayDays ↔
        (last : ℚ) < rsDiskRunwayDays * rate := by
      have hthirty : rsDiskRunwayDays = ((30 : ℤ) : ℚ) := by norm_num [rsDiskRunwayDays]
      rw [hthirty, Int.cast_lt, max_lt_iff, Int.floor_lt, div_lt_iff₀ hrpos]
      simp
    simpa [runwayImminent] using himminent

end Mount

/-! ### The extended mount -/

section Extend

variable {s : MountSpan} {last total extra : ℤ}

lemma extendBy_fillRate : (s.extendBy extra).fillRate = s.fillRate := by
  unfold MountSpan.fillRate MountSpan.extendBy
  cases s.avFirst <;> cases s.avLast <;> simp

/-- On a size that holds the target the mount is not filling any more. -/
lemma extendBy_not_filling {size : ℚ} (hlast : s.avLast = some last)
    (htotal : s.totalBytes = some total) (hpos : 0 < total) (hfree : 0 ≤ last) (hle : last ≤ total)
    (hfilling : axisFilling s.byteRunwayDays s.usedPct = true) (hsize : s.targetSize = some size)
    (hextra : 0 ≤ extra) (hholds : size ≤ (total + extra : ℤ)) :
    axisFilling (s.extendBy extra).byteRunwayDays (s.extendBy extra).usedPct = false := by
  have hlast' : (s.extendBy extra).avLast = some (last + extra) := by
    simp [MountSpan.extendBy, hlast]
  have htotal' : (s.extendBy extra).totalBytes = some (total + extra) := by
    simp [MountSpan.extendBy, htotal]
  have hpos' : 0 < total + extra := by omega
  have hfree' : 0 ≤ last + extra := by omega
  rw [← Bool.not_eq_true, byteFilling_iff hlast' htotal' hpos' hfree', extendBy_fillRate]
  rw [byteFilling_iff hlast htotal hpos hfree] at hfilling
  rcases hfilling with ⟨rate, hrate, -⟩ | ⟨hrate, hguard⟩
  · -- what is free on the new size lasts for a month
    obtain ⟨size', hsize', hmonth⟩ := targetSize_of_rate hlast htotal hpos hle hrate
    obtain rfl : size = size' := Option.some.inj (hsize.symm.trans hsize')
    have hlasts : rsDiskRunwayDays * rate ≤ ((last + extra : ℤ) : ℚ) := by
      push_cast at hholds ⊢
      rw [rsDiskNearHorizonDays] at hmonth
      rw [rsDiskRunwayDays]
      linarith
    rintro (⟨rate', hrate', hshort⟩ | ⟨hnone, -⟩)
    · obtain rfl : rate = rate' := Option.some.inj (hrate.symm.trans hrate')
      exact absurd hshort (not_lt.mpr hlasts)
    · exact absurd (hrate.symm.trans hnone) (by simp)
  · -- the used bytes take at most 70 % of the new size
    have hstatic := targetSize_of_static hlast htotal hpos hfree hrate hguard
    obtain rfl := Option.some.inj (hsize.symm.trans hstatic)
    have hposQ : (0 : ℚ) < (total + extra : ℤ) := by exact_mod_cast hpos'
    rintro (⟨rate', hrate', -⟩ | ⟨-, hguard'⟩)
    · exact absurd (hrate.symm.trans hrate') (by simp)
    · have hshare : ((total : ℚ) - last) / (total + extra : ℤ) ≤ 70 / 100 := by
        rw [rsDiskHeadroomTargetPct, div_le_iff₀ (by norm_num)] at hholds
        rw [div_le_iff₀ hposQ]
        linarith
      have hused : 1 - ((last + extra : ℤ) : ℚ) / (total + extra : ℤ) =
          ((total : ℚ) - last) / (total + extra : ℤ) := by
        rw [eq_div_iff hposQ.ne', sub_mul, div_mul_cancel₀ _ hposQ.ne']
        push_cast
        ring
      rw [hused, rsDiskStaticGuardPct] at hguard'
      linarith

end Extend

/-! ### Extensions suffice -/

/-- A mount that is filling by bytes is given an exact size, and on this many GiB, with the same
bytes in use and the same rate, it is not filling by bytes. -/
theorem extension_suffices (s : MountSpan) (mountpoint : String) (inodeUsedPct : Option ℚ)
    (last total : ℤ) (hlast : s.avLast = some last) (htotal : s.totalBytes = some total)
    (hfree : 0 ≤ last) (hle : last ≤ total) (hpos : 0 < total)
    (hfilling : axisFilling (s.capacityRow mountpoint inodeUsedPct).byteRunwayDays
      (s.capacityRow mountpoint inodeUsedPct).usedPct = true) :
    (s.capacityRow mountpoint inodeUsedPct).targetBytes ≠ none ∧
      ∃ sizing, (s.capacityRow mountpoint inodeUsedPct).assess = some sizing ∧
        sizing.estimateQuality = .exact ∧
        let extended := s.extendBy (sizing.recommendedGib * 1024 ^ 3 - total)
        extended.totalBytes = some (sizing.recommendedGib * 1024 ^ 3) ∧
          axisFilling (extended.capacityRow mountpoint inodeUsedPct).byteRunwayDays
            (extended.capacityRow mountpoint inodeUsedPct).usedPct = false := by
  obtain ⟨size, hsize⟩ : ∃ size, s.targetSize = some size := by
    rcases (byteFilling_iff hlast htotal hpos hfree).mp hfilling with ⟨rate, hrate, -⟩ | ⟨hrate, hg⟩
    · obtain ⟨size, hsize, -⟩ := targetSize_of_rate hlast htotal hpos hle hrate
      exact ⟨size, hsize⟩
    · exact ⟨_, targetSize_of_static hlast htotal hpos hfree hrate hg⟩
  have htarget : (s.capacityRow mountpoint inodeUsedPct).targetBytes = some ⌈size⌉ := by
    simp [MountSpan.capacityRow, hsize]
  have htruthy : truthy (s.capacityRow mountpoint inodeUsedPct).totalBytes = some total :=
    truthy_of_pos htotal hpos
  have hgib : (0 : ℚ) < gib := by norm_num [gib]
  set recommended := max ⌈(total : ℚ) / gib⌉ ⌈((⌈size⌉ : ℤ) : ℚ) / gib⌉ with hrecommended
  have hassess : (s.capacityRow mountpoint inodeUsedPct).assess =
      some ⟨⌈(total : ℚ) / gib⌉, recommended,
        if ⌈(total : ℚ) / gib⌉ < recommended then .increase else .keep, .exact, ""⟩ := by
    unfold MountCapacityRaw.assess assessMountCapacity
    rw [htarget, hfilling, htruthy]
    rfl
  -- the recommended size holds the present total and the target
  have hholds : ∀ x : ℚ, ⌈x / gib⌉ ≤ recommended → x ≤ (recommended * 1024 ^ 3 : ℤ) := by
    intro x hx
    rw [Int.ceil_le, div_le_iff₀ hgib, gib] at hx
    push_cast
    exact hx
  have htotal_le : total ≤ recommended * 1024 ^ 3 := by
    exact_mod_cast hholds total (le_max_left _ _)
  have hsize_le : size ≤ ((total + (recommended * 1024 ^ 3 - total) : ℤ) : ℚ) := by
    rw [add_sub_cancel]
    exact (Int.le_ceil size).trans (hholds _ (le_max_right _ _))
  refine ⟨by simp [htarget], _, hassess, rfl, ?_, ?_⟩
  · simp [MountSpan.extendBy, htotal]
  · exact extendBy_not_filling hlast htotal hpos hfree hle hfilling hsize
      (sub_nonneg.mpr htotal_le) hsize_le

/-- A mount of 100 GB that fills at 1 GB a day and has 5 GB left. -/
def fillingSpan : MountSpan where
  avFirst := some (25 * 10 ^ 9)
  avLast := some (5 * 10 ^ 9)
  totalBytes := some (100 * 10 ^ 9)
  inFirst := none
  inLast := none
  spanDays := 20

theorem extension_suffices_fillingSpan :
    (fillingSpan.capacityRow "/data" none).targetBytes ≠ none :=
  (extension_suffices fillingSpan "/data" none (5 * 10 ^ 9) (100 * 10 ^ 9) rfl rfl (by decide)
    (by decide) (by decide) (by decide +kernel)).1

end AssessmentEngine
