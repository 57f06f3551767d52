import AssessmentEngine.Library.Double
import AssessmentEngine.Sizing.Recommended

/-!
# Landing the CPU

When the recommended number of cores is applied, the busy time of the CPU is conserved: the
utilisation becomes `util * cores / n`.  The new host is short again exactly when it lands on
the line itself: the line of the sizing is the line of the verdict, and the verdict includes
it.  This happens when the busy time is a whole number of cores at 70 % (`LandsOnLine`), for
larger and for smaller sizes alike.

All products and quotients are those of doubles.  Rounding does not blur the line
(`landing_le_iff`, `line_le_share_iff`): a busy time that is a double and a whole number of cores
at 70 % are either equal or too far apart for a quotient to bridge them.
-/

namespace AssessmentEngine

open Double

variable {stats : ResourceStats} {cores k : ℤ} {util : ℚ}

/-- The verdict on the CPU, as doubles give it. -/
abbrev assessCpuDouble (stats : ResourceStats) : ResourceAssessment := assessCpuWith nearest stats

/-- `util * cores`. -/
def busyTime (util : ℚ) (cores : ℤ) : ℚ := nearest (util * nearest cores)

/-- The host after its load was moved to `n` cores: the busy time is conserved, and nothing
else changes. -/
def withCores (stats : ResourceStats) (cores n : ℤ) : ResourceStats :=
  { stats with
    cpuCores := some n
    cpuP95Pct := stats.cpuP95Pct.map fun util => nearest (busyTime util cores / nearest n) }

/-- A saturated run queue does not ask for more than `k` cores. -/
def QueueFits (stats : ResourceStats) (k : ℤ) : Prop :=
  cpuSaturated stats = some true → ∀ queue, runQueueValue stats = some queue →
    nearest (queue / nearest (rsCpuSatLine stats.osFamily * nearest rsCpuSatHeadroom)) ≤ k

/-- The busy time amounts to a whole number of cores at 70 %, and the sizing moves to it: up
when the run queue does not ask for more, down when the gate of smaller sizes is open. -/
def LandsOnLine (stats : ResourceStats) (cores : ℤ) (util : ℚ) : Prop :=
  ∃ k : ℤ, 1 ≤ k ∧ busyTime util cores = rsCpuSizingTargetPct * k ∧
    ((cores < k ∧ QueueFits stats k) ∨
      (k < cores ∧ percoreBusy stats = false ∧ downsizeOpen (cpuConfidence stats) stats = true))

/-- The utilisation is a double, and the numbers stay where the whole ones are doubles, as a
percentage of a number of cores that a column of 32 bits holds does. -/
structure MeasuredLoad (util : ℚ) (cores : ℤ) : Prop where
  pos : 1 ≤ cores
  isDouble : IsDouble util
  cores_le : cores ≤ 2 ^ 53
  busy_le : util * cores ≤ 2 ^ 51

/-! ### The busy time -/

/-- A whole number of cores at 70 % is a double. -/
lemma isDouble_line (hk : 0 ≤ k) (hsmall : k ≤ 2 ^ 46) : IsDouble (rsCpuSizingTargetPct * k) := by
  have heq : rsCpuSizingTargetPct * (k : ℚ) = ((70 * k : ℤ) : ℚ) := by
    rw [rsCpuSizingTargetPct]
    push_cast
    rfl
  rw [heq]
  exact isDouble_intCast (by omega) (by omega)

section BusyTime

variable (h : MeasuredLoad util cores)

include h

lemma busyTime_eq : busyTime util cores = nearest (util * cores) := by
  have hcores : IsDouble cores := isDouble_intCast (zero_le_one.trans h.pos) h.cores_le
  rw [busyTime, hcores]

lemma load_pos (hutil : 0 < util) : 0 < util * cores := by
  have hcores : (1 : ℚ) ≤ cores := by exact_mod_cast h.pos
  exact mul_pos hutil (by linarith)

lemma busyTime_nonpos (hutil : util ≤ 0) : busyTime util cores ≤ 0 := by
  have hcores : (1 : ℚ) ≤ cores := by exact_mod_cast h.pos
  rw [busyTime_eq h]
  exact nearest_nonpos (mul_nonpos_of_nonpos_of_nonneg hutil (by linarith))

lemma busyTime_nonneg (hutil : 0 < util) : 0 ≤ busyTime util cores := by
  rw [busyTime_eq h]
  exact nearest_nonneg (load_pos h hutil).le

lemma isDouble_busyTime (hutil : 0 < util) : IsDouble (busyTime util cores) := by
  rw [busyTime_eq h]
  exact isDouble_nearest (load_pos h hutil).le

lemma busyTime_le (hutil : 0 < util) : busyTime util cores ≤ 2 ^ 51 := by
  have hbound : IsDouble (2 ^ 51 : ℚ) := by
    exact_mod_cast isDouble_natCast (n := 2 ^ 51) (by norm_num)
  rw [busyTime_eq h]
  exact nearest_le_of_le hbound (load_pos h hutil).le h.busy_le

/-- The busy time is below 70 % of a large number of cores. -/
lemma busyTime_lt_line (hutil : 0 < util) (hlarge : 2 ^ 46 < k) :
    busyTime util cores < rsCpuSizingTargetPct * k := by
  have hlargeQ : (2 : ℚ) ^ 46 < k := by exact_mod_cast hlarge
  have hle := busyTime_le h hutil
  rw [rsCpuSizingTargetPct]
  linarith

/-- The cores to land on are the least that the busy time fits on at 70 %. -/
lemma landing_le_iff (hutil : 0 < util) (hk : 1 ≤ k) :
    ⌈nearest (busyTime util cores / rsCpuSizingTargetPct)⌉ ≤ k ↔
      busyTime util cores ≤ rsCpuSizingTargetPct * k := by
  have hline : (0 : ℚ) < rsCpuSizingTargetPct := by norm_num [rsCpuSizingTargetPct]
  have hnonneg := busyTime_nonneg h hutil
  rw [Int.ceil_le]
  rcases le_or_gt k (2 ^ 46) with hsmall | hlarge
  · have hscaled : rsCpuSizingTargetPct⁻¹ * (rsCpuSizingTargetPct * k) = k :=
      inv_mul_cancel_left₀ hline.ne' _
    have hkQ : (1 : ℚ) ≤ k := by exact_mod_cast hk
    have hscale := nearest_scale_le_iff (inv_pos.mpr hline) (isDouble_busyTime h hutil)
      (isDouble_line (zero_le_one.trans hk) hsmall)
      (hscaled.symm ▸ isDouble_intCast (by omega) (by omega)) (hscaled.symm ▸ hkQ) hnonneg
    rwa [hscaled, inv_mul_eq_div] at hscale
  · -- both sides hold
    refine iff_of_true ?_ (busyTime_lt_line h hutil hlarge).le
    have hlargeQ : (2 : ℚ) ^ 46 < k := by exact_mod_cast hlarge
    have hbound : IsDouble (2 ^ 46 : ℚ) := by
      exact_mod_cast isDouble_natCast (n := 2 ^ 46) (by norm_num)
    have hquot : busyTime util cores / rsCpuSizingTargetPct ≤ 2 ^ 46 := by
      rw [div_le_iff₀ hline, rsCpuSizingTargetPct]
      linarith [busyTime_le h hutil]
    exact (nearest_le_of_le hbound (div_nonneg hnonneg hline.le) hquot).trans hlargeQ.le

/-- A large number of cores is not busy. -/
lemma share_le_of_large {n : ℤ} (hlarge : 2 ^ 46 < n) :
    nearest (busyTime util cores / nearest n) ≤ 32 := by
  have hlargeQ : (2 : ℚ) ^ 46 ≤ n := by exact_mod_cast hlarge.le
  have hbound : IsDouble (2 ^ 46 : ℚ) := by
    exact_mod_cast isDouble_natCast (n := 2 ^ 46) (by norm_num)
  have hcores : 2 ^ 46 ≤ nearest n := le_nearest_of_le hbound (by norm_num) hlargeQ
  rcases le_or_gt util 0 with hzero | hutil
  · have hshare := div_nonpos_of_nonpos_of_nonneg (busyTime_nonpos h hzero)
      (show 0 ≤ nearest n by linarith)
    exact (nearest_nonpos hshare).trans (by norm_num)
  · refine nearest_le_of_le (by exact_mod_cast isDouble_natCast (n := 32) (by norm_num))
      (div_nonneg (busyTime_nonneg h hutil) (by linarith)) ?_
    rw [div_le_iff₀ (by linarith)]
    linarith [busyTime_le h hutil]

/-- The utilisation of `n` cores reaches 70 % exactly when the busy time does. -/
lemma line_le_share_iff {n : ℤ} (hn : 1 ≤ n) :
    rsCpuUnderPct ≤ nearest (busyTime util cores / nearest n) ↔
      rsCpuUnderPct * n ≤ busyTime util cores := by
  have hnQ : (1 : ℚ) ≤ n := by exact_mod_cast hn
  have hnear : 1 ≤ nearest n :=
    le_nearest_of_le (by exact_mod_cast isDouble_natCast (n := 1) (by norm_num)) zero_le_one hnQ
  have hline : (0 : ℚ) < rsCpuUnderPct * n := mul_pos (by norm_num [rsCpuUnderPct]) (by linarith)
  rcases le_or_gt (busyTime util cores) 0 with hzero | hbusy
  · have hshare : nearest (busyTime util cores / nearest n) ≤ 0 :=
      nearest_nonpos (div_nonpos_of_nonpos_of_nonneg hzero (by linarith))
    refine iff_of_false (not_le.mpr ?_) (not_le.mpr (hzero.trans_lt hline))
    exact hshare.trans_lt (by norm_num [rsCpuUnderPct])
  have hutil : 0 < util := by
    by_contra hle
    exact absurd (busyTime_nonpos h (not_lt.mp hle)) (not_le.mpr hbusy)
  rcases le_or_gt n (2 ^ 46) with hsmall | hlarge
  · have hexact : nearest n = n := isDouble_intCast (by omega) (by omega)
    have hscaled : (n : ℚ)⁻¹ * (rsCpuSizingTargetPct * n) = rsCpuUnderPct := by
      rw [mul_comm, mul_inv_cancel_right₀ (by linarith)]
      rfl
    have hseventy : IsDouble rsCpuUnderPct := by
      exact_mod_cast isDouble_natCast (n := 70) (by norm_num)
    have hscale := le_nearest_scale_iff (t := (n : ℚ)⁻¹) (inv_pos.mpr (by linarith))
      (isDouble_busyTime h hutil) (isDouble_line (by omega) hsmall) (hscaled.symm ▸ hseventy)
      (hscaled.symm ▸ by norm_num [rsCpuUnderPct]) hbusy
    rw [hscaled, inv_mul_eq_div] at hscale
    rw [hexact]
    exact hscale
  · -- neither side holds
    refine iff_of_false (not_le.mpr ?_) (not_le.mpr (busyTime_lt_line h hutil hlarge))
    exact (share_le_of_large h hlarge).trans_lt (by norm_num [rsCpuUnderPct])

/-- The busy time is below 70 % of the present cores when the utilisation is below 70 %. -/
lemma busyTime_lt_of_lt (hlt : util < rsCpuUnderPct) :
    busyTime util cores < rsCpuUnderPct * cores := by
  have hcores : (1 : ℚ) ≤ cores := by exact_mod_cast h.pos
  have hline : (0 : ℚ) < rsCpuUnderPct * cores :=
    mul_pos (by norm_num [rsCpuUnderPct]) (by linarith)
  rcases le_or_gt util 0 with hzero | hutil
  · exact (busyTime_nonpos h hzero).trans_lt hline
  rcases le_or_gt cores (2 ^ 46) with hsmall | hlarge
  · have hseventy : IsDouble rsCpuUnderPct := by
      exact_mod_cast isDouble_natCast (n := 70) (by norm_num)
    have hscaled : IsDouble ((cores : ℚ) * rsCpuUnderPct) := by
      rw [mul_comm]
      exact isDouble_line (zero_le_one.trans h.pos) hsmall
    rw [busyTime_eq h, mul_comm util, mul_comm rsCpuUnderPct]
    refine nearest_scale_lt (by linarith) h.isDouble hseventy hscaled ?_ hutil hlt
    rw [rsCpuUnderPct]
    linarith
  · exact busyTime_lt_line h hutil hlarge

lemma le_busyTime_of_le (hle : rsCpuUnderPct ≤ util) :
    rsCpuUnderPct * cores ≤ busyTime util cores := by
  have hcores : (1 : ℚ) ≤ cores := by exact_mod_cast h.pos
  have hload : rsCpuUnderPct * cores ≤ util * cores :=
    mul_le_mul_of_nonneg_right hle (by linarith)
  have hsmall : cores ≤ 2 ^ 46 := by
    have hbusy := hload.trans h.busy_le
    rw [rsCpuUnderPct] at hbusy
    have hQ : (cores : ℚ) ≤ 2 ^ 46 := by linarith
    exact_mod_cast hQ
  rw [busyTime_eq h]
  refine le_nearest_of_le (isDouble_line (zero_le_one.trans h.pos) hsmall) ?_ hload
  exact mul_nonneg (by norm_num [rsCpuUnderPct]) (by linarith)

end BusyTime

/-! ### The target of a measured CPU -/

/-- A utilisation of at most 70 % lands on at most the present cores. -/
lemma landing_le_cores (hpos : 1 ≤ cores) (hutil : 0 < util)
    (hbound : util ≤ rsCpuSizingTargetPct ∧ cores ≤ 2 ^ 46 ∨ util ≤ 32) :
    ⌈nearest (busyTime util cores / rsCpuSizingTargetPct)⌉ ≤ cores := by
  have hcoresQ : (1 : ℚ) ≤ cores := by exact_mod_cast hpos
  have hline : (0 : ℚ) < rsCpuSizingTargetPct := by norm_num [rsCpuSizingTargetPct]
  have hnear : 0 ≤ nearest cores := nearest_nonneg (by linarith)
  have hbusy : 0 ≤ busyTime util cores := nearest_nonneg (mul_nonneg hutil.le hnear)
  rw [Int.ceil_le]
  rcases hbound with ⟨hle, hsmall⟩ | hquiet
  · have hexact : IsDouble cores := isDouble_intCast (by omega) (by omega)
    refine nearest_le_of_le hexact (div_nonneg hbusy hline.le) ?_
    rw [div_le_iff₀' hline]
    apply nearest_le_of_le (isDouble_line (by omega) hsmall) (mul_nonneg hutil.le hnear)
    rw [hexact]
    exact mul_le_mul_of_nonneg_right hle (by linarith)
  · -- the number of cores may be rounded up, but not beyond the next power of two
    set e := Int.log 2 (cores : ℚ) with he
    have hlog : 0 ≤ e := (le_log_iff (by linarith)).mp (by simpa using hcoresQ)
    have hpower : (2 : ℚ) ^ e ≤ cores := (le_log_iff (by linarith)).mpr le_rfl
    have hnext : (cores : ℚ) ≤ 2 ^ (e + 1) := ((log_lt_iff (by linarith)).mpr (by omega)).le
    have hup : nearest cores ≤ 2 ^ (e + 1) :=
      nearest_le_of_le (isDouble_two_zpow (by omega)) (by linarith) hnext
    have hbusy_le : busyTime util cores ≤ 2 ^ (e + 6) := by
      refine nearest_le_of_le (isDouble_two_zpow (by omega)) (mul_nonneg hutil.le hnear) ?_
      calc util * nearest cores ≤ 32 * 2 ^ (e + 1) :=
            mul_le_mul hquiet hup hnear (by norm_num)
        _ = 2 ^ (e + 6) := by
            rw [zpow_add₀ two_ne_zero, zpow_add₀ two_ne_zero]
            norm_num
            ring
    have hquot : busyTime util cores / rsCpuSizingTargetPct ≤ 2 ^ e := by
      rw [div_le_iff₀ hline, rsCpuSizingTargetPct]
      rw [zpow_add₀ two_ne_zero] at hbusy_le
      norm_num at hbusy_le
      linarith [two_zpow_pos e]
    exact (nearest_le_of_le (isDouble_two_zpow (by omega)) (div_nonneg hbusy hline.le) hquot).trans
      hpower

lemma satLine_nearest_nonneg (osFamily : Option String) :
    0 ≤ nearest (rsCpuSatLine osFamily * nearest rsCpuSatHeadroom) := by
  have hhead : 0 ≤ nearest rsCpuSatHeadroom := nearest_nonneg (by norm_num [rsCpuSatHeadroom])
  refine nearest_nonneg (mul_nonneg ?_ hhead)
  unfold rsCpuSatLine
  split_ifs
  · norm_num [cpuRunQueuePerCoreSaturation]
  · norm_num [procsRunningPerCoreSaturation]

lemma cpuSatCores_le_iff (hk : 1 ≤ k) :
    cpuSatCores nearest (runQueueValue stats) stats.osFamily (cpuSaturated stats = some true) ≤ k ↔
      QueueFits stats k := by
  have hkQ : (1 : ℚ) ≤ k := by exact_mod_cast hk
  unfold cpuSatCores QueueFits
  cases runQueueValue stats with
  | none => simpa using hk.trans' zero_le_one
  | some queue =>
    by_cases hsat : cpuSaturated stats = some true ∧ 0 < queue
    · simp [hsat, Int.ceil_le]
    · -- a queue that is not positive fits on any number of cores
      have hfits : cpuSaturated stats = some true → ∀ q, some queue = some q →
          nearest (q / nearest (rsCpuSatLine stats.osFamily * nearest rsCpuSatHeadroom)) ≤ k := by
        intro h q hq
        obtain rfl : queue = q := Option.some.inj hq
        have hnonpos : queue ≤ 0 := not_lt.mp fun hpos => hsat ⟨h, hpos⟩
        have hdivisor := satLine_nearest_nonneg stats.osFamily
        exact (nearest_nonpos (div_nonpos_of_nonpos_of_nonneg hnonpos hdivisor)).trans
          (by linarith)
      refine iff_of_true ?_ hfits
      simp only [decide_eq_true_eq, if_neg hsat]
      exact zero_le_one.trans hk

/-- On 21 waiting threads: the quotient of the doubles 21 and 0.7 is above 30. -/
example : cpuSatCores nearest (some 21) (some "linux") true = 31 := by decide +kernel

/-- The target is the least number of cores that the busy time and the run queue fit on. -/
lemma cpuTarget_le_iff (hutil : stats.cpuP95Pct = some util) (h : MeasuredLoad util cores)
    (hk : 1 ≤ k) :
    cpuTarget nearest stats cores ≤ k ↔
      busyTime util cores ≤ rsCpuSizingTargetPct * k ∧ QueueFits stats k := by
  have hline : (0 : ℚ) < rsCpuSizingTargetPct := by norm_num [rsCpuSizingTargetPct]
  have hkQ : (1 : ℚ) ≤ k := by exact_mod_cast hk
  have hutilCores :
      (if 0 < util then ⌈nearest (busyTime util cores / rsCpuSizingTargetPct)⌉ else 1) ≤ k ↔
        busyTime util cores ≤ rsCpuSizingTargetPct * k := by
    by_cases hu : 0 < util
    · rw [if_pos hu]
      exact landing_le_iff h hu hk
    · rw [if_neg hu]
      exact iff_of_true hk ((busyTime_nonpos h (not_lt.mp hu)).trans (by positivity))
  rw [cpuTarget, hutil, Option.getD_some, cpuTargetCores, max_le_iff, max_le_iff,
    cpuSatCores_le_iff hk]
  exact (and_iff_right hk).trans (and_congr_left fun _ => hutilCores)

/-! ### The closed loop -/

/-- Below the line of the verdict the run queue asks for nothing. -/
lemma cpuTarget_le_of_quiet (hutil : stats.cpuP95Pct = some util) (h : MeasuredLoad util cores)
    (hk : 1 ≤ k) (hlt : util < rsCpuUnderPct)
    (hload : busyTime util cores ≤ rsCpuSizingTargetPct * k) :
    cpuTarget nearest stats cores ≤ k := by
  have hqueue : QueueFits stats k := fun hsat => absurd hsat (cpuSaturated_ne_of_lt hutil hlt)
  exact (cpuTarget_le_iff hutil h hk).mpr ⟨hload, hqueue⟩

lemma lt_line_of_no_triggers (hutil : stats.cpuP95Pct = some util)
    (htriggers : cpuTriggers stats = []) : util < rsCpuUnderPct := by
  by_contra hge
  exact (cpuTriggers_ne_nil_iff hutil).mpr (not_lt.mp hge) htriggers

/-- Without a trigger the target is at most the present number of cores. -/
lemma cpuTarget_le_cores (hutil : stats.cpuP95Pct = some util) (hpos : 1 ≤ cores)
    (hbound : cores ≤ 2 ^ 46 ∨ util ≤ 32) (htriggers : cpuTriggers stats = []) :
    cpuTarget nearest stats cores ≤ cores := by
  have hlt := lt_line_of_no_triggers hutil htriggers
  have hsat := cpuSaturated_ne_of_lt hutil hlt
  unfold cpuTarget cpuTargetCores
  rw [decide_eq_false hsat, cpuSatCores_false, hutil, Option.getD_some]
  refine max_le hpos (max_le ?_ (zero_le_one.trans hpos))
  split_ifs with hu
  · exact landing_le_cores hpos hu (hbound.imp_left fun hsmall => ⟨hlt.le, hsmall⟩)
  · exact hpos

/-- A large number of cores is not busy as long as the load is in bounds. -/
lemma MeasuredLoad.bound (h : MeasuredLoad util cores) : cores ≤ 2 ^ 46 ∨ util ≤ 32 := by
  by_contra hboth
  obtain ⟨hlarge, hbusy⟩ := not_or.mp hboth
  have hlargeQ : (2 : ℚ) ^ 46 < cores := by exact_mod_cast not_le.mp hlarge
  have hmul := mul_lt_mul'' (not_le.mp hbusy) hlargeQ (by norm_num) (by norm_num)
  linarith [h.busy_le]

/-- A host that was moved to `n` cores is short exactly when its busy time reaches 70 % of
them. -/
lemma withCores_under_iff {n : ℤ} (hutil : stats.cpuP95Pct = some util)
    (h : MeasuredLoad util cores) (hn : 1 ≤ n) :
    (assessCpuDouble (withCores stats cores n)).status = .under ↔
      rsCpuUnderPct * n ≤ busyTime util cores := by
  have hmoved : (withCores stats cores n).cpuP95Pct =
      some (nearest (busyTime util cores / nearest n)) := by
    rw [withCores, hutil, Option.map_some]
  have hbound : n ≤ 2 ^ 46 ∨ nearest (busyTime util cores / nearest n) ≤ 32 :=
    (le_or_gt n (2 ^ 46)).imp_right (share_le_of_large h)
  have hquiet : ¬CpuUnjudged (withCores stats cores n) →
      cpuTriggers (withCores stats cores n) = [] →
        cpuTarget nearest (withCores stats cores n) n ≤ n :=
    fun _ htriggers => cpuTarget_le_cores hmoved hn hbound htriggers
  rw [assessCpuWith_under_iff hquiet rfl hn, cpuTriggers_ne_nil_iff hmoved,
    line_le_share_iff h hn]

/-- A CPU that is not short lands on the line when the smaller size that it gets does. -/
lemma line_le_cpuSize_of_quiet (hutil : stats.cpuP95Pct = some util) (h : MeasuredLoad util cores)
    (htriggers : cpuTriggers stats = []) :
    rsCpuUnderPct * cpuSize nearest stats cores ≤ busyTime util cores ↔
      LandsOnLine stats cores util := by
  have htarget : 1 ≤ cpuTarget nearest stats cores := one_le_cpuTarget
  have hload := ((cpuTarget_le_iff hutil h htarget).mp le_rfl).1
  have hlt := lt_line_of_no_triggers hutil htriggers
  have hbelow := busyTime_lt_of_lt h hlt
  unfold cpuSize
  rw [if_neg (not_not.mpr htriggers)]
  split_ifs with hdown
  · constructor
    · intro hle
      exact ⟨_, htarget, le_antisymm hload hle, Or.inr ⟨hdown.1, hdown.2⟩⟩
    · rintro ⟨k, hk, heq, -⟩
      have hle : cpuTarget nearest stats cores ≤ k := cpuTarget_le_of_quiet hutil h hk hlt heq.le
      have hleQ : (cpuTarget nearest stats cores : ℚ) ≤ k := by exact_mod_cast hle
      calc rsCpuUnderPct * cpuTarget nearest stats cores
          ≤ rsCpuUnderPct * k := mul_le_mul_of_nonneg_left hleQ (by norm_num [rsCpuUnderPct])
        _ = busyTime util cores := heq.symm
  · refine iff_of_false (not_le.mpr hbelow) ?_
    rintro ⟨k, hk, heq, ⟨hup, -⟩ | ⟨hk', hgate⟩⟩
    · have hupQ : (cores : ℚ) < k := by exact_mod_cast hup
      rw [rsCpuUnderPct] at hbelow
      rw [rsCpuSizingTargetPct] at heq
      linarith
    · have hle : cpuTarget nearest stats cores ≤ k := cpuTarget_le_of_quiet hutil h hk hlt heq.le
      exact hdown ⟨hle.trans_lt hk', hgate⟩

/-- A CPU that is short lands on the line when the larger size that it gets does. -/
lemma line_le_cpuSize_of_short (hutil : stats.cpuP95Pct = some util) (h : MeasuredLoad util cores)
    (htriggers : cpuTriggers stats ≠ []) :
    rsCpuUnderPct * cpuSize nearest stats cores ≤ busyTime util cores ↔
      LandsOnLine stats cores util := by
  have htarget_pos : 1 ≤ cpuTarget nearest stats cores := one_le_cpuTarget
  have habove := le_busyTime_of_le h ((cpuTriggers_ne_nil_iff hutil).mp htriggers)
  unfold cpuSize
  rw [if_pos htriggers]
  constructor
  · intro hle
    set n := max (cpuTarget nearest stats cores) (cores + 1) with hn
    have hup : cores < n := Int.lt_of_add_one_le (le_max_right _ _)
    have htarget : cpuTarget nearest stats cores ≤ n := le_max_left _ _
    have hn_pos : 1 ≤ n := htarget_pos.trans htarget
    obtain ⟨hload, hqueue⟩ := (cpuTarget_le_iff hutil h hn_pos).mp htarget
    exact ⟨n, hn_pos, le_antisymm hload hle, Or.inl ⟨hup, hqueue⟩⟩
  · rintro ⟨k, hk, heq, ⟨hup, hqueue⟩ | ⟨hdown, -⟩⟩
    · have htarget : cpuTarget nearest stats cores ≤ k :=
        (cpuTarget_le_iff hutil h hk).mpr ⟨heq.le, hqueue⟩
      have hle : max (cpuTarget nearest stats cores) (cores + 1) ≤ k :=
        max_le htarget (Int.add_one_le_of_lt hup)
      have hleQ : ((max (cpuTarget nearest stats cores) (cores + 1) : ℤ) : ℚ) ≤ k := by
        exact_mod_cast hle
      calc rsCpuUnderPct * ((max (cpuTarget nearest stats cores) (cores + 1) : ℤ) : ℚ)
          ≤ rsCpuUnderPct * k := mul_le_mul_of_nonneg_left hleQ (by norm_num [rsCpuUnderPct])
        _ = busyTime util cores := heq.symm
    · -- the busy time is already above 70 % of the present cores
      have hdownQ : (k : ℚ) < cores := by exact_mod_cast hdown
      rw [rsCpuUnderPct] at habove
      rw [rsCpuSizingTargetPct] at heq
      linarith

/-- The busy time reaches 70 % of the recommended cores exactly when it lands on the line. -/
lemma line_le_cpuSize_iff (hutil : stats.cpuP95Pct = some util) (h : MeasuredLoad util cores) :
    rsCpuUnderPct * cpuSize nearest stats cores ≤ busyTime util cores ↔
      LandsOnLine stats cores util := by
  by_cases htriggers : cpuTriggers stats = []
  · exact line_le_cpuSize_of_quiet hutil h htriggers
  · exact line_le_cpuSize_of_short hutil h htriggers

/-- A host of at least one core and measured utilisation is not short on the recommended cores
exactly when its busy time does not land on the line. -/
theorem recommendedCores_land_iff (stats : ResourceStats) (cores : ℤ) (util : ℚ)
    (hcores : stats.cpuCores = some cores) (hutil : stats.cpuP95Pct = some util)
    (hload : MeasuredLoad util cores) :
    ∃ n, (axisSize cores (assessCpuDouble stats) stats).1 = some n ∧ 1 ≤ n ∧
      ((assessCpuDouble (withCores stats cores n)).status ≠ .under ↔
        ¬LandsOnLine stats cores util) := by
  have hpos : 0 < cores := hload.pos
  have hquiet : ¬CpuUnjudged stats → cpuTriggers stats = [] →
      cpuTarget nearest stats cores ≤ cores :=
    fun _ htriggers => cpuTarget_le_cores hutil hload.pos hload.bound htriggers
  refine ⟨cpuSize nearest stats cores, axisSize_assessCpuWith hquiet hcores hpos, cpuSize_pos hpos,
    ?_⟩
  rw [ne_eq, withCores_under_iff hutil hload (cpuSize_pos hpos), line_le_cpuSize_iff hutil hload]

/-- A well-observed host of four cores that are busy for 35 %: two cores at 70 %. -/
def halfLoaded : ResourceStats :=
  { cpuP95Pct := some 35, cpuPeakPct := some 60, cpuCores := some 4, memP95Pct := some 85,
    diskUsedPct := some 40, netAvgKbytesPerS := some 500, osFamily := some "linux",
    sampleSufficiency := some 1, procsRunningP95 := some 1, historyHours := some 336 }

lemma measuredLoad_halfLoaded : MeasuredLoad 35 4 where
  pos := by decide
  isDouble := by exact_mod_cast isDouble_natCast (n := 35) (by norm_num)
  cores_le := by norm_num
  busy_le := by norm_num

theorem recommendedCores_land_iff_halfLoaded :
    ∃ n, (axisSize 4 (assessCpuDouble halfLoaded) halfLoaded).1 = some n ∧ 1 ≤ n ∧
      ((assessCpuDouble (withCores halfLoaded 4 n)).status ≠ .under ↔
        ¬LandsOnLine halfLoaded 4 35) :=
  recommendedCores_land_iff halfLoaded 4 35 rfl rfl measuredLoad_halfLoaded

/-- The two cores that are recommended to it are short, and an increase is recommended next. -/
theorem halfLoaded_short_on_recommendedCores :
    axisSize 4 (assessCpuDouble halfLoaded) halfLoaded = (some 2, .decrease, .exact) ∧
      (assessCpuDouble (withCores halfLoaded 4 2)).status = .under ∧
      axisSize 2 (assessCpuDouble (withCores halfLoaded 4 2)) (withCores halfLoaded 4 2) =
        (some 3, .increase, .floor) := by
  decide +kernel

end AssessmentEngine
