import AssessmentEngine.Queries.MountCapacity
import Mathlib.Data.List.MinMax
import Mathlib.Data.Prod.Lex
import Mathlib.Order.WithBot

/-!
# The disk figures of a host, as queried

`report_aggregate` folds the mounts of a host into its disk figures: the shortest runways over
the whole history, the greatest used shares of the window, and the size to extend one mount to,
the driving mount.  The driving mount is the one with the shortest runway, or without any
runway the one that is used most after its last bucket.

`expansion_names_size` says when the verdict of a host that fills up by bytes names a size, and
that this size is larger than the driving mount.
-/

namespace AssessmentEngine

/-- A mount with its history and its greatest used shares in the window. -/
structure MountFigures where
  mountpoint : String
  span : MountSpan
  usedPctMax : Option ℚ
  inodePctMax : Option ℚ
  deriving DecidableEq, Repr

namespace MountFigures

/-- The size to extend the mount to, in GB. -/
def targetGb (m : MountFigures) : Option ℤ := m.span.targetSize.map fun size => ⌈size / 10 ^ 9⌉

/-- The mount may drive the disk figures of the host. -/
def drives (m : MountFigures) : Bool :=
  m.span.byteRunwayDays.isSome || overStaticGuard m.span.usedPct

/-- The order in which the driving mount is looked for: rising runways and then falling used
shares, absent values last. -/
def rank (m : MountFigures) : WithTop ℚ ×ₗ (WithBot ℚ)ᵒᵈ :=
  let runway : WithTop ℚ := m.span.byteRunwayDays
  let used : WithBot ℚ := m.span.usedPct
  toLex (runway, OrderDual.toDual used)

end MountFigures

/-- The driving mount; among mounts of the same rank the first of the list. -/
def drivingMount (ms : List MountFigures) : Option MountFigures :=
  (ms.filter (·.drives)).argmin MountFigures.rank

/-- The row of a host with the disk figures of its mounts. -/
def foldDisks (raw : ReportRowRaw) (ms : List MountFigures) : ReportRowRaw :=
  { raw with
    worstMountUsedPct := Nullable.maxSome (ms.map (·.usedPctMax))
    diskInodeUsedPct := Nullable.maxSome (ms.map (·.inodePctMax))
    diskCapacityRunwayDays := Nullable.minSome (ms.map (·.span.byteRunwayDays))
    diskInodeRunwayDays := Nullable.minSome (ms.map (·.span.inodeRunwayDays))
    diskCapacityTargetGb :=
      ((drivingMount ms).bind (·.targetGb)).map fun gb => (gb : ℚ) }

/-- What is free was measured together with the size, and fits into it. -/
def MountSpan.Measured (s : MountSpan) : Prop :=
  ∀ last, s.avLast = some last →
    0 ≤ last ∧ ∃ total, s.totalBytes = some total ∧ last ≤ total ∧ 0 < total

/-! ### The driving mount -/

section Driving

variable {ms : List MountFigures} {m : MountFigures}

lemma drivingMount_isSome (hm : m ∈ ms) (hdrives : m.drives = true) :
    ∃ d, drivingMount ms = some d := by
  rw [← Option.ne_none_iff_exists', drivingMount, ne_eq, List.argmin_eq_none]
  exact List.ne_nil_of_mem (List.mem_filter.mpr ⟨hm, hdrives⟩)

lemma mem_of_drivingMount {d : MountFigures} (hd : drivingMount ms = some d) :
    d ∈ ms ∧ d.drives = true :=
  List.mem_filter.mp (List.argmin_mem hd)

/-- The runway of the driving mount is the shortest of the host. -/
lemma drivingMount_runway {d : MountFigures} {runway : ℚ} (hd : drivingMount ms = some d)
    (hrunway : Nullable.minSome (ms.map (·.span.byteRunwayDays)) = some runway) :
    d.span.byteRunwayDays = some runway := by
  obtain ⟨hattained, hbound⟩ := Nullable.minSome_eq_some_iff.mp hrunway
  obtain ⟨m, hm, hmrunway⟩ := List.mem_map.mp hattained
  have hmdrives : m.drives = true := by simp [MountFigures.drives, hmrunway]
  have hrank : d.rank ≤ m.rank :=
    List.le_of_mem_argmin (List.mem_filter.mpr ⟨hm, hmdrives⟩) hd
  have hle : (ofLex d.rank).1 ≤ (ofLex m.rank).1 := by
    rcases Prod.Lex.le_iff.mp hrank with hlt | ⟨heq, -⟩
    · exact hlt.le
    · exact heq.le
  have hshortest : (ofLex m.rank).1 = ((runway : ℚ) : WithTop ℚ) := hmrunway
  rw [hshortest] at hle
  obtain ⟨r, hr, hrle⟩ := WithTop.le_coe_iff.mp hle
  have hback : runway ≤ r := hbound r (List.mem_map.mpr ⟨d, (mem_of_drivingMount hd).1, hr⟩)
  exact hr.trans (congrArg some (le_antisymm hrle hback))

end Driving

/-! ### The named size -/

section Named

variable {s : MountSpan} {last total : ℤ}

/-- The size to extend a mount to that is filling by bytes exceeds its present size. -/
lemma exists_larger_target (hmeasured : s.Measured)
    (hfilling : axisFilling s.byteRunwayDays s.usedPct = true) :
    ∃ size total, s.targetSize = some size ∧ s.totalBytes = some total ∧ 0 < total ∧
      (total : ℚ) < size := by
  have hlast : ∃ last, s.avLast = some last := by
    by_contra hno
    have hnone : s.avLast = none := by
      cases h : s.avLast with
      | none => rfl
      | some last => exact absurd ⟨last, h⟩ hno
    have hrunway : s.byteRunwayDays = none := by
      unfold MountSpan.byteRunwayDays runwayDays
      rw [hnone]
      cases s.avFirst <;> rfl
    have hused : s.usedPct = none := by
      unfold MountSpan.usedPct
      rw [hnone]
    simp [hrunway, hused, axisFilling, runwayImminent, staticallyFilling, overStaticGuard]
      at hfilling
  obtain ⟨last, hlast⟩ := hlast
  obtain ⟨hfree, total, htotal, hle, hpos⟩ := hmeasured last hlast
  have hposQ : (0 : ℚ) < total := by exact_mod_cast hpos
  rcases (byteFilling_iff hlast htotal hpos hfree).mp hfilling with
    ⟨rate, hrate, hshort⟩ | ⟨hrate, hguard⟩
  · obtain ⟨size, hsize, hmonth⟩ := targetSize_of_rate hlast htotal hpos hle hrate
    refine ⟨size, total, hsize, htotal, hpos, ?_⟩
    rw [rsDiskNearHorizonDays] at hmonth
    rw [rsDiskRunwayDays] at hshort
    linarith
  · refine ⟨_, total, targetSize_of_static hlast htotal hpos hfree hrate hguard, htotal, hpos, ?_⟩
    have hshare : (last : ℚ) / total ≤ 15 / 100 := by
      rw [rsDiskStaticGuardPct] at hguard
      linarith
    rw [div_le_iff₀ hposQ] at hshare
    rw [rsDiskHeadroomTargetPct, lt_div_iff₀ (by norm_num)]
    linarith

end Named

section Expansion

variable {raw : ReportRowRaw} {ms : List MountFigures} {baseline : Option ℤ}

/-- A driving mount that is filling by bytes gives the host a size above its own. -/
lemma diskTargetGb_of_driving {d : MountFigures} (hd : drivingMount ms = some d)
    (hmeasured : d.span.Measured)
    (hfilling : axisFilling d.span.byteRunwayDays d.span.usedPct = true) :
    ∃ gb total, diskTargetGb (buildResourceStats (foldDisks raw ms) baseline) = some gb ∧
      d.span.totalBytes = some total ∧ (total : ℚ) < gb * 10 ^ 9 := by
  obtain ⟨size, total, hsize, htotal, hpos, hlarger⟩ := exists_larger_target hmeasured hfilling
  have hposQ : (0 : ℚ) < total := by exact_mod_cast hpos
  have htarget : (buildResourceStats (foldDisks raw ms) baseline).diskCapacityTargetGb =
      some ((⌈size / 10 ^ 9⌉ : ℤ) : ℚ) := by
    simp [buildResourceStats, foldDisks, hd, MountFigures.targetGb, hsize]
  have hone : (1 : ℤ) ≤ ⌈size / 10 ^ 9⌉ := by
    rw [Int.one_le_ceil_iff]
    exact div_pos (hposQ.trans hlarger) (by norm_num)
  have honeQ : (1 : ℚ) ≤ ((⌈size / 10 ^ 9⌉ : ℤ) : ℚ) := by exact_mod_cast hone
  refine ⟨⌈size / 10 ^ 9⌉, total, ?_, htotal, ?_⟩
  · unfold diskTargetGb
    rw [htarget]
    simp only [if_pos honeQ, Int.ceil_intCast]
  · have hceil := Int.le_ceil (size / 10 ^ 9)
    rw [div_le_iff₀ (by norm_num)] at hceil
    exact hlarger.trans_le hceil

/-- A host that is short of bytes within a month, before any of its inodes run out. -/
def BytesRunOutFirst (row : ReportRowRaw) : Prop :=
  ∃ runway, row.diskCapacityRunwayDays = some runway ∧ runway < rsDiskRunwayDays ∧
    ∀ inodes, row.diskInodeRunwayDays = some inodes → runway ≤ inodes

/-- A host without any byte trend that reached the static guard within the window, with no short
inode runway. -/
def BytesGuarded (row : ReportRowRaw) : Prop :=
  row.diskCapacityRunwayDays = none ∧ overStaticGuard row.worstMountUsedPct = true ∧
    runwayImminent row.diskInodeRunwayDays = false

lemma assessDiskCapacity_of_bytesRunOut (row : ReportRowRaw) (hreason : BytesRunOutFirst row) :
    (assessDiskCapacity (buildResourceStats row baseline)).status = .filling ∧
      (assessDiskCapacity (buildResourceStats row baseline)).sizingTarget =
        diskTargetGb (buildResourceStats row baseline) := by
  obtain ⟨runway, hrunway, hshort, hfirst⟩ := hreason
  have hmin : minRunway [some runway, (buildResourceStats row baseline).diskInodeRunwayDays] =
      some runway := by
    change minRunway [some runway, row.diskInodeRunwayDays] = _
    unfold minRunway
    rw [Nullable.minSome_eq_some_iff]
    refine ⟨by simp, fun x hx => ?_⟩
    rcases List.mem_cons.mp hx with hx | hx
    · exact (Option.some.inj hx).ge
    · exact hfirst x (List.mem_singleton.mp hx).symm
  have himminent : runwayImminent (some runway) = true := by simpa [runwayImminent] using hshort
  have hbytes : (buildResourceStats row baseline).diskCapacityRunwayDays = some runway := hrunway
  unfold assessDiskCapacity
  simp only [hbytes, hmin, if_pos himminent, if_true, and_self]

lemma assessDiskCapacity_of_bytesGuarded (row : ReportRowRaw) (hreason : BytesGuarded row) :
    (assessDiskCapacity (buildResourceStats row baseline)).status = .filling ∧
      (assessDiskCapacity (buildResourceStats row baseline)).sizingTarget =
        diskTargetGb (buildResourceStats row baseline) := by
  obtain ⟨hrunway, hguard, hinodes⟩ := hreason
  have hmin : ¬runwayImminent (minRunway [(buildResourceStats row baseline).diskCapacityRunwayDays,
      (buildResourceStats row baseline).diskInodeRunwayDays]) = true := by
    change ¬runwayImminent (minRunway [row.diskCapacityRunwayDays, row.diskInodeRunwayDays]) = true
    rw [runwayImminent_minRunway, hrunway, hinodes]
    simp [runwayImminent]
  have hstatic : staticallyFilling (buildResourceStats row baseline).diskCapacityRunwayDays
      (buildResourceStats row baseline).diskUsedPct = true := by
    change staticallyFilling row.diskCapacityRunwayDays row.worstMountUsedPct = true
    simp [staticallyFilling, hrunway, hguard]
  unfold assessDiskCapacity
  simp only [if_neg hmin, if_pos hstatic, and_self]

/-- A host that fills up by bytes is named a size above that of its driving mount: if its bytes
run out before its inodes do, or if it reached the static guard without a short inode runway
and some mount is still above the guard after its last bucket. -/
theorem expansion_names_size (raw : ReportRowRaw) (ms : List MountFigures) (baseline : Option ℤ)
    (hmeasured : ∀ m ∈ ms, m.span.Measured)
    (hreason : BytesRunOutFirst (foldDisks raw ms) ∨
      BytesGuarded (foldDisks raw ms) ∧ ∃ m ∈ ms, overStaticGuard m.span.usedPct = true) :
    let verdict := assessDiskCapacity (buildResourceStats (foldDisks raw ms) baseline)
    verdict.status = .filling ∧
      ∃ gb d total, verdict.sizingTarget = some gb ∧ drivingMount ms = some d ∧
        d.span.totalBytes = some total ∧ (total : ℚ) < gb * 10 ^ 9 := by
  intro verdict
  have hverdict : verdict.status = .filling ∧ verdict.sizingTarget =
      diskTargetGb (buildResourceStats (foldDisks raw ms) baseline) := by
    rcases hreason with hbytes | ⟨hguarded, -⟩
    · exact assessDiskCapacity_of_bytesRunOut _ hbytes
    · exact assessDiskCapacity_of_bytesGuarded _ hguarded
  have hdriving : ∃ d, drivingMount ms = some d ∧
      axisFilling d.span.byteRunwayDays d.span.usedPct = true := by
    rcases hreason with ⟨runway, hrunway, hshort, -⟩ | ⟨⟨hnone, -, -⟩, m, hm, hguard⟩
    · obtain ⟨hattained, -⟩ := Nullable.minSome_eq_some_iff.mp hrunway
      obtain ⟨m, hm, hmrunway⟩ := List.mem_map.mp hattained
      obtain ⟨d, hd⟩ := drivingMount_isSome hm (by simp [MountFigures.drives, hmrunway])
      have hdrunway := drivingMount_runway hd hrunway
      exact ⟨d, hd, by simp [axisFilling, runwayImminent, hdrunway, hshort]⟩
    · -- no mount has a runway, so the driving mount is above the guard
      obtain ⟨d, hd⟩ := drivingMount_isSome hm (by simp [MountFigures.drives, hguard])
      obtain ⟨hdmem, hdrives⟩ := mem_of_drivingMount hd
      have hdnone : d.span.byteRunwayDays = none :=
        Nullable.minSome_eq_none_iff.mp hnone _ (List.mem_map.mpr ⟨d, hdmem, rfl⟩)
      have hdguard : overStaticGuard d.span.usedPct = true := by
        simpa [MountFigures.drives, hdnone] using hdrives
      exact ⟨d, hd, by simp [axisFilling, staticallyFilling, hdnone, hdguard]⟩
  obtain ⟨d, hd, hfilling⟩ := hdriving
  obtain ⟨gb, total, hgb, htotal, hlarger⟩ :=
    diskTargetGb_of_driving hd (hmeasured d (mem_of_drivingMount hd).1) hfilling
  exact ⟨hverdict.1, gb, d, total, hverdict.2.trans hgb, hd, htotal, hlarger⟩

end Expansion

/-- A row without any figures. -/
def blankRow : ReportRowRaw :=
  { publicId := "s1", hostname := "db-1", osFamily := some "linux", cpuP95Pct := none,
    cpuPeakPct := none, memP95Pct := none }

/-- A mount of 100 GB that lasts five days. -/
def fillingMount : MountFigures where
  mountpoint := "/data"
  span := fillingSpan
  usedPctMax := some 95
  inodePctMax := none

lemma fillingSpan_measured : fillingSpan.Measured := by
  intro last hlast
  obtain rfl : 5 * 10 ^ 9 = last := Option.some.inj hlast
  exact ⟨by norm_num, _, rfl, by norm_num, by norm_num⟩

theorem expansion_names_size_fillingMount :
    ∃ gb d total,
      (assessDiskCapacity
          (buildResourceStats (foldDisks blankRow [fillingMount]) none)).sizingTarget = some gb ∧
        drivingMount [fillingMount] = some d ∧ d.span.totalBytes = some total ∧
        (total : ℚ) < gb * 10 ^ 9 :=
  (expansion_names_size blankRow [fillingMount] none
    (fun m hm => by
      obtain rfl := List.mem_singleton.mp hm
      exact fillingSpan_measured)
    (Or.inl ⟨5, by decide +kernel, by norm_num [rsDiskRunwayDays], fun inodes hinodes =>
      absurd hinodes (by
        have hnone : (foldDisks blankRow [fillingMount]).diskInodeRunwayDays = none := by
          decide +kernel
        rw [hnone]
        simp)⟩)).2

/-- The same mount, whose inodes last only four days. -/
def inodeMount : MountFigures :=
  { fillingMount with span := { fillingSpan with inFirst := some 120, inLast := some 20 } }

/-- Its bytes run out within a month, but no size is named because its inodes run out first. -/
theorem inodeMount_names_no_size :
    let row := foldDisks blankRow [inodeMount]
    runwayImminent row.diskCapacityRunwayDays = true ∧
      (assessDiskCapacity (buildResourceStats row none)).status = .filling ∧
      (assessDiskCapacity (buildResourceStats row none)).sizingTarget = none ∧
      drivingMount [inodeMount] = some inodeMount := by
  decide +kernel

end AssessmentEngine
