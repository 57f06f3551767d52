import AssessmentEngine.Mappers.ReportRow
import AssessmentEngine.Recommendation.Disk

/-!
# Folding mounts into one host

The report aggregate judges a host on figures folded over its mounts: the shortest
runways and the greatest used shares, byte and inode figures separately.  The assessment
API judges every mount by itself.  The two agree on a mount with a short runway.  They
need not agree on the static guard: folded, the guard is silent as soon as *any* mount
has a trend on the axis, whereas a mount is only silenced by its own trend.

`diskVerdicts_agree_iff` says exactly for which mounts the two verdicts agree.
-/

namespace AssessmentEngine

/-- The two axes of a capacity. -/
inductive CapacityAxis where
  | bytes | inodes
  deriving DecidableEq, Repr

namespace MountCapacityRaw

/-- The runway of a mount on one axis. -/
def runway (m : MountCapacityRaw) : CapacityAxis → Option ℚ
  | .bytes => m.byteRunwayDays
  | .inodes => m.inodeRunwayDays

/-- The used share of a mount on one axis. -/
def used (m : MountCapacityRaw) : CapacityAxis → Option ℚ
  | .bytes => m.usedPct
  | .inodes => m.inodeUsedPct

/-- The mount has a known size, so that `assessMountCapacity` judges it. -/
def sized (m : MountCapacityRaw) : Bool := (truthy m.totalBytes).isSome

/-- `assessMountCapacity` considers the mount as filling, by bytes or by inodes. -/
def filling (m : MountCapacityRaw) : Bool :=
  m.sized &&
    (axisFilling m.byteRunwayDays m.usedPct || axisFilling m.inodeRunwayDays m.inodeUsedPct)

end MountCapacityRaw

/-- The statistics of a host with the disk figures that the report aggregate folds over its
mounts. -/
def foldMounts (stats : ResourceStats) (ms : List MountCapacityRaw) : ResourceStats :=
  { stats with
    diskCapacityRunwayDays := Nullable.minSome (ms.map (·.byteRunwayDays))
    diskInodeRunwayDays := Nullable.minSome (ms.map (·.inodeRunwayDays))
    diskUsedPct := Nullable.maxSome (ms.map (·.usedPct))
    diskInodeUsedPct := Nullable.maxSome (ms.map (·.inodeUsedPct)) }

/-- No mount has a trend on the axis. -/
def TrendFree (ms : List MountCapacityRaw) (axis : CapacityAxis) : Prop :=
  ∀ m ∈ ms, m.runway axis = none

/-- The mount speaks for a filling host: it has a short runway, or it has reached the static
guard on an axis without any trend. -/
def SpeaksForHost (ms : List MountCapacityRaw) (m : MountCapacityRaw)
    (axis : CapacityAxis) : Prop :=
  runwayImminent (m.runway axis) = true ∨
    TrendFree ms axis ∧ overStaticGuard (m.used axis) = true

/-- The mounts for which folding loses nothing and adds nothing: a mount that is filling by
the static guard alone is not silenced by the trend of another mount (or the host is
filling for another reason), and no mount of unknown size fills up alone. -/
structure FoldSafe (ms : List MountCapacityRaw) : Prop where
  unmasked : ∀ m ∈ ms, m.sized = true → ∀ axis,
    staticallyFilling (m.runway axis) (m.used axis) = true →
      ∃ m' ∈ ms, ∃ axis', SpeaksForHost ms m' axis'
  accompanied : ∀ m ∈ ms, m.sized = false → ∀ axis, SpeaksForHost ms m axis →
    ∃ m' ∈ ms, m'.sized = true ∧ ∃ axis',
      runwayImminent (m'.runway axis') = true ∨
        staticallyFilling (m'.runway axis') (m'.used axis') = true

/-- A mount is filling when it has a known size and one of its axes is. -/
lemma filling_iff (m : MountCapacityRaw) :
    m.filling = true ↔ m.sized = true ∧ ∃ axis, runwayImminent (m.runway axis) = true ∨
      staticallyFilling (m.runway axis) (m.used axis) = true := by
  unfold MountCapacityRaw.filling axisFilling
  simp only [Bool.and_eq_true, Bool.or_eq_true]
  apply and_congr_right
  intro _
  constructor
  · rintro (h | h)
    · exact ⟨.bytes, h⟩
    · exact ⟨.inodes, h⟩
  · rintro ⟨axis, h⟩
    cases axis with
    | bytes => exact Or.inl h
    | inodes => exact Or.inr h

/-- A folded axis is filling when some mount has a short runway on it, or when no mount has
any runway on it and some mount has reached the static guard. -/
lemma axisFilling_fold_iff (ms : List MountCapacityRaw)
    (runway used : MountCapacityRaw → Option ℚ) :
    axisFilling (Nullable.minSome (ms.map runway)) (Nullable.maxSome (ms.map used)) = true ↔
      (∃ m ∈ ms, runwayImminent (runway m) = true) ∨
        (∀ m ∈ ms, runway m = none) ∧ ∃ m ∈ ms, overStaticGuard (used m) = true := by
  have hup : ∀ x y : ℚ, x ≤ y →
      decide (rsDiskStaticGuardPct ≤ x) = true → decide (rsDiskStaticGuardPct ≤ y) = true := by
    intro x y hxy hx
    exact decide_eq_true (le_trans (of_decide_eq_true hx) hxy)
  have himminent : runwayImminent (Nullable.minSome (ms.map runway)) = true ↔
      ∃ m ∈ ms, runwayImminent (runway m) = true := by
    rw [runwayImminent_minSome]
    simp
  have hguard : overStaticGuard (Nullable.maxSome (ms.map used)) = true ↔
      ∃ m ∈ ms, overStaticGuard (used m) = true := by
    unfold overStaticGuard
    rw [Nullable.maxSome_any_iff hup]
    simp
  have htrend : (Nullable.minSome (ms.map runway)).isNone = true ↔ ∀ m ∈ ms, runway m = none := by
    rw [Option.isNone_iff_eq_none, Nullable.minSome_eq_none_iff]
    simp
  unfold axisFilling staticallyFilling
  rw [Bool.or_eq_true, Bool.and_eq_true, himminent, hguard, htrend]

/-- The host is filling when some mount speaks for it. -/
lemma assessDiskCapacity_foldMounts_iff (stats : ResourceStats) (ms : List MountCapacityRaw) :
    (assessDiskCapacity (foldMounts stats ms)).status = .filling ↔
      ∃ m ∈ ms, ∃ axis, SpeaksForHost ms m axis := by
  have haxis (axis : CapacityAxis) :
      axisFilling (Nullable.minSome (ms.map (·.runway axis)))
          (Nullable.maxSome (ms.map (·.used axis))) = true ↔ ∃ m ∈ ms, SpeaksForHost ms m axis := by
    rw [axisFilling_fold_iff]
    constructor
    · rintro (⟨m, hm, h⟩ | ⟨hfree, m, hm, h⟩)
      · exact ⟨m, hm, Or.inl h⟩
      · exact ⟨m, hm, Or.inr ⟨hfree, h⟩⟩
    · rintro ⟨m, hm, h | ⟨hfree, h⟩⟩
      · exact Or.inl ⟨m, hm, h⟩
      · exact Or.inr ⟨hfree, m, hm, h⟩
  rw [assessDiskCapacity_filling_iff]
  constructor
  · rintro (h | h)
    · obtain ⟨m, hm, hspeaks⟩ := (haxis .bytes).mp h
      exact ⟨m, hm, .bytes, hspeaks⟩
    · obtain ⟨m, hm, hspeaks⟩ := (haxis .inodes).mp h
      exact ⟨m, hm, .inodes, hspeaks⟩
  · rintro ⟨m, hm, axis, hspeaks⟩
    cases axis with
    | bytes => exact Or.inl ((haxis .bytes).mpr ⟨m, hm, hspeaks⟩)
    | inodes => exact Or.inr ((haxis .inodes).mpr ⟨m, hm, hspeaks⟩)

/-- The verdict on the host agrees with the verdicts on its mounts exactly for the mounts
that are safe to fold. -/
theorem diskVerdicts_agree_iff (stats : ResourceStats) (ms : List MountCapacityRaw) :
    ((assessDiskCapacity (foldMounts stats ms)).status = .filling ↔ ∃ m ∈ ms, m.filling = true) ↔
      FoldSafe ms := by
  rw [assessDiskCapacity_foldMounts_iff]
  constructor
  · intro hagree
    constructor
    · intro m hm hsized axis hstatic
      exact hagree.mpr ⟨m, hm, (filling_iff m).mpr ⟨hsized, axis, Or.inr hstatic⟩⟩
    · intro m hm _ axis hspeaks
      obtain ⟨m', hm', hfilling⟩ := hagree.mp ⟨m, hm, axis, hspeaks⟩
      exact ⟨m', hm', (filling_iff m').mp hfilling⟩
  · intro hsafe
    constructor
    · rintro ⟨m, hm, axis, hspeaks⟩
      cases hsized : m.sized with
      | false =>
        obtain ⟨m', hm', hfilling⟩ := hsafe.accompanied m hm hsized axis hspeaks
        exact ⟨m', hm', (filling_iff m').mpr hfilling⟩
      | true =>
        refine ⟨m, hm, (filling_iff m).mpr ⟨hsized, axis, ?_⟩⟩
        rcases hspeaks with h | ⟨hfree, h⟩
        · exact Or.inl h
        · refine Or.inr ?_
          rw [staticallyFilling, hfree m hm]
          exact h
    · rintro ⟨m, hm, hfilling⟩
      obtain ⟨hsized, axis, h | h⟩ := (filling_iff m).mp hfilling
      · exact ⟨m, hm, axis, Or.inl h⟩
      · exact hsafe.unmasked m hm hsized axis h

/-- A slowly growing mount next to a full mount that does not grow. -/
def maskedMounts : List MountCapacityRaw :=
  [{ mountpoint := "/data", totalBytes := some (100 * 1024 ^ 3), usedPct := some 50,
     byteRunwayDays := some 400, inodeRunwayDays := none, inodeUsedPct := none,
     targetBytes := none },
   { mountpoint := "/backup", totalBytes := some (100 * 1024 ^ 3), usedPct := some 90,
     byteRunwayDays := none, inodeRunwayDays := none, inodeUsedPct := none,
     targetBytes := some (129 * 1024 ^ 3) }]

/-- A host of which nothing but its disks is measured. -/
def noSignals : ResourceStats :=
  { cpuP95Pct := none, cpuPeakPct := none, cpuCores := none, memP95Pct := none,
    diskUsedPct := none, netAvgKbytesPerS := none }

/-- The trend of the first mount silences the static guard that the second one needs: the
host is not filling, although the second mount is to be extended. -/
theorem maskedMounts_disagree :
    ¬((assessDiskCapacity (foldMounts noSignals maskedMounts)).status = .filling ↔
        ∃ m ∈ maskedMounts, m.filling = true) := by
  have hhost : (assessDiskCapacity (foldMounts noSignals maskedMounts)).status = .capacityOk := by
    decide +kernel
  have hmount : ∃ m ∈ maskedMounts, m.filling = true := by decide +kernel
  intro hagree
  rw [hhost] at hagree
  exact absurd (hagree.mpr hmount) (by decide)

end AssessmentEngine
