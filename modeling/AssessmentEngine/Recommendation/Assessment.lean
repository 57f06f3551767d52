import AssessmentEngine.Recommendation.Stats
import AssessmentEngine.Library.FixedPoint
import AssessmentEngine.Library.Nullable

/-!
# Verdict on one resource

The vocabulary of the right-sizing rules: the five resources, the statuses a resource
can have, the triggers that justify a status, the four kinds of uncertainty, and
`ResourceAssessment`, the verdict itself.

`SoundSizing` states what a verdict on a sizeable resource (CPU or memory) has to
satisfy before a size can be read off it: a shortage names a larger size, a surplus a
smaller positive one.  The verdicts of `assessCpu` and `assessMemory` are shown to
satisfy it in the modules that define them.
-/

namespace AssessmentEngine

/-- The resources of a host. -/
inductive ResourceKind where
  | cpu | memory | diskCapacity | diskIo | network
  deriving DecidableEq, Repr

/-- The reasons for a verdict. -/
inductive TriggerKind where
  | cpuUtil | cpuSaturation | memUtil | memSaturation | memOom
  | diskCapacity | diskIo | netRetrans | netDrop | netConntrack
  deriving DecidableEq, Repr

/-- The statuses of a resource. -/
inductive ResourceStatus where
  | under | optimal | over | insufficient
  | filling | capacityOk
  | ioBound | ioOk
  | congested | qualityOk
  | unmeasured
  deriving DecidableEq, Repr

/-- Four kinds of uncertainty about a verdict. -/
structure ConfidenceNote where
  lowPrecision : Bool := false
  coverageGap : Bool := false
  biased : Bool := false
  nonstationary : Bool := false
  deriving DecidableEq, Repr

/-- Confidence that is high enough to prescribe a smaller size; a rising trend is judged
separately. -/
def ConfidenceNote.high (note : ConfidenceNote) : Bool :=
  !(note.lowPrecision || note.coverageGap || note.biased)

/-- The verdict on one resource. -/
structure ResourceAssessment where
  kind : ResourceKind
  status : ResourceStatus
  triggers : List TriggerKind := []
  /-- Size to move to (cores, MB or GB). -/
  sizingTarget : Option ℤ := none
  /-- Safe larger size when no exact target is known. -/
  sizingFloor : Option ℤ := none
  confidence : ConfidenceNote := {}
  detail : String := ""
  deriving DecidableEq, Repr

/-- An optional integer that is present and not zero. -/
def truthy (x : Option ℤ) : Option ℤ := x.filter (· ≠ 0)

lemma truthy_eq_some {x : Option ℤ} {n : ℤ} (h : truthy x = some n) : x = some n := by
  rw [truthy, Option.filter_eq_some_iff] at h
  exact h.1

lemma truthy_of_pos {x : Option ℤ} {n : ℤ} (h : x = some n) (hpos : 0 < n) : truthy x = some n := by
  rw [truthy, Option.filter_eq_some_iff]
  exact ⟨h, decide_eq_true hpos.ne'⟩

/-- Imprecise statistics: a history under 30 hours, or a bursty CPU. -/
def precisionLow (stats : ResourceStats) : Bool :=
  stats.historyHours.any (· < rsConfidenceMinHours) || stats.cpuBurstRatio.any (rsBurstRatioMax < ·)

/-- The confidence shared by all resources.  The utilisation trend only concerns the
resources that have a utilisation. -/
def baseConfidence (stats : ResourceStats) (biased utilBearing : Bool) : ConfidenceNote :=
  { lowPrecision := precisionLow stats
    nonstationary := if utilBearing then stats.utilTrendRising.getD false else false
    biased := biased }

/-- A verdict on a resource of size `current` from which a size can be read off. -/
structure SoundSizing (current : ℤ) (a : ResourceAssessment) : Prop where
  /-- Only these statuses occur for a sizeable resource. -/
  status_mem : a.status ∈ [.under, .optimal, .over, .unmeasured]
  /-- A shortage names an exact larger size, or else a larger floor. -/
  under_larger : a.status = .under →
    (∃ t, a.sizingTarget = some t ∧ current < t) ∨
      a.sizingTarget = none ∧ ∃ f, a.sizingFloor = some f ∧ current < f
  /-- A surplus names a smaller positive size. -/
  over_smaller : a.status = .over → ∃ t, a.sizingTarget = some t ∧ 0 < t ∧ t < current

end AssessmentEngine
