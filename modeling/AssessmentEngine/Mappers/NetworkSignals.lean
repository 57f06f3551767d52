import AssessmentEngine.Mappers.ReportRow
import AssessmentEngine.Recommendation.Rollup

/-!
# Network signals of a right-sizing entry

The entry of a server carries the network verdict and, beside it, the three signals with
their lines.  The verdict leaves retransmissions and drops out of account while there is
next to no traffic; the published signals do not.  The two agree unless one of these
ratios is over its line on a quiet server whose connection table is not filling up.
-/

namespace AssessmentEngine

/-- The label of a status. -/
def statusLabelKo : ResourceStatus → String
  | .under => "부족"
  | .optimal => "적정"
  | .over => "여유"
  | .insufficient => "표본 부족"
  | .filling => "소진 임박"
  | .capacityOk => "적정"
  | .ioBound => "병목"
  | .ioOk => "적정"
  | .congested => "혼잡"
  | .qualityOk => "정상"
  | .unmeasured => "미관측"

/-- A published network signal. -/
structure RsNetSignal where
  value : Option ℚ
  threshold : ℚ
  exceeded : Option Bool
  measured : Bool
  deriving DecidableEq

/-- A signal held against its line; `inclusive` counts the line itself as exceeded. -/
def netSignal (value : Option ℚ) (threshold : ℚ) (inclusive : Bool := false) : RsNetSignal :=
  match value with
  | none => { value := none, threshold := threshold, exceeded := none, measured := false }
  | some x =>
    { value := some (FixedPoint.roundTo 3 x)
      threshold := threshold
      exceeded := some (if inclusive then decide (threshold ≤ x) else decide (threshold < x))
      measured := true }

/-- The network part of a right-sizing entry. -/
structure NetworkBlock where
  status : ResourceStatus
  statusLabel : String
  congested : Bool
  retransmitPct : RsNetSignal
  dropPct : RsNetSignal
  conntrackRatio : RsNetSignal
  detail : Option String
  deriving DecidableEq

/-- The three signals. -/
def NetworkBlock.signals (block : NetworkBlock) : List RsNetSignal :=
  [block.retransmitPct, block.dropPct, block.conntrackRatio]

/-- The network part of the right-sizing entry of a row. -/
def rightSizingNetwork (raw : ReportRowRaw) : NetworkBlock :=
  let host := rollupHost (buildResourceStats raw none)
  let net := host.resources.network
  { status := net.status
    statusLabel := statusLabelKo net.status
    congested := host.networkCongested
    retransmitPct := netSignal raw.netRetransPct rsNetRetransPct
    dropPct := netSignal raw.netDropPct rsNetDropPct
    conntrackRatio := netSignal raw.conntrackRatio rsConntrackSaturationRatio true
    detail := if net.detail = "" then none else some net.detail }

/-- The traffic of the row is too small for the verdict to weigh ratios. -/
def quietTraffic (raw : ReportRowRaw) : Bool := (netAverage raw).any (· < rsNetMinTrafficKbps)

/-- Retransmissions or drops are over their line. -/
def ratioExceeded (raw : ReportRowRaw) : Bool :=
  raw.netRetransPct.any (rsNetRetransPct < ·) || raw.netDropPct.any (rsNetDropPct < ·)

/-- The connection table is filling up. -/
def conntrackExceeded (raw : ReportRowRaw) : Bool :=
  raw.conntrackRatio.any (rsConntrackSaturationRatio ≤ ·)

/-! ### The verdict and the signals -/

section Network

variable (raw : ReportRowRaw)

lemma netSignal_exceeded_iff (value : Option ℚ) (threshold : ℚ) :
    (netSignal value threshold).exceeded = some true ↔ value.any (threshold < ·) = true := by
  cases value <;> simp [netSignal]

lemma netSignal_inclusive_exceeded_iff (value : Option ℚ) (threshold : ℚ) :
    (netSignal value threshold true).exceeded = some true ↔ value.any (threshold ≤ ·) = true := by
  cases value <;> simp [netSignal]

/-- A published signal is exceeded when a ratio or the connection table is. -/
lemma exists_exceeded_iff :
    (∃ signal ∈ (rightSizingNetwork raw).signals, signal.exceeded = some true) ↔
      ratioExceeded raw = true ∨ conntrackExceeded raw = true := by
  have hsignals : (rightSizingNetwork raw).signals =
      [netSignal raw.netRetransPct rsNetRetransPct, netSignal raw.netDropPct rsNetDropPct,
        netSignal raw.conntrackRatio rsConntrackSaturationRatio true] := rfl
  rw [hsignals]
  simp only [List.mem_cons, List.not_mem_nil, or_false, exists_eq_or_imp, exists_eq_left]
  rw [netSignal_exceeded_iff, netSignal_exceeded_iff, netSignal_inclusive_exceeded_iff,
    ratioExceeded, conntrackExceeded, Bool.or_eq_true, or_assoc]

/-- A network is congested exactly when it has a trigger. -/
lemma congested_iff_netTriggers (stats : ResourceStats) :
    (rollupHost stats).networkCongested = true ↔ netTriggers stats ≠ [] := by
  have hcongested : (rollupHost stats).networkCongested =
      decide ((assessNetwork stats).status = .congested) := rfl
  rw [hcongested, decide_eq_true_iff]
  unfold assessNetwork
  simp only
  split_ifs with htriggers hmissing <;> simp [htriggers]

/-- The verdict weighs the ratios only when there is traffic. -/
lemma networkCongested_iff :
    (rightSizingNetwork raw).congested = true ↔
      (quietTraffic raw = false ∧ ratioExceeded raw = true) ∨ conntrackExceeded raw = true := by
  have hcongested : (rightSizingNetwork raw).congested =
      (rollupHost (buildResourceStats raw none)).networkCongested := rfl
  have hlow : lowTraffic (buildResourceStats raw none) = quietTraffic raw := rfl
  have htriggers : netTriggers (buildResourceStats raw none) =
      (if !quietTraffic raw && raw.netRetransPct.any (rsNetRetransPct < ·) then [.netRetrans]
        else []) ++
      (if !quietTraffic raw && raw.netDropPct.any (rsNetDropPct < ·) then [.netDrop] else []) ++
      if raw.conntrackRatio.any (rsConntrackSaturationRatio ≤ ·) then [.netConntrack] else [] := by
    rw [← hlow]
    rfl
  rw [hcongested, congested_iff_netTriggers, htriggers, ratioExceeded, conntrackExceeded]
  cases quietTraffic raw <;> cases raw.netRetransPct.any (rsNetRetransPct < ·) <;>
    cases raw.netDropPct.any (rsNetDropPct < ·) <;>
    cases raw.conntrackRatio.any (rsConntrackSaturationRatio ≤ ·) <;> simp

/-- The verdict and the signals agree unless a ratio is over its line on a quiet server whose
connection table is not filling up. -/
theorem networkCongested_iff_exceeded_iff :
    ((rightSizingNetwork raw).congested = true ↔
        ∃ signal ∈ (rightSizingNetwork raw).signals, signal.exceeded = some true) ↔
      (quietTraffic raw = true → ratioExceeded raw = true → conntrackExceeded raw = true) := by
  rw [networkCongested_iff, exists_exceeded_iff]
  cases quietTraffic raw <;> cases ratioExceeded raw <;> cases conntrackExceeded raw <;> simp

end Network

/-- A server with 5 kB/s of traffic and 2 % of retransmissions. -/
def quietRetransmitting : ReportRowRaw where
  publicId := "00000000-0000-0000-0000-000000000001"
  hostname := "web-1"
  osFamily := some "linux"
  cpuP95Pct := none
  cpuPeakPct := none
  memP95Pct := none
  netRxKbps := some 5
  netRetransPct := some 2

/-- On the quiet server the retransmissions are published as exceeded and the network is not
congested. -/
theorem not_networkCongested_iff_exceeded :
    ((rightSizingNetwork quietRetransmitting).retransmitPct.exceeded = some true ∧
        (rightSizingNetwork quietRetransmitting).congested = false) ∧
      ¬((rightSizingNetwork quietRetransmitting).congested = true ↔
        ∃ signal ∈ (rightSizingNetwork quietRetransmitting).signals,
          signal.exceeded = some true) := by
  have hexceeded : (rightSizingNetwork quietRetransmitting).retransmitPct.exceeded = some true := by
    decide +kernel
  have hcongested : (rightSizingNetwork quietRetransmitting).congested = false := by
    decide +kernel
  refine ⟨⟨hexceeded, hcongested⟩, ?_⟩
  intro hiff
  have hcontra : (rightSizingNetwork quietRetransmitting).congested = true :=
    hiff.mpr ⟨_, List.mem_cons_self, hexceeded⟩
  rw [hcongested] at hcontra
  exact absurd hcontra (by simp)

end AssessmentEngine
