import AssessmentEngine.Recommendation.Assessment

/-!
# Advisory verdicts

Disk I/O and network are judged but never sized: a disk I/O bottleneck suggests a faster
tier and a congested network is a quality flag.  Neither counts as a shortage of the
host.
-/

namespace AssessmentEngine

/-- The disk I/O verdict.  Guest latency is always considered biased. -/
def assessDiskIo (stats : ResourceStats) : ResourceAssessment :=
  let conf := baseConfidence stats true false
  match diskIoSaturated stats with
  | none =>
    -- latency is only measured on a busy device, so known activity without it is quiet
    if stats.diskIopsBaseline.isSome then
      { kind := .diskIo, status := .ioOk, confidence := conf,
        detail := "device 저활동 (병목 아님)" }
    else
      { kind := .diskIo, status := .unmeasured, confidence := { conf with coverageGap := true },
        detail := "응답 지연/큐 미측정" }
  | some saturated =>
    let detail :=
      match stats.diskAwaitP95Ms with
      | some awaitMs => s!"await p95 {FixedPoint.formatFixed 0 awaitMs}ms"
      | none => s!"disk queue p95 {FixedPoint.formatFixed 1 (stats.diskQueueP95.getD 0)}"
    if saturated then
      { kind := .diskIo, status := .ioBound, triggers := [.diskIo], confidence := conf,
        detail := detail }
    else { kind := .diskIo, status := .ioOk, confidence := conf, detail := detail }

/-- Traffic too small for the retransmission and drop ratios to mean anything. -/
def lowTraffic (stats : ResourceStats) : Bool :=
  stats.netAvgKbytesPerS.any (· < rsNetMinTrafficKbps)

/-- The reasons for which a network is congested. -/
def netTriggers (stats : ResourceStats) : List TriggerKind :=
  (if !lowTraffic stats && stats.netRetransPct.any (rsNetRetransPct < ·) then [.netRetrans]
    else []) ++
    (if !lowTraffic stats && stats.netDropPct.any (rsNetDropPct < ·) then [.netDrop] else []) ++
    if stats.conntrackRatio.any (rsConntrackSaturationRatio ≤ ·) then [.netConntrack] else []

/-- The figures of a congested network. -/
def netDetail (stats : ResourceStats) : String :=
  " ".intercalate
    (((stats.netRetransPct.map fun retrans => s!"재전송 {FixedPoint.formatFixed 1 retrans}%").toList ++
      (stats.netDropPct.map fun drop => s!"드롭 {FixedPoint.formatFixed 2 drop}%").toList) ++
      if TriggerKind.netConntrack ∈ netTriggers stats then
        (stats.conntrackRatio.map fun ratio =>
          s!"conntrack {FixedPoint.formatFixed 0 (ratio * 100)}%").toList
      else [])

/-- The network verdict. -/
def assessNetwork (stats : ResourceStats) : ResourceAssessment :=
  let conf := baseConfidence stats false false
  let triggers := netTriggers stats
  if triggers ≠ [] then
    { kind := .network, status := .congested, triggers := triggers, confidence := conf,
      detail := netDetail stats }
  else if stats.netRetransPct.isNone ∧ stats.netDropPct.isNone ∧ stats.conntrackRatio.isNone then
    { kind := .network, status := .unmeasured, confidence := { conf with coverageGap := true },
      detail := "품질 신호 미측정" }
  else { kind := .network, status := .qualityOk, confidence := conf }

/-- The statuses of a disk I/O verdict. -/
lemma assessDiskIo_status_mem (stats : ResourceStats) :
    (assessDiskIo stats).status ∈ [.ioBound, .ioOk, .unmeasured] := by
  unfold assessDiskIo
  cases diskIoSaturated stats with
  | none =>
    simp only
    split_ifs <;> simp
  | some saturated => cases saturated <;> simp

/-- The statuses of a network verdict. -/
lemma assessNetwork_status_mem (stats : ResourceStats) :
    (assessNetwork stats).status ∈ [.congested, .qualityOk, .unmeasured] := by
  unfold assessNetwork
  simp only
  split_ifs <;> simp

end AssessmentEngine
