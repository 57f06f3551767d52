import Mathlib.Data.List.Sort
import AssessmentEngine.Library.MergeBy
import AssessmentEngine.Attention.Signals

/-!
# Signals by host

`_extract_attention_hosts` merges the rows of the three catalogues into one item a host, and
`attention_for_host` looks the labels of one host up.  Both go by the displayed host name.
-/

namespace AssessmentEngine

open Table

/-! ## Slots -/

/-- The three catalogues. -/
inductive SignalKind
  | gap
  | osEol
  | restart
  deriving DecidableEq, Repr

/-- A row with the catalogue it stands in. -/
abbrev Signal := SignalKind × AttentionRow

/-- The rows of all catalogues, in the order in which they are gone through. -/
def AttentionSignals.signals (a : AttentionSignals) : List Signal :=
  a.gapWarnings.map (Prod.mk .gap) ++ a.osEolWarnings.map (Prod.mk .osEol) ++
    a.agentUnstable.map (Prod.mk .restart)

/-- The text that a catalogue shows of its row. -/
def Signal.label : Signal → String
  | (.gap, row) => row.badgeText
  | (.osEol, row) => row.metaText
  | (.restart, row) => row.badgeText

structure HostLabels where
  gapLabel : Option String
  osEolLabel : Option String
  restartLabel : Option String
  deriving DecidableEq, Repr

def HostLabels.none : HostLabels where
  gapLabel := .none
  osEolLabel := .none
  restartLabel := .none

def HostLabels.set (l : HostLabels) (signal : Signal) : HostLabels :=
  match signal.1 with
  | .gap => { l with gapLabel := some signal.label }
  | .osEol => { l with osEolLabel := some signal.label }
  | .restart => { l with restartLabel := some signal.label }

/-- The number of labels that are there. -/
def HostLabels.active (l : HostLabels) : ℕ :=
  l.gapLabel.toList.length + l.osEolLabel.toList.length + l.restartLabel.toList.length

/-- An entry of `by_host`. -/
structure Slot where
  publicId : String
  hostname : String
  labels : HostLabels
  deriving DecidableEq, Repr

/-- `_pid_from_href`: what follows the last slash. -/
def pidFromHref (href : String) : String :=
  String.ofList (href.toList.reverse.takeWhile fun c => decide (c ≠ '/')).reverse

/-- `_slot` and the assignment after it. -/
def slotMerge : Merge Slot.hostname Signal where
  keyOf signal := signal.2.linkText
  new signal :=
    { publicId := pidFromHref signal.2.linkHref
      hostname := signal.2.linkText
      labels := .none }
  change signal slot := { slot with labels := slot.labels.set signal }
  key_new _ := rfl
  key_change _ _ := rfl

/-- `by_host` after the three loops. -/
def attentionSlots (a : AttentionSignals) : List Slot :=
  mergeAll slotMerge [] a.signals

/-- `attention_for_host`: the labels of the rows displayed under the name, later ones over earlier
ones. -/
def attentionForHost (hostname : String) (a : AttentionSignals) : HostLabels :=
  a.signals.foldl
    (fun out signal => if signal.2.linkText = hostname then out.set signal else out) .none

/-! ## Items -/

structure AttentionHostItem where
  publicId : String
  hostname : String
  osDisplay : String
  labels : HostLabels
  activeCount : ℕ
  deriving DecidableEq, Repr

/-- `os_by_host`: of several report rows with one host name the last is seen. -/
def osByHost (rows : List (String × String)) (hostname : String) : String :=
  ((rows.reverse.find? fun row => decide (row.1 = hostname)).map Prod.snd).getD ""

def attentionHostItem (rows : List (String × String)) (slot : Slot) : Option AttentionHostItem :=
  if slot.labels.active = 0 then none
  else
    some
      { publicId := slot.publicId
        hostname := slot.hostname
        osDisplay := osByHost rows slot.hostname
        labels := slot.labels
        activeCount := slot.labels.active }

/-- More signals first, then by host name. -/
def attentionHostLe (a b : AttentionHostItem) : Bool :=
  decide (b.activeCount < a.activeCount) ||
    (decide (a.activeCount = b.activeCount) && decide (a.hostname ≤ b.hostname))

/-- `_extract_attention_hosts`, with the host name and the displayed system of each report row. -/
def extractAttentionHosts (a : AttentionSignals) (rows : List (String × String)) :
    List AttentionHostItem :=
  ((attentionSlots a).filterMap (attentionHostItem rows)).mergeSort attentionHostLe

/-! ## The slot of a host -/

lemma attentionSlots_hostnames (a : AttentionSignals) :
    ((attentionSlots a).map Slot.hostname).Nodup := by
  have hnil : (([] : List Slot).map Slot.hostname).Nodup := List.nodup_nil
  exact nodup_mergeAll hnil a.signals

/-- The slot of a host is made of the rows displayed under its name. -/
lemma findId_attentionSlots (a : AttentionSignals) (hostname : String) :
    findId Slot.hostname hostname (attentionSlots a) =
      (a.signals.filter fun signal => decide (signal.2.linkText = hostname)).foldl
        (fun found signal => some (slotMerge.row signal found)) none :=
  findId_mergeAll [] a.signals hostname

/-- The lookup sees the labels of the slot. -/
lemma attentionForHost_eq (a : AttentionSignals) (hostname : String) :
    attentionForHost hostname a =
      ((findId Slot.hostname hostname (attentionSlots a)).map Slot.labels).getD .none := by
  rw [findId_attentionSlots, attentionForHost, List.foldl_filter]
  have hfold : ∀ (signals : List Signal) (found : Option Slot),
      signals.foldl
          (fun out signal => if signal.2.linkText = hostname then out.set signal else out)
          ((found.map Slot.labels).getD .none) =
        ((signals.foldl
          (fun found signal =>
            if decide (signal.2.linkText = hostname) then some (slotMerge.row signal found)
            else found) found).map Slot.labels).getD .none := by
    intro signals
    induction signals with
    | nil => intro found; rfl
    | cons signal signals ih =>
      intro found
      rw [List.foldl_cons, List.foldl_cons, ← ih]
      congr 1
      by_cases hname : signal.2.linkText = hostname
      · rw [if_pos hname, if_pos (by simpa using hname)]
        cases found <;> rfl
      · rw [if_neg hname, if_neg (by simpa using hname)]
  exact hfold a.signals none

/-- A slot has its public id from a row displayed under its name. -/
lemma exists_signal_of_mem_slots {a : AttentionSignals} {slot : Slot}
    (hslot : slot ∈ attentionSlots a) :
    ∃ signal ∈ a.signals, signal.2.linkText = slot.hostname ∧
      pidFromHref signal.2.linkHref = slot.publicId := by
  have hmerge : ∀ slot ∈ mergeAll slotMerge [] a.signals,
      ∃ signal ∈ a.signals, signal.2.linkText = slot.hostname ∧
        pidFromHref signal.2.linkHref = slot.publicId := by
    refine mergeAll_forall (fun _ hnil => nomatch hnil) ?_ ?_
    · exact fun signal hsignal => ⟨signal, hsignal, rfl, rfl⟩
    · exact fun _ _ slot hslot => hslot
  exact hmerge slot hslot

end AssessmentEngine
