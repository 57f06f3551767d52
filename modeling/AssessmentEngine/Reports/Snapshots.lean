import AssessmentEngine.Reports.ReportSerializer

/-!
# Which snapshots come back

A published report is restored if and only if no subnet in it has a gateway, its workload donut is
empty and no row has one of the older words for the stage of support: the gateway is not among the
arguments of the subnet that is built again, and the segments of the workload donut are not built
again at all.  Every other part of a report comes back.
-/

namespace AssessmentEngine

open Dataclass

/-! ## Records of a class -/

/-- The value is a record of the class. -/
def OfClass (c : ViewModel) (v : Vm) : Prop :=
  fits viewModelFields v (.cls c) = true

lemma viewModelFields_nodup (c : ViewModel) : ((viewModelFields c).map FieldSpec.name).Nodup := by
  cases c <;> decide

section OfClass

variable {c c' : ViewModel} {v : Vm} {k : String} {t : Ty ViewModel} {b : Bool}
  {f : Vm → Option Vm}

lemma OfClass.admits (h : OfClass c v) (hk : fieldType (viewModelFields c) k = some (t, b)) :
    ∃ g : VmField, g.ty = t ∧ g.nullable = b ∧ g.admits viewModelFields (v.attr k) := by
  obtain ⟨g, hg, rfl, hty, hnullable⟩ := exists_of_fieldType hk
  exact ⟨g, hty, hnullable, admits_attr (viewModelFields_nodup c) h hg⟩

lemma OfClass.fits_attr (h : OfClass c v)
    (hk : fieldType (viewModelFields c) k = some (t, false)) :
    fits viewModelFields (v.attr k) t = true := by
  obtain ⟨g, rfl, hnullable, hadmits⟩ := h.admits hk
  rcases hadmits with ⟨htrue, _⟩ | hfits
  · rw [hnullable] at htrue
    exact absurd htrue Bool.false_ne_true
  · exact hfits

lemma OfClass.items (h : OfClass c v)
    (hk : fieldType (viewModelFields c) k = some (.list (.cls c'), false)) :
    ∀ x ∈ (v.attr k).items, OfClass c' x := by
  obtain ⟨xs, hxs, hall⟩ := exists_of_fits_list (h.fits_attr hk)
  rw [hxs]
  exact hall

/-- The field is plain. -/
def PlainField (c : ViewModel) (k : String) : Prop :=
  (fieldType (viewModelFields c) k).any (fun ty => ty.1.plain) = true

instance (c : ViewModel) (k : String) : Decidable (PlainField c k) :=
  inferInstanceAs (Decidable (_ = true))

/-- The field holds a time. -/
def TimeField (c : ViewModel) (k : String) : Prop :=
  (fieldType (viewModelFields c) k).map Prod.fst = some .datetime

instance (c : ViewModel) (k : String) : Decidable (TimeField c k) :=
  inferInstanceAs (Decidable (_ = _))

lemma OfClass.jsonable_attr (h : OfClass c v) (hk : PlainField c k) :
    (v.attr k).jsonable = v.attr k := by
  obtain ⟨⟨t, b⟩, hty, hplain⟩ := (Option.any_eq_true _ _).mp hk
  obtain ⟨g, rfl, _, hadmits⟩ := h.admits hty
  exact jsonable_of_admits hadmits hplain

lemma OfClass.each_iff (h : OfClass c v)
    (hk : fieldType (viewModelFields c) k = some (.list (.cls c'), false)) :
    RestoresEntry (each f) (v.attr k) ↔ ∀ x ∈ (v.attr k).items, Restores f x :=
  restoresEntry_each (h.fits_attr hk)

lemma OfClass.each (h : OfClass c v)
    (hk : fieldType (viewModelFields c) k = some (.list (.cls c'), false))
    (hf : ∀ x, OfClass c' x → Restores f x) : RestoresEntry (each f) (v.attr k) :=
  (h.each_iff hk).mpr fun x hx => hf x (h.items hk x hx)

lemma OfClass.time (h : OfClass c v) (hk : TimeField c k) : RestoresEntry time (v.attr k) := by
  obtain ⟨⟨t, b⟩, hty, rfl⟩ := Option.map_eq_some_iff.mp hk
  obtain ⟨g, hg, _, hadmits⟩ := h.admits hty
  exact restoresEntry_time hadmits hg

lemma OfClass.item (h : OfClass c v) (hk : PlainField c k) : RestoresEntry item (v.attr k) :=
  restoresEntry_item.mpr (h.jsonable_attr hk)

lemma OfClass.getOr {default : Vm} (h : OfClass c v) (hk : PlainField c k) :
    RestoresEntry (getOr default) (v.attr k) :=
  restoresEntry_getOr.mpr (h.jsonable_attr hk)

lemma viewModelFields_ne_nil (c : ViewModel) : viewModelFields c ≠ [] := by
  cases c <;> exact List.cons_ne_nil _ _

/-- A part that may be missing comes back when it does if it is there. -/
lemma OfClass.whenTruthy_iff {default : Option Vm → Vm} (h : OfClass c v)
    (hk : fieldType (viewModelFields c) k = some (.cls c', true))
    (hdefault : default (some .null) = .null) :
    RestoresEntry (whenTruthy f default) (v.attr k) ↔
      (OfClass c' (v.attr k) → Restores f (v.attr k)) := by
  obtain ⟨g, hty, _, hadmits⟩ := h.admits hk
  rw [restoresEntry_whenTruthy hadmits hty (viewModelFields_ne_nil c') fun _ => hdefault]
  constructor
  · intro hrestores hclass
    apply hrestores
    intro hnull
    rw [OfClass, hnull] at hclass
    simp [fits] at hclass
  · intro hrestores hnotnull
    rcases hadmits with ⟨_, hnull⟩ | hfits
    · exact absurd hnull hnotnull
    · rw [hty] at hfits
      exact hrestores hfits

/-- A part that is always there comes back when it does by itself. -/
lemma OfClass.whenTruthy {default : Option Vm → Vm} (h : OfClass c v)
    (hk : fieldType (viewModelFields c) k = some (.cls c', false))
    (hf : Restores f (v.attr k)) : RestoresEntry (whenTruthy f default) (v.attr k) := by
  obtain ⟨g, hty, hnullable, hadmits⟩ := h.admits hk
  have hdefault : g.nullable = true → default (some .null) = .null := fun htrue =>
    absurd (hnullable.symm.trans htrue) Bool.false_ne_true
  exact (restoresEntry_whenTruthy hadmits hty (viewModelFields_ne_nil c') hdefault).mpr fun _ => hf

/-- Where every field is plain or made anew, a record comes back when the latter do. -/
lemma OfClass.rebuild_iff {entries : List (String × Reader ViewModel)} (h : OfClass c v)
    (hcovers : Covers viewModelFields c (entries.map Prod.fst) (fun g => g.ty.plain) []) :
    Restores (rebuild viewModelFields c entries) v ↔
      ∀ e ∈ entries, RestoresEntry e.2 (v.attr e.1) :=
  (restores_rebuild_iff (viewModelFields_nodup _) hcovers h).trans
    (and_iff_left fun _ hk => absurd hk List.not_mem_nil)

/-- Where every field is given, a record comes back when the arguments do. -/
lemma OfClass.construct_iff {args : List (String × Reader ViewModel)} (h : OfClass c v)
    (hcovers : Covers viewModelFields c (args.map Prod.fst) (fun _ => false) []) :
    Restores (construct viewModelFields c args) v ↔
      ∀ e ∈ args, RestoresEntry e.2 (v.attr e.1) :=
  (restores_construct_iff (viewModelFields_nodup _) hcovers h).trans
    (and_iff_left fun _ _ hk => absurd hk List.not_mem_nil)

/-- A record without lists of records and without times comes back. -/
lemma OfClass.buildVm (h : OfClass c v)
    (hcovers : Covers viewModelFields c [] (fun g => g.ty.plain) []) : Restores (buildVm c) v := by
  have hiff : Restores (rebuild viewModelFields c []) v ↔
      ∀ e ∈ ([] : List (String × Reader ViewModel)), RestoresEntry e.2 (v.attr e.1) :=
    h.rebuild_iff hcovers
  exact hiff.mpr fun _ he => absurd he List.not_mem_nil

end OfClass

/-! ## Classes that come back -/

section Restored

variable {v : Vm}

lemma restores_attentionRow (h : OfClass .attentionRow v) : Restores attentionRowFromDict v := by
  refine (h.rebuild_iff (by decide)).mpr ?_
  simp only [List.forall_mem_cons, List.not_mem_nil, false_implies, implies_true, and_true]
  exact h.time rfl

lemma restores_attentionSignals (h : OfClass .attentionSignals v) :
    Restores attentionFromDict v := by
  refine (h.construct_iff (by decide)).mpr ?_
  simp only [List.forall_mem_cons, List.not_mem_nil, false_implies, implies_true, and_true]
  exact ⟨h.each rfl fun _ => restores_attentionRow,
    h.each rfl fun _ => restores_attentionRow,
    h.each rfl fun _ => restores_attentionRow⟩

lemma restores_capacityWarning (h : OfClass .capacityWarningItem v) :
    Restores capacityWarningFromDict v :=
  h.buildVm (by decide)

lemma restores_actionTargets (h : OfClass .actionTargets v) :
    Restores actionTargetsFromDict v := by
  refine (h.rebuild_iff (by decide)).mpr ?_
  simp only [List.forall_mem_cons, List.not_mem_nil, false_implies, implies_true, and_true]
  exact h.each rfl fun _ => restores_capacityWarning

lemma restores_serviceNameCount (h : OfClass .serviceNameCount v) :
    Restores serviceNameCountFromDict v := by
  refine (h.construct_iff (by decide)).mpr ?_
  simp only [List.forall_mem_cons, List.not_mem_nil, false_implies, implies_true, and_true]
  exact ⟨h.item rfl, h.item rfl,
    h.each rfl fun _ hx => hx.buildVm (by decide)⟩

lemma restores_serviceCatalogGroup (h : OfClass .serviceCatalogGroup v) :
    Restores serviceCatalogGroupFromDict v := by
  refine (h.construct_iff (by decide)).mpr ?_
  simp only [List.forall_mem_cons, List.not_mem_nil, false_implies, implies_true, and_true]
  exact ⟨h.item rfl, h.getOr rfl,
    h.each rfl fun _ => restores_serviceNameCount⟩

lemma restores_serverInventory (h : OfClass .serverInventorySnapshot v) :
    Restores serverInventoryFromDict v := by
  refine (h.rebuild_iff (by decide)).mpr ?_
  simp only [List.forall_mem_cons, List.not_mem_nil, false_implies, implies_true, and_true]
  exact ⟨h.each rfl fun _ hx => hx.buildVm (by decide),
    h.each rfl fun _ hx => hx.buildVm (by decide),
    h.time rfl, h.time rfl, h.time rfl⟩

lemma restores_networkInterface (h : OfClass .networkInterfaceInfo v) :
    Restores networkInterfaceFromDict v := by
  refine (h.rebuild_iff (by decide)).mpr ?_
  simp only [List.forall_mem_cons, List.not_mem_nil, false_implies, implies_true, and_true]
  exact h.each rfl fun _ hx => hx.buildVm (by decide)

lemma periodSignalRows_entry {c : ViewModel} {k : String} (h : OfClass c v)
    (hk : fieldType (viewModelFields c) k = some (.list (.cls .periodSignalRow), false)) :
    RestoresEntry periodSignalRows (v.attr k) :=
  h.each hk fun _ hx => hx.buildVm (by decide)

lemma periodErrorRows_entry {c : ViewModel} {k : String} (h : OfClass c v)
    (hk : fieldType (viewModelFields c) k = some (.list (.cls .periodErrorRow), false)) :
    RestoresEntry (each (buildVm .periodErrorRow)) (v.attr k) :=
  h.each hk fun _ hx => hx.buildVm (by decide)

lemma restores_periodExtraGroup (h : OfClass .periodExtraGroup v) :
    Restores periodExtraGroupFromDict v := by
  refine (h.construct_iff (by decide)).mpr ?_
  simp only [List.forall_mem_cons, List.not_mem_nil, false_implies, implies_true, and_true]
  exact ⟨h.item rfl, periodSignalRows_entry h rfl⟩

lemma restores_periodResource (h : OfClass .periodResource v) :
    Restores periodResourceFromDict v := by
  refine (h.construct_iff (by decide)).mpr ?_
  simp only [List.forall_mem_cons, List.not_mem_nil, false_implies, implies_true, and_true]
  exact ⟨h.item rfl,
    periodSignalRows_entry h rfl, h.getOr rfl,
    periodSignalRows_entry h rfl, h.getOr rfl,
    h.getOr rfl, h.getOr rfl,
    h.getOr rfl, h.getOr rfl,
    h.each rfl fun _ => restores_periodExtraGroup,
    periodErrorRows_entry h rfl,
    h.getOr rfl, h.getOr rfl⟩

lemma restores_periodAssessment (h : OfClass .periodAssessment v) :
    Restores periodAssessmentFromDict v := by
  refine (h.construct_iff (by decide)).mpr ?_
  simp only [List.forall_mem_cons, List.not_mem_nil, false_implies, implies_true, and_true]
  exact ⟨h.each rfl fun _ => restores_periodResource,
    periodErrorRows_entry h rfl, h.getOr rfl,
    h.getOr rfl, h.getOr rfl⟩

/-- A storage tree comes back, however deep it is. -/
lemma restores_storageNodeAt {n : ℕ} (h : OfClass .storageNode v) (hn : v.jsonable.depth < n) :
    Restores (storageNodeAt n) v := by
  induction n generalizing v with
  | zero => exact absurd hn (Nat.not_lt_zero _)
  | succ n ih =>
    have hcovers : Covers viewModelFields .storageNode ["children"] (fun g => g.ty.plain) [] := by
      decide
    have hiff : Restores (rebuild viewModelFields .storageNode
        [("children", each (storageNodeAt n))]) v ↔ _ := h.rebuild_iff hcovers
    have hstep : Restores (rebuild viewModelFields .storageNode
        [("children", each (storageNodeAt n))]) v := by
      refine hiff.mpr ?_
      simp only [List.forall_mem_cons, List.not_mem_nil, false_implies, implies_true, and_true]
      have hchildren : fieldType (viewModelFields .storageNode) "children" =
          some (.list (.cls .storageNode), false) := rfl
      refine (h.each_iff hchildren).mpr fun x hx => ih (h.items hchildren x hx) ?_
      -- a child is less deep than its node
      obtain ⟨xs, hxs, _⟩ := exists_of_fits_list (h.fits_attr hchildren)
      obtain ⟨g, hg, hname, _⟩ := exists_of_fieldType hchildren
      obtain ⟨own, rfl, _⟩ := exists_of_fits_cls h
      have hlookup := jsonableFields_lookup_attr (named_of_fits h) hg
      rw [hname, hxs, Value.jsonable, Value.jsonableList_eq_map] at hlookup
      rw [hxs, Value.items] at hx
      have hlist := Value.depth_lt_of_lookup hlookup
      have hchild := Value.depth_lt_of_mem (List.mem_map_of_mem (f := Value.jsonable) hx)
      rw [Value.jsonable] at hn
      omega
    exact hstep

lemma restores_storageNode (h : OfClass .storageNode v) : Restores storageNodeFromDict v :=
  restores_storageNodeAt h (Nat.lt_succ_self _)

end Restored

/-! ## Parts that may not come back -/

section Lost

variable {v : Vm}

/-- A subnet comes back without its gateway. -/
lemma restores_subnetGroup_iff (h : OfClass .subnetGroup v) :
    Restores subnetGroupFromDict v ↔ v.attr "gateway" = .null := by
  have hcovers : Covers viewModelFields .subnetGroup ["net_key", "host_count", "hosts"]
      (fun _ => false) ["gateway"] := by decide
  have hiff : Restores subnetGroupFromDict v ↔ _ :=
    restores_construct_iff (viewModelFields_nodup _) hcovers h
  rw [hiff]
  simp only [List.forall_mem_cons, List.not_mem_nil, false_implies, implies_true, and_true]
  constructor
  · rintro ⟨_, hdefault⟩
    have hgateway := hdefault (optionalField "gateway" .str)
      (List.mem_cons_of_mem _ (List.mem_cons_of_mem _ List.mem_cons_self)) List.mem_cons_self
    exact (Option.some.inj hgateway).symm
  · intro hnull
    refine ⟨⟨h.item rfl, h.getOr rfl,
      h.each rfl fun _ hx => hx.buildVm (by decide)⟩, ?_⟩
    intro f hf hname
    rw [List.mem_singleton] at hname
    rw [hname, hnull]
    have hcases : f = requiredField "net_key" .str ∨ f = defaultField "host_count" .int (.int 0) ∨
        f = optionalField "gateway" .str ∨
        f = defaultField "hosts" (.list (.cls .subnetHost)) (.list []) := by
      simpa [viewModelFields, subnetGroupFields] using hf
    rcases hcases with rfl | rfl | rfl | rfl
    · exact absurd hname (by decide)
    · exact absurd hname (by decide)
    · rfl
    · exact absurd hname (by decide)

lemma restores_topology_iff (h : OfClass .networkTopology v) :
    Restores topologyFromDict v ↔ ∀ g ∈ (v.attr "subnets").items, g.attr "gateway" = .null := by
  have hsubnets : fieldType (viewModelFields .networkTopology) "subnets" =
      some (.list (.cls .subnetGroup), false) := rfl
  have hiff : Restores topologyFromDict v ↔ _ := h.rebuild_iff (by decide)
  rw [hiff]
  simp only [List.forall_mem_cons, List.not_mem_nil, false_implies, implies_true, and_true]
  rw [h.each_iff hsubnets]
  exact forall₂_congr fun g hg => restores_subnetGroup_iff (h.items hsubnets g hg)

/-- An overview comes back without its workload donut. -/
lemma restores_overview_iff (h : OfClass .environmentOverview v) :
    Restores overviewFromDict v ↔ (v.attr "workload_donut").items = [] := by
  have hcovers : Covers viewModelFields .environmentOverview ["utilization", "utilization_p95",
      "risk_donut", "saturation_donuts", "error_fleet", "under_provisioned_hosts"]
      (fun g => g.ty.plain) ["workload_donut"] := by decide
  have hdonut : fieldType (viewModelFields .environmentOverview) "workload_donut" =
      some (.list (.cls .riskDonutSegment), false) := rfl
  have hiff : Restores overviewFromDict v ↔ _ :=
    restores_rebuild_iff (viewModelFields_nodup _) hcovers h
  rw [hiff]
  simp only [List.forall_mem_cons, List.not_mem_nil, false_implies, implies_true, and_true]
  rw [jsonable_eq_self_iff (h.fits_attr hdonut)]
  refine and_iff_right ⟨?_, ?_, ?_, ?_, ?_, ?_⟩
  · exact h.each rfl fun _ hx => hx.buildVm (by decide)
  · exact h.each rfl fun _ hx => hx.buildVm (by decide)
  · exact h.each rfl fun _ hx => hx.buildVm (by decide)
  · exact h.each rfl fun _ hx => hx.buildVm (by decide)
  · exact h.each rfl fun _ hx => hx.buildVm (by decide)
  · exact h.each rfl fun _ => restores_capacityWarning

/-- The row has one of the words for the stage of support that are in use. -/
def CurrentStatus (row : Vm) : Prop :=
  ∀ s, row.attr "os_eol_status" = .str s → legacyOsEolStatus s = none

lemma legacyOsEolStatus_ne {s s' : String} (h : legacyOsEolStatus s = some s') : s' ≠ s := by
  unfold legacyOsEolStatus at h
  split at h
  case h_4 => cases h
  all_goals
    cases h
    decide

lemma restores_reportRow_iff (h : OfClass .reportRowItem v) :
    Restores reportRowFromDict v ↔ CurrentStatus v := by
  have hiff : Restores reportRowFromDict v ↔ _ := h.rebuild_iff (by decide)
  rw [hiff]
  simp only [List.forall_mem_cons, List.not_mem_nil, false_implies, implies_true, and_true]
  have hgroups : RestoresEntry (each (buildVm .reportWorkloadGroup)) (v.attr "workload_groups") :=
    h.each rfl fun _ hx => hx.buildVm (by decide)
  have hlisten : RestoresEntry (each (buildVm .reportListenItem)) (v.attr "listen_ports_detail") :=
    h.each rfl fun _ hx => hx.buildVm (by decide)
  rw [and_iff_right hgroups, and_iff_right hlisten]
  have hstr : fits viewModelFields (v.attr "os_eol_status") .str = true :=
    h.fits_attr rfl
  cases hstatus : v.attr "os_eol_status" with
  | str s =>
    have hread : currentOsEolStatus (some (Value.str s).jsonable) =
        some (.str ((legacyOsEolStatus s).getD s)) := by
      rw [Value.jsonable]
      rfl
    rw [RestoresEntry, hread, CurrentStatus, hstatus]
    constructor
    · intro heq s' hs
      cases hs
      cases hlegacy : legacyOsEolStatus s with
      | none => rfl
      | some s' =>
        rw [hlegacy] at heq
        injection heq with heq
        injection heq with heq
        exact absurd heq (legacyOsEolStatus_ne hlegacy)
    · intro hcurrent
      rw [hcurrent s rfl, Option.getD_none]
  | _ =>
    rw [hstatus] at hstr
    simp [fits] at hstr

lemma restores_reportRows_iff {c : ViewModel} {k : String} (h : OfClass c v)
    (hk : fieldType (viewModelFields c) k = some (.list (.cls .reportRowItem), false)) :
    RestoresEntry (each reportRowFromDict) (v.attr k) ↔
      ∀ r ∈ (v.attr k).items, CurrentStatus r := by
  rw [h.each_iff hk]
  exact forall₂_congr fun r hr => restores_reportRow_iff (h.items hk r hr)

lemma restores_reportSummary_iff (h : OfClass .reportSummary v) :
    Restores reportSummaryFromDict v ↔ ∀ r ∈ (v.attr "rows").items, CurrentStatus r := by
  have hiff : Restores reportSummaryFromDict v ↔ _ := h.rebuild_iff (by decide)
  rw [hiff]
  simp only [List.forall_mem_cons, List.not_mem_nil, false_implies, implies_true, and_true]
  rw [restores_reportRows_iff h rfl]
  refine and_iff_left ⟨?_, h.time rfl, h.time rfl⟩
  have htotals : fieldType (viewModelFields .reportSummary) "totals" =
      some (.cls .reportTotals, false) := rfl
  have hclass : OfClass .reportTotals (v.attr "totals") := h.fits_attr htotals
  exact h.whenTruthy htotals (hclass.buildVm (by decide))

lemma restores_objectMember {c : ViewModel} {f : Vm → Option Vm} (h : OfClass c v) :
    RestoresEntry (objectMember f) v ↔ Restores f v := by
  obtain ⟨own, rfl, _⟩ := exists_of_fits_cls h
  rw [RestoresEntry, Restores, Value.jsonable]
  rfl

/-- What a report must not have to come back. -/
structure Restorable (vm : Vm) : Prop where
  gateways : ∀ g ∈ ((vm.attr "topology").attr "subnets").items, g.attr "gateway" = .null
  workloadDonut : ((vm.attr "overview").attr "workload_donut").items = []
  rows : ∀ r ∈ ((vm.attr "base").attr "rows").items, CurrentStatus r
  topRisks : ∀ r ∈ (vm.attr "top_risks").items, CurrentStatus r

/-- A topology that is not there has no subnets. -/
lemma topology_entry_iff (h : OfClass .environmentReportSummary v) :
    RestoresEntry (whenTruthy topologyFromDict fun _ => .null) (v.attr "topology") ↔
      ∀ g ∈ ((v.attr "topology").attr "subnets").items, g.attr "gateway" = .null := by
  have hty : fieldType (viewModelFields .environmentReportSummary) "topology" =
      some (.cls .networkTopology, true) := rfl
  rw [h.whenTruthy_iff hty rfl]
  obtain ⟨g, hg, _, hadmits⟩ := h.admits hty
  rcases hadmits with ⟨_, hnull⟩ | hfits
  · rw [hnull]
    refine iff_of_true (fun hclass => ?_) fun g hg => absurd hg List.not_mem_nil
    rw [OfClass] at hclass
    simp [fits] at hclass
  · rw [hg] at hfits
    rw [← restores_topology_iff hfits]
    exact ⟨fun hrestores => hrestores hfits, fun hrestores _ => hrestores⟩

lemma restores_envReport_iff (h : OfClass .environmentReportSummary v) :
    Restores envReportFromDict v ↔ Restorable v := by
  have hoverview : RestoresEntry (member overviewFromDict) (v.attr "overview") ↔
      ((v.attr "overview").attr "workload_donut").items = [] :=
    restores_overview_iff (h.fits_attr rfl)
  have hattention : RestoresEntry (member attentionFromDict) (v.attr "attention") :=
    restores_attentionSignals (h.fits_attr rfl)
  have hbase : RestoresEntry (member reportSummaryFromDict) (v.attr "base") ↔
      ∀ r ∈ ((v.attr "base").attr "rows").items, CurrentStatus r :=
    restores_reportSummary_iff (h.fits_attr rfl)
  have haction : RestoresEntry (objectMember actionTargetsFromDict) (v.attr "action") := by
    have hclass : OfClass .actionTargets (v.attr "action") := h.fits_attr rfl
    exact (restores_objectMember hclass).mpr (restores_actionTargets hclass)
  have hmemory : RestoresEntry (whenTruthy (buildVm .memoryBreakdown) kept)
      (v.attr "memory_breakdown") :=
    (h.whenTruthy_iff rfl rfl).mpr fun hclass => hclass.buildVm (by decide)
  have hcpu : RestoresEntry (whenTruthy (buildVm .cpuBreakdown) kept) (v.attr "cpu_breakdown") :=
    (h.whenTruthy_iff rfl rfl).mpr fun hclass => hclass.buildVm (by decide)
  have hinventory : RestoresEntry (whenTruthy serverInventoryFromDict kept)
      (v.attr "server_inventory") :=
    (h.whenTruthy_iff rfl rfl).mpr fun hclass => restores_serverInventory hclass
  have hperiod : RestoresEntry (whenTruthy periodAssessmentFromDict fun _ => .null)
      (v.attr "period_assessment") :=
    (h.whenTruthy_iff rfl rfl).mpr fun hclass => restores_periodAssessment hclass
  have htopology := topology_entry_iff h
  have htopRisks : RestoresEntry (each reportRowFromDict) (v.attr "top_risks") ↔
      ∀ r ∈ (v.attr "top_risks").items, CurrentStatus r :=
    restores_reportRows_iff h rfl
  have hiff : Restores envReportFromDict v ↔ _ := h.rebuild_iff (by decide)
  rw [hiff]
  simp only [List.forall_mem_cons, List.not_mem_nil, false_implies, implies_true, and_true]
  constructor
  · rintro ⟨h1, _, h2, _, _, _, h3, h4, _⟩
    exact ⟨htopology.mp h3, hoverview.mp h1, hbase.mp h2, htopRisks.mp h4⟩
  · rintro ⟨hgateways, hdonut, hrows, hrisks⟩
    exact ⟨hoverview.mpr hdonut, hattention, hbase.mpr hrows,
      h.each rfl fun _ hx => hx.buildVm (by decide),
      h.each rfl fun _ hx => hx.buildVm (by decide),
      h.each rfl fun _ hx => hx.buildVm (by decide),
      htopology.mpr hgateways, htopRisks.mpr hrisks, haction,
      h.each rfl fun _ => restores_serviceCatalogGroup,
      h.each rfl fun _ hx => hx.buildVm (by decide),
      h.each rfl fun _ hx => hx.buildVm (by decide),
      h.time rfl, h.time rfl, hinventory, hmemory, hcpu, hperiod,
      h.each rfl fun _ => restores_storageNode,
      h.each rfl fun _ => restores_networkInterface⟩

end Lost

/-- A published report comes back with every part of it restored if and only if no subnet in it has
a gateway, its workload donut is empty and its rows have no older word for the stage of support. -/
theorem envReport_restored_iff (vm : Instance .environmentReportSummary) :
    envReportFromDict (envReportToDict vm.value) = some vm.value ↔ Restorable vm.value :=
  restores_envReport_iff vm.fits

/-! ## A report on a host behind a gateway -/

def sampleTime : DateTime where
  civil := ⟨2026, 1, 5, 9, 0, 0, 0, some 0⟩
  valid := by decide

/-- The record of a class with the given fields and the defaults of the others. -/
def sampleVm (c : ViewModel) (data : Dict ViewModel) : Vm :=
  (build viewModelFields c data).getD .null

/-- One subnet, whose gateway is known. -/
def gatewayTopology : Vm :=
  sampleVm .networkTopology
    [("elements", .list []), ("subnet_count", .int 1), ("host_count", .int 0),
      ("multi_homed_count", .int 0), ("isolated_count", .int 0),
      ("subnets", .list
        [sampleVm .subnetGroup [("net_key", .str "10.0.1.0/24"), ("gateway", .str "10.0.1.1")]])]

def gatewayReport : Vm :=
  sampleVm .environmentReportSummary
    [("view", .str "engineer"), ("time_range", .str "14d"), ("time_range_label", .str "14일"),
      ("anchor_at", .datetime sampleTime), ("generated_at", .datetime sampleTime),
      ("overview", sampleVm .environmentOverview
        [("total", .int 0), ("online", .int 0), ("offline", .int 0), ("total_vcpus", .int 0),
          ("total_memory_gb", .float (.finite 0)), ("total_disk_gb", .int 0)]),
      ("attention", sampleVm .attentionSignals [("gap_warnings", .list [])]),
      ("base", sampleVm .reportSummary
        [("rows", .list []), ("period_days", .float (.finite 14)), ("total", .int 0),
          ("online", .int 0), ("risk_attention", .int 0), ("risk_high", .int 0)]),
      ("classification_dist", .list []), ("os_distribution", .list []), ("top_risks", .list []),
      ("summary_bullets_env", .list []), ("topology", gatewayTopology)]

lemma gatewayReport_ofClass : OfClass .environmentReportSummary gatewayReport := by
  rw [OfClass]
  rfl

/-- Its snapshot does not come back: the gateway is gone. -/
theorem gatewayReport_not_restored :
    ¬ ∀ vm : Instance .environmentReportSummary,
      envReportFromDict (envReportToDict vm.value) = some vm.value := by
  intro h
  have hrestores : Restores envReportFromDict gatewayReport := h ⟨_, gatewayReport_ofClass⟩
  have hgateways := ((restores_envReport_iff gatewayReport_ofClass).mp hrestores).gateways
  have hsubnets : ((gatewayReport.attr "topology").attr "subnets").items =
      [sampleVm .subnetGroup [("net_key", .str "10.0.1.0/24"), ("gateway", .str "10.0.1.1")]] := rfl
  rw [hsubnets] at hgateways
  have hgateway : (sampleVm .subnetGroup [("net_key", .str "10.0.1.0/24"),
      ("gateway", .str "10.0.1.1")]).attr "gateway" = .str "10.0.1.1" := rfl
  have hnull := hgateways _ (List.mem_singleton_self _)
  rw [hgateway] at hnull
  exact nomatch hnull

end AssessmentEngine
