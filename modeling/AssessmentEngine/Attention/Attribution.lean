import AssessmentEngine.Library.FirstWriter
import AssessmentEngine.Attention.Hosts

/-!
# Whose signals a selection report shows

The catalogues are restricted to the selected servers and merged by displayed host name.  The
signals that a report shows are exactly those of the selected servers, each server with its own, if
and only if host names tell apart the servers that matter (`Fleet.Separated`).
-/

namespace AssessmentEngine

open Table

/-! ## A server's own signals -/

/-- The labels that a server's own signals give it. -/
def FleetServer.labels (ctx : AttentionContext) (s : FleetServer) : HostLabels where
  gapLabel := (s.gapRow ctx).map AttentionRow.badgeText
  osEolLabel := (toOsEolWarningItem ctx s).map AttentionRow.metaText
  restartLabel := (s.restartRow ctx).map AttentionRow.badgeText

/-- The server has a signal. -/
def FleetServer.Signalled (ctx : AttentionContext) (s : FleetServer) : Prop :=
  (s.labels ctx).active ≠ 0

instance (ctx : AttentionContext) (s : FleetServer) : Decidable (s.Signalled ctx) :=
  inferInstanceAs (Decidable (_ ≠ _))

/-- The selected servers that have a signal. -/
def Fleet.signalled (ctx : AttentionContext) (fleet : Fleet) (serverPublicIds : List String) :
    List FleetServer :=
  (fleet.selected serverPublicIds).filter fun s => decide (s.Signalled ctx)

/-- What an item says of a server. -/
structure HostSignals where
  publicId : String
  labels : HostLabels
  activeCount : ℕ
  deriving DecidableEq, Repr

def AttentionHostItem.signals (item : AttentionHostItem) : HostSignals where
  publicId := item.publicId
  labels := item.labels
  activeCount := item.activeCount

def FleetServer.hostSignals (ctx : AttentionContext) (s : FleetServer) : HostSignals where
  publicId := s.publicId
  labels := s.labels ctx
  activeCount := (s.labels ctx).active

/-- A report on the selected servers shows exactly their signals, and lists each server that has
one once, with its own labels and their number. -/
structure AttributedPerServer (ctx : AttentionContext) (fleet : Fleet)
    (serverPublicIds : List String) (rows : List (String × String)) : Prop where
  gapWarnings : (selectionAttention ctx fleet serverPublicIds).gapWarnings.Perm
    ((fleet.selected serverPublicIds).filterMap (FleetServer.gapRow ctx))
  osEolWarnings : (selectionAttention ctx fleet serverPublicIds).osEolWarnings.Perm
    ((fleet.selected serverPublicIds).filterMap (toOsEolWarningItem ctx))
  agentUnstable : (selectionAttention ctx fleet serverPublicIds).agentUnstable.Perm
    ((fleet.selected serverPublicIds).filterMap (FleetServer.restartRow ctx))
  hosts : ((extractAttentionHosts (selectionAttention ctx fleet serverPublicIds) rows).map
      AttentionHostItem.signals).Perm
    ((fleet.signalled ctx serverPublicIds).map (FleetServer.hostSignals ctx))

/-- Host names tell apart the servers that matter to a selection. -/
structure Fleet.Separated (ctx : AttentionContext) (fleet : Fleet)
    (serverPublicIds : List String) : Prop where
  /-- No server outside the selection that has fallen silent shares its host name with a selected
  one. -/
  outside : ∀ s ∈ fleet.selected serverPublicIds, ∀ t ∈ fleet.servers,
    t.publicId ∉ serverPublicIds → (t.gap ctx).isSome → t.hostname ≠ s.hostname
  /-- No two selected servers that have a signal share their host name. -/
  inside : ∀ s ∈ fleet.selected serverPublicIds, ∀ t ∈ fleet.selected serverPublicIds,
    s.Signalled ctx → t.Signalled ctx → s.hostname = t.hostname → s = t

/-! ## The rows of a selection -/

section Selection

variable {ctx : AttentionContext} {fleet : Fleet} {serverPublicIds : List String}

lemma Fleet.mem_selected {s : FleetServer} :
    s ∈ fleet.selected serverPublicIds ↔ s ∈ fleet.servers ∧ s.publicId ∈ serverPublicIds := by
  rw [Fleet.selected, List.mem_filter, decide_eq_true_iff]

lemma Fleet.selected_nodup : (fleet.selected serverPublicIds).Nodup :=
  fleet.servers_nodup.filter _

/-- Rows made for the selected servers all pass the filter by host name. -/
lemma filter_filterMap_selected {row : FleetServer → Option AttentionRow}
    (hrow : ∀ s r, row s = some r → r.Of s) :
    ((fleet.selected serverPublicIds).filterMap row).filter
        (fun w => decide (w.linkText ∈ (fleet.selected serverPublicIds).map FleetServer.hostname)) =
      (fleet.selected serverPublicIds).filterMap row := by
  refine List.filter_eq_self.mpr fun r hr => ?_
  obtain ⟨s, hs, hsr⟩ := List.mem_filterMap.mp hr
  have htext : r.linkText = s.hostname := (hrow s r hsr).2
  rw [decide_eq_true_iff, htext]
  exact List.mem_map_of_mem hs

lemma selectionAttention_osEol :
    (selectionAttention ctx fleet serverPublicIds).osEolWarnings =
      (fleet.selected serverPublicIds).filterMap (toOsEolWarningItem ctx) :=
  filter_filterMap_selected fun _ _ => toOsEolWarningItem_of

lemma selectionAttention_restart :
    (selectionAttention ctx fleet serverPublicIds).agentUnstable =
      (fleet.selected serverPublicIds).filterMap (FleetServer.restartRow ctx) :=
  filter_filterMap_selected fun _ _ => FleetServer.restartRow_of

/-- The gap rows of a report are those of all servers with the name of a selected one. -/
lemma mem_selectionAttention_gap {r : AttentionRow} :
    r ∈ (selectionAttention ctx fleet serverPublicIds).gapWarnings ↔
      (∃ t ∈ fleet.servers, t.gapRow ctx = some r) ∧
        ∃ s ∈ fleet.selected serverPublicIds, s.hostname = r.linkText := by
  have hrows : (selectionAttention ctx fleet serverPublicIds).gapWarnings =
      ((gapOrder ctx fleet.servers).filterMap (FleetServer.gapRow ctx)).filter fun w =>
        decide (w.linkText ∈ (fleet.selected serverPublicIds).map FleetServer.hostname) := rfl
  rw [hrows, List.mem_filter, List.mem_filterMap, decide_eq_true_iff, List.mem_map]
  have horder : ∀ t, t ∈ gapOrder ctx fleet.servers ↔ t ∈ fleet.servers :=
    fun t => List.mem_mergeSort
  simp only [horder]

lemma FleetServer.gapRow_isSome {s : FleetServer} : (s.gapRow ctx).isSome = (s.gap ctx).isSome :=
  Option.isSome_map ..

/-- Without a silent namesake outside, the gap rows are those of the selected servers. -/
lemma Fleet.Separated.gapWarnings (h : fleet.Separated ctx serverPublicIds) :
    (selectionAttention ctx fleet serverPublicIds).gapWarnings.Perm
      ((fleet.selected serverPublicIds).filterMap (FleetServer.gapRow ctx)) := by
  have hperm : (gapOrder ctx fleet.servers).Perm fleet.servers := List.mergeSort_perm _ _
  refine ((hperm.filterMap (FleetServer.gapRow ctx)).filter _).trans ?_
  have hselected : (fleet.selected serverPublicIds).filterMap (FleetServer.gapRow ctx) =
      fleet.servers.filterMap fun s =>
        if decide (s.publicId ∈ serverPublicIds) then s.gapRow ctx else none :=
    List.filterMap_filter
  rw [List.filter_filterMap, hselected]
  apply List.Perm.of_eq
  apply List.filterMap_congr
  intro t ht
  cases hrow : t.gapRow ctx with
  | none => simp
  | some r =>
    have htext : r.linkText = t.hostname := (FleetServer.gapRow_of hrow).2
    by_cases hsel : t.publicId ∈ serverPublicIds
    · have hmem : r.linkText ∈ (fleet.selected serverPublicIds).map FleetServer.hostname := by
        rw [htext]
        exact List.mem_map_of_mem (Fleet.mem_selected.mpr ⟨ht, hsel⟩)
      rw [Option.filter_some, if_pos (decide_eq_true hmem), if_pos (decide_eq_true hsel)]
    · have hgap : (t.gap ctx).isSome := by rw [← FleetServer.gapRow_isSome, hrow]; rfl
      have hmem : r.linkText ∉ (fleet.selected serverPublicIds).map FleetServer.hostname := by
        rw [htext]
        intro hname
        obtain ⟨s, hs, hst⟩ := List.mem_map.mp hname
        exact h.outside s hs t ht hsel hgap hst.symm
      rw [Option.filter_some, if_neg (by simpa using hmem), if_neg (by simpa using hsel)]

/-! ## The signals of a host -/

/-- The signals of a server, in the order of the catalogues. -/
def FleetServer.signals (ctx : AttentionContext) (s : FleetServer) : List Signal :=
  (s.gapRow ctx).toList.map (Prod.mk .gap) ++
    (toOsEolWarningItem ctx s).toList.map (Prod.mk .osEol) ++
    (s.restartRow ctx).toList.map (Prod.mk .restart)

/-- The slot of a server on its own. -/
def FleetServer.slot (ctx : AttentionContext) (s : FleetServer) : Slot where
  publicId := s.publicId
  hostname := s.hostname
  labels := s.labels ctx

lemma pidFromHref_servers {publicId : String} (h : '/' ∉ publicId.toList) :
    pidFromHref ("/servers/" ++ publicId) = publicId := by
  have hchars : ("/servers/" ++ publicId).toList.reverse =
      publicId.toList.reverse ++ ('/' :: "srevres/".toList) := by
    rw [String.toList_append, List.reverse_append]
    congr 1
  have hall : ∀ c ∈ publicId.toList.reverse, decide (c ≠ '/') = true := by
    intro c hc
    rw [decide_eq_true_iff]
    rintro rfl
    exact h (List.mem_reverse.mp hc)
  rw [pidFromHref, hchars, List.takeWhile_append_of_pos hall,
    List.takeWhile_cons_of_neg (by decide), List.append_nil, List.reverse_reverse,
    String.ofList_toList]

lemma AttentionRow.Of.pid {s : FleetServer} {r : AttentionRow} (h : r.Of s) :
    pidFromHref r.linkHref = s.publicId := by
  rw [h.1]
  exact pidFromHref_servers s.publicId_slashless

/-- The signals of one server make its own slot. -/
lemma FleetServer.foldl_signals (s : FleetServer) :
    (s.signals ctx).foldl (fun found signal => some (slotMerge.row signal found)) none =
      if s.Signalled ctx then some (s.slot ctx) else none := by
  have hslot : ∀ kind r, r.Of s → slotMerge.new (kind, r) = ⟨s.publicId, s.hostname, .none⟩ := by
    intro kind r hr
    have hpid : pidFromHref r.linkHref = s.publicId := hr.pid
    have htext : r.linkText = s.hostname := hr.2
    simp only [slotMerge, hpid, htext]
  have hsignalled : s.Signalled ctx ↔ (s.labels ctx).active ≠ 0 := Iff.rfl
  simp only [hsignalled, FleetServer.signals, FleetServer.slot, FleetServer.labels,
    HostLabels.active]
  cases hgap : s.gapRow ctx with
  | none =>
    cases heol : toOsEolWarningItem ctx s with
    | none =>
      cases hrestart : s.restartRow ctx with
      | none => rfl
      | some c => simp [Merge.row, hslot _ c (restartRow_of hrestart)]; rfl
    | some b =>
      cases hrestart : s.restartRow ctx with
      | none => simp [Merge.row, hslot _ b (toOsEolWarningItem_of heol)]; rfl
      | some c => simp [Merge.row, hslot _ b (toOsEolWarningItem_of heol)]; rfl
  | some a =>
    have hnew := hslot .gap a (gapRow_of hgap)
    cases toOsEolWarningItem ctx s <;> cases s.restartRow ctx <;> simp [Merge.row, hnew] <;> rfl

/-! ## The slots of a selection -/

lemma Fleet.mem_signalled {s : FleetServer} :
    s ∈ fleet.signalled ctx serverPublicIds ↔
      s ∈ fleet.selected serverPublicIds ∧ s.Signalled ctx := by
  rw [Fleet.signalled, List.mem_filter, decide_eq_true_iff]

lemma Fleet.Separated.hostnames (h : fleet.Separated ctx serverPublicIds) :
    ((fleet.signalled ctx serverPublicIds).map FleetServer.hostname).Nodup := by
  refine List.Nodup.map_on ?_ (Fleet.selected_nodup.filter _)
  intro s hs t ht hname
  obtain ⟨hs, hsSignal⟩ := Fleet.mem_signalled.mp hs
  obtain ⟨ht, htSignal⟩ := Fleet.mem_signalled.mp ht
  exact h.inside s hs t ht hsSignal htSignal hname

lemma FleetServer.rows_eq_none {s : FleetServer} (h : ¬ s.Signalled ctx) :
    s.gapRow ctx = none ∧ toOsEolWarningItem ctx s = none ∧ s.restartRow ctx = none := by
  have hzero : (s.labels ctx).active = 0 := not_not.mp h
  simp only [HostLabels.active, FleetServer.labels, Option.length_toList] at hzero
  cases hgap : s.gapRow ctx <;> cases heol : toOsEolWarningItem ctx s <;>
    cases hrestart : s.restartRow ctx <;> simp [hgap, heol, hrestart] at hzero ⊢

/-- The rows of a catalogue under a host name are those of the signalled server of that name. -/
lemma Fleet.Separated.filter_hostname (h : fleet.Separated ctx serverPublicIds)
    {row : FleetServer → Option AttentionRow} (hof : ∀ s r, row s = some r → r.Of s)
    (hnone : ∀ s, ¬ s.Signalled ctx → row s = none) {rows : List AttentionRow}
    (hrows : rows.Perm ((fleet.selected serverPublicIds).filterMap row)) (hostname : String) :
    (rows.filter fun r => decide (r.linkText = hostname)) =
      ((findId FleetServer.hostname hostname (fleet.signalled ctx serverPublicIds)).bind
        row).toList := by
  have hselected : ((fleet.selected serverPublicIds).filterMap row).filter
        (fun r => decide (r.linkText = hostname)) =
      ((fleet.signalled ctx serverPublicIds).filter fun s =>
        decide (s.hostname = hostname)).filterMap row := by
    rw [List.filter_filterMap, List.filterMap_filter, Fleet.signalled, List.filterMap_filter]
    apply List.filterMap_congr
    intro s _
    cases hrow : row s with
    | none => simp
    | some r =>
      have htext : r.linkText = s.hostname := (hof s r hrow).2
      have hsignal : s.Signalled ctx := by
        by_contra hnot
        rw [hnone s hnot] at hrow
        cases hrow
      rw [Option.filter_some, if_pos (decide_eq_true hsignal), htext]
  have hperm := hrows.filter fun r => decide (r.linkText = hostname)
  rw [hselected, filter_key_eq h.hostnames] at hperm
  -- at most one row, so the order does not matter
  cases howner : findId FleetServer.hostname hostname (fleet.signalled ctx serverPublicIds) with
  | none =>
    rw [howner] at hperm
    exact hperm.eq_nil
  | some s =>
    rw [howner] at hperm
    cases hrow : row s with
    | none =>
      have hnil : [s].filterMap row = [] := List.filterMap_cons_none hrow
      rw [Option.toList_some, hnil] at hperm
      rw [Option.bind_some, hrow]
      exact hperm.eq_nil
    | some r =>
      have hone : [s].filterMap row = [r] := List.filterMap_cons_some hrow
      rw [Option.toList_some, hone] at hperm
      rw [Option.bind_some, hrow]
      exact List.perm_singleton.mp hperm

/-- The slot under a host name is that of the signalled server of that name. -/
lemma Fleet.Separated.findId_slots (h : fleet.Separated ctx serverPublicIds) (hostname : String) :
    findId Slot.hostname hostname
        (attentionSlots (selectionAttention ctx fleet serverPublicIds)) =
      (findId FleetServer.hostname hostname (fleet.signalled ctx serverPublicIds)).map
        (FleetServer.slot ctx) := by
  have hgap := h.filter_hostname (fun _ _ => FleetServer.gapRow_of)
    (fun _ hs => (FleetServer.rows_eq_none hs).1) h.gapWarnings hostname
  have heol := h.filter_hostname (fun _ _ => toOsEolWarningItem_of)
    (fun _ hs => (FleetServer.rows_eq_none hs).2.1) (List.Perm.of_eq selectionAttention_osEol)
    hostname
  have hrestart := h.filter_hostname (fun _ _ => FleetServer.restartRow_of)
    (fun _ hs => (FleetServer.rows_eq_none hs).2.2) (List.Perm.of_eq selectionAttention_restart)
    hostname
  rw [findId_attentionSlots, AttentionSignals.signals, List.filter_append, List.filter_append,
    List.filter_map, List.filter_map, List.filter_map]
  simp only [Function.comp_def]
  rw [hgap, heol, hrestart]
  cases howner : findId FleetServer.hostname hostname (fleet.signalled ctx serverPublicIds) with
  | none => rfl
  | some s =>
    have hsignal : s.Signalled ctx := (Fleet.mem_signalled.mp (findId_mem howner)).2
    exact s.foldl_signals.trans (if_pos hsignal)

/-- The slots are those of the signalled servers. -/
lemma Fleet.Separated.slots (h : fleet.Separated ctx serverPublicIds) :
    (attentionSlots (selectionAttention ctx fleet serverPublicIds)).Perm
      ((fleet.signalled ctx serverPublicIds).map (FleetServer.slot ctx)) := by
  have hown : (((fleet.signalled ctx serverPublicIds).map (FleetServer.slot ctx)).map
      Slot.hostname).Nodup := by
    rw [List.map_map]
    exact h.hostnames
  refine perm_of_findId (attentionSlots_hostnames _) hown fun hostname => ?_
  have hmap : findId Slot.hostname hostname
      ((fleet.signalled ctx serverPublicIds).map (FleetServer.slot ctx)) =
        (findId FleetServer.hostname hostname (fleet.signalled ctx serverPublicIds)).map
          (FleetServer.slot ctx) :=
    findId_map (fun _ => rfl) hostname _
  rw [h.findId_slots, hmap]

/-- Each signalled server has its item, and there is no other. -/
lemma Fleet.Separated.hosts (h : fleet.Separated ctx serverPublicIds)
    (rows : List (String × String)) :
    ((extractAttentionHosts (selectionAttention ctx fleet serverPublicIds) rows).map
        AttentionHostItem.signals).Perm
      ((fleet.signalled ctx serverPublicIds).map (FleetServer.hostSignals ctx)) := by
  have hsort := List.mergeSort_perm
    ((attentionSlots (selectionAttention ctx fleet serverPublicIds)).filterMap
      (attentionHostItem rows)) attentionHostLe
  refine (hsort.map AttentionHostItem.signals).trans ?_
  refine ((h.slots.filterMap (attentionHostItem rows)).map AttentionHostItem.signals).trans ?_
  rw [List.filterMap_map, List.map_filterMap]
  apply List.Perm.of_eq
  rw [← List.filterMap_eq_map]
  apply List.filterMap_congr
  intro s hs
  have hsignal : s.Signalled ctx := (Fleet.mem_signalled.mp hs).2
  have hactive : (s.slot ctx).labels.active ≠ 0 := hsignal
  rw [Function.comp_apply, attentionHostItem, if_neg hactive]
  rfl

/-! ## Where names do not tell servers apart -/

/-- Every row of a report belongs to a server of the fleet. -/
lemma exists_of_mem_signals {signal : Signal}
    (hsignal : signal ∈ (selectionAttention ctx fleet serverPublicIds).signals) :
    ∃ s ∈ fleet.servers, signal.2.Of s := by
  rw [AttentionSignals.signals, selectionAttention_osEol, selectionAttention_restart,
    List.mem_append, List.mem_append, List.mem_map, List.mem_map, List.mem_map] at hsignal
  rcases hsignal with (⟨r, hr, rfl⟩ | ⟨r, hr, rfl⟩) | ⟨r, hr, rfl⟩
  · obtain ⟨⟨t, ht, hrow⟩, _⟩ := mem_selectionAttention_gap.mp hr
    exact ⟨t, ht, FleetServer.gapRow_of hrow⟩
  · obtain ⟨s, hs, hrow⟩ := List.mem_filterMap.mp hr
    exact ⟨s, (Fleet.mem_selected.mp hs).1, toOsEolWarningItem_of hrow⟩
  · obtain ⟨s, hs, hrow⟩ := List.mem_filterMap.mp hr
    exact ⟨s, (Fleet.mem_selected.mp hs).1, FleetServer.restartRow_of hrow⟩

/-- An item that says it is about a server is displayed under the name of that server. -/
lemma slot_hostname {slot : Slot}
    (hslot : slot ∈ attentionSlots (selectionAttention ctx fleet serverPublicIds))
    {s : FleetServer} (hs : s ∈ fleet.servers) (hpid : slot.publicId = s.publicId) :
    slot.hostname = s.hostname := by
  obtain ⟨signal, hsignal, hname, hhref⟩ := exists_signal_of_mem_slots hslot
  obtain ⟨t, ht, hof⟩ := exists_of_mem_signals hsignal
  have hts : t = s := by
    apply Fleet.eq_of_publicId ht hs
    rw [← hof.pid, hhref, hpid]
  rw [← hname, hof.2, hts]

lemma AttributedPerServer.exists_slot {rows : List (String × String)}
    (h : AttributedPerServer ctx fleet serverPublicIds rows) {s : FleetServer}
    (hs : s ∈ fleet.selected serverPublicIds) (hsignal : s.Signalled ctx) :
    ∃ slot ∈ attentionSlots (selectionAttention ctx fleet serverPublicIds),
      slot.publicId = s.publicId := by
  have hmem : s.hostSignals ctx ∈ (fleet.signalled ctx serverPublicIds).map
      (FleetServer.hostSignals ctx) :=
    List.mem_map_of_mem (Fleet.mem_signalled.mpr ⟨hs, hsignal⟩)
  obtain ⟨item, hitem, heq⟩ := List.mem_map.mp (h.hosts.mem_iff.mpr hmem)
  obtain ⟨slot, hslot, hsome⟩ := List.mem_filterMap.mp (List.mem_mergeSort.mp hitem)
  refine ⟨slot, hslot, ?_⟩
  unfold attentionHostItem at hsome
  split_ifs at hsome
  cases hsome
  exact congrArg HostSignals.publicId heq

/-- A report whose signals are those of the selected servers needs host names that tell them
apart. -/
lemma AttributedPerServer.separated {rows : List (String × String)}
    (h : AttributedPerServer ctx fleet serverPublicIds rows) :
    fleet.Separated ctx serverPublicIds where
  outside := by
    intro s hs t ht hout hgap hname
    rw [← FleetServer.gapRow_isSome, Option.isSome_iff_exists] at hgap
    obtain ⟨r, hr⟩ := hgap
    have hof : r.Of t := FleetServer.gapRow_of hr
    -- the row of the outside server passes the filter
    have hshown : r ∈ (selectionAttention ctx fleet serverPublicIds).gapWarnings :=
      mem_selectionAttention_gap.mpr ⟨⟨t, ht, hr⟩, s, hs, hname.symm.trans hof.2.symm⟩
    obtain ⟨u, hu, hur⟩ := List.mem_filterMap.mp (h.gapWarnings.mem_iff.mp hshown)
    have htu : t.publicId = u.publicId := hof.publicId_eq (FleetServer.gapRow_of hur)
    apply hout
    rw [htu]
    exact (Fleet.mem_selected.mp hu).2
  inside := by
    intro s hs t ht hsSignal htSignal hname
    obtain ⟨a, ha, has⟩ := h.exists_slot hs hsSignal
    obtain ⟨b, hb, hbt⟩ := h.exists_slot ht htSignal
    have hsFleet := (Fleet.mem_selected.mp hs).1
    have htFleet := (Fleet.mem_selected.mp ht).1
    -- both items would be the one slot of the name
    have hab : a = b := by
      apply List.inj_on_of_nodup_map (attentionSlots_hostnames _) ha hb
      rw [slot_hostname ha hsFleet has, slot_hostname hb htFleet hbt, hname]
    apply Fleet.eq_of_publicId hsFleet htFleet
    rw [← has, ← hbt, hab]

end Selection

/-- A selection report shows exactly the signals of the selected servers, each with its own, if and
only if host names tell apart the servers that matter to it. -/
theorem attributedPerServer_iff (ctx : AttentionContext) (fleet : Fleet)
    (serverPublicIds : List String) (rows : List (String × String)) :
    AttributedPerServer ctx fleet serverPublicIds rows ↔ fleet.Separated ctx serverPublicIds := by
  constructor
  · exact AttributedPerServer.separated
  · intro h
    exact
      { gapWarnings := h.gapWarnings
        osEolWarnings := List.Perm.of_eq selectionAttention_osEol
        agentUnstable := List.Perm.of_eq selectionAttention_restart
        hosts := h.hosts rows }

/-! ## Two servers of one name -/

/-- A server that was last heard of ten minutes before the reference time. -/
def silentServer (id : ℕ) (publicId : String) (h : '/' ∉ publicId.toList) : FleetServer where
  id := id
  publicId := publicId
  hostname := "web"
  osId := some "ubuntu"
  osVersion := some "22.04"
  kernelVersion := some "5.15.0"
  samples := [86400000000]
  agentStarts := []
  publicId_slashless := h

/-- Two servers with one host name, both silent. -/
def namesakes : Fleet where
  servers := [silentServer 1 "a1" (by decide), silentServer 2 "b2" (by decide)]
  ids := by decide
  publicIds := by decide

def namesakesContext : AttentionContext where
  dbNow := 87000000000
  ref := 87000000000
  today := 1
  agentRestartAlertThreshold := 3
  catalog := fun _ => []

/-- The report on the first of them shows the signal of the other as well. -/
theorem namesakes_not_attributed :
    ¬ ∀ (ctx : AttentionContext) (fleet : Fleet) (serverPublicIds : List String)
        (rows : List (String × String)), AttributedPerServer ctx fleet serverPublicIds rows := by
  intro h
  have hselected : namesakes.selected ["a1"] = [silentServer 1 "a1" (by decide)] := rfl
  have houtside := (h namesakesContext namesakes ["a1"] []).separated.outside
  rw [hselected] at houtside
  exact houtside _ (List.mem_singleton_self _) (silentServer 2 "b2" (by decide))
    (List.mem_cons_of_mem _ (List.mem_singleton_self _)) (by decide) (by decide) rfl

end AssessmentEngine
