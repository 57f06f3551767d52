import AssessmentEngine.Queries.LatestDashboard

/-!
# Devices of cards and charts

The live cards and the charts each choose the physical devices of a server for themselves:
`build_dashboard` by the keys that `_physical_dev_names` registers, the queries by the filters
`_PHYS_DISK_SQL_FILTER` and `_PHYS_IFACE_SQL_FILTER`.  The two agree on every device but those that
only one of them finds: an interface under `name:` and its name, for which the filter has no
fall-back, and a device under a key with an empty part, which is registered for no card
(`measuresAlike_iff`).
-/

namespace AssessmentEngine

open SetDefault

/-! ## What a card keeps -/

section Groups

variable {ρ : Type*} {key : ρ → String} {names : Option (List (String × String))} {pairs : List ρ}

/-- A device is shown where there is no inventory or the device has a name in it. -/
def Shown (names : Option (List (String × String))) (key : String) : Prop :=
  ∀ registered ∈ names, key ∈ registered.map Prod.fst

/-- The groups are the samples of each device that is shown. -/
lemma mem_deviceGroups {d : String} {rows : List ρ} :
    (d, rows) ∈ deviceGroups key names pairs ↔
      Shown names d ∧ (pairs.filter fun r => key r == d) = rows ∧ rows ≠ [] := by
  have hgroup : ∀ shown : List ρ, (d, rows) ∈ groupByDim key shown ↔
      (shown.filter fun r => key r == d) = rows ∧ rows ≠ [] := fun _ => mem_fill_list
  unfold deviceGroups
  rw [List.mem_mergeSort]
  cases names with
  | none => exact (hgroup pairs).trans (and_iff_right (by rintro _ ⟨⟩)).symm
  | some registered =>
    have hshown : Shown (some registered) d ↔ (registered.lookup d).isSome = true := by
      rw [isSome_lookup_iff]
      exact ⟨fun h => h registered rfl, by rintro h _ ⟨⟩; exact h⟩
    rw [hgroup, List.filter_filter, hshown]
    cases hd : (registered.lookup d).isSome with
    | false =>
      refine iff_of_false ?_ (by simp)
      rintro ⟨hrows, hne⟩
      refine hne (hrows ▸ List.filter_eq_nil_iff.mpr fun r _ => ?_)
      intro hboth
      obtain ⟨hkey, hsome⟩ := (Bool.and_eq_true _ _).mp hboth
      rw [beq_iff_eq.mp hkey, hd] at hsome
      cases hsome
    | true =>
      have hfilter : (pairs.filter fun r => key r == d && (registered.lookup (key r)).isSome) =
          pairs.filter fun r => key r == d := by
        apply List.filter_congr
        intro r _
        by_cases hkey : key r = d
        · rw [hkey, hd, Bool.and_true]
        · rw [beq_eq_false_iff_ne.mpr hkey, Bool.false_and]
      rw [hfilter]
      exact (and_iff_right rfl).symm

/-- A device that is measured is kept when it is shown. -/
lemma mem_keys_deviceGroups {r : ρ} (hr : r ∈ pairs) :
    key r ∈ (deviceGroups key names pairs).map Prod.fst ↔ Shown names (key r) := by
  constructor
  · intro h
    obtain ⟨⟨d, rows⟩, hmem, heq⟩ := List.mem_map.mp h
    rw [← heq]
    exact (mem_deviceGroups.mp hmem).1
  · intro h
    have hne : (pairs.filter fun r' => key r' == key r) ≠ [] :=
      List.ne_nil_of_mem (List.mem_filter.mpr ⟨hr, beq_self_eq_true _⟩)
    exact List.mem_map.mpr ⟨_, mem_deviceGroups.mpr ⟨h, rfl, hne⟩, rfl⟩

/-- The snapshots of the groups are those of the samples of each key. -/
lemma filterMap_deviceGroups {σ : Type*} {snapshot : List ρ → Option σ}
    (hsome : ∀ rows, rows ≠ [] → (snapshot rows).isSome = true) :
    ((deviceGroups key names pairs).filterMap fun group => snapshot group.2).map some =
      ((deviceGroups key names pairs).map Prod.fst).map fun d =>
        snapshot (pairs.filter fun r => key r == d) := by
  have hgroups : ∀ group ∈ deviceGroups key names pairs,
      (pairs.filter fun r => key r == group.1) = group.2 ∧ group.2 ≠ [] :=
    fun _ hgroup => (mem_deviceGroups.mp hgroup).2
  rw [List.map_map]
  generalize deviceGroups key names pairs = groups at hgroups ⊢
  induction groups with
  | nil => rfl
  | cons group groups ih =>
    have hgroup := List.forall_mem_cons.mp hgroups
    obtain ⟨s, hs⟩ := Option.isSome_iff_exists.mp (hsome group.2 hgroup.1.2)
    rw [List.filterMap_cons_some (f := fun group : String × List ρ => snapshot group.2) hs,
      List.map_cons, List.map_cons, ih hgroup.2, Function.comp_apply, hgroup.1.1, hs]

end Groups

namespace DashboardRaw

/-- The devices of `disk_io`, in the order of their snapshots. -/
def keptDisks (raw : DashboardRaw) : List String :=
  (deviceGroups DiskIoRaw.deviceId raw.physDisks raw.diskIo).map Prod.fst

/-- The interfaces of `net_io`, in the order of their snapshots. -/
def keptIfaces (raw : DashboardRaw) : List String :=
  (deviceGroups NetIoRaw.ifaceId raw.physIfaces raw.netIo).map Prod.fst

end DashboardRaw

/-- Each device that is kept has the snapshot of its samples in `disk_io`. -/
theorem buildDashboard_diskIo (raw : DashboardRaw) :
    (buildDashboard raw).diskIo.map some = raw.keptDisks.map fun d =>
      diskIoSnapshot raw.physDisks (raw.diskIo.filter fun r => r.deviceId == d) := by
  refine filterMap_deviceGroups fun rows hne => ?_
  obtain ⟨row, rest, rfl⟩ := List.exists_cons_of_ne_nil hne
  rfl

/-- Each interface that is kept has the snapshot of its samples in `net_io`. -/
theorem buildDashboard_netIo (raw : DashboardRaw) :
    (buildDashboard raw).netIo.map some = raw.keptIfaces.map fun d =>
      netIoSnapshot raw.physIfaces (raw.netIo.filter fun r => r.ifaceId == d) := by
  refine filterMap_deviceGroups fun rows hne => ?_
  obtain ⟨row, rest, rfl⟩ := List.exists_cons_of_ne_nil hne
  rfl

/-! ## Keys of a node -/

lemma truthyText_none : truthyText none = none := rfl

lemma truthyText_empty : truthyText (some "") = none := rfl

lemma truthyText_of_ne {text : String} (h : text ≠ "") : truthyText (some text) = some text := by
  rw [truthyText, Option.filter_some, if_pos (decide_eq_true h)]

namespace NodeIdent

/-- The node is registered under `name:` and its name. -/
def NameKey (node : NodeIdent) (key : String) : Prop :=
  (truthyText node.name).map (fun name => "name:" ++ name) = some key

/-- The node is registered under the key. -/
def Registers (node : NodeIdent) (key : String) : Prop :=
  compositeDevId node = some key ∨ node.NameKey key

/-- The key is the stable key of the node, whatever its parts. -/
def StableKey (node : NodeIdent) (key : String) : Prop :=
  stableKey node.idType node.id = some key

/-- The key is a stable key with an empty part. -/
def BlankStable (node : NodeIdent) (key : String) : Prop :=
  (node.idType = some "" ∨ node.id = some "") ∧ node.StableKey key

/-- The key is a stable key with an empty part, or that of an empty name. -/
def BlankKey (node : NodeIdent) (key : String) : Prop :=
  node.BlankStable key ∨ (node.name = some "" ∧ key = "name:")

lemma mem_entries_iff (node : NodeIdent) (key : String) :
    key ∈ node.entries.map Prod.fst ↔ node.Registers key := by
  unfold entries Registers NameKey
  cases compositeDevId node <;> cases truthyText node.name <;> simp [eq_comm]

/-- A stable key is registered, or a part of it is empty. -/
lemma stableKey_iff (node : NodeIdent) (key : String) :
    node.StableKey key ↔ compositeDevId node = some key ∨ node.BlankStable key := by
  unfold compositeDevId BlankStable StableKey
  cases node.idType with
  | none => simp [truthyText_none, stableKey]
  | some idType =>
    cases node.id with
    | none => simp [truthyText_none, stableKey]
    | some id =>
      by_cases hidType : idType = ""
      · subst hidType
        simp [truthyText_empty, stableKey]
      · by_cases hid : id = ""
        · subst hid
          simp [truthyText_empty, stableKey]
        · simp [truthyText_of_ne hidType, truthyText_of_ne hid, hidType, hid]

/-- So is the key of a name, or the name is empty. -/
lemma nameKey_iff (node : NodeIdent) (key : String) :
    node.name.map (fun name => "name:" ++ name) = some key ↔
      node.NameKey key ∨ (node.name = some "" ∧ key = "name:") := by
  unfold NameKey
  cases node.name with
  | none => simp [truthyText_none]
  | some name =>
    by_cases hname : name = ""
    · subst hname
      simp [truthyText_empty, eq_comm]
    · simp [truthyText_of_ne hname, hname]

/-- What the filter of disks finds is registered or has an empty part. -/
lemma anyKey_iff (node : NodeIdent) (key : String) :
    node.StableKey key ∨ node.name.map (fun name => "name:" ++ name) = some key ↔
      node.Registers key ∨ node.BlankKey key := by
  rw [stableKey_iff, nameKey_iff, Registers, BlankKey]
  tauto

end NodeIdent

/-! ## What the inventory shows -/

section Registered

variable {ν : Type*} {ident : ν → NodeIdent} {keep : ν → Bool} {nodes : Option (List ν)}

/-- With an inventory, the devices that are shown are those that a node that is kept registers. -/
lemma shown_physicalDevNames (hne : nodes.getD [] ≠ []) (key : String) :
    Shown (physicalDevNames ident keep nodes) key ↔
      ∃ n ∈ nodes.getD [], keep n = true ∧ (ident n).Registers key := by
  unfold physicalDevNames Shown
  generalize nodes.getD [] = ns at hne ⊢
  cases ns with
  | nil => exact absurd rfl hne
  | cons n ns =>
    simp only [Option.mem_some_iff, forall_eq', mem_map_fst_fill, List.map_nil, List.not_mem_nil,
      false_or, List.mem_flatMap, List.mem_filter]
    constructor
    · rintro ⟨entry, ⟨m, ⟨hm, hkeep⟩, hentry⟩, hkey⟩
      exact ⟨m, hm, hkeep, (NodeIdent.mem_entries_iff _ _).mp (List.mem_map.mpr ⟨_, hentry, hkey⟩)⟩
    · rintro ⟨m, hm, hkeep, hregisters⟩
      obtain ⟨entry, hentry, hkey⟩ :=
        List.mem_map.mp ((NodeIdent.mem_entries_iff _ _).mpr hregisters)
      exact ⟨entry, ⟨m, ⟨hm, hkeep⟩, hentry⟩, hkey⟩

end Registered

/-- A disk of the inventory. -/
def InventoryRow.HasDisk (si : InventoryRow) (p : NodeIdent → Prop) : Prop :=
  ∃ bd ∈ si.blockDevices.getD [], bd.type = some "disk" ∧ p bd.ident

/-- A physical interface of the inventory, or the master of a bond. -/
def InventoryRow.HasIface (si : InventoryRow) (p : NodeIdent → Prop) : Prop :=
  ∃ ni ∈ si.netInterfaces.getD [], (ni.kind = some "physical" ∨ ni.kind = some "bond_master") ∧
    p ni.ident

/-- The inventory of the samples is that of a server (`latest_dashboard`). -/
structure DashboardRaw.OfServer (raw : DashboardRaw) (si : InventoryRow) : Prop where
  blockDevices : raw.blockDevices = si.blockDevices
  netInterfaces : raw.netInterfaces = si.netInterfaces

/-- `latest_dashboard` reads the samples of a server with its inventory. -/
theorem latestDashboard_ofServer {fleet : FleetTables} {now : ℤ} {sid : ℕ} {raw : DashboardRaw}
    (h : fleet.latestDashboard now sid = some raw) :
    ∃ si ∈ fleet.serverInventory.rows, si.id = sid ∧ raw.OfServer si := by
  obtain ⟨si, hserver, rfl⟩ := Option.map_eq_some_iff.mp h
  exact ⟨si, Table.findId_mem hserver, Table.findId_key hserver, rfl, rfl⟩

variable {db : MetricTables} {si : InventoryRow} {raw : DashboardRaw}

/-- A filter looks into the inventory of the server. -/
lemma listsDevice_iff (hsi : si ∈ db.serverInventory.rows) {δ : Type}
    (devices : InventoryRow → Option (List δ)) (keep : δ → Prop) [DecidablePred keep] :
    listsDevice InventoryRow.id devices keep db.serverInventory.rows si.id = true ↔
      ∃ d ∈ (devices si).getD [], keep d := by
  rw [listsDevice, List.any_eq_true]
  constructor
  · rintro ⟨row, hrow, hp⟩
    obtain ⟨hid, hp⟩ := of_decide_eq_true hp
    rwa [KeyedTable.eq_of_key_eq hrow hsi hid] at hp
  · exact fun hp => ⟨si, hsi, decide_eq_true ⟨rfl, hp⟩⟩

lemma physDisk_iff (hsi : si ∈ db.serverInventory.rows) (d : String) :
    db.physDisk si.id d = true ↔ si.HasDisk (·.Registers d) ∨ si.HasDisk (·.BlankKey d) := by
  rw [MetricTables.physDisk, listsDevice_iff hsi, InventoryRow.HasDisk, InventoryRow.HasDisk,
    ← exists_or]
  apply exists_congr
  intro bd
  rw [← and_or_left, ← and_or_left]
  apply and_congr_right
  intro _
  rw [← bd.ident.anyKey_iff d]
  exact and_comm

lemma physIface_iff (hsi : si ∈ db.serverInventory.rows) (d : String) :
    db.physIface si.id d = true ↔ si.HasIface (·.StableKey d) := by
  rw [MetricTables.physIface, listsDevice_iff hsi, InventoryRow.HasIface]
  exact exists_congr fun ni => and_congr_right fun _ => and_comm

lemma mem_keptDisks (hraw : raw.OfServer si) (hne : si.blockDevices.getD [] ≠ []) {r : DiskIoRaw}
    (hr : r ∈ raw.diskIo) : r.deviceId ∈ raw.keptDisks ↔ si.HasDisk (·.Registers r.deviceId) := by
  rw [DashboardRaw.keptDisks, mem_keys_deviceGroups hr, DashboardRaw.physDisks, hraw.blockDevices,
    shown_physicalDevNames hne]
  refine exists_congr fun bd => and_congr_right fun _ => and_congr_left fun _ => ?_
  exact decide_eq_true_iff

lemma mem_keptIfaces (hraw : raw.OfServer si) (hne : si.netInterfaces.getD [] ≠ []) {r : NetIoRaw}
    (hr : r ∈ raw.netIo) : r.ifaceId ∈ raw.keptIfaces ↔ si.HasIface (·.Registers r.ifaceId) := by
  rw [DashboardRaw.keptIfaces, mem_keys_deviceGroups hr, DashboardRaw.physIfaces,
    hraw.netInterfaces, shown_physicalDevNames hne]
  refine exists_congr fun ni => and_congr_right fun _ => and_congr_left fun _ => ?_
  rw [isVirtualInterface, Bool.not_eq_true', decide_eq_false_iff_not, not_and_or, not_not, not_not]

/-! ## The same devices -/

/-- The cards of a server show the devices that the charts measure. -/
structure MeasuresAlike (db : MetricTables) (sid : ℕ) (raw : DashboardRaw) : Prop where
  disks : raw.blockDevices.getD [] ≠ [] → ∀ r ∈ raw.diskIo,
    (r.deviceId ∈ raw.keptDisks ↔ db.physDisk sid r.deviceId = true)
  ifaces : raw.netInterfaces.getD [] ≠ [] → ∀ r ∈ raw.netIo,
    (r.ifaceId ∈ raw.keptIfaces ↔ db.physIface sid r.ifaceId = true)

/-- No disk and no interface is measured only under a key with an empty part, and no interface only
under `name:` and its name. -/
structure KeysInCommon (si : InventoryRow) (raw : DashboardRaw) : Prop where
  blankDisks : ∀ r ∈ raw.diskIo, si.HasDisk (·.BlankKey r.deviceId) →
    si.HasDisk (·.Registers r.deviceId)
  blankIfaces : ∀ r ∈ raw.netIo, si.HasIface (·.BlankStable r.ifaceId) →
    si.HasIface (·.Registers r.ifaceId)
  namedIfaces : ∀ r ∈ raw.netIo, si.HasIface (·.NameKey r.ifaceId) →
    si.HasIface (·.StableKey r.ifaceId)

lemma InventoryRow.HasDisk.blockDevices_ne {p : NodeIdent → Prop} (h : si.HasDisk p) :
    si.blockDevices.getD [] ≠ [] := by
  obtain ⟨bd, hbd, -⟩ := h
  exact List.ne_nil_of_mem hbd

lemma InventoryRow.HasIface.netInterfaces_ne {p : NodeIdent → Prop} (h : si.HasIface p) :
    si.netInterfaces.getD [] ≠ [] := by
  obtain ⟨ni, hni, -⟩ := h
  exact List.ne_nil_of_mem hni

lemma hasIface_or {p q : NodeIdent → Prop} :
    si.HasIface (fun n => p n ∨ q n) ↔ si.HasIface p ∨ si.HasIface q := by
  rw [InventoryRow.HasIface, InventoryRow.HasIface, InventoryRow.HasIface, ← exists_or]
  exact exists_congr fun ni => by rw [and_or_left, and_or_left]

/-- The cards and the charts agree on every device but one that is measured only under a key that
one of them does not know. -/
theorem measuresAlike_iff (hsi : si ∈ db.serverInventory.rows) (hraw : raw.OfServer si) :
    MeasuresAlike db si.id raw ↔ KeysInCommon si raw := by
  have hregistered : ∀ d, si.HasIface (·.Registers d) ↔
      si.HasIface (compositeDevId · = some d) ∨ si.HasIface (·.NameKey d) :=
    fun _ => hasIface_or
  have hstable : ∀ d, si.HasIface (·.StableKey d) ↔
      si.HasIface (compositeDevId · = some d) ∨ si.HasIface (·.BlankStable d) := by
    intro d
    rw [← hasIface_or]
    exact exists_congr fun ni =>
      and_congr_right fun _ => and_congr_right fun _ => ni.ident.stableKey_iff d
  constructor
  · rintro ⟨hdisks, hifaces⟩
    rw [hraw.blockDevices] at hdisks
    rw [hraw.netInterfaces] at hifaces
    refine ⟨fun r hr hblank => ?_, fun r hr hblank => ?_, fun r hr hnamed => ?_⟩
    · have hne := hblank.blockDevices_ne
      rw [← mem_keptDisks hraw hne hr, hdisks hne r hr, physDisk_iff hsi]
      exact Or.inr hblank
    · have hne := hblank.netInterfaces_ne
      rw [← mem_keptIfaces hraw hne hr, hifaces hne r hr, physIface_iff hsi, hstable]
      exact Or.inr hblank
    · have hne := hnamed.netInterfaces_ne
      rw [← physIface_iff hsi, ← hifaces hne r hr, mem_keptIfaces hraw hne hr, hregistered]
      exact Or.inr hnamed
  · rintro ⟨hblankDisks, hblankIfaces, hnamed⟩
    constructor
    · intro hne r hr
      rw [hraw.blockDevices] at hne
      rw [mem_keptDisks hraw hne hr, physDisk_iff hsi]
      exact ⟨Or.inl, Or.rec id (hblankDisks r hr)⟩
    · intro hne r hr
      rw [hraw.netInterfaces] at hne
      rw [mem_keptIfaces hraw hne hr, physIface_iff hsi]
      constructor
      · intro hkept
        rcases (hregistered _).mp hkept with hcomposite | hname
        · exact (hstable _).mpr (Or.inl hcomposite)
        · exact hnamed r hr hname
      · intro hsql
        rcases (hstable _).mp hsql with hcomposite | hblank
        · exact (hregistered _).mpr (Or.inl hcomposite)
        · exact hblankIfaces r hr hblank

/-- A server with one disk and one interface, which have stable keys and names. -/
def cardServer : InventoryRow where
  id := 1
  publicId := "a"
  osFamily := some "linux"
  cpuCores := none
  blockDevices := some [⟨some "wwn", some "5000", some "sda", some "disk"⟩]
  netInterfaces := some [⟨some "mac", some "02", some "eth0", some "physical"⟩]

def cardTables : MetricTables :=
  { MetricTables.empty with
    serverInventory := ⟨[cardServer], List.pairwise_singleton _ _⟩
    publicIds_nodup := List.nodup_singleton _ }

/-- A sample of the disk under its stable key, and one of the interface. -/
def cardSamples (ifaceId : String) : DashboardRaw where
  metrics := []
  diskIo := [⟨"wwn:5000", 0, some 0, some 0, some 0, some 0, none, none⟩]
  netIo := [⟨ifaceId, 0, some 0, some 0, some 0, some 0, none, none⟩]
  filesystems := []
  blockDevices := cardServer.blockDevices
  netInterfaces := cardServer.netInterfaces
  cpuCores := []

lemma cardServer_mem : cardServer ∈ cardTables.serverInventory.rows := List.mem_singleton_self _

lemma cardSamples_ofServer (ifaceId : String) : (cardSamples ifaceId).OfServer cardServer :=
  ⟨rfl, rfl⟩

/-- Both measured under their stable keys. -/
theorem cardSamples_measuresAlike :
    MeasuresAlike cardTables cardServer.id (cardSamples "mac:02") := by
  refine (measuresAlike_iff cardServer_mem (cardSamples_ofServer _)).mpr ⟨?_, ?_, ?_⟩
  · intro r hr _
    rw [List.mem_singleton.mp hr]
    exact ⟨_, List.mem_singleton_self _, rfl, Or.inl (by decide)⟩
  · intro r hr _
    rw [List.mem_singleton.mp hr]
    exact ⟨_, List.mem_singleton_self _, Or.inl rfl, Or.inl (by decide)⟩
  · intro r hr _
    rw [List.mem_singleton.mp hr]
    exact ⟨_, List.mem_singleton_self _, Or.inl rfl, (by decide : stableKey _ _ = some "mac:02")⟩

/-- The interface measured under its name: the card shows it, the charts leave it out. -/
theorem cardSamples_not_measuresAlike :
    cardServer ∈ cardTables.serverInventory.rows ∧ (cardSamples "name:eth0").OfServer cardServer ∧
      ¬ MeasuresAlike cardTables cardServer.id (cardSamples "name:eth0") := by
  refine ⟨cardServer_mem, cardSamples_ofServer _, fun h => ?_⟩
  have hne : cardServer.netInterfaces.getD [] ≠ [] := List.cons_ne_nil _ _
  have hkept : "name:eth0" ∈ (cardSamples "name:eth0").keptIfaces :=
    (mem_keptIfaces (cardSamples_ofServer _) hne (List.mem_singleton_self _)).mpr
      ⟨_, List.mem_singleton_self _, Or.inl rfl, Or.inr (by decide : (_ : Option String) = _)⟩
  have hfound := (h.ifaces hne _ (List.mem_singleton_self _)).mp hkept
  exact absurd hfound (by decide)

end AssessmentEngine
