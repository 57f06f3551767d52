import AssessmentEngine.Library.GuardedWalk
import AssessmentEngine.Mappers.Devices
import AssessmentEngine.Services.ServiceClassifier

/-!
# The storage tree

`build_storage_tree` hangs the block devices of a server under its disks.  A device may have several
parents, so a set of the ids that have been placed keeps it from being placed again; an array that
is reached from another of its disks leaves a reference there.  A device without an id is placed
under the key `none`, which is also the key of the devices without a parent.

The recursion is a guarded walk of the graph from parents to ids (`buildStorageNode_walk`), and it
ends for every list of devices, whatever their parents (`exists_buildStorageTree`).
-/

namespace AssessmentEngine

open GuardedWalk

/-! ## Devices -/

/-- `raid_level` as it is stored. -/
inductive RaidLevel
  | number (n : ℤ)
  | name (text : String)
  deriving DecidableEq, Repr

/-- A block device with its place in the graph. -/
structure StorageDevice extends DeviceNode where
  id : Option String
  parent : Option String
  rotational : Option Bool := none
  partitionTable : Option String := none
  lvmVg : Option String := none
  lvmSegtype : Option String := none
  raidLevel : Option RaidLevel := none
  cryptType : Option String := none
  deriving DecidableEq, Repr

/-- A volume group. -/
structure LvmVg where
  name : Option String
  freeBytes : Option ℤ
  deriving DecidableEq, Repr

/-- What is shown of a node. -/
structure NodeLabel where
  name : String
  kind : String
  kindLabel : String
  sizeGb : Option ℚ
  metaLine : String := ""
  badges : List String := []
  mount : String := ""
  deriving DecidableEq, Repr

/-- A node of the tree; `detail` is the device whose details it shows, if it shows any. -/
inductive StorageNode
  | node (detail : Option StorageDevice) (label : NodeLabel) (children : List StorageNode)

/-! ## Labels -/

/-- What the language knows of characters, with upper case. -/
structure CasedUnicode extends Unicode where
  upper : String → String

/-- `_STORAGE_KIND_LABEL`. -/
def storageKindLabel : List (String × String) :=
  [("disk", "디스크"), ("part", "파티션"), ("lvm", "LV"), ("raid", "RAID"), ("crypt", "암호화"),
    ("swap", "스왑"), ("volume", "볼륨"), ("mpath", "멀티패스"), ("dynamic", "동적 디스크"),
    ("unallocated", "미할당"), ("vg_free", "VG 여유")]

/-- `_UNALLOC_MIN_BYTES`. -/
def unallocMinBytes : ℤ := 64 * 1024 * 1024

/-- `_SPANNING_KINDS`. -/
def spanningKinds : List String := ["raid", "mpath", "dynamic"]

/-- `_rotational_label`. -/
def rotationalLabel : Option Bool → String
  | some true => "HDD"
  | some false => "SSD"
  | none => ""

/-- `_ptable_label`. -/
def ptableLabel (u : CasedUnicode) (pt : Option String) : String :=
  let p := u.lower (pt.getD "")
  if pt.getD "" = "" then ""
  else if p = "gpt" then "GPT"
  else if p = "dos" ∨ p = "mbr" ∨ p = "msdos" then "MBR"
  else pt.getD ""

/-- `s.removeprefix(prefix)`. -/
def removePrefix (start s : String) : String :=
  if start.toList.isPrefixOf s.toList then String.ofList (s.toList.drop start.toList.length)
  else s

/-- `_raid_level_num`. -/
def raidLevelNum (u : CasedUnicode) : Option RaidLevel → String
  | none => ""
  | some (.number n) => removePrefix "raid" (u.lower (toString n))
  | some (.name text) => removePrefix "raid" (u.lower text)

/-- A text that is there and not empty. -/
def filled (text : Option String) : List String :=
  (text.toList).filter fun t => decide (t ≠ "")

def StorageDevice.kind (d : StorageDevice) : String :=
  match d.type with
  | some type => if type = "" then "?" else type
  | none => "?"

/-- The file system and the path of a volume. -/
def StorageDevice.volumeParts (d : StorageDevice) : List String :=
  if d.kind = "part" ∨ d.kind = "volume" ∨ (d.kind = "lvm" ∧ filled d.mountpoint ≠ []) then
    filled d.fstype ++ filled d.mountpoint
  else []

/-- The parts of `metaLine` that a kind of device has for itself. -/
def StorageDevice.ownParts (u : CasedUnicode) (d : StorageDevice) : List String :=
  if d.kind = "disk" then
    filled (some (rotationalLabel d.rotational)) ++ filled (some (ptableLabel u d.partitionTable))
  else if d.kind = "lvm" then
    filled d.lvmSegtype ++ (filled d.lvmVg).map (fun vg => "VG " ++ vg) ++
      if filled d.mountpoint = [] then filled d.fstype else []
  else if d.kind = "swap" then ["[SWAP]"]
  else []

def StorageDevice.badges (u : CasedUnicode) (d : StorageDevice) : List String :=
  if d.kind = "raid" then
    (filled (some (raidLevelNum u d.raidLevel))).map fun level => "RAID" ++ level
  else if d.kind = "crypt" then
    match filled d.cryptType with
    | [] => ["암호화"]
    | ct :: _ => if hasSubstring "luks" (u.lower ct) then [u.upper ct] else ["암호화"]
  else []

/-- The label of a device, with `_storage_node_meta`. -/
def StorageDevice.label (u : CasedUnicode) (d : StorageDevice) : NodeLabel where
  name := d.name.getD ""
  kind := d.kind
  kindLabel := (storageKindLabel.lookup d.kind).getD d.kind
  sizeGb := bytesToGb d.sizeBytes
  metaLine := " · ".intercalate (d.ownParts u ++ d.volumeParts)
  badges := d.badges u
  mount := d.dataPath.getD ""

/-! ## The tree -/

/-- What the recursion has placed: the ids, and the disk under which each array was placed first. -/
structure BuildState where
  visited : List (Option String) := []
  arrayHome : List (Option String × String) := []

/-- The id of the device has been placed. -/
def BuildState.has (st : BuildState) (d : StorageDevice) : Bool := st.visited.contains d.id

lemma BuildState.has_iff {st : BuildState} {d : StorageDevice} :
    st.has d = true ↔ d.id ∈ st.visited :=
  List.contains_iff_mem

/-- `children_map.get(key, [])`. -/
def childrenOf (devs : List StorageDevice) (key : Option String) : List StorageDevice :=
  devs.filter fun c => decide (c.parent = key)

/-- `_member_ref_node`. -/
def memberRefNode (u : CasedUnicode) (c : StorageDevice)
    (arrayHome : List (Option String × String)) : StorageNode :=
  let home := (arrayHome.lookup c.id).getD ""
  let level := raidLevelNum u c.raidLevel
  .node none
    { name := c.name.getD ""
      kind := "raid_member"
      kindLabel := if level ≠ "" then "RAID" ++ level ++ " 구성원" else "배열 구성원"
      sizeGb := bytesToGb c.sizeBytes
      metaLine := if home ≠ "" then "-> " ++ home ++ " 에 상세" else "-> 다른 디스크에 상세" } []

/-- The gap of a disk that its children leave. -/
def unallocatedNodes (d : StorageDevice) (direct : List StorageDevice) : List StorageNode :=
  let gap := d.sizeBytes.getD 0 - (direct.map fun c => c.sizeBytes.getD 0).sum
  if isPhysicalDisk (some d.kind) = true ∧ unallocMinBytes ≤ gap then
    [.node none
      { name := "미할당"
        kind := "unallocated"
        kindLabel := "미할당"
        sizeGb := bytesToGb (some gap) } []]
  else []

/-- `vg_free_gb.get(vg)`: of two groups with one name the later counts. -/
def vgFreeGb (lvmVgs : List LvmVg) (vg : String) : Option (Option ℚ) :=
  (lvmVgs.reverse.find? fun v => decide (v.name = some vg ∧ vg ≠ "")).map fun v =>
    bytesToGb v.freeBytes

/-- The free space of the volume groups whose volumes are children. -/
def vgFreeNodes (lvmVgs : List LvmVg) (direct : List StorageDevice) : List StorageNode :=
  let vgsHere := ((direct.filter fun c => decide (c.type = some "lvm")).flatMap fun c =>
    filled c.lvmVg).eraseDups.mergeSort fun a b => decide (a ≤ b)
  vgsHere.filterMap fun vg => (vgFreeGb lvmVgs vg).map fun freeGb =>
    .node none
      { name := "VG " ++ vg
        kind := "vg_free"
        kindLabel := "VG 여유"
        sizeGb := freeGb
        metaLine := "확장 여력 (미할당)" } []

/-- The device is placed, and an array placed for the first time has its home. -/
def BuildState.place (st : BuildState) (rootDisk : String) (d : StorageDevice) : BuildState where
  visited := d.id :: st.visited
  arrayHome :=
    if d.kind ∈ spanningKinds ∧ (st.arrayHome.lookup d.id).isNone = true then
      (d.id, rootDisk) :: st.arrayHome
    else st.arrayHome

/-- The children of a device: those that have been placed are left out, or referred to. -/
def buildChildren (u : CasedUnicode)
    (build : StorageDevice → BuildState → Option (StorageNode × BuildState)) :
    List StorageDevice → BuildState → Option (List StorageNode × BuildState)
  | [], st => some ([], st)
  | c :: cs, st =>
    if st.has c then
      (buildChildren u build cs st).map fun (nodes, st') =>
        (if c.type.any fun type => decide (type ∈ spanningKinds) then
          memberRefNode u c st.arrayHome :: nodes
        else nodes, st')
    else
      (build c st).bind fun (node, st') =>
        (buildChildren u build cs st').map fun (nodes, st'') => (node :: nodes, st'')

/-- `_build_storage_node`, with fuel for the depth of the recursion. -/
def buildStorageNode (u : CasedUnicode) (devs : List StorageDevice) (lvmVgs : List LvmVg)
    (rootDisk : String) : ℕ → StorageDevice → BuildState → Option (StorageNode × BuildState)
  | 0, _, _ => none
  | fuel + 1, d, st =>
    let direct := childrenOf devs d.id
    (buildChildren u (buildStorageNode u devs lvmVgs rootDisk fuel) direct
        (st.place rootDisk d)).map fun (children, st') =>
      (.node (some d) (d.label u)
        (children ++ unallocatedNodes d direct ++ vgFreeNodes lvmVgs direct), st')

/-- The disks, each as a root. -/
def buildRoots (build : StorageDevice → BuildState → Option (StorageNode × BuildState)) :
    List StorageDevice → BuildState → Option (List StorageNode × BuildState)
  | [], st => some ([], st)
  | d :: ds, st =>
    (build d st).bind fun (node, st') =>
      (buildRoots build ds st').map fun (nodes, st'') => (node :: nodes, st'')

/-- The devices that no disk leads to; one that has been placed meanwhile is left out. -/
def buildOrphans (build : StorageDevice → BuildState → Option (StorageNode × BuildState)) :
    List StorageDevice → BuildState → Option (List StorageNode × BuildState)
  | [], st => some ([], st)
  | d :: ds, st =>
    if st.has d then buildOrphans build ds st
    else
      (build d st).bind fun (node, st') =>
        (buildOrphans build ds st').map fun (nodes, st'') => (node :: nodes, st'')

/-- The disks of a list. -/
def physicalDisks (devs : List StorageDevice) : List StorageDevice :=
  devs.filter fun d => isPhysicalDisk d.type

/-- `parent in by_id`: an empty id is none. -/
def hasParent (devs : List StorageDevice) (d : StorageDevice) : Bool :=
  d.parent.any fun p => decide (p ≠ "") && (devs.map StorageDevice.id).contains (some p)

/-- The devices that are no disks and whose parent is not in the list. -/
def orphanDevices (devs : List StorageDevice) : List StorageDevice :=
  devs.filter fun d => !isPhysicalDisk d.type && !hasParent devs d

/-- `build_storage_tree`, with fuel for the depth of the recursion. -/
def buildStorageTree (u : CasedUnicode) (fuel : ℕ) (devs : List StorageDevice)
    (lvmVgs : List LvmVg) : Option (List StorageNode) :=
  let build := fun d => buildStorageNode u devs lvmVgs (d.name.getD "") fuel d
  (buildRoots build (physicalDisks devs) {}).bind fun (roots, st) =>
    (buildOrphans build (orphanDevices devs) st).map fun (orphans, _) => roots ++ orphans

/-! ## Details -/

def StorageNode.detail : StorageNode → Option StorageDevice
  | .node detail _ _ => detail

mutual

/-- The devices whose details are shown in a node and below it. -/
def StorageNode.details : StorageNode → List StorageDevice
  | .node detail _ children => detail.toList ++ detailsOf children

def detailsOf : List StorageNode → List StorageDevice
  | [] => []
  | node :: nodes => node.details ++ detailsOf nodes

end

/-- The devices whose details are shown below a node. -/
def StorageNode.nested : StorageNode → List StorageDevice
  | .node _ _ children => detailsOf children

lemma detailsOf_append (nodes nodes' : List StorageNode) :
    detailsOf (nodes ++ nodes') = detailsOf nodes ++ detailsOf nodes' := by
  induction nodes with
  | nil => rfl
  | cons node nodes ih =>
    rw [List.cons_append, detailsOf, detailsOf, ih, List.append_assoc]

lemma detailsOf_memberRefNode (u : CasedUnicode) (c : StorageDevice)
    (arrayHome : List (Option String × String)) :
    (memberRefNode u c arrayHome).details = [] := by
  unfold memberRefNode
  simp [StorageNode.details, detailsOf]

lemma detailsOf_unallocatedNodes (d : StorageDevice) (direct : List StorageDevice) :
    detailsOf (unallocatedNodes d direct) = [] := by
  unfold unallocatedNodes
  simp only
  split_ifs
  · simp [StorageNode.details, detailsOf]
  · rfl

lemma detailsOf_vgFreeNodes (lvmVgs : List LvmVg) (direct : List StorageDevice) :
    detailsOf (vgFreeNodes lvmVgs direct) = [] := by
  have hnone : ∀ nodes : List StorageNode, (∀ node ∈ nodes, node.details = []) →
      detailsOf nodes = [] := by
    intro nodes
    induction nodes with
    | nil => exact fun _ => rfl
    | cons node nodes ih =>
      intro h
      rw [detailsOf, h node List.mem_cons_self, ih fun n hn => h n (List.mem_cons_of_mem node hn)]
      rfl
  apply hnone
  intro node hnode
  obtain ⟨vg, -, hvg⟩ := List.mem_filterMap.mp hnode
  obtain ⟨freeGb, -, rfl⟩ := Option.map_eq_some_iff.mp hvg
  simp [StorageNode.details, detailsOf]

/-- The details of nodes are their own and those below them. -/
lemma detailsOf_perm (nodes : List StorageNode) :
    (detailsOf nodes).Perm (nodes.filterMap StorageNode.detail ++ nodes.flatMap
      StorageNode.nested) := by
  induction nodes with
  | nil => exact List.Perm.refl _
  | cons node nodes ih =>
    obtain ⟨detail, label, children⟩ := node
    have hnode : (StorageNode.node detail label children).details =
        detail.toList ++ detailsOf children := by rw [StorageNode.details]
    have hcons : (StorageNode.node detail label children :: nodes).filterMap StorageNode.detail =
        detail.toList ++ nodes.filterMap StorageNode.detail := by
      cases detail <;> rfl
    rw [detailsOf, hnode, hcons, List.flatMap_cons, List.append_assoc, List.append_assoc]
    refine List.Perm.append_left _ ((ih.append_left _).trans ?_)
    rw [← List.append_assoc, ← List.append_assoc]
    exact List.perm_append_comm.append_right _

/-! ## The recursion is a guarded walk -/

/-- Devices under the ids of their parents. -/
def deviceGraph (devs : List StorageDevice) : KeyGraph StorageDevice (Option String) where
  key := StorageDevice.id
  under := childrenOf devs

section Walk

variable {u : CasedUnicode} {devs : List StorageDevice} {lvmVgs : List LvmVg}

/-- A way to build devices that takes what a walk under the device takes. -/
def BuildsWalk (devs : List StorageDevice)
    (build : StorageDevice → BuildState → Option (StorageNode × BuildState)) : Prop :=
  ∀ d st node st', build d st = some (node, st') →
    node.detail = some d ∧ ∃ below, node.details = d :: below ∧
      Walk (deviceGraph devs) (childrenOf devs d.id) (d.id :: st.visited) below st'.visited

variable {build : StorageDevice → BuildState → Option (StorageNode × BuildState)}

/-- A device that is not visited yet is taken, and the walk goes on. -/
lemma BuildsWalk.take (hbuild : BuildsWalk devs build) {d : StorageDevice}
    {ds : List StorageDevice} {st st₁ : BuildState} {node : StorageNode}
    {rest : List StorageNode} {visited : List (Option String)} (hvisited : ¬st.has d = true)
    (hnode : build d st = some (node, st₁))
    (hrest : Walk (deviceGraph devs) ds st₁.visited (detailsOf rest) visited) :
    Walk (deviceGraph devs) (d :: ds) st.visited (detailsOf (node :: rest)) visited := by
  obtain ⟨-, below, hdetails, hbelow⟩ := hbuild d st node st₁ hnode
  rw [detailsOf, hdetails]
  exact Walk.take (mt BuildState.has_iff.mpr hvisited) hbelow hrest

lemma buildChildren_walk (hbuild : BuildsWalk devs build) {cs : List StorageDevice}
    {st st' : BuildState} {nodes : List StorageNode}
    (h : buildChildren u build cs st = some (nodes, st')) :
    Walk (deviceGraph devs) cs st.visited (detailsOf nodes) st'.visited := by
  induction cs generalizing st nodes with
  | nil =>
    obtain ⟨rfl, rfl⟩ := Prod.mk.inj (Option.some.inj h)
    exact Walk.nil _
  | cons c cs ih =>
    unfold buildChildren at h
    by_cases hvisited : st.has c = true
    · rw [if_pos hvisited] at h
      obtain ⟨⟨rest, st₁⟩, hrest, heq⟩ := Option.map_eq_some_iff.mp h
      obtain ⟨rfl, rfl⟩ := Prod.mk.inj heq
      have hwalk := Walk.skip (BuildState.has_iff.mp hvisited) (ih hrest)
      split_ifs
      · rw [detailsOf, detailsOf_memberRefNode]
        exact hwalk
      · exact hwalk
    · rw [if_neg hvisited] at h
      obtain ⟨⟨node, st₁⟩, hnode, h⟩ := Option.bind_eq_some_iff.mp h
      obtain ⟨⟨rest, st₂⟩, hrest, heq⟩ := Option.map_eq_some_iff.mp h
      obtain ⟨rfl, rfl⟩ := Prod.mk.inj heq
      exact hbuild.take hvisited hnode (ih hrest)

/-- A node is built with what a walk under its device takes. -/
lemma buildStorageNode_walk (rootDisk : String) (fuel : ℕ) :
    BuildsWalk devs (buildStorageNode u devs lvmVgs rootDisk fuel) := by
  induction fuel with
  | zero =>
    intro d st node st' h
    exact absurd h (Option.some_ne_none _).symm
  | succ fuel ih =>
    intro d st node st' h
    unfold buildStorageNode at h
    obtain ⟨⟨children, st₁⟩, hchildren, heq⟩ := Option.map_eq_some_iff.mp h
    obtain ⟨rfl, rfl⟩ := Prod.mk.inj heq
    refine ⟨rfl, detailsOf children, ?_, buildChildren_walk ih hchildren⟩
    rw [StorageNode.details, detailsOf_append, detailsOf_append, detailsOf_unallocatedNodes,
      detailsOf_vgFreeNodes, List.append_nil, List.append_nil]
    rfl

/-- The roots are the disks, each with a walk under it. -/
lemma buildRoots_forced (hbuild : BuildsWalk devs build) {ds : List StorageDevice}
    {st st' : BuildState} {nodes : List StorageNode}
    (h : buildRoots build ds st = some (nodes, st')) :
    nodes.filterMap StorageNode.detail = ds ∧
      Forced (deviceGraph devs) ds st.visited (detailsOf nodes) st'.visited := by
  induction ds generalizing st nodes with
  | nil =>
    obtain ⟨rfl, rfl⟩ := Prod.mk.inj (Option.some.inj h)
    exact ⟨rfl, Forced.nil _⟩
  | cons d ds ih =>
    unfold buildRoots at h
    obtain ⟨⟨node, st₁⟩, hnode, h⟩ := Option.bind_eq_some_iff.mp h
    obtain ⟨⟨rest, st₂⟩, hrest, heq⟩ := Option.map_eq_some_iff.mp h
    obtain ⟨rfl, rfl⟩ := Prod.mk.inj heq
    obtain ⟨hdetail, below, hdetails, hbelow⟩ := hbuild d st node st₁ hnode
    obtain ⟨hroots, hforced⟩ := ih hrest
    rw [List.filterMap_cons_some hdetail, hroots, detailsOf, hdetails]
    exact ⟨rfl, Forced.take hbelow hforced⟩

lemma buildOrphans_walk (hbuild : BuildsWalk devs build) {ds : List StorageDevice}
    {st st' : BuildState} {nodes : List StorageNode}
    (h : buildOrphans build ds st = some (nodes, st')) :
    Walk (deviceGraph devs) ds st.visited (detailsOf nodes) st'.visited := by
  induction ds generalizing st nodes with
  | nil =>
    obtain ⟨rfl, rfl⟩ := Prod.mk.inj (Option.some.inj h)
    exact Walk.nil _
  | cons d ds ih =>
    unfold buildOrphans at h
    by_cases hvisited : st.has d = true
    · rw [if_pos hvisited] at h
      exact Walk.skip (BuildState.has_iff.mp hvisited) (ih h)
    · rw [if_neg hvisited] at h
      obtain ⟨⟨node, st₁⟩, hnode, h⟩ := Option.bind_eq_some_iff.mp h
      obtain ⟨⟨rest, st₂⟩, hrest, heq⟩ := Option.map_eq_some_iff.mp h
      obtain ⟨rfl, rfl⟩ := Prod.mk.inj heq
      exact hbuild.take hvisited hnode (ih hrest)

/-- The tree: under the disks a walk that takes them all, and then a walk of the orphans. -/
lemma buildStorageTree_walk {fuel : ℕ} {nodes : List StorageNode}
    (h : buildStorageTree u fuel devs lvmVgs = some nodes) :
    ∃ roots orphans visited visited', nodes = roots ++ orphans ∧
      roots.filterMap StorageNode.detail = physicalDisks devs ∧
      Forced (deviceGraph devs) (physicalDisks devs) [] (detailsOf roots) visited ∧
      Walk (deviceGraph devs) (orphanDevices devs) visited (detailsOf orphans) visited' := by
  have hbuild : BuildsWalk devs fun d =>
      buildStorageNode u devs lvmVgs (d.name.getD "") fuel d := fun d =>
    buildStorageNode_walk (d.name.getD "") fuel d
  unfold buildStorageTree at h
  obtain ⟨⟨roots, st⟩, hroots, h⟩ := Option.bind_eq_some_iff.mp h
  obtain ⟨⟨orphans, st'⟩, horphans, heq⟩ := Option.map_eq_some_iff.mp h
  obtain ⟨hdisks, hforced⟩ := buildRoots_forced hbuild hroots
  exact ⟨roots, orphans, st.visited, st'.visited, heq.symm, hdisks, hforced,
    buildOrphans_walk hbuild horphans⟩

end Walk

/-! ## The recursion ends -/

section Ends

variable {u : CasedUnicode} {devs : List StorageDevice} {lvmVgs : List LvmVg}

/-- The number of devices that have not been placed. -/
def unplaced (devs : List StorageDevice) (visited : List (Option String)) : ℕ :=
  (devs.filter fun d => !visited.contains d.id).length

lemma unplaced_mono {visited visited' : List (Option String)} (hsub : visited ⊆ visited') :
    unplaced devs visited' ≤ unplaced devs visited := by
  unfold unplaced
  rw [← List.countP_eq_length_filter, ← List.countP_eq_length_filter]
  apply List.countP_mono_left
  intro d _ hd
  rw [Bool.not_eq_true', List.contains_eq_mem, decide_eq_false_iff_not] at hd ⊢
  exact fun hin => hd (hsub hin)

/-- To place a device leaves fewer. -/
lemma unplaced_cons_lt {visited : List (Option String)} {c : StorageDevice} (hc : c ∈ devs)
    (hnew : c.id ∉ visited) : unplaced devs (c.id :: visited) < unplaced devs visited := by
  have hsub : (devs.filter fun d => !(c.id :: visited).contains d.id).Sublist
      (devs.filter fun d => !visited.contains d.id) := by
    apply List.monotone_filter_right
    intro d hd
    rw [Bool.not_eq_true', List.contains_eq_mem, decide_eq_false_iff_not] at hd ⊢
    exact fun hin => hd (List.mem_cons_of_mem _ hin)
  refine lt_of_le_of_ne hsub.length_le fun hlen => ?_
  have hsame := hsub.eq_of_length hlen
  have hmem : c ∈ devs.filter fun d => !visited.contains d.id := by
    rw [List.mem_filter, Bool.not_eq_true', List.contains_eq_mem, decide_eq_false_iff_not]
    exact ⟨hc, hnew⟩
  rw [← hsame, List.mem_filter, Bool.not_eq_true', List.contains_eq_mem,
    decide_eq_false_iff_not] at hmem
  exact hmem.2 List.mem_cons_self

lemma exists_buildChildren {build : StorageDevice → BuildState → Option (StorageNode × BuildState)}
    (hwalk : BuildsWalk devs build) {fuel : ℕ}
    (hbuild : ∀ c st, unplaced devs (c.id :: st.visited) < fuel → ∃ r, build c st = some r)
    {cs : List StorageDevice} (hcs : ∀ c ∈ cs, c ∈ devs) {st : BuildState}
    (hfuel : unplaced devs st.visited ≤ fuel) : ∃ r, buildChildren u build cs st = some r := by
  induction cs generalizing st with
  | nil => exact ⟨_, rfl⟩
  | cons c cs ih =>
    have hrest := fun d hd => hcs d (List.mem_cons_of_mem c hd)
    unfold buildChildren
    by_cases hvisited : st.has c = true
    · obtain ⟨r, hr⟩ := ih hrest hfuel
      rw [if_pos hvisited, hr]
      exact ⟨_, rfl⟩
    · have hlt := unplaced_cons_lt (hcs c List.mem_cons_self) (mt BuildState.has_iff.mpr hvisited)
      obtain ⟨⟨node, st'⟩, hnode⟩ := hbuild c st (by omega)
      obtain ⟨-, below, -, hbelow⟩ := hwalk c st node st' hnode
      have hmono : unplaced devs st'.visited ≤ unplaced devs (c.id :: st.visited) :=
        unplaced_mono hbelow.subset
      have hfuel' : unplaced devs st'.visited ≤ fuel := by omega
      obtain ⟨r, hr⟩ := ih hrest hfuel'
      rw [if_neg hvisited, hnode, Option.bind_some]
      simp only [hr, Option.map_some]
      exact ⟨_, rfl⟩

/-- Fuel for each device that has not been placed is enough. -/
lemma exists_buildStorageNode (rootDisk : String) (fuel : ℕ) (d : StorageDevice)
    (st : BuildState) (hfuel : unplaced devs (d.id :: st.visited) < fuel) :
    ∃ r, buildStorageNode u devs lvmVgs rootDisk fuel d st = some r := by
  induction fuel generalizing d st with
  | zero => exact absurd hfuel (Nat.not_lt_zero _)
  | succ fuel ih =>
    have hchildren : ∀ c ∈ childrenOf devs d.id, c ∈ devs := fun c hc =>
      (List.mem_filter.mp hc).1
    have hplace : unplaced devs (st.place rootDisk d).visited ≤ fuel := Nat.lt_succ_iff.mp hfuel
    obtain ⟨r, hr⟩ := exists_buildChildren (u := u) (buildStorageNode_walk rootDisk fuel) ih
      hchildren hplace
    unfold buildStorageNode
    simp only [hr, Option.map_some]
    exact ⟨_, rfl⟩

lemma buildChildren_mono {build build' : StorageDevice → BuildState →
    Option (StorageNode × BuildState)}
    (hbuild : ∀ c st r, build c st = some r → build' c st = some r) {cs : List StorageDevice}
    {st : BuildState} {r : List StorageNode × BuildState}
    (h : buildChildren u build cs st = some r) : buildChildren u build' cs st = some r := by
  induction cs generalizing st r with
  | nil => exact h
  | cons c cs ih =>
    unfold buildChildren at h ⊢
    by_cases hvisited : st.has c = true
    · rw [if_pos hvisited] at h ⊢
      obtain ⟨rest, hrest, heq⟩ := Option.map_eq_some_iff.mp h
      rw [ih hrest, Option.map_some, heq]
    · rw [if_neg hvisited] at h ⊢
      obtain ⟨⟨node, st'⟩, hnode, h⟩ := Option.bind_eq_some_iff.mp h
      obtain ⟨rest, hrest, heq⟩ := Option.map_eq_some_iff.mp h
      rw [hbuild c st _ hnode, Option.bind_some]
      simp only
      rw [ih hrest, Option.map_some]
      exact congrArg some heq

/-- More fuel builds the same node. -/
lemma buildStorageNode_succ (rootDisk : String) (fuel : ℕ) :
    ∀ (d : StorageDevice) (st : BuildState) (r : StorageNode × BuildState),
      buildStorageNode u devs lvmVgs rootDisk fuel d st = some r →
        buildStorageNode u devs lvmVgs rootDisk (fuel + 1) d st = some r := by
  induction fuel with
  | zero =>
    intro d st r h
    exact absurd h (Option.some_ne_none _).symm
  | succ fuel ih =>
    intro d st r h
    unfold buildStorageNode at h ⊢
    simp only at h ⊢
    obtain ⟨children, hchildren, heq⟩ := Option.map_eq_some_iff.mp h
    rw [buildChildren_mono ih hchildren, Option.map_some]
    exact congrArg some heq

lemma buildStorageNode_mono {rootDisk : String} {fuel fuel' : ℕ} (hle : fuel ≤ fuel')
    {d : StorageDevice} {st : BuildState} {r : StorageNode × BuildState}
    (h : buildStorageNode u devs lvmVgs rootDisk fuel d st = some r) :
    buildStorageNode u devs lvmVgs rootDisk fuel' d st = some r := by
  induction fuel', hle using Nat.le_induction with
  | base => exact h
  | succ fuel' _ ih => exact buildStorageNode_succ rootDisk fuel' d st r ih

lemma unplaced_le (visited : List (Option String)) : unplaced devs visited ≤ devs.length :=
  List.length_filter_le _ _

/-- All fuel beyond the number of devices builds the same. -/
lemma buildStorageNode_eq (rootDisk : String) {fuel : ℕ} (hfuel : devs.length < fuel) :
    buildStorageNode u devs lvmVgs rootDisk fuel =
      buildStorageNode u devs lvmVgs rootDisk (devs.length + 1) := by
  funext d st
  have hbuilt : ∃ r, buildStorageNode u devs lvmVgs rootDisk (devs.length + 1) d st = some r :=
    exists_buildStorageNode rootDisk _ d st (Nat.lt_succ_of_le (unplaced_le _))
  obtain ⟨r, hr⟩ := hbuilt
  rw [hr, buildStorageNode_mono hfuel hr]

variable {build : StorageDevice → BuildState → Option (StorageNode × BuildState)}

lemma exists_buildRoots (hbuild : ∀ d st, ∃ r, build d st = some r) (ds : List StorageDevice)
    (st : BuildState) : ∃ r, buildRoots build ds st = some r := by
  induction ds generalizing st with
  | nil => exact ⟨_, rfl⟩
  | cons d ds ih =>
    obtain ⟨⟨node, st'⟩, hnode⟩ := hbuild d st
    obtain ⟨r, hr⟩ := ih st'
    unfold buildRoots
    rw [hnode, Option.bind_some]
    simp only [hr, Option.map_some]
    exact ⟨_, rfl⟩

lemma exists_buildOrphans (hbuild : ∀ d st, ∃ r, build d st = some r) (ds : List StorageDevice)
    (st : BuildState) : ∃ r, buildOrphans build ds st = some r := by
  induction ds generalizing st with
  | nil => exact ⟨_, rfl⟩
  | cons d ds ih =>
    unfold buildOrphans
    by_cases hvisited : st.has d = true
    · rw [if_pos hvisited]
      exact ih st
    · obtain ⟨⟨node, st'⟩, hnode⟩ := hbuild d st
      obtain ⟨r, hr⟩ := ih st'
      rw [if_neg hvisited, hnode, Option.bind_some]
      simp only [hr, Option.map_some]
      exact ⟨_, rfl⟩

/-- The tree is built for every list of devices, whatever their parents: fuel for each device is
enough, and more fuel builds the same. -/
lemma exists_buildStorageTree (u : CasedUnicode) (devs : List StorageDevice)
    (lvmVgs : List LvmVg) :
    ∃ nodes, ∀ fuel, devs.length < fuel →
      buildStorageTree u fuel devs lvmVgs = some nodes := by
  have hbuild : ∀ (d : StorageDevice) (st : BuildState), ∃ r,
      buildStorageNode u devs lvmVgs (d.name.getD "") (devs.length + 1) d st = some r :=
    fun d st => exists_buildStorageNode _ _ d st (Nat.lt_succ_of_le (unplaced_le _))
  obtain ⟨⟨roots, st⟩, hroots⟩ := exists_buildRoots hbuild (physicalDisks devs) {}
  obtain ⟨⟨orphans, st'⟩, horphans⟩ := exists_buildOrphans hbuild (orphanDevices devs) st
  refine ⟨roots ++ orphans, fun fuel hfuel => ?_⟩
  unfold buildStorageTree
  simp only [buildStorageNode_eq _ hfuel]
  rw [hroots, Option.bind_some]
  simp only [horphans, Option.map_some]

end Ends

end AssessmentEngine
