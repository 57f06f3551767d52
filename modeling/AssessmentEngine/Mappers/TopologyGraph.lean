import AssessmentEngine.Mappers.Topology

/-!
# The topology is well formed

Nodes, edges, counts and tables of the topology agree with each other.  This follows from three
facts about the segments they are made of: no two have one key, each has at least two hosts, and
these are hosts of the list (`Segment.Proper`).  There is a topology unless networks of both
versions are left, which takes an address that is labelled as IPv4 and is not.
-/

namespace AssessmentEngine

open IpAddress SetDefault

/-! ## Reading a graph -/

/-- The id of a node. -/
def Element.nodeId : Element → Option String
  | .subnet id _ _ _ => some id
  | .gateway id _ _ => some id
  | .host id _ _ _ _ _ _ => some id
  | _ => none

/-- The endpoints of an edge. -/
def Element.ends : Element → Option (String × String)
  | .route source target => some (source, target)
  | .member source target => some (source, target)
  | _ => none

/-- The data of a subnet node. -/
structure SubnetNode where
  id : String
  label : String
  hostCount : ℕ
  gateway : Option String
  deriving DecidableEq, Repr

def Element.subnetNode : Element → Option SubnetNode
  | .subnet id label hostCount gw => some ⟨id, label, hostCount, gw⟩
  | _ => none

/-- The host of a member edge to a node. -/
def Element.memberOf (id : String) : Element → Option String
  | .member source target => if target = id then some source else none
  | _ => none

namespace NetworkTopology

variable (t : NetworkTopology)

def nodeIds : List String := t.elements.filterMap Element.nodeId

def subnetNodes : List SubnetNode := t.elements.filterMap Element.subnetNode

/-- The hosts with an edge to a subnet. -/
def membersOf (id : String) : List String := t.elements.filterMap (Element.memberOf id)

/-- The number of emitted subnets that a host has an edge to. -/
def subnetsOf (id : String) : ℕ := t.subnetNodes.countP fun n => id ∈ t.membersOf n.id

/-- The number of emitted subnets that name a gateway. -/
def gatewaySubnets (gw : String) : ℕ := t.subnetNodes.countP fun n => n.gateway = some gw

/-- A subnet has two or more hosts, each once; its count is that of its edges, and its table lists
their hosts. -/
structure SubnetAgrees (node : SubnetNode) (group : SubnetGroup) : Prop where
  distinct : (t.membersOf node.id).Nodup
  two_le : 2 ≤ (t.membersOf node.id).length
  hostCount : node.hostCount = (t.membersOf node.id).length
  label : group.netKey = node.label
  tableCount : group.hostCount = node.hostCount
  table : group.hosts.length = node.hostCount
  tableHosts : (group.hosts.map fun row => hostId row.publicId).Perm (t.membersOf node.id)

/-- Nodes, edges, counts and tables agree. -/
structure WellFormed (hosts : List TopologyHost) : Prop where
  nodeIds : t.nodeIds.Nodup
  ends : ∀ e ∈ t.elements, ∀ edge ∈ e.ends, edge.1 ∈ t.nodeIds ∧ edge.2 ∈ t.nodeIds
  subnets : List.Forall₂ t.SubnetAgrees t.subnetNodes t.subnets
  hostCounts : (t.hostCount : ℤ) + t.isolatedCount = hosts.length ∧ 0 ≤ t.isolatedCount
  multiHomed : ∀ h ∈ hosts,
    (∃ label family roles ifaces,
      Element.host (hostId h.publicId) label h.publicId family roles true ifaces ∈ t.elements) ↔
        2 ≤ t.subnetsOf (hostId h.publicId)
  multiHomedRows : ∀ group ∈ t.subnets, ∀ row ∈ group.hosts,
    row.multiHomed = true ↔ 2 ≤ t.subnetsOf (hostId row.publicId)
  gateways : ∀ id gw n, Element.gateway id gw n ∈ t.elements ↔
    id = gatewayId gw ∧ n = t.gatewaySubnets gw ∧ 2 ≤ n

end NetworkTopology

/-! ## Segments -/

/-- The segment has two or more hosts, each once and all of the list, and no empty gateway. -/
structure Segment.Proper (hosts : List TopologyHost) (s : Segment) : Prop where
  distinct : (s.members.map Prod.fst).Nodup
  two_le : 2 ≤ s.members.length
  known : ∀ pid ∈ s.members.map Prod.fst, pid ∈ hosts.map TopologyHost.publicId
  gateway : s.gateway ≠ some ""

lemma byPid_nodup (members : List Member) : ((byPid members).map Prod.fst).Nodup :=
  nodup_fill members List.nodup_nil

lemma byPid_known {members : List Member} {pid : String}
    (h : pid ∈ (byPid members).map Prod.fst) : ∃ m ∈ members, m.pid = pid := by
  have hall : ∀ e ∈ byPid members, ∃ m ∈ members, m.pid = e.1 :=
    forall_fill (by simp) (fun m hm => ⟨m, hm, rfl⟩) (fun _ _ _ h => h)
  obtain ⟨e, he, rfl⟩ := List.mem_map.mp h
  exact hall e he

lemma membership_pid {pid : String} {iface : TopologyInterface} {a : TopologyAddress}
    {m : Network × Member} (h : membership pid iface a = some m) : m.2.pid = pid := by
  unfold membership at h
  split_ifs at h
  obtain ⟨addr, -, h⟩ := Option.bind_eq_some_iff.mp h
  obtain ⟨prefixLength, -, h⟩ := Option.bind_eq_some_iff.mp h
  obtain ⟨⟨ip, network⟩, -, h⟩ := Option.bind_eq_some_iff.mp h
  simp only at h
  split_ifs at h
  rw [← Option.some_inj.mp h]

/-- A membership of a host names the host. -/
lemma memberships_pid {host : TopologyHost} {m : Network × Member} (h : m ∈ host.memberships) :
    m.2.pid = host.publicId := by
  obtain ⟨e, he, rfl⟩ := List.mem_map.mp h
  have hfound : ∀ m ∈ host.interfaces.flatMap (fun iface =>
      iface.addresses.filterMap (membership host.publicId iface)), m.2.pid = host.publicId := by
    intro m hm
    obtain ⟨iface, _, hm⟩ := List.mem_flatMap.mp hm
    obtain ⟨a, _, ha⟩ := List.mem_filterMap.mp hm
    exact membership_pid ha
  exact forall_fill (P := fun e => e.2.2.pid = host.publicId) (by simp) hfound
    (fun _ _ _ h => h) e he

/-- The members of the subnets are hosts of the list. -/
lemma subnetMembers_known (hosts : List TopologyHost) :
    ∀ subnet ∈ subnetMembers hosts, ∀ m ∈ subnet.2.2, m.pid ∈ hosts.map TopologyHost.publicId := by
  have hfound : ∀ found ∈ hosts.flatMap TopologyHost.memberships,
      found.2.pid ∈ hosts.map TopologyHost.publicId := by
    intro found hfound
    obtain ⟨host, hhost, hm⟩ := List.mem_flatMap.mp hfound
    rw [memberships_pid hm]
    exact List.mem_map_of_mem hhost
  refine forall_fill (by simp) (fun found hmem m hm => ?_) (fun found hmem subnet hold m hm => ?_)
  · rw [List.nil_append, List.mem_singleton] at hm
    exact hm ▸ hfound found hmem
  · rcases List.mem_append.mp hm with hm | hm
    · exact hold m hm
    · rw [List.mem_singleton.mp hm]
      exact hfound found hmem

lemma ne_empty_of_mem_gatewaysOf {members : List Member} {gw : String}
    (h : gw ∈ gatewaysOf members) : gw ≠ "" := by
  obtain ⟨m, _, hm⟩ := List.mem_filterMap.mp (List.mem_dedup.mp h)
  simpa using (Option.filter_eq_some_iff.mp hm).2

/-- The parts of a subnet of known members have known members. -/
lemma splitByGateway_spec {hosts : List TopologyHost} {subnet : String} {network : Network}
    {members : List Member}
    (hknown : ∀ m ∈ members, m.pid ∈ hosts.map TopologyHost.publicId) :
    ∀ s ∈ splitByGateway subnet network members,
      (s.members.map Prod.fst).Nodup ∧
        (∀ pid ∈ s.members.map Prod.fst, pid ∈ hosts.map TopologyHost.publicId) ∧
        s.gateway ≠ some "" := by
  have hpids : ∀ part : List Member, part ⊆ members → ∀ pid ∈ (byPid part).map Prod.fst,
      pid ∈ hosts.map TopologyHost.publicId := by
    intro part hsub pid hpid
    obtain ⟨m, hm, rfl⟩ := byPid_known hpid
    exact hknown m (hsub hm)
  intro s hs
  unfold splitByGateway at hs
  simp only at hs
  split_ifs at hs with hseveral
  · obtain ⟨gw, hgw, rfl⟩ := List.mem_map.mp hs
    refine ⟨byPid_nodup _, hpids _ (fun m hm => List.mem_of_mem_filter hm), ?_⟩
    rw [Ne, Option.some_inj]
    exact ne_empty_of_mem_gatewaysOf ((List.perm_insertionSort _ _).mem_iff.mp hgw)
  · rw [List.mem_singleton.mp hs]
    refine ⟨byPid_nodup _, hpids _ (List.Subset.refl _), fun hhead => ?_⟩
    exact ne_empty_of_mem_gatewaysOf (List.mem_of_mem_head? hhead) rfl

/-- The surviving segments are proper, and their keys differ. -/
lemma survivingSegments_spec (hosts : List TopologyHost) :
    (((survivingSegments hosts).map Prod.snd).map Segment.netKey).Nodup ∧
      ∀ s ∈ (survivingSegments hosts).map Prod.snd, s.Proper hosts := by
  have hparts : ∀ s ∈ ((subnetMembers hosts).flatMap fun s =>
      splitByGateway s.1 s.2.1 s.2.2).filter (fun s => 2 ≤ s.members.length), s.Proper hosts := by
    intro s hs
    obtain ⟨hs, htwo⟩ := List.mem_filter.mp hs
    obtain ⟨subnet, hsubnet, hs⟩ := List.mem_flatMap.mp hs
    obtain ⟨hdistinct, hknown, hgateway⟩ :=
      splitByGateway_spec (subnetMembers_known hosts subnet hsubnet) s hs
    exact ⟨hdistinct, of_decide_eq_true htwo, hknown, hgateway⟩
  have hentries : ∀ e ∈ survivingSegments hosts, e.2.netKey = e.1 ∧ e.2.Proper hosts :=
    forall_fill (by simp) (fun s hs => ⟨rfl, hparts s hs⟩) (fun s hs _ _ => ⟨rfl, hparts s hs⟩)
  constructor
  · have hkeys : ((survivingSegments hosts).map Prod.snd).map Segment.netKey =
        (survivingSegments hosts).map Prod.fst := by
      rw [List.map_map]
      exact List.map_congr_left fun e he => (hentries e he).1
    rw [hkeys]
    exact nodup_fill _ List.nodup_nil
  · intro s hs
    obtain ⟨e, he, rfl⟩ := List.mem_map.mp hs
    exact (hentries e he).2

/-! ## When there is a topology -/

/-- What is labelled as an IPv4 address is one. -/
def LabelsHold (hosts : List TopologyHost) : Prop :=
  ∀ h ∈ hosts, ∀ iface ∈ h.netInterfaces, ∀ a ∈ iface.addresses, a.family = some "ipv4" →
    ∀ addr ∈ a.address, (ipv4Int addr.toList).isSome = true

instance (hosts : List TopologyHost) : Decidable (LabelsHold hosts) :=
  inferInstanceAs (Decidable (∀ h ∈ hosts, _))

lemma membership_version {pid : String} {iface : TopologyInterface} {a : TopologyAddress}
    {m : Network × Member} (h : membership pid iface a = some m)
    (hlabel : a.family = some "ipv4" → ∀ addr ∈ a.address, (ipv4Int addr.toList).isSome = true) :
    m.1.address.version = .v4 := by
  unfold membership at h
  split_ifs at h with hfamily
  obtain ⟨addr, haddr, h⟩ := Option.bind_eq_some_iff.mp h
  obtain ⟨prefixLength, -, h⟩ := Option.bind_eq_some_iff.mp h
  obtain ⟨⟨ip, network⟩, hparse, h⟩ := Option.bind_eq_some_iff.mp h
  simp only at h
  split_ifs at h
  rw [← Option.some_inj.mp h]
  exact parseInterface_version (hlabel (not_not.mp hfamily) addr haddr) hparse

lemma subnetMembers_version {hosts : List TopologyHost} (hlabels : LabelsHold hosts) :
    ∀ subnet ∈ subnetMembers hosts, subnet.2.1.address.version = .v4 := by
  have hfound : ∀ found ∈ hosts.flatMap TopologyHost.memberships,
      found.1.address.version = .v4 := by
    intro found hfound
    obtain ⟨host, hhost, hm⟩ := List.mem_flatMap.mp hfound
    obtain ⟨e, he, rfl⟩ := List.mem_map.mp hm
    refine forall_fill (P := fun e => e.2.1.address.version = .v4) (by simp) (fun m hm => ?_)
      (fun _ _ _ h => h) e he
    obtain ⟨iface, hiface, hm⟩ := List.mem_flatMap.mp hm
    obtain ⟨a, ha, hmembership⟩ := List.mem_filterMap.mp hm
    exact membership_version hmembership
      (hlabels host hhost iface (List.mem_of_mem_filter hiface) a ha)
  exact forall_fill (by simp) hfound fun _ _ _ h => h

lemma splitByGateway_network {subnet : String} {network : Network} {members : List Member} :
    ∀ s ∈ splitByGateway subnet network members, s.network = network := by
  intro s hs
  unfold splitByGateway at hs
  simp only at hs
  split_ifs at hs
  · obtain ⟨gw, _, rfl⟩ := List.mem_map.mp hs
    rfl
  · rw [List.mem_singleton.mp hs]

/-- Where labels hold all networks are of one version, and the topology is made. -/
lemma buildNetworkTopology_isSome {hosts : List TopologyHost} (hlabels : LabelsHold hosts)
    (onlineById : Option (List (ℤ × Bool))) :
    (buildNetworkTopology hosts onlineById).isSome = true := by
  have hparts : ∀ s ∈ ((subnetMembers hosts).flatMap fun s =>
      splitByGateway s.1 s.2.1 s.2.2).filter (fun s => 2 ≤ s.members.length),
      s.network.address.version = .v4 := by
    intro s hs
    obtain ⟨subnet, hsubnet, hs⟩ := List.mem_flatMap.mp (List.mem_of_mem_filter hs)
    rw [splitByGateway_network s hs]
    exact subnetMembers_version hlabels subnet hsubnet
  have hversions : ∀ e ∈ survivingSegments hosts, e.2.network.address.version = .v4 :=
    forall_fill (by simp) hparts fun s hs _ _ => hparts s hs
  have hsame : ((survivingSegments hosts).map Prod.snd).Pairwise fun a b =>
      a.network.address.version = b.network.address.version := by
    refine List.pairwise_of_forall_mem_list fun a ha b hb => ?_
    obtain ⟨e, he, rfl⟩ := List.mem_map.mp ha
    obtain ⟨e', he', rfl⟩ := List.mem_map.mp hb
    rw [hversions e he, hversions e' he']
  rw [buildNetworkTopology, orderedNets, if_pos hsame]
  rfl

/-! ## The parts of the graph -/

lemma subnetId_injective : Function.Injective subnetId :=
  fun _ _ h => (String.append_right_inj _).mp h

lemma gatewayId_injective : Function.Injective gatewayId :=
  fun _ _ h => (String.append_right_inj _).mp h

lemma hostId_injective : Function.Injective hostId :=
  fun _ _ h => (String.append_right_inj _).mp h

/-- Ids of different kinds of nodes differ in their first letter. -/
lemma ne_of_head {tag tag' : String} (a b : String)
    (h : tag.toList.head?.isSome ∧ tag'.toList.head?.isSome ∧
      tag.toList.head? ≠ tag'.toList.head?) : tag ++ a ≠ tag' ++ b := by
  obtain ⟨htag, htag', hne⟩ := h
  intro heq
  have hhead := congrArg (fun text : String => text.toList.head?) heq
  simp only [String.toList_append, List.head?_append] at hhead
  rw [Option.or_of_isSome htag, Option.or_of_isSome htag'] at hhead
  exact hne hhead

lemma subnetId_ne_gatewayId (key gw : String) : subnetId key ≠ gatewayId gw :=
  ne_of_head _ _ (by decide)
lemma subnetId_ne_hostId (key pid : String) : subnetId key ≠ hostId pid :=
  ne_of_head _ _ (by decide)
lemma gatewayId_ne_hostId (gw pid : String) : gatewayId gw ≠ hostId pid :=
  ne_of_head _ _ (by decide)

section Graph

variable (hosts : List TopologyHost) (onlineById : Option (List (ℤ × Bool)))
  (ordered : List Segment)

/-- `sorted(graph_hosts)`. -/
def sortedHosts : List String := (graphHosts ordered).insertionSort (· ≤ ·)

lemma filterMap_elements {β : Type} (f : Element → Option β) :
    (topologyOf hosts onlineById ordered).elements.filterMap f =
      ordered.flatMap (fun s => (subnetElements ordered s).filterMap f) ++
        (sharedGws ordered).filterMap (fun gw => f (gatewayElement ordered gw)) ++
          (sortedHosts ordered).filterMap (fun pid => f (hostElement hosts ordered pid)) ++
            ordered.flatMap fun s => (memberElements s).filterMap f := by
  simp only [topologyOf, sortedHosts, List.filterMap_append, List.filterMap_flatMap,
    List.filterMap_map, Function.comp_def]

/-- Subnets, shared gateways and hosts are the nodes. -/
lemma nodeIds_topologyOf :
    (topologyOf hosts onlineById ordered).nodeIds =
      ordered.map (fun s => subnetId s.netKey) ++ (sharedGws ordered).map gatewayId ++
        (sortedHosts ordered).map hostId := by
  have hsubnet : ∀ s, (subnetElements ordered s).filterMap Element.nodeId =
      [subnetId s.netKey] := by
    intro s
    simp [subnetElements, Element.nodeId, Function.comp_def, List.filterMap_map]
  have hmember : ∀ s, (memberElements s).filterMap Element.nodeId = [] := by
    intro s
    simp [memberElements, Element.nodeId]
  rw [NetworkTopology.nodeIds, filterMap_elements]
  simp [hsubnet, hmember, gatewayElement, hostElement, Element.nodeId, ← List.map_eq_flatMap]

lemma subnetNodes_topologyOf :
    (topologyOf hosts onlineById ordered).subnetNodes =
      ordered.map fun s => ⟨subnetId s.netKey, s.label, s.pids.length, s.gateway⟩ := by
  have hsubnet : ∀ s, (subnetElements ordered s).filterMap Element.subnetNode =
      [⟨subnetId s.netKey, s.label, s.pids.length, s.gateway⟩] := by
    intro s
    simp [subnetElements, Element.subnetNode, Function.comp_def, List.filterMap_map]
  have hmember : ∀ s, (memberElements s).filterMap Element.subnetNode = [] := by
    intro s
    simp [memberElements, Element.subnetNode]
  rw [NetworkTopology.subnetNodes, filterMap_elements]
  simp [hsubnet, hmember, gatewayElement, hostElement, Element.subnetNode, ← List.map_eq_flatMap]

lemma membersOf_topologyOf (id : String) :
    (topologyOf hosts onlineById ordered).membersOf id =
      ordered.flatMap fun s => if subnetId s.netKey = id then s.pids.map hostId else [] := by
  have hsubnet : ∀ s, (subnetElements ordered s).filterMap (Element.memberOf id) = [] := by
    intro s
    apply List.filterMap_eq_nil_iff.mpr
    intro e he
    rcases List.mem_cons.mp he with rfl | he
    · rfl
    · obtain ⟨gw, _, rfl⟩ := List.mem_map.mp he
      rfl
  have hmember : ∀ s, (memberElements s).filterMap (Element.memberOf id) =
      if subnetId s.netKey = id then s.pids.map hostId else [] := by
    intro s
    by_cases hid : subnetId s.netKey = id
    · simp [memberElements, Element.memberOf, hid, List.filterMap_map, Function.comp_def]
    · simp [memberElements, Element.memberOf, hid]
  rw [NetworkTopology.membersOf, filterMap_elements]
  simp [hsubnet, hmember, gatewayElement, hostElement, Element.memberOf]

end Graph

/-- Where keys do not repeat, one member of a list has a given key. -/
lemma flatMap_ite_key {α β κ : Type} [DecidableEq κ] (key : α → κ) {l : List α}
    (hkeys : (l.map key).Nodup) {a : α} (ha : a ∈ l) (f : α → List β) :
    (l.flatMap fun b => if key b = key a then f b else []) = f a := by
  induction l with
  | nil => simp at ha
  | cons b l ih =>
    rw [List.map_cons, List.nodup_cons] at hkeys
    rw [List.flatMap_cons]
    rcases List.mem_cons.mp ha with rfl | ha
    · have hnone : (l.flatMap fun b => if key b = key a then f b else []) = [] := by
        refine List.flatMap_eq_nil_iff.mpr fun b hb => if_neg fun heq => hkeys.1 ?_
        exact heq ▸ List.mem_map_of_mem hb
      rw [hnone, if_pos rfl, List.append_nil]
    · have hne : key b ≠ key a := fun heq => hkeys.1 (heq ▸ List.mem_map_of_mem ha)
      rw [if_neg hne, List.nil_append, ih hkeys.2 ha]

/-! ## The graph of proper segments -/

section Proper

variable {hosts : List TopologyHost} {onlineById : Option (List (ℤ × Bool))}
  {ordered : List Segment}

lemma Segment.pids_perm (s : Segment) : s.pids.Perm (s.members.map Prod.fst) :=
  List.perm_insertionSort _ _

lemma Segment.Proper.pids_nodup {s : Segment} (h : s.Proper hosts) : s.pids.Nodup :=
  s.pids_perm.nodup_iff.mpr h.distinct

lemma Segment.Proper.two_le_pids {s : Segment} (h : s.Proper hosts) : 2 ≤ s.pids.length := by
  rw [s.pids_perm.length_eq, List.length_map]
  exact h.two_le

lemma mem_graphHosts {pid : String} : pid ∈ graphHosts ordered ↔ ∃ s ∈ ordered, pid ∈ s.pids := by
  rw [graphHosts, List.mem_dedup, List.mem_flatMap]

lemma sortedHosts_perm : (sortedHosts ordered).Perm (graphHosts ordered) :=
  List.perm_insertionSort _ _

lemma mem_sortedHosts {pid : String} :
    pid ∈ sortedHosts ordered ↔ ∃ s ∈ ordered, pid ∈ s.pids := by
  rw [sortedHosts_perm.mem_iff, mem_graphHosts]

lemma mem_sharedGws (hproper : ∀ s ∈ ordered, s.Proper hosts) {gw : String} :
    gw ∈ sharedGws ordered ↔ 2 ≤ gwSubnetCount ordered gw := by
  rw [sharedGws, (List.perm_insertionSort _ _).mem_iff, List.mem_filter, List.mem_dedup,
    decide_eq_true_eq, and_iff_right_iff_imp]
  intro htwo
  obtain ⟨s, hs, hgw⟩ := List.countP_pos_iff.mp (Nat.lt_of_lt_of_le Nat.zero_lt_two htwo)
  refine List.mem_filterMap.mpr ⟨s, hs, Option.filter_eq_some_iff.mpr ⟨of_decide_eq_true hgw, ?_⟩⟩
  have hne : gw ≠ "" := fun heq => (hproper s hs).gateway (heq ▸ of_decide_eq_true hgw)
  simpa using hne

/-- The members of an emitted subnet. -/
lemma membersOf_subnetId (hkeys : (ordered.map Segment.netKey).Nodup) {s : Segment}
    (hs : s ∈ ordered) :
    (topologyOf hosts onlineById ordered).membersOf (subnetId s.netKey) = s.pids.map hostId := by
  rw [membersOf_topologyOf]
  refine flatMap_ite_key (fun s : Segment => subnetId s.netKey) ?_ hs _
  have hmap : ordered.map (fun s => subnetId s.netKey) =
      (ordered.map Segment.netKey).map subnetId := by
    rw [List.map_map]
    rfl
  rw [hmap]
  exact hkeys.map subnetId_injective

/-- The number of subnets with an edge to a host is the count that the mapper keeps. -/
lemma subnetsOf_hostId (hkeys : (ordered.map Segment.netKey).Nodup) (pid : String) :
    (topologyOf hosts onlineById ordered).subnetsOf (hostId pid) = hostSubnetCount ordered pid := by
  rw [NetworkTopology.subnetsOf, subnetNodes_topologyOf, List.countP_map, hostSubnetCount]
  refine List.countP_congr fun s hs => ?_
  rw [Function.comp_apply, membersOf_subnetId hkeys hs, decide_eq_true_eq, decide_eq_true_eq,
    List.mem_map_of_injective hostId_injective]

lemma gatewaySubnets_topologyOf (gw : String) :
    (topologyOf hosts onlineById ordered).gatewaySubnets gw = gwSubnetCount ordered gw := by
  rw [NetworkTopology.gatewaySubnets, subnetNodes_topologyOf, List.countP_map, gwSubnetCount]
  rfl

/-! ### Nodes and edges -/

lemma nodeIds_nodup (hkeys : (ordered.map Segment.netKey).Nodup) :
    (topologyOf hosts onlineById ordered).nodeIds.Nodup := by
  have hsubnets : (ordered.map fun s => subnetId s.netKey).Nodup := by
    have hmap := hkeys.map subnetId_injective
    rwa [List.map_map] at hmap
  have hgateways : ((sharedGws ordered).map gatewayId).Nodup :=
    List.Nodup.map gatewayId_injective
      ((List.perm_insertionSort _ _).nodup_iff.mpr ((List.nodup_dedup _).filter _))
  have hhosts : ((sortedHosts ordered).map hostId).Nodup :=
    List.Nodup.map hostId_injective (sortedHosts_perm.nodup_iff.mpr (List.nodup_dedup _))
  rw [nodeIds_topologyOf]
  refine List.Nodup.append (List.Nodup.append hsubnets hgateways ?_) hhosts ?_
  · intro id hsubnet hgateway
    obtain ⟨s, _, rfl⟩ := List.mem_map.mp hsubnet
    obtain ⟨gw, _, hgw⟩ := List.mem_map.mp hgateway
    exact subnetId_ne_gatewayId _ _ hgw.symm
  · intro id hid hhost
    obtain ⟨pid, _, rfl⟩ := List.mem_map.mp hhost
    rcases List.mem_append.mp hid with hid | hid
    · obtain ⟨s, _, hs⟩ := List.mem_map.mp hid
      exact subnetId_ne_hostId _ _ hs
    · obtain ⟨gw, _, hgw⟩ := List.mem_map.mp hid
      exact gatewayId_ne_hostId _ _ hgw

lemma subnetId_mem {s : Segment} (hs : s ∈ ordered) :
    subnetId s.netKey ∈ (topologyOf hosts onlineById ordered).nodeIds := by
  rw [nodeIds_topologyOf]
  exact List.mem_append_left _ (List.mem_append_left _ (List.mem_map.mpr ⟨s, hs, rfl⟩))

lemma ends_mem : ∀ e ∈ (topologyOf hosts onlineById ordered).elements, ∀ edge ∈ e.ends,
    edge.1 ∈ (topologyOf hosts onlineById ordered).nodeIds ∧
      edge.2 ∈ (topologyOf hosts onlineById ordered).nodeIds := by
  intro e he edge hedge
  simp only [topologyOf, List.mem_append] at he
  rcases he with ((he | he) | he) | he
  · obtain ⟨s, hs, he⟩ := List.mem_flatMap.mp he
    rcases List.mem_cons.mp he with rfl | he
    · exact absurd hedge (by simp [Element.ends])
    · -- the route to a shared gateway
      obtain ⟨gw, hgw, rfl⟩ := List.mem_map.mp he
      have hshared : gw ∈ sharedGws ordered := of_decide_eq_true (List.mem_filter.mp hgw).2
      obtain rfl : (gatewayId gw, subnetId s.netKey) = edge := Option.some_inj.mp hedge
      refine ⟨?_, subnetId_mem hs⟩
      rw [nodeIds_topologyOf]
      exact List.mem_append_left _ (List.mem_append_right _ (List.mem_map_of_mem hshared))
  · obtain ⟨gw, _, rfl⟩ := List.mem_map.mp he
    exact absurd hedge (by simp [Element.ends, gatewayElement])
  · obtain ⟨pid, _, rfl⟩ := List.mem_map.mp he
    exact absurd hedge (by simp [Element.ends, hostElement])
  · obtain ⟨s, hs, he⟩ := List.mem_flatMap.mp he
    obtain ⟨pid, hpid, rfl⟩ := List.mem_map.mp he
    obtain rfl : (hostId pid, subnetId s.netKey) = edge := Option.some_inj.mp hedge
    refine ⟨?_, subnetId_mem hs⟩
    rw [nodeIds_topologyOf]
    exact List.mem_append_right _ (List.mem_map_of_mem (mem_sortedHosts.mpr ⟨s, hs, hpid⟩))

/-! ### Subnets and their tables -/

lemma subnetGroup_hosts_perm (s : Segment) :
    (subnetGroup hosts onlineById ordered s).hosts.Perm
      (s.pids.map (subnetHost hosts onlineById ordered s)) :=
  List.perm_insertionSort _ _

lemma subnetAgrees (hproper : ∀ s ∈ ordered, s.Proper hosts)
    (hkeys : (ordered.map Segment.netKey).Nodup) {s : Segment} (hs : s ∈ ordered) :
    (topologyOf hosts onlineById ordered).SubnetAgrees
      ⟨subnetId s.netKey, s.label, s.pids.length, s.gateway⟩
      (subnetGroup hosts onlineById ordered s) := by
  have hmembers : (topologyOf hosts onlineById ordered).membersOf (subnetId s.netKey) =
      s.pids.map hostId := membersOf_subnetId hkeys hs
  have hrows : (subnetGroup hosts onlineById ordered s).hosts.Perm
      (s.pids.map (subnetHost hosts onlineById ordered s)) := subnetGroup_hosts_perm s
  have hlength : (subnetGroup hosts onlineById ordered s).hosts.length = s.pids.length :=
    hrows.length_eq.trans (List.length_map _)
  refine ⟨?_, ?_, ?_, rfl, hlength, hlength, ?_⟩
  · rw [hmembers]
    exact (hproper s hs).pids_nodup.map hostId_injective
  · rw [hmembers, List.length_map]
    exact (hproper s hs).two_le_pids
  · rw [hmembers, List.length_map]
  · rw [hmembers]
    have hmap := hrows.map fun row => hostId row.publicId
    rwa [List.map_map] at hmap

lemma subnets_agree (hproper : ∀ s ∈ ordered, s.Proper hosts)
    (hkeys : (ordered.map Segment.netKey).Nodup) :
    List.Forall₂ (topologyOf hosts onlineById ordered).SubnetAgrees
      (topologyOf hosts onlineById ordered).subnetNodes
      (topologyOf hosts onlineById ordered).subnets := by
  rw [subnetNodes_topologyOf]
  refine List.forall₂_map_left_iff.mpr (List.forall₂_map_right_iff.mpr ?_)
  exact List.forall₂_same.mpr fun s hs => subnetAgrees hproper hkeys hs

/-! ### Hosts -/

lemma hostCounts (hproper : ∀ s ∈ ordered, s.Proper hosts)
    (hhosts : (hosts.map TopologyHost.publicId).Nodup) :
    ((topologyOf hosts onlineById ordered).hostCount : ℤ) +
        (topologyOf hosts onlineById ordered).isolatedCount = hosts.length ∧
      0 ≤ (topologyOf hosts onlineById ordered).isolatedCount := by
  have hsub : graphHosts ordered ⊆ hosts.map TopologyHost.publicId := by
    intro pid hpid
    obtain ⟨s, hs, hpid⟩ := mem_graphHosts.mp hpid
    exact (hproper s hs).known pid (s.pids_perm.mem_iff.mp hpid)
  have hle : (graphHosts ordered).length ≤ (hosts.map TopologyHost.publicId).length :=
    (List.subperm_of_subset (List.nodup_dedup _) hsub).length_le
  rw [List.length_map] at hle
  simp only [topologyOf, hhosts.dedup, List.length_map]
  omega

/-- The host nodes are those of the hosts of the segments. -/
lemma host_mem_elements {id label pid family : String} {roles : List String} {multi : Bool}
    {ifaces : List IfaceSummary} :
    Element.host id label pid family roles multi ifaces ∈
        (topologyOf hosts onlineById ordered).elements ↔
      pid ∈ sortedHosts ordered ∧
        hostElement hosts ordered pid = Element.host id label pid family roles multi ifaces := by
  simp only [topologyOf, List.mem_append]
  constructor
  · rintro (((he | he) | he) | he)
    · obtain ⟨s, _, he⟩ := List.mem_flatMap.mp he
      simp [subnetElements] at he
    · obtain ⟨gw, _, he⟩ := List.mem_map.mp he
      simp [gatewayElement] at he
    · obtain ⟨pid', hpid, he⟩ := List.mem_map.mp he
      obtain rfl : pid' = pid := by
        simp only [hostElement, Element.host.injEq] at he
        exact he.2.2.1
      exact ⟨hpid, he⟩
    · obtain ⟨s, _, he⟩ := List.mem_flatMap.mp he
      simp [memberElements] at he
  · rintro ⟨hpid, he⟩
    exact .inl (.inr (List.mem_map.mpr ⟨pid, hpid, he⟩))

lemma multiHomed_iff (hkeys : (ordered.map Segment.netKey).Nodup) (pid : String) :
    (∃ label family roles ifaces, Element.host (hostId pid) label pid family roles true ifaces ∈
        (topologyOf hosts onlineById ordered).elements) ↔
      2 ≤ (topologyOf hosts onlineById ordered).subnetsOf (hostId pid) := by
  rw [subnetsOf_hostId hkeys]
  simp only [host_mem_elements]
  constructor
  · rintro ⟨label, family, roles, ifaces, _, heq⟩
    simp only [hostElement, Element.host.injEq] at heq
    exact of_decide_eq_true heq.2.2.2.2.2.1
  · intro htwo
    obtain ⟨s, hs, hpid⟩ := List.countP_pos_iff.mp (Nat.lt_of_lt_of_le Nat.zero_lt_two htwo)
    have hmem : pid ∈ sortedHosts ordered := mem_sortedHosts.mpr ⟨s, hs, of_decide_eq_true hpid⟩
    have hmulti : decide (2 ≤ hostSubnetCount ordered pid) = true := decide_eq_true htwo
    exact ⟨_, _, _, _, hmem, congrArg
      (fun multi => Element.host (hostId pid) _ pid _ _ multi _) hmulti⟩

/-- The rows of the tables say the same. -/
lemma multiHomed_row (hkeys : (ordered.map Segment.netKey).Nodup) :
    ∀ group ∈ (topologyOf hosts onlineById ordered).subnets, ∀ row ∈ group.hosts,
      row.multiHomed = true ↔
        2 ≤ (topologyOf hosts onlineById ordered).subnetsOf (hostId row.publicId) := by
  intro group hgroup row hrow
  obtain ⟨s, _, rfl⟩ := List.mem_map.mp hgroup
  obtain ⟨pid, _, rfl⟩ := List.mem_map.mp ((subnetGroup_hosts_perm s).mem_iff.mp hrow)
  rw [subnetsOf_hostId hkeys]
  exact decide_eq_true_iff

/-! ### Gateways -/

lemma gateway_mem_elements {id gw : String} {n : ℕ} :
    Element.gateway id gw n ∈ (topologyOf hosts onlineById ordered).elements ↔
      gw ∈ sharedGws ordered ∧ id = gatewayId gw ∧ n = gwSubnetCount ordered gw := by
  simp only [topologyOf, List.mem_append]
  constructor
  · rintro (((he | he) | he) | he)
    · obtain ⟨s, _, he⟩ := List.mem_flatMap.mp he
      simp [subnetElements] at he
    · obtain ⟨gw', hgw, he⟩ := List.mem_map.mp he
      simp only [gatewayElement, Element.gateway.injEq] at he
      obtain ⟨rfl, rfl, rfl⟩ := he
      exact ⟨hgw, rfl, rfl⟩
    · obtain ⟨pid, _, he⟩ := List.mem_map.mp he
      simp [hostElement] at he
    · obtain ⟨s, _, he⟩ := List.mem_flatMap.mp he
      simp [memberElements] at he
  · rintro ⟨hgw, rfl, rfl⟩
    exact .inl (.inl (.inr (List.mem_map.mpr ⟨gw, hgw, rfl⟩)))

/-- The graph of proper segments is well formed. -/
lemma wellFormed_topologyOf (hproper : ∀ s ∈ ordered, s.Proper hosts)
    (hkeys : (ordered.map Segment.netKey).Nodup)
    (hhosts : (hosts.map TopologyHost.publicId).Nodup) :
    (topologyOf hosts onlineById ordered).WellFormed hosts where
  nodeIds := nodeIds_nodup hkeys
  ends := ends_mem
  subnets := subnets_agree hproper hkeys
  hostCounts := hostCounts hproper hhosts
  multiHomed h _ := multiHomed_iff hkeys h.publicId
  multiHomedRows := multiHomed_row hkeys
  gateways id gw n := by
    rw [gateway_mem_elements, gatewaySubnets_topologyOf, mem_sharedGws hproper]
    constructor
    · rintro ⟨htwo, rfl, rfl⟩
      exact ⟨rfl, rfl, htwo⟩
    · rintro ⟨rfl, rfl, htwo⟩
      exact ⟨htwo, rfl, rfl⟩

end Proper

/-- The segments are only put in order. -/
lemma orderedNets_perm {segments ordered : List Segment}
    (h : orderedNets segments = some ordered) : ordered.Perm segments := by
  unfold orderedNets at h
  split_ifs at h
  rw [← Option.some_inj.mp h]
  exact List.perm_insertionSort _ _

/-- The topology of hosts with different ids is well formed; and there is one where labels hold. -/
theorem buildNetworkTopology_wellFormed {hosts : List TopologyHost}
    (hhosts : (hosts.map TopologyHost.publicId).Nodup) (onlineById : Option (List (ℤ × Bool))) :
    (∀ t, buildNetworkTopology hosts onlineById = some t → t.WellFormed hosts) ∧
      (LabelsHold hosts → (buildNetworkTopology hosts onlineById).isSome = true) := by
  refine ⟨fun t hresult => ?_, fun hlabels => buildNetworkTopology_isSome hlabels onlineById⟩
  obtain ⟨ordered, hordered, rfl⟩ := Option.map_eq_some_iff.mp hresult
  obtain ⟨hkeys, hproper⟩ := survivingSegments_spec hosts
  have hperm := orderedNets_perm hordered
  refine wellFormed_topologyOf (fun s hs => hproper s (hperm.mem_iff.mp hs)) ?_ hhosts
  exact (hperm.map _).nodup_iff.mpr hkeys

/-- An interface with an IPv4 address. -/
def sampleInterface (address : String) (gateway : Option String) : TopologyInterface where
  name := "eth0"
  id := none
  idType := none
  kind := "physical"
  mtu := some 1500
  speedMbps := none
  gateway := gateway
  addresses := [⟨"ipv4", address, some 24, none⟩]

/-- Two hosts that share two subnets and a gateway, and a third behind another gateway. -/
def sampleHosts : List TopologyHost :=
  [⟨1, "a", "web-1", "linux", some ["web"],
      [sampleInterface "10.0.1.10" "10.0.1.1", sampleInterface "10.0.2.10" "10.0.1.1"]⟩,
    ⟨2, "b", "web-2", "linux", none,
      [sampleInterface "10.0.1.9" "10.0.1.1", sampleInterface "10.0.2.5" "10.0.1.1"]⟩,
    ⟨3, "c", "db-1", none, none, [sampleInterface "10.0.1.7" "10.0.1.2"]⟩]

theorem sampleHosts_wellFormed :
    ∃ t, buildNetworkTopology sampleHosts none = some t ∧ t.WellFormed sampleHosts ∧
      t.hostCount = 2 ∧ t.isolatedCount = 1 ∧ t.routerCount = 1 := by
  have hholds := @buildNetworkTopology_wellFormed sampleHosts (by decide +kernel) none
  have hsome : (buildNetworkTopology sampleHosts none).isSome = true :=
    hholds.2 (by decide +kernel)
  exact ⟨_, (Option.some_get hsome).symm, hholds.1 _ (Option.some_get hsome).symm,
    by clear hholds; decide +kernel +revert⟩

end AssessmentEngine
