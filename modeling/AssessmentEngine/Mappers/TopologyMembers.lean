import AssessmentEngine.Library.CountedOnce
import AssessmentEngine.Mappers.TopologySegments

/-!
# Who is a member of a segment

A host is counted in a subnet by its first eligible address there, before the subnet is split by
gateway.  A host with addresses behind several gateways of the subnet is then a member of one part
only, and which one depends on the order of its interfaces.  Members are as they should be for
every order exactly when the hosts of each subnet, with the gateways of their addresses as options,
are settled (`nobodyMissing_iff`).
-/

namespace AssessmentEngine

open IpAddress SetDefault CountedOnce

/-! ## What is said of members -/

/-- Host and segment of each membership that is emitted. -/
def segmentPairs (hosts : List TopologyHost) : List (String × String) :=
  ((survivingSegments hosts).map Prod.snd).flatMap fun s => s.pids.map fun pid => (pid, s.netKey)

/-- Whoever has an eligible address in the subnet of a segment, on an interface with its gateway,
is a member. -/
def NobodyMissing (hosts : List TopologyHost) : Prop :=
  ∀ s ∈ (survivingSegments hosts).map Prod.snd, ∀ gw ∈ s.gateway, ∀ h ∈ hosts,
    ∀ iface ∈ h.interfaces, iface.gateway = some gw → ∀ a ∈ iface.addresses,
      ∀ m ∈ membership h.publicId iface a, m.1.text = s.network.text → h.publicId ∈ s.pids

instance (hosts : List TopologyHost) : Decidable (NobodyMissing hosts) :=
  inferInstanceAs (Decidable (∀ s ∈ (survivingSegments hosts).map Prod.snd, _))

/-- The interface with its addresses in another order. -/
def TopologyInterface.Reordered (iface iface' : TopologyInterface) : Prop :=
  ∃ addresses, iface.addresses.Perm addresses ∧ iface' = { iface with addresses }

/-- The host with its interfaces, and their addresses, in another order. -/
def TopologyHost.Reordered (h h' : TopologyHost) : Prop :=
  ∃ between netInterfaces, List.Forall₂ TopologyInterface.Reordered h.netInterfaces between ∧
    between.Perm netInterfaces ∧ h' = { h with netInterfaces }

/-- The memberships are the same for every order inside the hosts. -/
def OrderFree (hosts : List TopologyHost) : Prop :=
  ∀ hosts', List.Forall₂ TopologyHost.Reordered hosts hosts' →
    ∀ pair, pair ∈ segmentPairs hosts' ↔ pair ∈ segmentPairs hosts

/-- The pairs are the member edges of the graph. -/
lemma member_mem_elements {hosts : List TopologyHost} {onlineById : Option (List (ℤ × Bool))}
    {t : NetworkTopology} (ht : buildNetworkTopology hosts onlineById = some t)
    {source target : String} : Element.member source target ∈ t.elements ↔
      ∃ pair ∈ segmentPairs hosts, source = hostId pair.1 ∧ target = subnetId pair.2 := by
  obtain ⟨ordered, hordered, rfl⟩ := Option.map_eq_some_iff.mp ht
  have hperm := orderedNets_perm hordered
  have hsubnets : Element.member source target ∉ ordered.flatMap (subnetElements ordered) := by
    simp [subnetElements]
  have hgateways : Element.member source target ∉
      (sharedGws ordered).map (gatewayElement ordered) := by
    simp [gatewayElement]
  have hhosts : Element.member source target ∉
      ((graphHosts ordered).insertionSort (· ≤ ·)).map (hostElement hosts ordered) := by
    simp [hostElement]
  simp only [topologyOf, List.mem_append, hsubnets, hgateways, hhosts, false_or]
  rw [(hperm.flatMap_right _).mem_iff, segmentPairs]
  simp only [List.mem_flatMap, memberElements, List.mem_map, Element.member.injEq]
  constructor
  · rintro ⟨s, hs, pid, hpid, rfl, rfl⟩
    exact ⟨(pid, s.netKey), ⟨s, hs, pid, hpid, rfl⟩, rfl, rfl⟩
  · rintro ⟨pair, ⟨s, hs, pid, hpid, rfl⟩, rfl, rfl⟩
    exact ⟨s, hs, pid, hpid, rfl, rfl⟩

/-! ## Hosts as parties -/

/-- A gateway that names none when it is empty. -/
def Member.named (m : Member) : Option String := m.gateway.filter (· ≠ "")

/-- The gateways of the eligible addresses of a host in a subnet. -/
def TopologyHost.gatewaysIn (h : TopologyHost) (subnet : String) : List (Option String) :=
  (h.eligible.filter fun m => m.1.text == subnet).map fun m => m.2.named

/-- The hosts with eligible addresses in a subnet, and the gateways of these. -/
def partiesIn (hosts : List TopologyHost) (subnet : String) :
    List (String × List (Option String)) :=
  (hosts.map fun h => (h.publicId, h.gatewaysIn subnet)).filter fun party => !party.2.isEmpty

/-- The gateways by which the hosts of a subnet are counted. -/
def chosenIn (hosts : List TopologyHost) (subnet : String) : List (String × Option String) :=
  (countedIn hosts subnet).map fun m => (m.2.pid, m.2.named)

lemma named_eq_some {m : Member} {gw : String} :
    m.named = some gw ↔ m.gateway = some gw ∧ gw ≠ "" := by
  rw [Member.named, Option.filter_eq_some_iff]
  simp

lemma partiesIn_cons (h : TopologyHost) (hosts : List TopologyHost) (subnet : String) :
    partiesIn (h :: hosts) subnet =
      if h.gatewaysIn subnet = [] then partiesIn hosts subnet
      else (h.publicId, h.gatewaysIn subnet) :: partiesIn hosts subnet := by
  unfold partiesIn
  rw [List.map_cons, List.filter_cons]
  cases h.gatewaysIn subnet <;> simp

lemma partiesIn_options (hosts : List TopologyHost) (subnet : String) :
    ∀ party ∈ partiesIn hosts subnet, party.2 ≠ [] := by
  intro party hparty hnil
  have hnonempty := (List.mem_filter.mp hparty).2
  rw [hnil] at hnonempty
  exact absurd hnonempty (by simp)

lemma mem_partiesIn {hosts : List TopologyHost} {h : TopologyHost} (hh : h ∈ hosts)
    {subnet : String} (hsome : h.gatewaysIn subnet ≠ []) :
    (h.publicId, h.gatewaysIn subnet) ∈ partiesIn hosts subnet := by
  refine List.mem_filter.mpr ⟨List.mem_map_of_mem hh, ?_⟩
  simpa using hsome

/-- A host is counted when it has a gateway to be counted by, and by one of these. -/
lemma firstIn_cases (h : TopologyHost) (subnet : String) :
    (h.gatewaysIn subnet = [] ∧ h.firstIn subnet = none) ∨
      ∃ m, h.firstIn subnet = some m ∧ m.2.named ∈ h.gatewaysIn subnet := by
  unfold TopologyHost.gatewaysIn
  cases hfirst : h.firstIn subnet with
  | none =>
    refine .inl ⟨?_, rfl⟩
    rw [TopologyHost.firstIn, List.find?_eq_none] at hfirst
    rw [List.filter_eq_nil_iff.mpr hfirst, List.map_nil]
  | some m =>
    refine .inr ⟨m, rfl, List.mem_map_of_mem (f := fun m : Network × Member => m.2.named) ?_⟩
    obtain ⟨hmem, htext⟩ := firstIn_eq_some hfirst
    exact List.mem_filter.mpr ⟨hmem, beq_iff_eq.mpr htext⟩

/-! ## The order inside a host -/

lemma TopologyInterface.Reordered.kind {iface iface' : TopologyInterface}
    (h : iface.Reordered iface') : iface'.kind = iface.kind := by
  obtain ⟨_, -, rfl⟩ := h
  rfl

lemma interfaces_reordered_self (ifaces : List TopologyInterface) :
    List.Forall₂ TopologyInterface.Reordered ifaces ifaces :=
  List.forall₂_same.mpr fun iface _ => ⟨iface.addresses, .refl _, rfl⟩

lemma TopologyHost.reordered_self (h : TopologyHost) : h.Reordered h :=
  ⟨h.netInterfaces, h.netInterfaces, interfaces_reordered_self _, .refl _, rfl⟩

lemma TopologyHost.Reordered.publicId {h h' : TopologyHost} (hre : h.Reordered h') :
    h'.publicId = h.publicId := by
  obtain ⟨_, _, -, -, rfl⟩ := hre
  rfl

lemma eligible_reordered (pid : String) {ifaces ifaces' : List TopologyInterface}
    (h : List.Forall₂ TopologyInterface.Reordered ifaces ifaces') :
    ((ifaces'.filter fun iface => !isVirtualInterface iface.kind).flatMap fun iface =>
        iface.addresses.filterMap (membership pid iface)).Perm
      ((ifaces.filter fun iface => !isVirtualInterface iface.kind).flatMap fun iface =>
        iface.addresses.filterMap (membership pid iface)) := by
  induction h with
  | nil => exact .refl _
  | @cons iface iface' ifaces ifaces' hiface hrest ih =>
    rw [List.filter_cons, List.filter_cons, hiface.kind]
    split_ifs
    · rw [List.flatMap_cons, List.flatMap_cons]
      obtain ⟨addresses, haddresses, rfl⟩ := hiface
      exact (haddresses.symm.filterMap _).append ih
    · exact ih

/-- In another order a host has the same eligible addresses. -/
lemma TopologyHost.Reordered.eligible {h h' : TopologyHost} (hre : h.Reordered h') :
    h'.eligible.Perm h.eligible := by
  obtain ⟨between, netInterfaces, hifaces, hperm, rfl⟩ := hre
  exact (((hperm.filter _).symm).flatMap_right _).trans (eligible_reordered h.publicId hifaces)

lemma TopologyHost.Reordered.gatewaysIn {h h' : TopologyHost} (hre : h.Reordered h')
    (subnet : String) : (h'.gatewaysIn subnet).Perm (h.gatewaysIn subnet) :=
  (hre.eligible.filter _).map _

/-- In any order the hosts are counted by a choice of their gateways. -/
lemma isChoice_chosenIn {hosts hosts' : List TopologyHost}
    (hre : List.Forall₂ TopologyHost.Reordered hosts hosts') (subnet : String) :
    IsChoice (partiesIn hosts subnet) (chosenIn hosts' subnet) := by
  induction hre with
  | nil => exact .nil
  | @cons h h' hosts hosts' hhost hrest ih =>
    have hperm := hhost.gatewaysIn subnet
    rw [partiesIn_cons]
    unfold chosenIn countedIn
    rw [List.filterMap_cons]
    rcases firstIn_cases h' subnet with ⟨hnil, hfirst⟩ | ⟨m, hfirst, hmem⟩
    · rw [hfirst, if_pos (hnil ▸ hperm).nil_eq.symm]
      exact ih
    · have hoption : m.2.named ∈ h.gatewaysIn subnet := hperm.mem_iff.mp hmem
      rw [hfirst, if_neg (List.ne_nil_of_mem hoption)]
      refine .cons ⟨?_, hoption⟩ ih
      exact (eligible_pid (firstIn_eq_some hfirst).1).trans hhost.publicId

/-- A host can be counted by any of its gateways. -/
lemma exists_reordered {h : TopologyHost} {subnet : String} {o : Option String}
    (ho : o ∈ h.gatewaysIn subnet) :
    ∃ h', h.Reordered h' ∧ ∃ m, h'.firstIn subnet = some m ∧ m.2.named = o := by
  obtain ⟨m, hm, rfl⟩ := List.mem_map.mp ho
  obtain ⟨hm, htext⟩ := List.mem_filter.mp hm
  obtain ⟨iface, hiface, a, ha, hmembership⟩ := eligible_spec hm
  obtain ⟨hmem, hphysical⟩ := List.mem_filter.mp hiface
  obtain ⟨before, after, hsplit⟩ := List.append_of_mem hmem
  refine ⟨{ h with netInterfaces := iface :: (before ++ after) },
    ⟨h.netInterfaces, _, interfaces_reordered_self _, hsplit ▸ List.perm_middle, rfl⟩, ?_⟩
  have hin : m ∈ iface.addresses.filterMap (membership h.publicId iface) :=
    List.mem_filterMap.mpr ⟨a, ha, hmembership⟩
  have hfound : ((iface.addresses.filterMap (membership h.publicId iface)).find?
      fun m => m.1.text == subnet).isSome = true :=
    List.find?_isSome.mpr ⟨m, hin, htext⟩
  obtain ⟨first, hfirst⟩ := Option.isSome_iff_exists.mp hfound
  have heligible : ({ h with netInterfaces := iface :: (before ++ after) } :
      TopologyHost).eligible = iface.addresses.filterMap (membership h.publicId iface) ++
        ({ h with netInterfaces := before ++ after } : TopologyHost).eligible := by
    unfold TopologyHost.eligible TopologyHost.interfaces
    simp only [List.filter_cons, hphysical, if_true, List.flatMap_cons]
  refine ⟨first, ?_, ?_⟩
  · rw [TopologyHost.firstIn, heligible, List.find?_append, hfirst, Option.some_or]
  · obtain ⟨a', -, hmembership'⟩ := List.mem_filterMap.mp (List.mem_of_find?_eq_some hfirst)
    rw [Member.named, Member.named, (membership_eq_some hmembership').2,
      (membership_eq_some hmembership).2]

/-- Every choice is made in some order. -/
lemma exists_chosenIn {hosts : List TopologyHost} {subnet : String}
    {choice : List (String × Option String)} (hchoice : IsChoice (partiesIn hosts subnet) choice) :
    ∃ hosts', List.Forall₂ TopologyHost.Reordered hosts hosts' ∧
      chosenIn hosts' subnet = choice := by
  induction hosts generalizing choice with
  | nil =>
    cases hchoice
    exact ⟨[], .nil, rfl⟩
  | cons h hosts ih =>
    rw [partiesIn_cons] at hchoice
    split_ifs at hchoice with hnil
    · obtain ⟨hosts', hre, hchosen⟩ := ih hchoice
      refine ⟨h :: hosts', .cons h.reordered_self hre, ?_⟩
      rcases firstIn_cases h subnet with ⟨-, hfirst⟩ | ⟨m, -, hmem⟩
      · unfold chosenIn countedIn at hchosen ⊢
        rw [List.filterMap_cons, hfirst]
        exact hchosen
      · exact absurd hmem (by simp [hnil])
    · cases hchoice with
      | @cons _ c _ rest hcounted hrest =>
        obtain ⟨hname, hoption⟩ := hcounted
        have hname : c.1 = h.publicId := hname
        obtain ⟨hosts', hre, hchosen⟩ := ih hrest
        obtain ⟨h', hhost, m, hfirst, hnamed⟩ := exists_reordered hoption
        refine ⟨h' :: hosts', .cons hhost hre, ?_⟩
        unfold chosenIn countedIn at hchosen ⊢
        rw [List.filterMap_cons, hfirst, List.map_cons, hchosen, hnamed,
          eligible_pid (firstIn_eq_some hfirst).1, hhost.publicId, ← hname]

/-! ## Members and their segments -/

section Members

variable {hosts : List TopologyHost} {subnet : String}

lemma mem_chosenIn {pid : String} {o : Option String} :
    (pid, o) ∈ chosenIn hosts subnet ↔
      ∃ m ∈ (countedIn hosts subnet).map Prod.snd, m.pid = pid ∧ m.named = o := by
  rw [chosenIn, List.mem_map]
  constructor
  · rintro ⟨m, hm, heq⟩
    exact ⟨m.2, List.mem_map_of_mem hm, (Prod.mk.inj heq).1, (Prod.mk.inj heq).2⟩
  · rintro ⟨m, hm, rfl, rfl⟩
    obtain ⟨found, hfound, rfl⟩ := List.mem_map.mp hm
    exact ⟨found, hfound, rfl⟩

lemma mem_gatewaysOf {members : List Member} {gw : String} :
    gw ∈ gatewaysOf members ↔ ∃ m ∈ members, m.named = some gw := by
  rw [gatewaysOf, List.mem_dedup, List.mem_filterMap]
  rfl

lemma two_le_length_iff {α : Type*} {l : List α} (hl : l.Nodup) :
    2 ≤ l.length ↔ ∃ a ∈ l, ∃ b ∈ l, a ≠ b := by
  constructor
  · intro h
    match l, hl, h with
    | a :: b :: rest, hl, _ =>
      refine ⟨a, by simp, b, by simp, ?_⟩
      rintro rfl
      exact (List.nodup_cons.mp hl).1 List.mem_cons_self
  · rintro ⟨a, ha, b, hb, hne⟩
    match l, ha, hb with
    | [c], ha, hb =>
      rw [List.mem_singleton] at ha hb
      exact absurd (ha.trans hb.symm) hne
    | _ :: _ :: _, _, _ => exact Nat.le_add_left 2 _

/-- A subnet is split where those that are counted in it are. -/
lemma two_le_gateways_iff :
    2 ≤ (gatewaysOf ((countedIn hosts subnet).map Prod.snd)).length ↔
      Splits (chosenIn hosts subnet) := by
  have hnodup : (gatewaysOf ((countedIn hosts subnet).map Prod.snd)).Nodup := List.nodup_dedup _
  rw [two_le_length_iff hnodup]
  constructor
  · rintro ⟨gw, hgw, gw', hgw', hne⟩
    obtain ⟨m, hm, hnamed⟩ := mem_gatewaysOf.mp hgw
    obtain ⟨m', hm', hnamed'⟩ := mem_gatewaysOf.mp hgw'
    exact ⟨gw, gw', m.pid, m'.pid, hne, mem_chosenIn.mpr ⟨m, hm, rfl, hnamed⟩,
      mem_chosenIn.mpr ⟨m', hm', rfl, hnamed'⟩⟩
  · rintro ⟨gw, gw', pid, pid', hne, hmem, hmem'⟩
    obtain ⟨m, hm, -, hnamed⟩ := mem_chosenIn.mp hmem
    obtain ⟨m', hm', -, hnamed'⟩ := mem_chosenIn.mp hmem'
    exact ⟨gw, mem_gatewaysOf.mpr ⟨m, hm, hnamed⟩, gw', mem_gatewaysOf.mpr ⟨m', hm', hnamed'⟩,
      hne⟩

lemma mem_keys_byPid {members : List Member} {pid : String} :
    pid ∈ (byPid members).map Prod.fst ↔ ∃ m ∈ members, m.pid = pid := by
  have hlookup : pid ∈ (byPid members).map Prod.fst ↔
      ((byPid members).lookup pid).isSome = true := by
    rw [List.lookup_isSome_iff, List.mem_map]
    exact exists_congr fun e => and_congr_right fun _ => by rw [beq_iff_eq, eq_comm]
  rw [hlookup, byPid, lookup_fill_first, List.find?_isSome]
  simp only [beq_iff_eq]

lemma mem_pids_byPid {s : Segment} {members : List Member} (hs : s.members = byPid members)
    {pid : String} : pid ∈ s.pids ↔ ∃ m ∈ members, m.pid = pid := by
  rw [s.pids_perm.mem_iff, hs, mem_keys_byPid]

/-- A segment of two or more hosts has those of its members. -/
lemma member_iff {s : Segment} {members : List Member} (hs : s.members = byPid members)
    {pid : String} : (2 ≤ s.members.length ∧ pid ∈ s.pids) ↔
      (∃ m ∈ members, m.pid = pid) ∧ ∃ m ∈ members, m.pid ≠ pid := by
  have hlength : s.members.length = ((byPid members).map Prod.fst).length := by
    rw [hs, List.length_map]
  rw [hlength, two_le_length_iff (byPid_nodup members), mem_pids_byPid hs]
  simp only [mem_keys_byPid]
  constructor
  · rintro ⟨⟨a, ⟨m, hm, rfl⟩, b, ⟨m', hm', rfl⟩, hne⟩, hpid⟩
    refine ⟨hpid, ?_⟩
    by_cases heq : m.pid = pid
    · exact ⟨m', hm', fun h => hne (heq.trans h.symm)⟩
    · exact ⟨m, hm, heq⟩
  · rintro ⟨hpid, m, hm, hne⟩
    exact ⟨⟨m.pid, ⟨m, hm, rfl⟩, pid, hpid, hne⟩, hpid⟩

lemma partKey_ne (subnet gw : String) : partKey subnet gw ≠ subnet := by
  intro h
  have hlength := congrArg (fun text : String => text.toList.length) h
  simp [toList_partKey] at hlength

/-- The members of the whole of a subnet. -/
lemma whole_iff {pid : String} :
    (∃ s ∈ segmentsIn hosts subnet, (2 ≤ s.members.length ∧ pid ∈ s.pids) ∧ s.netKey = subnet) ↔
      InWhole (chosenIn hosts subnet) pid := by
  have hcounted : ((∃ m ∈ (countedIn hosts subnet).map Prod.snd, m.pid = pid) ∧
      ∃ m ∈ (countedIn hosts subnet).map Prod.snd, m.pid ≠ pid) ↔
        ((∃ o, (pid, o) ∈ chosenIn hosts subnet) ∧
          ∃ q o, q ≠ pid ∧ (q, o) ∈ chosenIn hosts subnet) := by
    simp only [mem_chosenIn]
    constructor
    · rintro ⟨⟨m, hm, hpid⟩, m', hm', hne⟩
      exact ⟨⟨m.named, m, hm, hpid, rfl⟩, m'.pid, m'.named, hne, m', hm', rfl, rfl⟩
    · rintro ⟨⟨o, m, hm, hpid, -⟩, q, o', hne, m', hm', rfl, -⟩
      exact ⟨⟨m, hm, hpid⟩, m', hm', hne⟩
  unfold InWhole
  rw [← two_le_gateways_iff, ← hcounted]
  constructor
  · rintro ⟨s, hs, hmember, hkey⟩
    obtain ⟨-, first, -, hs⟩ := mem_segmentsIn hs
    unfold splitByGateway at hs
    simp only at hs
    split_ifs at hs with hseveral
    · obtain ⟨gw, -, rfl⟩ := List.mem_map.mp hs
      exact absurd hkey (partKey_ne subnet gw)
    · rw [List.mem_singleton.mp hs] at hmember
      exact ⟨hseveral, (member_iff rfl).mp hmember⟩
  · rintro ⟨hseveral, hmembers⟩
    unfold segmentsIn
    cases hlist : countedIn hosts subnet with
    | nil => simp [hlist] at hmembers
    | cons first rest =>
      rw [hlist] at hseveral hmembers
      refine ⟨⟨subnet, subnet, first.1, (gatewaysOf ((first :: rest).map Prod.snd)).head?,
        byPid ((first :: rest).map Prod.snd)⟩, ?_, (member_iff rfl).mpr hmembers, rfl⟩
      simp only [splitByGateway]
      rw [if_neg hseveral]
      exact List.mem_singleton_self _

/-- The members of a part of a subnet. -/
lemma part_iff {pid gw : String} :
    (∃ s ∈ segmentsIn hosts subnet,
        (2 ≤ s.members.length ∧ pid ∈ s.pids) ∧ s.netKey = partKey subnet gw) ↔
      InPart (chosenIn hosts subnet) gw pid := by
  have hcounted (hgw : gw ≠ "") :
      ((∃ m ∈ ((countedIn hosts subnet).map Prod.snd).filter
          (fun m => m.gateway = some gw), m.pid = pid) ∧
        ∃ m ∈ ((countedIn hosts subnet).map Prod.snd).filter
          (fun m => m.gateway = some gw), m.pid ≠ pid) ↔
        ((pid, some gw) ∈ chosenIn hosts subnet ∧
          ∃ q, q ≠ pid ∧ (q, some gw) ∈ chosenIn hosts subnet) := by
    simp only [mem_chosenIn, named_eq_some, List.mem_filter, decide_eq_true_eq]
    constructor
    · rintro ⟨⟨m, ⟨hm, hgateway⟩, hpid⟩, m', ⟨hm', hgateway'⟩, hne⟩
      exact ⟨⟨m, hm, hpid, hgateway, hgw⟩, m'.pid, hne, m', hm', rfl, hgateway', hgw⟩
    · rintro ⟨⟨m, hm, hpid, hgateway, -⟩, q, hne, m', hm', rfl, hgateway', -⟩
      exact ⟨⟨m, ⟨hm, hgateway⟩, hpid⟩, m', ⟨hm', hgateway'⟩, hne⟩
  unfold InPart
  rw [← two_le_gateways_iff]
  constructor
  · rintro ⟨s, hs, hmember, hkey⟩
    obtain ⟨-, first, -, hs⟩ := mem_segmentsIn hs
    unfold splitByGateway at hs
    simp only at hs
    split_ifs at hs with hseveral
    · obtain ⟨gw', hgw', rfl⟩ := List.mem_map.mp hs
      obtain rfl : gw' = gw := (String.append_right_inj _).mp hkey
      have hne := ne_empty_of_mem_gatewaysOf ((List.perm_insertionSort _ _).mem_iff.mp hgw')
      exact ⟨hseveral, (hcounted hne).mp ((member_iff rfl).mp hmember)⟩
    · rw [List.mem_singleton.mp hs] at hkey
      exact absurd hkey.symm (partKey_ne subnet gw)
  · rintro ⟨hseveral, hmembers⟩
    obtain ⟨m, hm, -, hnamed⟩ := mem_chosenIn.mp hmembers.1
    have hgw : gw ∈ gatewaysOf ((countedIn hosts subnet).map Prod.snd) :=
      mem_gatewaysOf.mpr ⟨m, hm, hnamed⟩
    have hmember := (hcounted (named_eq_some.mp hnamed).2).mpr hmembers
    unfold segmentsIn
    cases hlist : countedIn hosts subnet with
    | nil => simp [hlist] at hm
    | cons first rest =>
      rw [hlist] at hseveral hmember hgw
      refine ⟨⟨partKey subnet gw, subnet ++ " (via " ++ gw ++ ")", first.1, some gw,
        byPid (((first :: rest).map Prod.snd).filter fun m => m.gateway = some gw)⟩, ?_,
        (member_iff rfl).mpr hmember, rfl⟩
      simp only [splitByGateway]
      rw [if_pos hseveral]
      exact List.mem_map.mpr ⟨gw, (List.perm_insertionSort _ _).mem_iff.mpr hgw, rfl⟩

lemma mem_segmentPairs {pid key : String} :
    (pid, key) ∈ segmentPairs hosts ↔ ∃ subnet, ∃ s ∈ segmentsIn hosts subnet,
      (2 ≤ s.members.length ∧ pid ∈ s.pids) ∧ s.netKey = key := by
  unfold segmentPairs
  rw [survivingSegments_eq, List.mem_flatMap]
  constructor
  · rintro ⟨s, hs, hpair⟩
    obtain ⟨hs, htwo⟩ := List.mem_filter.mp hs
    obtain ⟨subnet, -, hs⟩ := List.mem_flatMap.mp hs
    obtain ⟨pid', hpid, heq⟩ := List.mem_map.mp hpair
    obtain ⟨rfl, rfl⟩ := Prod.mk.inj heq
    exact ⟨subnet, s, hs, ⟨of_decide_eq_true htwo, hpid⟩, rfl⟩
  · rintro ⟨subnet, s, hs, ⟨htwo, hpid⟩, rfl⟩
    refine ⟨s, List.mem_filter.mpr ⟨?_, decide_eq_true htwo⟩, List.mem_map_of_mem hpid⟩
    exact List.mem_flatMap.mpr ⟨subnet, (mem_segmentsIn hs).1, hs⟩

/-- What is emitted is what the subnets give, under the keys of whole and parts. -/
lemma mem_segmentPairs_iff {pid key : String} :
    (pid, key) ∈ segmentPairs hosts ↔
      ∃ subnet, (key = subnet ∧ InWhole (chosenIn hosts subnet) pid) ∨
        ∃ gw, key = partKey subnet gw ∧ InPart (chosenIn hosts subnet) gw pid := by
  rw [mem_segmentPairs]
  apply exists_congr
  intro subnet
  simp only [← whole_iff, ← part_iff]
  constructor
  · rintro ⟨s, hs, hmember, rfl⟩
    obtain ⟨-, first, -, hsplit⟩ := mem_segmentsIn hs
    rcases splitByGateway_netKey hsplit with hkey | ⟨gw, hkey⟩
    · exact .inl ⟨hkey, s, hs, hmember, hkey⟩
    · exact .inr ⟨gw, hkey, s, hs, hmember, hkey⟩
  · rintro (⟨rfl, s, hs, hmember, hkey⟩ | ⟨gw, rfl, s, hs, hmember, hkey⟩)
    · exact ⟨s, hs, hmember, hkey⟩
    · exact ⟨s, hs, hmember, hkey⟩

/-- Where a host is counted the subnet is the text of a network. -/
lemma text_of_mem_chosenIn {c : String × Option String} (hc : c ∈ chosenIn hosts subnet) :
    ∃ n : Network, n.address.ScopeOk ∧ n.text = subnet := by
  obtain ⟨m, hm, -⟩ := List.mem_map.mp hc
  exact ⟨m.1, (mem_countedIn hm).2, (mem_countedIn hm).1⟩

lemma text_of_inWhole {pid : String} (h : InWhole (chosenIn hosts subnet) pid) :
    ∃ n : Network, n.address.ScopeOk ∧ n.text = subnet := by
  obtain ⟨-, ⟨o, hmem⟩, -⟩ := h
  exact text_of_mem_chosenIn hmem

lemma text_of_inPart {pid gw : String} (h : InPart (chosenIn hosts subnet) gw pid) :
    ∃ n : Network, n.address.ScopeOk ∧ n.text = subnet :=
  text_of_mem_chosenIn h.2.1

/-- The key of the whole of a subnet is that of nothing else. -/
lemma mem_segmentPairs_whole {pid : String} {n : Network} (hn : n.address.ScopeOk) :
    (pid, n.text) ∈ segmentPairs hosts ↔ InWhole (chosenIn hosts n.text) pid := by
  rw [mem_segmentPairs_iff]
  constructor
  · rintro ⟨subnet, ⟨rfl, hwhole⟩ | ⟨gw, hkey, hpart⟩⟩
    · exact hwhole
    · obtain ⟨m, hm, rfl⟩ := text_of_inPart hpart
      have hlists := congrArg String.toList hkey
      rw [toList_partKey] at hlists
      exact absurd hlists (text_ne_mark hn hm rfl _)
  · exact fun hwhole => ⟨n.text, .inl ⟨rfl, hwhole⟩⟩

lemma mem_segmentPairs_part {pid gw : String} {n : Network} (hn : n.address.ScopeOk) :
    (pid, partKey n.text gw) ∈ segmentPairs hosts ↔ InPart (chosenIn hosts n.text) gw pid := by
  rw [mem_segmentPairs_iff]
  constructor
  · rintro ⟨subnet, ⟨hkey, hwhole⟩ | ⟨gw', hkey, hpart⟩⟩
    · obtain ⟨m, hm, rfl⟩ := text_of_inWhole hwhole
      have hlists := congrArg String.toList hkey
      rw [toList_partKey] at hlists
      exact absurd hlists.symm (text_ne_mark hm hn rfl _)
    · obtain ⟨m, hm, rfl⟩ := text_of_inPart hpart
      have hlists := congrArg String.toList hkey
      rw [toList_partKey, toList_partKey] at hlists
      obtain ⟨htext, hgw⟩ := text_mark_inj hn hm rfl hlists
      rw [htext, String.toList_inj.mp hgw]
      exact hpart
  · exact fun hpart => ⟨n.text, .inr ⟨gw, rfl, hpart⟩⟩

/-- The memberships do not depend on the order inside the hosts exactly when each subnet comes out
the same for every choice. -/
lemma orderFree_iff : OrderFree hosts ↔ ∀ subnet, SameForAll (partiesIn hosts subnet) := by
  have hself : List.Forall₂ TopologyHost.Reordered hosts hosts :=
    List.forall₂_same.mpr fun h _ => h.reordered_self
  have hwhole : ∀ {hosts₁ hosts₂ : List TopologyHost} {subnet pid : String},
      (∀ pair, pair ∈ segmentPairs hosts₁ ↔ pair ∈ segmentPairs hosts₂) →
        InWhole (chosenIn hosts₁ subnet) pid → InWhole (chosenIn hosts₂ subnet) pid := by
    intro hosts₁ hosts₂ subnet pid hsame h
    obtain ⟨n, hn, rfl⟩ := text_of_inWhole h
    exact (mem_segmentPairs_whole hn).mp ((hsame _).mp ((mem_segmentPairs_whole hn).mpr h))
  have hpart : ∀ {hosts₁ hosts₂ : List TopologyHost} {subnet gw pid : String},
      (∀ pair, pair ∈ segmentPairs hosts₁ ↔ pair ∈ segmentPairs hosts₂) →
        InPart (chosenIn hosts₁ subnet) gw pid → InPart (chosenIn hosts₂ subnet) gw pid := by
    intro hosts₁ hosts₂ subnet gw pid hsame h
    obtain ⟨n, hn, rfl⟩ := text_of_inPart h
    exact (mem_segmentPairs_part hn).mp ((hsame _).mp ((mem_segmentPairs_part hn).mpr h))
  constructor
  · intro hfree subnet choice choice' hchoice hchoice'
    obtain ⟨hosts₁, hre, rfl⟩ := exists_chosenIn hchoice
    obtain ⟨hosts₂, hre', rfl⟩ := exists_chosenIn hchoice'
    have hsame : ∀ pair, pair ∈ segmentPairs hosts₁ ↔ pair ∈ segmentPairs hosts₂ :=
      fun pair => (hfree hosts₁ hre pair).trans (hfree hosts₂ hre' pair).symm
    have hsame' := fun pair => (hsame pair).symm
    exact ⟨fun pid => ⟨hwhole hsame, hwhole hsame'⟩, fun gw pid => ⟨hpart hsame, hpart hsame'⟩⟩
  · rintro hsame hosts' hre ⟨pid, key⟩
    rw [mem_segmentPairs_iff, mem_segmentPairs_iff]
    apply exists_congr
    intro subnet
    obtain ⟨hwhole, hpart⟩ := hsame subnet _ _ (isChoice_chosenIn hre subnet)
      (isChoice_chosenIn hself subnet)
    simp only [hwhole, hpart]

/-! ## Nobody is missing -/

/-- In settled subnets nobody is missing. -/
lemma nobodyMissing_of_settled (h : ∀ subnet, CountedOnce.Settled (partiesIn hosts subnet)) :
    NobodyMissing hosts := by
  have hself : List.Forall₂ TopologyHost.Reordered hosts hosts :=
    List.forall₂_same.mpr fun h _ => h.reordered_self
  intro s hs gw hgw host hhost iface hiface hgateway a ha m hm htext
  rw [survivingSegments_eq] at hs
  obtain ⟨hs, htwo⟩ := List.mem_filter.mp hs
  obtain ⟨subnet, -, hs⟩ := List.mem_flatMap.mp hs
  obtain ⟨-, first, hfirst, hsplit⟩ := mem_segmentsIn hs
  rw [splitByGateway_network s hsplit, (mem_countedIn hfirst).1] at htext
  have helig : m ∈ host.eligible :=
    List.mem_flatMap.mpr ⟨iface, hiface, List.mem_filterMap.mpr ⟨a, ha, hm⟩⟩
  have hoption : m.2.named ∈ host.gatewaysIn subnet :=
    List.mem_map_of_mem (f := fun m : Network × Member => m.2.named)
      (List.mem_filter.mpr ⟨helig, beq_iff_eq.mpr htext⟩)
  have hparty := mem_partiesIn hhost (List.ne_nil_of_mem hoption)
  have hchoice := isChoice_chosenIn hself subnet
  unfold splitByGateway at hsplit
  simp only at hsplit
  split_ifs at hsplit with hseveral
  · obtain ⟨gw', hgw', rfl⟩ := List.mem_map.mp hsplit
    obtain rfl : gw' = gw := Option.some_inj.mp hgw
    have hne := ne_empty_of_mem_gatewaysOf ((List.perm_insertionSort _ _).mem_iff.mp hgw')
    have hnamed : m.2.named = some gw' :=
      named_eq_some.mpr ⟨(membership_eq_some hm).2.trans hgateway, hne⟩
    rw [hnamed] at hoption
    -- another host is a member, so that the gateway is shared and the only one of this host
    have hother : ∃ q, q ≠ host.publicId ∧ (q, some gw') ∈ chosenIn hosts subnet := by
      have hpids := (two_le_length_iff (byPid_nodup _)).mp
        (Nat.le_trans (of_decide_eq_true htwo) (List.length_map _).ge)
      obtain ⟨p, hp, q, hq, hpq⟩ := hpids
      obtain ⟨mp, hmp, rfl⟩ := mem_keys_byPid.mp hp
      obtain ⟨mq, hmq, rfl⟩ := mem_keys_byPid.mp hq
      obtain ⟨hmp, hgp⟩ := List.mem_filter.mp hmp
      obtain ⟨hmq, hgq⟩ := List.mem_filter.mp hmq
      by_cases hsame : mp.pid = host.publicId
      · exact ⟨mq.pid, fun heq => hpq (hsame.trans heq.symm), mem_chosenIn.mpr
          ⟨mq, hmq, rfl, named_eq_some.mpr ⟨of_decide_eq_true hgq, hne⟩⟩⟩
      · exact ⟨mp.pid, hsame, mem_chosenIn.mpr
          ⟨mp, hmp, rfl, named_eq_some.mpr ⟨of_decide_eq_true hgp, hne⟩⟩⟩
    obtain ⟨q, hq, hqmem⟩ := hother
    obtain ⟨b, hb, rfl, hgb⟩ := hchoice.mem_of_mem hqmem
    have hsplits := two_le_gateways_iff.mp hseveral
    have hmember : (host.publicId, some gw') ∈ chosenIn hosts subnet := by
      rcases h subnet with hsingle | hone | ⟨-, hshared⟩
      · exact absurd (hsingle b hb _ hparty) hq
      · exact absurd hsplits (not_splits_of_pairwise hone hchoice)
      · obtain ⟨a', ha', hname, honly⟩ := hshared _ hparty b hb hq.symm gw' hoption hgb
        obtain ⟨o, ho, hmem⟩ := hchoice.exists_of_mem ha'
        rwa [honly o ho, hname] at hmem
    obtain ⟨member, hmem, hpid, hgw⟩ := mem_chosenIn.mp hmember
    refine (mem_pids_byPid rfl).mpr ⟨member, List.mem_filter.mpr ⟨hmem, ?_⟩, hpid⟩
    exact decide_eq_true (named_eq_some.mp hgw).1
  · rw [List.mem_singleton.mp hsplit, mem_pids_byPid rfl]
    obtain ⟨o, -, hmem⟩ := hchoice.exists_of_mem hparty
    obtain ⟨member, hmem, hpid, -⟩ := mem_chosenIn.mp hmem
    exact ⟨member, hmem, hpid⟩

end Members

/-- Nobody is missing, and the memberships do not depend on the order inside the hosts, exactly
when every subnet is settled: a single host has eligible addresses there, or no two hosts name
different gateways, or no gateway is open to all hosts and whoever shares a gateway with another
host has no address there without it. -/
theorem nobodyMissing_iff (hosts : List TopologyHost) :
    (NobodyMissing hosts ∧ OrderFree hosts) ↔
      ∀ subnet, CountedOnce.Settled (partiesIn hosts subnet) := by
  rw [orderFree_iff]
  constructor
  · rintro ⟨-, hsame⟩ subnet
    exact (sameForAll_iff (partiesIn_options hosts subnet)).mp (hsame subnet)
  · intro hsettled
    exact ⟨nobodyMissing_of_settled hsettled, fun subnet => sameForAll_of_settled (hsettled subnet)⟩

/-- A host with an interface behind each of two gateways of a subnet, and two hosts behind
either. -/
def dualHosts : List TopologyHost :=
  [⟨1, "x", "edge", "linux", none,
      [sampleInterface "10.0.1.5" "10.0.1.1", sampleInterface "10.0.1.6" "10.0.1.2"]⟩,
    ⟨2, "a", "web-1", "linux", none, [sampleInterface "10.0.1.10" "10.0.1.1"]⟩,
    ⟨3, "b", "web-2", "linux", none, [sampleInterface "10.0.1.11" "10.0.1.1"]⟩,
    ⟨4, "c", "db-1", none, none, [sampleInterface "10.0.1.7" "10.0.1.2"]⟩,
    ⟨5, "d", "db-2", none, none, [sampleInterface "10.0.1.8" "10.0.1.2"]⟩]

/-- The host of both gateways is missing behind the second. -/
theorem dualHosts_missing : ¬NobodyMissing dualHosts := by
  decide +kernel

end AssessmentEngine
