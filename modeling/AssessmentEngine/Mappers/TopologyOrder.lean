import AssessmentEngine.Library.StableSort
import AssessmentEngine.Mappers.TopologySegments

/-!
# The order of the hosts

The topology does not depend on the order in which the hosts are listed.  Their order decides that
of the dictionaries of subnets and members; what the graph reads of a segment (`Segment.view`) is
the same for every order, and segments that tie when the subnets are sorted are parts of one
subnet, in the order of their gateways.
-/

namespace AssessmentEngine

open IpAddress SetDefault StableSort

/-! ## What the graph reads of a segment -/

structure SegmentView where
  netKey : String
  label : String
  network : Network
  gateway : Option String
  pids : List String
  member : String → Option Member

def Segment.view (s : Segment) : SegmentView where
  netKey := s.netKey
  label := s.label
  network := s.network
  gateway := s.gateway
  pids := s.pids
  member pid := s.members.lookup pid

lemma byPid_eq_map {members : List Member} (h : (members.map Member.pid).Nodup) :
    byPid members = members.map fun m => (m.pid, m) :=
  fill_eq_map h

lemma lookup_eq_of_perm {κ β : Type*} [BEq κ] [LawfulBEq κ] {d d' : List (κ × β)}
    (hd : (d.map Prod.fst).Nodup) (hperm : d.Perm d') (k : κ) : d.lookup k = d'.lookup k := by
  have hd' : (d'.map Prod.fst).Nodup := (hperm.map _).nodup_iff.mp hd
  refine Option.ext fun b => ?_
  rw [lookup_eq_some_iff_mem hd, lookup_eq_some_iff_mem hd', hperm.mem_iff]

/-- Segments that differ in the order of their members only are read alike. -/
lemma view_eq_of_perm {netKey label : String} {network : Network} {gateway : Option String}
    {members members' : List Member} (hnodup : (members.map Member.pid).Nodup)
    (hperm : members.Perm members') :
    (Segment.mk netKey label network gateway (byPid members)).view =
      (Segment.mk netKey label network gateway (byPid members')).view := by
  have hnodup' : (members'.map Member.pid).Nodup := (hperm.map _).nodup_iff.mp hnodup
  have hentries : (byPid members).Perm (byPid members') := by
    rw [byPid_eq_map hnodup, byPid_eq_map hnodup']
    exact hperm.map _
  have hpids : ((byPid members).map Prod.fst).insertionSort (· ≤ ·) =
      ((byPid members').map Prod.fst).insertionSort (· ≤ ·) :=
    List.Perm.eq_of_pairwise' (List.pairwise_insertionSort _ _) (List.pairwise_insertionSort _ _)
      ((List.perm_insertionSort _ _).trans
        ((hentries.map _).trans (List.perm_insertionSort _ _).symm))
  rw [Segment.view, Segment.view, SegmentView.mk.injEq]
  refine ⟨rfl, rfl, rfl, rfl, hpids, ?_⟩
  exact funext fun pid => lookup_eq_of_perm (byPid_nodup members) hentries pid

lemma gatewaysOf_perm {members members' : List Member} (hperm : members.Perm members') :
    (gatewaysOf members).Perm (gatewaysOf members') :=
  (hperm.filterMap _).dedup

/-- The parts of a subnet are read alike in whatever order its members stand. -/
lemma map_view_splitByGateway {subnet : String} {network : Network} {members members' : List Member}
    (hnodup : (members.map Member.pid).Nodup) (hperm : members.Perm members') :
    (splitByGateway subnet network members).map Segment.view =
      (splitByGateway subnet network members').map Segment.view := by
  have hgws := gatewaysOf_perm hperm
  have hlength := hgws.length_eq
  unfold splitByGateway
  simp only [hlength]
  split_ifs with hseveral
  · have hsorted : (gatewaysOf members).insertionSort (· ≤ ·) =
        (gatewaysOf members').insertionSort (· ≤ ·) :=
      List.Perm.eq_of_pairwise' (List.pairwise_insertionSort _ _)
        (List.pairwise_insertionSort _ _)
        ((List.perm_insertionSort _ _).trans (hgws.trans (List.perm_insertionSort _ _).symm))
    rw [hsorted, List.map_map, List.map_map]
    apply List.map_congr_left
    intro gw _
    exact view_eq_of_perm (hnodup.sublist (List.filter_sublist.map _)) (hperm.filter _)
  · have hhead : (gatewaysOf members).head? = (gatewaysOf members').head? := by
      generalize gatewaysOf members = gws at hgws hlength
      generalize gatewaysOf members' = gws' at hgws hlength hseveral
      match gws', hlength, hseveral with
      | [], hlength, _ => rw [List.length_eq_zero_iff.mp hlength]
      | [gw], _, _ => rw [List.perm_singleton.mp hgws]
      | gw :: gw' :: rest, _, hseveral => simp at hseveral
    rw [hhead, List.map_singleton, List.map_singleton, view_eq_of_perm hnodup hperm]

/-! ## Segments of hosts in another order -/

section Order

variable {hosts hosts' : List TopologyHost}

lemma countedIn_perm (hperm : hosts.Perm hosts') (subnet : String) :
    (countedIn hosts subnet).Perm (countedIn hosts' subnet) :=
  hperm.filterMap _

lemma subnetsOf_perm (hperm : hosts.Perm hosts') : (subnetsOf hosts).Perm (subnetsOf hosts') := by
  refine (List.perm_ext_iff_of_nodup (nodup_subnetsOf _) (nodup_subnetsOf _)).mpr fun subnet => ?_
  rw [mem_subnetsOf, mem_subnetsOf, ← List.length_pos_iff, ← List.length_pos_iff,
    (countedIn_perm hperm subnet).length_eq]

/-- A host is counted once. -/
lemma nodup_counted (hnodup : (hosts.map TopologyHost.publicId).Nodup) (subnet : String) :
    (((countedIn hosts subnet).map Prod.snd).map Member.pid).Nodup := by
  have hpids : ((countedIn hosts subnet).map Prod.snd).map Member.pid =
      (hosts.filter fun h => (h.firstIn subnet).isSome).map TopologyHost.publicId := by
    unfold countedIn
    clear hnodup
    induction hosts with
    | nil => rfl
    | cons h hosts ih =>
      cases hfirst : h.firstIn subnet with
      | none =>
        rw [List.filterMap_cons, hfirst, List.filter_cons_of_neg (by simp [hfirst]), ih]
      | some m =>
        rw [List.filterMap_cons, hfirst, List.filter_cons_of_pos (by simp [hfirst]),
          List.map_cons, List.map_cons, List.map_cons, ih,
          eligible_pid (firstIn_eq_some hfirst).1]
  rw [hpids]
  exact hnodup.sublist (List.filter_sublist.map _)

lemma eligible_isV4 (hlabels : LabelsHold hosts) {h : TopologyHost} (hh : h ∈ hosts)
    {m : Network × Member} (hm : m ∈ h.eligible) : m.1.address.IsV4 := by
  obtain ⟨iface, hiface, a, ha, hmembership⟩ := eligible_spec hm
  unfold membership at hmembership
  split_ifs at hmembership with hfamily
  obtain ⟨addr, haddr, hmembership⟩ := Option.bind_eq_some_iff.mp hmembership
  obtain ⟨prefixLength, -, hmembership⟩ := Option.bind_eq_some_iff.mp hmembership
  obtain ⟨⟨ip, network⟩, hparse, hmembership⟩ := Option.bind_eq_some_iff.mp hmembership
  simp only at hmembership
  split_ifs at hmembership
  rw [← Option.some_inj.mp hmembership]
  exact parseInterface_isV4 (hlabels h hh iface (List.mem_of_mem_filter hiface) a ha
    (not_not.mp hfamily) addr haddr) hparse

lemma countedIn_isV4 (hlabels : LabelsHold hosts) {subnet : String} {m : Network × Member}
    (hm : m ∈ countedIn hosts subnet) : m.1.address.IsV4 := by
  obtain ⟨h, hh, hfirst⟩ := List.mem_filterMap.mp hm
  exact eligible_isV4 hlabels hh (firstIn_eq_some hfirst).1

/-- The memberships of an IPv4 subnet are all in one network. -/
lemma countedIn_network (hlabels : LabelsHold hosts) {subnet : String} {m m' : Network × Member}
    (hm : m ∈ countedIn hosts subnet) (hm' : m' ∈ countedIn hosts subnet) : m.1 = m'.1 :=
  text_injective (countedIn_isV4 hlabels hm) (countedIn_isV4 hlabels hm')
    ((mem_countedIn hm).1.trans (mem_countedIn hm').1.symm)

lemma map_view_segmentsIn (hlabels : LabelsHold hosts)
    (hnodup : (hosts.map TopologyHost.publicId).Nodup) (hperm : hosts.Perm hosts')
    (subnet : String) :
    (segmentsIn hosts subnet).map Segment.view = (segmentsIn hosts' subnet).map Segment.view := by
  have hcounted := countedIn_perm hperm subnet
  have hnodup := nodup_counted hnodup subnet
  have hnetwork : ∀ m ∈ countedIn hosts subnet, ∀ m' ∈ countedIn hosts subnet, m.1 = m'.1 :=
    fun m hm m' hm' => countedIn_network hlabels hm hm'
  unfold segmentsIn
  cases hfirst : countedIn hosts subnet with
  | nil =>
    rw [hfirst] at hcounted
    rw [hcounted.nil_eq]
  | cons first rest =>
    cases hfirst' : countedIn hosts' subnet with
    | nil => rw [hfirst, hfirst'] at hcounted; exact absurd hcounted.eq_nil (by simp)
    | cons first' rest' =>
      have hmem : first' ∈ countedIn hosts subnet :=
        hcounted.mem_iff.mpr (hfirst' ▸ List.mem_cons_self)
      have hsame := hnetwork first' hmem first (hfirst ▸ List.mem_cons_self)
      rw [hfirst] at hnodup
      rw [hfirst, hfirst'] at hcounted
      simp only [hsame]
      exact map_view_splitByGateway hnodup (hcounted.map _)

/-- What the graph reads of the surviving segments. -/
def survivingViews (hosts : List TopologyHost) : List SegmentView :=
  ((survivingSegments hosts).map Prod.snd).map Segment.view

lemma survivingViews_eq (hosts : List TopologyHost) :
    survivingViews hosts =
      ((subnetsOf hosts).flatMap fun subnet => (segmentsIn hosts subnet).map Segment.view).filter
        fun v => 2 ≤ v.pids.length := by
  have hlength : ∀ s : Segment,
      decide (2 ≤ s.members.length) = decide (2 ≤ s.view.pids.length) := by
    intro s
    rw [Segment.view, s.pids_perm.length_eq, List.length_map]
  rw [survivingViews, survivingSegments_eq, ← List.map_flatMap, List.filter_map]
  simp only [Function.comp_def, hlength]

lemma survivingViews_perm (hlabels : LabelsHold hosts)
    (hnodup : (hosts.map TopologyHost.publicId).Nodup) (hperm : hosts.Perm hosts') :
    (survivingViews hosts).Perm (survivingViews hosts') := by
  rw [survivingViews_eq, survivingViews_eq]
  refine ((subnetsOf_perm hperm).flatMap fun subnet _ => ?_).filter _
  rw [map_view_segmentsIn hlabels hnodup hperm]

/-! ## Sorting the subnets -/

/-- The place of a network among those of IPv4. -/
def SegmentView.place (v : SegmentView) : ℕ ×ₗ ℕ :=
  toLex (v.network.address.number, v.network.prefixLength)

lemma lt_eq_false_iff {v w : SegmentView} (hv : v.network.address.IsV4)
    (hw : w.network.address.IsV4) : w.network.lt v.network = false ↔ v.place ≤ w.place := by
  have haddress : w.network.address = v.network.address ↔
      w.network.address.number = v.network.address.number := by
    constructor
    · exact fun h => congrArg Address.number h
    · intro h
      have hversion := hw.version.trans hv.version.symm
      have hscope := hw.scope.trans hv.scope.symm
      cases hwa : w.network.address
      cases hva : v.network.address
      simp_all
  unfold Network.lt
  rw [SegmentView.place, SegmentView.place, Prod.Lex.toLex_le_toLex]
  simp only [haddress]
  split_ifs with heq
  · rw [decide_eq_false_iff_not, not_lt, heq]
    simp
  · rw [decide_eq_false_iff_not, not_lt]
    constructor
    · exact fun h => .inl (lt_of_le_of_ne h fun h => heq h.symm)
    · rintro (h | ⟨h, -⟩)
      · exact le_of_lt h
      · exact absurd h.symm heq

lemma segmentsIn_isV4 (hlabels : LabelsHold hosts) {subnet : String} {s : Segment}
    (hs : s ∈ segmentsIn hosts subnet) :
    s.network.address.IsV4 ∧ s.network.text = subnet := by
  obtain ⟨-, first, hfirst, hs⟩ := mem_segmentsIn hs
  rw [splitByGateway_network s hs]
  exact ⟨countedIn_isV4 hlabels hfirst, (mem_countedIn hfirst).1⟩

lemma mem_survivingViews {v : SegmentView} (hv : v ∈ survivingViews hosts) :
    ∃ subnet ∈ subnetsOf hosts, ∃ s ∈ segmentsIn hosts subnet, s.view = v := by
  rw [survivingViews_eq] at hv
  obtain ⟨subnet, hsubnet, hv⟩ := List.mem_flatMap.mp (List.mem_of_mem_filter hv)
  obtain ⟨s, hs, rfl⟩ := List.mem_map.mp hv
  exact ⟨subnet, hsubnet, s, hs, rfl⟩

lemma survivingViews_isV4 (hlabels : LabelsHold hosts) :
    ∀ v ∈ survivingViews hosts, v.network.address.IsV4 := by
  intro v hv
  obtain ⟨subnet, -, s, hs, rfl⟩ := mem_survivingViews hv
  exact (segmentsIn_isV4 hlabels hs).1

/-- A part of a subnet stands before another when its gateway does. -/
def SegmentView.Before (v w : SegmentView) : Prop := v.gateway.getD "" < w.gateway.getD ""

lemma lt_of_string_le {a b : String} (hle : a ≤ b) (hne : a ≠ b) : a < b :=
  Decidable.byContradiction fun hlt => hne (String.le_antisymm hle (String.not_lt.mp hlt))

/-- The parts of a subnet stand in the order of their gateways. -/
lemma pairwise_splitByGateway (subnet : String) (network : Network) (members : List Member) :
    (splitByGateway subnet network members).Pairwise fun s s' => s.view.Before s'.view := by
  unfold splitByGateway
  simp only
  split_ifs
  · rw [List.pairwise_map]
    have hle := List.pairwise_insertionSort (· ≤ ·) (gatewaysOf members)
    have hne := (List.perm_insertionSort (· ≤ ·) (gatewaysOf members)).nodup_iff.mpr
      (List.nodup_dedup _)
    exact hle.imp₂ (fun gw gw' hle hne => lt_of_string_le hle hne) hne
  · exact List.pairwise_singleton _ _

/-- Segments that tie are parts of one subnet, in the order of their gateways. -/
lemma pairwise_survivingViews (hlabels : LabelsHold hosts) :
    (survivingViews hosts).Pairwise fun v w => v.place = w.place → v.Before w := by
  rw [survivingViews_eq]
  refine List.Pairwise.sublist List.filter_sublist (List.pairwise_flatMap.mpr ⟨?_, ?_⟩)
  · intro subnet _
    rw [List.pairwise_map]
    unfold segmentsIn
    split
    · exact .nil
    · exact (pairwise_splitByGateway _ _ _).imp fun {s s'} h (_ : s.view.place = s'.view.place) => h
  · refine (nodup_subnetsOf hosts).imp fun {subnet subnet'} hne => ?_
    intro v hv w hw heq
    obtain ⟨s, hs, rfl⟩ := List.mem_map.mp hv
    obtain ⟨s', hs', rfl⟩ := List.mem_map.mp hw
    obtain ⟨hv4, rfl⟩ := segmentsIn_isV4 hlabels hs
    obtain ⟨hv4', rfl⟩ := segmentsIn_isV4 hlabels hs'
    obtain ⟨hnumber, hdigits⟩ := Prod.mk.inj (toLex_inj.mp heq)
    have hnetworks : s.network = s'.network := by
      have hversion := hv4.version.trans hv4'.version.symm
      have hscope := hv4.scope.trans hv4'.scope.symm
      cases hn : s.network with
      | mk address length =>
        cases hn' : s'.network with
        | mk address' length' =>
          cases address
          cases address'
          simp_all [Segment.view]
    exact absurd (congrArg Network.text hnetworks) hne

/-- The segments in the order of their networks. -/
lemma map_view_orderedNets (hlabels : LabelsHold hosts) :
    ∃ ordered, orderedNets ((survivingSegments hosts).map Prod.snd) = some ordered ∧
      ordered.map Segment.view = sortBy SegmentView.place (survivingViews hosts) := by
  have hv4 := survivingViews_isV4 hlabels
  unfold survivingViews at hv4 ⊢
  generalize (survivingSegments hosts).map Prod.snd = segments at hv4 ⊢
  have hsegments : ∀ s ∈ segments, s.view.network.address.IsV4 := fun s hs =>
    hv4 s.view (List.mem_map_of_mem hs)
  have hsame : segments.Pairwise fun a b =>
      a.network.address.version = b.network.address.version :=
    List.pairwise_of_forall_mem_list fun a ha b hb =>
      (hsegments a ha).version.trans (hsegments b hb).version.symm
  refine ⟨_, if_pos hsame, ?_⟩
  exact List.map_insertionSort _ _ Segment.view segments fun a ha b hb =>
    lt_eq_false_iff (hsegments a ha) (hsegments b hb)

end Order

/-! ## The graph of what is read -/

section Views

variable {hosts hosts' : List TopologyHost} {ordered ordered' : List Segment}

lemma hostOf_eq_some (hnodup : (hosts.map TopologyHost.publicId).Nodup) {pid : String}
    {h : TopologyHost} : hostOf hosts pid = some h ↔ h ∈ hosts ∧ h.publicId = pid := by
  unfold hostOf
  constructor
  · intro hfind
    exact ⟨List.mem_reverse.mp (List.mem_of_find?_eq_some hfind),
      by simpa using List.find?_some hfind⟩
  · rintro ⟨hmem, rfl⟩
    have hsome : (hosts.reverse.find? fun h' => decide (h'.publicId = h.publicId)).isSome = true :=
      List.find?_isSome.mpr ⟨h, List.mem_reverse.mpr hmem, decide_eq_true rfl⟩
    obtain ⟨h', hfind⟩ := Option.isSome_iff_exists.mp hsome
    have hmem' := List.mem_reverse.mp (List.mem_of_find?_eq_some hfind)
    have hpid : h'.publicId = h.publicId := by simpa using List.find?_some hfind
    rw [hfind, List.inj_on_of_nodup_map hnodup hmem' hmem hpid]

lemma hostOf_eq_of_perm (hnodup : (hosts.map TopologyHost.publicId).Nodup)
    (hperm : hosts.Perm hosts') : hostOf hosts = hostOf hosts' := by
  have hnodup' : (hosts'.map TopologyHost.publicId).Nodup := (hperm.map _).nodup_iff.mp hnodup
  refine funext fun pid => Option.ext fun h => ?_
  rw [hostOf_eq_some hnodup, hostOf_eq_some hnodup', hperm.mem_iff]

/-- The segments of both lists are read alike, one after the other. -/
def ReadAlike (ordered ordered' : List Segment) : Prop :=
  ordered.map Segment.view = ordered'.map Segment.view

lemma map_eq_of_readAlike {β : Type} {f f' : Segment → β} (hviews : ReadAlike ordered ordered')
    (hf : ∀ s s', s.view = s'.view → f s = f' s') : ordered.map f = ordered'.map f' := by
  unfold ReadAlike at hviews
  induction ordered generalizing ordered' with
  | nil =>
    rw [List.map_nil] at hviews
    rw [List.map_eq_nil_iff.mp hviews.symm]
    rfl
  | cons s rest ih =>
    cases ordered' with
    | nil => exact absurd hviews (by simp)
    | cons s' rest' =>
      rw [List.map_cons, List.map_cons, List.cons.injEq] at hviews
      rw [List.map_cons, List.map_cons, hf s s' hviews.1, ih hviews.2]

variable (hviews : ReadAlike ordered ordered')
include hviews

lemma flatMap_eq_of_readAlike {β : Type} {f f' : Segment → List β}
    (hf : ∀ s s', s.view = s'.view → f s = f' s') : ordered.flatMap f = ordered'.flatMap f' := by
  rw [List.flatMap_def, List.flatMap_def, map_eq_of_readAlike hviews hf]

lemma countP_eq_of_readAlike {p : Segment → Bool}
    (hp : ∀ s s', s.view = s'.view → p s = p s') : ordered.countP p = ordered'.countP p := by
  have hmap := congrArg (List.countP id) (map_eq_of_readAlike hviews hp)
  rwa [List.countP_map, List.countP_map] at hmap

lemma graphHosts_eq : graphHosts ordered = graphHosts ordered' := by
  have hpids : ordered.flatMap Segment.pids = ordered'.flatMap Segment.pids :=
    flatMap_eq_of_readAlike hviews fun s s' h => congrArg SegmentView.pids h
  rw [graphHosts, graphHosts, hpids]

lemma hostSubnetCount_eq : hostSubnetCount ordered = hostSubnetCount ordered' := by
  refine funext fun pid => countP_eq_of_readAlike hviews fun s s' h => ?_
  have hpids : s.pids = s'.pids := congrArg SegmentView.pids h
  rw [hpids]

lemma gwSubnetCount_eq : gwSubnetCount ordered = gwSubnetCount ordered' := by
  refine funext fun gw => countP_eq_of_readAlike hviews fun s s' h => ?_
  have hgateway : s.gateway = s'.gateway := congrArg SegmentView.gateway h
  rw [hgateway]

lemma sharedGws_eq : sharedGws ordered = sharedGws ordered' := by
  have hnamed : (ordered.filterMap fun s => s.gateway.filter (· ≠ "")) =
      ordered'.filterMap fun s => s.gateway.filter (· ≠ "") := by
    have hgateways : ordered.map Segment.gateway = ordered'.map Segment.gateway :=
      map_eq_of_readAlike hviews fun s s' h => congrArg SegmentView.gateway h
    have hmap := congrArg (List.filterMap fun gw : Option String => gw.filter (· ≠ "")) hgateways
    rwa [List.filterMap_map, List.filterMap_map] at hmap
  unfold sharedGws
  rw [hnamed, gwSubnetCount_eq hviews]

lemma subnetElements_eq {s s' : Segment} (h : s.view = s'.view) :
    subnetElements ordered s = subnetElements ordered' s' := by
  rw [Segment.view, Segment.view, SegmentView.mk.injEq] at h
  obtain ⟨hkey, hlabel, -, hgateway, hpids, -⟩ := h
  unfold subnetElements
  rw [hkey, hlabel, hgateway, hpids, sharedGws_eq hviews]

lemma subnetGroup_eq (hhosts : hostOf hosts = hostOf hosts')
    (onlineById : Option (List (ℤ × Bool))) {s s' : Segment} (h : s.view = s'.view) :
    subnetGroup hosts onlineById ordered s = subnetGroup hosts' onlineById ordered' s' := by
  rw [Segment.view, Segment.view, SegmentView.mk.injEq] at h
  obtain ⟨-, hlabel, -, hgateway, hpids, hmember⟩ := h
  have hrow : subnetHost hosts onlineById ordered s = subnetHost hosts' onlineById ordered' s' := by
    refine funext fun pid => ?_
    unfold subnetHost
    rw [hhosts, congrFun hmember pid, hostSubnetCount_eq hviews]
  unfold subnetGroup
  rw [hrow, hlabel, hgateway, hpids]

/-- The graph is made of what is read of the segments, and of the hosts in any order. -/
lemma topologyOf_eq (hnodup : (hosts.map TopologyHost.publicId).Nodup)
    (hperm : hosts.Perm hosts') (onlineById : Option (List (ℤ × Bool))) :
    topologyOf hosts onlineById ordered = topologyOf hosts' onlineById ordered' := by
  have hhosts := hostOf_eq_of_perm hnodup hperm
  have hhostElement : hostElement hosts ordered = hostElement hosts' ordered' := by
    refine funext fun pid => ?_
    unfold hostElement
    rw [hhosts, hostSubnetCount_eq hviews]
  have hgatewayElement : gatewayElement ordered = gatewayElement ordered' := by
    refine funext fun gw => ?_
    unfold gatewayElement
    rw [gwSubnetCount_eq hviews]
  have hmembers : ordered.flatMap memberElements = ordered'.flatMap memberElements := by
    refine flatMap_eq_of_readAlike hviews fun s s' h => ?_
    have hpids : s.pids = s'.pids := congrArg SegmentView.pids h
    have hkey : s.netKey = s'.netKey := congrArg SegmentView.netKey h
    unfold memberElements
    rw [hpids, hkey]
  have hlength : ordered.length = ordered'.length := by
    simpa using congrArg List.length hviews
  unfold topologyOf
  rw [hhostElement, hgatewayElement, hmembers, hlength, graphHosts_eq hviews,
    hostSubnetCount_eq hviews, sharedGws_eq hviews,
    flatMap_eq_of_readAlike hviews fun s s' h => subnetElements_eq hviews h,
    map_eq_of_readAlike hviews fun s s' h => subnetGroup_eq hviews hhosts onlineById h,
    ((hperm.map TopologyHost.publicId).dedup).length_eq]
  rw [NetworkTopology.mk.injEq]
  refine ⟨rfl, rfl, rfl, rfl, rfl, rfl, rfl, ?_⟩
  cases ordered <;> cases ordered' <;> simp_all

end Views

/-- The topology of IPv4 hosts with different ids is the same for every order of the hosts. -/
theorem buildNetworkTopology_perm {hosts hosts' : List TopologyHost} (hperm : hosts.Perm hosts')
    (hnodup : (hosts.map TopologyHost.publicId).Nodup) (hlabels : LabelsHold hosts)
    (onlineById : Option (List (ℤ × Bool))) :
    ∃ t, buildNetworkTopology hosts onlineById = some t ∧
      buildNetworkTopology hosts' onlineById = some t := by
  have hlabels' : LabelsHold hosts' := fun h hh => hlabels h (hperm.mem_iff.mpr hh)
  obtain ⟨ordered, hordered, hviews⟩ := map_view_orderedNets hlabels
  obtain ⟨ordered', hordered', hviews'⟩ := map_view_orderedNets hlabels'
  have halike : ReadAlike ordered ordered' := by
    rw [ReadAlike, hviews, hviews']
    exact sortBy_eq_of_perm (survivingViews_perm hlabels hnodup hperm)
      (pairwise_survivingViews hlabels) (pairwise_survivingViews hlabels')
      fun v w h h' => String.lt_asymm h h'
  refine ⟨topologyOf hosts onlineById ordered, ?_, ?_⟩
  · rw [buildNetworkTopology, hordered, Option.map_some]
  · rw [buildNetworkTopology, hordered', Option.map_some,
      topologyOf_eq halike hnodup hperm]

/-- Two parts of one subnet, which tie, and two hosts with one address. -/
def tiedHosts : List TopologyHost :=
  [⟨1, "b", "web-2", "linux", none, [sampleInterface "10.0.1.10" "10.0.1.1"]⟩,
    ⟨2, "a", "web-1", "linux", none, [sampleInterface "10.0.1.10" "10.0.1.1"]⟩,
    ⟨3, "d", "db-2", none, none, [sampleInterface "10.0.1.8" "10.0.1.2"]⟩,
    ⟨4, "c", "db-1", none, none, [sampleInterface "10.0.1.7" "10.0.1.2"]⟩]

theorem tiedHosts_perm :
    ∃ t, buildNetworkTopology tiedHosts none = some t ∧
      buildNetworkTopology tiedHosts.reverse none = some t :=
  buildNetworkTopology_perm (List.reverse_perm _).symm (by decide +kernel) (by decide +kernel) none

end AssessmentEngine
