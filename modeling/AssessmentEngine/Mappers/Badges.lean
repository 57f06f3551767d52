import AssessmentEngine.Mappers.ServerDetail
import AssessmentEngine.Services.Groups
import Mathlib.Data.List.Perm.Basic
import Mathlib.Logic.Basic

/-!
# The badges of a server

Ports become chips of the badges along three ways: with the units that own them, with the
sockets of the category of the units, and with the sockets of categories that no unit is in.
The keys of the chips and the numbers of their ports are kept on the side.  All the while they
are those of the chips of all badges (`Badges.Accounts`), so no chip is given twice, and the
ports that remain for the list of other ports are those without a chip.
-/

namespace AssessmentEngine

namespace Badges

/-- The chips of all badges. -/
def chips (b : Badges) : List MatchedPort := b.known.flatMap ServiceItem.ports

/-- The categories of the badges. -/
def categories (b : Badges) : List String := b.known.map ServiceItem.category

/-- What is kept on the side is that of the given chips, and no key is there twice. -/
structure Accounts (b : Badges) (chips : List MatchedPort) : Prop where
  seen : b.seenChipKeys.Perm (chips.map chipKey)
  shown : b.shownPortNumbers.Perm (chips.map MatchedPort.port)
  distinct : b.seenChipKeys.Nodup

end Badges

section Chips

variable {b : Badges} {chips ports : List MatchedPort}

/-- Chips in another order have the same account. -/
lemma Badges.Accounts.perm {chips' : List MatchedPort} (h : b.Accounts chips)
    (hperm : chips.Perm chips') : b.Accounts chips' where
  seen := h.seen.trans (hperm.map chipKey)
  shown := h.shown.trans (hperm.map MatchedPort.port)
  distinct := h.distinct

/-- A new chip is put on account, and no badge changes. -/
lemma addChip_accounts {state : Badges × List MatchedPort}
    (h : state.1.Accounts (chips ++ state.2)) (p : MatchedPort) :
    (addChip state p).1.Accounts (chips ++ (addChip state p).2) ∧
      (addChip state p).1.known = state.1.known := by
  unfold addChip
  split_ifs with hseen
  · exact ⟨h, rfl⟩
  · refine ⟨⟨?_, ?_, ?_⟩, rfl⟩
    · rw [← List.append_assoc, List.map_append]
      exact h.seen.append_right _
    · rw [← List.append_assoc, List.map_append]
      exact h.shown.append_right _
    · rw [List.nodup_append]
      refine ⟨h.distinct, List.nodup_singleton _, ?_⟩
      rintro key hkey key' hkey' rfl
      exact hseen (List.mem_singleton.mp hkey' ▸ hkey)

/-- So are the new chips of a list of ports. -/
lemma addChips_accounts (h : b.Accounts chips) (ports : List MatchedPort) :
    (addChips b ports).1.Accounts (chips ++ (addChips b ports).2) ∧
      (addChips b ports).1.known = b.known := by
  have hfold : ∀ (ports : List MatchedPort) (state : Badges × List MatchedPort),
      state.1.Accounts (chips ++ state.2) →
        (ports.foldl addChip state).1.Accounts (chips ++ (ports.foldl addChip state).2) ∧
          (ports.foldl addChip state).1.known = state.1.known := by
    intro ports
    induction ports with
    | nil => exact fun state hstate => ⟨hstate, rfl⟩
    | cons p ports ih =>
      intro state hstate
      obtain ⟨hstep, hknown⟩ := addChip_accounts hstate p
      obtain ⟨hrest, hsame⟩ := ih _ hstep
      exact ⟨hrest, hsame.trans hknown⟩
  exact hfold ports (b, []) (by rwa [List.append_nil])

/-- A badge with the new chips, in order, keeps the account. -/
lemma addBadge_accounts (h : b.Accounts b.chips) (ports : List MatchedPort) (badge : ServiceItem)
    (hports : badge.ports = sortChips (addChips b ports).2) :
    let shown := { (addChips b ports).1 with known := (addChips b ports).1.known ++ [badge] }
    shown.Accounts shown.chips ∧ shown.categories = b.categories ++ [badge.category] := by
  intro shown
  obtain ⟨haccounts, hknown⟩ := addChips_accounts h ports
  have hshown : shown.known = b.known ++ [badge] := by
    rw [← hknown]
  have hchips : shown.chips = b.chips ++ sortChips (addChips b ports).2 := by
    rw [Badges.chips, hshown, List.flatMap_append, List.flatMap_singleton, hports]
    rfl
  have hperm : (b.chips ++ (addChips b ports).2).Perm shown.chips := by
    rw [hchips]
    exact ((List.mergeSort_perm _ _).symm).append_left _
  refine ⟨?_, ?_⟩
  · exact ⟨(haccounts.perm hperm).seen, (haccounts.perm hperm).shown, haccounts.distinct⟩
  · rw [Badges.categories, hshown, List.map_append]
    rfl

end Chips

/-! ### The two loops -/

section Loops

variable {b : Badges}

/-- The badge of a category of units. -/
lemma addCategory_accounts (listenByCat : List (String × List MatchedPort))
    {group : String × List ServiceItem} (h : b.Accounts b.chips) (hgroup : group.2 ≠ []) :
    (addCategory listenByCat b group).Accounts (addCategory listenByCat b group).chips ∧
      (addCategory listenByCat b group).categories = b.categories ++ [group.1] := by
  obtain ⟨rep, hrep⟩ : ∃ rep,
      (group.2.find? fun s => !s.ports.isEmpty).or group.2.head? = some rep := by
    obtain ⟨first, rest, hfirst⟩ := List.exists_cons_of_ne_nil hgroup
    rw [hfirst, List.head?_cons]
    cases (first :: rest).find? fun s => !s.ports.isEmpty with
    | none => exact ⟨first, rfl⟩
    | some rep => exact ⟨rep, rfl⟩
  unfold addCategory
  simp only [hrep]
  exact addBadge_accounts h _ _ rfl

/-- The badge of a category without units, unless there is one already. -/
lemma addListenOnly_accounts (known : List String) (h : b.Accounts b.chips)
    (group : String × List MatchedPort) :
    (addListenOnly known b group).Accounts (addListenOnly known b group).chips ∧
      (addListenOnly known b group).categories =
        b.categories ++ if group.1 ∈ known then [] else [group.1] := by
  unfold addListenOnly
  split_ifs with hknown
  · exact ⟨h, (List.append_nil _).symm⟩
  · exact addBadge_accounts h _ _ rfl

/-- The loop over the categories of units gives each of them a badge. -/
lemma foldl_addCategory_accounts (listenByCat : List (String × List MatchedPort))
    {groups : List (String × List ServiceItem)} (h : b.Accounts b.chips)
    (hgroups : ∀ group ∈ groups, group.2 ≠ []) :
    (groups.foldl (addCategory listenByCat) b).Accounts
        (groups.foldl (addCategory listenByCat) b).chips ∧
      (groups.foldl (addCategory listenByCat) b).categories =
        b.categories ++ groups.map Prod.fst := by
  induction groups generalizing b with
  | nil => exact ⟨h, (List.append_nil _).symm⟩
  | cons group groups ih =>
    obtain ⟨hstep, hcategories⟩ :=
      addCategory_accounts listenByCat h (hgroups group List.mem_cons_self)
    obtain ⟨hrest, hall⟩ := ih hstep fun g hg => hgroups g (List.mem_cons_of_mem group hg)
    refine ⟨hrest, ?_⟩
    rw [List.foldl_cons, hall, hcategories, List.map_cons, List.append_assoc, List.singleton_append]

/-- The loop over the categories of sockets gives a badge to each that has none. -/
lemma foldl_addListenOnly_accounts (known : List String)
    (groups : List (String × List MatchedPort)) (h : b.Accounts b.chips) :
    (groups.foldl (addListenOnly known) b).Accounts
        (groups.foldl (addListenOnly known) b).chips ∧
      (groups.foldl (addListenOnly known) b).categories =
        b.categories ++ (groups.map Prod.fst).filter fun category => decide (category ∉ known) := by
  induction groups generalizing b with
  | nil => exact ⟨h, (List.append_nil _).symm⟩
  | cons group groups ih =>
    obtain ⟨hstep, hcategories⟩ := addListenOnly_accounts known h group
    obtain ⟨hrest, hall⟩ := ih hstep
    refine ⟨hrest, ?_⟩
    rw [List.foldl_cons, hall, hcategories, List.map_cons, List.append_assoc]
    by_cases hknown : group.1 ∈ known
    · rw [if_pos hknown, List.filter_cons_of_neg (by simpa using hknown), List.nil_append]
    · rw [if_neg hknown, List.filter_cons_of_pos (by simpa using hknown), List.singleton_append]

end Loops

/-! ### All badges -/

section Collect

variable (u : Unicode) (services : List ServiceItem) (listenPorts : List ListenPortItem)

/-- The categories of the sockets of a server. -/
def listenCategories : List String :=
  (detectListenCategories u (listenPorts.map ListenPortItem.toListenPort)).map Prod.fst

lemma servicesByCategory_eq :
    servicesByCategory services =
      groupUnder ServiceItem.category id [] (services.filter fun s => s.category ≠ "unknown") :=
  rfl

lemma mem_servicesByCategory_iff {category : String} :
    category ∈ (servicesByCategory services).map Prod.fst ↔
      ∃ s ∈ services, s.category = category ∧ category ≠ "unknown" := by
  rw [servicesByCategory_eq, mem_keys_groupUnder]
  simp only [List.map_nil, List.not_mem_nil, false_or, List.mem_filter, decide_eq_true_iff]
  constructor
  · rintro ⟨s, ⟨hs, hknown⟩, rfl⟩
    exact ⟨s, hs, rfl, hknown⟩
  · rintro ⟨s, hs, rfl, hknown⟩
    exact ⟨s, ⟨hs, hknown⟩, rfl⟩

/-- The badges account for their chips, and their categories are those of the units followed by
the other ones of the sockets. -/
lemma collectBadges_accounts :
    (collectBadges u services listenPorts).Accounts (collectBadges u services listenPorts).chips ∧
      (collectBadges u services listenPorts).categories =
        (servicesByCategory services).map Prod.fst ++
          (listenCategories u listenPorts).filter fun category =>
            decide (category ∉ (servicesByCategory services).map Prod.fst) := by
  have hempty : Badges.Accounts ⟨[], [], []⟩ (Badges.chips ⟨[], [], []⟩) :=
    ⟨List.Perm.refl _, List.Perm.refl _, List.nodup_nil⟩
  have hgroups : ∀ group ∈ servicesByCategory services, group.2 ≠ [] := by
    rw [servicesByCategory_eq]
    exact ne_nil_of_mem_groupUnder (by simp) _
  obtain ⟨hunits, hcategories⟩ :=
    foldl_addCategory_accounts
      (detectListenCategories u (listenPorts.map ListenPortItem.toListenPort)) hempty hgroups
  obtain ⟨hall, hothers⟩ := foldl_addListenOnly_accounts _
    (detectListenCategories u (listenPorts.map ListenPortItem.toListenPort)) hunits
  refine ⟨hall, ?_⟩
  unfold collectBadges
  rw [hothers]
  change _ ++ List.filter (fun category => decide (category ∉ Badges.categories _)) _ = _
  rw [hcategories]
  rfl

/-- No category has two badges. -/
lemma collectBadges_categories_nodup :
    (collectBadges u services listenPorts).categories.Nodup := by
  rw [(collectBadges_accounts u services listenPorts).2, List.nodup_append]
  refine ⟨?_, (nodup_keys_detectListenCategories _ _).filter _, ?_⟩
  · rw [servicesByCategory_eq]
    apply nodup_keys_groupUnder
    exact List.nodup_nil
  · rintro category hunits category' hothers rfl
    exact absurd hunits (of_decide_eq_true (List.mem_filter.mp hothers).2)

/-- The categories with a badge are those of a unit or a socket. -/
lemma mem_collectBadges_categories_iff {category : String} :
    category ∈ (collectBadges u services listenPorts).categories ↔
      (∃ s ∈ services, s.category = category ∧ category ≠ "unknown") ∨
        category ∈ listenCategories u listenPorts := by
  rw [(collectBadges_accounts u services listenPorts).2, List.mem_append, List.mem_filter,
    ← mem_servicesByCategory_iff, decide_eq_true_iff]
  constructor
  · rintro (hunits | ⟨hsockets, -⟩)
    · exact Or.inl hunits
    · exact Or.inr hsockets
  · rintro (hunits | hsockets)
    · exact Or.inl hunits
    · by_cases hunits : category ∈ (servicesByCategory services).map Prod.fst
      · exact Or.inl hunits
      · exact Or.inr ⟨hsockets, hunits⟩

/-- The numbers that are kept are those of the chips. -/
lemma mem_shownPortNumbers_iff {n : ℤ} :
    n ∈ (collectBadges u services listenPorts).shownPortNumbers ↔
      ∃ badge ∈ (collectBadges u services listenPorts).known, ∃ chip ∈ badge.ports,
        chip.port = n := by
  rw [(collectBadges_accounts u services listenPorts).1.shown.mem_iff, List.mem_map]
  constructor
  · rintro ⟨chip, hchip, hport⟩
    obtain ⟨badge, hbadge, hmem⟩ := List.mem_flatMap.mp hchip
    exact ⟨badge, hbadge, chip, hmem, hport⟩
  · rintro ⟨badge, hbadge, chip, hmem, hport⟩
    exact ⟨chip, List.mem_flatMap.mpr ⟨badge, hbadge, hmem⟩, hport⟩

end Collect

/-- The badges of a server: one for each category of a classified unit or socket, with chips that
are all different; and each significant port number is either on a chip or in the list of
other ports. -/
theorem enrichServerDetail_accounts_ports (u : Unicode) (detail : ServerDetailResponse) :
    ((enrichServerDetail u detail).knownServices.map ServiceItem.category).Nodup ∧
      ((enrichServerDetail u detail).knownServices.flatMap ServiceItem.ports).Nodup ∧
      (∀ category,
        category ∈ (enrichServerDetail u detail).knownServices.map ServiceItem.category ↔
          (∃ s ∈ detail.services.getD [], s.category = category ∧ category ≠ "unknown") ∨
            category ∈ listenCategories u detail.listenPorts) ∧
      ∀ lp ∈ detail.listenPorts, lp.isSignificant = true →
        Xor
          (∃ badge ∈ (enrichServerDetail u detail).knownServices, ∃ chip ∈ badge.ports,
            chip.port = lp.port)
          (∃ other ∈ (enrichServerDetail u detail).keyListenPorts, other.port = lp.port) := by
  set badges := collectBadges u (detail.services.getD []) detail.listenPorts with hbadges
  have hperm : (enrichServerDetail u detail).knownServices.Perm badges.known :=
    List.mergeSort_perm _ _
  have hcategories := hperm.map ServiceItem.category
  refine ⟨?_, ?_, ?_, ?_⟩
  · rw [hcategories.nodup_iff]
    exact collectBadges_categories_nodup u _ _
  · have hkeys : (badges.chips.map chipKey).Nodup := by
      have haccounts := (collectBadges_accounts u (detail.services.getD []) detail.listenPorts).1
      exact haccounts.seen.nodup_iff.mp haccounts.distinct
    rw [(hperm.flatMap_right ServiceItem.ports).nodup_iff]
    exact List.Nodup.of_map chipKey hkeys
  · intro category
    rw [hcategories.mem_iff]
    exact mem_collectBadges_categories_iff u _ _
  · intro lp hlp hsignificant
    have hshown : (∃ badge ∈ (enrichServerDetail u detail).knownServices, ∃ chip ∈ badge.ports,
        chip.port = lp.port) ↔ lp.port ∈ badges.shownPortNumbers := by
      rw [hbadges, mem_shownPortNumbers_iff]
      simp only [hperm.mem_iff, ← hbadges]
    have hother : (∃ other ∈ (enrichServerDetail u detail).keyListenPorts, other.port = lp.port) ↔
        lp.port ∉ badges.shownPortNumbers := by
      have hkey : (enrichServerDetail u detail).keyListenPorts.Perm
          (detail.listenPorts.filter fun lp =>
            lp.isSignificant && decide (lp.port ∉ badges.shownPortNumbers)) :=
        List.mergeSort_perm _ _
      constructor
      · rintro ⟨other, hmem, hport⟩
        have hselected := (List.mem_filter.mp (hkey.mem_iff.mp hmem)).2
        rw [← hport]
        exact of_decide_eq_true (Bool.and_eq_true _ _ ▸ hselected).2
      · intro hnot
        refine ⟨lp, hkey.mem_iff.mpr (List.mem_filter.mpr ⟨hlp, ?_⟩), rfl⟩
        rw [hsignificant, Bool.true_and]
        exact decide_eq_true hnot
    rw [hshown, hother]
    exact xor_not_right.mpr Iff.rfl

end AssessmentEngine
