import AssessmentEngine.Library.Dataclass
import AssessmentEngine.Services.ServiceClassifier

/-!
# Groups

The classifiers collect services and sockets under their categories with `appendUnder`, in the
order in which the categories first appear.  The keys of such a collection are the categories
that occur, each once, and under a key are the items of that category in their order.
-/

namespace AssessmentEngine

/-! ## Items under keys -/

section Groups

variable {α β : Type*} {k key : String}

lemma map_fst_appendUnder (key : String) (a : α) (groups : List (String × List α)) :
    (appendUnder key a groups).map Prod.fst =
      if key ∈ groups.map Prod.fst then groups.map Prod.fst else groups.map Prod.fst ++ [key] := by
  induction groups with
  | nil => rfl
  | cons group groups ih =>
    obtain ⟨k, as⟩ := group
    unfold appendUnder
    by_cases hk : k = key
    · rw [if_pos hk, List.map_cons, List.map_cons, if_pos (by simp [hk])]
    · have hmem : key ∈ (k, as).1 :: groups.map Prod.fst ↔ key ∈ groups.map Prod.fst := by
        rw [List.mem_cons]
        exact or_iff_right (Ne.symm hk)
      rw [if_neg hk, List.map_cons, ih, List.map_cons]
      simp only [hmem]
      split_ifs <;> rfl

/-- What is under a key after one more item. -/
lemma lookup_appendUnder (key : String) (a : α) (groups : List (String × List α)) (k : String) :
    ((appendUnder key a groups).lookup k).getD [] =
      (groups.lookup k).getD [] ++ if key = k then [a] else [] := by
  induction groups with
  | nil =>
    unfold appendUnder
    by_cases hk : key = k
    · subst hk
      simp
    · have hbeq : (k == key) = false := beq_eq_false_iff_ne.mpr (Ne.symm hk)
      simp [List.lookup_cons, hbeq, hk]
  | cons group groups ih =>
    obtain ⟨k', as⟩ := group
    unfold appendUnder
    by_cases hk' : k' = key
    · subst hk'
      rw [if_pos rfl]
      by_cases hk : k' = k
      · subst hk
        simp
      · have hbeq : (k == k') = false := beq_eq_false_iff_ne.mpr (Ne.symm hk)
        simp [List.lookup_cons, hbeq, hk]
    · rw [if_neg hk']
      by_cases hk : k = k'
      · subst hk
        simp [Ne.symm hk']
      · have hbeq : (k == k') = false := beq_eq_false_iff_ne.mpr hk
        rw [List.lookup_cons, List.lookup_cons, hbeq]
        exact ih

/-- The items under their keys, after those that are there already. -/
def groupUnder (key : β → String) (value : β → α) (groups : List (String × List α))
    (items : List β) : List (String × List α) :=
  items.foldl (fun groups x => appendUnder (key x) (value x) groups) groups

lemma groupUnder_cons (key : β → String) (value : β → α) (groups : List (String × List α)) (x : β)
    (items : List β) :
    groupUnder key value groups (x :: items) =
      groupUnder key value (appendUnder (key x) (value x) groups) items := rfl

lemma mem_keys_groupUnder {key : β → String} {value : β → α} {groups : List (String × List α)}
    {items : List β} {k : String} :
    k ∈ (groupUnder key value groups items).map Prod.fst ↔
      k ∈ groups.map Prod.fst ∨ ∃ x ∈ items, key x = k := by
  induction items generalizing groups with
  | nil => simp [groupUnder]
  | cons x items ih =>
    have hkeys : k ∈ (appendUnder (key x) (value x) groups).map Prod.fst ↔
        k ∈ groups.map Prod.fst ∨ key x = k := by
      rw [map_fst_appendUnder]
      split_ifs with hmem
      · constructor
        · exact Or.inl
        · rintro (h | rfl)
          · exact h
          · exact hmem
      · rw [List.mem_append, List.mem_singleton, eq_comm]
    rw [groupUnder_cons, ih, hkeys, or_assoc]
    simp

lemma nodup_keys_groupUnder {key : β → String} {value : β → α} {groups : List (String × List α)}
    (hnodup : (groups.map Prod.fst).Nodup) (items : List β) :
    ((groupUnder key value groups items).map Prod.fst).Nodup := by
  induction items generalizing groups with
  | nil => exact hnodup
  | cons x items ih =>
    apply ih
    rw [map_fst_appendUnder]
    split_ifs with hmem
    · exact hnodup
    · rw [List.nodup_append]
      refine ⟨hnodup, List.nodup_singleton _, ?_⟩
      rintro k hk k' hk' rfl
      exact hmem (List.mem_singleton.mp hk' ▸ hk)

lemma lookup_groupUnder (key : β → String) (value : β → α) (groups : List (String × List α))
    (items : List β) (k : String) :
    ((groupUnder key value groups items).lookup k).getD [] =
      (groups.lookup k).getD [] ++ (items.filter fun x => decide (key x = k)).map value := by
  induction items generalizing groups with
  | nil => simp [groupUnder]
  | cons x items ih =>
    rw [groupUnder_cons, ih, lookup_appendUnder]
    by_cases hx : key x = k
    · rw [if_pos hx, List.filter_cons_of_pos (by simpa using hx), List.map_cons, List.append_assoc,
        List.singleton_append]
    · rw [if_neg hx, List.filter_cons_of_neg (by simpa using hx), List.append_nil]

/-- Items that have a key go under it, and the others nowhere. -/
lemma foldl_eq_groupUnder {key : β → Option String} {value : β → α}
    {step : List (String × List α) → β → List (String × List α)}
    (hsome : ∀ groups x k, key x = some k → step groups x = appendUnder k (value x) groups)
    (hnone : ∀ groups x, key x = none → step groups x = groups) (items : List β)
    (groups : List (String × List α)) :
    items.foldl step groups =
      groupUnder (fun x => (key x).getD "") value groups
        (items.filter fun x => (key x).isSome) := by
  induction items generalizing groups with
  | nil => rfl
  | cons x items ih =>
    cases hkey : key x with
    | none =>
      rw [List.foldl_cons, hnone groups x hkey, ih, List.filter_cons_of_neg (by simp [hkey])]
    | some k =>
      have hstep : groupUnder (fun x => (key x).getD "") value groups
          (x :: items.filter fun x => (key x).isSome) =
            groupUnder (fun x => (key x).getD "") value
              (appendUnder ((key x).getD "") (value x) groups)
              (items.filter fun x => (key x).isSome) := rfl
      rw [List.foldl_cons, hsome groups x k hkey, ih, List.filter_cons_of_pos (by simp [hkey]),
        hstep, hkey, Option.getD_some]

/-- The groups of items: each key that occurs, with its items in their order. -/
lemma mem_groupUnder {key : β → String} {value : β → α} {items : List β} {group : String × List α} :
    group ∈ groupUnder key value [] items ↔
      (∃ x ∈ items, key x = group.1) ∧
        group.2 = (items.filter fun x => decide (key x = group.1)).map value := by
  have hvalues : ∀ g ∈ groupUnder key value [] items,
      g.2 = (items.filter fun x => decide (key x = g.1)).map value := by
    intro g hg
    have hnodup : ((groupUnder key value [] items).map Prod.fst).Nodup := by
      apply nodup_keys_groupUnder
      exact List.nodup_nil
    have hfound := (SetDefault.lookup_eq_some_iff_mem hnodup).mpr hg
    have hlookup := lookup_groupUnder key value [] items g.1
    rw [hfound] at hlookup
    simpa using hlookup
  constructor
  · intro hgroup
    have hkey := mem_keys_groupUnder.mp (List.mem_map_of_mem (f := Prod.fst) hgroup)
    exact ⟨hkey.resolve_left List.not_mem_nil, hvalues group hgroup⟩
  · rintro ⟨hkey, hitems⟩
    have hmem : group.1 ∈ (groupUnder key value [] items).map Prod.fst :=
      mem_keys_groupUnder.mpr (Or.inr hkey)
    obtain ⟨g, hg, hfst⟩ := List.mem_map.mp hmem
    have hsame : g = group := by
      refine Prod.ext hfst ?_
      rw [hvalues g hg, hitems, hfst]
    exact hsame ▸ hg

/-- Under each of its keys a group has something. -/
lemma ne_nil_of_mem_groupUnder {key : β → String} {value : β → α}
    {groups : List (String × List α)} (hne : ∀ group ∈ groups, group.2 ≠ []) (items : List β) :
    ∀ group ∈ groupUnder key value groups items, group.2 ≠ [] := by
  induction items generalizing groups with
  | nil => exact hne
  | cons x items ih =>
    apply ih
    have hstep : ∀ groups : List (String × List α), (∀ group ∈ groups, group.2 ≠ []) →
        ∀ group ∈ appendUnder (key x) (value x) groups, group.2 ≠ [] := by
      intro groups
      induction groups with
      | nil =>
        intro _ group hgroup
        rw [List.mem_singleton.mp hgroup]
        simp
      | cons first rest ih' =>
        intro hne group hgroup
        obtain ⟨k, as⟩ := first
        unfold appendUnder at hgroup
        split_ifs at hgroup
        · rcases List.mem_cons.mp hgroup with rfl | hrest
          · simp
          · exact hne group (List.mem_cons_of_mem _ hrest)
        · rcases List.mem_cons.mp hgroup with rfl | hrest
          · exact hne _ List.mem_cons_self
          · exact ih' (fun g hg => hne g (List.mem_cons_of_mem _ hg)) group hrest
    exact hstep groups hne

end Groups

/-! ## The sockets of a category -/

section Sockets

variable {u : Unicode} {ports : List ListenPort}

/-- The sockets that are taken are selected ones of the list. -/
lemma mem_of_mem_firstOfEach {select : ListenPort → Bool} {p : ListenPort}
    (hp : p ∈ firstOfEach select ports) : p ∈ ports ∧ select p = true := by
  have hfold : ∀ (ports result : List ListenPort), p ∈ ports.foldl
      (fun result p =>
        if p.matched ∈ result.map ListenPort.matched ∨ select p = false then result
        else result ++ [p]) result → p ∈ result ∨ p ∈ ports ∧ select p = true := by
    intro ports
    induction ports with
    | nil => exact fun result h => Or.inl h
    | cons q ports ih =>
      intro result h
      rcases ih _ h with hresult | ⟨hmem, hselect⟩
      · simp only at hresult
        split_ifs at hresult with hskip
        · exact Or.inl hresult
        · rcases List.mem_append.mp hresult with hold | hnew
          · exact Or.inl hold
          · obtain rfl := List.mem_singleton.mp hnew
            rw [not_or, Bool.not_eq_false] at hskip
            exact Or.inr ⟨List.mem_cons_self, hskip.2⟩
      · exact Or.inr ⟨List.mem_cons_of_mem q hmem, hselect⟩
  rcases hfold ports [] hp with hnil | hmem
  · exact absurd hnil List.not_mem_nil
  · exact hmem

/-- The sockets that are evidence of a category, each protocol and port once. -/
def classifiedSockets (u : Unicode) (ports : List ListenPort) : List ListenPort :=
  firstOfEach (fun p => (listenCategory u p).isSome) (sortedPorts ports)

lemma isSome_of_mem_classifiedSockets {p : ListenPort} (hp : p ∈ classifiedSockets u ports) :
    (listenCategory u p).isSome = true :=
  (mem_of_mem_firstOfEach hp).2

/-- Sockets with a category go under it. -/
lemma detectListenCategories_eq (u : Unicode) (ports : List ListenPort) :
    detectListenCategories u ports =
      groupUnder (fun p => (listenCategory u p).getD "") ListenPort.matched []
        (classifiedSockets u ports) := by
  have hall : (classifiedSockets u ports).filter (fun p => (listenCategory u p).isSome) =
      classifiedSockets u ports :=
    List.filter_eq_self.mpr fun p hp => isSome_of_mem_classifiedSockets hp
  have hsome : ∀ groups p category, listenCategory u p = some category →
      addSocket u groups p = appendUnder category p.matched groups := by
    intro groups p category hcategory
    unfold addSocket
    rw [hcategory]
  have hnone : ∀ groups p, listenCategory u p = none → addSocket u groups p = groups := by
    intro groups p hcategory
    unfold addSocket
    rw [hcategory]
  have hfold := foldl_eq_groupUnder hsome hnone (classifiedSockets u ports) []
  rw [hall] at hfold
  exact hfold

/-- The categories of sockets are those of the sockets that are evidence of one. -/
lemma mem_keys_detectListenCategories {category : String} :
    category ∈ (detectListenCategories u ports).map Prod.fst ↔
      ∃ p ∈ classifiedSockets u ports, listenCategory u p = some category := by
  rw [detectListenCategories_eq, mem_keys_groupUnder]
  simp only [List.map_nil, List.not_mem_nil, false_or]
  refine exists_congr fun p => and_congr_right fun hp => ?_
  obtain ⟨c, hc⟩ := Option.isSome_iff_exists.mp (isSome_of_mem_classifiedSockets hp)
  rw [hc, Option.getD_some, Option.some.injEq]

lemma nodup_keys_detectListenCategories (u : Unicode) (ports : List ListenPort) :
    ((detectListenCategories u ports).map Prod.fst).Nodup := by
  rw [detectListenCategories_eq]
  apply nodup_keys_groupUnder
  exact List.nodup_nil

end Sockets

end AssessmentEngine
