import Mathlib.Data.List.Nodup

/-!
# Entries with a default

A dictionary kept as the list of its entries, in the order in which they were made.
`setDefault key default change` makes the entry of the key when there is none and changes its
value (`lookup_setDefault_self`); the other entries stay as they are (`lookup_setDefault_of_ne`).
After a whole list each key has what the elements of that key make (`lookup_fill`).
-/

namespace SetDefault

variable {κ β ε : Type*} [BEq κ]

/-- `d.setdefault(key, default)`, changed. -/
def setDefault (key : κ) (default : β) (change : β → β) : List (κ × β) → List (κ × β)
  | [] => [(key, change default)]
  | (k, b) :: rest =>
    if k == key then (k, change b) :: rest else (k, b) :: setDefault key default change rest

variable [LawfulBEq κ]

lemma lookup_setDefault_self (key : κ) (default : β) (change : β → β) (d : List (κ × β)) :
    (setDefault key default change d).lookup key = some (change ((d.lookup key).getD default)) := by
  induction d with
  | nil =>
    unfold setDefault
    rw [List.lookup_cons, beq_self_eq_true]
    rfl
  | cons entry d ih =>
    obtain ⟨k, b⟩ := entry
    unfold setDefault
    by_cases hk : k = key
    · subst hk
      simp
    · have hleft : (k == key) = false := beq_eq_false_iff_ne.mpr hk
      have hright : (key == k) = false := beq_eq_false_iff_ne.mpr (Ne.symm hk)
      rw [hleft, if_neg Bool.false_ne_true, List.lookup_cons, List.lookup_cons, hright]
      exact ih

/-- The other keys keep what they have. -/
lemma lookup_setDefault_of_ne {key k : κ} (hne : key ≠ k) (default : β) (change : β → β)
    (d : List (κ × β)) : (setDefault key default change d).lookup k = d.lookup k := by
  induction d with
  | nil =>
    have hfalse : (k == key) = false := beq_eq_false_iff_ne.mpr (Ne.symm hne)
    unfold setDefault
    rw [List.lookup_cons, hfalse]
  | cons entry d ih =>
    obtain ⟨k', b⟩ := entry
    unfold setDefault
    by_cases hk : k' = key
    · subst hk
      have hfalse : (k == k') = false := beq_eq_false_iff_ne.mpr (Ne.symm hne)
      rw [beq_self_eq_true, if_pos rfl, List.lookup_cons, List.lookup_cons, hfalse]
    · have hfalse : (k' == key) = false := beq_eq_false_iff_ne.mpr hk
      rw [hfalse, if_neg Bool.false_ne_true, List.lookup_cons, List.lookup_cons, ih]

/-- Of entries with different keys, those of a key are what the key has. -/
lemma lookup_eq_some_iff_mem {d : List (κ × β)} (hd : (d.map Prod.fst).Nodup) {k : κ} {b : β} :
    d.lookup k = some b ↔ (k, b) ∈ d := by
  induction d with
  | nil => simp
  | cons entry d ih =>
    obtain ⟨key, value⟩ := entry
    obtain ⟨hkey, hd⟩ := List.nodup_cons.mp hd
    rw [List.lookup_cons, List.mem_cons, Prod.mk.injEq]
    by_cases hk : k = key
    · subst hk
      have hnot : (k, b) ∉ d := fun hmem => hkey (List.mem_map.mpr ⟨_, hmem, rfl⟩)
      simp [hnot, eq_comm]
    · rw [beq_eq_false_iff_ne.mpr hk]
      simpa [hk] using ih hd

lemma isSome_lookup_iff {d : List (κ × β)} {k : κ} :
    (d.lookup k).isSome = true ↔ k ∈ d.map Prod.fst := by
  rw [List.lookup_isSome_iff, List.mem_map]
  exact exists_congr fun e => and_congr_right fun _ => by rw [beq_iff_eq, eq_comm]

/-- Of values that show their keys, those of a key are what the key has. -/
lemma filter_values {key : β → κ} {d : List (κ × β)} (hd : (d.map Prod.fst).Nodup)
    (hkeys : ∀ e ∈ d, key e.2 = e.1) (k : κ) :
    (d.map Prod.snd).filter (fun b => key b == k) = (d.lookup k).toList := by
  induction d with
  | nil => rfl
  | cons entry d ih =>
    obtain ⟨held, value⟩ := entry
    obtain ⟨hnot, hd⟩ := List.nodup_cons.mp hd
    obtain ⟨hkey, hkeys⟩ := List.forall_mem_cons.mp hkeys
    rw [List.map_cons, List.lookup_cons]
    by_cases hk : held = k
    · subst hk
      rw [List.filter_cons_of_pos (by simpa using hkey), ih hd hkeys, beq_self_eq_true]
      have hnone : d.lookup held = none := by
        rw [List.lookup_eq_none_iff]
        exact fun e he => by simpa using fun heq => hnot (List.mem_map.mpr ⟨e, he, heq.symm⟩)
      rw [hnone]
      rfl
    · rw [List.filter_cons_of_neg (by simpa [hkey] using hk), ih hd hkeys,
        beq_eq_false_iff_ne.mpr (Ne.symm hk)]

lemma setDefault_of_not_mem {key : κ} {d : List (κ × β)} (hkey : key ∉ d.map Prod.fst)
    (default : β) (change : β → β) :
    setDefault key default change d = d ++ [(key, change default)] := by
  induction d with
  | nil => rfl
  | cons entry d ih =>
    obtain ⟨k, b⟩ := entry
    obtain ⟨hk, hd⟩ := not_or.mp (mt List.mem_cons.mpr hkey)
    unfold setDefault
    rw [beq_eq_false_iff_ne.mpr (Ne.symm hk), if_neg Bool.false_ne_true, ih hd, List.cons_append]

/-! ## What all entries have in common -/

lemma map_fst_setDefault (key : κ) (default : β) (change : β → β) (d : List (κ × β)) :
    (setDefault key default change d).map Prod.fst =
      if key ∈ d.map Prod.fst then d.map Prod.fst else d.map Prod.fst ++ [key] := by
  classical
  induction d with
  | nil => rfl
  | cons entry d ih =>
    obtain ⟨k, b⟩ := entry
    unfold setDefault
    by_cases hk : k = key
    · subst hk
      simp
    · have hfalse : (k == key) = false := beq_eq_false_iff_ne.mpr hk
      rw [hfalse, if_neg Bool.false_ne_true, List.map_cons, ih, List.map_cons]
      have hmem : key ∈ k :: d.map Prod.fst ↔ key ∈ d.map Prod.fst := by
        rw [List.mem_cons, or_iff_right (Ne.symm hk)]
      by_cases hd : key ∈ d.map Prod.fst
      · rw [if_pos hd, if_pos (hmem.mpr hd)]
      · rw [if_neg hd, if_neg (mt hmem.mp hd), List.cons_append]

/-- Each key has one entry. -/
lemma nodup_setDefault {d : List (κ × β)} (hd : (d.map Prod.fst).Nodup) (key : κ) (default : β)
    (change : β → β) : ((setDefault key default change d).map Prod.fst).Nodup := by
  classical
  rw [map_fst_setDefault]
  split_ifs with hkey
  · exact hd
  · exact List.nodup_append.mpr ⟨hd, List.nodup_singleton _, by
      intro a ha b hb heq
      rw [List.mem_singleton.mp hb] at heq
      exact hkey (heq ▸ ha)⟩

/-- What holds of the entries and of the value that is made or changed holds afterwards. -/
lemma forall_setDefault {P : κ × β → Prop} {key : κ} {default : β} {change : β → β}
    {d : List (κ × β)} (hd : ∀ e ∈ d, P e) (hnew : P (key, change default))
    (hold : ∀ b, P (key, b) → P (key, change b)) : ∀ e ∈ setDefault key default change d, P e := by
  induction d with
  | nil =>
    intro e he
    rw [List.mem_singleton.mp he]
    exact hnew
  | cons entry d ih =>
    obtain ⟨k, b⟩ := entry
    obtain ⟨hentry, hrest⟩ := List.forall_mem_cons.mp hd
    unfold setDefault
    by_cases hk : k = key
    · subst hk
      rw [beq_self_eq_true, if_pos rfl]
      exact List.forall_mem_cons.mpr ⟨hold b hentry, hrest⟩
    · rw [beq_eq_false_iff_ne.mpr hk, if_neg Bool.false_ne_true]
      exact List.forall_mem_cons.mpr ⟨hentry, ih hrest⟩

section Fold

variable {ε : Type*} (key : ε → κ) (default : ε → β) (change : ε → β → β)

/-- A dictionary filled from a list, element by element. -/
def fill (l : List ε) (d : List (κ × β)) : List (κ × β) :=
  l.foldl (fun d a => setDefault (key a) (default a) (change a) d) d

variable {key default change}

lemma nodup_fill (l : List ε) {d : List (κ × β)} (hd : (d.map Prod.fst).Nodup) :
    ((fill key default change l d).map Prod.fst).Nodup := by
  induction l generalizing d with
  | nil => exact hd
  | cons a l ih => exact ih (nodup_setDefault hd _ _ _)

lemma forall_fill {P : κ × β → Prop} {l : List ε} {d : List (κ × β)} (hd : ∀ e ∈ d, P e)
    (hnew : ∀ a ∈ l, P (key a, change a (default a)))
    (hold : ∀ a ∈ l, ∀ b, P (key a, b) → P (key a, change a b)) :
    ∀ e ∈ fill key default change l d, P e := by
  induction l generalizing d with
  | nil => exact hd
  | cons a l ih =>
    obtain ⟨hnewa, hnew⟩ := List.forall_mem_cons.mp hnew
    obtain ⟨holda, hold⟩ := List.forall_mem_cons.mp hold
    exact ih (forall_setDefault hd hnewa holda) hnew hold

/-- What a key has after the elements is the outcome of those with the key. -/
lemma lookup_fill (l : List ε) (d : List (κ × β)) (k : κ) :
    (fill key default change l d).lookup k =
      (l.filter fun a => key a == k).foldl
        (fun held a => some (change a (held.getD (default a)))) (d.lookup k) := by
  induction l generalizing d with
  | nil => rfl
  | cons a l ih =>
    have hstep : fill key default change (a :: l) d =
        fill key default change l (setDefault (key a) (default a) (change a) d) := rfl
    rw [hstep, ih]
    by_cases hk : key a = k
    · subst hk
      rw [lookup_setDefault_self, List.filter_cons_of_pos (by simp), List.foldl_cons]
    · rw [lookup_setDefault_of_ne hk, List.filter_cons_of_neg (by simpa using hk)]

/-- The keys are those that were there and those of the elements. -/
lemma mem_map_fst_fill {l : List ε} {d : List (κ × β)} {k : κ} :
    k ∈ (fill key default change l d).map Prod.fst ↔ k ∈ d.map Prod.fst ∨ ∃ a ∈ l, key a = k := by
  induction l generalizing d with
  | nil => simp [fill]
  | cons a l ih =>
    have hstep : fill key default change (a :: l) d =
        fill key default change l (setDefault (key a) (default a) (change a) d) := rfl
    have hkeys : k ∈ (setDefault (key a) (default a) (change a) d).map Prod.fst ↔
        k ∈ d.map Prod.fst ∨ key a = k := by
      classical
      rw [map_fst_setDefault]
      split_ifs with hmem
      · exact ⟨Or.inl, Or.rec id fun heq => heq ▸ hmem⟩
      · rw [List.mem_append, List.mem_singleton, eq_comm]
    rw [hstep, ih, hkeys, or_assoc]
    simp only [List.mem_cons, exists_eq_or_imp]

/-- Elements with different keys make an entry each. -/
lemma fill_eq_map {l : List ε} (hl : (l.map key).Nodup) :
    fill key default change l [] = l.map fun a => (key a, change a (default a)) := by
  have happend : ∀ d : List (κ × β), (∀ a ∈ l, key a ∉ d.map Prod.fst) →
      fill key default change l d = d ++ l.map fun a => (key a, change a (default a)) := by
    induction l with
    | nil => exact fun d _ => (List.append_nil d).symm
    | cons a l ih =>
      intro d hd
      obtain ⟨ha, hl⟩ := List.nodup_cons.mp hl
      obtain ⟨hda, hd⟩ := List.forall_mem_cons.mp hd
      have hstep : fill key default change (a :: l) d =
          fill key default change l (d ++ [(key a, change a (default a))]) := by
        rw [← setDefault_of_not_mem hda]
        rfl
      rw [hstep, ih hl, List.append_assoc, List.map_cons, List.singleton_append]
      intro b hb hmem
      rw [List.map_append, List.mem_append, List.map_singleton, List.mem_singleton] at hmem
      rcases hmem with hmem | hmem
      · exact hd b hb hmem
      · exact ha (List.mem_map.mpr ⟨b, hb, hmem⟩)
  exact happend [] (by simp)

/-- Where the first element of a key stays, it is what the key has. -/
lemma lookup_fill_first {key : β → κ} (l : List β) (k : κ) :
    (fill key (fun b => b) (fun _ first => first) l []).lookup k =
      l.find? fun b => key b == k := by
  rw [lookup_fill, ← List.head?_filter, List.lookup_nil]
  cases l.filter fun b => key b == k with
  | nil => rfl
  | cons first rest =>
    rw [List.foldl_cons, Option.getD_none, List.head?_cons]
    induction rest with
    | nil => rfl
    | cons b rest ih => exact ih

/-- Where the elements of a key are gathered, it has all of them in order. -/
lemma lookup_fill_gather {γ δ : Type*} {key : ε → κ} {head : ε → γ} {item : ε → δ} (l : List ε)
    (k : κ) :
    (fill key (fun a => (head a, [])) (fun a held => (held.1, held.2 ++ [item a])) l []).lookup k =
      ((l.filter fun a => key a == k).head?.map fun first =>
        (head first, (l.filter fun a => key a == k).map item)) := by
  rw [lookup_fill, List.lookup_nil]
  cases l.filter fun a => key a == k with
  | nil => rfl
  | cons first rest =>
    rw [List.foldl_cons, Option.getD_none, List.head?_cons, Option.map_some, List.map_cons,
      List.nil_append]
    have hgather : ∀ held : List δ, rest.foldl
        (fun (o : Option (γ × List δ)) a =>
          some ((o.getD (head a, [])).1, (o.getD (head a, [])).2 ++ [item a]))
        (some (head first, held)) = some (head first, held ++ rest.map item) := by
      induction rest with
      | nil => exact fun held => by rw [List.map_nil, List.append_nil]; rfl
      | cons a rest ih =>
        intro held
        rw [List.foldl_cons, Option.getD_some, ih, List.map_cons, List.append_assoc,
          List.singleton_append]
    exact hgather [item first]

/-- Where the elements of a key are listed, the entries are the lists that are not empty. -/
lemma mem_fill_list {key : ε → κ} {l : List ε} {k : κ} {group : List ε} :
    (k, group) ∈ fill key (fun _ => []) (fun a held => held ++ [a]) l [] ↔
      (l.filter fun a => key a == k) = group ∧ group ≠ [] := by
  have hnodup : ((fill key (fun _ => []) (fun a held => held ++ [a]) l []).map Prod.fst).Nodup :=
    nodup_fill l List.nodup_nil
  rw [← lookup_eq_some_iff_mem hnodup, lookup_fill, List.lookup_nil]
  have hlist : ∀ (rest held : List ε), rest.foldl
      (fun (o : Option (List ε)) a => some (o.getD [] ++ [a])) (some held) =
        some (held ++ rest) := by
    intro rest
    induction rest with
    | nil => exact fun held => by rw [List.append_nil]; rfl
    | cons a rest ih =>
      intro held
      rw [List.foldl_cons, Option.getD_some, ih, List.append_assoc, List.singleton_append]
  cases l.filter fun a => key a == k with
  | nil =>
    refine iff_of_false (by simp) ?_
    rintro ⟨rfl, hne⟩
    exact hne rfl
  | cons first rest =>
    rw [List.foldl_cons, Option.getD_none, List.nil_append, hlist, List.singleton_append,
      Option.some_inj]
    constructor
    · rintro rfl
      exact ⟨rfl, List.cons_ne_nil _ _⟩
    · exact And.left

end Fold

end SetDefault
