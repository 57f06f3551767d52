import Mathlib.Data.List.DropRight

/-!
# Tokens of a text

A text is a list of letters, some of which are blank.  `strip` removes the blanks at both ends and
`cut` divides a text at the first occurrence of a separator.  When the separator is not blank it
does not matter whether a text is stripped before it is cut (`cut_strip`).
-/

namespace Tokens

variable {α : Type*} (blank : α → Bool)

/-- The text without the blanks at its ends. -/
def strip (xs : List α) : List α := (xs.dropWhile blank).rdropWhile blank

/-- The text before and after the first occurrence of the separator. -/
def cut [DecidableEq α] (sep : α) : List α → Option (List α × List α)
  | [] => none
  | x :: xs => if x = sep then some ([], xs) else (cut sep xs).map fun p => (x :: p.1, p.2)

section Cut

variable [DecidableEq α] {sep : α}

lemma cut_append {a : List α} (ha : sep ∉ a) (b : List α) :
    cut sep (a ++ sep :: b) = some (a, b) := by
  induction a with
  | nil => simp [cut]
  | cons x a ih =>
    obtain ⟨hx, ha⟩ := not_or.mp (mt List.mem_cons.mpr ha)
    have hrest : cut sep (a ++ sep :: b) = some (a, b) := ih ha
    rw [List.cons_append, cut, if_neg (Ne.symm hx), hrest]
    rfl

lemma cut_eq_some_iff {xs a b : List α} :
    cut sep xs = some (a, b) ↔ xs = a ++ sep :: b ∧ sep ∉ a := by
  constructor
  · intro h
    induction xs generalizing a with
    | nil => exact absurd h (by simp [cut])
    | cons x xs ih =>
      rw [cut] at h
      split_ifs at h with hx
      · obtain ⟨rfl, rfl⟩ := Prod.mk.injEq .. ▸ Option.some.inj h
        exact ⟨by rw [hx]; rfl, by simp⟩
      · obtain ⟨⟨a, b⟩, hrest, hp⟩ := Option.map_eq_some_iff.mp h
        obtain ⟨rfl, rfl⟩ := Prod.mk.injEq .. ▸ hp
        obtain ⟨rfl, hnotin⟩ := ih hrest
        refine ⟨rfl, ?_⟩
        intro hmem
        rcases List.mem_cons.mp hmem with heq | hmem
        · exact hx heq.symm
        · exact hnotin hmem
  · rintro ⟨rfl, ha⟩
    exact cut_append ha b

lemma cut_eq_none_iff {xs : List α} : cut sep xs = none ↔ sep ∉ xs := by
  constructor
  · intro hnone hmem
    obtain ⟨a, b, rfl, ha⟩ := List.eq_append_cons_of_mem hmem
    rw [cut_append ha] at hnone
    exact Option.some_ne_none _ hnone
  · intro hnotin
    by_contra hsome
    obtain ⟨⟨a, b⟩, hcut⟩ := Option.ne_none_iff_exists'.mp hsome
    obtain ⟨rfl, -⟩ := cut_eq_some_iff.mp hcut
    exact hnotin (by simp)

end Cut

/-! ### Splitting -/

section Split

variable [DecidableEq α] {sep : α}

/-- A letter of a text is a separator or stands in one of the parts. -/
lemma mem_splitOn (sep : α) {x : α} {xs : List α} (h : x ∈ xs) :
    x = sep ∨ ∃ part ∈ xs.splitOn sep, x ∈ part := by
  rw [← xs.intercalate_splitOn sep] at h
  generalize xs.splitOn sep = parts at h ⊢
  induction parts with
  | nil => simp at h
  | cons part parts ih =>
    cases parts with
    | nil => exact .inr ⟨part, by simp, by simpa using h⟩
    | cons part' parts =>
      rw [List.intercalate_cons_cons, List.append_assoc, List.mem_append, List.mem_append] at h
      rcases h with h | h | h
      · exact .inr ⟨part, List.mem_cons_self, h⟩
      · exact .inl (List.mem_singleton.mp h)
      · refine (ih h).imp_right ?_
        rintro ⟨part'', hmem, hx⟩
        exact ⟨part'', List.mem_cons_of_mem _ hmem, hx⟩

/-- A text that does not begin with a separator begins with the first letter of its first part. -/
lemma splitOn_cons_of_ne {x : α} (hx : x ≠ sep) (xs : List α) :
    ∃ part parts, (x :: xs).splitOn sep = (x :: part) :: parts := by
  rw [List.splitOn_cons_eq_if_modifyHead, if_neg (by simpa using hx)]
  cases hparts : xs.splitOn sep with
  | nil => exact absurd hparts (List.splitOn_ne_nil _ _)
  | cons part parts => exact ⟨part, parts, rfl⟩

end Split

/-! ### Stripping -/

section Strip

variable {blank}

lemma rdropWhile_cons (x : α) (xs : List α) :
    (x :: xs).rdropWhile blank =
      if blank x = true ∧ xs.rdropWhile blank = [] then [] else x :: xs.rdropWhile blank := by
  split_ifs with h
  · obtain ⟨hx, hxs⟩ := h
    rw [List.rdropWhile_eq_nil_iff] at hxs ⊢
    exact List.forall_mem_cons.mpr ⟨hx, hxs⟩
  · unfold List.rdropWhile at h ⊢
    rw [List.reverse_cons, List.dropWhile_append]
    by_cases hnil : List.dropWhile blank xs.reverse = []
    · have hx : ¬ blank x = true := fun hx => h ⟨hx, by rw [hnil, List.reverse_nil]⟩
      simp [hnil, hx]
    · simp [hnil]

/-- Blanks may be removed from either end first. -/
lemma dropWhile_rdropWhile (xs : List α) :
    (xs.rdropWhile blank).dropWhile blank = (xs.dropWhile blank).rdropWhile blank := by
  induction xs with
  | nil => rfl
  | cons x xs ih =>
    rw [rdropWhile_cons, List.dropWhile_cons]
    by_cases hx : blank x = true
    · by_cases hnil : xs.rdropWhile blank = []
      · rw [hnil] at ih
        simpa [hx, hnil] using ih
      · simpa [hx, hnil] using ih
    · simp [hx, rdropWhile_cons]

lemma strip_dropWhile (xs : List α) : strip blank (xs.dropWhile blank) = strip blank xs := by
  unfold strip
  rw [List.dropWhile_idempotent]

lemma strip_rdropWhile (xs : List α) : strip blank (xs.rdropWhile blank) = strip blank xs := by
  unfold strip
  rw [dropWhile_rdropWhile, List.rdropWhile_idempotent]

lemma strip_strip (xs : List α) : strip blank (strip blank xs) = strip blank xs := by
  calc strip blank (strip blank xs)
      = strip blank (xs.dropWhile blank) := strip_rdropWhile _
    _ = strip blank xs := strip_dropWhile xs

/-- Stripping stops at a letter that is not blank. -/
lemma strip_append_cons {x : α} (hx : blank x = false) (a b : List α) :
    strip blank (a ++ x :: b) = a.dropWhile blank ++ x :: b.rdropWhile blank := by
  have hcons : ∀ c : List α, (c ++ x :: b).rdropWhile blank = c ++ x :: b.rdropWhile blank := by
    intro c
    induction c with
    | nil => simp [rdropWhile_cons, hx]
    | cons y c ih => simp [rdropWhile_cons, ih]
  unfold strip
  rw [List.dropWhile_append]
  split_ifs with hnil
  · rw [List.isEmpty_iff] at hnil
    have hdrop : (x :: b).dropWhile blank = x :: b := by simp [hx]
    rw [hdrop, hnil]
    exact hcons []
  · exact hcons _

/-- What is removed from the end does not reach into the letters before the first blank. -/
lemma takeWhile_rdropWhile (xs : List α) :
    (xs.rdropWhile blank).takeWhile (fun x => !blank x) = xs.takeWhile fun x => !blank x := by
  induction xs with
  | nil => rfl
  | cons x xs ih =>
    rw [rdropWhile_cons]
    split_ifs with h
    · simp [h.1]
    · by_cases hx : blank x = true
      · simp [hx]
      · simp [hx, ih]

variable [DecidableEq α] {sep : α}

/-- A text may be cut before its ends are stripped. -/
lemma cut_strip (hsep : blank sep = false) (xs : List α) :
    cut sep (strip blank xs) =
      (cut sep xs).map fun p => (p.1.dropWhile blank, p.2.rdropWhile blank) := by
  by_cases hmem : sep ∈ xs
  · obtain ⟨a, b, rfl, ha⟩ := List.eq_append_cons_of_mem hmem
    have ha' : sep ∉ a.dropWhile blank := mt (List.dropWhile_sublist blank).mem ha
    rw [strip_append_cons hsep, cut_append ha', cut_append ha]
    rfl
  · have hstrip : sep ∉ strip blank xs := by
      intro h
      have hdrop : sep ∈ xs.dropWhile blank := (List.rdropWhile_prefix blank _).mem h
      exact hmem ((List.dropWhile_sublist blank).mem hdrop)
    rw [cut_eq_none_iff.mpr hstrip, cut_eq_none_iff.mpr hmem]
    rfl

end Strip

end Tokens
