import Mathlib.Data.List.Sort
import Mathlib.Order.MinMax

/-!
# Pages under a cursor

A list that is read page by page: each call answers with the first rows, newest first, that its
cursor sees, and the time of the last of them is the cursor of the next call, until a page is empty
(`walk`).  The pages never repeat a row (`sublist_of_walk`).  They reach every row exactly when no
page ends between rows of one time, where a cursor sees what is older than it
(`flatten_olderPages_iff`), and, where it sees no further than a window, when no row lies beyond the
window of the one before it (`flatten_windowPages_iff`).
-/

namespace CursorPages

variable {ι ρ τ : Type*}

/-! ## Calls -/

/-- The pages that the calls give; the calls are numbered, and `none` is that they ran out. -/
def walk (time : ι → τ) (answer : ℕ → Option τ → List ι) :
    ℕ → ℕ → Option τ → Option (List (List ι))
  | 0, _, _ => none
  | calls + 1, k, cursor =>
    match (answer k cursor).getLast? with
    | none => some []
    | some last =>
      (walk time answer calls (k + 1) (some (time last))).map fun pages =>
        answer k cursor :: pages

/-- What is read off the rows of a walk is a walk of what is read off the answers. -/
lemma walk_map (g : ι → ρ) (time : ρ → τ) (answer : ℕ → Option τ → List ι) (calls k : ℕ)
    (cursor : Option τ) :
    (walk (fun i => time (g i)) answer calls k cursor).map (List.map (List.map g)) =
      walk time (fun k cursor => (answer k cursor).map g) calls k cursor := by
  induction calls generalizing k cursor with
  | zero => rfl
  | succ calls ih =>
    unfold walk
    rw [List.getLast?_map]
    cases (answer k cursor).getLast? with
    | none => rfl
    | some last =>
      simp only [Option.map_some, ← ih, Option.map_map]
      rfl

/-- Only the first call may have no cursor. -/
lemma walk_congr {time : ι → τ} {answer answer' : ℕ → Option τ → List ι}
    (h : ∀ k c, answer k (some c) = answer' k (some c)) {k : ℕ} {cursor : Option τ}
    (hfirst : answer k cursor = answer' k cursor) (calls : ℕ) :
    walk time answer calls k cursor = walk time answer' calls k cursor := by
  induction calls generalizing k cursor with
  | zero => rfl
  | succ calls ih =>
    unfold walk
    rw [hfirst]
    cases (answer' k cursor).getLast? with
    | none => rfl
    | some last =>
      simp only
      rw [ih (h (k + 1) (time last))]

/-- The first call found nothing, or the other pages follow its page. -/
lemma walk_succ_eq_some {time : ι → τ} {answer : ℕ → Option τ → List ι} {calls k : ℕ}
    {cursor : Option τ} {pages : List (List ι)}
    (h : walk time answer (calls + 1) k cursor = some pages) :
    (answer k cursor = [] ∧ pages = []) ∨
      ∃ last ∈ (answer k cursor).getLast?, ∃ rest,
        walk time answer calls (k + 1) (some (time last)) = some rest ∧
          pages = answer k cursor :: rest := by
  unfold walk at h
  cases hlast : (answer k cursor).getLast? with
  | none =>
    rw [hlast] at h
    exact Or.inl ⟨List.getLast?_eq_none_iff.mp hlast, (Option.some_inj.mp h).symm⟩
  | some last =>
    rw [hlast] at h
    obtain ⟨rest, hrest, rfl⟩ := Option.map_eq_some_iff.mp h
    exact Or.inr ⟨last, rfl, rest, hrest, rfl⟩

section Enough

variable [LinearOrder τ] {time : ρ → τ} {answer : ℕ → Option τ → List ρ} {rows : List ρ}
  (hmem : ∀ k cursor, ∀ r ∈ answer k cursor, r ∈ rows)
  (hbefore : ∀ k c, ∀ r ∈ answer k (some c), time r < c)

include hmem hbefore

/-- A cursor has fewer rows before it than a later one. -/
lemma walk_isSome_of_cursor {calls k : ℕ} {c : τ}
    (hcalls : (rows.filter fun r => time r < c).length < calls) :
    (walk time answer calls k (some c)).isSome = true := by
  induction calls generalizing k c with
  | zero => omega
  | succ calls ih =>
    unfold walk
    cases hlast : (answer k (some c)).getLast? with
    | none => rfl
    | some last =>
      have hanswer := List.mem_of_getLast? hlast
      have hlt : time last < c := hbefore k c last hanswer
      have hfewer : (rows.filter fun r => time r < time last).length <
          (rows.filter fun r => time r < c).length := by
        have hfilter : (rows.filter fun r => time r < time last) =
            (rows.filter fun r => time r < c).filter fun r => time r < time last := by
          rw [List.filter_filter]
          apply List.filter_congr
          intro r _
          rw [← Bool.decide_and, decide_eq_decide]
          exact (and_iff_left_of_imp fun h => h.trans hlt).symm
        rw [hfilter]
        refine List.length_filter_lt_length_iff_exists.mpr ⟨last, ?_, by simp⟩
        exact List.mem_filter.mpr ⟨hmem _ _ _ hanswer, decide_eq_true hlt⟩
      rw [Option.isSome_map]
      apply ih
      omega

/-- One call more than there are rows is enough. -/
lemma walk_isSome {calls k : ℕ} (hcalls : rows.length < calls) (cursor : Option τ) :
    (walk time answer calls k cursor).isSome = true := by
  cases calls with
  | zero => omega
  | succ calls =>
    unfold walk
    cases hlast : (answer k cursor).getLast? with
    | none => rfl
    | some last =>
      have hfewer : (rows.filter fun r => time r < time last).length < rows.length :=
        List.length_filter_lt_length_iff_exists.mpr
          ⟨last, hmem _ _ _ (List.mem_of_getLast? hlast), by simp⟩
      rw [Option.isSome_map]
      apply walk_isSome_of_cursor hmem hbefore
      omega

end Enough

/-! ## Pages of sorted rows -/

section Page

variable (sees : Option τ → τ → Bool) (time : ρ → τ) (limit : ℕ)

/-- The first rows that a cursor sees. -/
def page (rows : List ρ) (cursor : Option τ) : List ρ :=
  (rows.filter fun r => sees cursor (time r)).take limit

variable {sees time limit}

lemma sublist_page (rows : List ρ) (cursor : Option τ) :
    (page sees time limit rows cursor).Sublist rows :=
  (List.take_sublist _ _).trans List.filter_sublist

lemma sees_of_mem_page {rows : List ρ} {cursor : Option τ} {r : ρ}
    (h : r ∈ page sees time limit rows cursor) : sees cursor (time r) = true :=
  (List.mem_filter.mp (List.mem_of_mem_take h)).2

/-- Rows that the cursor does not see may stand in front. -/
lemma page_append {front : List ρ} {cursor : Option τ}
    (hfront : ∀ r ∈ front, sees cursor (time r) = false) (rows : List ρ) :
    page sees time limit (front ++ rows) cursor = page sees time limit rows cursor := by
  have hnone : (front.filter fun r => sees cursor (time r)) = [] :=
    List.filter_eq_nil_iff.mpr fun r hr => by simp [hfront r hr]
  rw [page, page, List.filter_append, hnone, List.nil_append]

variable [LinearOrder τ] (hsees : ∀ c t, sees (some c) t = true → t < c)

include hsees

/-- The calls for pages of rows end. -/
lemma walk_page_isSome {rows : List ρ} {calls k : ℕ} (hcalls : rows.length < calls)
    (cursor : Option τ) :
    (walk time (fun _ => page sees time limit rows) calls k cursor).isSome = true := by
  apply walk_isSome _ _ hcalls
  · intro _ cursor r hr
    exact (sublist_page rows cursor).subset hr
  · intro _ c r hr
    exact hsees c _ (sees_of_mem_page hr)

/-- So they may for all calls that follow. -/
lemma walk_append {front : List ρ} {c : τ} (hfront : ∀ r ∈ front, c ≤ time r) (rows : List ρ)
    (calls k : ℕ) :
    walk time (fun _ => page sees time limit (front ++ rows)) calls k (some c) =
      walk time (fun _ => page sees time limit rows) calls k (some c) := by
  induction calls generalizing k c with
  | zero => rfl
  | succ calls ih =>
    have hunseen : ∀ r ∈ front, sees (some c) (time r) = false := by
      intro r hr
      apply Bool.eq_false_iff.mpr
      intro h
      exact absurd (hsees c _ h) (not_lt.mpr (hfront r hr))
    unfold walk
    rw [page_append hunseen]
    cases hlast : (page sees time limit rows (some c)).getLast? with
    | none => rfl
    | some last =>
      have hlt : time last < c := hsees c _ (sees_of_mem_page (List.mem_of_getLast? hlast))
      simp only
      rw [ih fun r hr => hlt.le.trans (hfront r hr)]

omit hsees in
/-- A sorted list splits at each time. -/
lemma filter_append_filter {rows : List ρ} (hsorted : rows.Pairwise fun a b => time b ≤ time a)
    (c : τ) :
    ((rows.filter fun r => c ≤ time r) ++ rows.filter fun r => time r < c) = rows := by
  induction rows with
  | nil => rfl
  | cons a rows ih =>
    obtain ⟨ha, hsorted⟩ := List.pairwise_cons.mp hsorted
    by_cases hc : c ≤ time a
    · rw [List.filter_cons_of_pos (by simpa using hc),
        List.filter_cons_of_neg (p := fun r => decide (time r < c)) (by simpa using hc),
        List.cons_append, ih hsorted]
    · have hlt : ∀ r ∈ a :: rows, time r < c := by
        refine List.forall_mem_cons.mpr ⟨not_le.mp hc, fun r hr => ?_⟩
        exact (ha r hr).trans_lt (not_le.mp hc)
      have hnone : ((a :: rows).filter fun r => c ≤ time r) = [] :=
        List.filter_eq_nil_iff.mpr fun r hr => by simpa using hlt r hr
      have hall : ((a :: rows).filter fun r => time r < c) = a :: rows :=
        List.filter_eq_self.mpr fun r hr => decide_eq_true (hlt r hr)
      rw [hnone, hall, List.nil_append]

omit hsees in
/-- The last row of a sorted list is the oldest. -/
lemma le_of_mem_getLast? {rows : List ρ} (hsorted : rows.Pairwise fun a b => time b ≤ time a)
    {last r : ρ} (hlast : last ∈ rows.getLast?) (hr : r ∈ rows) : time last ≤ time r := by
  obtain ⟨front, rfl⟩ := List.getLast?_eq_some_iff.mp hlast
  rcases List.mem_append.mp hr with hr | hr
  · exact (List.pairwise_append.mp hsorted).2.2 r hr last (List.mem_singleton_self _)
  · rw [List.mem_singleton.mp hr]

/-- The pages have rows of the list in their order, and no row twice. -/
lemma sublist_of_walk {rows : List ρ} (hsorted : rows.Pairwise fun a b => time b ≤ time a)
    {calls k : ℕ} {cursor : Option τ} {pages : List (List ρ)}
    (h : walk time (fun _ => page sees time limit rows) calls k cursor = some pages) :
    pages.flatten.Sublist rows := by
  induction calls generalizing k cursor pages rows with
  | zero => cases h
  | succ calls ih =>
    rcases walk_succ_eq_some h with ⟨-, rfl⟩ | ⟨last, hlast, rest, hrest, rfl⟩
    · exact List.nil_sublist _
    · set newer := rows.filter fun r => time last ≤ time r with hnewer
      set older := rows.filter fun r => time r < time last with holder
      have hsplit : newer ++ older = rows := filter_append_filter hsorted (time last)
      have hpage : (page sees time limit rows cursor).Sublist newer := by
        have hsub : (page sees time limit rows cursor).Sublist rows := sublist_page rows cursor
        have hfilter := hsub.filter fun r => decide (time last ≤ time r)
        rwa [List.filter_eq_self.mpr fun r hr =>
          decide_eq_true (le_of_mem_getLast? (hsorted.sublist hsub) hlast hr)] at hfilter
      have hnewerLe : ∀ r ∈ newer, time last ≤ time r := fun r hr =>
        of_decide_eq_true (List.mem_filter.mp hr).2
      have hwalk : walk time (fun _ => page sees time limit older) calls (k + 1)
          (some (time last)) = some rest := by
        rw [← walk_append hsees hnewerLe, hsplit]
        exact hrest
      have hrest : rest.flatten.Sublist older := ih (hsorted.sublist List.filter_sublist) hwalk
      have happend := hpage.append hrest
      rwa [hsplit] at happend

omit [LinearOrder τ] hsees in
/-- The row that comes first is one that the first call sees. -/
lemma sees_of_head {rows : List ρ} {calls k : ℕ} {cursor : Option τ} {pages : List (List ρ)}
    (h : walk time (fun _ => page sees time limit rows) calls k cursor = some pages) {r : ρ}
    (hr : r ∈ pages.flatten.head?) : sees cursor (time r) = true := by
  cases calls with
  | zero => cases h
  | succ calls =>
    rcases walk_succ_eq_some h with ⟨-, rfl⟩ | ⟨last, hlast, rest, -, rfl⟩
    · cases hr
    · have hne : page sees time limit rows cursor ≠ [] :=
        List.ne_nil_of_mem (List.mem_of_getLast? hlast)
      rw [List.flatten_cons, List.head?_append_of_ne_nil _ hne] at hr
      exact sees_of_mem_page (List.mem_of_head? hr)

omit [LinearOrder τ] hsees in
lemma eq_nil_of_walk {calls k : ℕ} {cursor : Option τ} {pages : List (List ρ)}
    (h : walk time (fun _ => page sees time limit []) calls k cursor = some pages) :
    pages = [] := by
  have hpage : ∀ cursor : Option τ, page sees time limit [] cursor = [] :=
    fun _ => by rw [page, List.filter_nil, List.take_nil]
  cases calls with
  | zero => cases h
  | succ calls =>
    rcases walk_succ_eq_some h with ⟨-, hpages⟩ | ⟨last, hlast, -⟩
    · exact hpages
    · rw [hpage] at hlast
      cases hlast

/-- Where the first page has the first rows, the pages reach every row when the other pages reach
the other rows. -/
lemma flatten_eq_iff_drop {rows : List ρ} (hsorted : rows.Pairwise fun a b => time b ≤ time a)
    (hne : rows ≠ []) {m : ℕ} (hm : 0 < m) {cursor : Option τ}
    (hpage : page sees time limit rows cursor = rows.take m) {calls k : ℕ} {pages : List (List ρ)}
    (h : walk time (fun _ => page sees time limit rows) (calls + 1) k cursor = some pages) :
    ∃ last ∈ (rows.take m).getLast?, ∃ rest,
      walk time (fun _ => page sees time limit (rows.drop m)) calls (k + 1) (some (time last)) =
        some rest ∧ (pages.flatten = rows ↔ rest.flatten = rows.drop m) := by
  rcases walk_succ_eq_some h with ⟨hempty, -⟩ | ⟨last, hlast, rest, hrest, rfl⟩
  · rw [hpage, List.take_eq_nil_iff] at hempty
    exact absurd hempty (by simp [hm.ne', hne])
  · rw [hpage] at hlast
    refine ⟨last, hlast, rest, ?_, ?_⟩
    · have hfront : ∀ r ∈ rows.take m, time last ≤ time r := fun r hr =>
        le_of_mem_getLast? (hsorted.sublist (List.take_sublist m rows)) hlast hr
      rw [← walk_append hsees hfront, List.take_append_drop]
      exact hrest
    · rw [List.flatten_cons, hpage]
      constructor
      · intro hflatten
        exact List.append_cancel_left (hflatten.trans (List.take_append_drop m rows).symm)
      · intro hrest
        rw [hrest, List.take_append_drop]

end Page

/-! ## Rows older than the cursor -/

section Older

variable [LinearOrder τ]

/-- A cursor sees what is older. -/
def older : Option τ → τ → Bool
  | none, _ => true
  | some c, t => decide (t < c)

variable {time : ρ → τ} {limit : ℕ}

/-- No page of full length ends between two rows of one time. -/
def BordersApart (time : ρ → τ) (limit : ℕ) (rows : List ρ) : Prop :=
  ∀ i, limit ∣ i + 1 → ∀ a ∈ rows[i]?, ∀ b ∈ rows[i + 1]?, time b < time a

/-- Rows of different times have no border in common. -/
lemma bordersApart_of_sorted {rows : List ρ} (hsorted : rows.Pairwise fun a b => time b < time a)
    (limit : ℕ) : BordersApart time limit rows := by
  intro i _ a ha b hb
  obtain ⟨hi, rfl⟩ := List.getElem?_eq_some_iff.mp ha
  obtain ⟨hj, rfl⟩ := List.getElem?_eq_some_iff.mp hb
  exact List.pairwise_iff_getElem.mp hsorted i (i + 1) hi hj (Nat.lt_succ_self i)

/-- The first border, and those of the other rows. -/
lemma bordersApart_iff_drop (hlimit : 0 < limit) {rows : List ρ} {last : ρ}
    (hlast : last ∈ (rows.take limit).getLast?) :
    BordersApart time limit rows ↔
      (∀ b ∈ (rows.drop limit).head?, time b < time last) ∧
        BordersApart time limit (rows.drop limit) := by
  have hborder : limit < rows.length → rows[limit - 1]? = some last := by
    intro hlength
    rw [Option.mem_def, List.getLast?_eq_getElem?, List.length_take, min_eq_left hlength.le,
      List.getElem?_take_of_lt (by omega)] at hlast
    exact hlast
  have hnext : rows[limit - 1 + 1]? = (rows.drop limit).head? := by
    rw [List.head?_drop, Nat.sub_add_cancel hlimit]
  constructor
  · intro h
    constructor
    · intro b hb
      have hlength : limit < rows.length := by
        by_contra hle
        rw [List.drop_eq_nil_of_le (by omega)] at hb
        cases hb
      exact h (limit - 1) ⟨1, by omega⟩ last (hborder hlength) b
        (hnext ▸ hb)
    · intro i hi a ha b hb
      rw [List.getElem?_drop] at ha hb
      exact h (limit + i) ((Nat.dvd_add_right (Nat.dvd_refl limit)).mpr hi) a ha b hb
  · rintro ⟨hfirst, hrest⟩ i hi a ha b hb
    obtain ⟨n, hn⟩ := hi
    have hpos : 0 < n := Nat.pos_of_ne_zero fun h => by rw [h] at hn; omega
    have hge : limit ≤ i + 1 := hn ▸ Nat.le_mul_of_pos_right limit hpos
    rcases hge.eq_or_lt with heq | hlt
    · have hi : i = limit - 1 := by omega
      subst hi
      have hlength : limit < rows.length := by
        obtain ⟨hlt, -⟩ := List.getElem?_eq_some_iff.mp hb
        omega
      rw [Option.mem_def, hborder hlength, Option.some_inj] at ha
      rw [← ha]
      exact hfirst b (hnext ▸ hb)
    · refine hrest (i - limit) ?_ a ?_ b ?_
      · rw [show i - limit + 1 = i + 1 - limit by omega]
        exact Nat.dvd_sub ⟨n, hn⟩ (Nat.dvd_refl limit)
      · rwa [List.getElem?_drop, show limit + (i - limit) = i by omega]
      · rwa [List.getElem?_drop, show limit + (i - limit + 1) = i + 1 by omega]

lemma lt_of_older {c t : τ} (h : older (some c) t = true) : t < c := of_decide_eq_true h

/-- A page has the first rows when the cursor sees the first of them. -/
lemma page_older {rows : List ρ} (hsorted : rows.Pairwise fun a b => time b ≤ time a)
    {cursor : Option τ} (hfirst : ∀ a ∈ rows.head?, older cursor (time a) = true) :
    page older time limit rows cursor = rows.take limit := by
  have hall : (rows.filter fun r => older cursor (time r)) = rows := by
    refine List.filter_eq_self.mpr fun r hr => ?_
    cases cursor with
    | none => rfl
    | some c =>
      cases rows with
      | nil => cases hr
      | cons a rows =>
        have hle : time r ≤ time a := by
          rcases List.mem_cons.mp hr with rfl | hr
          · exact le_rfl
          · exact (List.pairwise_cons.mp hsorted).1 r hr
        exact decide_eq_true (hle.trans_lt (lt_of_older (hfirst a rfl)))
  rw [page, hall]

/-- All rows are reached exactly when the first is seen and no border is between rows of one
time. -/
theorem flatten_olderPages_iff (hlimit : 0 < limit) {calls k : ℕ} {cursor : Option τ}
    {rows : List ρ} (hsorted : rows.Pairwise fun a b => time b ≤ time a) {pages : List (List ρ)}
    (h : walk time (fun _ => page older time limit rows) calls k cursor = some pages) :
    pages.flatten = rows ↔
      (∀ a ∈ rows.head?, older cursor (time a) = true) ∧ BordersApart time limit rows := by
  induction calls generalizing k cursor rows pages with
  | zero => cases h
  | succ calls ih =>
    by_cases hfirst : ∀ a ∈ rows.head?, older cursor (time a) = true
    · rw [and_iff_right hfirst]
      rcases eq_or_ne rows [] with rfl | hne
      · refine iff_of_true (by rw [eq_nil_of_walk h, List.flatten_nil]) ?_
        rintro i - a ha
        cases ha
      · obtain ⟨last, hlast, rest, hrest, hiff⟩ :=
          flatten_eq_iff_drop (fun _ _ => lt_of_older) hsorted hne hlimit
            (page_older hsorted hfirst) h
        rw [hiff, bordersApart_iff_drop hlimit hlast,
          ih (hsorted.sublist (List.drop_sublist _ _)) hrest]
        simp only [older, decide_eq_true_eq]
    · refine iff_of_false ?_ fun hboth => hfirst hboth.1
      rintro rfl
      exact hfirst fun a ha => sees_of_head h ha

end Older

/-! ## Rows in a window before the cursor -/

section Window

variable [LinearOrder τ]

/-- Without a cursor what is not before `first` is seen, and a cursor sees what is older than it but
not before its floor. -/
def windowed (first : τ) (floor : τ → τ) : Option τ → τ → Bool
  | none, t => decide (first ≤ t)
  | some c, t => decide (floor c ≤ t ∧ t < c)

variable {time : ρ → τ} {limit : ℕ} {first : τ} {floor : τ → τ}

lemma lt_of_windowed {c t : τ} (h : windowed first floor (some c) t = true) : t < c :=
  (of_decide_eq_true h).2

/-- Where the window of a cursor begins. -/
def windowStart (first : τ) (floor : τ → τ) : Option τ → τ
  | none => first
  | some c => floor c

/-- The newest row is in the window that begins with `first`, and each other row either lies in the
window of the one before it or is on the first page. -/
structure InReach (first : τ) (floor : τ → τ) (time : ρ → τ) (limit : ℕ) (rows : List ρ) :
    Prop where
  newest : ∀ a ∈ rows.head?, first ≤ time a
  next : ∀ i, ∀ a ∈ rows[i]?, ∀ b ∈ rows[i + 1]?,
    floor (time a) ≤ time b ∨ (i + 1 < limit ∧ first ≤ time b)

/-- In sorted rows those from a time on come first. -/
lemma lt_length_filter_iff {rows : List ρ} (hsorted : rows.Pairwise fun a b => time b ≤ time a)
    {start : τ} {i : ℕ} {b : ρ} (hb : b ∈ rows[i]?) :
    i < (rows.filter fun r => start ≤ time r).length ↔ start ≤ time b := by
  rw [← filter_append_filter hsorted start] at hb
  constructor
  · intro hi
    rw [List.getElem?_append_left hi] at hb
    exact of_decide_eq_true (List.mem_filter.mp (List.mem_of_getElem? hb)).2
  · intro hstart
    by_contra hi
    rw [List.getElem?_append_right (not_lt.mp hi)] at hb
    have hlt : time b < start := of_decide_eq_true (List.mem_filter.mp (List.mem_of_getElem? hb)).2
    exact absurd hstart (not_le.mpr hlt)

/-- Where all rows are older than the cursor, a page has the first of them. -/
lemma page_windowed {rows : List ρ} (hsorted : rows.Pairwise fun a b => time b ≤ time a)
    {cursor : Option τ} (hcursor : ∀ c ∈ cursor, ∀ r ∈ rows, time r < c) :
    page (windowed first floor) time limit rows cursor = rows.take
      (min limit (rows.filter fun r => windowStart first floor cursor ≤ time r).length) := by
  have hfilter : (rows.filter fun r => windowed first floor cursor (time r)) =
      rows.filter fun r => windowStart first floor cursor ≤ time r := by
    apply List.filter_congr
    intro r hr
    cases cursor with
    | none => rfl
    | some c => exact decide_eq_decide.mpr (and_iff_left (hcursor c rfl r hr))
  have hprefix := congrArg
    (List.take (rows.filter fun r => windowStart first floor cursor ≤ time r).length)
    (filter_append_filter hsorted (windowStart first floor cursor))
  rw [List.take_left] at hprefix
  rw [page, hfilter, ← List.take_take, ← hprefix]

/-- The rows of the first page, and the others from the last of these on. -/
lemma inReach_iff_drop (hfloor : Monotone floor) {rows : List ρ}
    (hsorted : rows.Pairwise fun a b => time b < time a) {start : τ}
    (hstart : ∀ a ∈ rows.head?, start ≤ time a) {m : ℕ}
    (hm : m = min limit (rows.filter fun r => start ≤ time r).length) {last : ρ}
    (hlast : last ∈ (rows.take m).getLast?) :
    InReach start floor time limit rows ↔
      InReach (floor (time last)) floor time limit (rows.drop m) := by
  have hle : rows.Pairwise fun a b => time b ≤ time a := hsorted.imp le_of_lt
  -- a row is on the page when the page has room for it and it is in the window
  have hpage : ∀ i, ∀ b ∈ rows[i]?, (i < m ↔ i < limit ∧ start ≤ time b) := by
    intro i b hb
    rw [hm, lt_min_iff, lt_length_filter_iff hle hb]
  have hlength : m ≤ rows.length := hm ▸ (min_le_right _ _).trans (List.length_filter_le _ _)
  have hpos : 0 < m := by
    refine Nat.pos_of_ne_zero fun h => ?_
    rw [h, List.take_zero] at hlast
    cases hlast
  have hborder : rows[m - 1]? = some last := by
    rwa [Option.mem_def, List.getLast?_eq_getElem?, List.length_take, min_eq_left hlength,
      List.getElem?_take_of_lt (by omega)] at hlast
  constructor
  · rintro ⟨-, hnext⟩
    constructor
    · intro b hb
      rw [List.head?_drop] at hb
      rcases hnext (m - 1) last hborder b (by rwa [Nat.sub_add_cancel hpos]) with h | ⟨hroom, h⟩
      · exact h
      · rw [Nat.sub_add_cancel hpos] at hroom
        exact absurd ((hpage m b hb).mpr ⟨hroom, h⟩) (lt_irrefl m)
    · intro i a ha b hb
      rw [List.getElem?_drop] at ha hb
      rcases hnext (m + i) a ha b hb with h | ⟨hroom, h⟩
      · exact Or.inl h
      · have hmem := (hpage (m + i + 1) b hb).mpr ⟨hroom, h⟩
        omega
  · rintro ⟨hnewest, hnext⟩
    refine ⟨hstart, fun i a ha b hb => ?_⟩
    rcases lt_trichotomy (i + 1) m with hlt | heq | hgt
    · exact Or.inr ((hpage (i + 1) b hb).mp hlt)
    · have hi : i = m - 1 := by omega
      rw [hi, hborder] at ha
      cases ha
      refine Or.inl (hnewest b ?_)
      rwa [List.head?_drop, ← heq]
    · have hia : a ∈ (rows.drop m)[i - m]? := by
        rwa [List.getElem?_drop, show m + (i - m) = i by omega]
      have hib : b ∈ (rows.drop m)[i - m + 1]? := by
        rwa [List.getElem?_drop, show m + (i - m + 1) = i + 1 by omega]
      rcases hnext (i - m) a hia b hib with h | ⟨-, h⟩
      · exact Or.inl h
      · -- rows behind the page are older than the last row on it
        have holder : time a < time last := by
          rw [← List.take_append_drop m rows] at hsorted
          exact (List.pairwise_append.mp hsorted).2.2 last (List.mem_of_getLast? hlast) a
            (List.mem_of_getElem? hia)
        exact Or.inl ((hfloor holder.le).trans h)

/-- All rows are reached exactly when they are in reach. -/
theorem flatten_windowPages_iff (hlimit : 0 < limit) (hfloor : Monotone floor) {calls k : ℕ}
    {cursor : Option τ} {rows : List ρ} (hsorted : rows.Pairwise fun a b => time b < time a)
    (hcursor : ∀ c ∈ cursor, ∀ r ∈ rows, time r < c) {pages : List (List ρ)}
    (h : walk time (fun _ => page (windowed first floor) time limit rows) calls k cursor =
      some pages) :
    pages.flatten = rows ↔ InReach (windowStart first floor cursor) floor time limit rows := by
  have hle : rows.Pairwise fun a b => time b ≤ time a := hsorted.imp le_of_lt
  induction calls generalizing k cursor rows pages with
  | zero => cases h
  | succ calls ih =>
    by_cases hstart : ∀ a ∈ rows.head?, windowStart first floor cursor ≤ time a
    · rcases eq_or_ne rows [] with rfl | hne
      · refine iff_of_true (by rw [eq_nil_of_walk h, List.flatten_nil]) ⟨?_, ?_⟩
        · rintro a ⟨⟩
        · rintro i a ⟨⟩
      · set m := min limit (rows.filter fun r => windowStart first floor cursor ≤ time r).length
          with hm
        obtain ⟨a, l, rfl⟩ := List.exists_cons_of_ne_nil hne
        have hpos : 0 < m :=
          lt_min hlimit ((lt_length_filter_iff hle (i := 0) rfl).mpr (hstart a rfl))
        obtain ⟨last, hlast, rest, hrest, hiff⟩ :=
          flatten_eq_iff_drop (fun _ _ => lt_of_windowed) hle hne hpos (page_windowed hle hcursor) h
        have hdrop : ((a :: l).drop m).Sublist (a :: l) := List.drop_sublist _ _
        have holder : ∀ c ∈ some (time last), ∀ r ∈ (a :: l).drop m, time r < c := by
          rintro c ⟨⟩ r hr
          rw [← List.take_append_drop m (a :: l)] at hsorted
          exact (List.pairwise_append.mp hsorted).2.2 last (List.mem_of_getLast? hlast) r hr
        rw [hiff, inReach_iff_drop hfloor hsorted hstart hm hlast]
        exact ih (hsorted.sublist hdrop) holder hrest (hle.sublist hdrop)
    · refine iff_of_false ?_ fun hreach => hstart hreach.newest
      rintro rfl
      refine hstart fun a ha => ?_
      have hseen := sees_of_head h ha
      cases cursor with
      | none => exact of_decide_eq_true hseen
      | some c => exact (of_decide_eq_true hseen).1

end Window

/-! ## What pages show -/

section Show

variable [LinearOrder τ] {κ : Type*}

/-- The pages show what has these names, each once, newest first. -/
structure ShowAll (time : ι → τ) (name : ι → κ) (names : List κ) (pages : List (List ι)) :
    Prop where
  newestFirst : pages.flatten.Pairwise fun a b => time b ≤ time a
  once : (pages.flatten.map name).Perm names

omit [LinearOrder τ] in
/-- Pages of items that are read off the rows of a walk; `t` is the time of what is read off. -/
lemma exists_pages_of_walk {γ : Type*} (g : ι → γ) (g' : ρ → γ) (t : γ → τ)
    (answer : ℕ → Option τ → List ι) {answer' : ℕ → Option τ → List ρ} {k : ℕ} {cursor : Option τ}
    (h : ∀ k c, (answer k (some c)).map g = (answer' k (some c)).map g')
    (hfirst : (answer k cursor).map g = (answer' k cursor).map g') {calls : ℕ}
    {rowPages : List (List ρ)}
    (hwalk : walk (fun r => t (g' r)) answer' calls k cursor = some rowPages) :
    ∃ pages, walk (fun i => t (g i)) answer calls k cursor = some pages ∧
      pages.flatten.map g = rowPages.flatten.map g' := by
  have heq := (walk_map g t answer calls k cursor).trans
    ((walk_congr h hfirst calls).trans (walk_map g' t answer' calls k cursor).symm)
  rw [hwalk, Option.map_some] at heq
  obtain ⟨pages, hpages, hmap⟩ := Option.map_eq_some_iff.mp heq
  refine ⟨pages, hpages, ?_⟩
  rw [List.map_flatten, List.map_flatten, hmap]

variable {time : ι → τ} {name : ι → κ} {time' : ρ → τ} {name' : ρ → κ} {pages : List (List ι)}
  {rows all : List ρ}

/-- Pages of some of the rows, in their order, show all when they are all rows. -/
lemma showAll_iff {names : List κ} (hnames : names.Perm (all.map name'))
    (hsorted : all.Pairwise fun a b => time' b ≤ time' a) (hsub : rows.Sublist all)
    (hpages : (pages.flatten.map fun i => (name i, time i)) =
      rows.map fun r => (name' r, time' r)) :
    ShowAll time name names pages ↔ rows = all := by
  have hname : pages.flatten.map name = rows.map name' := by
    have hfst := congrArg (List.map Prod.fst) hpages
    rwa [List.map_map, List.map_map] at hfst
  have htime : pages.flatten.map time = rows.map time' := by
    have hsnd := congrArg (List.map Prod.snd) hpages
    rwa [List.map_map, List.map_map] at hsnd
  constructor
  · intro h
    have hperm := hname ▸ h.once.trans hnames
    refine hsub.eq_of_length ?_
    have hlength := hperm.length_eq
    rwa [List.length_map, List.length_map] at hlength
  · rintro rfl
    constructor
    · rw [← List.pairwise_map (f := time) (R := fun s t => t ≤ s), htime, List.pairwise_map]
      exact hsorted
    · rw [hname]
      exact hnames.symm

end Show

end CursorPages
