import Mathlib.Data.List.Nodup
import Mathlib.Data.List.Sort
import Mathlib.Data.Prod.Lex

/-!
# Tables under a unique index

No two rows of a table with a unique index share a key.  A `KeyedTable` keeps its rows in the order
of the index, so a table is nothing but the set of its rows: two tables that have the same rows
under a condition have the same list of them (`KeyedTable.filter_congr`).
-/

/-- A table whose rows differ in their keys, in the order of the keys. -/
structure KeyedTable {ρ κ : Type*} [LT κ] (key : ρ → κ) where
  rows : List ρ
  sorted : rows.Pairwise fun a b => key a < key b

namespace KeyedTable

/-- The table without rows. -/
def empty {ρ κ : Type*} [LT κ] (key : ρ → κ) : KeyedTable key where
  rows := []
  sorted := List.Pairwise.nil

@[simp] lemma empty_rows {ρ κ : Type*} [LT κ] (key : ρ → κ) : (empty key).rows = [] := rfl

variable {ρ κ : Type*} [LinearOrder κ] {key : ρ → κ} (table : KeyedTable key)

/-- The rows that meet a condition, as a table. -/
def restrict (p : ρ → Bool) : KeyedTable key where
  rows := table.rows.filter p
  sorted := table.sorted.filter p

@[simp] lemma restrict_rows (p : ρ → Bool) : (table.restrict p).rows = table.rows.filter p := rfl

variable {table}

lemma nodup_keys : (table.rows.map key).Nodup := by
  rw [List.Nodup, List.pairwise_map]
  exact table.sorted.imp fun h => h.ne

lemma nodup : table.rows.Nodup := table.nodup_keys.of_map

/-- The index is unique. -/
lemma eq_of_key_eq {a b : ρ} (ha : a ∈ table.rows) (hb : b ∈ table.rows) (hkey : key a = key b) :
    a = b :=
  List.inj_on_of_nodup_map table.nodup_keys ha hb hkey

@[ext] lemma ext_rows {table table' : KeyedTable key} (h : table.rows = table'.rows) :
    table = table' := by
  cases table
  cases table'
  cases h
  rfl

/-- The rows under a condition are a matter of which rows meet it. -/
lemma filter_congr {table table' : KeyedTable key} {p : ρ → Bool}
    (h : ∀ r, p r = true → (r ∈ table.rows ↔ r ∈ table'.rows)) :
    table.rows.filter p = table'.rows.filter p := by
  have hperm : (table.rows.filter p).Perm (table'.rows.filter p) := by
    rw [List.perm_ext_iff_of_nodup (table.nodup.filter p) (table'.nodup.filter p)]
    intro r
    rw [List.mem_filter, List.mem_filter]
    constructor
    · exact fun hr => ⟨(h r hr.2).mp hr.1, hr.2⟩
    · exact fun hr => ⟨(h r hr.2).mpr hr.1, hr.2⟩
  refine hperm.eq_of_pairwise ?_ (table.sorted.filter p) (table'.sorted.filter p)
  exact fun a b _ _ hab hba => absurd hab hba.asymm

/-- So are the tables of these rows. -/
lemma restrict_congr {table table' : KeyedTable key} {p : ρ → Bool}
    (h : ∀ r, p r = true → (r ∈ table.rows ↔ r ∈ table'.rows)) :
    table.restrict p = table'.restrict p :=
  ext_rows (filter_congr h)

/-- A condition that implies the restriction does not see it. -/
lemma filter_restrict {p q : ρ → Bool} (h : ∀ r, q r = true → p r = true) :
    (table.restrict p).rows.filter q = table.rows.filter q := by
  rw [restrict_rows, List.filter_filter]
  apply List.filter_congr
  intro r _
  cases hq : q r with
  | false => rfl
  | true => simpa using h r hq

end KeyedTable
