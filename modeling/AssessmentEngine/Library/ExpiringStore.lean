import Mathlib.Data.Option.Basic
import Mathlib.Logic.Function.Basic
import Mathlib.Algebra.Order.Ring.Int
import Mathlib.Tactic.Ring

/-!
# Stores whose values expire

A value stands under its key until a time of its own, or for good.  Nothing is removed when that
time comes: a value is read while it is live, and one that is not counts as missing, also for the
writes that look first (`setNx`, `incrWithTtl`).

`setNx` answers whether the key was free, and leaves it taken in either case; a key that it set is
free again when the time has come that was set with it, and not before.  A store that evicts keys
when its memory is full may free it earlier; there is no eviction here.
-/

namespace ExpiringStore

variable {κ ν : Type*}

/-- A value and the time from which it is gone, if there is one. -/
structure Entry (ν : Type*) where
  value : ν
  expiresAt : Option ℤ

/-- The entries by key. -/
abbrev Store (κ ν : Type*) : Type _ := κ → Option (Entry ν)

def Store.empty : Store κ ν := fun _ => none

/-- The value is still there. -/
def Entry.live (now : ℤ) (e : Entry ν) : Bool :=
  match e.expiresAt with
  | none => true
  | some t => decide (now < t)

/-- The live value of a key. -/
def get (now : ℤ) (k : κ) (s : Store κ ν) : Option ν :=
  ((s k).filter (Entry.live now)).map Entry.value

section writes

variable [DecidableEq κ]

/-- The value replaces whatever the key held. -/
def set (now : ℤ) (k : κ) (v : ν) (ttl : Option ℤ) (s : Store κ ν) : Store κ ν :=
  Function.update s k (some ⟨v, ttl.map (now + ·)⟩)

/-- The value is set where the key holds none; whether it was. -/
def setNx (now : ℤ) (k : κ) (v : ν) (ttl : ℤ) (s : Store κ ν) : Bool × Store κ ν :=
  if (get now k s).isSome then (false, s) else (true, set now k v (some ttl) s)

def delete (k : κ) (s : Store κ ν) : Store κ ν := Function.update s k none

/-- A counter goes up by one and lives on for `ttl` from now. -/
def incrWithTtl (now : ℤ) (k : κ) (ttl : ℤ) (s : Store κ ℕ) : ℕ × Store κ ℕ :=
  let count := (get now k s).getD 0 + 1
  (count, set now k count (some ttl) s)

end writes

/-! ## Reading -/

lemma get_eq_some_iff {now : ℤ} {k : κ} {s : Store κ ν} {v : ν} :
    get now k s = some v ↔ ∃ e, s k = some e ∧ e.live now = true ∧ e.value = v := by
  rw [get, Option.map_eq_some_iff]
  constructor
  · rintro ⟨e, he, hv⟩
    obtain ⟨hk, hlive⟩ := Option.filter_eq_some_iff.mp he
    exact ⟨e, hk, hlive, hv⟩
  · rintro ⟨e, hk, hlive, hv⟩
    exact ⟨e, Option.filter_eq_some_iff.mpr ⟨hk, hlive⟩, hv⟩

section writes

variable [DecidableEq κ]

lemma set_self (now : ℤ) (k : κ) (v : ν) (ttl : Option ℤ) (s : Store κ ν) :
    set now k v ttl s k = some ⟨v, ttl.map (now + ·)⟩ := Function.update_self ..

lemma set_of_ne {k k' : κ} (h : k' ≠ k) (now : ℤ) (v : ν) (ttl : Option ℤ) (s : Store κ ν) :
    set now k v ttl s k' = s k' := Function.update_of_ne h ..

lemma delete_self (k : κ) (s : Store κ ν) : delete k s k = none := Function.update_self ..

lemma delete_of_ne {k k' : κ} (h : k' ≠ k) (s : Store κ ν) : delete k s k' = s k' :=
  Function.update_of_ne h ..

end writes

/-! ## Keys that are free -/

/-- A free key was never set, or its time has come. -/
lemma expired_of_get_eq_none {now t : ℤ} {k : κ} {s : Store κ ν} {e : Entry ν}
    (hk : s k = some e) (ht : e.expiresAt = some t) (hget : get now k s = none) : t ≤ now := by
  by_contra hlive
  have hsome : get now k s = some e.value := by
    refine get_eq_some_iff.mpr ⟨e, hk, ?_, rfl⟩
    simp [Entry.live, ht, not_le.mp hlive]
  rw [hget] at hsome
  cases hsome

section setNx

variable [DecidableEq κ]

/-- The two answers of `setNx`. -/
lemma setNx_cases (now : ℤ) (k : κ) (v : ν) (ttl : ℤ) (s : Store κ ν) :
    ((get now k s).isSome ∧ setNx now k v ttl s = (false, s)) ∨
      (get now k s = none ∧ setNx now k v ttl s = (true, set now k v (some ttl) s)) := by
  unfold setNx
  cases hget : get now k s with
  | none => exact Or.inr ⟨rfl, rfl⟩
  | some w => exact Or.inl ⟨rfl, rfl⟩

/-- Other keys keep their entries. -/
lemma setNx_of_ne {k k' : κ} (h : k' ≠ k) (now : ℤ) (v : ν) (ttl : ℤ) (s : Store κ ν) :
    (setNx now k v ttl s).2 k' = s k' := by
  rcases setNx_cases now k v ttl s with ⟨_, hset⟩ | ⟨_, hset⟩
  · simp only [hset]
  · simp only [hset, set_of_ne h]

end setNx

/-! ## How often a key is found free -/

/-- A key that was found free `count` times, and set for `ttl` each time: the lifetimes fit, one
after the other, into the time until it is free again. -/
def Spaced (ttl now : ℤ) (count : ℕ) : Option (Entry ν) → Prop
  | none => count = 0
  | some e => ∃ t, e.expiresAt = some t ∧ count * ttl ≤ t ∧ t ≤ now + ttl

variable {ttl now : ℤ} {count : ℕ}

lemma Spaced.later {entry : Option (Entry ν)} (h : Spaced ttl now count entry) {later : ℤ}
    (hlater : now ≤ later) : Spaced ttl later count entry := by
  cases entry with
  | none => exact h
  | some e =>
    obtain ⟨t, ht, hfits, hlast⟩ := h
    exact ⟨t, ht, hfits, by omega⟩

/-- A free key: the lifetimes are over. -/
lemma Spaced.of_free {k : κ} {s : Store κ ν} (h : Spaced ttl now count (s k)) (hnow : 0 ≤ now)
    (hfree : get now k s = none) : count * ttl ≤ now := by
  cases hk : s k with
  | none =>
    rw [hk] at h
    have hzero : count = 0 := h
    simpa [hzero] using hnow
  | some e =>
    rw [hk] at h
    obtain ⟨t, ht, hfits, _⟩ := h
    exact hfits.trans (expired_of_get_eq_none hk ht hfree)

/-- Set once more, whether this is counted or not. -/
lemma Spaced.set [DecidableEq κ] {k : κ} {s : Store κ ν} (h : Spaced ttl now count (s k))
    (hnow : 0 ≤ now) (httl : 0 ≤ ttl) (hfree : get now k s = none) (v : ν) {more : ℕ}
    (hmore : more ≤ 1) : Spaced ttl now (count + more) (set now k v (some ttl) s k) := by
  rw [set_self]
  refine ⟨now + ttl, rfl, ?_, le_rfl⟩
  have hover := h.of_free hnow hfree
  obtain rfl | rfl : more = 0 ∨ more = 1 := by omega
  · rw [Nat.add_zero]
    omega
  · push_cast
    rw [add_mul, one_mul]
    omega

/-- However often a key was found free, each time took a lifetime. -/
lemma Spaced.bound {entry : Option (Entry ν)} (h : Spaced ttl now count entry) (hnow : 0 ≤ now)
    (httl : 0 ≤ ttl) : count * ttl ≤ now + ttl := by
  cases entry with
  | none =>
    have hzero : count = 0 := h
    rw [hzero]
    simp only [Nat.cast_zero, zero_mul]
    omega
  | some e =>
    obtain ⟨t, _, hfits, hlast⟩ := h
    exact hfits.trans hlast

end ExpiringStore
