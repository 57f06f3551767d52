import AssessmentEngine.Cache.Redis
import AssessmentEngine.Library.Runs

/-!
# What a reader of a cached row may see

Readers look a key up in Redis, read the row from the database where they find nothing, and put
what they made of it into the cache; writers commit a new version of the row and delete the key
afterwards.  None of this is atomic: between a reader's look at the row and its write to the cache
any number of versions may be committed and any number of deletions made, so that a deleted key can
come back with an old version.

Every version that is read, cached or served is stamped with its number and with the time at which
it was read, which no step looks at.  A stamped value was the newest one at its time (`Genuine`),
and that time is at most a lifetime and a reader's delay ago when the value is served.
-/

namespace AssessmentEngine

open ExpiringStore Runs

variable {κ ν : Type}

/-- A value with the number of its version and the time at which it was read from the row. -/
structure Stamp (ν : Type) where
  value : ν
  version : ℕ
  readAt : ℤ

/-- A reader: before its look at the row, and between that and its write to the cache. -/
inductive CacheReader (κ ν : Type)
  | idle
  | missed (k : κ)
  | fetched (k : κ) (stamp : Stamp ν)

/-- What was served, when, and whether it came out of the cache. -/
structure Served (κ ν : Type) where
  time : ℤ
  hit : Bool
  key : κ
  stamp : Stamp ν

structure CacheWorld (κ ν : Type) where
  now : ℤ
  /-- The versions of each row with the times of their commits, the oldest first. -/
  rows : κ → List (ℤ × ν)
  cache : Store κ (Stamp ν)
  readers : ℕ → CacheReader κ ν
  served : List (Served κ ν)

def CacheWorld.init : CacheWorld κ ν where
  now := 0
  rows := fun _ => []
  cache := Store.empty
  readers := fun _ => .idle
  served := []

inductive CacheAction (κ ν : Type)
  | tick (elapsed : ℕ)
  /-- A writer commits a version. -/
  | commit (k : κ) (v : ν)
  /-- A writer deletes the key. -/
  | invalidate (k : κ) (reply : Reply)
  | look (r : ℕ) (k : κ) (reply : Reply)
  | fetch (r : ℕ)
  | fill (r : ℕ) (reply : Reply)
  /-- The request of the reader is gone. -/
  | abandon (r : ℕ)

variable [DecidableEq κ]

namespace CacheWorld

def setReader (r : ℕ) (state : CacheReader κ ν) (s : CacheWorld κ ν) : CacheWorld κ ν :=
  { s with readers := Function.update s.readers r state }

def serve (hit : Bool) (k : κ) (stamp : Stamp ν) (s : CacheWorld κ ν) : CacheWorld κ ν :=
  { s with served := ⟨s.now, hit, k, stamp⟩ :: s.served }

/-- The newest version of a row, read now. -/
def newest (k : κ) (s : CacheWorld κ ν) : Option (Stamp ν) :=
  (s.rows k).getLast?.map fun row => ⟨row.2, (s.rows k).length - 1, s.now⟩

end CacheWorld

/-- One step; `ex` is the lifetime of what readers put into the cache. -/
def cacheStep (ex : Option ℕ+) : CacheAction κ ν → CacheWorld κ ν → Option (CacheWorld κ ν)
  | .tick elapsed, s => some { s with now := s.now + elapsed }
  | .commit k v, s => some { s with rows := Function.update s.rows k (s.rows k ++ [(s.now, v)]) }
  | .invalidate k reply, s => some { s with cache := (safeDelete reply k s.cache).2 }
  | .look r k reply, s =>
    match s.readers r with
    | .idle =>
      match safeGet reply s.now k s.cache with
      | some stamp => some (s.serve true k stamp)
      | none => some (s.setReader r (.missed k))
    | _ => none
  | .fetch r, s =>
    match s.readers r with
    | .missed k =>
      match s.newest k with
      | some stamp => some (s.setReader r (.fetched k stamp))
      | none => some (s.setReader r .idle)
    | _ => none
  | .fill r reply, s =>
    match s.readers r with
    | .fetched k stamp =>
      some (({ s with cache := (safeSet reply s.now k stamp ex s.cache).2 }.serve false k
        stamp).setReader r .idle)
    | _ => none
  | .abandon r, s => some (s.setReader r .idle)

/-! ## What a step can do -/

/-- How the world moves in one step. -/
inductive CacheMove (ex : Option ℕ+) (a : CacheAction κ ν) (s t : CacheWorld κ ν) : Prop
  | tick (elapsed : ℕ) (ht : t = { s with now := s.now + elapsed })
  | commit (k : κ) (v : ν) (ha : a = .commit k v)
      (ht : t = { s with rows := Function.update s.rows k (s.rows k ++ [(s.now, v)]) })
  | invalidate (k : κ) (ht : t = { s with cache := delete k s.cache })
  | idle (r : ℕ) (state : CacheReader κ ν) (hstate : ∀ k stamp, state ≠ .fetched k stamp)
      (ht : t = s.setReader r state)
  | hit (k : κ) (stamp : Stamp ν) (hget : get s.now k s.cache = some stamp)
      (ht : t = s.serve true k stamp)
  | fetch (r : ℕ) (k : κ) (stamp : Stamp ν) (hnewest : s.newest k = some stamp)
      (ht : t = s.setReader r (.fetched k stamp))
  | fill (r : ℕ) (reply : Reply) (k : κ) (stamp : Stamp ν) (cache : Store κ (Stamp ν))
      (ha : a = .fill r reply) (hreader : s.readers r = .fetched k stamp)
      (hcache : cache = s.cache ∨ cache = set s.now k stamp (ex.map ttlMicros) s.cache)
      (ht : t = ({ s with cache := cache }.serve false k stamp).setReader r .idle)

lemma cacheStep_move {ex : Option ℕ+} {a : CacheAction κ ν} {s t : CacheWorld κ ν}
    (hstep : cacheStep ex a s = some t) : CacheMove ex a s t := by
  cases a with
  | tick elapsed =>
    cases hstep
    exact .tick elapsed rfl
  | commit k v =>
    cases hstep
    exact .commit k v rfl rfl
  | invalidate k reply =>
    cases hstep
    cases happlied : reply.applied with
    | true => exact .invalidate k (by simp [safeDelete, happlied])
    | false => exact .tick 0 (by simp [safeDelete, happlied])
  | look r k reply =>
    simp only [cacheStep] at hstep
    split at hstep
    case h_2 => cases hstep
    case h_1 =>
      cases hget : safeGet reply s.now k s.cache with
      | some stamp =>
        simp only [hget, Option.some_inj] at hstep
        refine .hit k stamp ?_ hstep.symm
        unfold safeGet at hget
        split_ifs at hget
        exact hget
      | none =>
        simp only [hget, Option.some_inj] at hstep
        exact .idle r (.missed k) (by simp) hstep.symm
  | fetch r =>
    simp only [cacheStep] at hstep
    split at hstep
    case h_2 => cases hstep
    case h_1 k hreader =>
      cases hnewest : s.newest k with
      | some stamp =>
        simp only [hnewest, Option.some_inj] at hstep
        exact .fetch r k stamp hnewest hstep.symm
      | none =>
        simp only [hnewest, Option.some_inj] at hstep
        exact .idle r .idle (by simp) hstep.symm
  | fill r reply =>
    simp only [cacheStep] at hstep
    split at hstep
    case h_2 => cases hstep
    case h_1 k stamp hreader =>
      cases hstep
      refine .fill r reply k stamp _ rfl hreader ?_ rfl
      cases happlied : reply.applied with
      | true => exact Or.inr (by simp [safeSet, happlied])
      | false => exact Or.inl (by simp [safeSet, happlied])
  | abandon r =>
    cases hstep
    exact .idle r .idle (by simp) rfl

/-! ## Stamped values are genuine -/

/-- The value is that of its version, and no later version was there when it was read. -/
structure Genuine (rows : List (ℤ × ν)) (now : ℤ) (stamp : Stamp ν) : Prop where
  readAt : stamp.readAt ≤ now
  version : ∃ w, rows[stamp.version]? = some (w, stamp.value)
  newer : ∀ i w v, stamp.version < i → rows[i]? = some (w, v) → stamp.readAt ≤ w

omit [DecidableEq κ] in
lemma Genuine.later {rows : List (ℤ × ν)} {now later : ℤ} {stamp : Stamp ν}
    (h : Genuine rows now stamp) (hlater : now ≤ later) : Genuine rows later stamp :=
  ⟨h.readAt.trans hlater, h.version, h.newer⟩

/-- A version that is committed after the reading. -/
lemma Genuine.append {rows : List (ℤ × ν)} {now : ℤ} {stamp : Stamp ν}
    (h : Genuine rows now stamp) (v : ν) : Genuine (rows ++ [(now, v)]) now stamp := by
  obtain ⟨w, hw⟩ := h.version
  have hbelow := (List.getElem?_eq_some_iff.mp hw).1
  refine ⟨h.readAt, ⟨w, by rw [List.getElem?_append_left hbelow, hw]⟩, fun i w' v' hi hrow => ?_⟩
  by_cases hold : i < rows.length
  · rw [List.getElem?_append_left hold] at hrow
    exact h.newer i w' v' hi hrow
  · rw [List.getElem?_append_right (not_lt.mp hold)] at hrow
    obtain ⟨hbound, heq⟩ := List.getElem?_eq_some_iff.mp hrow
    have hnow : now = w' := by
      have hzero : i - rows.length = 0 := by simpa using hbound
      simp only [hzero, List.getElem_cons_zero, Prod.mk.injEq] at heq
      exact heq.1
    exact hnow ▸ h.readAt

omit [DecidableEq κ] in
lemma genuine_newest {k : κ} {s : CacheWorld κ ν} {stamp : Stamp ν}
    (hnewest : s.newest k = some stamp) : Genuine (s.rows k) s.now stamp := by
  obtain ⟨row, hlast, rfl⟩ := Option.map_eq_some_iff.mp hnewest
  refine ⟨le_rfl, ⟨row.1, ?_⟩, fun i w v hi hrow => ?_⟩
  · rw [List.getLast?_eq_getElem?] at hlast
    exact hlast
  · obtain ⟨hbound, _⟩ := List.getElem?_eq_some_iff.mp hrow
    simp only at hi
    omega

/-- The reader's write to the cache comes at most `delay` after its look at the row. -/
def prompt (delay : ℤ) : CacheAction κ ν → CacheWorld κ ν → Bool
  | .fill r _, s =>
    match s.readers r with
    | .fetched _ stamp => decide (s.now ≤ stamp.readAt + delay)
    | _ => true
  | _, _ => true

/-- What is cached, held or served is genuine.  Where values have a lifetime and readers a longest
delay: what is cached expires, and what was served was served, no later than the two after it was
read. -/
structure DetailCacheInv (ex : Option ℕ+) (delay : Option ℤ) (s : CacheWorld κ ν) : Prop where
  cached : ∀ k e, s.cache k = some e → Genuine (s.rows k) s.now e.value ∧
    ∀ ttl ∈ ex, ∀ wait ∈ delay,
      ∃ x, e.expiresAt = some x ∧ x ≤ e.value.readAt + wait + ttlMicros ttl
  held : ∀ r k stamp, s.readers r = .fetched k stamp → Genuine (s.rows k) s.now stamp
  served : ∀ d ∈ s.served, Genuine (s.rows d.key) s.now d.stamp ∧
    ∀ ttl ∈ ex, ∀ wait ∈ delay, d.time < d.stamp.readAt + wait + ttlMicros ttl

omit [DecidableEq κ] in
lemma DetailCacheInv.init (ex : Option ℕ+) (delay : Option ℤ) :
    DetailCacheInv ex delay (CacheWorld.init : CacheWorld κ ν) where
  cached k e he := by cases he
  held r k stamp h := by cases h
  served d hd := by cases hd

/-- Genuine stays genuine when a version of some row is committed. -/
lemma Genuine.commit {s : CacheWorld κ ν} {k : κ} {stamp : Stamp ν}
    (h : Genuine (s.rows k) s.now stamp) (k' : κ) (v : ν) :
    Genuine (Function.update s.rows k' (s.rows k' ++ [(s.now, v)]) k) s.now stamp := by
  by_cases hk : k = k'
  · subst hk
    rw [Function.update_self]
    exact h.append v
  · rw [Function.update_of_ne hk]
    exact h

lemma DetailCacheInv.step {ex : Option ℕ+} {delay : Option ℤ} {a : CacheAction κ ν}
    {s t : CacheWorld κ ν} (hprompt : ∀ wait ∈ delay, prompt wait a s = true)
    (hinv : DetailCacheInv ex delay s) (hstep : cacheStep ex a s = some t) :
    DetailCacheInv ex delay t := by
  cases cacheStep_move hstep with
  | tick elapsed ht =>
    subst ht
    have hlater : s.now ≤ s.now + elapsed := by omega
    exact ⟨fun k e he => ⟨(hinv.cached k e he).1.later hlater, (hinv.cached k e he).2⟩,
      fun r k stamp hr => (hinv.held r k stamp hr).later hlater,
      fun d hd => ⟨(hinv.served d hd).1.later hlater, (hinv.served d hd).2⟩⟩
  | commit k' v _ ht =>
    subst ht
    exact ⟨fun k e he => ⟨(hinv.cached k e he).1.commit k' v, (hinv.cached k e he).2⟩,
      fun r k stamp hr => (hinv.held r k stamp hr).commit k' v,
      fun d hd => ⟨(hinv.served d hd).1.commit k' v, (hinv.served d hd).2⟩⟩
  | invalidate k' ht =>
    subst ht
    refine ⟨fun k e he => ?_, hinv.held, hinv.served⟩
    by_cases hk : k = k'
    · subst hk
      simp only [delete_self] at he
      cases he
    · simp only [delete_of_ne hk] at he
      exact hinv.cached k e he
  | idle r state hstate ht =>
    subst ht
    refine ⟨hinv.cached, fun r' k stamp hr => ?_, hinv.served⟩
    by_cases hreader : r' = r
    · subst hreader
      simp only [CacheWorld.setReader, Function.update_self] at hr
      exact absurd hr (hstate k stamp)
    · simp only [CacheWorld.setReader, Function.update_of_ne hreader] at hr
      exact hinv.held r' k stamp hr
  | hit k stamp hget ht =>
    subst ht
    refine ⟨hinv.cached, hinv.held, fun d hd => ?_⟩
    rcases List.mem_cons.mp hd with rfl | hd
    · obtain ⟨e, he, hlive, rfl⟩ := get_eq_some_iff.mp hget
      obtain ⟨hgenuine, hexpires⟩ := hinv.cached k e he
      refine ⟨hgenuine, fun ttl httl wait hwait => ?_⟩
      obtain ⟨x, hx, hbound⟩ := hexpires ttl httl wait hwait
      have hbefore : s.now < x := by simpa [Entry.live, hx] using hlive
      exact hbefore.trans_le hbound
    · exact hinv.served d hd
  | fetch r k stamp hnewest ht =>
    subst ht
    refine ⟨hinv.cached, fun r' k' stamp' hr => ?_, hinv.served⟩
    by_cases hreader : r' = r
    · subst hreader
      simp only [CacheWorld.setReader, Function.update_self, CacheReader.fetched.injEq] at hr
      obtain ⟨rfl, rfl⟩ := hr
      exact genuine_newest hnewest
    · simp only [CacheWorld.setReader, Function.update_of_ne hreader] at hr
      exact hinv.held r' k' stamp' hr
  | fill r reply k stamp cache ha hreader hcache ht =>
    subst ht
    have hgenuine := hinv.held r k stamp hreader
    have hsoon : ∀ wait ∈ delay, s.now ≤ stamp.readAt + wait := by
      subst ha
      intro wait hwait
      simpa [prompt, hreader] using hprompt wait hwait
    refine ⟨fun k' e he => ?_, fun r' k' stamp' hr => ?_, fun d hd => ?_⟩
    · rcases hcache with rfl | rfl
      · exact hinv.cached k' e he
      · by_cases hk : k' = k
        · subst hk
          simp only [CacheWorld.setReader, CacheWorld.serve, set_self, Option.some_inj] at he
          subst he
          refine ⟨hgenuine, fun ttl httl wait hwait => ⟨s.now + ttlMicros ttl, ?_, ?_⟩⟩
          · rw [httl]
            rfl
          · have hwrite := hsoon wait hwait
            simp only
            omega
        · simp only [CacheWorld.setReader, CacheWorld.serve, set_of_ne hk] at he
          exact hinv.cached k' e he
    · by_cases hr' : r' = r
      · subst hr'
        simp only [CacheWorld.setReader, Function.update_self] at hr
        cases hr
      · simp only [CacheWorld.setReader, Function.update_of_ne hr'] at hr
        exact hinv.held r' k' stamp' hr
    · rcases List.mem_cons.mp hd with rfl | hd
      · refine ⟨hgenuine, fun ttl _ wait hwait => ?_⟩
        have hpos := ttlMicros_pos ttl
        have hwrite := hsoon wait hwait
        simp only
        omega
      · exact hinv.served d hd

/-- What is served is a version of the row, and misses no version that was committed longer ago than
a lifetime of the cache and the longest delay of a reader. -/
lemma served_recent {ttl : ℕ+} {delay : ℤ} {as : List (CacheAction κ ν)} {t : CacheWorld κ ν}
    (hmeets : Meets (cacheStep (some ttl)) (fun a s => prompt delay a s = true) as
      CacheWorld.init)
    (hrun : run (cacheStep (some ttl)) as CacheWorld.init = some t) :
    ∀ d ∈ t.served, (∃ w, (t.rows d.key)[d.stamp.version]? = some (w, d.stamp.value)) ∧
      ∀ i w v, d.stamp.version < i → (t.rows d.key)[i]? = some (w, v) →
        d.time < w + delay + ttlMicros ttl := by
  have hinv : DetailCacheInv (some ttl) (some delay) t := by
    refine run_invariant_of_meets (fun a u v hC hu hstep => hu.step ?_ hstep) hmeets hrun
      (DetailCacheInv.init _ _)
    rintro _ ⟨⟩
    exact hC
  intro d hd
  obtain ⟨hgenuine, hbound⟩ := hinv.served d hd
  refine ⟨hgenuine.version, fun i w v hi hrow => ?_⟩
  have hread := hgenuine.newer i w v hi hrow
  have hserved := hbound ttl rfl delay rfl
  omega

/-- What is served is a version of the row in any run. -/
lemma served_version {ex : Option ℕ+} {as : List (CacheAction κ ν)} {t : CacheWorld κ ν}
    (hrun : run (cacheStep ex) as CacheWorld.init = some t) :
    ∀ d ∈ t.served, ∃ w, (t.rows d.key)[d.stamp.version]? = some (w, d.stamp.value) := by
  have hinv : DetailCacheInv ex none t :=
    run_invariant (fun a u v hu hstep => hu.step (fun _ hwait => by cases hwait) hstep) hrun
      (DetailCacheInv.init _ _)
  exact fun d hd => (hinv.served d hd).1.version

/-! ## After a deletion that no reader overtakes -/

/-- Nothing that is cached or held for the key is older than version `n`. -/
structure FreshFrom (k : κ) (n : ℕ) (s : CacheWorld κ ν) : Prop where
  rows : n < (s.rows k).length
  cached : ∀ e, s.cache k = some e → n ≤ e.value.version
  held : ∀ r stamp, s.readers r = .fetched k stamp → n ≤ stamp.version

/-- It stays so, and what a step serves is not older either. -/
lemma FreshFrom.step {ex : Option ℕ+} {a : CacheAction κ ν} {s t : CacheWorld κ ν} {k : κ} {n : ℕ}
    (hfresh : FreshFrom k n s) (hstep : cacheStep ex a s = some t) :
    FreshFrom k n t ∧ ∃ new, t.served = new ++ s.served ∧
      ∀ d ∈ new, d.key = k → n ≤ d.stamp.version := by
  -- Most steps serve nothing.
  have hnone : ∃ new : List (Served κ ν), s.served = new ++ s.served ∧
      ∀ d ∈ new, d.key = k → n ≤ d.stamp.version := ⟨[], rfl, fun d hd => by cases hd⟩
  cases cacheStep_move hstep with
  | tick elapsed ht =>
    subst ht
    exact ⟨⟨hfresh.rows, hfresh.cached, hfresh.held⟩, hnone⟩
  | commit k' v _ ht =>
    subst ht
    refine ⟨⟨?_, hfresh.cached, hfresh.held⟩, hnone⟩
    have hrows := hfresh.rows
    by_cases hk : k = k'
    · subst hk
      simp only [Function.update_self, List.length_append]
      omega
    · simpa only [Function.update_of_ne hk] using hrows
  | invalidate k' ht =>
    subst ht
    refine ⟨⟨hfresh.rows, fun e he => ?_, hfresh.held⟩, hnone⟩
    by_cases hk : k = k'
    · subst hk
      simp only [delete_self] at he
      cases he
    · simp only [delete_of_ne hk] at he
      exact hfresh.cached e he
  | idle r state hstate ht =>
    subst ht
    refine ⟨⟨hfresh.rows, hfresh.cached, fun r' stamp hr => ?_⟩, hnone⟩
    by_cases hreader : r' = r
    · subst hreader
      simp only [CacheWorld.setReader, Function.update_self] at hr
      exact absurd hr (hstate k stamp)
    · simp only [CacheWorld.setReader, Function.update_of_ne hreader] at hr
      exact hfresh.held r' stamp hr
  | hit k' stamp hget ht =>
    subst ht
    refine ⟨⟨hfresh.rows, hfresh.cached, hfresh.held⟩, [⟨s.now, true, k', stamp⟩], rfl, ?_⟩
    rintro d hd rfl
    obtain rfl := List.mem_singleton.mp hd
    obtain ⟨e, he, -, rfl⟩ := get_eq_some_iff.mp hget
    exact hfresh.cached e he
  | fetch r k' stamp hnewest ht =>
    subst ht
    refine ⟨⟨hfresh.rows, hfresh.cached, fun r' stamp' hr => ?_⟩, hnone⟩
    by_cases hreader : r' = r
    · subst hreader
      simp only [CacheWorld.setReader, Function.update_self, CacheReader.fetched.injEq] at hr
      obtain ⟨rfl, rfl⟩ := hr
      obtain ⟨row, _, rfl⟩ := Option.map_eq_some_iff.mp hnewest
      have hrows := hfresh.rows
      simp only
      omega
    · simp only [CacheWorld.setReader, Function.update_of_ne hreader] at hr
      exact hfresh.held r' stamp' hr
  | fill r reply k' stamp cache _ hreader hcache ht =>
    subst ht
    have hstamp : k' = k → n ≤ stamp.version := by
      rintro rfl
      exact hfresh.held r stamp hreader
    refine ⟨⟨hfresh.rows, fun e he => ?_, fun r' stamp' hr => ?_⟩,
      [⟨s.now, false, k', stamp⟩], rfl, fun d hd hkey => ?_⟩
    · rcases hcache with rfl | rfl
      · exact hfresh.cached e he
      · by_cases hk : k = k'
        · subst hk
          simp only [CacheWorld.setReader, CacheWorld.serve, set_self, Option.some_inj] at he
          subst he
          exact hstamp rfl
        · simp only [CacheWorld.setReader, CacheWorld.serve, set_of_ne hk] at he
          exact hfresh.cached e he
    · by_cases hr' : r' = r
      · subst hr'
        simp only [CacheWorld.setReader, Function.update_self] at hr
        cases hr
      · simp only [CacheWorld.setReader, Function.update_of_ne hr'] at hr
        exact hfresh.held r' stamp' hr
    · obtain rfl := List.mem_singleton.mp hd
      exact hstamp hkey

/-- In every run from there, what is served for the key is not older. -/
lemma FreshFrom.run {ex : Option ℕ+} {as : List (CacheAction κ ν)} {s t : CacheWorld κ ν} {k : κ}
    {n : ℕ} (hfresh : FreshFrom k n s) (hrun : Runs.run (cacheStep ex) as s = some t) :
    ∃ new, t.served = new ++ s.served ∧ ∀ d ∈ new, d.key = k → n ≤ d.stamp.version := by
  have hend := run_invariant (I := fun u => FreshFrom k n u ∧
    ∃ new, u.served = new ++ s.served ∧ ∀ d ∈ new, d.key = k → n ≤ d.stamp.version) ?_ hrun
      ⟨hfresh, [], rfl, fun d hd => by cases hd⟩
  · exact hend.2
  · rintro a u v ⟨hu, old, hold, hbefore⟩ hstep
    obtain ⟨hv, new, hnew, hafter⟩ := hu.step hstep
    refine ⟨hv, new ++ old, by rw [hnew, hold, List.append_assoc], fun d hd => ?_⟩
    exact (List.mem_append.mp hd).elim (hafter d) (hbefore d)

/-- A deletion that is carried out while no reader holds an older version. -/
lemma freshFrom_invalidate {ex : Option ℕ+} {s t : CacheWorld κ ν} {k : κ} {reply : Reply}
    (happlied : reply.applied = true) (hrow : s.rows k ≠ [])
    (hheld : ∀ r stamp, s.readers r = .fetched k stamp → (s.rows k).length = stamp.version + 1)
    (hstep : cacheStep ex (.invalidate k reply) s = some t) :
    FreshFrom k ((s.rows k).length - 1) t := by
  have hlength := List.length_pos_of_ne_nil hrow
  cases hstep
  refine ⟨by simp only; omega, fun e he => ?_, fun r stamp hr => ?_⟩
  · simp only [safeDelete, happlied, if_true, delete_self] at he
    cases he
  · have hversion := hheld r stamp hr
    omega

end AssessmentEngine
