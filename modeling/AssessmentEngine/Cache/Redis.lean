import Mathlib.Data.PNat.Basic
import AssessmentEngine.Library.ExpiringStore

/-!
# Calls to Redis that fail open

Every call to Redis goes through a `safe_*` helper, which turns a `RedisError` into an answer that
says nothing: `None`, or `False` for a write.  A command whose answer is lost may have been carried
out (`Reply.failed true`), and the caller cannot tell.

Each family of keys (`idempotent:{}`, `online:{}`, …) is a store of its own, since the families
never name the same key.  Times are microseconds since the epoch.
-/

namespace AssessmentEngine

open ExpiringStore

/-- What becomes of one command: its answer arrives, or a `RedisError` does, with the command
carried out or not. -/
inductive Reply
  | answered
  | failed (applied : Bool)
  deriving DecidableEq, Repr

/-- The command was carried out. -/
def Reply.applied : Reply → Bool
  | .answered => true
  | .failed applied => applied

/-- The caller learns its result. -/
def Reply.heard : Reply → Bool
  | .answered => true
  | .failed _ => false

/-- The lifetimes of the keys, in seconds; a lifetime that is not positive is an error of every
command that sets it. -/
structure RedisTtls where
  redisTtlIdempotent : ℕ+ := 86400
  redisTtlOnline : ℕ+ := 300
  redisTtlLastAgentStart : ℕ+ := 86400
  redisTtlAgentRestarts : ℕ+ := 3600
  redisTtlTimeInvariantWarned : ℕ+ := 3600
  redisTtlCacheMetrics : ℕ+ := 60
  redisTtlCacheDetail : ℕ+ := 300

/-- A lifetime in microseconds. -/
def ttlMicros (seconds : ℕ+) : ℤ := (seconds : ℤ) * 1000000

lemma ttlMicros_pos (seconds : ℕ+) : 0 < ttlMicros seconds := by
  have hpos : (0 : ℤ) < seconds := by exact_mod_cast seconds.pos
  unfold ttlMicros
  omega

section

variable {κ ν : Type*}

/-- `safe_get`. -/
def safeGet (reply : Reply) (now : ℤ) (k : κ) (s : Store κ ν) : Option ν :=
  if reply.heard then get now k s else none

variable [DecidableEq κ]

/-- `safe_set`; without `ex` the value stays for good. -/
def safeSet (reply : Reply) (now : ℤ) (k : κ) (v : ν) (ex : Option ℕ+) (s : Store κ ν) :
    Bool × Store κ ν :=
  (reply.heard, if reply.applied then set now k v (ex.map ttlMicros) s else s)

/-- `safe_set_nx`: `some true` for the first, `some false` for a repetition, `none` when Redis
failed. -/
def safeSetNx (reply : Reply) (now : ℤ) (k : κ) (v : ν) (ex : ℕ+) (s : Store κ ν) :
    Option Bool × Store κ ν :=
  let (first, s') := setNx now k v (ttlMicros ex) s
  (if reply.heard then some first else none, if reply.applied then s' else s)

/-- `safe_delete`. -/
def safeDelete (reply : Reply) (k : κ) (s : Store κ ν) : Bool × Store κ ν :=
  (reply.heard, if reply.applied then delete k s else s)

/-- `safe_incr_with_ttl`: `INCR` and `EXPIRE` in one transaction. -/
def safeIncrWithTtl (reply : Reply) (now : ℤ) (k : κ) (ttl : ℕ+) (s : Store κ ℕ) :
    Option ℕ × Store κ ℕ :=
  let (count, s') := incrWithTtl now k (ttlMicros ttl) s
  (if reply.heard then some count else none, if reply.applied then s' else s)

end

/-! ## The answers of `safe_set_nx` -/

section setNx

variable {κ ν : Type*} [DecidableEq κ]

/-- Told that it is the first: the key was free, and is taken now. -/
lemma safeSetNx_first {reply : Reply} {now : ℤ} {k : κ} {v : ν} {ex : ℕ+} {s s' : Store κ ν}
    (h : safeSetNx reply now k v ex s = (some true, s')) :
    get now k s = none ∧ s' = set now k v (some (ttlMicros ex)) s := by
  cases reply with
  | failed applied => simp [safeSetNx, Reply.heard] at h
  | answered =>
    rcases setNx_cases now k v (ttlMicros ex) s with ⟨_, hset⟩ | ⟨hget, hset⟩
    · simp [safeSetNx, hset, Reply.heard, Reply.applied] at h
    · simp only [safeSetNx, hset, Reply.heard, Reply.applied, if_true, Prod.mk.injEq] at h
      exact ⟨hget, h.2.symm⟩

/-- Told that it is a repetition: the key is taken, and nothing changes. -/
lemma safeSetNx_repeated {reply : Reply} {now : ℤ} {k : κ} {v : ν} {ex : ℕ+} {s s' : Store κ ν}
    (h : safeSetNx reply now k v ex s = (some false, s')) :
    (get now k s).isSome ∧ s' = s := by
  cases reply with
  | failed applied => simp [safeSetNx, Reply.heard] at h
  | answered =>
    rcases setNx_cases now k v (ttlMicros ex) s with ⟨hget, hset⟩ | ⟨_, hset⟩
    · simp only [safeSetNx, hset, Reply.heard, Reply.applied, if_true, Prod.mk.injEq] at h
      exact ⟨hget, h.2.symm⟩
    · simp [safeSetNx, hset, Reply.heard, Reply.applied] at h

/-- Told nothing: the key is as it was, or it was free and is taken now. -/
lemma safeSetNx_failed {reply : Reply} {now : ℤ} {k : κ} {v : ν} {ex : ℕ+} {s s' : Store κ ν}
    (h : safeSetNx reply now k v ex s = (none, s')) :
    s' = s ∨ (get now k s = none ∧ s' = set now k v (some (ttlMicros ex)) s) := by
  cases reply with
  | answered => simp [safeSetNx, Reply.heard] at h
  | failed applied =>
    cases applied with
    | false => exact Or.inl (congrArg Prod.snd h).symm
    | true =>
      have hs : (setNx now k v (ttlMicros ex) s).2 = s' := congrArg Prod.snd h
      rcases setNx_cases now k v (ttlMicros ex) s with ⟨_, hset⟩ | ⟨hget, hset⟩
      · left
        rw [← hs, hset]
      · right
        rw [← hs, hset]
        exact ⟨hget, rfl⟩

/-- Other keys keep their entries. -/
lemma safeSetNx_of_ne {k k' : κ} (h : k' ≠ k) (reply : Reply) (now : ℤ) (v : ν) (ex : ℕ+)
    (s : Store κ ν) : (safeSetNx reply now k v ex s).2 k' = s k' := by
  have hset := setNx_of_ne h now v (ttlMicros ex) s
  cases happlied : reply.applied with
  | false => simp [safeSetNx, happlied]
  | true => simpa [safeSetNx, happlied] using hset

/-- The key, after it was asked for once more: each `some true` takes a lifetime. -/
lemma spaced_safeSetNx {reply : Reply} {now : ℤ} {k : κ} {v : ν} {ex : ℕ+} {s s' : Store κ ν}
    {answer : Option Bool} {count : ℕ} (h : Spaced (ttlMicros ex) now count (s k))
    (hnow : 0 ≤ now) (hset : safeSetNx reply now k v ex s = (answer, s')) :
    Spaced (ttlMicros ex) now (count + if answer = some true then 1 else 0) (s' k) := by
  have hpos := (ttlMicros_pos ex).le
  rcases answer with _ | _ | _
  · rcases safeSetNx_failed hset with rfl | ⟨hfree, rfl⟩
    · exact h
    · exact h.set hnow hpos hfree v zero_le_one
  · obtain ⟨-, rfl⟩ := safeSetNx_repeated hset
    exact h
  · obtain ⟨hfree, rfl⟩ := safeSetNx_first hset
    exact h.set hnow hpos hfree v le_rfl

end setNx

end AssessmentEngine
