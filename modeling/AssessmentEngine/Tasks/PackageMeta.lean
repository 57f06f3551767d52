import Mathlib.Logic.Function.Basic
import AssessmentEngine.Library.Runs
import AssessmentEngine.Tasks.Task

/-!
# The digest of an install package

`HttpZdmPackageResolver.resolve` asks the ZDM server for the validator and the length of a package
(HEAD), takes the SHA-256 from Redis when the validator is known there, and otherwise downloads the
file and stores its digest.  The Redis key is made of host and validator; the path is not in it.  So
the digest is the right one exactly as long as no call finds in Redis what an earlier one stored for
a different file under the same host and validator.
-/

namespace AssessmentEngine

open Runs

abbrev Bytes := List UInt8

/-! ## What the server sends -/

/-- `int(…)` on the digits of a number, single underscores between them allowed. -/
def pyNat (digits : List Char) : Option ℕ :=
  if (digits.splitOn '_').all fun part => !part.isEmpty && part.all Char.isDigit then
    some ((digits.filter (· ≠ '_')).foldl (fun n c => 10 * n + (c.toNat - '0'.toNat)) 0)
  else none

/-- `int(…)` on a header value. -/
def pyInt (text : String) : Option ℤ :=
  let trimmed := text.toList.dropWhile Char.isWhitespace
  match (trimmed.reverse.dropWhile Char.isWhitespace).reverse with
  | '-' :: digits => (pyNat digits).map fun n => -(n : ℤ)
  | '+' :: digits => (pyNat digits).map Nat.cast
  | digits => (pyNat digits).map Nat.cast

structure HeadResponse where
  statusCode : ℕ
  contentLength : Option String
  etag : Option String
  lastModified : Option String

structure GetResponse where
  statusCode : ℕ
  chunks : List Bytes

/-- The answers to one call, an `httpx.HTTPError` among them. -/
structure Exchange where
  head : Except String HeadResponse
  get : Except String GetResponse

/-- The reasons of `ZdmPackageMetaError`. -/
inductive ZdmPackageMetaError
  | headFailed (error : String)
  | headStatus (statusCode : ℕ)
  | missingContentLength
  | contentLengthNotInt (raw : String)
  | contentLengthNonPositive (sizeBytes : ℤ)
  | getFailed (error : String)
  | getStatus (statusCode : ℕ)
  | sizeMismatch (head : ℤ) (get : ℕ)
  deriving DecidableEq, Repr

/-! ## The resolver -/

/-- `ETag`, or `Last-Modified` without it, or the empty text. -/
def validator (etag lastModified : Option String) : String :=
  ((nonempty etag).or (nonempty lastModified)).getD ""

/-- The Redis key of a digest; empty, that is unused, without a validator. -/
def zdmCacheKey (zdmHost etag : String) : String :=
  if etag = "" then "" else "cache:zdm_package:sha256:" ++ zdmHost ++ ":" ++ etag

/-- With one host, keys tell validators apart. -/
lemma zdmCacheKey_inj {zdmHost etag etag' : String} (hne : zdmCacheKey zdmHost etag ≠ "")
    (heq : zdmCacheKey zdmHost etag = zdmCacheKey zdmHost etag') : etag ≠ "" ∧ etag = etag' := by
  unfold zdmCacheKey at hne heq
  by_cases hempty : etag = ""
  · rw [if_pos hempty] at hne
    exact absurd rfl hne
  · refine ⟨hempty, ?_⟩
    rw [if_neg hempty] at hne heq
    by_cases hempty' : etag' = ""
    · rw [if_pos hempty'] at heq
      exact absurd heq hne
    · rw [if_neg hempty'] at heq
      exact (String.append_right_inj _).mp heq

/-- The HEAD request: size and validator. -/
def headMeta (x : Exchange) : Except ZdmPackageMetaError (ℤ × String) :=
  match x.head with
  | .error e => .error (.headFailed e)
  | .ok head =>
    if head.statusCode ≠ 200 then .error (.headStatus head.statusCode)
    else match head.contentLength with
      | none => .error .missingContentLength
      | some raw =>
        match pyInt raw with
        | none => .error (.contentLengthNotInt raw)
        | some sizeBytes =>
          if sizeBytes ≤ 0 then .error (.contentLengthNonPositive sizeBytes)
          else .ok (sizeBytes, validator head.etag head.lastModified)

/-- The download: the bytes, if there are as many as announced. -/
def getBytes (x : Exchange) (sizeBytes : ℤ) : Except ZdmPackageMetaError Bytes :=
  match x.get with
  | .error e => .error (.getFailed e)
  | .ok resp =>
    if resp.statusCode ≠ 200 then .error (.getStatus resp.statusCode)
    else if (resp.chunks.flatten.length : ℤ) ≠ sizeBytes then
      .error (.sizeMismatch sizeBytes resp.chunks.flatten.length)
    else .ok resp.chunks.flatten

/-- `safe_get`: without Redis, or for an unused key, nothing is found. -/
def cachedDigest (redisUp : Bool) (cache : String → Option String) (key : String) : Option String :=
  if redisUp ∧ key ≠ "" then nonempty (cache key) else none

lemma cachedDigest_eq_some {redisUp : Bool} {cache : String → Option String} {key digest : String}
    (h : cachedDigest redisUp cache key = some digest) :
    redisUp = true ∧ key ≠ "" ∧ cache key = some digest := by
  unfold cachedDigest at h
  split_ifs at h with hup
  exact ⟨hup.1, hup.2, (Option.filter_eq_some_iff.mp h).1⟩

/-- A call of `resolve`, with the answers of the server and of Redis. -/
structure ZdmCall where
  zdmHost : String
  packagePath : String
  x : Exchange
  getUp : Bool
  setUp : Bool

/-- `HttpZdmPackageResolver.resolve`: digest and size, and the cache afterwards. -/
def ZdmCall.resolve (sha256 : Bytes → String) (c : ZdmCall) (cache : String → Option String) :
    Except ZdmPackageMetaError (String × ℤ) × (String → Option String) :=
  match headMeta c.x with
  | .error e => (.error e, cache)
  | .ok (sizeBytes, etag) =>
    let cacheKey := zdmCacheKey c.zdmHost etag
    match cachedDigest c.getUp cache cacheKey with
    | some digest => (.ok (digest, sizeBytes), cache)
    | none =>
      match getBytes c.x sizeBytes with
      | .error e => (.error e, cache)
      | .ok bytes =>
        (.ok (sha256 bytes, sizeBytes),
          if c.setUp ∧ cacheKey ≠ "" then Function.update cache cacheKey (some (sha256 bytes))
          else cache)

/-- The key that a call looks up, empty if it gets to none. -/
def ZdmCall.key (c : ZdmCall) : String :=
  match headMeta c.x with
  | .ok (_, etag) => zdmCacheKey c.zdmHost etag
  | .error _ => ""

/-- Answers with which a call leaves a digest under its key: a complete download, and Redis taking
the write. -/
def ZdmCall.fills (c : ZdmCall) : Bool :=
  match headMeta c.x with
  | .ok (sizeBytes, _) =>
    c.setUp && decide (c.key ≠ "") && (getBytes c.x sizeBytes).toOption.isSome
  | .error _ => false

lemma ZdmCall.key_of_head {c : ZdmCall} {sizeBytes : ℤ} {etag : String}
    (h : headMeta c.x = .ok (sizeBytes, etag)) : c.key = zdmCacheKey c.zdmHost etag := by
  rw [ZdmCall.key, h]

/-- How a call ends: without a result, with a digest found in Redis, or with the digest of what it
downloaded. -/
inductive ResolveVerdict (sha256 : Bytes → String) (c : ZdmCall) (cache : String → Option String) :
    Except ZdmPackageMetaError (String × ℤ) × (String → Option String) → Prop
  | failed (e : ZdmPackageMetaError) (hfills : c.fills = false)
      (hmiss : c.getUp = true → c.key ≠ "" → nonempty (cache c.key) = none) :
    ResolveVerdict sha256 c cache (.error e, cache)
  | hit (digest etag : String) (sizeBytes : ℤ) (hhead : headMeta c.x = .ok (sizeBytes, etag))
      (hup : c.getUp = true) (hkey : c.key ≠ "") (hcache : cache c.key = some digest) :
    ResolveVerdict sha256 c cache (.ok (digest, sizeBytes), cache)
  | fetched (etag : String) (sizeBytes : ℤ) (bytes : Bytes)
      (hhead : headMeta c.x = .ok (sizeBytes, etag)) (hget : getBytes c.x sizeBytes = .ok bytes)
      (hmiss : c.getUp = true → c.key ≠ "" → nonempty (cache c.key) = none) :
    ResolveVerdict sha256 c cache (.ok (sha256 bytes, sizeBytes),
      if c.fills then Function.update cache c.key (some (sha256 bytes)) else cache)

theorem ZdmCall.resolve_verdict (sha256 : Bytes → String) (c : ZdmCall)
    (cache : String → Option String) :
    ResolveVerdict sha256 c cache (c.resolve sha256 cache) := by
  cases hhead : headMeta c.x with
  | error e =>
    rw [ZdmCall.resolve, hhead]
    exact .failed e (by simp [ZdmCall.fills, hhead]) (by simp [ZdmCall.key, hhead])
  | ok head =>
    obtain ⟨sizeBytes, etag⟩ := head
    have hkey : zdmCacheKey c.zdmHost etag = c.key := (ZdmCall.key_of_head hhead).symm
    simp only [ZdmCall.resolve, hhead, hkey]
    cases hcached : cachedDigest c.getUp cache c.key with
    | some digest =>
      obtain ⟨hup, hne, hcache⟩ := cachedDigest_eq_some hcached
      exact .hit digest etag sizeBytes hhead hup hne hcache
    | none =>
      have hmiss : c.getUp = true → c.key ≠ "" → nonempty (cache c.key) = none := by
        intro hup hne
        rwa [cachedDigest, if_pos ⟨hup, hne⟩] at hcached
      cases hget : getBytes c.x sizeBytes with
      | error e => exact .failed e (by simp [ZdmCall.fills, hhead, hget, Except.toOption]) hmiss
      | ok bytes =>
        have hfills : (c.setUp = true ∧ c.key ≠ "") ↔ c.fills = true := by
          simp [ZdmCall.fills, hhead, hget, Except.toOption]
        simp only [hfills]
        exact .fetched etag sizeBytes bytes hhead hget hmiss

end AssessmentEngine
