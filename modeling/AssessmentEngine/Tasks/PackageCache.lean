import AssessmentEngine.Library.Runs
import AssessmentEngine.Tasks.PackageMeta

/-!
# Digests in Redis over a run of calls

Calls of `resolve` on any hosts and paths, with files replaced and keys expiring in between.  The
server answers honestly and the validator of one URL tells its versions apart.  Then every call
that returns yields the digest of the file served at that moment, if and only if no call looks up
a key under which the last digest was left for a different file of another URL.
-/

namespace AssessmentEngine

open Runs

/-- A file as a ZDM server has it. -/
structure PackageFile where
  bytes : Bytes
  etag : Option String
  lastModified : Option String
  deriving DecidableEq, Repr

def PackageFile.validator (f : PackageFile) : String :=
  AssessmentEngine.validator f.etag f.lastModified

/-- The files served under host and path, and the digests in Redis. -/
structure ZdmWorld where
  served : String → String → Option PackageFile
  cache : String → Option String

/-- The file that a call asks for. -/
def ZdmWorld.file (s : ZdmWorld) (c : ZdmCall) : Option PackageFile :=
  s.served c.zdmHost c.packagePath

/-- Files are replaced, keys expire, and packages are resolved. -/
inductive ZdmAction
  | replaceFile (zdmHost packagePath : String) (file : Option PackageFile)
  | expire (key : String)
  | resolve (c : ZdmCall)

def zdmStep (sha256 : Bytes → String) : ZdmAction → ZdmWorld → Option ZdmWorld
  | .replaceFile zdmHost packagePath file, s =>
    some { s with served :=
      Function.update s.served zdmHost (Function.update (s.served zdmHost) packagePath file) }
  | .expire key, s => some { s with cache := Function.update s.cache key none }
  | .resolve c, s => some { s with cache := (c.resolve sha256 s.cache).2 }

/-- The answers come from the file served under the URL: its validators, its length if one is
given, and its bytes. -/
def Exchange.Honest (file : Option PackageFile) (x : Exchange) : Prop :=
  (∀ head, x.head = .ok head → head.statusCode = 200 → ∃ f, file = some f ∧
    head.etag = f.etag ∧ head.lastModified = f.lastModified ∧
    ∀ raw n, head.contentLength = some raw → pyInt raw = some n → n = f.bytes.length) ∧
  ∀ resp, x.get = .ok resp → resp.statusCode = 200 → ∃ f, file = some f ∧
    resp.chunks.flatten = f.bytes

/-- A call is answered honestly. -/
def HonestCall : ZdmAction → ZdmWorld → Prop
  | .resolve c, s => c.x.Honest (s.file c)
  | _, _ => True

/-- The result of a call, if there is one, is about the file served. -/
def Correct (sha256 : Bytes → String) (c : ZdmCall) (s : ZdmWorld) : Prop :=
  ∀ digest sizeBytes, (c.resolve sha256 s.cache).1 = .ok (digest, sizeBytes) →
    ∃ f, s.file c = some f ∧ digest = sha256 f.bytes ∧ sizeBytes = f.bytes.length

/-- The action drops the key, or is a call that leaves a digest under it. -/
def ZdmAction.renews (key : String) : ZdmAction → Bool
  | .replaceFile _ _ _ => false
  | .expire key' => decide (key' = key)
  | .resolve c => c.fills && decide (c.key = key)

section conditions

variable (sha256 : Bytes → String) (s₀ : ZdmWorld) (as : List ZdmAction)

/-- The run makes the call when the file is served. -/
def Makes (bs : List ZdmAction) (c : ZdmCall) (f : PackageFile) : Prop :=
  bs ++ [.resolve c] <+: as ∧ ∃ s, run (zdmStep sha256) bs s₀ = some s ∧ s.file c = some f

/-- The validator of one URL changes whenever its bytes do. -/
def ValidatorsTell : Prop :=
  ∀ bs c f bs' c' f', Makes sha256 s₀ as bs c f → Makes sha256 s₀ as bs' c' f' →
    c.zdmHost = c'.zdmHost → c.packagePath = c'.packagePath →
    f.validator ≠ "" → f.validator = f'.validator → f.bytes = f'.bytes

/-- A call that looks up its key in Redis comes upon no digest left for a different file of another
URL: `bs`, the actions before it, end with a call that left a digest under the key, and with actions
that neither drop nor renew it. -/
def KeysTell : Prop :=
  ∀ bs c f bs' c' f' ds, Makes sha256 s₀ as bs c f → bs = bs' ++ .resolve c' :: ds →
    Makes sha256 s₀ as bs' c' f' → (c.zdmHost, c.packagePath) ≠ (c'.zdmHost, c'.packagePath) →
    c.getUp = true → c'.fills = true → c.key ≠ "" → c'.key = c.key →
    (∀ a ∈ ds, a.renews c.key = false) → f.bytes = f'.bytes

end conditions

variable {sha256 : Bytes → String}

/-! ## Honest answers -/

lemma headMeta_eq_ok {x : Exchange} {sizeBytes : ℤ} {etag : String}
    (h : headMeta x = .ok (sizeBytes, etag)) :
    ∃ head raw, x.head = .ok head ∧ head.statusCode = 200 ∧ head.contentLength = some raw ∧
      pyInt raw = some sizeBytes ∧ etag = validator head.etag head.lastModified := by
  unfold headMeta at h
  split at h
  case h_1 => cases h
  case h_2 head hhead =>
    by_cases hstatus : head.statusCode = 200
    · rw [if_neg (not_not.mpr hstatus)] at h
      split at h
      case h_1 => cases h
      case h_2 raw hraw =>
        split at h
        case h_1 => cases h
        case h_2 n hn =>
          split_ifs at h
          cases h
          exact ⟨head, raw, hhead, hstatus, hraw, hn, rfl⟩
    · rw [if_pos hstatus] at h
      cases h

/-- An honest HEAD tells the length and the validator of the file served. -/
lemma headMeta_honest {x : Exchange} {file : Option PackageFile} {sizeBytes : ℤ} {etag : String}
    (hx : x.Honest file) (h : headMeta x = .ok (sizeBytes, etag)) :
    ∃ f, file = some f ∧ etag = f.validator ∧ sizeBytes = f.bytes.length := by
  obtain ⟨head, raw, hhead, hstatus, hraw, hsize, rfl⟩ := headMeta_eq_ok h
  obtain ⟨f, hf, hetag, hmodified, hlength⟩ := hx.1 head hhead hstatus
  refine ⟨f, hf, ?_, hlength raw sizeBytes hraw hsize⟩
  rw [hetag, hmodified, PackageFile.validator]

/-- An honest download brings the file served. -/
lemma getBytes_honest {x : Exchange} {file : Option PackageFile} {sizeBytes : ℤ} {bytes : Bytes}
    (hx : x.Honest file) (h : getBytes x sizeBytes = .ok bytes) :
    ∃ f, file = some f ∧ bytes = f.bytes := by
  unfold getBytes at h
  split at h
  case h_1 => cases h
  case h_2 resp hget =>
    by_cases hstatus : resp.statusCode = 200
    · rw [if_neg (not_not.mpr hstatus)] at h
      split_ifs at h
      cases h
      exact hx.2 resp hget hstatus
    · rw [if_pos hstatus] at h
      cases h

/-- The key of an honest call is made of the validator of the file served. -/
lemma key_honest {c : ZdmCall} {s : ZdmWorld} {f : PackageFile} (hhonest : c.x.Honest (s.file c))
    (hf : s.file c = some f) (hkey : c.key ≠ "") : c.key = zdmCacheKey c.zdmHost f.validator := by
  cases hhead : headMeta c.x with
  | error e =>
    rw [ZdmCall.key, hhead] at hkey
    exact absurd rfl hkey
  | ok head =>
    obtain ⟨sizeBytes, etag⟩ := head
    obtain ⟨f', hf', hetag, _⟩ := headMeta_honest hhonest hhead
    rw [hf, Option.some_inj] at hf'
    rw [ZdmCall.key_of_head hhead, hetag, hf']

/-! ## The cache under one call -/

lemma ZdmCall.key_of_fills {c : ZdmCall} (h : c.fills = true) : c.key ≠ "" := by
  unfold ZdmCall.fills at h
  split at h
  case h_1 =>
    rw [Bool.and_eq_true, Bool.and_eq_true, decide_eq_true_eq] at h
    exact h.1.2
  case h_2 => cases h

/-- With complete answers, the call finds a digest or leaves the one of the file served. -/
lemma resolve_cache_of_fills (sha256 : Bytes → String) {c : ZdmCall} {s : ZdmWorld}
    {f : PackageFile}
    (hhonest : c.x.Honest (s.file c)) (hf : s.file c = some f) (h : c.fills = true) :
    (c.getUp = true ∧ (c.resolve sha256 s.cache).2 = s.cache ∧ ∃ digest sizeBytes,
        s.cache c.key = some digest ∧ (c.resolve sha256 s.cache).1 = .ok (digest, sizeBytes)) ∨
      (c.resolve sha256 s.cache).2 = Function.update s.cache c.key (some (sha256 f.bytes)) := by
  have hverdict := c.resolve_verdict sha256 s.cache
  generalize c.resolve sha256 s.cache = out at hverdict ⊢
  cases hverdict with
  | failed e hfills =>
    rw [h] at hfills
    cases hfills
  | hit digest etag sizeBytes hhead hup hkey hcache =>
    exact Or.inl ⟨hup, rfl, digest, sizeBytes, hcache, rfl⟩
  | fetched etag sizeBytes bytes hhead hget hmiss =>
    obtain ⟨f', hf', rfl⟩ := getBytes_honest hhonest hget
    rw [hf, Option.some_inj] at hf'
    subst hf'
    right
    rw [if_pos h]

/-- A digest in the cache is what the call returns. -/
lemma resolve_of_cached {c : ZdmCall} {s : ZdmWorld} {digest : String} (hup : c.getUp = true)
    (hkey : c.key ≠ "") (hcache : s.cache c.key = some digest) (hne : digest ≠ "") :
    ∃ sizeBytes, (c.resolve sha256 s.cache).1 = .ok (digest, sizeBytes) := by
  have hfound : nonempty (s.cache c.key) = some digest := by simp [nonempty, hcache, hne]
  have hverdict := c.resolve_verdict sha256 s.cache
  generalize c.resolve sha256 s.cache = out at hverdict ⊢
  cases hverdict with
  | failed e hfills hmiss =>
    rw [hmiss hup hkey] at hfound
    cases hfound
  | hit found etag sizeBytes hhead _ _ hcache' =>
    rw [hcache, Option.some_inj] at hcache'
    exact ⟨sizeBytes, hcache' ▸ rfl⟩
  | fetched etag sizeBytes bytes hhead hget hmiss =>
    rw [hmiss hup hkey] at hfound
    cases hfound

/-- A call that returns is about the file served, or repeats the digest under its key. -/
lemma resolve_eq_ok {c : ZdmCall} {s : ZdmWorld} {digest : String} {sizeBytes : ℤ}
    (hhonest : c.x.Honest (s.file c))
    (h : (c.resolve sha256 s.cache).1 = .ok (digest, sizeBytes)) :
    ∃ f, s.file c = some f ∧ sizeBytes = f.bytes.length ∧
      (digest = sha256 f.bytes ∨
        (c.getUp = true ∧ c.key ≠ "" ∧ s.cache c.key = some digest)) := by
  have hverdict := c.resolve_verdict sha256 s.cache
  generalize c.resolve sha256 s.cache = out at hverdict h
  cases hverdict with
  | failed => cases h
  | hit _ etag _ hhead hup hkey hcache =>
    cases h
    obtain ⟨f, hf, _, hsize⟩ := headMeta_honest hhonest hhead
    exact ⟨f, hf, hsize, Or.inr ⟨hup, hkey, hcache⟩⟩
  | fetched etag _ bytes hhead hget hmiss =>
    cases h
    obtain ⟨f, hf, _, hsize⟩ := headMeta_honest hhonest hhead
    obtain ⟨f', hf', rfl⟩ := getBytes_honest hhonest hget
    rw [hf, Option.some_inj] at hf'
    exact ⟨f, hf, hsize, Or.inl (hf' ▸ rfl)⟩

/-- Actions that neither drop nor renew a key keep what is under it. -/
lemma cache_of_not_renews {key : String} {ds : List ZdmAction} {s t : ZdmWorld}
    (hds : ∀ a ∈ ds, a.renews key = false) (hrun : run (zdmStep sha256) ds s = some t) :
    t.cache key = s.cache key := by
  refine run_history (J := fun _ u => u.cache key = s.cache key) rfl ?_ hrun
  intro cs a u v hpre _ hu hstep
  have hnot : a.renews key = false := hds a (hpre.subset (by simp))
  rw [← hu]
  cases a with
  | replaceFile zdmHost packagePath file =>
    cases hstep
    rfl
  | expire dropped =>
    cases hstep
    have hne : key ≠ dropped := fun heq => of_decide_eq_false hnot heq.symm
    exact Function.update_of_ne hne _ _
  | resolve c =>
    cases hstep
    change (c.resolve sha256 u.cache).2 key = u.cache key
    have hverdict := c.resolve_verdict sha256 u.cache
    generalize c.resolve sha256 u.cache = out at hverdict ⊢
    cases hverdict with
    | failed | hit => rfl
    | fetched =>
      by_cases hfills : c.fills = true
      · have hne : key ≠ c.key := by
          rintro rfl
          simp [ZdmAction.renews, hfills] at hnot
        simp only [if_pos hfills]
        exact Function.update_of_ne hne _ _
      · simp only [if_neg hfills]

/-! ## What the cache holds during a run -/

/-- The last digest left under the key, by the actions `bs` of the run, is for the file. -/
def LeftFor (sha256 : Bytes → String) (s₀ : ZdmWorld) (as bs : List ZdmAction) (key : String)
    (c : ZdmCall) (f : PackageFile) : Prop :=
  ∃ bs' ds, bs = bs' ++ .resolve c :: ds ∧ Makes sha256 s₀ as bs' c f ∧ c.fills = true ∧
    c.key = key ∧ ∀ a ∈ ds, a.renews key = false

/-- Every digest in the cache is of the file it was last left for. -/
def CacheInv (sha256 : Bytes → String) (s₀ : ZdmWorld) (as bs : List ZdmAction) (s : ZdmWorld) :
    Prop :=
  ∀ key digest, s.cache key = some digest →
    ∃ c f, LeftFor sha256 s₀ as bs key c f ∧ digest = sha256 f.bytes

lemma LeftFor.snoc {s₀ : ZdmWorld} {as bs : List ZdmAction} {key : String} {c : ZdmCall}
    {f : PackageFile} (h : LeftFor sha256 s₀ as bs key c f) {a : ZdmAction}
    (ha : a.renews key = false) : LeftFor sha256 s₀ as (bs ++ [a]) key c f := by
  obtain ⟨bs', ds, rfl, hmakes, hfills, hkey, hds⟩ := h
  refine ⟨bs', ds ++ [a], by simp, hmakes, hfills, hkey, ?_⟩
  intro b hb
  rcases List.mem_append.mp hb with hold | hnew
  · exact hds b hold
  · exact List.mem_singleton.mp hnew ▸ ha

section run

variable {s₀ : ZdmWorld} {as : List ZdmAction}

/-- Under the two conditions, what a call finds under its key was left for the same bytes. -/
lemma bytes_eq_of_leftFor (hhonest : Meets (zdmStep sha256) HonestCall as s₀)
    (htell : ValidatorsTell sha256 s₀ as) (hkeys : KeysTell sha256 s₀ as) {bs : List ZdmAction}
    {c c' : ZdmCall} {f f' : PackageFile} (hmakes : Makes sha256 s₀ as bs c f)
    (hup : c.getUp = true) (hkey : c.key ≠ "") (hleft : LeftFor sha256 s₀ as bs c.key c' f') :
    f.bytes = f'.bytes := by
  obtain ⟨bs', ds, hbs, hmakes', hfills, hsame, hds⟩ := hleft
  by_cases hurl : (c.zdmHost, c.packagePath) = (c'.zdmHost, c'.packagePath)
  · obtain ⟨hhost, hpath⟩ := Prod.mk.inj hurl
    obtain ⟨hpre, s, hs, hf⟩ := hmakes
    obtain ⟨hpre', s', hs', hf'⟩ := hmakes'
    have hk := key_honest (hhonest.of_prefix hpre hs) hf hkey
    have hk' := key_honest (hhonest.of_prefix hpre' hs') hf' (hsame ▸ hkey)
    rw [hsame, hk, ← hhost] at hk'
    obtain ⟨hvalidator, heq⟩ := zdmCacheKey_inj (hk ▸ hkey) hk'
    exact htell bs c f bs' c' f' ⟨hpre, s, hs, hf⟩ ⟨hpre', s', hs', hf'⟩ hhost hpath hvalidator heq
  · exact hkeys bs c f bs' c' f' ds hmakes hbs hmakes' hurl hup hfills hkey hsame hds

/-- One action keeps the cache in order. -/
lemma cacheInv_step (hhonest : Meets (zdmStep sha256) HonestCall as s₀)
    (htell : ValidatorsTell sha256 s₀ as) (hkeys : KeysTell sha256 s₀ as) {bs : List ZdmAction}
    {a : ZdmAction} {s t : ZdmWorld} (hpre : bs ++ [a] <+: as)
    (hrun : run (zdmStep sha256) bs s₀ = some s) (hinv : CacheInv sha256 s₀ as bs s)
    (hstep : zdmStep sha256 a s = some t) : CacheInv sha256 s₀ as (bs ++ [a]) t := by
  intro key digest hkey
  by_cases hrenews : a.renews key = true
  · cases a with
    | replaceFile => cases hrenews
    | expire dropped =>
      cases hstep
      obtain rfl : dropped = key := of_decide_eq_true hrenews
      change Function.update s.cache dropped none dropped = some digest at hkey
      rw [Function.update_self] at hkey
      cases hkey
    | resolve c =>
      cases hstep
      rw [ZdmAction.renews, Bool.and_eq_true, decide_eq_true_eq] at hrenews
      obtain ⟨hfills, rfl⟩ := hrenews
      have hcall : c.x.Honest (s.file c) := hhonest.of_prefix hpre hrun
      obtain ⟨f, hf⟩ : ∃ f, s.file c = some f := by
        cases hhead : headMeta c.x with
        | error e => simp [ZdmCall.fills, hhead] at hfills
        | ok head =>
          obtain ⟨f, hf, _⟩ := headMeta_honest hcall hhead
          exact ⟨f, hf⟩
      have hmakes : Makes sha256 s₀ as bs c f := ⟨hpre, s, hrun, hf⟩
      refine ⟨c, f, ⟨bs, [], rfl, hmakes, hfills, rfl, by simp⟩, ?_⟩
      change (c.resolve sha256 s.cache).2 c.key = some digest at hkey
      rcases resolve_cache_of_fills sha256 hcall hf hfills with
        ⟨hup, hsame, found, _, hfound, _⟩ | hset
      · -- the digest found was left for a file with the same bytes
        rw [hsame] at hkey
        obtain ⟨c', f', hleft, rfl⟩ := hinv c.key digest hkey
        rw [bytes_eq_of_leftFor hhonest htell hkeys hmakes hup (ZdmCall.key_of_fills hfills) hleft]
      · rw [hset, Function.update_self, Option.some_inj] at hkey
        exact hkey.symm
  · have hnot : a.renews key = false := Bool.eq_false_iff.mpr hrenews
    have hsingle : run (zdmStep sha256) [a] s = some t := run_cons_eq_some.mpr ⟨t, hstep, rfl⟩
    rw [cache_of_not_renews (by simpa using hnot) hsingle] at hkey
    obtain ⟨c, f, hleft, hdigest⟩ := hinv key digest hkey
    exact ⟨c, f, hleft.snoc hnot, hdigest⟩

/-- The cache is in order throughout a run that starts with an empty one. -/
theorem cacheInv_run (hempty : ∀ key, s₀.cache key = none)
    (hhonest : Meets (zdmStep sha256) HonestCall as s₀) (htell : ValidatorsTell sha256 s₀ as)
    (hkeys : KeysTell sha256 s₀ as) {bs : List ZdmAction} {s : ZdmWorld} (hbs : bs <+: as)
    (hrun : run (zdmStep sha256) bs s₀ = some s) : CacheInv sha256 s₀ as bs s := by
  refine run_history (J := CacheInv sha256 s₀ as) ?_ ?_ hrun
  · intro key digest hkey
    rw [hempty key] at hkey
    cases hkey
  · intro cs a u v hpre hcs hu hstep
    exact cacheInv_step hhonest htell hkeys (hpre.trans hbs) hcs hu hstep

end run

/-! ## Servers whose files stay -/

/-- What the server answers for a file. -/
def PackageFile.answer (f : PackageFile) (contentLength : String) : Exchange where
  head := .ok ⟨200, some contentLength, f.etag, f.lastModified⟩
  get := .ok ⟨200, [f.bytes]⟩

lemma PackageFile.answer_honest {f : PackageFile} {contentLength : String}
    (h : pyInt contentLength = some (f.bytes.length : ℤ)) :
    (f.answer contentLength).Honest (some f) := by
  constructor
  · intro head hhead _
    cases hhead
    refine ⟨f, rfl, rfl, rfl, ?_⟩
    intro raw n hraw hn
    cases hraw
    rw [h, Option.some_inj] at hn
    exact hn.symm
  · intro resp hresp _
    cases hresp
    exact ⟨f, rfl, List.flatten_singleton⟩

/-- Calls and expiries leave the files alone. -/
lemma served_of_calls {s₀ s : ZdmWorld} {calls : List ZdmCall} {bs : List ZdmAction}
    (hbs : bs <+: calls.map .resolve) (hrun : run (zdmStep sha256) bs s₀ = some s) :
    s.served = s₀.served := by
  refine run_history (J := fun _ u => u.served = s₀.served) rfl ?_ hrun
  intro cs a u v hpre _ hu hstep
  have hmem : a ∈ calls.map ZdmAction.resolve := (hpre.trans hbs).subset (by simp)
  obtain ⟨c, _, rfl⟩ := List.mem_map.mp hmem
  cases hstep
  exact hu

/-- Files that stay tell their validators apart. -/
lemma validatorsTell_of_calls (s₀ : ZdmWorld) (calls : List ZdmCall) :
    ValidatorsTell sha256 s₀ (calls.map .resolve) := by
  rintro bs c f bs' c' f' ⟨hpre, s, hs, hf⟩ ⟨hpre', s', hs', hf'⟩ hhost hpath _ _
  rw [ZdmWorld.file, served_of_calls ((List.prefix_append bs _).trans hpre) hs] at hf
  rw [ZdmWorld.file, served_of_calls ((List.prefix_append bs' _).trans hpre') hs', ← hhost,
    ← hpath, hf, Option.some_inj] at hf'
  rw [hf']

/-! ## When every digest is right -/

/-- After a correct call with complete answers, the cache holds the digest of the file served. -/
lemma cache_of_correct {c : ZdmCall} {s : ZdmWorld} {f : PackageFile}
    (hhonest : c.x.Honest (s.file c)) (hf : s.file c = some f) (hfills : c.fills = true)
    (hcorrect : Correct sha256 c s) :
    (c.resolve sha256 s.cache).2 c.key = some (sha256 f.bytes) := by
  rcases resolve_cache_of_fills sha256 hhonest hf hfills with
    ⟨_, hsame, digest, sizeBytes, hfound, hresult⟩ | hset
  · obtain ⟨f', hf', rfl, _⟩ := hcorrect digest sizeBytes hresult
    rw [hf, Option.some_inj] at hf'
    rw [hsame, hfound, hf']
  · rw [hset, Function.update_self]

/-- The claim holds of a run exactly when no call looks up a key under which the last digest was
left for a different file of another URL. -/
theorem resolved_digests_current_iff (sha256 : Bytes → String) (s₀ : ZdmWorld)
    (as : List ZdmAction) (hinj : Function.Injective sha256) (hhex : ∀ bytes, sha256 bytes ≠ "")
    (hempty : ∀ key, s₀.cache key = none) (hhonest : Meets (zdmStep sha256) HonestCall as s₀)
    (htell : ValidatorsTell sha256 s₀ as) :
    (∀ bs c s, bs ++ [.resolve c] <+: as → run (zdmStep sha256) bs s₀ = some s →
      Correct sha256 c s) ↔ KeysTell sha256 s₀ as := by
  constructor
  · rintro hcorrect _ c f bs' c' f' ds ⟨hpre, s, hs, hf⟩ rfl ⟨hpre', s', hs', hf'⟩ _ hup hfills
      hkey hsame hds
    -- the digest left by the first call is still there for the second
    obtain ⟨u, hu, hrest⟩ := run_append_eq_some.mp hs
    rw [hs', Option.some_inj] at hu
    subst hu
    obtain ⟨v, hv, hds'⟩ := run_cons_eq_some.mp hrest
    have hleft : v.cache c'.key = some (sha256 f'.bytes) := by
      cases hv
      exact cache_of_correct (hhonest.of_prefix hpre' hs') hf' hfills (hcorrect bs' c' s' hpre' hs')
    have hthere : s.cache c.key = some (sha256 f'.bytes) := by
      rw [cache_of_not_renews hds hds', ← hsame, hleft]
    obtain ⟨sizeBytes, hresult⟩ : ∃ sizeBytes, (c.resolve sha256 s.cache).1 =
        .ok (sha256 f'.bytes, sizeBytes) := resolve_of_cached hup hkey hthere (hhex _)
    obtain ⟨f'', hf'', hdigest, _⟩ := hcorrect _ c s hpre hs _ _ hresult
    rw [hf, Option.some_inj] at hf''
    rw [hf'']
    exact (hinj hdigest).symm
  · intro hkeys bs c s hpre hrun digest sizeBytes hresult
    have hcall : c.x.Honest (s.file c) := hhonest.of_prefix hpre hrun
    obtain ⟨f, hf, hsize, hdigest | ⟨hup, hkey, hcache⟩⟩ := resolve_eq_ok hcall hresult
    · exact ⟨f, hf, hdigest, hsize⟩
    · have hbs : bs <+: as := (List.prefix_append bs _).trans hpre
      obtain ⟨c', f', hleft, rfl⟩ :=
        cacheInv_run hempty hhonest htell hkeys hbs hrun c.key digest hcache
      refine ⟨f, hf, ?_, hsize⟩
      rw [bytes_eq_of_leftFor hhonest htell hkeys ⟨hpre, s, hrun, hf⟩ hup hkey hleft]

/-! ## A Linux and a Windows package on one server -/

def byteChar (b : UInt8) : Char := Char.ofNat b.toNat

lemma byteChar_injective : Function.Injective byteChar := by
  have htoNat : ∀ c : UInt8, (byteChar c).toNat = c.toNat := by
    intro c
    have hlt := c.toNat_lt
    have hvalid : c.toNat.isValidChar := Or.inl (by omega)
    rw [byteChar, Char.ofNat, dif_pos hvalid]
    rfl
  intro a b h
  have hnat : (byteChar a).toNat = (byteChar b).toNat := congrArg Char.toNat h
  rw [htoNat, htoNat] at hnat
  exact UInt8.toNat_inj.mp hnat

/-- A fresh value at one point keeps a function injective. -/
lemma injective_override {f : Bytes → String} (hf : Function.Injective f) {p : Bytes}
    {digest : String} (hfresh : ∀ bytes, f bytes ≠ digest) :
    Function.Injective fun bytes => if bytes = p then digest else f bytes := by
  intro a b h
  by_cases ha : a = p <;> by_cases hb : b = p
  · rw [ha, hb]
  · simp only [if_pos ha, if_neg hb] at h
    exact absurd h.symm (hfresh b)
  · simp only [if_neg ha, if_pos hb] at h
    exact absurd h (hfresh a)
  · simp only [if_neg ha, if_neg hb] at h
    exact hf h

/-- The first bytes of a gzip archive and of a Windows executable, the latter twice: with the time
stamp of the former, and with a later one. -/
def linuxFile : PackageFile := ⟨[0x1f, 0x8b, 0x08], none, some "Thu, 01 Jan 2026 00:00:00 GMT"⟩

def windowsFile : PackageFile := ⟨[0x4d, 0x5a], none, some "Thu, 01 Jan 2026 00:00:00 GMT"⟩

def laterWindowsFile : PackageFile :=
  { windowsFile with lastModified := some "Fri, 02 Jan 2026 00:00:00 GMT" }

/-- The SHA-256 digests of the two packages, in an injective function. -/
def sampleSha (bytes : Bytes) : String :=
  if bytes = linuxFile.bytes then
    "baa89858c7e545390273530ba63c61b94c2e09d38c28b0a0311bfa7bde396181"
  else if bytes = windowsFile.bytes then
    "9b8db510ef42b8ed54a3712636fda55a4f8cfcd5493e20b74ab00cd4f3979f2d"
  else "x" ++ String.ofList (bytes.map byteChar)

lemma sampleSha_injective : Function.Injective sampleSha := by
  have hrest :
      Function.Injective fun bytes : Bytes => "x" ++ String.ofList (bytes.map byteChar) := by
    intro a b h
    have hlist := String.ofList_injective ((String.append_right_inj _).mp h)
    exact (List.map_injective_iff.mpr byteChar_injective) hlist
  have hother : ∀ (digest : String) (bytes : Bytes), digest.toList.head? ≠ some 'x' →
      "x" ++ String.ofList (bytes.map byteChar) ≠ digest := by
    rintro digest bytes hd rfl
    simp at hd
  refine injective_override (injective_override hrest fun bytes => hother _ bytes (by decide)) ?_
  intro bytes
  by_cases hbytes : bytes = windowsFile.bytes
  · rw [if_pos hbytes]
    decide
  · rw [if_neg hbytes]
    exact hother _ bytes (by decide)

lemma sampleSha_ne_empty (bytes : Bytes) : sampleSha bytes ≠ "" := by
  unfold sampleSha
  split_ifs
  · decide
  · decide
  · intro h
    have hlength := congrArg String.length h
    simp at hlength

/-- A server of both packages at their default paths. -/
def zdmServer (windows : PackageFile) : ZdmWorld where
  served zdmHost packagePath :=
    if zdmHost ≠ "zdm" then none
    else if packagePath = "/download/ZConverter_CloudSource_Setup_Linux.tar.gz" then some linuxFile
    else if packagePath = "/download/ZConverter_CloudSource_Setup_Windows.exe" then some windows
    else none
  cache _ := none

def linuxCall : ZdmCall :=
  ⟨"zdm", "/download/ZConverter_CloudSource_Setup_Linux.tar.gz", linuxFile.answer "3", true, true⟩

def windowsCall (windows : PackageFile) : ZdmCall :=
  ⟨"zdm", "/download/ZConverter_CloudSource_Setup_Windows.exe", windows.answer "2", true, true⟩

/-- The packages are resolved one after the other, as for a batch of both systems. -/
def bothCalls (windows : PackageFile) : List ZdmAction :=
  [linuxCall, windowsCall windows].map .resolve

lemma bothCalls_honest {windows : PackageFile} (hbytes : windows.bytes.length = 2) :
    Meets (zdmStep sampleSha) HonestCall (bothCalls windows) (zdmServer windows) := by
  refine .cons ?_ rfl (.cons ?_ rfl .nil)
  · exact PackageFile.answer_honest (by decide)
  · exact PackageFile.answer_honest (by rw [hbytes]; decide)

/-- The time stamps differ, and both digests are right. -/
theorem resolved_digests_current_iff_laterWindows :
    KeysTell sampleSha (zdmServer laterWindowsFile) (bothCalls laterWindowsFile) ∧
    ∀ bs c s, bs ++ [.resolve c] <+: bothCalls laterWindowsFile →
      run (zdmStep sampleSha) bs (zdmServer laterWindowsFile) = some s →
      Correct sampleSha c s := by
  have hkeys : KeysTell sampleSha (zdmServer laterWindowsFile) (bothCalls laterWindowsFile) := by
    rintro bs c f bs' c' f' ds ⟨hpre, _⟩ _ ⟨hpre', _⟩ hurl _ _ _ hkey _
    have hc : ZdmAction.resolve c ∈ bothCalls laterWindowsFile := hpre.subset (by simp)
    have hc' : ZdmAction.resolve c' ∈ bothCalls laterWindowsFile := hpre'.subset (by simp)
    simp only [bothCalls, List.map_cons, List.map_nil, List.mem_cons, List.not_mem_nil, or_false,
      ZdmAction.resolve.injEq] at hc hc'
    have hne : linuxCall.key ≠ (windowsCall laterWindowsFile).key := by decide
    rcases hc with rfl | rfl <;> rcases hc' with rfl | rfl
    · exact absurd rfl hurl
    · exact absurd hkey.symm hne
    · exact absurd hkey hne
    · exact absurd rfl hurl
  exact ⟨hkeys, (resolved_digests_current_iff sampleSha (zdmServer laterWindowsFile)
    (bothCalls laterWindowsFile) sampleSha_injective sampleSha_ne_empty (fun _ => rfl)
    (bothCalls_honest rfl) (validatorsTell_of_calls _ _)).mpr hkeys⟩

/-- With one time stamp for both, the Windows package is announced with the digest of the Linux
one. -/
theorem windows_package_with_linux_digest :
    Function.Injective sampleSha ∧
    Meets (zdmStep sampleSha) HonestCall (bothCalls windowsFile) (zdmServer windowsFile) ∧
    ValidatorsTell sampleSha (zdmServer windowsFile) (bothCalls windowsFile) ∧
    ∃ s, run (zdmStep sampleSha) [.resolve linuxCall] (zdmServer windowsFile) = some s ∧
      s.file (windowsCall windowsFile) = some windowsFile ∧
      ((windowsCall windowsFile).resolve sampleSha s.cache).1.toOption =
        some (sampleSha linuxFile.bytes, 2) ∧
      sampleSha linuxFile.bytes ≠ sampleSha windowsFile.bytes :=
  ⟨sampleSha_injective, bothCalls_honest rfl, validatorsTell_of_calls _ _, _, rfl, rfl, by decide,
    by decide⟩

end AssessmentEngine
