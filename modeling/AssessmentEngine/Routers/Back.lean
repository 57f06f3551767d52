import Mathlib.Logic.Function.Iterate
import AssessmentEngine.Library.PercentEncoding

/-!
# Back links

A page tells its links where they come from, as `back=` with its own URL in it, and the page behind
the link renders that value as the target of its way back.  The value comes out of a query that
anybody may have written, so it is checked first: it must be a path of this site in the way a
browser reads it (`safe_back_on_site`).  Where it was written by the site itself, the way back leads
through the pages as they were visited (`back_chain_returns`).
-/

namespace AssessmentEngine

open PercentEncoding Tokens

/-! ## What a browser makes of a link -/

/-- Where a link of a page leads: to a path of the site, to one below the page's own, or to another
scheme or host. -/
inductive HrefTarget
  | path
  | relative
  | elsewhere
  deriving DecidableEq, Repr

/-- The letters that a browser removes wherever they stand: tab, LF and CR. -/
def urlStripped (c : Char) : Bool := c == '\t' || c == '\n' || c == '\r'

/-- The controls and the space, which it removes at both ends. -/
def urlBlank (c : Char) : Bool := decide (c.toNat ≤ 32)

def backslashToSlash (c : Char) : Char := if c = '\\' then '/' else c

/-- The scheme of the page that a link is in. -/
inductive WebScheme
  | http
  | https
  deriving DecidableEq, Repr

def WebScheme.text : WebScheme → List Char
  | http => "http".toList
  | https => "https".toList

def schemeLetter (c : Char) : Bool := c.isAlphanum || c == '+' || c == '-' || c == '.'

/-- The scheme that a link begins with, in small letters, and what stands behind its colon. -/
def cutScheme : List Char → Option (List Char × List Char)
  | [] => none
  | c :: cs =>
    match c.isAlpha, cs.dropWhile schemeLetter with
    | true, ':' :: rest => some ((c :: cs.takeWhile schemeLetter).map Char.toLower, rest)
    | _, _ => none

/-- What a browser reads of a link. -/
def linkUrl (href : List Char) : List Char :=
  (strip urlBlank href).filter fun c => !urlStripped c

/-- A path of this site: a slash that no other follows. -/
def OwnPath (cs : List Char) : Prop := ['/'] <+: cs ∧ ¬ ['/', '/'] <+: cs

instance (cs : List Char) : Decidable (OwnPath cs) := inferInstanceAs (Decidable (_ ∧ _))

/-- The reading of a link without a scheme, in which a backslash counts as a slash. -/
def siteTarget (url : List Char) : HrefTarget :=
  let slashed := url.map backslashToSlash
  if ['/', '/'] <+: slashed then .elsewhere
  else if ['/'] <+: slashed then .path
  else .relative

/-- The reading of a link in a page.  A link that only repeats the scheme of its page is read as if
it had none. -/
def hrefTarget (page : WebScheme) (href : List Char) : HrefTarget :=
  match cutScheme (linkUrl href) with
  | none => siteTarget (linkUrl href)
  | some (scheme, rest) => if scheme = page.text then siteTarget rest else .elsewhere

/-! ## The checked value -/

/-- `back.translate(_URL_STRIPPED).replace("\\", "/")`. -/
def normalizeBack (back : List Char) : List Char :=
  (back.filter fun c => !urlStripped c).map backslashToSlash

/-- `_sanitize`. -/
def sanitizeBack (back : Option (List Char)) : Option (List Char) :=
  match back with
  | none => none
  | some back =>
    if back = [] then none
    else
      let normalized := normalizeBack back
      if ¬ ['/'] <+: normalized ∨ ['/', '/'] <+: normalized then none else some normalized

/-- `safe_back`. -/
def safeBack (back : Option (List Char)) (fallback : List Char) : List Char :=
  (sanitizeBack back).getD fallback

lemma sanitizeBack_eq_some {back : Option (List Char)} {normalized : List Char} :
    sanitizeBack back = some normalized ↔
      ∃ raw, back = some raw ∧ normalized = normalizeBack raw ∧ OwnPath normalized := by
  cases back with
  | none => simp [sanitizeBack]
  | some raw =>
    constructor
    · intro h
      simp only [sanitizeBack] at h
      split_ifs at h with hnil hshape
      obtain rfl := Option.some_inj.mp h
      exact ⟨raw, rfl, rfl, not_or.mp hshape |>.imp_left not_not.mp⟩
    · rintro ⟨_, heq, rfl, hown⟩
      cases heq
      have hnil : raw ≠ [] := by
        rintro rfl
        exact absurd hown (by decide)
      have hshape : ¬ (¬ ['/'] <+: normalizeBack raw ∨ ['/', '/'] <+: normalizeBack raw) :=
        not_or.mpr ⟨not_not.mpr hown.1, hown.2⟩
      simp only [sanitizeBack, if_neg hnil, if_neg hshape]

lemma urlStripped_backslashToSlash (c : Char) :
    urlStripped (backslashToSlash c) = urlStripped c := by
  unfold backslashToSlash
  split_ifs with hc
  · subst hc
    rfl
  · rfl

lemma backslashToSlash_idem (c : Char) :
    backslashToSlash (backslashToSlash c) = backslashToSlash c := by
  unfold backslashToSlash
  split_ifs <;> simp_all

lemma normalizeBack_append (a b : List Char) :
    normalizeBack (a ++ b) = normalizeBack a ++ normalizeBack b := by
  rw [normalizeBack, List.filter_append, List.map_append]
  rfl

lemma normalizeBack_cons {c : Char} (hc : urlStripped c = false) (cs : List Char) :
    normalizeBack (c :: cs) = backslashToSlash c :: normalizeBack cs := by
  rw [normalizeBack, List.filter_cons_of_pos (by rw [hc]; rfl)]
  rfl

/-- Nothing is left to normalize. -/
lemma normalizeBack_idem (cs : List Char) :
    normalizeBack (normalizeBack cs) = normalizeBack cs := by
  have hkept : ∀ c ∈ normalizeBack cs, (!urlStripped c) = true := by
    intro c hc
    obtain ⟨d, hd, rfl⟩ := List.mem_map.mp hc
    rw [urlStripped_backslashToSlash]
    exact (List.mem_filter.mp hd).2
  conv_lhs => rw [normalizeBack, List.filter_eq_self.mpr hkept, normalizeBack, List.map_map]
  exact List.map_congr_left fun c _ => backslashToSlash_idem c

/-! ## The value as a link -/

lemma ownPath_cons {c : Char} {cs : List Char} :
    OwnPath (c :: cs) ↔ c = '/' ∧ cs.head? ≠ some '/' := by
  unfold OwnPath
  rw [List.cons_prefix_cons, List.cons_prefix_cons]
  cases cs with
  | nil => simp [eq_comm]
  | cons d cs =>
    rw [List.cons_prefix_cons]
    simp only [List.nil_prefix, and_true, List.head?_cons, ne_eq, Option.some_inj]
    constructor
    · rintro ⟨rfl, h⟩
      exact ⟨rfl, fun hd => h ⟨rfl, hd.symm⟩⟩
    · rintro ⟨rfl, h⟩
      exact ⟨rfl, fun hd => h hd.2.symm⟩

lemma urlBlank_of_stripped {c : Char} (h : urlStripped c = true) : urlBlank c = true := by
  unfold urlStripped at h
  simp only [Bool.or_eq_true, beq_iff_eq] at h
  rcases h with (rfl | rfl) | rfl <;> rfl

/-- Normalizing leaves blanks as they are. -/
lemma urlBlank_of_mem_normalizeBack {cs : List Char} (h : ∀ c ∈ cs, urlBlank c = true) {c : Char}
    (hc : c ∈ normalizeBack cs) : urlBlank c = true := by
  obtain ⟨d, hd, rfl⟩ := List.mem_map.mp hc
  have hblank := h d (List.mem_filter.mp hd).1
  have hne : d ≠ '\\' := by
    rintro rfl
    cases hblank
  rwa [backslashToSlash, if_neg hne]

lemma not_ownPath_of_blank {cs : List Char} (h : ∀ c ∈ cs, urlBlank c = true) :
    ¬ OwnPath (normalizeBack cs) := by
  rintro ⟨⟨rest, hrest⟩, -⟩
  have hslash : '/' ∈ normalizeBack cs := by
    rw [← hrest]
    exact List.mem_cons_self
  cases urlBlank_of_mem_normalizeBack h hslash

/-- What begins with a slash begins with no scheme. -/
lemma cutScheme_of_slash {url : List Char} (hslash : ['/'] <+: url.map backslashToSlash) :
    cutScheme url = none := by
  cases url with
  | nil => rfl
  | cons c cs =>
    have hc : '/' = backslashToSlash c := (List.cons_prefix_cons.mp hslash).1
    have halpha : c.isAlpha = false := by
      unfold backslashToSlash at hc
      split_ifs at hc with hback
      · subst hback
        rfl
      · subst hc
        rfl
    rw [cutScheme, halpha]

lemma siteTarget_eq_path_iff {url : List Char} :
    siteTarget url = .path ↔ OwnPath (url.map backslashToSlash) := by
  unfold siteTarget OwnPath
  dsimp only
  constructor
  · intro h
    split_ifs at h with helse hpath
    exact ⟨hpath, helse⟩
  · rintro ⟨hpath, hone⟩
    rw [if_neg hone, if_pos hpath]

/-- A browser reads a link as a path of the site, without being told the scheme, exactly when it is
one without the blanks at its ends, once it is normalized. -/
lemma hrefTarget_eq_path_iff {page : WebScheme} {href : List Char} :
    hrefTarget page href = .path ∧ cutScheme (linkUrl href) = none ↔
      OwnPath (normalizeBack (strip urlBlank href)) := by
  have hown : normalizeBack (strip urlBlank href) = (linkUrl href).map backslashToSlash := rfl
  rw [hown, ← siteTarget_eq_path_iff]
  unfold hrefTarget
  constructor
  · rintro ⟨htarget, hnone⟩
    rwa [hnone] at htarget
  · intro hpath
    have hnone := cutScheme_of_slash (siteTarget_eq_path_iff.mp hpath).1
    rw [hnone]
    exact ⟨hpath, rfl⟩

/-- The first letter that is not blank. -/
lemma blank_or_split (cs : List Char) :
    (∀ c ∈ cs, urlBlank c = true) ∨
      ∃ a c b, cs = a ++ c :: b ∧ (∀ d ∈ a, urlBlank d = true) ∧ urlBlank c = false := by
  by_cases h : ∀ c ∈ cs, urlBlank c = true
  · exact Or.inl h
  · right
    obtain ⟨c, hc, hfalse⟩ : ∃ c ∈ cs, urlBlank c = false := by simpa using h
    cases hdrop : cs.dropWhile urlBlank with
    | nil =>
      have hall : ∀ d ∈ cs, urlBlank d = true := List.dropWhile_eq_nil_iff.mp hdrop
      exact absurd hall h
    | cons c b =>
      refine ⟨cs.takeWhile urlBlank, c, b, ?_, fun d hd => List.mem_takeWhile_imp hd, ?_⟩
      · rw [← hdrop, List.takeWhile_append_dropWhile]
      · have hhead := List.head?_dropWhile_not urlBlank cs
        simpa [hdrop] using hhead

/-- What the blanks at the end hide is blank. -/
lemma head?_normalizeBack_rdropWhile (cs : List Char) :
    (normalizeBack (cs.rdropWhile urlBlank)).head? = some '/' ↔
      (normalizeBack cs).head? = some '/' := by
  conv_rhs => rw [← List.rdropWhile_append_rtakeWhile (p := urlBlank) (l := cs),
    normalizeBack_append, List.head?_append]
  have htail : (normalizeBack (cs.rtakeWhile urlBlank)).head? ≠ some '/' := by
    intro h
    have hblank : ∀ c ∈ cs.rtakeWhile urlBlank, urlBlank c = true :=
      fun c hc => List.mem_rtakeWhile_imp hc
    cases urlBlank_of_mem_normalizeBack hblank (List.mem_of_mem_head? h)
  cases (normalizeBack (cs.rdropWhile urlBlank)).head? with
  | none => simp [htail]
  | some c => simp

/-- A value is kept exactly if a browser would read it as a path of the site, unless a blank or a
scheme stands before the path. -/
lemma ownPath_normalizeBack_iff (page : WebScheme) (raw : List Char) :
    OwnPath (normalizeBack raw) ↔
      (hrefTarget page raw = .path ∧ cutScheme (linkUrl raw) = none) ∧
        ∀ c, (normalizeBack raw).head? = some c → urlBlank c = false := by
  rw [hrefTarget_eq_path_iff]
  rcases blank_or_split raw with hblank | ⟨a, c, b, rfl, ha, hc⟩
  · have hstrip : strip urlBlank raw = [] := by
      rw [strip, List.dropWhile_eq_nil_iff.mpr hblank, List.rdropWhile_nil]
    rw [hstrip]
    exact iff_of_false (not_ownPath_of_blank hblank)
      fun h => absurd h.1 (by decide)
  · have hkept : urlStripped c = false := by
      by_contra h
      rw [urlBlank_of_stripped (eq_true_of_ne_false h)] at hc
      cases hc
    have hdrop : a.dropWhile urlBlank = [] := List.dropWhile_eq_nil_iff.mpr ha
    have hvisible : urlBlank (backslashToSlash c) = false := by
      unfold backslashToSlash
      split_ifs
      · rfl
      · exact hc
    rw [strip_append_cons hc, hdrop, List.nil_append, normalizeBack_append,
      normalizeBack_cons hkept, normalizeBack_cons hkept]
    cases hfront : normalizeBack a with
    | nil =>
      rw [List.nil_append, ownPath_cons, ownPath_cons]
      simp only [ne_eq, head?_normalizeBack_rdropWhile]
      constructor
      · intro h
        refine ⟨h, fun d hd => ?_⟩
        rw [List.head?_cons, Option.some_inj] at hd
        exact hd ▸ hvisible
      · exact And.left
    | cons d front =>
      have hd : urlBlank d = true :=
        urlBlank_of_mem_normalizeBack ha (hfront ▸ List.mem_cons_self)
      rw [List.cons_append, ownPath_cons]
      constructor
      · rintro ⟨rfl, -⟩
        cases hd
      · rintro ⟨-, hall⟩
        rw [hall d rfl] at hd
        cases hd

/-- A browser would leave the site for this value. -/
def tabbedBack : List Char := "/\t\\files.example".toList

/-- The scheme of the page alone leads nowhere else. -/
example : hrefTarget .http "HTTP:/servers".toList = .path ∧
    hrefTarget .https "http:/servers".toList = .elsewhere ∧
      sanitizeBack (some "http:/servers".toList) = none := by decide

/-! ## The way back -/

/-- A request for a page. -/
structure PageRequest where
  path : List Char
  query : List Char
  deriving DecidableEq, Repr

/-- What a browser asks for when a link to a path of the site is followed. -/
def openHref (href : List Char) : PageRequest :=
  let url := ((cut '#' (linkUrl href)).map Prod.fst).getD (linkUrl href)
  match cut '?' url with
  | some (path, query) => ⟨path.map backslashToSlash, query⟩
  | none => ⟨url.map backslashToSlash, []⟩

/-- What `self_back_of` quotes. -/
def selfUrlOf (path query : List Char) : List Char :=
  if query = [] then path else path ++ '?' :: query

/-- What `self_back` quotes; there is a `?` also without a query. -/
def selfUrl (r : PageRequest) : List Char := r.path ++ '?' :: r.query

/-- The routes: where each leads back when the query does not say, and with which query a page
names itself (`self_back_of`), unless it takes the one it was asked for (`self_back`). -/
structure PageSite where
  fallback : List Char → List Char
  own : PageRequest → Option (List Char)

/-- The target of a link in a page, without the `back` that is added to it. -/
structure PageLink where
  path : List Char
  query : List Char

namespace PageSite

variable (site : PageSite)

/-- The page as it names itself. -/
def home (r : PageRequest) : PageRequest :=
  match site.own r with
  | none => r
  | some query => ⟨r.path, query⟩

/-- `self_back` in the context of a template. -/
def selfBack (r : PageRequest) : List Char :=
  match site.own r with
  | none => quote (selfUrl r)
  | some query => quote (selfUrlOf r.path query)

/-- The request for a link of a page. -/
def follow (r : PageRequest) (l : PageLink) : PageRequest :=
  let back := "back".toList ++ '=' :: site.selfBack r
  ⟨l.path, if l.query = [] then back else l.query ++ '&' :: back⟩

/-- The request for the way back: `BackUrl` checks the value and `safe_back` checks it again. -/
def goBack (r : PageRequest) : PageRequest :=
  openHref (safeBack (sanitizeBack (queryGet "back".toList r.query)) (site.fallback r.path))

/-- The page at the end of some links. -/
def visit (r : PageRequest) (links : List PageLink) : PageRequest := links.foldl site.follow r

end PageSite

/-- The letters that a URL has as they are. -/
def urlPlain (c : Char) : Bool := !urlBlank c && c != '\\' && c != '#'

/-- A path and a query that a browser sends as they stand in a link. -/
structure CleanUrl (path query : List Char) : Prop where
  own : OwnPath path
  path : ∀ c ∈ path, urlPlain c = true ∧ c ≠ '?'
  query : ∀ c ∈ query, urlPlain c = true

lemma cleanUrl_of_all {path query : List Char} (hown : OwnPath path)
    (hpath : path.all (fun c => urlPlain c && c != '?') = true)
    (hquery : query.all urlPlain = true) : CleanUrl path query where
  own := hown
  path c hc := by simpa using List.all_eq_true.mp hpath c hc
  query := List.all_eq_true.mp hquery

section Plain

variable {cs : List Char}

lemma not_blank_of_plain {c : Char} (h : urlPlain c = true) : urlBlank c = false := by
  unfold urlPlain at h
  simp only [Bool.and_eq_true, Bool.not_eq_true'] at h
  exact h.1.1

lemma filter_of_plain (h : ∀ c ∈ cs, urlPlain c = true) :
    (cs.filter fun c => !urlStripped c) = cs := by
  refine List.filter_eq_self.mpr fun c hc => ?_
  by_contra hstripped
  have hblank := urlBlank_of_stripped (by simpa using hstripped)
  rw [not_blank_of_plain (h c hc)] at hblank
  cases hblank

lemma map_of_plain (h : ∀ c ∈ cs, urlPlain c = true) : cs.map backslashToSlash = cs := by
  conv_rhs => rw [← List.map_id cs]
  refine List.map_congr_left fun c hc => ?_
  have hne : c ≠ '\\' := by
    rintro rfl
    cases h _ hc
  rw [backslashToSlash, if_neg hne, id]

lemma strip_of_plain (h : ∀ c ∈ cs, urlPlain c = true) : strip urlBlank cs = cs := by
  have hfirst : cs.dropWhile urlBlank = cs := by
    cases cs with
    | nil => rfl
    | cons c cs =>
      exact List.dropWhile_cons_of_neg
        (Bool.eq_false_iff.mp (not_blank_of_plain (h c List.mem_cons_self)))
  rw [strip, hfirst, List.rdropWhile_eq_self_iff]
  exact fun hne => Bool.eq_false_iff.mp (not_blank_of_plain (h _ (List.getLast_mem hne)))

lemma sanitizeBack_of_plain (h : ∀ c ∈ cs, urlPlain c = true) (hown : OwnPath cs) :
    sanitizeBack (some cs) = some cs := by
  have hsame : cs = normalizeBack cs := by
    rw [normalizeBack, filter_of_plain h, map_of_plain h]
  exact sanitizeBack_eq_some.mpr ⟨cs, rfl, hsame, hown⟩

lemma openHref_of_plain (h : ∀ c ∈ cs, urlPlain c = true) :
    openHref cs =
      match cut '?' cs with
      | some (path, query) => ⟨path, query⟩
      | none => ⟨cs, []⟩ := by
  have hhash : cut '#' cs = none := by
    rw [cut_eq_none_iff]
    intro hmem
    cases h _ hmem
  unfold openHref linkUrl
  rw [strip_of_plain h, filter_of_plain h]
  dsimp only
  rw [hhash]
  dsimp only [Option.map_none, Option.getD_none]
  cases hcut : cut '?' cs with
  | none => exact congrArg (PageRequest.mk · []) (map_of_plain h)
  | some parts =>
    obtain ⟨path, query⟩ := parts
    have hpath : ∀ c ∈ path, urlPlain c = true := by
      intro c hc
      rw [(cut_eq_some_iff.mp hcut).1] at h
      exact h c (List.mem_append_left _ hc)
    exact congrArg (PageRequest.mk · query) (map_of_plain hpath)

end Plain

section Clean

variable {path query : List Char}

lemma ownPath_append (h : OwnPath path) (query : List Char) : OwnPath (path ++ '?' :: query) := by
  cases path with
  | nil => exact absurd h (by decide)
  | cons c rest =>
    obtain ⟨hc, hrest⟩ := ownPath_cons.mp h
    rw [List.cons_append, ownPath_cons]
    refine ⟨hc, ?_⟩
    cases rest with
    | nil => simp
    | cons d rest => exact hrest

lemma CleanUrl.plain (h : CleanUrl path query) : ∀ c ∈ path ++ '?' :: query, urlPlain c = true := by
  intro c hc
  rcases List.mem_append.mp hc with hpath | hc
  · exact (h.path c hpath).1
  · rcases List.mem_cons.mp hc with rfl | hquery
    · rfl
    · exact h.query c hquery

lemma CleanUrl.question_not_mem (h : CleanUrl path query) : '?' ∉ path :=
  fun hmem => (h.path _ hmem).2 rfl

/-- A clean URL with its `?` comes back from the check, and is the page that it names. -/
lemma CleanUrl.back (h : CleanUrl path query) (fallback : List Char) :
    openHref (safeBack (sanitizeBack (some (path ++ '?' :: query))) fallback) = ⟨path, query⟩ := by
  have hsafe := sanitizeBack_of_plain h.plain (ownPath_append h.own query)
  rw [safeBack, hsafe, hsafe, Option.getD_some, openHref_of_plain h.plain,
    cut_append h.question_not_mem]

/-- So does a path without a query. -/
lemma CleanUrl.back_path (h : CleanUrl path []) (fallback : List Char) :
    openHref (safeBack (sanitizeBack (some path)) fallback) = ⟨path, []⟩ := by
  have hplain : ∀ c ∈ path, urlPlain c = true := fun c hc => (h.path c hc).1
  have hsafe := sanitizeBack_of_plain hplain h.own
  rw [safeBack, hsafe, hsafe, Option.getD_some, openHref_of_plain hplain,
    cut_eq_none_iff.mpr h.question_not_mem]

end Clean

namespace PageSite

variable {site : PageSite} {r : PageRequest}

lemma back_unreserved : ∀ c ∈ "back".toList, unreserved c = true :=
  List.all_eq_true.mp (by decide)

/-- One step back from a page is the page that the link was in. -/
theorem goBack_follow (h : CleanUrl (site.home r).path (site.home r).query) (l : PageLink) :
    site.goBack (site.follow r l) = site.home r := by
  have hget : ∀ url, queryGet "back".toList
      (if l.query = [] then "back".toList ++ '=' :: quote url
        else l.query ++ '&' :: ("back".toList ++ '=' :: quote url)) = some url := by
    intro url
    split_ifs
    · exact queryGet_quote back_unreserved url
    · exact queryGet_snoc back_unreserved l.query url
  unfold goBack follow
  unfold home at h ⊢
  cases hown : site.own r with
  | none =>
    rw [hown] at h
    simp only [selfBack, hown, hget]
    exact h.back _
  | some query =>
    rw [hown] at h
    simp only [selfBack, hown, hget]
    unfold selfUrlOf
    split_ifs with hquery
    · subst hquery
      exact h.back_path _
    · exact h.back _

lemma urlPlain_of_mem_quote {cs : List Char} {c : Char} (h : c ∈ quote cs) :
    urlPlain c = true := by
  have hascii : ∀ n < 128, unreserved (Char.ofNat n) = true → urlPlain (Char.ofNat n) = true := by
    decide
  rcases mem_quote h with hun | rfl
  · have hc := hascii c.toNat (unreserved_toNat hun)
    rw [Char.ofNat_toNat] at hc
    exact hc hun
  · rfl

/-- A followed link is as clean as the link. -/
lemma clean_follow {l : PageLink} (h : CleanUrl l.path l.query) :
    CleanUrl (site.follow r l).path (site.follow r l).query := by
  have hname : ∀ c ∈ "back".toList ++ ['='], urlPlain c = true :=
    List.all_eq_true.mp (by decide)
  have hself : ∀ c ∈ site.selfBack r, urlPlain c = true := by
    intro c hc
    unfold selfBack at hc
    split at hc <;> exact urlPlain_of_mem_quote hc
  have hback : ∀ c ∈ "back".toList ++ '=' :: site.selfBack r, urlPlain c = true := by
    intro c hc
    rw [← List.singleton_append, ← List.append_assoc] at hc
    exact (List.mem_append.mp hc).elim (hname c) (hself c)
  refine ⟨h.own, h.path, ?_⟩
  unfold follow
  dsimp only
  split_ifs
  · exact hback
  · intro c hc
    rcases List.mem_append.mp hc with hquery | hc
    · exact h.query c hquery
    · rcases List.mem_cons.mp hc with rfl | hc
      · rfl
      · exact hback c hc

lemma visit_snoc (links : List PageLink) (l : PageLink) :
    site.visit r (links ++ [l]) = site.follow (site.visit r links) l :=
  List.foldl_concat ..

/-- The way back, `k` steps along it: through the pages as they were visited, and at last to the
first page, as it names itself. -/
theorem back_chain_returns {links : List PageLink}
    (hr : CleanUrl (site.home r).path (site.home r).query)
    (hlinks : ∀ l ∈ links, CleanUrl l.path l.query)
    (hown : ∀ n, 0 < n → n < links.length → site.own (site.visit r (links.take n)) = none) :
    (∀ k < links.length,
        site.goBack^[k] (site.visit r links) = site.visit r (links.take (links.length - k))) ∧
      (links ≠ [] → site.goBack^[links.length] (site.visit r links) = site.home r) := by
  have hstep : ∀ k < links.length,
      site.goBack (site.visit r (links.take (k + 1))) =
        site.home (site.visit r (links.take k)) := by
    intro k hk
    rw [List.take_succ_eq_append_getElem hk, visit_snoc]
    refine goBack_follow ?_ _
    cases k with
    | zero => exact hr
    | succ n =>
      have hself : site.home (site.visit r (links.take (n + 1))) =
          site.visit r (links.take (n + 1)) := by
        rw [home, hown (n + 1) n.succ_pos hk]
      rw [hself, List.take_succ_eq_append_getElem (by omega), visit_snoc]
      exact clean_follow (hlinks _ (List.getElem_mem _))
  have hback : ∀ k < links.length,
      site.goBack^[k] (site.visit r links) = site.visit r (links.take (links.length - k)) := by
    intro k hk
    induction k with
    | zero => simp
    | succ k ih =>
      obtain ⟨n, hn⟩ : ∃ n, links.length - k = n + 1 := ⟨links.length - k - 1, by omega⟩
      have hn' : links.length - (k + 1) = n := by omega
      rw [Function.iterate_succ_apply', ih (by omega), hn, hstep n (by omega), hn', home,
        hown n (by omega) (by omega)]
  refine ⟨hback, fun hne => ?_⟩
  obtain ⟨n, hn⟩ : ∃ n, links.length = n + 1 :=
    ⟨links.length - 1, by have := List.length_pos_iff.mpr hne; omega⟩
  have hfirst := hback n (by omega)
  rw [hn, Function.iterate_succ_apply', hfirst, show links.length - n = 0 + 1 by omega,
    hstep 0 (by omega)]
  rfl

end PageSite

/-- The list of servers names itself without its query; the pages of a server name what they were
asked for. -/
def serverPages : PageSite where
  fallback _ := "/".toList
  own r := if r.path = "/servers".toList then some [] else none

def serverList : PageRequest := ⟨"/servers".toList, "q=web".toList⟩

/-- From the list to a server, and to its metrics. -/
def serverLinks : List PageLink :=
  [⟨"/servers/7".toList, []⟩, ⟨"/servers/7/metrics".toList, "time_range=14d".toList⟩]

theorem back_chain_returns_serverLinks :
    serverPages.goBack (serverPages.visit serverList serverLinks) =
        serverPages.visit serverList (serverLinks.take 1) ∧
      serverPages.goBack (serverPages.goBack (serverPages.visit serverList serverLinks)) =
        ⟨"/servers".toList, []⟩ := by
  have hlist : CleanUrl (serverPages.home serverList).path (serverPages.home serverList).query :=
    cleanUrl_of_all (by decide) (by decide) (by decide)
  have hlinks : ∀ l ∈ serverLinks, CleanUrl l.path l.query := by
    intro l hl
    rcases List.mem_cons.mp hl with rfl | hl
    · exact cleanUrl_of_all (by decide) (by decide) (by decide)
    · obtain rfl := List.mem_singleton.mp hl
      exact cleanUrl_of_all (by decide) (by decide) (by decide)
  have hown : ∀ n, 0 < n → n < serverLinks.length →
      serverPages.own (serverPages.visit serverList (serverLinks.take n)) = none := by
    intro n hpos hlt
    obtain rfl : n = 1 := Nat.le_antisymm (Nat.le_of_lt_succ hlt) hpos
    rfl
  have hback := PageSite.back_chain_returns hlist hlinks hown
  exact ⟨hback.1 1 (by decide), hback.2 (by decide)⟩

end AssessmentEngine
