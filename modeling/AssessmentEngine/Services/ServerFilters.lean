import Mathlib.Data.List.Dedup
import Mathlib.Data.List.Sort
import Mathlib.Data.String.Basic
import AssessmentEngine.Library.Selection
import AssessmentEngine.Library.Tokens
import AssessmentEngine.Mappers.ServerDetail

/-!
# Server filters of the contract endpoints

`/api/assessment`, `/api/right-sizing` and `/api/exports/inventory` choose servers by host name,
address, public id or a pair of host name and discriminator.  The query parameters are lists
separated by commas, the export takes lists; a pair that is not well formed is dropped while it is
read.  What is left is matched by `_resolve_matches`: a server is chosen when it satisfies one of
the filters, or when there is none.
-/

namespace AssessmentEngine

/-! ## Reading the parameters -/

/-- The white space that `str.strip` removes. -/
def isPySpace (c : Char) : Bool :=
  let n := c.toNat
  (9 ≤ n && n ≤ 13) || (0x1C ≤ n && n ≤ 0x20) || (0x2000 ≤ n && n ≤ 0x200A) ||
    n ∈ [0x85, 0xA0, 0x1680, 0x2028, 0x2029, 0x202F, 0x205F, 0x3000]

/-- `s.strip()`. -/
def pyStrip (s : String) : String := String.ofList (Tokens.strip isPySpace s.toList)

/-- `(value or "").split(",")`. -/
def csvPieces (value : Option String) : List String :=
  ((value.getD "").toList.splitOn ',').map String.ofList

/-- `[s.strip() for s in pieces if s.strip()]`. -/
def stripped (pieces : List String) : List String := (pieces.map pyStrip).filter (· ≠ "")

/-- `split_csv`. -/
def splitCsv (value : Option String) : List String := stripped (csvPieces value)

/-- A host name and a discriminator, the latter an address or a public id. -/
structure HostPair where
  hostname : String
  discriminator : String
  deriving DecidableEq, Repr

/-- `f"{h}~{disc}"`. -/
def HostPair.text (p : HostPair) : String := p.hostname ++ "~" ++ p.discriminator

/-- One token of `split_pairs`; nothing when it is not well formed. -/
def splitPair (token : String) : Option HostPair :=
  match Tokens.cut '~' token.toList with
  | none => none
  | some (host, disc) =>
    let pair : HostPair := ⟨pyStrip (String.ofList host), pyStrip (String.ofList disc)⟩
    if pair.hostname ≠ "" ∧ pair.discriminator ≠ "" then some pair else none

/-- `split_pairs`. -/
def splitPairs (tokens : List String) : List HostPair := tokens.filterMap splitPair

/-- `split_pairs_csv`. -/
def splitPairsCsv (value : Option String) : List HostPair := splitPairs (splitCsv value)

/-- The query parameters of the two GET endpoints. -/
structure ContractQuery where
  hostname : Option String := none
  ip : Option String := none
  pair : Option String := none
  publicId : Option String := none
  deriving DecidableEq, Repr

/-- `AssessmentExportRequest`, its filters. -/
structure AssessmentExportRequest where
  hostname : List String := []
  ip : List String := []
  publicId : List String := []
  pair : List String := []
  deriving DecidableEq, Repr

/-- The arguments that the service is called with. -/
structure ServerFilters where
  hostnames : List String
  ips : List String
  publicIds : List String
  pairs : List HostPair
  deriving DecidableEq, Repr

def ContractQuery.filters (q : ContractQuery) : ServerFilters where
  hostnames := splitCsv q.hostname
  ips := splitCsv q.ip
  publicIds := splitCsv q.publicId
  pairs := splitPairsCsv q.pair

def AssessmentExportRequest.filters (req : AssessmentExportRequest) : ServerFilters where
  hostnames := stripped req.hostname
  ips := stripped req.ip
  publicIds := stripped req.publicId
  pairs := splitPairs req.pair

/-! ## Matching -/

/-- `_addrs`. -/
def addrs (s : ServerDetailDto) : List (Option String) :=
  s.netInterfaces.flatMap fun i => i.addresses.map (·.address)

/-- `_disc_match`. -/
def discMatch (s : ServerDetailDto) (disc : String) : Bool :=
  disc == s.publicId || (addrs s).any (· == some disc)

/-- `sorted` of a set of texts. -/
def sortedSet (texts : List String) : List String := texts.dedup.insertionSort (· ≤ ·)

/-- What `_resolve_matches` returns. -/
structure Resolution where
  matched : List ServerDetailDto
  ambiguous : List String
  ambiguousInFilter : List String
  unresolved : List String
  unmatched : List String

/-- `_match`. -/
def filterMatch (hn ipset pid : List String) (pairs : List HostPair) (s : ServerDetailDto) :
    Bool :=
  if hn = [] ∧ ipset = [] ∧ pid = [] ∧ pairs = [] then true
  else if s.hostname ∈ hn then true
  else if s.publicId ∈ pid then true
  else if (addrs s).any fun addr => addr.any fun a => a ∈ ipset then true
  else pairs.any fun p => s.hostname == p.hostname && discMatch s p.discriminator

/-- The host names that two servers or more share. -/
def ambiguousNames (servers : List ServerDetailDto) : List String :=
  let names := servers.map (·.hostname)
  names.dedup.filter fun h => 1 < names.count h

/-- `_resolve_matches`. -/
def resolveMatches (servers : List ServerDetailDto) (filters : ServerFilters) : Resolution :=
  if servers = [] then ⟨[], [], [], [], []⟩
  else
    let hn := stripped filters.hostnames
    let ipset := stripped filters.ips
    let pid := stripped filters.publicIds
    let pairs := filters.pairs
    let ambiguous := ambiguousNames servers
    { matched := servers.filter (filterMatch hn ipset pid pairs)
      ambiguous := ambiguous
      ambiguousInFilter := sortedSet (hn.filter (· ∈ ambiguous))
      unresolved :=
        (pairs.filter fun p => !servers.any fun s =>
          s.hostname == p.hostname && discMatch s p.discriminator).map (·.text)
      unmatched :=
        ((sortedSet hn).filter fun h => h ∉ servers.map (·.hostname)) ++
          ((sortedSet ipset).filter fun i => some i ∉ servers.flatMap addrs) ++
            (sortedSet pid).filter fun p => p ∉ servers.map (·.publicId) }

/-! ## The endpoints -/

/-- The table of servers; both keys are unique. -/
structure ServerInventory where
  servers : List ServerDetailDto
  ids_nodup : (servers.map (·.id)).Nodup
  publicIds_nodup : (servers.map (·.publicId)).Nodup

/-- The rows of `report_aggregate`, as far as they tell which server they are about. -/
def reportAggregate (fleet : ServerInventory) (ids : List ℤ) : List ServerDetailDto :=
  (fleet.servers.filter fun s => s.id ∈ ids).insertionSort fun a b => a.hostname ≤ b.hostname

/-- The identity of a server in a response. -/
structure ServerEntry where
  publicId : String
  hostname : String
  hostnameAmbiguous : Bool
  deriving DecidableEq, Repr

/-- The filters as a response repeats them. -/
structure FilterEcho where
  hostname : List String
  ip : List String
  publicId : List String
  pair : List String
  deriving DecidableEq, Repr

/-- The warnings of a response; the last is one of assessments only. -/
structure FilterWarnings where
  ambiguousHostnames : List String
  unresolvedPairs : List String
  unmatchedFilters : Option (List String)
  deriving DecidableEq, Repr

structure ContractResponse where
  filter : FilterEcho
  warnings : FilterWarnings
  count : ℕ
  servers : List ServerEntry
  deriving DecidableEq, Repr

/-- The entries that both service methods make of the matched servers. -/
def serverEntries (fleet : ServerInventory) (resolution : Resolution) : List ServerEntry :=
  let matchedIds := resolution.matched.map (·.id)
  let raws := if matchedIds = [] then [] else reportAggregate fleet matchedIds
  raws.map fun raw => ⟨raw.publicId, raw.hostname, raw.hostname ∈ resolution.ambiguous⟩

def ServerFilters.echo (filters : ServerFilters) : FilterEcho where
  hostname := filters.hostnames
  ip := filters.ips
  publicId := filters.publicIds
  pair := filters.pairs.map (·.text)

/-- `get_right_sizing` of the service in the envelope of its router. -/
def rightSizingResponse (fleet : ServerInventory) (filters : ServerFilters) : ContractResponse :=
  let resolution := resolveMatches fleet.servers filters
  let servers := serverEntries fleet resolution
  { filter := filters.echo
    warnings := ⟨resolution.ambiguousInFilter, resolution.unresolved, none⟩
    count := servers.length
    servers := servers }

/-- `get_assessment` of the service in the envelope of `build_assessment_envelope`. -/
def assessmentResponse (fleet : ServerInventory) (filters : ServerFilters) : ContractResponse :=
  let resolution := resolveMatches fleet.servers filters
  let servers := serverEntries fleet resolution
  { filter := filters.echo
    warnings :=
      ⟨resolution.ambiguousInFilter, resolution.unresolved, some resolution.unmatched⟩
    count := servers.length
    servers := servers }

/-- A request to one of the three endpoints. -/
inductive ContractRequest
  | assessment (query : ContractQuery)
  | rightSizing (query : ContractQuery)
  | exportInventory (req : AssessmentExportRequest)

def ContractRequest.filters : ContractRequest → ServerFilters
  | .assessment query | .rightSizing query => query.filters
  | .exportInventory req => req.filters

def ContractRequest.respond (fleet : ServerInventory) (request : ContractRequest) :
    ContractResponse :=
  match request with
  | .assessment _ | .exportInventory _ => assessmentResponse fleet request.filters
  | .rightSizing _ => rightSizingResponse fleet request.filters

/-! ## What a request asks for -/

/-- One filter of a request. -/
inductive FilterToken
  | hostname (h : String)
  | address (a : String)
  | publicId (p : String)
  | pair (p : HostPair)
  deriving DecidableEq, Repr

/-- The server is one that the filter names. -/
def FilterToken.SatisfiedBy (s : ServerDetailDto) : FilterToken → Prop
  | .hostname h => s.hostname = h
  | .address a => some a ∈ addrs s
  | .publicId p => s.publicId = p
  | .pair p => s.hostname = p.hostname ∧
      (s.publicId = p.discriminator ∨ some p.discriminator ∈ addrs s)

instance (s : ServerDetailDto) : DecidablePred (FilterToken.SatisfiedBy s)
  | .hostname h => inferInstanceAs (Decidable (s.hostname = h))
  | .address a => inferInstanceAs (Decidable (some a ∈ addrs s))
  | .publicId p => inferInstanceAs (Decidable (s.publicId = p))
  | .pair p => inferInstanceAs (Decidable (s.hostname = p.hostname ∧
      (s.publicId = p.discriminator ∨ some p.discriminator ∈ addrs s)))

/-- The filter as a response names it. -/
def FilterToken.text : FilterToken → String
  | .hostname h => h
  | .address a => a
  | .publicId p => p
  | .pair p => p.text

/-- The list of a response that names unmatched filters of this kind, where it has one. -/
def ContractResponse.reports (response : ContractResponse) : FilterToken → Option (List String)
  | .pair _ => some response.warnings.unresolvedPairs
  | _ => response.warnings.unmatchedFilters

/-- The texts in a request, as they were sent. -/
def ContractRequest.texts : ContractRequest → FilterEcho
  | .assessment q | .rightSizing q =>
    { hostname := csvPieces q.hostname
      ip := csvPieces q.ip
      publicId := csvPieces q.publicId
      pair := csvPieces q.pair }
  | .exportInventory req =>
    { hostname := req.hostname
      ip := req.ip
      publicId := req.publicId
      pair := req.pair }

/-- The text is a host name and a discriminator around the first tilde, neither of them blank. -/
def HostPair.ReadFrom (p : HostPair) (text : String) : Prop :=
  ∃ a b, text.toList = a ++ '~' :: b ∧ '~' ∉ a ∧ pyStrip (String.ofList a) = p.hostname ∧
    pyStrip (String.ofList b) = p.discriminator ∧ p.hostname ≠ "" ∧ p.discriminator ≠ ""

/-- Some text of the request is the filter, up to white space. -/
def FilterToken.SuppliedBy (request : ContractRequest) : FilterToken → Prop
  | .hostname h => h ≠ "" ∧ ∃ text ∈ request.texts.hostname, pyStrip text = h
  | .address a => a ≠ "" ∧ ∃ text ∈ request.texts.ip, pyStrip text = a
  | .publicId p => p ≠ "" ∧ ∃ text ∈ request.texts.publicId, pyStrip text = p
  | .pair p => ∃ text ∈ request.texts.pair, p.ReadFrom text

/-! ## Reading loses no filter -/

lemma pyStrip_pyStrip (s : String) : pyStrip (pyStrip s) = pyStrip s := by
  simp [pyStrip, Tokens.strip_strip]

lemma mem_stripped {pieces : List String} {t : String} :
    t ∈ stripped pieces ↔ t ≠ "" ∧ ∃ piece ∈ pieces, pyStrip piece = t := by
  simp [stripped, and_comm]

/-- The service strips once more, to no effect. -/
lemma stripped_stripped (pieces : List String) : stripped (stripped pieces) = stripped pieces := by
  have hfixed : ∀ t ∈ stripped pieces, pyStrip t = id t := by
    intro t ht
    obtain ⟨-, piece, -, rfl⟩ := mem_stripped.mp ht
    exact pyStrip_pyStrip piece
  have hmap : (stripped pieces).map pyStrip = stripped pieces := by
    rw [List.map_congr_left hfixed, List.map_id]
  have hfilter : (stripped pieces).filter (· ≠ "") = stripped pieces := by
    simp [stripped]
  calc stripped (stripped pieces)
      = ((stripped pieces).map pyStrip).filter (· ≠ "") := rfl
    _ = (stripped pieces).filter (· ≠ "") := by rw [hmap]
    _ = stripped pieces := hfilter

lemma splitPair_eq_some_iff {token : String} {p : HostPair} :
    splitPair token = some p ↔ p.ReadFrom token := by
  unfold splitPair HostPair.ReadFrom
  constructor
  · intro h
    cases hcut : Tokens.cut '~' token.toList with
    | none => simp [hcut] at h
    | some halves =>
      obtain ⟨htext, hnotin⟩ := Tokens.cut_eq_some_iff.mp hcut
      simp only [hcut, Option.ite_none_right_eq_some, Option.some.injEq] at h
      obtain ⟨⟨hhost, hdisc⟩, rfl⟩ := h
      exact ⟨halves.1, halves.2, htext, hnotin, rfl, rfl, hhost, hdisc⟩
  · rintro ⟨a, b, htext, hnotin, ha, hb, hhost, hdisc⟩
    have hcut : Tokens.cut '~' token.toList = some (a, b) :=
      Tokens.cut_eq_some_iff.mpr ⟨htext, hnotin⟩
    simp [hcut, ha, hb, hhost, hdisc]

/-- A pair reads the same with white space around it. -/
lemma splitPair_pyStrip (token : String) : splitPair (pyStrip token) = splitPair token := by
  have hcut : Tokens.cut '~' (pyStrip token).toList =
      (Tokens.cut '~' token.toList).map fun p =>
        (p.1.dropWhile isPySpace, p.2.rdropWhile isPySpace) := by
    unfold pyStrip
    rw [String.toList_ofList]
    exact Tokens.cut_strip (by decide) token.toList
  have hfirst :
      ∀ a, pyStrip (String.ofList (a.dropWhile isPySpace)) = pyStrip (String.ofList a) := by
    intro a
    simp [pyStrip, Tokens.strip_dropWhile]
  have hsecond :
      ∀ b, pyStrip (String.ofList (b.rdropWhile isPySpace)) = pyStrip (String.ofList b) := by
    intro b
    simp [pyStrip, Tokens.strip_rdropWhile]
  unfold splitPair
  rw [hcut]
  cases Tokens.cut '~' token.toList with
  | none => rfl
  | some halves => simp only [Option.map_some, hfirst, hsecond]

/-- A token of white space is no pair. -/
lemma splitPair_blank {token : String} (h : pyStrip token = "") : splitPair token = none := by
  rw [← splitPair_pyStrip, h]
  rfl

lemma mem_splitPairs {tokens : List String} {p : HostPair} :
    p ∈ splitPairs tokens ↔ ∃ token ∈ tokens, p.ReadFrom token := by
  simp only [splitPairs, List.mem_filterMap, splitPair_eq_some_iff]

lemma mem_splitPairsCsv {value : Option String} {p : HostPair} :
    p ∈ splitPairsCsv value ↔ ∃ piece ∈ csvPieces value, p.ReadFrom piece := by
  have hread : ∀ piece, p.ReadFrom (pyStrip piece) ↔ p.ReadFrom piece := by
    intro piece
    rw [← splitPair_eq_some_iff, splitPair_pyStrip, splitPair_eq_some_iff]
  unfold splitPairsCsv splitCsv
  rw [mem_splitPairs]
  constructor
  · rintro ⟨token, htoken, hp⟩
    obtain ⟨-, piece, hpiece, rfl⟩ := mem_stripped.mp htoken
    exact ⟨piece, hpiece, (hread piece).mp hp⟩
  · rintro ⟨piece, hpiece, hp⟩
    refine ⟨pyStrip piece, mem_stripped.mpr ⟨?_, piece, hpiece, rfl⟩, (hread piece).mpr hp⟩
    intro hblank
    have hnone : splitPair piece = none := splitPair_blank hblank
    rw [splitPair_eq_some_iff.mpr hp] at hnone
    exact Option.some_ne_none _ hnone

/-- The filters that the service matches. -/
def ServerFilters.tokens (filters : ServerFilters) : List FilterToken :=
  (stripped filters.hostnames).map .hostname ++ (stripped filters.ips).map .address ++
    (stripped filters.publicIds).map .publicId ++ filters.pairs.map .pair

lemma mem_tokens {filters : ServerFilters} {t : FilterToken} :
    t ∈ filters.tokens ↔
      match t with
      | .hostname h => h ∈ stripped filters.hostnames
      | .address a => a ∈ stripped filters.ips
      | .publicId p => p ∈ stripped filters.publicIds
      | .pair p => p ∈ filters.pairs := by
  cases t <;> simp [ServerFilters.tokens]

/-- What the service matches is what the request supplied. -/
lemma mem_tokens_iff {request : ContractRequest} {t : FilterToken} :
    t ∈ request.filters.tokens ↔ t.SuppliedBy request := by
  have hquery : ∀ q : ContractQuery,
      t ∈ q.filters.tokens ↔ t.SuppliedBy (.assessment q) := by
    intro q
    rw [mem_tokens]
    cases t with
    | pair p => exact mem_splitPairsCsv
    | _ => simp only [ContractQuery.filters, splitCsv, stripped_stripped, mem_stripped,
        FilterToken.SuppliedBy, ContractRequest.texts]
  cases request with
  | assessment q => exact hquery q
  | rightSizing q => exact hquery q
  | exportInventory req =>
    rw [mem_tokens]
    cases t with
    | pair p => exact mem_splitPairs
    | _ => simp only [ContractRequest.filters, AssessmentExportRequest.filters,
        stripped_stripped, mem_stripped, FilterToken.SuppliedBy, ContractRequest.texts]

/-! ## Matching is selection by tokens -/

/-- `_disc_match` and the host name, as one filter. -/
lemma pairMatch_iff {s : ServerDetailDto} {p : HostPair} :
    (s.hostname == p.hostname && discMatch s p.discriminator) = true ↔
      (FilterToken.pair p).SatisfiedBy s := by
  have hdisc : discMatch s p.discriminator = true ↔
      s.publicId = p.discriminator ∨ some p.discriminator ∈ addrs s := by
    unfold discMatch
    rw [Bool.or_eq_true, List.any_eq_true, beq_iff_eq, eq_comm]
    simp only [beq_iff_eq, exists_eq_right]
  rw [Bool.and_eq_true, beq_iff_eq, hdisc]
  rfl

lemma tokens_eq_nil_iff {filters : ServerFilters} :
    filters.tokens = [] ↔ stripped filters.hostnames = [] ∧ stripped filters.ips = [] ∧
      stripped filters.publicIds = [] ∧ filters.pairs = [] := by
  simp [ServerFilters.tokens]

lemma exists_token_iff {filters : ServerFilters} {s : ServerDetailDto} :
    (∃ t ∈ filters.tokens, t.SatisfiedBy s) ↔
      s.hostname ∈ stripped filters.hostnames ∨ s.publicId ∈ stripped filters.publicIds ∨
        (∃ a ∈ stripped filters.ips, some a ∈ addrs s) ∨
          ∃ p ∈ filters.pairs, (FilterToken.pair p).SatisfiedBy s := by
  constructor
  · rintro ⟨t, ht, hsat⟩
    rw [mem_tokens] at ht
    cases t with
    | hostname h => exact Or.inl (hsat ▸ ht)
    | address a => exact Or.inr (Or.inr (Or.inl ⟨a, ht, hsat⟩))
    | publicId p => exact Or.inr (Or.inl (hsat ▸ ht))
    | pair p => exact Or.inr (Or.inr (Or.inr ⟨p, ht, hsat⟩))
  · rintro (hhost | hpublic | ⟨a, ha, haddr⟩ | ⟨p, hp, hpair⟩)
    · exact ⟨.hostname s.hostname, mem_tokens.mpr hhost, rfl⟩
    · exact ⟨.publicId s.publicId, mem_tokens.mpr hpublic, rfl⟩
    · exact ⟨.address a, mem_tokens.mpr ha, haddr⟩
    · exact ⟨.pair p, mem_tokens.mpr hp, hpair⟩

/-- The branches of `_match` are one disjunction over the filters. -/
lemma filterMatch_iff {filters : ServerFilters} {s : ServerDetailDto} :
    filterMatch (stripped filters.hostnames) (stripped filters.ips) (stripped filters.publicIds)
        filters.pairs s = true ↔
      filters.tokens = [] ∨ ∃ t ∈ filters.tokens, t.SatisfiedBy s := by
  have haddr : ((addrs s).any fun addr => addr.any fun a => a ∈ stripped filters.ips) = true ↔
      ∃ a ∈ stripped filters.ips, some a ∈ addrs s := by
    simp only [List.any_eq_true, Option.any_eq_true, decide_eq_true_eq]
    constructor
    · rintro ⟨_, hmem, a, rfl, ha⟩
      exact ⟨a, ha, hmem⟩
    · rintro ⟨a, ha, hmem⟩
      exact ⟨some a, hmem, a, rfl, ha⟩
  have hpair : (filters.pairs.any fun p =>
      s.hostname == p.hostname && discMatch s p.discriminator) = true ↔
        ∃ p ∈ filters.pairs, (FilterToken.pair p).SatisfiedBy s := by
    simp only [List.any_eq_true, pairMatch_iff]
  rw [tokens_eq_nil_iff, exists_token_iff, ← haddr, ← hpair]
  unfold filterMatch
  split_ifs with hempty hhost hpublic hany <;> simp [*]

/-- A filter and a server, as a test. -/
def FilterToken.satisfied (t : FilterToken) (s : ServerDetailDto) : Bool := t.SatisfiedBy s

section Resolve

variable {servers : List ServerDetailDto} {filters : ServerFilters}

/-- The servers that `_resolve_matches` chooses are those that the filters select. -/
lemma resolveMatches_matched :
    (resolveMatches servers filters).matched =
      Selection.select FilterToken.satisfied filters.tokens servers := by
  unfold resolveMatches
  split_ifs with hempty
  · rw [hempty]
    rfl
  · apply List.filter_congr
    intro s _
    rw [Bool.eq_iff_iff, filterMatch_iff]
    simp [FilterToken.satisfied]

lemma mem_sortedSet {texts : List String} {t : String} : t ∈ sortedSet texts ↔ t ∈ texts := by
  unfold sortedSet
  rw [List.mem_insertionSort, List.mem_dedup]

/-- A filter that no server satisfies is reported by its text. -/
lemma unmatched_reported (hne : servers ≠ []) {t : FilterToken}
    (ht : t ∈ Selection.unmatched FilterToken.satisfied filters.tokens servers) :
    match t with
    | .pair p => p.text ∈ (resolveMatches servers filters).unresolved
    | t => t.text ∈ (resolveMatches servers filters).unmatched := by
  obtain ⟨hmem, hnone⟩ := Selection.mem_unmatched.mp ht
  rw [mem_tokens] at hmem
  have hfails : ∀ s ∈ servers, ¬ t.SatisfiedBy s := by
    intro s hs
    exact of_decide_eq_false (hnone s hs)
  unfold resolveMatches
  rw [if_neg hne]
  cases t with
  | hostname h =>
    have hnotin : h ∉ servers.map (·.hostname) := by
      intro hin
      obtain ⟨s, hs, heq⟩ := List.mem_map.mp hin
      exact hfails s hs heq
    simp only [List.mem_append, List.mem_filter, mem_sortedSet]
    exact Or.inl (Or.inl ⟨hmem, decide_eq_true hnotin⟩)
  | address a =>
    have hnotin : some a ∉ servers.flatMap addrs := by
      intro hin
      obtain ⟨s, hs, haddr⟩ := List.mem_flatMap.mp hin
      exact hfails s hs haddr
    simp only [List.mem_append, List.mem_filter, mem_sortedSet]
    exact Or.inl (Or.inr ⟨hmem, decide_eq_true hnotin⟩)
  | publicId p =>
    have hnotin : p ∉ servers.map (·.publicId) := by
      intro hin
      obtain ⟨s, hs, heq⟩ := List.mem_map.mp hin
      exact hfails s hs heq
    simp only [List.mem_append, List.mem_filter, mem_sortedSet]
    exact Or.inr ⟨hmem, decide_eq_true hnotin⟩
  | pair p =>
    have hnever : (servers.any fun s =>
        s.hostname == p.hostname && discMatch s p.discriminator) = false := by
      rw [List.any_eq_false]
      intro s hs hpair
      exact hfails s hs (pairMatch_iff.mp hpair)
    refine List.mem_map.mpr ⟨p, List.mem_filter.mpr ⟨hmem, ?_⟩, rfl⟩
    rw [hnever]
    rfl

end Resolve

/-! ## The responses -/

/-- The query by the keys of the matched servers finds these servers. -/
lemma filter_matched_ids (fleet : ServerInventory) (test : ServerDetailDto → Bool) :
    (fleet.servers.filter fun s => s.id ∈ (fleet.servers.filter test).map (·.id)) =
      fleet.servers.filter test := by
  apply List.filter_congr
  intro s hs
  rw [Bool.eq_iff_iff, decide_eq_true_eq]
  constructor
  · intro hid
    obtain ⟨r, hr, heq⟩ := List.mem_map.mp hid
    obtain ⟨hmem, htest⟩ := List.mem_filter.mp hr
    have hsame : r = s := List.inj_on_of_nodup_map fleet.ids_nodup hmem hs heq
    exact hsame ▸ htest
  · intro htest
    exact List.mem_map.mpr ⟨s, List.mem_filter.mpr ⟨hs, htest⟩, rfl⟩

/-- A response lists each matched server once. -/
lemma serverEntries_perm (fleet : ServerInventory) (filters : ServerFilters) :
    ((serverEntries fleet (resolveMatches fleet.servers filters)).map (·.publicId)).Perm
      ((Selection.select FilterToken.satisfied filters.tokens fleet.servers).map (·.publicId)) := by
  unfold serverEntries
  rw [resolveMatches_matched]
  set chosen := Selection.select FilterToken.satisfied filters.tokens fleet.servers with hchosen
  dsimp only
  by_cases hnil : chosen.map (·.id) = []
  · rw [if_pos hnil, List.map_eq_nil_iff.mp hnil]
    rfl
  · rw [if_neg hnil, List.map_map]
    have hrows : (reportAggregate fleet (chosen.map (·.id))).Perm chosen := by
      unfold reportAggregate
      refine (List.perm_insertionSort _ _).trans ?_
      rw [hchosen, Selection.select, filter_matched_ids]
    exact hrows.map _

lemma respond_servers (fleet : ServerInventory) (request : ContractRequest) :
    (request.respond fleet).servers =
      serverEntries fleet (resolveMatches fleet.servers request.filters) := by
  cases request <;> rfl

/-- A server is in a response when some filter of the request is satisfied, or there is none. -/
lemma mem_respond_iff (fleet : ServerInventory) (request : ContractRequest)
    {s : ServerDetailDto} (hs : s ∈ fleet.servers) :
    s.publicId ∈ (request.respond fleet).servers.map (·.publicId) ↔
      (∀ t : FilterToken, ¬ t.SuppliedBy request) ∨
        ∃ t : FilterToken, t.SuppliedBy request ∧ t.SatisfiedBy s := by
  have hempty : request.filters.tokens = [] ↔ ∀ t : FilterToken, ¬ t.SuppliedBy request := by
    rw [List.eq_nil_iff_forall_not_mem]
    exact forall_congr' fun t => not_congr mem_tokens_iff
  rw [respond_servers, (serverEntries_perm fleet _).mem_iff, ← hempty]
  constructor
  · intro hlisted
    obtain ⟨r, hr, heq⟩ := List.mem_map.mp hlisted
    obtain ⟨hmem, hchosen⟩ := Selection.mem_select.mp hr
    obtain rfl : r = s := List.inj_on_of_nodup_map fleet.publicIds_nodup hmem hs heq
    refine hchosen.imp_right ?_
    rintro ⟨t, ht, hsat⟩
    exact ⟨t, mem_tokens_iff.mp ht, of_decide_eq_true hsat⟩
  · intro hchosen
    refine List.mem_map.mpr ⟨s, Selection.mem_select.mpr ⟨hs, hchosen.imp_right ?_⟩, rfl⟩
    rintro ⟨t, ht, hsat⟩
    exact ⟨t, mem_tokens_iff.mpr ht, decide_eq_true hsat⟩

/-- A response reports each filter that no server satisfies, in the list for its kind. -/
lemma respond_reports (fleet : ServerInventory) (request : ContractRequest)
    (hne : fleet.servers ≠ []) {t : FilterToken} (ht : t.SuppliedBy request)
    (hnone : ∀ s ∈ fleet.servers, ¬ t.SatisfiedBy s) :
    ∀ reported ∈ (request.respond fleet).reports t, t.text ∈ reported := by
  have hunmatched : t ∈ Selection.unmatched FilterToken.satisfied request.filters.tokens
      fleet.servers := by
    refine Selection.mem_unmatched.mpr ⟨mem_tokens_iff.mpr ht, ?_⟩
    intro s hs
    exact decide_eq_false (hnone s hs)
  have htext := unmatched_reported hne hunmatched
  intro reported hreported
  cases request <;> cases t <;> cases hreported <;> exact htext

/-- On every fleet, the empty one included, a request returns exactly the servers that satisfy
one of its well-formed filters, or the whole fleet when it has none; on a fleet that is not empty,
each well-formed filter that no server satisfies is reported wherever the endpoint has a list for
filters of its kind. -/
theorem serverFilters_total (fleet : ServerInventory) (request : ContractRequest) :
    let response := request.respond fleet
    (∀ e ∈ response.servers, ∃ s ∈ fleet.servers, s.publicId = e.publicId) ∧
      (∀ s ∈ fleet.servers, s.publicId ∈ response.servers.map (·.publicId) ↔
        (∀ t : FilterToken, ¬ t.SuppliedBy request) ∨
          ∃ t : FilterToken, t.SuppliedBy request ∧ t.SatisfiedBy s) ∧
      (fleet.servers ≠ [] → ∀ t : FilterToken, t.SuppliedBy request →
        (∀ s ∈ fleet.servers, ¬ t.SatisfiedBy s) →
          ∀ reported ∈ response.reports t, t.text ∈ reported) := by
  intro response
  refine ⟨?_, ?_, ?_⟩
  · intro e he
    have hlisted : e.publicId ∈ response.servers.map (·.publicId) := List.mem_map.mpr ⟨e, he, rfl⟩
    rw [respond_servers, (serverEntries_perm fleet _).mem_iff] at hlisted
    obtain ⟨s, hs, heq⟩ := List.mem_map.mp hlisted
    exact ⟨s, (Selection.mem_select.mp hs).1, heq⟩
  · intro s hs
    exact mem_respond_iff fleet request hs
  · intro hne t ht hnone
    exact respond_reports fleet request hne ht hnone

/-! ## A fleet of one server -/

def webServer : ServerDetailDto where
  id := 1
  publicId := "p1"
  agentId := "a1"
  compositeId := none
  machineId := none
  hostname := "web01"
  agentVersion := none
  osFamily := some "linux"
  osId := none
  osVersion := none
  osCodename := none
  kernelVersion := none
  cpuCores := some 4
  cpuModel := none
  cpuArch := none
  cpuBits := none
  memTotalBytes := none
  bootTime := none
  agentStartedAt := none
  netInterfaces := [⟨some "physical", [⟨some "10.0.0.1", some 24, some "inet"⟩]⟩]
  ipExternal := none
  blockDevices := []
  services := none
  listenPorts := []
  lastSeenAt := none
  productName := none
  edition := none

def webFleet : ServerInventory where
  servers := [webServer]
  ids_nodup := by simp
  publicIds_nodup := by simp

/-- A host name that no server has is reported, and no server is returned for it. -/
theorem serverFilters_total_webFleet :
    "web02" ∈ (ContractRequest.assessment { hostname := some "web02" }).texts.hostname ∧
      ∀ reported ∈ ((ContractRequest.assessment { hostname := some "web02" }).respond
        webFleet).reports (.hostname "web02"), "web02" ∈ reported := by
  refine ⟨by decide +kernel, ?_⟩
  refine (serverFilters_total webFleet (.assessment { hostname := some "web02" })).2.2
    (by simp [webFleet]) (.hostname "web02") ?_ ?_
  · exact ⟨by decide, "web02", by decide +kernel, by decide +kernel⟩
  · decide +kernel

/-- A pair without a discriminator is not reported, and the whole fleet is returned for it; right
sizing has no list for a host name that no server has. -/
theorem webFleet_unreported :
    let malformed := (ContractRequest.assessment { pair := some "web02" }).respond webFleet
    let unknown := (ContractRequest.rightSizing { hostname := some "web02" }).respond webFleet
    malformed.servers.map (·.publicId) = ["p1"] ∧
      malformed.warnings = ⟨[], [], some []⟩ ∧ unknown.warnings = ⟨[], [], none⟩ := by
  decide +kernel

end AssessmentEngine
