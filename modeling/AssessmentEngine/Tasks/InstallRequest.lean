import AssessmentEngine.Consumer.MetricMapper
import AssessmentEngine.Library.IpAddress
import AssessmentEngine.Tasks.Install

/-!
# The target of an install request

`InstallRequest` accepts an address, a host name or a URL for `zdm_ip`; `_extract_zdm_host` makes of
it the host that the download URL and the arguments of the installer are built from.  Addresses and
host names are validated, but of a URL only the scheme is looked at.  So the host is plain exactly
for the URLs that go on, after any slashes, with a host or a host and port and then end or have a
path (`plainInstall_iff`).
-/

namespace AssessmentEngine

/-! ## The validator -/

/-- `_HOSTNAME_LABEL_RE.match(label)`; the `$` of the pattern also matches before a line feed that
ends the text. -/
def hostnameLabel (label : List Char) : Bool :=
  let body := if label.getLast? = some '\n' then label.dropLast else label
  decide (body.length ≤ 63) && body.all (fun c => c.isAlphanum || c = '-') &&
    body.head?.any Char.isAlphanum && body.getLast?.any Char.isAlphanum

/-- `_is_valid_hostname`. -/
def isValidHostname (v : List Char) : Bool :=
  if 253 < v.length then false
  else
    let v := v.rdropWhile (· = '.')
    if v = [] then false else (v.splitOn '.').all hostnameLabel

/-- `ipaddress.IPv4Address(host)` does not raise, or the host is a host name. -/
def isValidHost (host : List Char) : Bool :=
  if (IpAddress.ipv4Int host).isSome then true else isValidHostname host

/-- `_is_valid_host_or_host_port`; nothing where `int` raises. -/
def isValidHostOrHostPort (u : Unicode) (v : String) : Option Bool :=
  if v = "" ∨ v.toList.head? = some '[' then some false
  else match v.toList.splitOn ':' with
    | [host] => some (isValidHost host)
    | [host, portS] =>
      if host = [] ∨ isDigits u (String.ofList portS) = false then some false
      else
        (parseDigits u (String.ofList portS)).map fun port =>
          if ¬(1 ≤ port ∧ port ≤ 65535) then false else isValidHost host
    | _ => some false

/-- `v.lower().startswith(("http://", "https://"))`; no other letters become these in lower case. -/
def hasHttpScheme (v : String) : Bool :=
  let lower := v.toList.map Char.toLower
  "http://".toList.isPrefixOf lower || "https://".toList.isPrefixOf lower

/-- `zdm_ip` of `InstallRequest`: what becomes of a text that is accepted. -/
def validateZdmIp (u : Unicode) (v : String) : Option (Option String) :=
  if 2048 < v.length then none
  else if v = "" then some none
  else if v.toList.any (fun c => decide (c ∈ " \t\n\r;|&`$<>".toList)) then none
  else if hasHttpScheme v then some (some v)
  else if isValidHostOrHostPort u v = some true then some (some v)
  else none

/-! ## Plain hosts -/

/-- A host or a host and port, without what could be an option, a path, a query or a user. -/
structure PlainHost (u : Unicode) (host : String) : Prop where
  nonempty : host ≠ ""
  valid : isValidHostOrHostPort u host = some true
  noOption : host.toList.head? ≠ some '-'
  noParts : ∀ c ∈ host.toList, c ∉ "/?#@".toList

/-- The host of a target is plain, and download URL and arguments of every message for the target
are built from it. -/
def PlainInstall (u : Unicode) (zdmIp : String) : Prop :=
  PlainHost u (extractZdmHost zdmIp) ∧
    ∀ (job : InstallJob) (env : InstallEnv) (now : ℤ) (taskId : String) (p : PlannedInstall),
      job.zdmIp = zdmIp → ∃ host, PlainHost u host ∧
        (job.message env now taskId p).url = "http://" ++ host ++ p.dispatch.packagePath ∧
        (job.message env now taskId p).args = ["-s", host, "-u", job.zdmUser]

/-- A URL whose host, after the scheme and any slashes, is a host or a host and port. -/
def UrlOfHost (u : Unicode) (v : String) : Prop :=
  ∃ scheme slashes host rest : List Char, v.toList = scheme ++ slashes ++ host ++ rest ∧
    (scheme.map Char.toLower = "http://".toList ∨ scheme.map Char.toLower = "https://".toList) ∧
    (∀ c ∈ slashes, c = '/') ∧ isValidHostOrHostPort u (String.ofList host) = some true ∧
    (rest = [] ∨ rest.head? = some '/')

/-! ## What is valid is plain -/

/-- The letters of a valid host. -/
def HostLetter (c : Char) : Prop := c.isAlphanum = true ∨ c ∈ "-.\n".toList

/-- A host begins with a letter or a digit, and has no others than its letters. -/
def HostText (host : List Char) : Prop :=
  (∃ c rest, host = c :: rest ∧ c.isAlphanum = true) ∧ ∀ c ∈ host, HostLetter c

/-- Letters of a host may follow it. -/
lemma HostText.append {host more : List Char} (h : HostText host)
    (hmore : ∀ c ∈ more, HostLetter c) : HostText (host ++ more) := by
  obtain ⟨⟨c, rest, rfl, hc⟩, hletters⟩ := h
  refine ⟨⟨c, rest ++ more, rfl, hc⟩, fun d hd => ?_⟩
  rcases List.mem_append.mp hd with hd | hd
  · exact hletters d hd
  · exact hmore d hd

/-- Letters, digits and hyphens that begin with a letter or a digit. -/
lemma hostText_of_alnum {body : List Char}
    (hall : body.all (fun c => c.isAlphanum || c = '-') = true)
    (hhead : body.head?.any Char.isAlphanum = true) : HostText body := by
  constructor
  · cases body with
    | nil => simp at hhead
    | cons c rest => exact ⟨c, rest, rfl, by simpa using hhead⟩
  · intro c hc
    have hletter := List.all_eq_true.mp hall c hc
    rw [Bool.or_eq_true, decide_eq_true_eq] at hletter
    refine hletter.imp_right fun hdash => ?_
    rw [hdash]
    decide

lemma hostnameLabel_spec {label : List Char} (h : hostnameLabel label = true) :
    HostText label := by
  unfold hostnameLabel at h
  simp only [Bool.and_eq_true] at h
  obtain ⟨⟨⟨_, hall⟩, hhead⟩, _⟩ := h
  have hbody := hostText_of_alnum hall hhead
  by_cases hfeed : label.getLast? = some '\n'
  · -- the line feed is read over
    rw [if_pos hfeed] at hbody
    have hlabel : label.dropLast ++ ['\n'] = label := List.dropLast_append_getLast? _ hfeed
    have hletters : ∀ c ∈ ['\n'], HostLetter c :=
      List.forall_mem_singleton.mpr (.inr (by decide))
    exact hlabel ▸ hbody.append hletters
  · rwa [if_neg hfeed] at hbody

/-- Labels of host names between dots make a host. -/
lemma hostText_of_labels {body : List Char} (hne : body ≠ [])
    (h : (body.splitOn '.').all hostnameLabel = true) : HostText body := by
  have hlabels := List.all_eq_true.mp h
  obtain ⟨c, rest, rfl⟩ := List.exists_cons_of_ne_nil hne
  have hc : c ≠ '.' := by
    rintro rfl
    have hempty : ([] : List Char) ∈ ('.' :: rest).splitOn '.' := by
      rw [List.splitOn_cons_eq_if_modifyHead, if_pos (by decide)]
      exact List.mem_cons_self
    exact absurd (hlabels [] hempty) (by decide)
  obtain ⟨part, parts, hparts⟩ := Tokens.splitOn_cons_of_ne hc rest
  obtain ⟨⟨d, rest', hcons, hd⟩, _⟩ :=
    hostnameLabel_spec (hlabels (c :: part) (by rw [hparts]; exact List.mem_cons_self))
  rw [List.cons.injEq] at hcons
  refine ⟨⟨c, rest, rfl, hcons.1 ▸ hd⟩, fun e he => ?_⟩
  rcases Tokens.mem_splitOn '.' he with rfl | ⟨label, hlabel, he⟩
  · exact .inr (by decide)
  · exact (hostnameLabel_spec (hlabels label hlabel)).2 e he

lemma isValidHostname_spec {v : List Char} (h : isValidHostname v = true) : HostText v := by
  unfold isValidHostname at h
  split_ifs at h with hlong
  have hsplit : v.rdropWhile (· = '.') ++ v.rtakeWhile (· = '.') = v :=
    List.rdropWhile_append_rtakeWhile
  have hdots : ∀ c ∈ v.rtakeWhile (· = '.'), HostLetter c := by
    intro c hc
    have hdot : c = '.' := by simpa using List.mem_rtakeWhile_imp hc
    rw [hdot]
    exact .inr (by decide)
  dsimp only at h
  split_ifs at h with hnil
  exact hsplit ▸ (hostText_of_labels hnil h).append hdots

lemma isValidHost_spec {host : List Char} (h : isValidHost host = true) : HostText host := by
  unfold isValidHost at h
  split_ifs at h with hip
  · obtain ⟨⟨c, rest, hcons, hc⟩, hletters⟩ := IpAddress.ipv4Int_isSome hip
    have halnum : ∀ d : Char, d.isDigit = true → d.isAlphanum = true := fun d hd => by
      rw [Char.isAlphanum, hd, Bool.or_true]
    refine ⟨⟨c, rest, hcons, halnum c hc⟩, fun d hd => ?_⟩
    rcases hletters d hd with hdigit | rfl
    · exact .inl (halnum d hdigit)
    · exact .inr (by decide)
  · exact isValidHostname_spec h

/-- A digit of ASCII is a digit, and no other letter of ASCII is one. -/
def AsciiDigits (u : Unicode) : Prop := ∀ c : Char, c.toNat < 128 → u.isDigit c = c.isDigit

/-- What the validator accepts is a host, or a host and a port. -/
lemma exists_hostText_of_valid {u : Unicode} {host : String}
    (h : isValidHostOrHostPort u host = some true) :
    host ≠ "" ∧ ∃ text port : List Char, host.toList = text ++ port ∧ HostText text ∧
      ∀ c ∈ port, c = ':' ∨ u.isDigit c = true := by
  have hbad : ¬(host = "" ∨ host.toList.head? = some '[') := by
    intro hbad
    rw [isValidHostOrHostPort, if_pos hbad] at h
    exact absurd h (by decide)
  rw [isValidHostOrHostPort, if_neg hbad] at h
  refine ⟨(not_or.mp hbad).1, ?_⟩
  have hjoin := host.toList.intercalate_splitOn ':'
  split at h
  · rename_i text hparts
    refine ⟨text, [], ?_, isValidHost_spec (by simpa using h), by simp⟩
    rw [← hjoin, hparts]
    simp
  · rename_i text portS hparts
    have hport : ¬(text = [] ∨ isDigits u (String.ofList portS) = false) := by
      intro hport
      rw [if_pos hport] at h
      exact absurd h (by decide)
    rw [if_neg hport] at h
    obtain ⟨_, hdigits⟩ := not_or.mp hport
    obtain ⟨port, _, hrange⟩ := Option.map_eq_some_iff.mp h
    rw [ite_eq_iff, or_iff_right (by simp)] at hrange
    refine ⟨text, ':' :: portS, ?_, isValidHost_spec hrange.2, ?_⟩
    · rw [← hjoin, hparts]
      simp
    · intro c hc
      refine (List.mem_cons.mp hc).imp_right fun hc => ?_
      rw [Bool.not_eq_false, isDigits, Bool.and_eq_true, String.toList_ofList] at hdigits
      exact List.all_eq_true.mp hdigits.2 c hc
  · exact absurd h (by simp)

/-- What the validator accepts is plain. -/
lemma plainHost_of_valid {u : Unicode} (hu : AsciiDigits u) {host : String}
    (h : isValidHostOrHostPort u host = some true) : PlainHost u host := by
  obtain ⟨hne, text, port, hsplit, ⟨⟨c, rest, rfl, hc⟩, hletters⟩, hport⟩ :=
    exists_hostText_of_valid h
  refine ⟨hne, h, ?_, fun d hd hpart => ?_⟩
  · rw [hsplit, List.cons_append, List.head?_cons, Ne, Option.some_inj]
    rintro rfl
    exact absurd hc (by decide)
  · rw [hsplit] at hd
    have hparts : d = '/' ∨ d = '?' ∨ d = '#' ∨ d = '@' := by simpa using hpart
    rcases List.mem_append.mp hd with hd | hd
    · have hletter : HostLetter d := hletters d hd
      rcases hparts with rfl | rfl | rfl | rfl <;> revert hletter <;> simp [HostLetter]
    · have hdigit := hport d hd
      rcases hparts with rfl | rfl | rfl | rfl <;>
        rw [hu _ (by decide)] at hdigit <;> revert hdigit <;> decide

/-! ## What is extracted -/

/-- A text after a scheme, or without one. -/
def afterScheme (v : List Char) : List Char :=
  if "https://".toList.isPrefixOf (v.map Char.toLower) then v.drop 8
  else if "http://".toList.isPrefixOf (v.map Char.toLower) then v.drop 7
  else v

/-- The host is what stands between the slashes after the scheme and the next one. -/
lemma extractZdmHost_eq (v : String) :
    extractZdmHost v =
      String.ofList (((afterScheme v.toList).dropWhile (· = '/')).takeWhile (· ≠ '/')) := by
  have hstrip := @Tokens.takeWhile_rdropWhile _ (fun c : Char => decide (c = '/'))
    ((afterScheme v.toList).dropWhile (· = '/'))
  simp only [← decide_not] at hstrip
  rw [← hstrip]
  rfl

/-- Without slashes nothing is cut off. -/
lemma takeWhile_dropWhile_of_notMem {host rest : List Char} (hhost : '/' ∉ host)
    (hne : host ≠ []) (hrest : rest = [] ∨ rest.head? = some '/') (slashes : List Char)
    (hslashes : ∀ c ∈ slashes, c = '/') :
    ((slashes ++ host ++ rest).dropWhile (· = '/')).takeWhile (· ≠ '/') = host := by
  obtain ⟨c, host, rfl⟩ := List.exists_cons_of_ne_nil hne
  have hc : c ≠ '/' := fun heq => hhost (heq ▸ List.mem_cons_self)
  rw [List.append_assoc, List.dropWhile_append_of_pos (by simpa using hslashes),
    List.cons_append, List.dropWhile_cons_of_neg (by simpa using hc), ← List.cons_append,
    List.takeWhile_append_of_pos]
  · rcases hrest with rfl | hrest
    · simp
    · obtain ⟨tail, rfl⟩ := List.head?_eq_some_iff.mp hrest
      simp
  · intro d hd
    have hd : d ≠ '/' := fun heq => hhost (heq ▸ hd)
    simpa using hd

lemma afterScheme_of_not {v : String} (h : hasHttpScheme v = false) :
    afterScheme v.toList = v.toList := by
  rw [hasHttpScheme, Bool.or_eq_false_iff] at h
  rw [afterScheme, if_neg (Bool.eq_false_iff.mp h.2), if_neg (Bool.eq_false_iff.mp h.1)]

/-- What is accepted without a scheme is its own host. -/
lemma extractZdmHost_of_valid {u : Unicode} (hu : AsciiDigits u) {v : String}
    (hscheme : hasHttpScheme v = false) (h : isValidHostOrHostPort u v = some true) :
    extractZdmHost v = v := by
  have hplain := plainHost_of_valid hu h
  have hslash : '/' ∉ v.toList := fun hmem => hplain.noParts _ hmem (by decide)
  have hne : v.toList ≠ [] := fun hnil => hplain.nonempty (String.toList_eq_nil_iff.mp hnil)
  have hhost := takeWhile_dropWhile_of_notMem hslash hne (.inl rfl) [] (by simp)
  rw [List.nil_append, List.append_nil] at hhost
  rw [extractZdmHost_eq, afterScheme_of_not hscheme, hhost, String.ofList_toList]

/-- What a scheme leaves. -/
lemma afterScheme_append {scheme rest : List Char}
    (h : scheme.map Char.toLower = "http://".toList ∨
      scheme.map Char.toLower = "https://".toList) : afterScheme (scheme ++ rest) = rest := by
  have hlength : scheme.length = (scheme.map Char.toLower).length := (List.length_map _).symm
  rcases h with h | h
  · rw [h] at hlength
    rw [afterScheme, List.map_append, h, if_neg (by simp), if_pos (by simp)]
    exact List.drop_left' hlength
  · rw [h] at hlength
    rw [afterScheme, List.map_append, h, if_pos (by simp)]
    exact List.drop_left' hlength

/-- A URL is its scheme and the rest. -/
lemma exists_scheme {v : String} (h : hasHttpScheme v = true) :
    ∃ scheme, v.toList = scheme ++ afterScheme v.toList ∧
      (scheme.map Char.toLower = "http://".toList ∨
        scheme.map Char.toLower = "https://".toList) := by
  have htake : ∀ text : List Char, text.isPrefixOf (v.toList.map Char.toLower) = true →
      ∃ scheme rest, v.toList = scheme ++ rest ∧ scheme.map Char.toLower = text := by
    intro text hprefix
    obtain ⟨rest, hrest⟩ := List.isPrefixOf_iff_prefix.mp hprefix
    obtain ⟨scheme, tail, hsplit, hscheme, _⟩ := List.map_eq_append_iff.mp hrest.symm
    exact ⟨scheme, tail, hsplit, hscheme⟩
  rw [hasHttpScheme, Bool.or_eq_true] at h
  rcases h with h | h
  · obtain ⟨scheme, rest, hsplit, hscheme⟩ := htake _ h
    exact ⟨scheme, by rw [hsplit, afterScheme_append (.inl hscheme)], .inl hscheme⟩
  · obtain ⟨scheme, rest, hsplit, hscheme⟩ := htake _ h
    exact ⟨scheme, by rw [hsplit, afterScheme_append (.inr hscheme)], .inr hscheme⟩

/-- The host extracted from a URL is valid when the URL goes on with a valid one. -/
lemma valid_extractZdmHost_iff {u : Unicode} (hu : AsciiDigits u) {v : String}
    (hscheme : hasHttpScheme v = true) :
    isValidHostOrHostPort u (extractZdmHost v) = some true ↔ UrlOfHost u v := by
  rw [extractZdmHost_eq]
  constructor
  · intro hvalid
    obtain ⟨scheme, hsplit, hlower⟩ := exists_scheme hscheme
    generalize afterScheme v.toList = after at hsplit hvalid
    refine ⟨scheme, after.takeWhile (· = '/'), (after.dropWhile (· = '/')).takeWhile (· ≠ '/'),
      (after.dropWhile (· = '/')).dropWhile (· ≠ '/'), ?_, hlower, ?_, hvalid, ?_⟩
    · rw [List.append_assoc, List.append_assoc, List.takeWhile_append_dropWhile,
        List.takeWhile_append_dropWhile]
      exact hsplit
    · exact fun c hc => by simpa using List.mem_takeWhile_imp hc
    · cases hrest : (after.dropWhile (· = '/')).dropWhile (· ≠ '/') with
      | nil => exact .inl rfl
      | cons c rest =>
        have hc := List.head?_dropWhile_not (fun c : Char => decide (c ≠ '/'))
          (after.dropWhile (· = '/'))
        rw [hrest] at hc
        right
        simpa using hc
  · rintro ⟨scheme, slashes, host, rest, hsplit, hlower, hslashes, hvalid, hrest⟩
    have hplain := plainHost_of_valid hu hvalid
    have hslash : '/' ∉ host := fun hmem =>
      hplain.noParts '/' (by rwa [String.toList_ofList]) (by decide)
    have hne : host ≠ [] := by
      rintro rfl
      exact hplain.nonempty rfl
    rw [hsplit, List.append_assoc, List.append_assoc, afterScheme_append hlower,
      ← List.append_assoc, takeWhile_dropWhile_of_notMem hslash hne hrest _ hslashes]
    exact hvalid

/-! ## When the target is plain -/

/-- A plain host gives plain messages. -/
lemma plainInstall_iff_valid {u : Unicode} (hu : AsciiDigits u) {v : String} :
    PlainInstall u v ↔ isValidHostOrHostPort u (extractZdmHost v) = some true := by
  constructor
  · exact fun h => h.1.valid
  · intro hvalid
    have hplain := plainHost_of_valid hu hvalid
    refine ⟨hplain, fun job env now taskId p hjob => ⟨_, hplain, ?_, ?_⟩⟩
    · rw [← hjob]
      rfl
    · rw [← hjob]
      rfl

/-- The target of a request is plain exactly when it is no URL or one that goes on with a host. -/
theorem plainInstall_iff {u : Unicode} (hu : AsciiDigits u) {zdmIp v : String}
    (haccepted : validateZdmIp u zdmIp = some (some v)) :
    PlainInstall u v ↔ hasHttpScheme v = false ∨ UrlOfHost u v := by
  rw [plainInstall_iff_valid hu]
  cases hscheme : hasHttpScheme v with
  | true => simp [valid_extractZdmHost_iff hu hscheme]
  | false =>
    -- what is no URL has been validated
    have hvalid : isValidHostOrHostPort u v = some true := by
      unfold validateZdmIp at haccepted
      split_ifs at haccepted <;> simp_all
    rw [extractZdmHost_of_valid hu hscheme hvalid, hvalid]
    simp

/-- A URL of the package server with port and path. -/
theorem plainInstall_packageUrl :
    PlainInstall asciiText "http://zdm.example.com:8443/download/x.tar.gz" :=
  (@plainInstall_iff asciiText (fun _ _ => rfl) "http://zdm.example.com:8443/download/x.tar.gz" _
    (by decide +kernel)).mpr
      (.inr ⟨"http://".toList, [], "zdm.example.com:8443".toList, "/download/x.tar.gz".toList,
        by decide +kernel, by decide +kernel, List.forall_mem_nil _, by decide +kernel,
        by decide +kernel⟩)

/-- A URL without a host, one whose host would be an option and one with a user are accepted. -/
theorem emptyHost_not_plainInstall :
    (validateZdmIp asciiText "http://" = some (some "http://") ∧
      ¬PlainInstall asciiText "http://" ∧ extractZdmHost "http://" = "") ∧
    (validateZdmIp asciiText "http://-x" = some (some "http://-x") ∧
      ¬PlainInstall asciiText "http://-x" ∧ extractZdmHost "http://-x" = "-x") ∧
    validateZdmIp asciiText "http://u@h" = some (some "http://u@h") ∧
      ¬PlainInstall asciiText "http://u@h" ∧ extractZdmHost "http://u@h" = "u@h" := by
  have hempty : extractZdmHost "http://" = "" := by decide +kernel
  have hoption : extractZdmHost "http://-x" = "-x" := by decide +kernel
  have huser : extractZdmHost "http://u@h" = "u@h" := by decide +kernel
  refine ⟨⟨by decide +kernel, fun h => h.1.nonempty hempty, hempty⟩,
    ⟨by decide +kernel, fun h => ?_, hoption⟩, by decide +kernel, fun h => ?_, huser⟩
  · have hdash := h.1.noOption
    rw [hoption] at hdash
    exact hdash (by decide +kernel)
  · have hparts := h.1.noParts
    rw [huser] at hparts
    exact hparts '@' (by decide +kernel) (by decide +kernel)

end AssessmentEngine
