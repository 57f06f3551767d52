import AssessmentEngine.Library.IpAddress

/-!
# The texts of networks

The text of an address holds no slash, so the text of a network shows where its prefix begins: a
text that follows after a letter which is not a digit can be told from it (`text_mark_inj`).
IPv4 networks are told from each other by their texts (`text_injective`).
-/

namespace IpAddress

/-! ## Digits -/

lemma digitChar_ne_slash {d : ℕ} (hd : d < 16) : Nat.digitChar d ≠ '/' := by
  revert d
  decide

/-- The digits of a number are digits of the base. -/
lemma mem_toDigits {b n : ℕ} (hb : 1 < b) {c : Char} (hc : c ∈ Nat.toDigits b n) :
    ∃ d < b, c = Nat.digitChar d := by
  induction n using Nat.strong_induction_on with
  | _ n ih =>
    by_cases hn : n < b
    · rw [Nat.toDigits_of_lt_base hn, List.mem_singleton] at hc
      exact ⟨n, hn, hc⟩
    · have hle : b ≤ n := not_lt.mp hn
      rw [Nat.toDigits_of_base_le hb hle, List.mem_append, List.mem_singleton] at hc
      rcases hc with hc | hc
      · exact ih (n / b) (Nat.div_lt_self (by omega) hb) hc
      · exact ⟨n % b, Nat.mod_lt _ (by omega), hc⟩

lemma slash_not_mem_toDigits {b n : ℕ} (hb : 1 < b) (hle : b ≤ 16) :
    '/' ∉ Nat.toDigits b n := by
  intro hmem
  obtain ⟨d, hd, hc⟩ := mem_toDigits hb hmem
  exact digitChar_ne_slash (lt_of_lt_of_le hd hle) hc.symm

lemma toList_toString (n : ℕ) : (toString n).toList = Nat.toDigits 10 n := by
  rw [Nat.toString_eq_ofList_toDigits, String.toList_ofList]

lemma toDigits_injective : Function.Injective (Nat.toDigits 10) := by
  intro m n h
  rw [← Nat.ofDigitChars_ten_toDigits (n := m), h, Nat.ofDigitChars_ten_toDigits]

/-- What is between the parts of a text and what they hold is what the text holds. -/
lemma not_mem_intercalate {α : Type*} {a : α} {sep : List α} {parts : List (List α)}
    (hsep : a ∉ sep) (hparts : ∀ part ∈ parts, a ∉ part) : a ∉ sep.intercalate parts := by
  induction parts with
  | nil => simp
  | cons part parts ih =>
    obtain ⟨hpart, hparts⟩ := List.forall_mem_cons.mp hparts
    by_cases hnil : parts = []
    · rw [hnil, List.intercalate_singleton]
      exact hpart
    · rw [List.intercalate_cons_of_ne_nil hnil, List.mem_append, List.mem_append]
      rintro ((h | h) | h)
      · exact hpart h
      · exact hsep h
      · exact ih hparts h

/-! ## No slash in an address -/

lemma slash_not_mem_ipv4Text (n : ℕ) : '/' ∉ (ipv4Text n).toList := by
  rw [ipv4Text, String.toList_intercalate]
  refine not_mem_intercalate (by decide) fun part hpart => ?_
  obtain ⟨text, htext, rfl⟩ := List.mem_map.mp hpart
  obtain ⟨k, -, rfl⟩ := List.mem_map.mp htext
  rw [toList_toString]
  exact slash_not_mem_toDigits (by decide) (by decide)

lemma slash_not_mem_hextetsText (n : ℕ) : '/' ∉ (hextetsText n).toList := by
  have hjoin : ∀ part : List ℕ,
      '/' ∉ (":".intercalate (part.map fun h => String.ofList (Nat.toDigits 16 h))).toList := by
    intro part
    rw [String.toList_intercalate]
    refine not_mem_intercalate (by decide) fun digits hdigits => ?_
    obtain ⟨text, htext, rfl⟩ := List.mem_map.mp hdigits
    obtain ⟨k, -, rfl⟩ := List.mem_map.mp htext
    rw [String.toList_ofList]
    exact slash_not_mem_toDigits (by decide) le_rfl
  unfold hextetsText
  simp only
  split_ifs with hrun
  · rw [String.toList_append, String.toList_append, List.mem_append, List.mem_append]
    rintro ((h | h) | h)
    · exact hjoin _ h
    · exact absurd h (by decide)
    · exact hjoin _ h
  · exact hjoin _

lemma slash_not_mem_ipv6Text (n : ℕ) : '/' ∉ (ipv6Text n).toList := by
  unfold ipv6Text
  split
  · rw [String.toList_append, String.toList_append, List.mem_append, List.mem_append]
    rintro ((h | h) | h)
    · exact slash_not_mem_hextetsText _ h
    · exact absurd h (by decide)
    · exact slash_not_mem_ipv4Text _ h
  · exact slash_not_mem_hextetsText n

/-- The scope of an address, when it has one, holds no slash. -/
def Address.ScopeOk (a : Address) : Prop := ∀ scope ∈ a.scope, '/' ∉ scope.toList

lemma slash_not_mem_addressText {a : Address} (ha : a.ScopeOk) : '/' ∉ a.text.toList := by
  unfold Address.text
  cases a.version with
  | v4 => exact slash_not_mem_ipv4Text _
  | v6 =>
    simp only
    rw [String.toList_append, List.mem_append]
    rintro (h | h)
    · exact slash_not_mem_ipv6Text _ h
    · cases hscope : a.scope with
      | none => simp [hscope] at h
      | some scope =>
        rw [hscope, Option.map_some, Option.getD_some, String.toList_append, List.mem_append] at h
        rcases h with h | h
        · exact absurd h (by decide)
        · exact ha scope hscope h

lemma parseAddress_scopeOk {text : String} {a : Address} (h : parseAddress text = some a) :
    a.ScopeOk := by
  unfold parseAddress at h
  split at h
  · rw [← Option.some_inj.mp h]
    exact fun _ h => absurd h (by simp)
  · split at h
    · obtain ⟨n, -, rfl⟩ := Option.map_eq_some_iff.mp h
      exact fun _ h => absurd h (by simp)
    · split_ifs at h with hscope
      obtain ⟨n, -, rfl⟩ := Option.map_eq_some_iff.mp h
      intro scope hmem
      rw [← Option.some_inj.mp hmem, String.toList_ofList]
      exact fun hslash => hscope (.inr (.inr hslash))

lemma networkOf_scopeOk {a : Address} (ha : a.ScopeOk) (prefixLength : ℕ) :
    (networkOf a prefixLength).address.ScopeOk := by
  unfold networkOf
  simp only
  split_ifs
  · exact ha
  · exact fun _ h => absurd h (by simp)

lemma parseInterface_scopeOk {address : String} {prefixLength : ℤ} {ip : Address}
    {network : Network} (h : parseInterface address prefixLength = some (ip, network)) :
    network.address.ScopeOk := by
  obtain ⟨a, ha, h⟩ := Option.bind_eq_some_iff.mp h
  split_ifs at h
  obtain ⟨-, rfl⟩ := Prod.mk.inj (Option.some_inj.mp h)
  exact networkOf_scopeOk (parseAddress_scopeOk ha) _

/-! ## Reading the text of a network -/

/-- The text of a network ends where its prefix does. -/
lemma text_toList (n : Network) :
    n.text.toList = n.address.text.toList ++ '/' :: Nat.toDigits 10 n.prefixLength := by
  rw [Network.text, String.toList_append, String.toList_append, toList_toString,
    List.append_assoc]
  rfl

/-- A mark that is not a digit separates the text of a network from what follows. -/
lemma text_mark_inj {n m : Network} (hn : n.address.ScopeOk) (hm : m.address.ScopeOk) {mark : Char}
    (hmark : mark.isDigit = false) {rest rest' : List Char}
    (h : n.text.toList ++ mark :: rest = m.text.toList ++ mark :: rest') :
    n.text = m.text ∧ rest = rest' := by
  have hdigits : ∀ k, mark ∉ Nat.toDigits 10 k := fun k hmem =>
    absurd (Nat.isDigit_of_mem_toDigits (Nat.zero_lt_succ 9) le_rfl hmem) (by simp [hmark])
  rw [text_toList, text_toList, List.append_assoc, List.append_assoc, List.cons_append,
    List.cons_append] at h
  have hcut := congrArg (Tokens.cut '/') h
  rw [Tokens.cut_append (slash_not_mem_addressText hn),
    Tokens.cut_append (slash_not_mem_addressText hm), Option.some_inj, Prod.mk.injEq] at hcut
  obtain ⟨haddress, hrest⟩ := hcut
  have hcut := congrArg (Tokens.cut mark) hrest
  rw [Tokens.cut_append (hdigits _), Tokens.cut_append (hdigits _), Option.some_inj,
    Prod.mk.injEq] at hcut
  obtain ⟨hdigits, hrest⟩ := hcut
  refine ⟨String.toList_inj.mp ?_, hrest⟩
  rw [text_toList, text_toList, haddress, hdigits]

/-- The text of a network is no other's text with something behind it. -/
lemma text_ne_mark {n m : Network} (hn : n.address.ScopeOk) (hm : m.address.ScopeOk) {mark : Char}
    (hmark : mark.isDigit = false) (rest : List Char) :
    n.text.toList ≠ m.text.toList ++ mark :: rest := by
  intro h
  rw [text_toList, text_toList, List.append_assoc, List.cons_append] at h
  have hcut := congrArg (Tokens.cut '/') h
  rw [Tokens.cut_append (slash_not_mem_addressText hn),
    Tokens.cut_append (slash_not_mem_addressText hm), Option.some_inj, Prod.mk.injEq] at hcut
  have hmem : mark ∈ Nat.toDigits 10 n.prefixLength := by
    rw [hcut.2]
    simp
  exact absurd (Nat.isDigit_of_mem_toDigits (Nat.zero_lt_succ 9) le_rfl hmem) (by simp [hmark])

/-! ## IPv4 networks -/

/-- The address is one of IPv4. -/
structure Address.IsV4 (a : Address) : Prop where
  version : a.version = .v4
  scope : a.scope = none
  number : a.number < 256 ^ 4

lemma ipv4Text_injective {n m : ℕ} (hn : n < 256 ^ 4) (hm : m < 256 ^ 4)
    (h : ipv4Text n = ipv4Text m) : n = m := by
  have hparts : ∀ k : ℕ, (ipv4Text k).toList.splitOn '.' =
      [k / 256 ^ 3, k / 256 ^ 2 % 256, k / 256 % 256, k % 256].map (Nat.toDigits 10) := by
    intro k
    have hdigits : ((['.'].intercalate
        ([k / 256 ^ 3, k / 256 ^ 2 % 256, k / 256 % 256, k % 256].map
          (Nat.toDigits 10))).splitOn '.') =
        [k / 256 ^ 3, k / 256 ^ 2 % 256, k / 256 % 256, k % 256].map (Nat.toDigits 10) := by
      refine List.splitOn_intercalate '.' (fun part hpart => ?_) (by simp)
      obtain ⟨d, -, rfl⟩ := List.mem_map.mp hpart
      exact fun hmem => absurd (Nat.isDigit_of_mem_toDigits (Nat.zero_lt_succ 9) le_rfl hmem)
        (by decide)
    rw [ipv4Text, String.toList_intercalate, List.map_map]
    simp only [Function.comp_def, toList_toString]
    exact hdigits
  have hlists := (hparts n).symm.trans ((congrArg (fun text => text.toList.splitOn '.') h).trans
    (hparts m))
  have hnumbers := List.map_injective_iff.mpr toDigits_injective hlists
  simp only [List.cons.injEq, and_true] at hnumbers
  omega

/-- IPv4 networks with one text are one network. -/
lemma text_injective {n m : Network} (hn : n.address.IsV4) (hm : m.address.IsV4)
    (h : n.text = m.text) : n = m := by
  have hnone : ∀ {a : Address}, a.IsV4 → a.ScopeOk := fun ha _ hmem =>
    absurd (ha.scope ▸ hmem) (by simp)
  have hcut := congrArg (fun text => Tokens.cut '/' text.toList) h
  simp only [text_toList] at hcut
  rw [Tokens.cut_append (slash_not_mem_addressText (hnone hn)),
    Tokens.cut_append (slash_not_mem_addressText (hnone hm)), Option.some_inj,
    Prod.mk.injEq] at hcut
  obtain ⟨haddress, hdigits⟩ := hcut
  have htext := String.toList_inj.mp haddress
  rw [Address.text, Address.text, hn.version, hm.version] at htext
  have hnumber := ipv4Text_injective hn.number hm.number htext
  have haddresses : n.address = m.address := by
    obtain ⟨⟨_, _, _⟩, _⟩ := n
    obtain ⟨⟨_, _, _⟩, _⟩ := m
    obtain ⟨hv, hs, -⟩ := hn
    obtain ⟨hv', hs', -⟩ := hm
    simp only at hv hs hv' hs' hnumber
    rw [hv, hs, hv', hs', hnumber]
  obtain ⟨_, _⟩ := n
  obtain ⟨_, _⟩ := m
  rw [Network.mk.injEq]
  exact ⟨haddresses, toDigits_injective hdigits⟩

lemma octet_lt {s : List Char} {n : ℕ} (h : octet s = some n) : n < 256 := by
  unfold octet at h
  split_ifs at h with hbad
  simp only at h
  split_ifs at h with hlarge
  rw [← Option.some_inj.mp h]
  omega

lemma ipv4Int_lt {s : List Char} {n : ℕ} (h : ipv4Int s = some n) : n < 256 ^ 4 := by
  unfold ipv4Int at h
  split at h
  · obtain ⟨a, ha, h⟩ := Option.bind_eq_some_iff.mp h
    obtain ⟨b, hb, h⟩ := Option.bind_eq_some_iff.mp h
    obtain ⟨c, hc, h⟩ := Option.bind_eq_some_iff.mp h
    obtain ⟨d, hd, h⟩ := Option.bind_eq_some_iff.mp h
    have hn : ((a * 256 + b) * 256 + c) * 256 + d = n := Option.some_inj.mp h
    have := octet_lt ha
    have := octet_lt hb
    have := octet_lt hc
    have := octet_lt hd
    omega
  · exact absurd h (by simp)

/-- The network of an IPv4 interface. -/
lemma parseInterface_isV4 {address : String} {prefixLength : ℤ} {ip : Address}
    {network : Network} (hv4 : (ipv4Int address.toList).isSome = true)
    (h : parseInterface address prefixLength = some (ip, network)) :
    network.address.IsV4 := by
  obtain ⟨n, hn⟩ := Option.isSome_iff_exists.mp hv4
  obtain ⟨a, ha, h⟩ := Option.bind_eq_some_iff.mp h
  rw [parseAddress, hn] at ha
  split_ifs at h
  obtain ⟨-, rfl⟩ := Prod.mk.inj (Option.some_inj.mp h)
  rw [← Option.some_inj.mp ha]
  have hlt := ipv4Int_lt hn
  unfold networkOf
  simp only
  split_ifs
  · exact ⟨rfl, rfl, hlt⟩
  · exact ⟨rfl, rfl, lt_of_le_of_lt (Nat.div_mul_le_self _ _) hlt⟩

end IpAddress
