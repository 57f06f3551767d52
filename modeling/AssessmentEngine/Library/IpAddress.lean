import Mathlib.Algebra.Ring.Nat
import AssessmentEngine.Library.Tokens

/-!
# IP addresses

Addresses of both versions with their texts, and the networks of interfaces.  An interface is an
address with the length of a prefix; its network is the address with the bits after the prefix
cleared.
-/

namespace IpAddress

/-- A number from 0 to 255 in decimal digits without a leading zero. -/
def octet (s : List Char) : Option ℕ :=
  if s = [] ∨ ¬s.all Char.isDigit ∨ 3 < s.length ∨ (s ≠ ['0'] ∧ s.head? = some '0') then none
  else
    let n := s.foldl (fun n c => 10 * n + (c.toNat - '0'.toNat)) 0
    if 255 < n then none else some n

/-- The number of an IPv4 address in dotted form. -/
def ipv4Int (s : List Char) : Option ℕ :=
  match s.splitOn '.' with
  | [first, second, third, fourth] => do
    let a ← octet first
    let b ← octet second
    let c ← octet third
    let d ← octet fourth
    return ((a * 256 + b) * 256 + c) * 256 + d
  | _ => none

/-- The text of an IPv4 address. -/
def ipv4Text (n : ℕ) : String :=
  ".".intercalate ([n / 256 ^ 3, n / 256 ^ 2 % 256, n / 256 % 256, n % 256].map toString)

/-! ## IPv6 -/

def hexDigit (c : Char) : Option ℕ :=
  if c.isDigit then some (c.toNat - '0'.toNat)
  else if 'a' ≤ c ∧ c ≤ 'f' then some (c.toNat - 'a'.toNat + 10)
  else if 'A' ≤ c ∧ c ≤ 'F' then some (c.toNat - 'A'.toNat + 10)
  else none

/-- A number of at most four hexadecimal digits. -/
def hextet (s : List Char) : Option ℕ :=
  if s = [] ∨ 4 < s.length then none
  else s.foldlM (fun n c => (hexDigit c).map fun d => 16 * n + d) 0

/-- The number of eight hextets. -/
def hextetsInt (parts : List (List Char)) : Option ℕ :=
  parts.foldlM (fun n part => (hextet part).map fun d => 65536 * n + d) 0

/-- The parts with an IPv4 address at the end written as two hextets. -/
def spreadIpv4 (parts : List (List Char)) : Option (List (List Char)) :=
  match parts.getLast? with
  | some last =>
    if '.' ∈ last then do
      let n ← ipv4Int last
      return parts.dropLast ++ [Nat.toDigits 16 (n / 65536), Nat.toDigits 16 (n % 65536)]
    else some parts
  | none => some parts

/-- The number of parts before or after the gap, of which one at the end of the text may be
empty. -/
def partsBeside (outer : Option (List Char)) (n : ℕ) : Option ℕ :=
  if outer = some [] then if n = 1 then some 0 else none else some n

/-- The number of an IPv6 address; `::` stands for hextets that are zero. -/
def ipv6Int (s : List Char) : Option ℕ := do
  if (s.splitOn ':').length < 3 then none
  let parts ← spreadIpv4 (s.splitOn ':')
  if 9 < parts.length then none
  match (List.range parts.length).filter fun i =>
      1 ≤ i ∧ i + 1 < parts.length ∧ parts[i]? = some [] with
  | [] => if parts.length = 8 then hextetsInt parts else none
  | [skip] =>
    let hi ← partsBeside parts.head? skip
    let lo ← partsBeside parts.getLast? (parts.length - skip - 1)
    if 8 ≤ hi + lo then none
    hextetsInt (parts.take hi ++ List.replicate (8 - (hi + lo)) ['0'] ++
      parts.drop (parts.length - lo))
  | _ => none

/-- Start and length of the longest run of zeros, the first of several. -/
def longestZeros (hextets : List ℕ) : ℕ × ℕ :=
  let runs := (List.range hextets.length).map fun i =>
    (i, ((hextets.drop i).takeWhile (· = 0)).length)
  runs.foldl (fun best run => if best.2 < run.2 then run else best) (0, 0)

/-- The text of an IPv6 address that holds no IPv4 address. -/
def hextetsText (n : ℕ) : String :=
  let hextets := (List.range 8).map fun i => n / 65536 ^ (7 - i) % 65536
  let join (part : List ℕ) := ":".intercalate (part.map fun h => String.ofList (Nat.toDigits 16 h))
  let (start, length) := longestZeros hextets
  if 1 < length then
    join (hextets.take start) ++ "::" ++ join (hextets.drop (start + length))
  else join hextets

/-- The IPv4 address in an IPv6 address of the form `::ffff:0:0/96`. -/
def ipv4Mapped (n : ℕ) : Option ℕ :=
  if n / 2 ^ 32 = 0xFFFF then some (n % 2 ^ 32) else none

/-- The text of an IPv6 address. -/
def ipv6Text (n : ℕ) : String :=
  match ipv4Mapped n with
  | some v4 => hextetsText (n / 2 ^ 32) ++ ":" ++ ipv4Text v4
  | none => hextetsText n

/-! ## Addresses and networks -/

inductive Version
  | v4
  | v6
  deriving DecidableEq, Repr

def Version.bits : Version → ℕ
  | .v4 => 32
  | .v6 => 128

/-- An address; an IPv6 address may name a scope. -/
structure Address where
  version : Version
  number : ℕ
  scope : Option String
  deriving DecidableEq, Repr

def Address.text (a : Address) : String :=
  match a.version with
  | .v4 => ipv4Text a.number
  | .v6 => ipv6Text a.number ++ (a.scope.map fun scope => "%" ++ scope).getD ""

def loopback4 (n : ℕ) : Bool := decide (n / 2 ^ 24 = 127)
def linkLocal4 (n : ℕ) : Bool := decide (n / 2 ^ 16 = 169 * 256 + 254)

/-- The address is the host's own. -/
def Address.isLoopback (a : Address) : Bool :=
  match a.version, ipv4Mapped a.number with
  | .v4, _ => loopback4 a.number
  | .v6, some v4 => loopback4 v4
  | .v6, none => decide (a.number = 1)

/-- The address is valid on its link only. -/
def Address.isLinkLocal (a : Address) : Bool :=
  match a.version, ipv4Mapped a.number with
  | .v4, _ => linkLocal4 a.number
  | .v6, some v4 => linkLocal4 v4
  | .v6, none => decide (a.number / 2 ^ 118 = 0xFE80 / 64)

/-- An address in either of its forms. -/
def parseAddress (text : String) : Option Address :=
  match ipv4Int text.toList with
  | some n => some ⟨.v4, n, none⟩
  | none =>
    match Tokens.cut '%' text.toList with
    | none => (ipv6Int text.toList).map fun n => ⟨.v6, n, none⟩
    | some (number, scope) =>
      if scope = [] ∨ '%' ∈ scope ∨ '/' ∈ scope then none
      else (ipv6Int number).map fun n => ⟨.v6, n, some (String.ofList scope)⟩

structure Network where
  address : Address
  prefixLength : ℕ
  deriving DecidableEq, Repr

def Network.text (n : Network) : String := n.address.text ++ "/" ++ toString n.prefixLength

/-- The network of an address; the scope stays when the address is the network's own. -/
def networkOf (a : Address) (prefixLength : ℕ) : Network :=
  let size := 2 ^ (a.version.bits - prefixLength)
  if a.number % size = 0 then ⟨a, prefixLength⟩
  else ⟨⟨a.version, a.number / size * size, none⟩, prefixLength⟩

/-- An interface `address/prefix`: its address and its network. -/
def parseInterface (address : String) (prefixLength : ℤ) : Option (Address × Network) := do
  let a ← parseAddress address
  if 0 ≤ prefixLength ∧ prefixLength ≤ a.version.bits then
    some (⟨a.version, a.number, none⟩, networkOf a prefixLength.toNat)
  else none

/-- Networks of one version in order: by address, then by mask. -/
def Network.lt (n m : Network) : Bool :=
  if n.address = m.address then decide (n.prefixLength < m.prefixLength)
  else decide (n.address.number < m.address.number)

/-! ## Versions -/

lemma networkOf_version (a : Address) (prefixLength : ℕ) :
    (networkOf a prefixLength).address.version = a.version := by
  unfold networkOf
  simp only
  split_ifs <;> rfl

/-- The network of an IPv4 interface is one of IPv4. -/
lemma parseInterface_version {address : String} {prefixLength : ℤ} {ip : Address}
    {network : Network} (hv4 : (ipv4Int address.toList).isSome = true)
    (h : parseInterface address prefixLength = some (ip, network)) :
    network.address.version = .v4 := by
  obtain ⟨n, hn⟩ := Option.isSome_iff_exists.mp hv4
  obtain ⟨a, ha, h⟩ := Option.bind_eq_some_iff.mp h
  rw [parseAddress, hn] at ha
  split_ifs at h
  obtain ⟨-, rfl⟩ := Prod.mk.inj (Option.some_inj.mp h)
  rw [networkOf_version, ← Option.some_inj.mp ha]

/-! ## What an IPv4 address is made of -/

lemma octet_isSome {s : List Char} (h : (octet s).isSome = true) :
    s ≠ [] ∧ ∀ c ∈ s, c.isDigit = true := by
  unfold octet at h
  split_ifs at h with hbad <;> simp_all

/-- An IPv4 address is made of digits and dots, and begins with a digit. -/
lemma ipv4Int_isSome {s : List Char} (h : (ipv4Int s).isSome = true) :
    (∃ c rest, s = c :: rest ∧ c.isDigit = true) ∧ ∀ c ∈ s, c.isDigit = true ∨ c = '.' := by
  have hoctets : ∀ part ∈ s.splitOn '.', part ≠ [] ∧ ∀ c ∈ part, c.isDigit = true := by
    unfold ipv4Int at h
    split at h
    · rename_i first second third fourth hparts
      obtain ⟨n, hn⟩ := Option.isSome_iff_exists.mp h
      obtain ⟨a, ha, hn⟩ := Option.bind_eq_some_iff.mp hn
      obtain ⟨b, hb, hn⟩ := Option.bind_eq_some_iff.mp hn
      obtain ⟨c, hc, hn⟩ := Option.bind_eq_some_iff.mp hn
      obtain ⟨d, hd, _⟩ := Option.bind_eq_some_iff.mp hn
      have hsome : ∀ part ∈ s.splitOn '.', (octet part).isSome = true := by
        rw [hparts]
        simp [ha, hb, hc, hd]
      exact fun part hpart => octet_isSome (hsome part hpart)
    · exact absurd h (by decide)
  constructor
  · cases s with
    | nil => exact absurd rfl (hoctets [] (by simp)).1
    | cons c rest =>
      have hc : c ≠ '.' := by
        rintro rfl
        refine (hoctets [] ?_).1 rfl
        rw [List.splitOn_cons_eq_if_modifyHead, if_pos (by decide)]
        exact List.mem_cons_self
      obtain ⟨part, parts, hsplit⟩ := Tokens.splitOn_cons_of_ne hc rest
      exact ⟨c, rest, rfl, (hoctets (c :: part) (by simp [hsplit])).2 c List.mem_cons_self⟩
  · intro c hc
    rcases Tokens.mem_splitOn '.' hc with rfl | ⟨part, hpart, hc⟩
    · exact .inr rfl
    · exact .inl ((hoctets part hpart).2 c hc)

end IpAddress
