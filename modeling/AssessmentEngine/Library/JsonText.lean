import Mathlib.Data.List.Sort
import Mathlib.Data.String.Basic
import Mathlib.Tactic.SplitIfs

/-!
# Compact JSON text in ASCII

The text of a flat JSON object whose values are strings and lists of strings, without blanks and
with every character outside the printable ASCII range escaped.  The text determines the object,
also when something follows it (`prefixCode_objectTail`), and its beginning is recognisable: a
brace, a quotation mark and a letter stand together nowhere else in it (`noStart_objectTail`).
-/

namespace JsonText

/-! ## Characters -/

/-- A hexadecimal digit in lower case. -/
def hexDigitChar (d : ℕ) : Char :=
  if d < 10 then Char.ofNat ('0'.toNat + d) else Char.ofNat ('a'.toNat + (d - 10))

def hexVal (c : Char) : Option ℕ :=
  if '0' ≤ c ∧ c ≤ '9' then some (c.toNat - '0'.toNat)
  else if 'a' ≤ c ∧ c ≤ 'f' then some (10 + (c.toNat - 'a'.toNat))
  else none

/-- The escape of one UTF-16 code unit. -/
def unitChars (u : ℕ) : List Char :=
  ['\\', 'u', hexDigitChar (u / 4096), hexDigitChar (u / 256 % 16), hexDigitChar (u / 16 % 16),
    hexDigitChar (u % 16)]

/-- The letter that follows the backslash in an escape of two characters. -/
def shortEscape (c : Char) : Option Char :=
  if c = '"' then some '"'
  else if c = '\\' then some '\\'
  else if c = '\n' then some 'n'
  else if c = '\r' then some 'r'
  else if c = '\t' then some 't'
  else if c = '\x08' then some 'b'
  else if c = '\x0c' then some 'f'
  else none

/-- A character as it stands in a JSON string: beyond the basic plane it is a surrogate pair. -/
def escapeChar (c : Char) : List Char :=
  match shortEscape c with
  | some e => ['\\', e]
  | none =>
    if ' ' ≤ c ∧ c ≤ '~' then [c]
    else if c.toNat < 0x10000 then unitChars c.toNat
    else unitChars (0xd800 + (c.toNat - 0x10000) / 0x400) ++
      unitChars (0xdc00 + (c.toNat - 0x10000) % 0x400)

/-! ### Reading a character -/

/-- Reads four hexadecimal digits. -/
def readHex : List Char → Option (ℕ × List Char)
  | a :: b :: c :: d :: cs => do
    let a ← hexVal a
    let b ← hexVal b
    let c ← hexVal c
    let d ← hexVal d
    some (4096 * a + 256 * b + 16 * c + d, cs)
  | _ => none

/-- The character whose short escape has this letter. -/
def shortVal (e : Char) : Option ℕ :=
  if e = '"' then some '"'.toNat
  else if e = '\\' then some '\\'.toNat
  else if e = 'n' then some '\n'.toNat
  else if e = 'r' then some '\r'.toNat
  else if e = 't' then some '\t'.toNat
  else if e = 'b' then some 8
  else if e = 'f' then some 12
  else none

/-- The code point of which `u` is the first unit: a leading surrogate needs the one behind it. -/
def readLow (u : ℕ) : List Char → Option (ℕ × List Char)
  | '\\' :: 'u' :: cs =>
    (readHex cs).map fun p => (0x10000 + (u - 0xd800) * 0x400 + (p.1 - 0xdc00), p.2)
  | _ => none

def readUnits (cs : List Char) : Option (ℕ × List Char) :=
  (readHex cs).bind fun p =>
    if 0xd800 ≤ p.1 ∧ p.1 < 0xdc00 then readLow p.1 p.2 else some p

def readEscape : List Char → Option (ℕ × List Char)
  | [] => none
  | e :: cs => if e = 'u' then readUnits cs else (shortVal e).map fun n => (n, cs)

/-- Reads the code point of one character of a string. -/
def readPoint : List Char → Option (ℕ × List Char)
  | [] => none
  | c :: cs => if c = '\\' then readEscape cs else some (c.toNat, cs)

lemma hexVal_hexDigitChar {d : ℕ} (hd : d < 16) : hexVal (hexDigitChar d) = some d := by
  revert d
  decide

lemma readHex_unitChars {u : ℕ} (hu : u < 0x10000) (cs : List Char) :
    readHex ((unitChars u).drop 2 ++ cs) = some (u, cs) := by
  have ha := hexVal_hexDigitChar (show u / 4096 < 16 by omega)
  have hb := hexVal_hexDigitChar (Nat.mod_lt (u / 256) (show 16 > 0 by decide))
  have hc := hexVal_hexDigitChar (Nat.mod_lt (u / 16) (show 16 > 0 by decide))
  have hd := hexVal_hexDigitChar (Nat.mod_lt u (show 16 > 0 by decide))
  have hsum : 4096 * (u / 4096) + 256 * (u / 256 % 16) + 16 * (u / 16 % 16) + u % 16 = u := by
    omega
  simp only [unitChars, List.drop_succ_cons, List.drop_zero, List.cons_append, List.nil_append,
    readHex, ha, hb, hc, hd, Option.bind_eq_bind, Option.bind_some, hsum]

lemma unitChars_append (u : ℕ) (cs : List Char) :
    unitChars u ++ cs = '\\' :: 'u' :: ((unitChars u).drop 2 ++ cs) :=
  rfl

/-- A unit is read as it was written, and a leading surrogate with the unit behind it. -/
lemma readPoint_unitChars {u : ℕ} (hu : u < 0x10000) (cs : List Char) :
    readPoint (unitChars u ++ cs) =
      if 0xd800 ≤ u ∧ u < 0xdc00 then readLow u cs else some (u, cs) := by
  rw [unitChars_append, readPoint, if_pos rfl, readEscape, if_pos rfl, readUnits,
    readHex_unitChars hu, Option.bind_some]

lemma readLow_unitChars (u : ℕ) {v : ℕ} (hv : v < 0x10000) (cs : List Char) :
    readLow u (unitChars v ++ cs) = some (0x10000 + (u - 0xd800) * 0x400 + (v - 0xdc00), cs) := by
  rw [unitChars_append, readLow, readHex_unitChars hv, Option.map_some]

/-- The letter of a short escape tells the character, and is not that of a code unit. -/
lemma shortVal_shortEscape {c e : Char} (h : shortEscape c = some e) :
    shortVal e = some c.toNat ∧ e ≠ 'u' := by
  unfold shortEscape at h
  split_ifs at h with h1 h2 h3 h4 h5 h6 h7 <;> cases h <;> subst c <;> decide

/-- A scalar value is not a surrogate. -/
lemma toNat_not_surrogate (c : Char) : ¬ (0xd800 ≤ c.toNat ∧ c.toNat < 0xdc00) := by
  have hvalid : c.toNat < 0xd800 ∨ 0xdfff < c.toNat ∧ c.toNat < 0x110000 := c.valid
  omega

lemma toNat_lt (c : Char) : c.toNat < 0x110000 := by
  have hvalid : c.toNat < 0xd800 ∨ 0xdfff < c.toNat ∧ c.toNat < 0x110000 := c.valid
  omega

/-- A character is read as it was written. -/
lemma readPoint_escapeChar (c : Char) (cs : List Char) :
    readPoint (escapeChar c ++ cs) = some (c.toNat, cs) := by
  unfold escapeChar
  cases hshort : shortEscape c with
  | some e =>
    obtain ⟨hval, hne⟩ := shortVal_shortEscape hshort
    rw [List.cons_append, List.singleton_append, readPoint, if_pos rfl, readEscape, if_neg hne,
      hval, Option.map_some]
  | none =>
    have hslash : c ≠ '\\' := by
      rintro rfl
      exact absurd hshort (by decide)
    dsimp only
    split_ifs with hprint hbasic
    · rw [List.singleton_append, readPoint, if_neg hslash]
    · rw [readPoint_unitChars hbasic, if_neg (toNat_not_surrogate c)]
    · have hlt := toNat_lt c
      have hpoint : 0x10000 + (0xd800 + (c.toNat - 0x10000) / 0x400 - 0xd800) * 0x400 +
          (0xdc00 + (c.toNat - 0x10000) % 0x400 - 0xdc00) = c.toNat := by omega
      rw [List.append_assoc, readPoint_unitChars (by omega), if_pos (by omega),
        readLow_unitChars _ (by omega), hpoint]

/-- Distinct values have texts of which neither begins the other. -/
def PrefixCode {α : Type*} (code : α → List Char) : Prop :=
  ∀ a b cs cs', code a ++ cs = code b ++ cs' → a = b ∧ cs = cs'

lemma prefixCode_escapeChar : PrefixCode escapeChar := by
  intro c c' cs cs' h
  have hread := congrArg readPoint h
  rw [readPoint_escapeChar, readPoint_escapeChar, Option.some.injEq, Prod.mk.injEq] at hread
  exact ⟨Char.toNat_inj.mp hread.1, hread.2⟩

/-! ### Braces and quotation marks -/

/-- The opening brace. -/
def brace : Char := '\x7b'

lemma brace_notMem_unitChars {u : ℕ} (hu : u < 0x10000) : brace ∉ unitChars u := by
  have hhex : ∀ d < 16, hexDigitChar d ≠ brace := by decide
  intro hmem
  simp only [unitChars, List.mem_cons, List.not_mem_nil, or_false] at hmem
  rcases hmem with h | h | h | h | h | h
  · exact absurd h (by decide)
  · exact absurd h (by decide)
  · exact hhex _ (by omega) h.symm
  · exact hhex _ (Nat.mod_lt _ (by decide)) h.symm
  · exact hhex _ (Nat.mod_lt _ (by decide)) h.symm
  · exact hhex _ (Nat.mod_lt _ (by decide)) h.symm

/-- A character that is no quotation mark stands for itself, or its escape begins with a backslash
and has no brace. -/
lemma escapeChar_cases (c : Char) :
    (escapeChar c = [c] ∧ c ≠ '"') ∨
      (∃ tail, escapeChar c = '\\' :: tail) ∧ brace ∉ escapeChar c := by
  unfold escapeChar
  cases hshort : shortEscape c with
  | some e =>
    have hbrace : brace ∉ ['\\', e] := by
      unfold shortEscape at hshort
      split_ifs at hshort <;> cases hshort <;> decide
    exact .inr ⟨⟨[e], rfl⟩, hbrace⟩
  | none =>
    have hquote : c ≠ '"' := by
      rintro rfl
      exact absurd hshort (by decide)
    have hlt := toNat_lt c
    dsimp only
    split_ifs with hprint hbasic
    · exact .inl ⟨rfl, hquote⟩
    · exact .inr ⟨⟨_, rfl⟩, brace_notMem_unitChars hbasic⟩
    · refine .inr ⟨⟨_, rfl⟩, ?_⟩
      rw [List.mem_append, not_or]
      exact ⟨brace_notMem_unitChars (by omega), brace_notMem_unitChars (by omega)⟩

/-- No escaped character begins like the end of a string. -/
lemma escapeChar_append_ne_quote (c : Char) (cs cs' : List Char) :
    escapeChar c ++ cs ≠ '"' :: cs' := by
  intro h
  rcases escapeChar_cases c with ⟨hself, hne⟩ | ⟨⟨tail, htail⟩, -⟩
  · rw [hself] at h
    exact hne (List.cons.inj h).1
  · rw [htail] at h
    exact absurd (List.cons.inj h).1 (by decide)

/-! ## Strings -/

/-- The characters of a string between its quotation marks. -/
def escape (s : List Char) : List Char :=
  s.flatMap escapeChar

def quote (s : String) : List Char :=
  '"' :: (escape s.toList ++ ['"'])

lemma escape_append_inj {s s' cs cs' : List Char}
    (h : escape s ++ '"' :: cs = escape s' ++ '"' :: cs') : s = s' ∧ cs = cs' := by
  induction s generalizing s' with
  | nil =>
    cases s' with
    | nil => exact ⟨rfl, (List.cons.inj h).2⟩
    | cons c' s' =>
      rw [escape, escape, List.flatMap_cons, List.append_assoc] at h
      exact absurd h.symm (escapeChar_append_ne_quote _ _ _)
  | cons c s ih =>
    cases s' with
    | nil =>
      rw [escape, escape, List.flatMap_cons, List.append_assoc] at h
      exact absurd h (escapeChar_append_ne_quote _ _ _)
    | cons c' s' =>
      rw [escape, escape, List.flatMap_cons, List.flatMap_cons, List.append_assoc,
        List.append_assoc] at h
      obtain ⟨rfl, htail⟩ := prefixCode_escapeChar c c' _ _ h
      obtain ⟨rfl, rfl⟩ := ih htail
      exact ⟨rfl, rfl⟩

lemma quote_append (s : String) (cs : List Char) :
    quote s ++ cs = '"' :: (escape s.toList ++ '"' :: cs) := by
  rw [quote, List.cons_append, List.append_assoc, List.singleton_append]

/-- A string ends where its text says. -/
lemma prefixCode_quote : PrefixCode quote := by
  intro s s' cs cs' h
  rw [quote_append, quote_append, List.cons.injEq] at h
  obtain ⟨hs, hcs⟩ := escape_append_inj h.2
  exact ⟨String.toList_injective hs, hcs⟩

/-! ## Lists and objects -/

section CommaList

variable {α : Type*} (close : Char) (item : α → List Char)

/-- The further items of a list, with what closes it. -/
def commaTail : List α → List Char
  | [] => [close]
  | x :: xs => ',' :: (item x ++ commaTail xs)

/-- The items of a list, with what closes it. -/
def commaList : List α → List Char
  | [] => [close]
  | x :: xs => item x ++ commaTail close item xs

lemma commaTail_cons_append (x : α) (xs : List α) (cs : List Char) :
    commaTail close item (x :: xs) ++ cs = ',' :: (item x ++ (commaTail close item xs ++ cs)) := by
  rw [commaTail, List.cons_append, List.append_assoc]

lemma commaList_cons_append (x : α) (xs : List α) (cs : List Char) :
    commaList close item (x :: xs) ++ cs = item x ++ (commaTail close item xs ++ cs) := by
  rw [commaList, List.append_assoc]

variable {close item}

lemma prefixCode_commaTail (hitem : PrefixCode item) (hclose : close ≠ ',') :
    PrefixCode (commaTail close item) := by
  intro xs
  induction xs with
  | nil =>
    rintro (_ | ⟨y, ys⟩) cs cs' h
    · exact ⟨rfl, (List.cons.inj h).2⟩
    · exact absurd (List.cons.inj h).1 hclose
  | cons x xs ih =>
    rintro (_ | ⟨y, ys⟩) cs cs' h
    · exact absurd (List.cons.inj h).1.symm hclose
    · rw [commaTail_cons_append, commaTail_cons_append] at h
      obtain ⟨rfl, htail⟩ := hitem _ _ _ _ (List.cons.inj h).2
      obtain ⟨rfl, rfl⟩ := ih ys cs cs' htail
      exact ⟨rfl, rfl⟩

/-- A list whose items do not begin like its end ends where its text says. -/
lemma prefixCode_commaList (hitem : PrefixCode item) (hclose : close ≠ ',')
    (hhead : ∀ x cs cs', item x ++ cs ≠ close :: cs') : PrefixCode (commaList close item) := by
  rintro (_ | ⟨x, xs⟩) (_ | ⟨y, ys⟩) cs cs' h
  · exact ⟨rfl, (List.cons.inj h).2⟩
  · rw [commaList_cons_append] at h
    exact absurd h.symm (hhead _ _ _)
  · rw [commaList_cons_append] at h
    exact absurd h (hhead _ _ _)
  · rw [commaList_cons_append, commaList_cons_append] at h
    obtain ⟨rfl, htail⟩ := hitem _ _ _ _ h
    obtain ⟨rfl, rfl⟩ := prefixCode_commaTail hitem hclose _ _ _ _ htail
    exact ⟨rfl, rfl⟩

end CommaList

inductive Value
  | string (s : String)
  | strings (xs : List String)
  deriving DecidableEq, Repr

def Value.chars : Value → List Char
  | .string s => quote s
  | .strings xs => '[' :: commaList ']' quote xs

def memberChars (m : String × Value) : List Char :=
  quote m.1 ++ ':' :: m.2.chars

/-- What follows the opening brace of an object. -/
def objectTail (ms : List (String × Value)) : List Char :=
  commaList '\x7d' memberChars ms

/-- `json.dumps` with sorted keys and the separators `,` and `:`. -/
def dumps (ms : List (String × Value)) : List Char :=
  brace :: objectTail (ms.insertionSort fun a b => a.1 ≤ b.1)

lemma quote_append_ne (s : String) {x : Char} (hx : x ≠ '"') (cs cs' : List Char) :
    quote s ++ cs ≠ x :: cs' := by
  intro h
  rw [quote_append] at h
  exact hx (List.cons.inj h).1.symm

lemma prefixCode_chars : PrefixCode Value.chars := by
  rintro (s | xs) (t | ys) cs cs' h
  · obtain ⟨rfl, rfl⟩ := prefixCode_quote s t cs cs' h
    exact ⟨rfl, rfl⟩
  · exact absurd h (quote_append_ne s (by decide) _ _)
  · exact absurd h.symm (quote_append_ne t (by decide) _ _)
  · have hlist : PrefixCode (commaList ']' quote) :=
      prefixCode_commaList prefixCode_quote (by decide) fun s => quote_append_ne s (by decide)
    obtain ⟨rfl, rfl⟩ := hlist xs ys cs cs' (List.cons.inj h).2
    exact ⟨rfl, rfl⟩

lemma memberChars_append (m : String × Value) (cs : List Char) :
    memberChars m ++ cs = quote m.1 ++ ':' :: (m.2.chars ++ cs) := by
  rw [memberChars, List.append_assoc, List.cons_append]

lemma prefixCode_memberChars : PrefixCode memberChars := by
  rintro ⟨k, v⟩ ⟨k', v'⟩ cs cs' h
  rw [memberChars_append, memberChars_append] at h
  obtain ⟨rfl, htail⟩ := prefixCode_quote k k' _ _ h
  obtain ⟨rfl, rfl⟩ := prefixCode_chars v v' _ _ (List.cons.inj htail).2
  exact ⟨rfl, rfl⟩

/-- An object ends where its text says. -/
lemma prefixCode_objectTail : PrefixCode objectTail := by
  refine prefixCode_commaList prefixCode_memberChars (by decide) fun m cs cs' => ?_
  rw [memberChars_append]
  exact quote_append_ne m.1 (by decide) _ _

/-! ## Where an object begins -/

/-- Nowhere do an opening brace, a quotation mark and the letter `k` stand together. -/
def NoStart (k : Char) (cs : List Char) : Prop :=
  ¬ [brace, '"', k] <:+: cs

section NoStart

variable {k : Char}

lemma noStart_nil : NoStart k [] :=
  fun h => List.cons_ne_nil _ _ (List.eq_nil_of_infix_nil h)

lemma noStart_cons {x : Char} {cs : List Char} (hx : x ≠ brace) (h : NoStart k cs) :
    NoStart k (x :: cs) := by
  intro hpart
  rcases List.infix_cons_iff.mp hpart with ⟨t, hhere⟩ | hpart
  · exact hx (List.cons.inj hhere).1.symm
  · exact h hpart

lemma noStart_append {xs cs : List Char} (hxs : brace ∉ xs) (h : NoStart k cs) :
    NoStart k (xs ++ cs) := by
  induction xs with
  | nil => exact h
  | cons x xs ih =>
    rw [List.mem_cons, not_or] at hxs
    exact noStart_cons (Ne.symm hxs.1) (ih hxs.2)

/-- A string does not hide a start: a quotation mark in it is the end, and what follows is not
`k`. -/
lemma noStart_escape (s : List Char) {x : Char} {cs : List Char} (hx : x ≠ k)
    (h : NoStart k (x :: cs)) : NoStart k (escape s ++ '"' :: x :: cs) := by
  induction s with
  | nil => exact noStart_cons (by decide) h
  | cons c s ih =>
    rw [escape, List.flatMap_cons, List.append_assoc]
    rcases escapeChar_cases c with ⟨hself, -⟩ | ⟨-, hbrace⟩
    · rw [hself]
      intro hpart
      rcases List.infix_cons_iff.mp hpart with ⟨t, hhere⟩ | hpart
      · -- the quotation mark behind the brace is the end of the string
        have htail : '"' :: k :: t = escape s ++ '"' :: x :: cs := (List.cons.inj hhere).2
        cases s with
        | nil => exact hx (List.cons.inj (List.cons.inj htail).2).1.symm
        | cons c' s =>
          rw [escape, List.flatMap_cons, List.append_assoc] at htail
          exact escapeChar_append_ne_quote _ _ _ htail.symm
      · exact ih hpart
    · exact noStart_append hbrace ih

/-- Behind such a text there is a start only where there is one in what follows. -/
def Quiet {α : Type*} (k : Char) (code : α → List Char) : Prop :=
  ∀ a x cs, x ≠ k → NoStart k (x :: cs) → NoStart k (code a ++ x :: cs)

lemma quiet_quote : Quiet k quote := by
  intro s x cs hx h
  rw [quote_append]
  exact noStart_cons (by decide) (noStart_escape s.toList hx h)

variable {α : Type*} {close : Char} {item : α → List Char}

lemma noStart_commaTail (hitem : Quiet k item) (hcomma : ',' ≠ k) (hclose : close ≠ k)
    (hbrace : close ≠ brace) (xs : List α) {cs : List Char} (h : NoStart k cs) :
    NoStart k (commaTail close item xs ++ cs) := by
  induction xs with
  | nil => exact noStart_cons hbrace h
  | cons y ys ih =>
    rw [commaTail_cons_append]
    refine noStart_cons (by decide) ?_
    cases ys with
    | nil => exact hitem y close cs hclose ih
    | cons z zs =>
      rw [commaTail_cons_append] at ih ⊢
      exact hitem y ',' _ hcomma ih

lemma noStart_commaList (hitem : Quiet k item) (hcomma : ',' ≠ k) (hclose : close ≠ k)
    (hbrace : close ≠ brace) (xs : List α) {cs : List Char} (h : NoStart k cs) :
    NoStart k (commaList close item xs ++ cs) := by
  cases xs with
  | nil => exact noStart_cons hbrace h
  | cons y ys =>
    have htail := noStart_commaTail hitem hcomma hclose hbrace ys h
    rw [commaList_cons_append]
    cases ys with
    | nil => exact hitem y close cs hclose htail
    | cons z zs =>
      rw [commaTail_cons_append] at htail ⊢
      exact hitem y ',' _ hcomma htail

/-- The letter `k` is none of those that stand behind a string. -/
def Inner (k : Char) : Prop :=
  ',' ≠ k ∧ ':' ≠ k ∧ ']' ≠ k ∧ '\x7d' ≠ k

instance (k : Char) : Decidable (Inner k) :=
  inferInstanceAs (Decidable (_ ∧ _))

lemma quiet_memberChars (hk : Inner k) : Quiet k memberChars := by
  obtain ⟨hcomma, hcolon, hbracket, -⟩ := hk
  rintro ⟨key, v⟩ x cs hx h
  rw [memberChars_append]
  refine quiet_quote key ':' _ hcolon (noStart_cons (by decide) ?_)
  cases v with
  | string s => exact quiet_quote s x cs hx h
  | strings xs =>
    exact noStart_cons (by decide)
      (noStart_commaList quiet_quote hcomma hbracket (by decide) xs h)

/-- Behind its first brace an object has no start. -/
lemma noStart_objectTail (hk : Inner k) (ms : List (String × Value)) :
    NoStart k (objectTail ms) := by
  have h := noStart_commaList (quiet_memberChars hk) hk.1 hk.2.2.2 (by decide) ms
    (noStart_nil (k := k))
  rwa [List.append_nil] at h

/-- An object does not begin inside another one. -/
lemma eq_nil_of_append_object {sep : Char} (hsep : sep ≠ brace) {w tail rest : List Char}
    (htail : NoStart k tail) (h : sep :: brace :: tail = w ++ sep :: brace :: '"' :: k :: rest) :
    w = [] := by
  match w with
  | [] => rfl
  | [_] => exact absurd (List.cons.inj (List.cons.inj h).2).1.symm hsep
  | _ :: _ :: w =>
    have hpart : tail = w ++ sep :: brace :: '"' :: k :: rest :=
      (List.cons.inj (List.cons.inj h).2).2
    exact absurd ⟨w ++ [sep], rest, by rw [hpart]; simp⟩ htail

/-- A prefix and an object behind a separator are determined by their text, whatever the prefix. -/
lemma append_object_inj {sep : Char} (hsep : sep ≠ brace) {p p' tail tail' rest rest' : List Char}
    (htail : NoStart k tail) (htail' : NoStart k tail') (hhead : tail = '"' :: k :: rest)
    (hhead' : tail' = '"' :: k :: rest')
    (h : p ++ sep :: brace :: tail = p' ++ sep :: brace :: tail') : p = p' ∧ tail = tail' := by
  rcases List.append_eq_append_iff.mp h with ⟨w, rfl, hw⟩ | ⟨w, rfl, hw⟩
  · obtain rfl : w = [] := eq_nil_of_append_object hsep htail (hhead' ▸ hw)
    exact ⟨(List.append_nil p).symm, (List.cons.inj (List.cons.inj hw).2).2⟩
  · obtain rfl : w = [] := eq_nil_of_append_object hsep htail' (hhead ▸ hw)
    exact ⟨List.append_nil p', (List.cons.inj (List.cons.inj hw).2).2.symm⟩

end NoStart

end JsonText
