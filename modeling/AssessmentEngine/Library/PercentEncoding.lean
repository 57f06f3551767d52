import Mathlib.Data.Char
import Mathlib.Data.List.Basic
import Mathlib.Tactic.IntervalCases
import AssessmentEngine.Library.Tokens

/-!
# Percent encoding

`quote` writes a text in unreserved letters and escaped bytes, `unquote` reads the bytes of a text
as UTF-8, with U+FFFD for what is none, and `parseQsl` reads a query.  Whatever was quoted reads
back (`unquote_quote`), also as the last value of a query (`queryGet_snoc`).
-/

namespace PercentEncoding

open Tokens

/-! ## UTF-8 -/

/-- Whether a letter of three or four bytes can begin with these two. -/
def leadsOn (b c : UInt8) : Bool :=
  if b = 0xE0 then decide (0xA0 ≤ c ∧ c ≤ 0xBF)
  else if b = 0xED then decide (0x80 ≤ c ∧ c ≤ 0x9F)
  else if b = 0xF0 then decide (0x90 ≤ c ∧ c ≤ 0xBF)
  else if b = 0xF4 then decide (0x80 ≤ c ∧ c ≤ 0x8F)
  else decide (0xE1 ≤ b ∧ b ≤ 0xF3 ∧ 0x80 ≤ c ∧ c ≤ 0xBF)

/-- How many bytes one U+FFFD stands for: the longest beginning of a letter, or one byte. -/
def brokenLength : List UInt8 → ℕ
  | b :: c :: d :: _ =>
    if leadsOn b c then if 0xF0 ≤ b ∧ 0x80 ≤ d ∧ d ≤ 0xBF then 3 else 2 else 1
  | [b, c] => if leadsOn b c then 2 else 1
  | _ => 1

/-- At most `fuel` letters of the bytes. -/
def decodeFrom : ℕ → List UInt8 → List Char
  | 0, _ => []
  | _, [] => []
  | fuel + 1, bytes =>
    match bytes.toByteArray.utf8DecodeChar? 0 with
    | some c => c :: decodeFrom fuel (bytes.drop c.utf8Size)
    | none => '\uFFFD' :: decodeFrom fuel (bytes.drop (brokenLength bytes))

/-- `bytes.decode("utf-8", "replace")`; no letter takes less than a byte. -/
def decodeReplace (bytes : List UInt8) : List Char := decodeFrom bytes.length bytes

/-- `text.encode("utf-8")`. -/
def encode (cs : List Char) : List UInt8 := cs.flatMap String.utf8EncodeChar

lemma length_le_encode (cs : List Char) : cs.length ≤ (encode cs).length := by
  induction cs with
  | nil => exact le_rfl
  | cons c cs ih =>
    have hpos := c.utf8Size_pos
    rw [encode, List.flatMap_cons, List.length_append, String.length_utf8EncodeChar,
      List.length_cons]
    unfold encode at ih
    omega

lemma toByteArray_append (a b : List UInt8) :
    (a ++ b).toByteArray = a.toByteArray ++ b.toByteArray := by
  apply ByteArray.ext
  simp

lemma decodeFrom_encode {fuel : ℕ} {cs : List Char} (hfuel : cs.length ≤ fuel) :
    decodeFrom fuel (encode cs) = cs := by
  induction cs generalizing fuel with
  | nil => cases fuel <;> rfl
  | cons c cs ih =>
    obtain ⟨fuel, rfl⟩ : ∃ n, fuel = n + 1 := ⟨fuel - 1, by simp at hfuel; omega⟩
    have hne : encode (c :: cs) ≠ [] := by simp [encode]
    have hfirst : (encode (c :: cs)).toByteArray.utf8DecodeChar? 0 = some c := by
      rw [encode, List.flatMap_cons, toByteArray_append]
      exact ByteArray.utf8DecodeChar?_utf8EncodeChar_append
    have hrest : (encode (c :: cs)).drop c.utf8Size = encode cs := by
      rw [encode, List.flatMap_cons]
      exact List.drop_left' (String.length_utf8EncodeChar c)
    rw [decodeFrom]
    · rw [hfirst]
      exact congrArg (c :: ·) (hrest ▸ ih (by simpa using hfuel))
    · exact fun h => hne h

/-- Nothing is replaced in what was encoded. -/
theorem decodeReplace_encode (cs : List Char) : decodeReplace (encode cs) = cs :=
  decodeFrom_encode (length_le_encode cs)

/-! ## Escapes -/

/-- The letters that `quote` leaves as they are. -/
def unreserved (c : Char) : Bool :=
  c.isAlphanum || c == '_' || c == '.' || c == '-' || c == '~'

def hexDigit (d : ℕ) : Char := Char.ofNat (if d < 10 then 48 + d else 55 + d)

def hexValue (c : Char) : Option ℕ :=
  if c.isDigit then some (c.toNat - 48)
  else if 'A' ≤ c ∧ c ≤ 'F' then some (c.toNat - 55)
  else if 'a' ≤ c ∧ c ≤ 'f' then some (c.toNat - 87)
  else none

/-- `%XX`. -/
def escapeByte (b : UInt8) : List Char := ['%', hexDigit (b.toNat / 16), hexDigit (b.toNat % 16)]

def quoteChar (c : Char) : List Char :=
  if unreserved c then [c] else (String.utf8EncodeChar c).flatMap escapeByte

/-- `quote(text, safe="")`. -/
def quote (cs : List Char) : List Char := cs.flatMap quoteChar

/-- The rest of a text after bytes that wait to be decoded; a letter that is no ASCII stands for
itself. -/
def unquoteFrom : List Char → List UInt8 → List Char
  | [], pending => decodeReplace pending
  | '%' :: a :: b :: rest, pending =>
    match hexValue a, hexValue b with
    | some x, some y => unquoteFrom rest (pending ++ [UInt8.ofNat (16 * x + y)])
    | _, _ => unquoteFrom (a :: b :: rest) (pending ++ [UInt8.ofNat '%'.toNat])
  | c :: rest, pending =>
    if c.toNat < 128 then unquoteFrom rest (pending ++ [UInt8.ofNat c.toNat])
    else decodeReplace pending ++ c :: unquoteFrom rest []

/-- `unquote(text)`. -/
def unquote (cs : List Char) : List Char := unquoteFrom cs []

lemma hexValue_hexDigit {d : ℕ} (hd : d < 16) : hexValue (hexDigit d) = some d := by
  interval_cases d <;> rfl

/-- Letters and digits are ASCII. -/
lemma isAlphanum_toNat {c : Char} (h : c.isAlphanum = true) : c.toNat < 128 := by
  have hbelow : ∀ last : Char, last.toNat < 128 → c.val ≤ last.val → c.toNat < 128 :=
    fun last hlast hle => lt_of_le_of_lt (UInt32.le_iff_toNat_le.mp hle) hlast
  rcases (Bool.or_eq_true _ _).mp h with hletter | hdigit
  · rcases (Bool.or_eq_true _ _).mp hletter with hupper | hlower
    · exact hbelow 'Z' (by decide) (of_decide_eq_true hupper).2
    · exact hbelow 'z' (by decide) (of_decide_eq_true ((Bool.and_eq_true _ _).mp hlower).2)
  · exact hbelow '9' (by decide) (of_decide_eq_true ((Bool.and_eq_true _ _).mp hdigit).2)

lemma unreserved_toNat {c : Char} (h : unreserved c = true) : c.toNat < 128 := by
  unfold unreserved at h
  simp only [Bool.or_eq_true, beq_iff_eq] at h
  rcases h with (((h | rfl) | rfl) | rfl) | rfl
  · exact isAlphanum_toNat h
  all_goals decide

lemma utf8EncodeChar_of_ascii {c : Char} (h : c.toNat < 128) :
    String.utf8EncodeChar c = [UInt8.ofNat c.toNat] := by
  have hle : c.val ≤ 0x7f := by
    rw [UInt32.le_iff_toNat_le]
    exact Nat.le_of_lt_succ h
  have hsize : c.utf8Size = 1 := if_pos hle
  rw [String.utf8EncodeChar_eq_singleton hsize]
  rfl

lemma unquoteFrom_escapeByte (b : UInt8) (rest : List Char) (pending : List UInt8) :
    unquoteFrom (escapeByte b ++ rest) pending = unquoteFrom rest (pending ++ [b]) := by
  have hb : b.toNat < 256 := b.toNat_lt
  have hhigh := hexValue_hexDigit (show b.toNat / 16 < 16 by omega)
  have hlow := hexValue_hexDigit (show b.toNat % 16 < 16 by omega)
  have hbyte : UInt8.ofNat (16 * (b.toNat / 16) + b.toNat % 16) = b := by
    rw [Nat.div_add_mod]
    exact UInt8.ofNat_toNat
  simp only [escapeByte, List.cons_append, List.nil_append, unquoteFrom, hhigh, hlow, hbyte]

lemma unquoteFrom_escapes (bytes : List UInt8) (rest : List Char) (pending : List UInt8) :
    unquoteFrom (bytes.flatMap escapeByte ++ rest) pending =
      unquoteFrom rest (pending ++ bytes) := by
  induction bytes generalizing pending with
  | nil => simp
  | cons b bytes ih =>
    rw [List.flatMap_cons, List.append_assoc, unquoteFrom_escapeByte, ih, List.append_assoc,
      List.singleton_append]

lemma percent_not_unreserved : unreserved '%' = false := by decide

lemma unquoteFrom_quoteChar (c : Char) (rest : List Char) (pending : List UInt8) :
    unquoteFrom (quoteChar c ++ rest) pending =
      unquoteFrom rest (pending ++ String.utf8EncodeChar c) := by
  unfold quoteChar
  split_ifs with hc
  · have hascii := unreserved_toNat hc
    have hne : c ≠ '%' := by
      rintro rfl
      rw [percent_not_unreserved] at hc
      cases hc
    rw [utf8EncodeChar_of_ascii hascii, List.singleton_append, unquoteFrom, if_pos hascii]
    exact fun _ _ _ h => absurd h hne
  · exact unquoteFrom_escapes _ rest pending

lemma unquoteFrom_quote (cs : List Char) (pending : List UInt8) :
    unquoteFrom (quote cs) pending = decodeReplace (pending ++ encode cs) := by
  induction cs generalizing pending with
  | nil => simp [quote, encode, unquoteFrom]
  | cons c cs ih =>
    have hcons : quote (c :: cs) = quoteChar c ++ quote cs := List.flatMap_cons
    rw [hcons, unquoteFrom_quoteChar, ih, List.append_assoc]
    rfl

/-- What was quoted reads back. -/
theorem unquote_quote (cs : List Char) : unquote (quote cs) = cs := by
  rw [unquote, unquoteFrom_quote, List.nil_append, decodeReplace_encode]

/-- A quoted text has unreserved letters and `%`. -/
lemma mem_quote {c : Char} {cs : List Char} (h : c ∈ quote cs) : unreserved c = true ∨ c = '%' := by
  have hdigit : ∀ d < 16, unreserved (hexDigit d) = true := by decide
  obtain ⟨d, _, hd⟩ := List.mem_flatMap.mp h
  unfold quoteChar at hd
  split_ifs at hd with hc
  · obtain rfl := List.mem_singleton.mp hd
    exact Or.inl hc
  · obtain ⟨b, _, hb⟩ := List.mem_flatMap.mp hd
    have hlt : b.toNat < 256 := b.toNat_lt
    simp only [escapeByte, List.mem_cons, List.not_mem_nil, or_false] at hb
    rcases hb with rfl | rfl | rfl
    · exact Or.inr rfl
    · exact Or.inl (hdigit _ (by omega))
    · exact Or.inl (hdigit _ (by omega))

lemma not_mem_quote {c : Char} (hc : unreserved c = false) (hpercent : c ≠ '%') (cs : List Char) :
    c ∉ quote cs := by
  intro h
  rcases mem_quote h with hun | heq
  · rw [hc] at hun
    cases hun
  · exact hpercent heq

/-! ## Queries -/

def plusToSpace (cs : List Char) : List Char := cs.map fun c => if c = '+' then ' ' else c

/-- A name and its value; a text without `=` is a name with the empty value. -/
def parsePair (item : List Char) : Option (List Char × List Char) :=
  if item = [] then none
  else
    let pair := (cut '=' item).getD (item, [])
    some (unquote (plusToSpace pair.1), unquote (plusToSpace pair.2))

/-- `parse_qsl(query, keep_blank_values=True)`. -/
def parseQsl (query : List Char) : List (List Char × List Char) :=
  (query.splitOn '&').filterMap parsePair

/-- The value of a name, of which a query that repeats it shows the last. -/
def queryGet (name query : List Char) : Option (List Char) := (parseQsl query).reverse.lookup name

lemma plusToSpace_of_not_mem {cs : List Char} (h : '+' ∉ cs) : plusToSpace cs = cs := by
  unfold plusToSpace
  conv_rhs => rw [← List.map_id cs]
  refine List.map_congr_left fun c hc => ?_
  have hne : c ≠ '+' := fun heq => h (heq ▸ hc)
  rw [if_neg hne, id]

lemma quote_of_unreserved {cs : List Char} (h : ∀ c ∈ cs, unreserved c = true) :
    quote cs = cs := by
  unfold quote
  induction cs with
  | nil => rfl
  | cons c cs ih =>
    obtain ⟨hc, hcs⟩ := List.forall_mem_cons.mp h
    rw [List.flatMap_cons, quoteChar, if_pos hc, ih hcs, List.singleton_append]

lemma not_mem_of_unreserved {c : Char} {cs : List Char} (h : ∀ c ∈ cs, unreserved c = true)
    (hc : unreserved c = false) : c ∉ cs := fun hmem => by
  rw [h c hmem] at hc
  cases hc

section Query

variable {name : List Char}

lemma parsePair_quote (hname : ∀ c ∈ name, unreserved c = true) (value : List Char) :
    parsePair (name ++ '=' :: quote value) = some (name, value) := by
  have hne : name ++ '=' :: quote value ≠ [] := by simp
  have hcut : cut '=' (name ++ '=' :: quote value) = some (name, quote value) :=
    cut_append (not_mem_of_unreserved hname (by decide)) _
  have hread : unquote name = name := by
    conv_lhs => rw [← quote_of_unreserved hname]
    exact unquote_quote name
  rw [parsePair, if_neg hne, hcut]
  simp only [Option.getD_some]
  rw [plusToSpace_of_not_mem (not_mem_of_unreserved hname (by decide)),
    plusToSpace_of_not_mem (not_mem_quote (by decide) (by decide) value), hread, unquote_quote]

lemma parseQsl_quote (hname : ∀ c ∈ name, unreserved c = true) (value : List Char) :
    parseQsl (name ++ '=' :: quote value) = [(name, value)] := by
  have hsep : '&' ∉ name ++ '=' :: quote value := by
    have hvalue : '&' ∉ quote value := not_mem_quote (by decide) (by decide) value
    simp [not_mem_of_unreserved hname (show unreserved '&' = false by decide), hvalue]
  rw [parseQsl, List.splitOn_eq_singleton hsep]
  simp [parsePair_quote hname]

lemma parseQsl_append (query rest : List Char) :
    parseQsl (query ++ '&' :: rest) = parseQsl query ++ parseQsl rest := by
  rw [parseQsl, List.splitOn_append_cons_self, List.filterMap_append]
  rfl

/-- The value that a query ends with is the one that the name has. -/
theorem queryGet_snoc (hname : ∀ c ∈ name, unreserved c = true) (query value : List Char) :
    queryGet name (query ++ '&' :: (name ++ '=' :: quote value)) = some value := by
  rw [queryGet, parseQsl_append, parseQsl_quote hname, List.reverse_append,
    List.reverse_singleton, List.singleton_append]
  exact List.lookup_cons_self

theorem queryGet_quote (hname : ∀ c ∈ name, unreserved c = true) (value : List Char) :
    queryGet name (name ++ '=' :: quote value) = some value := by
  rw [queryGet, parseQsl_quote hname, List.reverse_singleton]
  exact List.lookup_cons_self

end Query

end PercentEncoding
