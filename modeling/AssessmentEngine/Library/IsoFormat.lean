import Mathlib.Algebra.Ring.Nat
import Mathlib.Data.Int.Notation
import Mathlib.Tactic.SplitIfs

/-!
# Date and time in ISO 8601

`isoformat` writes a date with its time, its microseconds when there are any and its offset from UTC
when it has one.  `fromisoformat` reads what `isoformat` writes, and gives it back
(`fromisoformat_isoformat`).
-/

namespace IsoFormat

/-! ## Digits -/

def digitChar (d : ℕ) : Char :=
  Char.ofNat ('0'.toNat + d)

/-- The value of a decimal digit. -/
def digitVal (c : Char) : Option ℕ :=
  if '0' ≤ c ∧ c ≤ '9' then some (c.toNat - '0'.toNat) else none

/-- The last `width` digits of a number. -/
def pad : ℕ → ℕ → List Char
  | 0, _ => []
  | width + 1, n => pad width (n / 10) ++ [digitChar (n % 10)]

/-- Reads `width` digits behind those that make `acc`. -/
def digitsFrom (acc : ℕ) : ℕ → List Char → Option (ℕ × List Char)
  | 0, cs => some (acc, cs)
  | _ + 1, [] => none
  | width + 1, c :: cs => (digitVal c).bind fun d => digitsFrom (10 * acc + d) width cs

/-- Reads a number of `width` digits. -/
def digits : ℕ → List Char → Option (ℕ × List Char) :=
  digitsFrom 0

lemma digitVal_digitChar {d : ℕ} (hd : d < 10) : digitVal (digitChar d) = some d := by
  revert d
  decide

lemma digitsFrom_pad (width : ℕ) {n : ℕ} (hn : n < 10 ^ width) (acc more : ℕ) (cs : List Char) :
    digitsFrom acc (width + more) (pad width n ++ cs) =
      digitsFrom (acc * 10 ^ width + n) more cs := by
  induction width generalizing n more cs with
  | zero =>
    have hzero : n = 0 := by omega
    rw [hzero, Nat.zero_add, Nat.pow_zero, Nat.mul_one, Nat.add_zero]
    rfl
  | succ width ih =>
    have hdiv : n / 10 < 10 ^ width := by
      rw [Nat.pow_succ] at hn
      omega
    have hsplit : pad (width + 1) n ++ cs = pad width (n / 10) ++ (digitChar (n % 10) :: cs) := by
      rw [pad, List.append_assoc, List.singleton_append]
    have hmore : width + 1 + more = width + (more + 1) := by omega
    have hdigit : digitVal (digitChar (n % 10)) = some (n % 10) :=
      digitVal_digitChar (Nat.mod_lt n (by decide))
    rw [hsplit, hmore, ih hdiv, digitsFrom, hdigit, Option.bind_some]
    congr 1
    have hpow : 10 * (acc * 10 ^ width) = acc * 10 ^ (width + 1) := by
      rw [Nat.pow_succ, Nat.mul_comm 10, Nat.mul_assoc]
    omega

/-- A number is read as it was written. -/
lemma digits_pad {width n : ℕ} (hn : n < 10 ^ width) (cs : List Char) :
    digits width (pad width n ++ cs) = some (n, cs) := by
  have h := digitsFrom_pad width hn 0 0 cs
  rw [Nat.zero_mul, Nat.zero_add] at h
  exact h

/-- Reads one given character. -/
def expect (c : Char) : List Char → Option (List Char)
  | [] => none
  | c' :: cs => if c' = c then some cs else none

lemma expect_cons (c : Char) (cs : List Char) : expect c (c :: cs) = some cs :=
  if_pos rfl

/-! ## Calendar times -/

/-- A calendar time to the microsecond and, if it is aware, its offset from UTC in microseconds. -/
structure Civil where
  year : ℕ
  month : ℕ
  day : ℕ
  hour : ℕ
  minute : ℕ
  second : ℕ
  microsecond : ℕ
  utcoffset : Option ℤ
  deriving DecidableEq, Repr

def isLeap (year : ℕ) : Bool :=
  year % 4 == 0 && (year % 100 != 0 || year % 400 == 0)

def daysInMonth (year month : ℕ) : ℕ :=
  if month = 2 then if isLeap year then 29 else 28
  else if month = 4 ∨ month = 6 ∨ month = 9 ∨ month = 11 then 30
  else 31

def microsPerDay : ℕ := 86400000000

structure Civil.Valid (c : Civil) : Prop where
  year : 1 ≤ c.year ∧ c.year ≤ 9999
  month : 1 ≤ c.month ∧ c.month ≤ 12
  day : 1 ≤ c.day ∧ c.day ≤ daysInMonth c.year c.month
  hour : c.hour < 24
  minute : c.minute < 60
  second : c.second < 60
  microsecond : c.microsecond < 1000000
  utcoffset : ∀ offset ∈ c.utcoffset, offset.natAbs < microsPerDay

instance (c : Civil) : Decidable c.Valid :=
  decidable_of_iff
    ((1 ≤ c.year ∧ c.year ≤ 9999) ∧ (1 ≤ c.month ∧ c.month ≤ 12) ∧
      (1 ≤ c.day ∧ c.day ≤ daysInMonth c.year c.month) ∧ c.hour < 24 ∧ c.minute < 60 ∧
      c.second < 60 ∧ c.microsecond < 1000000 ∧ ∀ offset ∈ c.utcoffset,
        offset.natAbs < microsPerDay)
    ⟨fun ⟨h1, h2, h3, h4, h5, h6, h7, h8⟩ => ⟨h1, h2, h3, h4, h5, h6, h7, h8⟩,
      fun h => ⟨h.year, h.month, h.day, h.hour, h.minute, h.second, h.microsecond, h.utcoffset⟩⟩

lemma Civil.Valid.day_lt {c : Civil} (h : c.Valid) : c.day < 100 := by
  have hday := h.day.2
  unfold daysInMonth at hday
  split_ifs at hday <;> omega

/-! ## Writing and reading -/

/-- A fraction of a second, when there is one. -/
def microsChars (micros : ℕ) : List Char :=
  if micros = 0 then [] else '.' :: pad 6 micros

def readMicros : List Char → Option (ℕ × List Char)
  | '.' :: cs => digits 6 cs
  | cs => some (0, cs)

/-- The seconds of an offset, when it has more than minutes. -/
def offsetSeconds (m : ℕ) : List Char :=
  if m % 60000000 = 0 then [] else ':' :: (pad 2 (m / 1000000 % 60) ++ microsChars (m % 1000000))

/-- An offset without its sign. -/
def offsetDigits (m : ℕ) : List Char :=
  pad 2 (m / 3600000000) ++ ':' :: (pad 2 (m / 60000000 % 60) ++ offsetSeconds m)

def offsetChars : Option ℤ → List Char
  | none => []
  | some offset => (if offset < 0 then '-' else '+') :: offsetDigits offset.natAbs

/-- The seconds of an offset and their fraction, in microseconds. -/
def readOffsetSeconds : List Char → Option (ℕ × List Char)
  | ':' :: cs => do
    let (second, cs) ← digits 2 cs
    let (micros, cs) ← readMicros cs
    some (second * 1000000 + micros, cs)
  | cs => some (0, cs)

/-- What follows the sign of an offset, in microseconds. -/
def readOffset (cs : List Char) : Option ℕ := do
  let (hour, cs) ← digits 2 cs
  let cs ← expect ':' cs
  let (minute, cs) ← digits 2 cs
  let (micros, cs) ← readOffsetSeconds cs
  if cs = [] then some (hour * 3600000000 + minute * 60000000 + micros) else none

def readUtcoffset : List Char → Option (Option ℤ)
  | [] => some none
  | '+' :: cs => (readOffset cs).map fun m : ℕ => some (m : ℤ)
  | '-' :: cs => (readOffset cs).map fun m : ℕ => some (-(m : ℤ))
  | _ => none

def Civil.chars (c : Civil) : List Char :=
  pad 4 c.year ++ '-' :: (pad 2 c.month ++ '-' :: (pad 2 c.day ++ 'T' :: (pad 2 c.hour ++
    ':' :: (pad 2 c.minute ++ ':' :: (pad 2 c.second ++ (microsChars c.microsecond ++
      offsetChars c.utcoffset))))))

def readCivil (cs : List Char) : Option Civil := do
  let (year, cs) ← digits 4 cs
  let cs ← expect '-' cs
  let (month, cs) ← digits 2 cs
  let cs ← expect '-' cs
  let (day, cs) ← digits 2 cs
  let cs ← expect 'T' cs
  let (hour, cs) ← digits 2 cs
  let cs ← expect ':' cs
  let (minute, cs) ← digits 2 cs
  let cs ← expect ':' cs
  let (second, cs) ← digits 2 cs
  let (microsecond, cs) ← readMicros cs
  let utcoffset ← readUtcoffset cs
  some ⟨year, month, day, hour, minute, second, microsecond, utcoffset⟩

/-- What comes behind a fraction does not begin with a point. -/
lemma readMicros_microsChars {micros : ℕ} (hmicros : micros < 1000000) {cs : List Char}
    (hcs : ∀ rest, cs ≠ '.' :: rest) :
    readMicros (microsChars micros ++ cs) = some (micros, cs) := by
  unfold microsChars
  split_ifs with hzero
  · rw [hzero, List.nil_append]
    unfold readMicros
    split
    case h_1 rest => exact absurd rfl (hcs rest)
    case h_2 => rfl
  · exact digits_pad hmicros cs

lemma readOffsetSeconds_offsetSeconds (m : ℕ) :
    readOffsetSeconds (offsetSeconds m) = some (m % 60000000, []) := by
  unfold offsetSeconds
  split_ifs with hzero
  · rw [hzero]
    rfl
  · have hsecond : m / 1000000 % 60 < 10 ^ 2 := by omega
    have hmicros := readMicros_microsChars (Nat.mod_lt m (by decide : 0 < 1000000))
      fun _ h => List.not_mem_nil (h ▸ List.mem_cons_self)
    rw [List.append_nil] at hmicros
    have hsum : m / 1000000 % 60 * 1000000 + m % 1000000 = m % 60000000 := by omega
    rw [readOffsetSeconds, digits_pad hsecond]
    simp only [Option.bind_eq_bind, Option.bind_some, hmicros, hsum]

lemma readOffset_offsetDigits {m : ℕ} (hm : m < microsPerDay) :
    readOffset (offsetDigits m) = some m := by
  have hhour : m / 3600000000 < 10 ^ 2 := by
    unfold microsPerDay at hm
    omega
  have hminute : m / 60000000 % 60 < 10 ^ 2 := by omega
  have hsixty : m / 3600000000 = m / 60000000 / 60 := by rw [Nat.div_div_eq_div_mul]
  have hsum : m / 3600000000 * 3600000000 + m / 60000000 % 60 * 60000000 + m % 60000000 = m := by
    omega
  rw [offsetDigits, readOffset, digits_pad hhour]
  simp only [Option.bind_eq_bind, Option.bind_some, expect_cons, digits_pad hminute,
    readOffsetSeconds_offsetSeconds, if_true, hsum]

lemma readUtcoffset_offsetChars {utcoffset : Option ℤ}
    (h : ∀ offset ∈ utcoffset, offset.natAbs < microsPerDay) :
    readUtcoffset (offsetChars utcoffset) = some utcoffset := by
  cases utcoffset with
  | none => rfl
  | some offset =>
    have hread : readOffset (offsetDigits offset.natAbs) = some offset.natAbs :=
      readOffset_offsetDigits (h offset rfl)
    by_cases hneg : offset < 0
    · have hsign : -((offset.natAbs : ℕ) : ℤ) = offset := by omega
      rw [offsetChars, if_pos hneg, readUtcoffset, hread, Option.map_some, hsign]
    · have hsign : ((offset.natAbs : ℕ) : ℤ) = offset := by omega
      rw [offsetChars, if_neg hneg, readUtcoffset, hread, Option.map_some, hsign]

lemma offsetChars_ne (utcoffset : Option ℤ) (rest : List Char) :
    offsetChars utcoffset ≠ '.' :: rest := by
  intro h
  cases utcoffset with
  | none => exact List.cons_ne_nil _ _ h.symm
  | some offset =>
    have hhead : (if offset < 0 then '-' else '+') = '.' := (List.cons.inj h).1
    by_cases hneg : offset < 0
    · rw [if_pos hneg] at hhead
      exact absurd hhead (by decide)
    · rw [if_neg hneg] at hhead
      exact absurd hhead (by decide)

/-- A valid time is read as it was written. -/
lemma readCivil_chars {c : Civil} (h : c.Valid) : readCivil c.chars = some c := by
  have hyear : c.year < 10 ^ 4 := by have := h.year; omega
  have hmonth : c.month < 10 ^ 2 := by have := h.month; omega
  have hday : c.day < 10 ^ 2 := h.day_lt
  have hhour : c.hour < 10 ^ 2 := by have := h.hour; omega
  have hminute : c.minute < 10 ^ 2 := by have := h.minute; omega
  have hsecond : c.second < 10 ^ 2 := by have := h.second; omega
  have hmicros := readMicros_microsChars h.microsecond (offsetChars_ne c.utcoffset)
  have hoffset := readUtcoffset_offsetChars h.utcoffset
  simp only [readCivil, Civil.chars, digits_pad hyear, digits_pad hmonth, digits_pad hday,
    digits_pad hhour, digits_pad hminute, digits_pad hsecond, expect_cons, hmicros, hoffset,
    Option.bind_eq_bind, Option.bind_some]

end IsoFormat

/-! ## Date and time -/

/-- A date with its time of day. -/
structure DateTime where
  civil : IsoFormat.Civil
  valid : civil.Valid
  deriving DecidableEq, Repr

namespace DateTime

open IsoFormat

def isoformat (t : DateTime) : String :=
  String.ofList t.civil.chars

/-- `fromisoformat`, of the texts that `isoformat` writes. -/
def fromisoformat (s : String) : Option DateTime :=
  (readCivil s.toList).bind fun c => if h : c.Valid then some ⟨c, h⟩ else none

theorem fromisoformat_isoformat (t : DateTime) : fromisoformat t.isoformat = some t := by
  rw [fromisoformat, isoformat, String.toList_ofList, readCivil_chars t.valid, Option.bind_some,
    dif_pos t.valid]

/-- The text of a date and time is not empty. -/
lemma isoformat_ne_empty (t : DateTime) : t.isoformat ≠ "" := by
  intro h
  have hread := fromisoformat_isoformat t
  rw [h] at hread
  exact nomatch hread

end DateTime
