import Mathlib.Logic.Function.Basic
import AssessmentEngine.Library.IsoFormat

/-!
# The calendar and the time line

Days are counted as Python counts them: day 1 is the first of January of the year 1 of the proleptic
Gregorian calendar.  An instant is a number of microseconds on that line, and every instant within
the years 1 to 9999 has its calendar time in UTC (`instant_utcCivil`).
-/

namespace IsoFormat

/-! ## Days -/

/-- `_days_before_year`. -/
def daysBeforeYear (year : ℕ) : ℕ :=
  (year - 1) * 365 + (year - 1) / 4 - (year - 1) / 100 + (year - 1) / 400

/-- The days of the months before this one, in a year that is leap or not. -/
def daysBeforeMonth (leap : Bool) (month : ℕ) : ℕ :=
  [0, 31, 59, 90, 120, 151, 181, 212, 243, 273, 304, 334].getD (month - 1) 0 +
    if 2 < month ∧ leap then 1 else 0

/-- `_ymd2ord`. -/
def ymd2ord (year month day : ℕ) : ℕ :=
  daysBeforeYear year + daysBeforeMonth (isLeap year) month + day

/-- Month and day of the `n`-th day of a year, from 0; the estimate is exact or one too large. -/
def monthDay (leap : Bool) (n : ℕ) : ℕ × ℕ :=
  let month := (n + 50) / 32
  if n < daysBeforeMonth leap month then (month - 1, n - daysBeforeMonth leap (month - 1) + 1)
  else (month, n - daysBeforeMonth leap month + 1)

/-- `_ord2ymd`. -/
def ord2ymd (ordinal : ℕ) : ℕ × ℕ × ℕ :=
  let n := ordinal - 1
  let n400 := n / 146097
  let n := n % 146097
  let n100 := n / 36524
  let n := n % 36524
  let n4 := n / 1461
  let n := n % 1461
  let n1 := n / 365
  let n := n % 365
  let year := n400 * 400 + 1 + n100 * 100 + n4 * 4 + n1
  -- the last day of a cycle of four years or of four hundred
  if n1 = 4 ∨ n100 = 4 then (year - 1, 12, 31)
  else (year, monthDay (decide (n1 = 3 ∧ (n4 ≠ 24 ∨ n100 = 3))) n)

/-- The month and the day are those of the calendar, and count the days of the year. -/
lemma monthDay_spec (leap : Bool) : ∀ n < 365 + leap.toNat,
    (1 ≤ (monthDay leap n).1 ∧ (monthDay leap n).1 ≤ 12) ∧
      (1 ≤ (monthDay leap n).2 ∧ (monthDay leap n).2 ≤
        if (monthDay leap n).1 = 2 then if leap then 29 else 28
        else if (monthDay leap n).1 = 4 ∨ (monthDay leap n).1 = 6 ∨ (monthDay leap n).1 = 9 ∨
          (monthDay leap n).1 = 11 then 30 else 31) ∧
      daysBeforeMonth leap (monthDay leap n).1 + (monthDay leap n).2 = n + 1 := by
  revert leap
  decide +kernel

section Cycles

variable {b c d : ℕ} (a : ℕ) (hb : b < 4) (hc : c < 25) (hd : d < 4)
include hb hc hd

lemma daysBeforeYear_cycles :
    daysBeforeYear (a * 400 + 1 + b * 100 + c * 4 + d) =
      a * 146097 + b * 36524 + c * 1461 + d * 365 := by
  have hpred : a * 400 + 1 + b * 100 + c * 4 + d - 1 = a * 400 + b * 100 + c * 4 + d := by omega
  have h4 : (a * 400 + b * 100 + c * 4 + d) / 4 = a * 100 + b * 25 + c := by omega
  have h100 : (a * 400 + b * 100 + c * 4 + d) / 100 = a * 4 + b := by omega
  have h400 : (a * 400 + b * 100 + c * 4 + d) / 400 = a := by omega
  rw [daysBeforeYear, hpred, h4, h100, h400]
  omega

lemma isLeap_cycles :
    isLeap (a * 400 + 1 + b * 100 + c * 4 + d) = decide (d = 3 ∧ (c ≠ 24 ∨ b = 3)) := by
  have h4 : (a * 400 + 1 + b * 100 + c * 4 + d) % 4 = 0 ↔ d = 3 := by omega
  have h100 : (a * 400 + 1 + b * 100 + c * 4 + d) % 100 = 0 ↔ d = 3 ∧ c = 24 := by omega
  have h400 : (a * 400 + 1 + b * 100 + c * 4 + d) % 400 = 0 ↔ d = 3 ∧ c = 24 ∧ b = 3 := by omega
  rw [Bool.eq_iff_iff, decide_eq_true_iff, isLeap]
  simp only [Bool.and_eq_true, Bool.or_eq_true, beq_iff_eq, bne_iff_ne, ne_eq, h4, h100, h400]
  omega

end Cycles

/-- The parts of a date that has its place in the calendar as its ordinal. -/
def IsDate (ordinal year month day : ℕ) : Prop :=
  1 ≤ year ∧ (1 ≤ month ∧ month ≤ 12) ∧ (1 ≤ day ∧ day ≤ daysInMonth year month) ∧
    ymd2ord year month day = ordinal

/-- The last day of a leap year. -/
lemma isDate_lastDay {a b c : ℕ} (hb : b < 4) (hc : c < 25) (hleap : c ≠ 24 ∨ b = 3) :
    IsDate (a * 146097 + b * 36524 + c * 1461 + 1461) (a * 400 + 1 + b * 100 + c * 4 + 3)
      12 31 := by
  refine ⟨by omega, by decide, ⟨by decide, ?_⟩, ?_⟩
  · rw [daysInMonth, if_neg (by decide), if_neg (by decide)]
  · rw [ymd2ord, daysBeforeYear_cycles a hb hc (by decide), isLeap_cycles a hb hc (by decide),
      decide_eq_true ⟨rfl, hleap⟩]
    have hbefore : daysBeforeMonth true 12 = 335 := by decide
    omega

/-- Any other day. -/
lemma isDate_monthDay {a b c d n : ℕ} (hb : b < 4) (hc : c < 25) (hd : d < 4) (hn : n < 365) :
    IsDate (a * 146097 + b * 36524 + c * 1461 + d * 365 + n + 1)
      (a * 400 + 1 + b * 100 + c * 4 + d)
      (monthDay (decide (d = 3 ∧ (c ≠ 24 ∨ b = 3))) n).1
      (monthDay (decide (d = 3 ∧ (c ≠ 24 ∨ b = 3))) n).2 := by
  have hleap := isLeap_cycles a hb hc hd
  rw [← hleap]
  obtain ⟨hmonth, hday, hsum⟩ :=
    monthDay_spec (isLeap (a * 400 + 1 + b * 100 + c * 4 + d)) n (by omega)
  refine ⟨by omega, hmonth, hday, ?_⟩
  rw [ymd2ord, daysBeforeYear_cycles a hb hc hd]
  omega

/-- Every day has its date. -/
lemma isDate_ord2ymd {ordinal : ℕ} (h : 1 ≤ ordinal) :
    IsDate ordinal (ord2ymd ordinal).1 (ord2ymd ordinal).2.1 (ord2ymd ordinal).2.2 := by
  unfold ord2ymd
  dsimp only
  generalize ha : (ordinal - 1) / 146097 = a
  generalize hb : (ordinal - 1) % 146097 / 36524 = b
  generalize hc : (ordinal - 1) % 146097 % 36524 / 1461 = c
  generalize hd : (ordinal - 1) % 146097 % 36524 % 1461 / 365 = d
  generalize hn : (ordinal - 1) % 146097 % 36524 % 1461 % 365 = n
  by_cases hlast : d = 4 ∨ b = 4
  · rw [if_pos hlast]
    by_cases hb4 : b = 4
    · have hordinal : ordinal = a * 146097 + 3 * 36524 + 24 * 1461 + 1461 := by omega
      have hyear : a * 400 + 1 + b * 100 + c * 4 + d - 1 = a * 400 + 1 + 3 * 100 + 24 * 4 + 3 := by
        omega
      have hdate := isDate_lastDay (a := a) (b := 3) (c := 24) (by decide) (by decide) (.inr rfl)
      rw [← hordinal, ← hyear] at hdate
      exact hdate
    · have hordinal : ordinal = a * 146097 + b * 36524 + c * 1461 + 1461 := by omega
      have hyear : a * 400 + 1 + b * 100 + c * 4 + d - 1 = a * 400 + 1 + b * 100 + c * 4 + 3 := by
        omega
      rw [hordinal, hyear]
      exact isDate_lastDay (by omega) (by omega) (.inl (by omega))
  · rw [if_neg hlast]
    have hordinal : ordinal = a * 146097 + b * 36524 + c * 1461 + d * 365 + n + 1 := by omega
    rw [hordinal]
    exact isDate_monthDay (by omega) (by omega) (by omega) (by omega)

/-! ## Instants -/

/-- The ordinal of the last day of the year 9999. -/
def maxOrdinal : ℕ := 3652059

/-- The year has four digits up to the last day. -/
lemma IsDate.year_le {ordinal year month day : ℕ} (h : IsDate ordinal year month day)
    (hmax : ordinal ≤ maxOrdinal) : year ≤ 9999 := by
  obtain ⟨hyear, -, ⟨hday, -⟩, hord⟩ := h
  unfold maxOrdinal at hmax
  unfold ymd2ord daysBeforeYear at hord
  omega

/-- The microseconds of a calendar time on the time line; a time without offset is taken as UTC. -/
def Civil.instant (c : Civil) : ℤ :=
  ((ymd2ord c.year c.month c.day * 86400 + c.hour * 3600 + c.minute * 60 + c.second) * 1000000 +
    c.microsecond : ℕ) - c.utcoffset.getD 0

/-- The calendar time of an instant in UTC. -/
def utcCivil (i : ℤ) : Civil :=
  let date := ord2ymd (i / 86400000000).toNat
  let time := (i % 86400000000).toNat
  { year := date.1
    month := date.2.1
    day := date.2.2
    hour := time / 3600000000
    minute := time / 60000000 % 60
    second := time / 1000000 % 60
    microsecond := time % 1000000
    utcoffset := some 0 }

/-- The instants that have a calendar time. -/
def InRange (i : ℤ) : Prop :=
  1 ≤ i / 86400000000 ∧ i / 86400000000 ≤ maxOrdinal

instance (i : ℤ) : Decidable (InRange i) :=
  inferInstanceAs (Decidable (_ ∧ _))

lemma isDate_utcCivil {i : ℤ} (h : InRange i) :
    IsDate (i / 86400000000).toNat (utcCivil i).year (utcCivil i).month (utcCivil i).day := by
  have hpos := h.1
  exact isDate_ord2ymd (by omega)

lemma valid_utcCivil {i : ℤ} (h : InRange i) : (utcCivil i).Valid := by
  have hdate := isDate_utcCivil h
  have hmax : (i / 86400000000).toNat ≤ maxOrdinal := by
    have := h.2
    omega
  exact
    { year := ⟨hdate.1, hdate.year_le hmax⟩
      month := hdate.2.1
      day := hdate.2.2.1
      hour := by simp only [utcCivil]; omega
      minute := Nat.mod_lt _ (by decide)
      second := Nat.mod_lt _ (by decide)
      microsecond := Nat.mod_lt _ (by decide)
      utcoffset := by
        rintro _ ⟨⟩
        decide }

/-- An instant is that of its calendar time. -/
lemma instant_utcCivil {i : ℤ} (h : InRange i) : (utcCivil i).instant = i := by
  have hord : ymd2ord (utcCivil i).year (utcCivil i).month (utcCivil i).day =
      (i / 86400000000).toNat := (isDate_utcCivil h).2.2.2
  have hpos := h.1
  rw [Civil.instant, hord]
  simp only [utcCivil, Option.getD_some]
  omega

/-- `replace(second=0, microsecond=0)`. -/
def Civil.truncateMinute (c : Civil) : Civil :=
  { c with second := 0, microsecond := 0 }

lemma Civil.Valid.truncateMinute {c : Civil} (h : c.Valid) : c.truncateMinute.Valid :=
  { h with second := Nat.zero_lt_succ 59, microsecond := Nat.zero_lt_succ 999999 }

/-- The whole minutes of an instant. -/
def minuteOf (i : ℤ) : ℤ := i / 60000000

lemma Civil.instant_truncateMinute (c : Civil) :
    c.truncateMinute.instant = c.instant - (c.second * 1000000 + c.microsecond : ℕ) := by
  simp only [Civil.instant, Civil.truncateMinute]
  omega

/-- The seconds of the calendar time, with their fraction, are those since the last minute. -/
lemma second_utcCivil {i : ℤ} (h : InRange i) :
    (((utcCivil i).second * 1000000 + (utcCivil i).microsecond : ℕ) : ℤ) = i % 60000000 := by
  have hpos := h.1
  simp only [utcCivil]
  omega

/-- A time in UTC is cut at its minute. -/
lemma instant_truncateMinute {i : ℤ} (h : InRange i) :
    (utcCivil i).truncateMinute.instant = 60000000 * minuteOf i := by
  rw [Civil.instant_truncateMinute, instant_utcCivil h, second_utcCivil h, minuteOf]
  omega

/-- Instants of one minute have one calendar time up to the minute. -/
lemma truncateMinute_utcCivil {i j : ℤ} (h : minuteOf i = minuteOf j) :
    (utcCivil i).truncateMinute = (utcCivil j).truncateMinute := by
  unfold minuteOf at h
  have hday : i / 86400000000 = j / 86400000000 := by omega
  have hhour : (i % 86400000000).toNat / 3600000000 = (j % 86400000000).toNat / 3600000000 := by
    omega
  have hminute : (i % 86400000000).toNat / 60000000 % 60 =
      (j % 86400000000).toNat / 60000000 % 60 := by omega
  simp only [Civil.truncateMinute, utcCivil, hday, hhour, hminute]

end IsoFormat

namespace DateTime

open IsoFormat

def instant (t : DateTime) : ℤ :=
  t.civil.instant

/-- The UTC time of an instant, where the calendar has one. -/
def ofInstant (i : ℤ) : Option DateTime :=
  if h : InRange i then some ⟨utcCivil i, valid_utcCivil h⟩ else none

/-- `astimezone(UTC)` of an aware time; `none` is the overflow error. -/
def astimezoneUtc (t : DateTime) : Option DateTime :=
  ofInstant t.instant

/-- `replace(tzinfo=UTC)`. -/
def replaceTzinfoUtc (t : DateTime) : DateTime where
  civil := { t.civil with utcoffset := some 0 }
  valid := { t.valid with
    utcoffset := by
      rintro _ ⟨⟩
      decide }

def truncateMinute (t : DateTime) : DateTime :=
  ⟨t.civil.truncateMinute, t.valid.truncateMinute⟩

/-- The whole minutes of a time in UTC. -/
def utcMinute (t : DateTime) : ℤ :=
  minuteOf t.instant

/-- A naive time read as UTC stays where it was. -/
lemma instant_replaceTzinfoUtc {t : DateTime} (h : t.civil.utcoffset = none) :
    t.replaceTzinfoUtc.instant = t.instant := by
  simp only [instant, Civil.instant, replaceTzinfoUtc, h, Option.getD_some, Option.getD_none]

/-- A time in UTC without seconds. -/
def WholeMinute (t : DateTime) : Prop :=
  ∃ i, InRange i ∧ t.civil = (utcCivil i).truncateMinute

lemma utcMinute_of_civil_eq {t : DateTime} {i : ℤ} (hi : InRange i)
    (h : t.civil = (utcCivil i).truncateMinute) : t.utcMinute = minuteOf i := by
  rw [utcMinute, instant, h, instant_truncateMinute hi, minuteOf,
    Int.mul_ediv_cancel_left _ (by decide)]

/-- Such a time is told by its minute. -/
lemma WholeMinute.eq_of_utcMinute_eq {t u : DateTime} (ht : t.WholeMinute) (hu : u.WholeMinute)
    (h : t.utcMinute = u.utcMinute) : t = u := by
  obtain ⟨i, hi, htc⟩ := ht
  obtain ⟨j, hj, huc⟩ := hu
  rw [utcMinute_of_civil_eq hi htc, utcMinute_of_civil_eq hj huc] at h
  have hcivil : t.civil = u.civil := by rw [htc, huc, truncateMinute_utcCivil h]
  cases t
  cases u
  cases hcivil
  rfl

/-- In UTC and cut at its minute, a time keeps its minute. -/
lemma truncateMinute_astimezoneUtc {t u : DateTime}
    (h : t.astimezoneUtc.map truncateMinute = some u) :
    u.WholeMinute ∧ u.utcMinute = t.utcMinute := by
  obtain ⟨v, hv, rfl⟩ := Option.map_eq_some_iff.mp h
  rw [astimezoneUtc, ofInstant] at hv
  split_ifs at hv with hrange
  obtain rfl := Option.some.inj hv
  exact ⟨⟨t.instant, hrange, rfl⟩, utcMinute_of_civil_eq hrange rfl⟩

lemma isoformat_injective : Function.Injective isoformat := by
  intro t u h
  have hread := congrArg fromisoformat h
  rw [fromisoformat_isoformat, fromisoformat_isoformat] at hread
  exact Option.some.inj hread

end DateTime
