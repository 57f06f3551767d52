import AssessmentEngine.Library.Calendar
import AssessmentEngine.Mappers.OsEol

/-!
# The shipped catalogue

The releases of `os_eol_catalog.json`, product by product.  For every operating system, version and
kernel build the support only gets worse from day to day, and is what the returned dates say
(`lookupOsEol_shipped`).  Of several releases with one build the mildest is taken while the dates
are those of the last to end; the catalogue has no release that is milder than that one on any day.
-/

namespace AssessmentEngine

open IsoFormat

/-- `date.fromisoformat` of a date in the form `YYYY-MM-DD`, as the number of the day. -/
def isoDay (iso : String) : Option ℕ := do
  let (year, cs) ← digits 4 iso.toList
  let cs ← expect '-' cs
  let (month, cs) ← digits 2 cs
  let cs ← expect '-' cs
  let (day, cs) ← digits 2 cs
  if cs = [] ∧ 1 ≤ year ∧ 1 ≤ month ∧ month ≤ 12 ∧ 1 ≤ day ∧ day ≤ daysInMonth year month then
    some (ymd2ord year month day)
  else none

/-- A date of the catalogue; all of them are read (`releases_dates`). -/
def catalogDate (iso : String) : CalendarDate := ⟨iso, ((isoDay iso).getD 0 : ℕ)⟩

def release (cycle eol : String) (support extendedSupport build : Option String) : EolEntry where
  cycle
  eol := catalogDate eol
  support := support.map catalogDate
  extendedSupport := extendedSupport.map catalogDate
  build

/-! ## Releases -/

def debianReleases : List EolEntry :=
  [release "13" "2028-08-09" none "2030-06-30" none,
    release "12" "2026-07-11" none "2028-06-30" none,
    release "11" "2024-08-14" none "2026-08-31" none,
    release "10" "2022-09-10" none "2024-06-30" none,
    release "9" "2020-07-18" none "2022-07-01" none,
    release "8" "2018-06-17" none "2020-06-30" none,
    release "7" "2016-04-25" none "2018-05-31" none,
    release "6" "2014-05-31" none "2016-02-29" none,
    release "5" "2012-02-06" none "2012-02-06" none,
    release "4" "2010-02-15" none "2010-02-15" none,
    release "3.1" "2008-03-31" none "2008-03-31" none,
    release "3.0" "2006-06-30" none "2006-06-30" none,
    release "2.2" "2003-06-30" none "2003-06-30" none,
    release "2.1" "2000-09-30" none "2000-10-30" none,
    release "2.0" "1999-02-15" none "1999-02-15" none,
    release "1.3" "1998-12-08" none "1998-12-08" none,
    release "1.2" "1997-10-23" none "1997-10-23" none,
    release "1.1" "1996-12-12" none "1996-12-12" none]

def ubuntuReleases : List EolEntry :=
  [release "26.04" "2031-04-30" "2031-04-30" "2036-04-30" none,
    release "25.10" "2026-07-01" "2026-07-01" none none,
    release "25.04" "2026-01-17" "2026-01-17" none none,
    release "24.10" "2025-07-10" "2025-07-10" none none,
    release "24.04" "2029-05-31" "2029-05-31" "2036-05-31" none,
    release "23.10" "2024-07-12" "2024-07-12" none none,
    release "23.04" "2024-01-20" "2024-01-20" none none,
    release "22.10" "2023-07-20" "2023-07-20" none none,
    release "22.04" "2027-04-01" "2024-09-30" "2032-04-09" none,
    release "21.10" "2022-07-14" "2022-07-14" none none,
    release "21.04" "2022-01-20" "2022-01-20" none none,
    release "20.10" "2021-07-22" "2021-07-22" none none,
    release "20.04" "2025-05-31" "2022-10-01" "2030-04-02" none,
    release "19.10" "2020-07-06" "2020-07-06" none none,
    release "19.04" "2020-01-23" "2020-01-23" none none,
    release "18.10" "2019-07-18" "2019-07-18" none none,
    release "18.04" "2023-05-31" "2023-05-31" "2028-04-01" none,
    release "17.10" "2018-07-19" "2018-07-19" none none,
    release "17.04" "2018-01-13" "2018-01-13" none none,
    release "16.10" "2017-07-20" "2017-07-20" none none,
    release "16.04" "2021-04-02" "2021-04-02" "2026-04-02" none,
    release "15.10" "2016-07-28" "2016-07-28" none none,
    release "15.04" "2016-02-04" "2016-02-04" none none,
    release "14.10" "2015-07-23" "2015-07-23" none none,
    release "14.04" "2019-04-02" "2019-04-02" "2024-04-02" none,
    release "13.10" "2014-07-17" "2014-07-17" none none,
    release "13.04" "2014-01-27" "2014-01-27" none none,
    release "12.10" "2014-05-16" "2014-05-16" none none,
    release "12.04" "2017-04-28" "2017-04-28" "2019-04-26" none,
    release "11.10" "2013-05-09" "2013-05-09" none none,
    release "11.04" "2012-10-28" "2012-10-28" none none,
    release "10.10" "2012-04-10" "2012-04-10" none none,
    release "10.04" "2013-05-09" "2013-05-09" none none,
    release "9.10" "2011-04-30" "2011-04-30" none none,
    release "9.04" "2010-10-23" "2010-10-23" none none,
    release "8.10" "2010-04-30" "2010-04-30" none none,
    release "8.04" "2013-05-09" "2013-05-09" none none,
    release "7.10" "2009-04-18" "2009-04-18" none none,
    release "7.04" "2008-10-19" "2008-10-19" none none,
    release "6.10" "2008-04-26" "2006-10-26" none none,
    release "6.06" "2011-06-01" "2011-06-01" none none,
    release "5.10" "2007-04-13" "2007-04-13" none none,
    release "5.04" "2006-10-31" "2006-10-31" none none,
    release "4.10" "2006-04-30" "2004-10-26" none none]

def rhelReleases : List EolEntry :=
  [release "10" "2035-05-31" "2030-05-31" "2039-05-31" none,
    release "9" "2032-05-31" "2027-05-31" "2036-05-31" none,
    release "8" "2029-05-31" "2024-05-31" "2033-05-31" none,
    release "7" "2024-06-30" "2019-08-06" "2029-05-31" none,
    release "6" "2020-11-30" "2016-05-10" "2024-06-30" none,
    release "5" "2017-03-31" "2013-01-08" "2020-11-30" none,
    release "4" "2012-02-29" "2009-03-31" "2017-03-31" none]

def rockyLinuxReleases : List EolEntry :=
  [release "10" "2035-05-31" "2030-05-31" none none,
    release "9" "2032-05-31" "2027-05-31" none none,
    release "8" "2029-05-31" "2024-05-31" none none]

def almalinuxReleases : List EolEntry :=
  [release "10" "2035-05-31" "2030-05-31" none none,
    release "9" "2032-05-31" "2027-05-31" none none,
    release "8" "2029-05-31" "2024-05-31" none none]

def centosReleases : List EolEntry :=
  [release "8" "2021-12-31" "2021-12-31" none none,
    release "7" "2024-06-30" "2020-08-06" none none,
    release "6" "2020-11-30" "2017-05-10" none none,
    release "5" "2017-03-31" "2014-01-31" none none]

def centosStreamReleases : List EolEntry :=
  [release "10" "2030-05-31" "2030-05-31" none none,
    release "9" "2027-05-31" "2027-05-31" none none,
    release "8" "2024-05-31" "2024-05-31" none none]

def slesReleases : List EolEntry :=
  [release "16.0" "2027-11-30" none "2030-11-30" none,
    release "15.7" "2031-07-31" none "2034-07-31" none,
    release "15.6" "2025-12-31" none "2028-12-31" none,
    release "15.5" "2024-12-31" none "2027-12-31" none,
    release "15.4" "2023-12-31" none "2026-12-31" none,
    release "15.3" "2022-12-31" none "2025-12-31" none,
    release "15.2" "2021-12-31" none "2024-12-31" none,
    release "12.5" "2024-10-31" none "2027-10-31" none,
    release "15.1" "2021-01-31" none "2024-01-31" none,
    release "12.4" "2020-06-30" none "2023-06-30" none,
    release "15.0" "2019-12-31" none "2022-12-31" none,
    release "12.3" "2019-06-30" none "2022-06-30" none,
    release "12.2" "2018-03-31" none "2021-03-31" none,
    release "12.1" "2017-05-31" none "2020-05-31" none,
    release "11.4" "2019-03-31" none "2022-03-31" none,
    release "12.0" "2016-06-30" none "2019-07-01" none,
    release "11.3" "2016-01-31" none "2019-01-30" none,
    release "11.2" "2014-01-31" none "2017-01-30" none,
    release "10.4" "2013-07-31" none "2016-07-30" none,
    release "11.1" "2012-08-31" none "2015-08-30" none,
    release "10.3" "2011-10-11" none "2014-10-31" none,
    release "11.0" "2010-12-31" none "2010-12-31" none,
    release "10.2" "2010-04-11" none "2013-04-10" none,
    release "10.1" "2008-11-30" none "2010-12-31" none,
    release "10.0" "2007-12-31" none "2007-12-31" none]

def opensuseReleases : List EolEntry :=
  [release "16.0" "2027-10-31" none none none, release "15.6" "2026-04-30" none none none,
    release "15.5" "2024-12-31" none none none, release "15.4" "2023-12-07" none none none,
    release "15.3" "2022-12-31" none none none, release "15.2" "2022-01-04" none none none,
    release "15.1" "2021-02-02" none none none, release "15.0" "2019-12-03" none none none,
    release "42.3" "2019-07-01" none none none, release "42.2" "2018-01-26" none none none,
    release "42.1" "2017-05-17" none none none, release "13.2" "2017-01-17" none none none,
    release "13.1" "2016-02-03" none none none, release "12.3" "2015-01-29" none none none,
    release "12.2" "2014-01-15" none none none, release "12.1" "2013-05-15" none none none,
    release "11.4" "2012-11-05" none none none, release "11.3" "2012-01-20" none none none,
    release "11.2" "2011-05-12" none none none, release "11.1" "2011-01-14" none none none,
    release "11.0" "2010-07-26" none none none]

def amazonLinuxReleases : List EolEntry :=
  [release "2023" "2029-06-30" "2027-06-30" none none,
    release "2" "2026-06-30" "2026-06-30" none none,
    release "2018.03" "2023-12-31" "2020-12-31" none none,
    release "2017.09" "2023-12-31" "2020-12-31" none none,
    release "2017.03" "2023-12-31" "2020-12-31" none none,
    release "2016.09" "2023-12-31" "2020-12-31" none none,
    release "2016.03" "2023-12-31" "2020-12-31" none none,
    release "2015.09" "2023-12-31" "2020-12-31" none none,
    release "2015.03" "2023-12-31" "2020-12-31" none none,
    release "2014.09" "2023-12-31" "2020-12-31" none none,
    release "2014.03" "2023-12-31" "2020-12-31" none none,
    release "2013.09" "2023-12-31" "2020-12-31" none none,
    release "2013.03" "2023-12-31" "2020-12-31" none none,
    release "2012.09" "2023-12-31" "2020-12-31" none none,
    release "2012.03" "2023-12-31" "2020-12-31" none none,
    release "2011.09" "2023-12-31" "2020-12-31" none none,
    release "2010.11" "2023-12-31" "2020-12-31" none none]

def fedoraReleases : List EolEntry :=
  [release "44" "2027-06-02" none none none, release "43" "2026-12-09" none none none,
    release "42" "2026-05-27" none none none, release "41" "2025-12-15" none none none,
    release "40" "2025-05-13" none none none, release "39" "2024-11-26" none none none,
    release "38" "2024-05-21" none none none, release "37" "2023-12-05" none none none,
    release "36" "2023-05-16" none none none, release "35" "2022-12-13" none none none,
    release "34" "2022-06-07" none none none, release "33" "2021-11-30" none none none,
    release "32" "2021-05-25" none none none, release "31" "2020-11-24" none none none,
    release "30" "2020-05-26" none none none, release "29" "2019-11-26" none none none,
    release "28" "2019-05-28" none none none, release "27" "2018-11-30" none none none,
    release "26" "2018-05-29" none none none, release "25" "2017-12-12" none none none,
    release "24" "2017-08-08" none none none, release "23" "2016-12-20" none none none,
    release "22" "2016-07-19" none none none, release "21" "2015-12-01" none none none,
    release "20" "2015-06-23" none none none, release "19" "2015-01-06" none none none,
    release "18" "2014-01-14" none none none, release "17" "2013-07-30" none none none,
    release "16" "2013-02-12" none none none, release "15" "2012-06-26" none none none,
    release "14" "2011-12-09" none none none, release "13" "2011-06-24" none none none,
    release "12" "2010-12-02" none none none, release "11" "2010-06-25" none none none,
    release "10" "2009-12-17" none none none, release "9" "2009-07-10" none none none,
    release "8" "2009-01-07" none none none, release "7" "2008-06-13" none none none,
    release "6" "2007-12-07" none none none, release "5" "2007-07-02" none none none,
    release "4" "2006-08-07" none none none, release "3" "2006-01-16" none none none,
    release "2" "2005-04-11" none none none, release "1" "2004-09-20" none none none]

def oracleLinuxReleases : List EolEntry :=
  [release "9" "2032-06-30" none "2035-06-30" none,
    release "8" "2029-07-31" none "2032-07-31" none,
    release "7" "2024-12-31" none "2028-06-30" none,
    release "6" "2021-03-31" none "2024-12-31" none]

def windowsServerReleases : List EolEntry :=
  [release "2025" "2034-11-14" "2029-11-13" none "26100",
    release "23h2-ac" "2025-10-24" "2025-04-24" none "25398",
    release "2022" "2031-10-14" "2026-10-13" none "20348",
    release "20h2-sac" "2022-08-09" "2022-08-09" none "19042",
    release "2004-sac" "2021-12-14" "2021-12-14" none "19041",
    release "1909-sac" "2021-05-11" "2021-05-11" none "18363",
    release "1903-sac" "2020-12-08" "2020-12-08" none "18362",
    release "1809-sac" "2020-11-10" "2020-11-10" none "17763",
    release "2019" "2029-01-09" "2024-01-09" none "17763",
    release "1803-sac" "2019-11-12" "2019-11-12" none "17134",
    release "1709-sac" "2019-04-09" "2019-04-09" none "16299",
    release "2016" "2027-01-12" "2022-01-11" "2030-01-12" "14393",
    release "2012-r2" "2023-10-10" "2018-10-09" "2026-10-13" "9600",
    release "2012" "2023-10-10" "2018-10-09" "2026-10-13" "9200",
    release "2008-r2-sp1" "2020-01-14" "2015-01-13" "2023-01-10" "7601",
    release "2008-sp2" "2020-01-14" "2015-01-13" "2023-01-10" "6003",
    release "2003-sp2" "2015-07-14" "2010-07-13" none "3790",
    release "2003-sp1" "2009-04-14" "2009-04-14" none "3790",
    release "2003" "2007-04-10" "2007-04-10" none "3790",
    release "2000" "2010-07-13" "2005-06-30" none "2195"]
/-- `_EOL_CATALOG`. -/
def shippedCatalog : EolCatalog
  | "debian" => debianReleases
  | "ubuntu" => ubuntuReleases
  | "rhel" => rhelReleases
  | "rocky-linux" => rockyLinuxReleases
  | "almalinux" => almalinuxReleases
  | "centos" => centosReleases
  | "centos-stream" => centosStreamReleases
  | "sles" => slesReleases
  | "opensuse" => opensuseReleases
  | "amazon-linux" => amazonLinuxReleases
  | "fedora" => fedoraReleases
  | "oracle-linux" => oracleLinuxReleases
  | "windows-server" => windowsServerReleases
  | _ => []

/-- `lookup_os_eol`. -/
def lookupOsEol (catalog : EolCatalog) (osId osVersion kernelVersion : Option String)
    (today : ℤ) : Option OsEolInfo :=
  eolInfo catalog osId osVersion kernelVersion today

/-- The products of the catalogue. -/
def products : List String :=
  ["debian", "ubuntu", "rhel", "rocky-linux", "almalinux", "centos", "centos-stream", "sles",
    "opensuse", "amazon-linux", "fedora", "oracle-linux", "windows-server"]

/-- Every date of the catalogue is read. -/
lemma releases_dates : ∀ product ∈ products, ∀ e ∈ shippedCatalog product,
    (isoDay e.eol.iso).isSome = true ∧ (∀ d ∈ e.support, (isoDay d.iso).isSome = true) ∧
      ∀ d ∈ e.extendedSupport, (isoDay d.iso).isSome = true := by
  decide +kernel

/-! ## From day to day -/

/-- The status that the returned dates give. -/
def OsEolInfo.statusOn (info : OsEolInfo) (today : ℤ) : EolStatus :=
  classifyEol ⟨info.label, info.eol, info.support, info.extendedSupport, none⟩ today

lemma severity_injective : Function.Injective EolStatus.severity := by
  intro a b h
  cases a <;> cases b <;> first | rfl | exact absurd h (by decide)

lemma severity_le_ended (s : EolStatus) : s.severity ≤ EolStatus.ended.severity := by
  cases s <;> decide

lemma passed_iff {limit : Option CalendarDate} {day : ℤ} :
    (limit.any fun d => decide (d.day ≤ day)) = true ↔ ∃ d ∈ limit, d.day ≤ day := by
  cases limit <;> simp

/-- A limit that has passed stays passed, so that the status of a release only gets worse. -/
lemma classifyEol_mono (e : EolEntry) {day day' : ℤ} (h : day ≤ day') :
    (classifyEol e day).severity ≤ (classifyEol e day').severity := by
  have hpasses : ∀ limit : Option CalendarDate,
      (limit.any fun d => decide (d.day ≤ day)) = true →
        (limit.any fun d => decide (d.day ≤ day')) = true := by
    intro limit hlimit
    obtain ⟨d, hd, hle⟩ := passed_iff.mp hlimit
    exact passed_iff.mpr ⟨d, hd, Int.le_trans hle h⟩
  unfold classifyEol
  by_cases hpaid : (e.extendedSupport.any fun d => decide (d.day ≤ day')) = true
  · rw [if_pos hpaid]
    exact severity_le_ended _
  rw [if_neg hpaid, if_neg (mt (hpasses _) hpaid)]
  by_cases hfree : e.eol.day ≤ day'
  · rw [if_pos hfree]
    split_ifs <;> decide
  have hfree' : ¬e.eol.day ≤ day := fun hle => hfree (Int.le_trans hle h)
  rw [if_neg hfree, if_neg hfree']
  by_cases hsupport : (e.support.any fun d => decide (d.day ≤ day)) = true
  · rw [if_pos hsupport, if_pos (hpasses _ hsupport)]
  · rw [if_neg hsupport]
    exact Nat.zero_le _

/-- Dates and label do not depend on the day. -/
lemma eolInfo_dates {catalog : EolCatalog} {osId osVersion kernelVersion : Option String}
    {day : ℤ} {info : OsEolInfo}
    (h : eolInfo catalog osId osVersion kernelVersion day = some info) (day' : ℤ) :
    ∃ info', eolInfo catalog osId osVersion kernelVersion day' = some info' ∧
      info'.eol = info.eol ∧ info'.support = info.support ∧
      info'.extendedSupport = info.extendedSupport := by
  unfold eolInfo at h ⊢
  split at h
  · exact absurd h (by simp)
  · exact absurd h (by simp)
  · simp only at h ⊢
    split at h
    · exact absurd h (by simp)
    · rw [← Option.some_inj.mp h]
      exact ⟨_, rfl, rfl, rfl, rfl⟩
  · obtain ⟨product, hproduct, h⟩ := Option.bind_eq_some_iff.mp h
    obtain ⟨e, he, rfl⟩ := Option.map_eq_some_iff.mp h
    refine ⟨_, Option.bind_eq_some_iff.mpr ⟨product, hproduct,
      Option.map_eq_some_iff.mpr ⟨e, he, rfl⟩⟩, rfl, rfl, rfl⟩

/-! ## Several releases of one build -/

/-- On every day the first release is as mild as the second. -/
def Outlives (rep e : EolEntry) : Prop :=
  rep = e ∨ (rep.extendedSupport = none ∧ e.extendedSupport = none ∧ e.eol.day ≤ rep.eol.day ∧
    ∀ d ∈ rep.support, ∃ d' ∈ e.support, d'.day ≤ d.day)

instance (rep e : EolEntry) : Decidable (Outlives rep e) :=
  inferInstanceAs (Decidable (rep = e ∨ _))

lemma Outlives.severity_le {rep e : EolEntry} (h : Outlives rep e) (day : ℤ) :
    (classifyEol rep day).severity ≤ (classifyEol e day).severity := by
  rcases h with rfl | ⟨hrep, he, heol, hsupport⟩
  · exact le_rfl
  unfold classifyEol
  rw [hrep, he, Option.any_none, if_neg Bool.false_ne_true, if_neg Bool.false_ne_true]
  by_cases hended : e.eol.day ≤ day
  · rw [if_pos hended, Option.isSome_none, if_neg Bool.false_ne_true]
    exact severity_le_ended _
  have hended' : ¬rep.eol.day ≤ day := fun hle => hended (Int.le_trans heol hle)
  rw [if_neg hended, if_neg hended']
  by_cases hpassed : (rep.support.any fun d => decide (d.day ≤ day)) = true
  · obtain ⟨d, hd, hle⟩ := passed_iff.mp hpassed
    obtain ⟨d', hd', hle'⟩ := hsupport d hd
    rw [if_pos hpassed, if_pos (passed_iff.mpr ⟨d', hd', Int.le_trans hle' hle⟩)]
  · rw [if_neg hpassed]
    exact Nat.zero_le _

lemma mildestStatus_spec (first : EolStatus) (rest : List EolStatus) :
    mildestStatus first rest ∈ first :: rest ∧
      ∀ s ∈ first :: rest, (mildestStatus first rest).severity ≤ s.severity := by
  unfold mildestStatus
  induction rest generalizing first with
  | nil => simp
  | cons s rest ih =>
    rw [List.foldl_cons]
    obtain ⟨hmem, hle⟩ := List.forall_mem_cons.mp (ih _).2
    constructor
    · rcases List.mem_cons.mp (ih (if s.severity < first.severity then s else first)).1 with
        heq | hmem
      · rw [heq]
        split_ifs <;> simp
      · exact List.mem_cons_of_mem _ (List.mem_cons_of_mem _ hmem)
    · refine List.forall_mem_cons.mpr ⟨le_trans hmem ?_, List.forall_mem_cons.mpr
        ⟨le_trans hmem ?_, hle⟩⟩
      · split_ifs with hlt
        · exact le_of_lt hlt
        · exact le_rfl
      · split_ifs with hlt
        · exact le_rfl
        · exact not_lt.mp hlt

lemma latestEol_spec (first : EolEntry) (rest : List EolEntry) :
    latestEol first rest ∈ first :: rest ∧
      ∀ e ∈ first :: rest, e.eol.iso ≤ (latestEol first rest).eol.iso := by
  unfold latestEol
  induction rest generalizing first with
  | nil => simp
  | cons e rest ih =>
    rw [List.foldl_cons]
    obtain ⟨hmem, hle⟩ := List.forall_mem_cons.mp (ih _).2
    constructor
    · rcases List.mem_cons.mp (ih (if first.eol.iso < e.eol.iso then e else first)).1 with
        heq | hmem
      · rw [heq]
        split_ifs <;> simp
      · exact List.mem_cons_of_mem _ (List.mem_cons_of_mem _ hmem)
    · refine List.forall_mem_cons.mpr ⟨String.le_trans ?_ hmem, List.forall_mem_cons.mpr
        ⟨String.le_trans ?_ hmem, hle⟩⟩
      · split_ifs with hlt
        · exact String.not_lt.mp fun h => String.lt_asymm hlt h
        · exact String.le_refl _
      · split_ifs with hlt
        · exact String.le_refl _
        · exact String.not_lt.mp hlt

/-- Of the releases with one build the last to end is the mildest on every day. -/
lemma windowsServer_outlives : ∀ e ∈ windowsServerReleases, ∀ rep ∈ windowsServerReleases,
    e.build = rep.build → e.eol.iso ≤ rep.eol.iso → Outlives rep e := by
  decide +kernel

/-- The status of a build is that of its last release. -/
lemma mildestStatus_eq {build : String} {first : EolEntry} {rest : List EolEntry}
    (hfilter : ((shippedCatalog "windows-server").filter fun e => decide (e.build = some build)) =
      first :: rest) (day : ℤ) :
    mildestStatus (classifyEol first day) (rest.map (classifyEol · day)) =
      classifyEol (latestEol first rest) day := by
  have hmem : ∀ e ∈ first :: rest, e ∈ windowsServerReleases ∧ e.build = some build := by
    intro e he
    obtain ⟨he, hbuild⟩ := List.mem_filter.mp (hfilter ▸ he)
    exact ⟨he, of_decide_eq_true hbuild⟩
  obtain ⟨hrep, hlast⟩ := latestEol_spec first rest
  obtain ⟨hmild, hle⟩ := mildestStatus_spec (classifyEol first day)
    (rest.map (classifyEol · day))
  rw [← List.map_cons (f := (classifyEol · day))] at hmild hle
  obtain ⟨e, he, heq⟩ := List.mem_map.mp hmild
  refine severity_injective (le_antisymm (hle _ (List.mem_map_of_mem hrep)) ?_)
  rw [← heq]
  exact (windowsServer_outlives e (hmem e he).1 _ (hmem _ hrep).1
    ((hmem e he).2.trans (hmem _ hrep).2.symm) (hlast e he)).severity_le day

lemma status_eq_statusOn {osId osVersion kernelVersion : Option String} {day : ℤ}
    {info : OsEolInfo}
    (h : lookupOsEol shippedCatalog osId osVersion kernelVersion day = some info) :
    info.status = info.statusOn day := by
  unfold lookupOsEol eolInfo at h
  split at h
  · exact absurd h (by simp)
  · exact absurd h (by simp)
  · simp only at h
    split at h
    · exact absurd h (by simp)
    · rename_i first rest hfilter
      rw [← Option.some_inj.mp h]
      exact mildestStatus_eq hfilter day
  · obtain ⟨product, hproduct, h⟩ := Option.bind_eq_some_iff.mp h
    obtain ⟨e, he, rfl⟩ := Option.map_eq_some_iff.mp h
    rfl

/-- With the shipped catalogue the support of every system only gets worse, and on every day it is
what the returned dates give. -/
theorem lookupOsEol_shipped (osId osVersion kernelVersion : Option String) :
    (∀ day day' info, day ≤ day' →
      lookupOsEol shippedCatalog osId osVersion kernelVersion day = some info →
        ∃ info', lookupOsEol shippedCatalog osId osVersion kernelVersion day' = some info' ∧
          info.status.severity ≤ info'.status.severity) ∧
    ∀ day info, lookupOsEol shippedCatalog osId osVersion kernelVersion day = some info →
      info.status = info.statusOn day := by
  refine ⟨fun day day' info hle h => ?_, fun day info h => status_eq_statusOn h⟩
  obtain ⟨info', h', heol, hsupport, hpaid⟩ := eolInfo_dates h day'
  refine ⟨info', h', ?_⟩
  have hdates : info'.statusOn day' = info.statusOn day' := by
    unfold OsEolInfo.statusOn classifyEol
    rw [heol, hsupport, hpaid]
  rw [status_eq_statusOn h, status_eq_statusOn h', hdates]
  exact classifyEol_mono _ hle

/-- A release before and after its functional updates end. -/
theorem lookupOsEol_ubuntu :
    ∃ info info', lookupOsEol shippedCatalog "ubuntu" "22.04" none 738000 = some info ∧
      lookupOsEol shippedCatalog "ubuntu" "22.04" none 739600 = some info' ∧
      info.status.severity ≤ info'.status.severity ∧ info'.status = info'.statusOn 739600 := by
  have hsome : (lookupOsEol shippedCatalog "ubuntu" "22.04" none 738000).isSome = true := by
    decide +kernel
  obtain ⟨hworse, hdates⟩ := lookupOsEol_shipped "ubuntu" "22.04" none
  obtain ⟨info', hinfo', hle⟩ := hworse 738000 739600 _ (by decide) (Option.some_get hsome).symm
  exact ⟨_, info', (Option.some_get hsome).symm, hinfo', hle, hdates _ _ hinfo'⟩

end AssessmentEngine
