import Mathlib.Data.List.Defs
import Mathlib.Data.Int.Notation

/-!
# End of support of operating systems

`_eol_info` and `resolve_os_eol` over a catalogue of releases.  A release has up to three limits:
functional updates, free security patches and paid ones.  The catalogue itself is data and a
parameter here.
-/

namespace AssessmentEngine

/-- An ISO date with the number of its day. -/
structure CalendarDate where
  iso : String
  day : ℤ
  deriving DecidableEq, Repr

/-- A release in the catalogue. -/
structure EolEntry where
  cycle : String
  eol : CalendarDate
  support : Option CalendarDate
  extendedSupport : Option CalendarDate
  build : Option String
  deriving DecidableEq, Repr

/-- `_EOL_CATALOG`: the releases of a product. -/
abbrev EolCatalog := String → List EolEntry

inductive EolStatus
  | full
  | securityOnly
  | paidOnly
  | ended
  deriving DecidableEq, Repr

/-- The position in `_EOL_SEVERITY`. -/
def EolStatus.severity : EolStatus → ℕ
  | .full => 0
  | .securityOnly => 1
  | .paidOnly => 2
  | .ended => 3

structure OsEolInfo where
  eol : CalendarDate
  support : Option CalendarDate
  extendedSupport : Option CalendarDate
  label : String
  status : EolStatus
  deriving DecidableEq, Repr

/-- `_OS_ID_TO_EOL_PRODUCT`. -/
def osIdToEolProduct : String → Option String
  | "debian" => some "debian"
  | "ubuntu" => some "ubuntu"
  | "rhel" => some "rhel"
  | "rocky" => some "rocky-linux"
  | "almalinux" => some "almalinux"
  | "centos" => some "centos"
  | "sles" => some "sles"
  | "opensuse" => some "opensuse"
  | "amzn" => some "amazon-linux"
  | "fedora" => some "fedora"
  | "ol" => some "oracle-linux"
  | "oracle" => some "oracle-linux"
  | _ => none

/-- `_classify_eol`. -/
def classifyEol (e : EolEntry) (today : ℤ) : EolStatus :=
  if e.extendedSupport.any fun d => decide (d.day ≤ today) then .ended
  else if e.eol.day ≤ today then
    if e.extendedSupport.isSome then .paidOnly else .ended
  else if e.support.any fun d => decide (d.day ≤ today) then .securityOnly
  else .full

/-- The release with the latest end of support, the first of several. -/
def latestEol (first : EolEntry) (rest : List EolEntry) : EolEntry :=
  rest.foldl (fun best e => if best.eol.iso < e.eol.iso then e else best) first

/-- The mildest status among several releases. -/
def mildestStatus (first : EolStatus) (rest : List EolStatus) : EolStatus :=
  rest.foldl (fun best s => if s.severity < best.severity then s else best) first

/-- `_eol_info`. -/
def eolInfo (catalog : EolCatalog) (osId osVersion kernelVersion : Option String) (today : ℤ) :
    Option OsEolInfo :=
  match osId with
  | none | some "" => none
  | some "windows" =>
    let build := ((kernelVersion.getD "").splitOn ".").headD ""
    match (catalog "windows-server").filter fun e => decide (e.build = some build) with
    | [] => none
    | first :: rest =>
      let rep := latestEol first rest
      some
        { eol := rep.eol
          support := rep.support
          extendedSupport := rep.extendedSupport
          label := "Windows Server " ++ rep.cycle
          status := mildestStatus (classifyEol first today) (rest.map (classifyEol · today)) }
  | some id =>
    (osIdToEolProduct id).bind fun product =>
      let ver := osVersion.getD ""
      let matchesCycle := fun e : EolEntry =>
        decide (ver = e.cycle) || (e.cycle ++ ".").toList.isPrefixOf ver.toList
      ((catalog product).find? matchesCycle).map fun e =>
        { eol := e.eol
          support := e.support
          extendedSupport := e.extendedSupport
          label := if ver = "" then id else id ++ " " ++ ver
          status := classifyEol e today }

/-- `resolve_os_eol`: the date and the label where free patches have ended. -/
def resolveOsEol (catalog : EolCatalog) (osId osVersion kernelVersion : Option String)
    (today : ℤ) : Option (CalendarDate × String) :=
  match eolInfo catalog osId osVersion kernelVersion today with
  | some info =>
    if info.status = .paidOnly ∨ info.status = .ended then some (info.eol, info.label) else none
  | none => none

end AssessmentEngine
