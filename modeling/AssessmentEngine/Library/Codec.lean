import AssessmentEngine.Library.Dataclass

/-!
# Codecs

A codec writes the values of a type as JSON and reads back what it wrote.  Records are read member
by member from a dictionary, in which a member is required or has a default.
-/

namespace Dataclass

open Value

/-- A JSON form of the values of a type; `none` is what cannot be read. -/
structure Codec (κ α : Type*) where
  encode : α → Value κ
  decode : Value κ → Option α
  decode_encode : ∀ a, decode (encode a) = some a

namespace Codec

variable {κ α : Type*}

def bool : Codec κ Bool where
  encode := .bool
  decode
    | .bool b => some b
    | _ => none
  decode_encode _ := rfl

def int : Codec κ ℤ where
  encode := .int
  decode
    | .int n => some n
    | _ => none
  decode_encode _ := rfl

/-- A finite number. -/
def float : Codec κ ℚ where
  encode q := .float (.finite q)
  decode
    | .float (.finite q) => some q
    | .int n => some n
    | _ => none
  decode_encode _ := rfl

def str : Codec κ String where
  encode := .str
  decode
    | .str s => some s
    | _ => none
  decode_encode _ := rfl

/-- A time is written as text. -/
def time : Codec κ DateTime where
  encode t := .str t.isoformat
  decode
    | .str s => DateTime.fromisoformat s
    | _ => none
  decode_encode := DateTime.fromisoformat_isoformat

/-- Nothing is written as `null`. -/
def nullable (c : Codec κ α) (hnull : ∀ a, (c.encode a).isNull = false) : Codec κ (Option α) where
  encode
    | none => .null
    | some a => c.encode a
  decode v := if v.isNull then some none else (c.decode v).map some
  decode_encode o := by
    cases o with
    | none => rfl
    | some a =>
      show (if (c.encode a).isNull then some none else (c.decode (c.encode a)).map some) = _
      rw [hnull a, c.decode_encode a]
      rfl

def optionalStr : Codec κ (Option String) := str.nullable fun _ => rfl

def optionalInt : Codec κ (Option ℤ) := int.nullable fun _ => rfl

def optionalFloat : Codec κ (Option ℚ) := float.nullable fun _ => rfl

def optionalTime : Codec κ (Option DateTime) := time.nullable fun _ => rfl

def list (c : Codec κ α) : Codec κ (List α) where
  encode as := .list (as.map c.encode)
  decode
    | .list vs => vs.mapM c.decode
    | _ => none
  decode_encode as := by
    rw [mapM_eq_some_iff, List.forall₂_map_left_iff, List.forall₂_same]
    exact fun a _ => c.decode_encode a

/-! ## Members of dictionaries -/

/-- `d[k]`. -/
@[irreducible] def need (c : Codec κ α) (k : String) (d : Dict κ) : Option α :=
  (d.lookup k).bind c.decode

/-- `d.get(k, default)`. -/
@[irreducible] def get (c : Codec κ α) (k : String) (default : α) (d : Dict κ) : Option α :=
  match d.lookup k with
  | some v => c.decode v
  | none => some default

/-- The list under the key, or nothing. -/
@[irreducible] def all (c : Codec κ α) (k : String) (d : Dict κ) : Option (List α) :=
  (listAt (d.lookup k)).mapM c.decode

variable {β : Type*} {c : Codec κ α} {k : String} {d : Dict κ} {a default : α} {f : α → Option β}

/-- A required member is read back. -/
lemma need_then (h : d.lookup k = some (c.encode a)) {r : Option β} (hr : f a = r) :
    (c.need k d).bind f = r := by
  rw [need, h]
  exact (congrArg (Option.bind · f) (c.decode_encode a)).trans hr

/-- A member with a default is read back. -/
lemma get_then (h : d.lookup k = some (c.encode a)) {r : Option β} (hr : f a = r) :
    (c.get k default d).bind f = r := by
  rw [get, h]
  exact (congrArg (Option.bind · f) (c.decode_encode a)).trans hr

/-- A list is read back. -/
lemma all_then {f : List α → Option β} {as : List α} (h : d.lookup k = some (c.list.encode as))
    {r : Option β} (hr : f as = r) : (c.all k d).bind f = r := by
  rw [all, h]
  exact (congrArg (Option.bind · f) (c.list.decode_encode as)).trans hr

end Codec

section Entries

variable {κ : Type*}

/-- The entries of a dictionary. -/
def entries : Value κ → Option (Dict κ)
  | .dict d => some d
  | _ => none

/-- `cls(**d)` takes no key that is not among the names. -/
def keywords (names : List String) (d : Dict κ) : Option (Dict κ) :=
  if ∀ e ∈ d, e.1 ∈ names then some d else none

/-- `d.pop(k, None)` for each of the keys. -/
def without (keys : List String) (d : Dict κ) : Dict κ :=
  d.filter fun e => decide (e.1 ∉ keys)

lemma entries_then {β : Type*} {f : Dict κ → Option β} {d : Dict κ} {r : Option β} (hr : f d = r) :
    (entries (.dict d)).bind f = r :=
  hr

lemma keywords_then {β : Type*} {f : Dict κ → Option β} {names : List String} {d : Dict κ}
    (h : d.map Prod.fst ⊆ names) {r : Option β} (hr : f d = r) : (keywords names d).bind f = r := by
  have hall : ∀ e ∈ d, e.1 ∈ names := fun _ he => h (List.mem_map_of_mem he)
  rw [keywords, if_pos hall]
  exact hr

lemma keys_without_subset (keys : List String) (d : Dict κ) :
    (without keys d).map Prod.fst ⊆ d.map Prod.fst :=
  List.map_subset _ List.filter_sublist.subset

/-- A key that is not removed keeps its entry. -/
lemma lookup_without {keys : List String} {k : String} (hk : k ∉ keys) (d : Dict κ) :
    (without keys d).lookup k = d.lookup k := by
  induction d with
  | nil => rfl
  | cons e d ih =>
    obtain ⟨k', v⟩ := e
    by_cases hkey : k = k'
    · subst hkey
      have hstays : without keys ((k, v) :: d) = (k, v) :: without keys d :=
        List.filter_cons_of_pos (decide_eq_true hk)
      rw [hstays, List.lookup_cons_self, List.lookup_cons_self]
    · rw [lookup_cons_of_ne hkey, ← ih]
      by_cases hstays : k' ∈ keys
      · have hgone : without keys ((k', v) :: d) = without keys d :=
          List.filter_cons_of_neg (by rw [decide_eq_true_iff]; exact not_not_intro hstays)
        rw [hgone]
      · have hkept : without keys ((k', v) :: d) = (k', v) :: without keys d :=
          List.filter_cons_of_pos (decide_eq_true hstays)
        rw [hkept, lookup_cons_of_ne hkey]

end Entries

end Dataclass
