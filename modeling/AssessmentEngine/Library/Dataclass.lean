import Mathlib.Data.List.Nodup
import AssessmentEngine.Library.Double
import AssessmentEngine.Library.IsoFormat
import AssessmentEngine.Library.SetDefault

/-!
# Dataclasses and their JSON form

Values of a dynamically typed language with records of named classes.  `jsonable` lowers a value to
JSON: records become dictionaries and times become text.  Records come back by `build`, which fills
the fields of a class from a dictionary, after some of its entries have been rebuilt themselves.
Whether a value is restored is then a question about each field: `restores_rebuild_iff` and
`restores_construct_iff` say which.
-/

namespace Dataclass

/-- The types of fields. -/
inductive Ty (κ : Type*)
  | bool
  | int
  | float
  | str
  | datetime
  /-- A JSON object of any shape. -/
  | json
  | list (t : Ty κ)
  | dict (t : Ty κ)
  | cls (c : κ)
  deriving DecidableEq, Repr

/-- A value; a record has the name of its class. -/
inductive Value (κ : Type*)
  | null
  | bool (b : Bool)
  | int (n : ℤ)
  | float (x : Double)
  | str (s : String)
  | datetime (t : DateTime)
  | list (xs : List (Value κ))
  | dict (entries : List (String × Value κ))
  | obj (c : κ) (fields : List (String × Value κ))

/-- A field of a class. -/
structure FieldSpec (κ : Type*) where
  name : String
  ty : Ty κ
  nullable : Bool
  default : Option (Value κ)

/-- A field without a default. -/
def requiredField {κ : Type*} (name : String) (ty : Ty κ) : FieldSpec κ :=
  ⟨name, ty, false, none⟩

/-- `… | None`, without a default. -/
def nullableField {κ : Type*} (name : String) (ty : Ty κ) : FieldSpec κ :=
  ⟨name, ty, true, none⟩

/-- `… | None = None`. -/
def optionalField {κ : Type*} (name : String) (ty : Ty κ) : FieldSpec κ :=
  ⟨name, ty, true, some .null⟩

def defaultField {κ : Type*} (name : String) (ty : Ty κ) (default : Value κ) : FieldSpec κ :=
  ⟨name, ty, false, some default⟩

variable {κ : Type*}

namespace Value

def isNull : Value κ → Bool
  | null => true
  | _ => false

/-- The truth value. -/
def truthy : Value κ → Bool
  | null => false
  | bool b => b
  | int n => decide (n ≠ 0)
  | float x => decide (x ≠ .finite 0)
  | str s => decide (s ≠ "")
  | list xs => !xs.isEmpty
  | dict entries => !entries.isEmpty
  | datetime _ => true
  | obj _ _ => true

/-- `v.k`. -/
def attr (v : Value κ) (k : String) : Value κ :=
  match v with
  | obj _ fields => (fields.lookup k).getD null
  | _ => null

/-- The elements of a list. -/
def items : Value κ → List (Value κ)
  | list xs => xs
  | _ => []

/-! ## JSON -/

mutual

/-- The JSON form of a value. -/
def jsonable : Value κ → Value κ
  | datetime t => str t.isoformat
  | list xs => list (jsonableList xs)
  | dict entries => dict (jsonableFields entries)
  | obj _ fields => dict (jsonableFields fields)
  | null => null
  | bool b => bool b
  | int n => int n
  | float x => float x
  | str s => str s

def jsonableList : List (Value κ) → List (Value κ)
  | [] => []
  | v :: vs => jsonable v :: jsonableList vs

def jsonableFields : List (String × Value κ) → List (String × Value κ)
  | [] => []
  | (k, v) :: rest => (k, jsonable v) :: jsonableFields rest

end

mutual

/-- The value is JSON. -/
def isJson : Value κ → Bool
  | datetime _ => false
  | obj _ _ => false
  | list xs => isJsonList xs
  | dict entries => isJsonFields entries
  | null => true
  | bool _ => true
  | int _ => true
  | float _ => true
  | str _ => true

def isJsonList : List (Value κ) → Bool
  | [] => true
  | v :: vs => isJson v && isJsonList vs

def isJsonFields : List (String × Value κ) → Bool
  | [] => true
  | (_, v) :: rest => isJson v && isJsonFields rest

end

mutual

/-- How deep lists, dictionaries and records are nested. -/
def depth : Value κ → ℕ
  | list xs => depthList xs + 1
  | dict entries => depthFields entries + 1
  | obj _ fields => depthFields fields + 1
  | null => 0
  | bool _ => 0
  | int _ => 0
  | float _ => 0
  | str _ => 0
  | datetime _ => 0

def depthList : List (Value κ) → ℕ
  | [] => 0
  | v :: vs => max (depth v) (depthList vs)

def depthFields : List (String × Value κ) → ℕ
  | [] => 0
  | (_, v) :: rest => max (depth v) (depthFields rest)

end

lemma jsonableList_eq_map (xs : List (Value κ)) : jsonableList xs = xs.map jsonable := by
  induction xs with
  | nil => rw [jsonableList, List.map_nil]
  | cons v xs ih => rw [jsonableList, ih, List.map_cons]

lemma jsonableFields_lookup (fields : List (String × Value κ)) (k : String) :
    (jsonableFields fields).lookup k = (fields.lookup k).map jsonable := by
  induction fields with
  | nil => rw [jsonableFields]; rfl
  | cons kv rest ih =>
    obtain ⟨k', v⟩ := kv
    rw [jsonableFields, List.lookup_cons, List.lookup_cons]
    cases k == k' with
    | true => rfl
    | false => exact ih

lemma jsonableFields_keys (own : List (String × Value κ)) :
    (jsonableFields own).map Prod.fst = own.map Prod.fst := by
  induction own with
  | nil => rw [jsonableFields]
  | cons kv own ih =>
    obtain ⟨k, v⟩ := kv
    rw [jsonableFields, List.map_cons, List.map_cons, ih]

lemma depth_lt_of_mem {xs : List (Value κ)} {x : Value κ} (hx : x ∈ xs) :
    x.depth < (list xs).depth := by
  rw [depth, Nat.lt_succ_iff]
  induction xs with
  | nil => exact absurd hx List.not_mem_nil
  | cons y xs ih =>
    rw [depthList]
    rcases List.mem_cons.mp hx with rfl | hx
    · exact Nat.le_max_left ..
    · exact (ih hx).trans (Nat.le_max_right ..)

lemma depth_lt_of_lookup {entries : List (String × Value κ)} {k : String} {v : Value κ}
    (hv : entries.lookup k = some v) : v.depth < (dict entries).depth := by
  rw [depth, Nat.lt_succ_iff]
  induction entries with
  | nil => exact nomatch hv
  | cons e entries ih =>
    obtain ⟨k', w⟩ := e
    rw [depthFields]
    rw [List.lookup_cons] at hv
    cases hk : k == k' with
    | true =>
      rw [hk] at hv
      cases hv
      exact Nat.le_max_left ..
    | false =>
      rw [hk] at hv
      exact (ih hv).trans (Nat.le_max_right ..)

mutual

/-- JSON is its own form. -/
theorem jsonable_of_isJson : ∀ v : Value κ, v.isJson = true → v.jsonable = v
  | datetime _, h => by simp [isJson] at h
  | obj _ _, h => by simp [isJson] at h
  | list xs, h => by
    rw [isJson] at h
    rw [jsonable, jsonableList_of_isJson xs h]
  | dict entries, h => by
    rw [isJson] at h
    rw [jsonable, jsonableFields_of_isJson entries h]
  | null, _ => by rw [jsonable]
  | bool _, _ => by rw [jsonable]
  | int _, _ => by rw [jsonable]
  | float _, _ => by rw [jsonable]
  | str _, _ => by rw [jsonable]

theorem jsonableList_of_isJson : ∀ xs : List (Value κ), isJsonList xs = true → jsonableList xs = xs
  | [], _ => by rw [jsonableList]
  | v :: vs, h => by
    rw [isJsonList, Bool.and_eq_true] at h
    rw [jsonableList, jsonable_of_isJson v h.1, jsonableList_of_isJson vs h.2]

theorem jsonableFields_of_isJson :
    ∀ entries : List (String × Value κ), isJsonFields entries = true →
      jsonableFields entries = entries
  | [], _ => by rw [jsonableFields]
  | (k, v) :: rest, h => by
    rw [isJsonFields, Bool.and_eq_true] at h
    rw [jsonableFields, jsonable_of_isJson v h.1, jsonableFields_of_isJson rest h.2]

end

end Value

open Value

/-! ## Types -/

section Fits

variable [DecidableEq κ] (fields : κ → List (FieldSpec κ))

mutual

/-- The value is of the type. -/
def fits : Value κ → Ty κ → Bool
  | .bool _, .bool => true
  | .int _, .int => true
  | .int _, .float => true
  | .float _, .float => true
  | .str _, .str => true
  | .datetime _, .datetime => true
  | .dict entries, .json => isJsonFields entries
  | .list xs, .list t => fitsList xs t
  | .dict entries, .dict t => fitsEntries entries t
  | .obj c own, .cls c' => decide (c = c') && fitsFields own (fields c)
  | _, _ => false

def fitsList : List (Value κ) → Ty κ → Bool
  | [], _ => true
  | v :: vs, t => fits v t && fitsList vs t

def fitsEntries : List (String × Value κ) → Ty κ → Bool
  | [], _ => true
  | (_, v) :: rest, t => fits v t && fitsEntries rest t

/-- The record has the fields of its class, in order. -/
def fitsFields : List (String × Value κ) → List (FieldSpec κ) → Bool
  | [], [] => true
  | (k, v) :: rest, f :: more =>
    decide (k = f.name) && ((f.nullable && v.isNull) || fits v f.ty) && fitsFields rest more
  | _, _ => false

end

variable {fields}

/-- The value may stand in the field. -/
def FieldSpec.admits (fields : κ → List (FieldSpec κ)) (f : FieldSpec κ) (v : Value κ) : Prop :=
  (f.nullable = true ∧ v = .null) ∨ fits fields v f.ty = true

lemma fitsFields_iff {own : List (String × Value κ)} {fs : List (FieldSpec κ)} :
    fitsFields fields own fs = true ↔
      List.Forall₂ (fun kv f => kv.1 = f.name ∧ f.admits fields kv.2) own fs := by
  induction own generalizing fs with
  | nil =>
    cases fs with
    | nil => simp [fitsFields]
    | cons f fs => simp [fitsFields]
  | cons kv own ih =>
    obtain ⟨k, v⟩ := kv
    cases fs with
    | nil => simp [fitsFields]
    | cons f fs =>
      have hnull : v.isNull = true ↔ v = .null := by cases v <;> simp [isNull]
      simp only [fitsFields, Bool.and_eq_true, Bool.or_eq_true, decide_eq_true_iff,
        List.forall₂_cons, FieldSpec.admits, hnull, ih]

/-- A value of a class is a record of it. -/
lemma exists_of_fits_cls {v : Value κ} {c : κ} (h : fits fields v (.cls c) = true) :
    ∃ own, v = .obj c own ∧
      List.Forall₂ (fun kv f => kv.1 = f.name ∧ f.admits fields kv.2) own (fields c) := by
  cases v with
  | obj c' own =>
    rw [fits, Bool.and_eq_true, decide_eq_true_iff] at h
    obtain ⟨rfl, hown⟩ := h
    exact ⟨own, rfl, fitsFields_iff.mp hown⟩
  | _ => simp [fits] at h

lemma exists_of_fits_list {v : Value κ} {t : Ty κ} (h : fits fields v (.list t) = true) :
    ∃ xs, v = .list xs ∧ ∀ x ∈ xs, fits fields x t = true := by
  cases v with
  | list xs =>
    refine ⟨xs, rfl, ?_⟩
    rw [fits] at h
    induction xs with
    | nil => exact fun x hx => absurd hx List.not_mem_nil
    | cons y xs ih =>
      rw [fitsList, Bool.and_eq_true] at h
      intro x hx
      rcases List.mem_cons.mp hx with rfl | hx
      · exact h.1
      · exact ih h.2 x hx
  | _ => simp [fits] at h

/-- A list of records is its own JSON form only when it is empty. -/
lemma jsonable_eq_self_iff {v : Value κ} {c : κ} (h : fits fields v (.list (.cls c)) = true) :
    v.jsonable = v ↔ v.items = [] := by
  obtain ⟨xs, rfl, hxs⟩ := exists_of_fits_list h
  cases xs with
  | nil => exact iff_of_true (by rw [jsonable, jsonableList]) rfl
  | cons x xs =>
    refine iff_of_false (fun heq => ?_) (List.cons_ne_nil x xs)
    obtain ⟨own, rfl, _⟩ := exists_of_fits_cls (hxs x List.mem_cons_self)
    rw [jsonable, jsonableList, jsonable] at heq
    injection heq with hlist
    exact nomatch (List.cons.inj hlist).1

/-- Neither records nor times are in values of the type. -/
def Ty.plain : Ty κ → Bool
  | .datetime => false
  | .cls _ => false
  | .list t => t.plain
  | .dict t => t.plain
  | .bool => true
  | .int => true
  | .float => true
  | .str => true
  | .json => true

mutual

/-- A value of a plain type is JSON. -/
theorem isJson_of_fits : ∀ (v : Value κ) (t : Ty κ), fits fields v t = true → t.plain = true →
    v.isJson = true
  | .datetime _, t, h, hplain => by cases t <;> simp_all [fits, Ty.plain]
  | .obj _ _, t, h, hplain => by cases t <;> simp_all [fits, Ty.plain]
  | .list xs, t, h, hplain => by
    cases t with
    | list t =>
      rw [fits] at h
      rw [isJson]
      exact isJsonList_of_fits xs t h hplain
    | _ => simp [fits] at h
  | .dict entries, t, h, hplain => by
    cases t with
    | dict t =>
      rw [fits] at h
      rw [isJson]
      exact isJsonFields_of_fits entries t h hplain
    | json =>
      rw [fits] at h
      rw [isJson]
      exact h
    | _ => simp [fits] at h
  | .null, _, _, _ => by rw [isJson]
  | .bool _, _, _, _ => by rw [isJson]
  | .int _, _, _, _ => by rw [isJson]
  | .float _, _, _, _ => by rw [isJson]
  | .str _, _, _, _ => by rw [isJson]

theorem isJsonList_of_fits : ∀ (xs : List (Value κ)) (t : Ty κ), fitsList fields xs t = true →
    t.plain = true → isJsonList xs = true
  | [], _, _, _ => by rw [isJsonList]
  | v :: vs, t, h, hplain => by
    rw [fitsList, Bool.and_eq_true] at h
    rw [isJsonList, isJson_of_fits v t h.1 hplain, isJsonList_of_fits vs t h.2 hplain,
      Bool.and_self]

theorem isJsonFields_of_fits : ∀ (entries : List (String × Value κ)) (t : Ty κ),
    fitsEntries fields entries t = true → t.plain = true → isJsonFields entries = true
  | [], _, _, _ => by rw [isJsonFields]
  | (k, v) :: rest, t, h, hplain => by
    rw [fitsEntries, Bool.and_eq_true] at h
    rw [isJsonFields, isJson_of_fits v t h.1 hplain, isJsonFields_of_fits rest t h.2 hplain,
      Bool.and_self]

end

/-- What stands in a plain field is its own JSON form. -/
lemma jsonable_of_admits {f : FieldSpec κ} {v : Value κ} (h : f.admits fields v)
    (hplain : f.ty.plain = true) : v.jsonable = v := by
  rcases h with ⟨_, rfl⟩ | h
  · rw [jsonable]
  · exact jsonable_of_isJson v (isJson_of_fits v f.ty h hplain)

end Fits

/-! ## Building records -/

/-- A JSON object as it is read: the first entry of a key counts. -/
abbrev Dict (κ : Type*) := List (String × Value κ)

/-- How an entry is made from what a dictionary has under a key, if it has it; `none` raises. -/
abbrev Reader (κ : Type*) := Option (Value κ) → Option (Value κ)

/-- `d[k]`. -/
def item : Reader κ := id

/-- `d.get(k, default)`. -/
def getOr (default : Value κ) : Reader κ := fun v => some (v.getD default)

/-- A list under the key, or nothing. -/
def listAt : Option (Value κ) → List (Value κ)
  | some (.list xs) => xs
  | _ => []

/-- `[f(x) for x in …]` over the list under the key. -/
def each (f : Value κ → Option (Value κ)) : Reader κ := fun v => ((listAt v).mapM f).map .list

/-- A time from its text; anything else is left as it is. -/
def time : Reader κ
  | some (.str s) => (DateTime.fromisoformat s).map .datetime
  | v => some (v.getD .null)

/-- `f(x) if x else default`. -/
def whenTruthy (f : Value κ → Option (Value κ)) (default : Option (Value κ) → Value κ) : Reader κ :=
  fun v => if (v.getD .null).truthy then f (v.getD .null) else some (default v)

variable (fields : κ → List (FieldSpec κ))

/-- `cls(**data)` without the keys that the class does not have. -/
def build (c : κ) (data : Dict κ) : Option (Value κ) :=
  ((fields c).mapM fun f => ((data.lookup f.name).or f.default).map (Prod.mk f.name)).map (.obj c)

/-- `cls(**data)`: a key that the class does not have raises. -/
def spread (c : κ) : Value κ → Option (Value κ)
  | .dict data =>
    if ∀ e ∈ data, e.1 ∈ (fields c).map FieldSpec.name then build fields c data else none
  | _ => none

/-- `data[k] = …` for each of the entries, in order. -/
def assign : List (String × Reader κ) → Dict κ → Option (Dict κ)
  | [], data => some data
  | (k, f) :: rest, data => (f (data.lookup k)).bind fun v => assign rest ((k, v) :: data)

/-- Some entries are made anew, then the record is built from all of them. -/
def rebuild (c : κ) (entries : List (String × Reader κ)) : Value κ → Option (Value κ)
  | .dict data => (assign entries data).bind (build fields c)
  | _ => none

/-- The given arguments. -/
def arguments (args : List (String × Reader κ)) (data : Dict κ) : Option (Dict κ) :=
  args.mapM fun arg => (arg.2 (data.lookup arg.1)).map (Prod.mk arg.1)

/-- The record is built from the given arguments alone. -/
def construct (c : κ) (args : List (String × Reader κ)) : Value κ → Option (Value κ)
  | .dict data => (arguments args data).bind (build fields c)
  | _ => none

/-! ## Entries and fields -/

lemma mapM_eq_some_iff {α β : Type*} {f : α → Option β} {l : List α} {l' : List β} :
    l.mapM f = some l' ↔ List.Forall₂ (fun a b => f a = some b) l l' := by
  induction l generalizing l' with
  | nil =>
    rw [List.mapM_nil, List.forall₂_nil_left_iff]
    exact ⟨fun h => (Option.some.inj h).symm, fun h => congrArg some h.symm⟩
  | cons a l ih =>
    rw [List.mapM_cons, List.forall₂_cons_left_iff]
    simp only [Option.bind_eq_bind, Option.bind_eq_some_iff, Option.pure_def, Option.some.injEq, ih]
    constructor
    · rintro ⟨b, hb, bs, hbs, rfl⟩
      exact ⟨b, bs, hb, hbs, rfl⟩
    · rintro ⟨b, bs, hb, hbs, rfl⟩
      exact ⟨b, hb, bs, hbs, rfl⟩

/-- What each result takes over from its argument is taken over in order. -/
lemma map_eq_of_mapM {α β κ : Type*} {f : α → Option β} {g : β → κ} {g' : α → κ} {l : List α}
    {l' : List β} (hf : ∀ a b, f a = some b → g b = g' a) (h : l.mapM f = some l') :
    l'.map g = l.map g' := by
  rw [mapM_eq_some_iff] at h
  induction h with
  | nil => rfl
  | cons hab _ ih => rw [List.map_cons, List.map_cons, hf _ _ hab, ih]

lemma lookup_cons_of_ne {α : Type*} {k k' : String} {v : α} {l : List (String × α)} (h : k ≠ k') :
    ((k', v) :: l).lookup k = l.lookup k := by
  rw [List.lookup_cons, beq_eq_false_iff_ne.mpr h]

lemma key_ne {α : Type*} {l : List (String × α)} {k : String} (hk : k ∉ l.map Prod.fst)
    {e : String × α} (he : e ∈ l) : e.1 ≠ k := by
  rintro rfl
  exact hk (List.mem_map_of_mem he)

/-- What each reader makes of what was there before stands under its key; under the other keys
stands what `other` says. -/
def Made (entries : List (String × Reader κ)) (data data' : Dict κ)
    (other : String → Option (Value κ)) : Prop :=
  ∀ k, match entries.lookup k with
    | some f => ∃ v, f (data.lookup k) = some v ∧ data'.lookup k = some v
    | none => data'.lookup k = other k

/-- The entries made anew are changed, the others stay. -/
lemma assign_made {entries : List (String × Reader κ)} {data data' : Dict κ}
    (hkeys : (entries.map Prod.fst).Nodup) (h : assign entries data = some data') :
    Made entries data data' fun k => data.lookup k := by
  intro k
  induction entries generalizing data with
  | nil =>
    cases h
    rfl
  | cons e rest ih =>
    obtain ⟨k', f⟩ := e
    obtain ⟨v, hv, hrest⟩ := Option.bind_eq_some_iff.mp h
    rw [List.map_cons, List.nodup_cons] at hkeys
    have hih := ih hkeys.2 hrest
    by_cases hk : k = k'
    · subst hk
      have hnone : rest.lookup k = none := by
        rw [List.lookup_eq_none_iff]
        intro e he
        exact bne_iff_ne.mpr (key_ne hkeys.1 he).symm
      rw [hnone] at hih
      rw [List.lookup_cons_self]
      exact ⟨v, hv, hih.trans List.lookup_cons_self⟩
    · simp only [lookup_cons_of_ne hk] at hih ⊢
      exact hih

/-- Where every reader makes something, so does `assign`. -/
lemma exists_assign {entries : List (String × Reader κ)} {data : Dict κ}
    (hkeys : (entries.map Prod.fst).Nodup)
    (h : ∀ e ∈ entries, ∃ v, e.2 (data.lookup e.1) = some v) :
    ∃ data', assign entries data = some data' := by
  induction entries generalizing data with
  | nil => exact ⟨data, rfl⟩
  | cons e rest ih =>
    obtain ⟨k, f⟩ := e
    obtain ⟨v, hv⟩ := h (k, f) List.mem_cons_self
    rw [List.map_cons, List.nodup_cons] at hkeys
    have hrest : ∀ e ∈ rest, ∃ w, e.2 (((k, v) :: data).lookup e.1) = some w := by
      intro e he
      rw [lookup_cons_of_ne (key_ne hkeys.1 he)]
      exact h e (List.mem_cons_of_mem _ he)
    obtain ⟨data', hdata⟩ := ih hkeys.2 hrest
    exact ⟨data', Option.bind_eq_some_iff.mpr ⟨v, hv, hdata⟩⟩

/-- The arguments are all there is. -/
lemma args_made {args : List (String × Reader κ)} {data data' : Dict κ}
    (h : arguments args data = some data') : Made args data data' fun _ => none := by
  intro k
  rw [arguments, mapM_eq_some_iff] at h
  induction h with
  | nil => rfl
  | @cons arg kv args data' hkv hrest ih =>
    obtain ⟨v, hv, heq⟩ := Option.map_eq_some_iff.mp hkv
    subst heq
    by_cases hk : k = arg.1
    · subst hk
      rw [show args.cons arg = (arg.1, arg.2) :: args from rfl, List.lookup_cons_self]
      exact ⟨v, hv, List.lookup_cons_self⟩
    · have hargs : (arg :: args).lookup k = args.lookup k := lookup_cons_of_ne hk
      rw [hargs, lookup_cons_of_ne hk]
      exact ih

lemma exists_args {args : List (String × Reader κ)} {data : Dict κ}
    (h : ∀ e ∈ args, ∃ v, e.2 (data.lookup e.1) = some v) :
    ∃ data', arguments args data = some data' := by
  induction args with
  | nil => exact ⟨[], rfl⟩
  | cons e rest ih =>
    obtain ⟨v, hv⟩ := h e List.mem_cons_self
    obtain ⟨data', hdata⟩ := ih fun e' he' => h e' (List.mem_cons_of_mem _ he')
    refine ⟨(e.1, v) :: data', ?_⟩
    rw [arguments, mapM_eq_some_iff] at hdata ⊢
    exact .cons (Option.map_eq_some_iff.mpr ⟨v, hv, rfl⟩) hdata

/-- A record with the fields of a class. -/
abbrev Named (own : List (String × Value κ)) (fs : List (FieldSpec κ)) : Prop :=
  List.Forall₂ (fun kv f => kv.1 = f.name) own fs

lemma Named.exists_lookup {own : List (String × Value κ)} {fs : List (FieldSpec κ)}
    (h : Named own fs) {f : FieldSpec κ} (hf : f ∈ fs) : ∃ v, own.lookup f.name = some v := by
  induction h with
  | nil => exact absurd hf List.not_mem_nil
  | @cons kv g own fs hname hrest ih =>
    rw [List.lookup_cons]
    cases heq : f.name == kv.1 with
    | true => exact ⟨kv.2, rfl⟩
    | false =>
      rcases List.mem_cons.mp hf with rfl | hf
      · rw [hname] at heq
        exact absurd heq (by simp)
      · exact ih hf

lemma Named.names {own : List (String × Value κ)} {fs : List (FieldSpec κ)} (h : Named own fs) :
    own.map Prod.fst = fs.map FieldSpec.name := by
  induction h with
  | nil => rfl
  | cons hname _ ih => rw [List.map_cons, List.map_cons, hname, ih]

lemma Named.lookup_attr {c : κ} {own : List (String × Value κ)} {fs : List (FieldSpec κ)}
    (h : Named own fs) {f : FieldSpec κ} (hf : f ∈ fs) :
    own.lookup f.name = some ((Value.obj c own).attr f.name) := by
  obtain ⟨v, hv⟩ := h.exists_lookup hf
  rw [attr, hv]
  rfl

/-- A record is built when each of its fields is. -/
lemma Named.mapM_eq_iff {own : List (String × Value κ)} {fs : List (FieldSpec κ)} (h : Named own fs)
    (hnames : (fs.map FieldSpec.name).Nodup) (data : Dict κ) :
    fs.mapM (fun f => ((data.lookup f.name).or f.default).map (Prod.mk f.name)) = some own ↔
      ∀ f ∈ fs, (data.lookup f.name).or f.default = own.lookup f.name := by
  rw [mapM_eq_some_iff]
  induction h with
  | nil => simp
  | @cons kv g own fs hname hrest ih =>
    obtain ⟨k, v⟩ := kv
    subst hname
    rw [List.map_cons, List.nodup_cons] at hnames
    have htail : ∀ f ∈ fs, ((g.name, v) :: own).lookup f.name = own.lookup f.name := by
      intro f hf
      exact lookup_cons_of_ne fun heq => hnames.1 (heq ▸ List.mem_map_of_mem hf)
    rw [List.forall₂_cons, ih hnames.2, List.forall_mem_cons, List.lookup_cons_self]
    refine and_congr ?_ (forall₂_congr fun f hf => by rw [htail f hf])
    rw [Option.map_eq_some_iff]
    constructor
    · rintro ⟨w, hw, heq⟩
      cases heq
      exact hw
    · intro hw
      exact ⟨v, hw, rfl⟩

variable {fields}

lemma build_eq_iff {c : κ} {own : List (String × Value κ)} (h : Named own (fields c))
    (hnames : ((fields c).map FieldSpec.name).Nodup) (data : Dict κ) :
    build fields c data = some (.obj c own) ↔
      ∀ f ∈ fields c,
        (data.lookup f.name).or f.default = some ((Value.obj c own).attr f.name) := by
  rw [build, Option.map_eq_some_iff]
  have hfields := h.mapM_eq_iff hnames data
  constructor
  · rintro ⟨own', hown, heq⟩ f hf
    cases heq
    rw [← h.lookup_attr hf]
    exact hfields.mp hown f hf
  · intro hall
    refine ⟨own, hfields.mpr fun f hf => ?_, rfl⟩
    rw [h.lookup_attr (c := c) hf]
    exact hall f hf

/-! ## Restoration -/

/-- The value comes back from its JSON form. -/
def Restores (f : Value κ → Option (Value κ)) (v : Value κ) : Prop :=
  f v.jsonable = some v

/-- The entry comes back from its JSON form. -/
def RestoresEntry (f : Reader κ) (v : Value κ) : Prop :=
  f (some v.jsonable) = some v

lemma restoresEntry_item {v : Value κ} : RestoresEntry item v ↔ v.jsonable = v :=
  Option.some_inj

lemma restoresEntry_getOr {default v : Value κ} :
    RestoresEntry (getOr default) v ↔ v.jsonable = v :=
  Option.some_inj

/-- A list comes back when its elements do. -/
lemma restoresEntry_each {f : Value κ → Option (Value κ)} {v : Value κ} {t : Ty κ} [DecidableEq κ]
    (hv : fits fields v (.list t) = true) :
    RestoresEntry (each f) v ↔ ∀ x ∈ v.items, Restores f x := by
  obtain ⟨xs, rfl, _⟩ := exists_of_fits_list hv
  have hlist : listAt (some (Value.list xs).jsonable) = xs.map jsonable := by
    rw [jsonable, jsonableList_eq_map]
    rfl
  rw [RestoresEntry, each, hlist, Option.map_eq_some_iff]
  have hmap : (xs.map jsonable).mapM f = some xs ↔ ∀ x ∈ xs, Restores f x := by
    rw [mapM_eq_some_iff, List.forall₂_map_left_iff, List.forall₂_same]
    rfl
  refine Iff.trans ?_ hmap
  constructor
  · rintro ⟨ys, hys, heq⟩
    cases heq
    exact hys
  · intro h
    exact ⟨xs, h, rfl⟩

/-- A time, or none, comes back. -/
lemma restoresEntry_time {f : FieldSpec κ} {v : Value κ} [DecidableEq κ] (hv : f.admits fields v)
    (hty : f.ty = .datetime) : RestoresEntry time v := by
  rcases hv with ⟨_, rfl⟩ | hv
  · rw [RestoresEntry, jsonable]
    rfl
  · rw [hty] at hv
    cases v with
    | datetime t =>
      rw [RestoresEntry, jsonable]
      exact congrArg (Option.map Value.datetime) (DateTime.fromisoformat_isoformat t)
    | _ => simp [fits] at hv

/-- A record that may be missing comes back when it does if it is there. -/
lemma restoresEntry_whenTruthy {f : Value κ → Option (Value κ)}
    {default : Option (Value κ) → Value κ} {g : FieldSpec κ} {c : κ} {v : Value κ} [DecidableEq κ]
    (hv : g.admits fields v) (hty : g.ty = .cls c) (hfields : fields c ≠ [])
    (hdefault : g.nullable = true → default (some .null) = .null) :
    RestoresEntry (whenTruthy f default) v ↔ (v ≠ .null → Restores f v) := by
  rcases hv with ⟨hnullable, rfl⟩ | hv
  · refine iff_of_true ?_ fun h => absurd rfl h
    rw [RestoresEntry, jsonable]
    exact congrArg some (hdefault hnullable)
  · rw [hty] at hv
    obtain ⟨own, rfl, hown⟩ := exists_of_fits_cls hv
    have htruthy : (Value.obj c own).jsonable.truthy = true := by
      cases hown' : own with
      | nil =>
        rw [hown', List.forall₂_nil_left_iff] at hown
        exact absurd hown hfields
      | cons kv rest =>
        obtain ⟨k, w⟩ := kv
        rw [jsonable, jsonableFields]
        rfl
    have hread : whenTruthy f default (some (Value.obj c own).jsonable) =
        f (Value.obj c own).jsonable := if_pos htruthy
    rw [RestoresEntry, hread]
    exact ⟨fun h _ => h, fun h => h fun hnull => nomatch hnull⟩

/-- The type of a field, and whether it may be `None`. -/
def fieldType (fs : List (FieldSpec κ)) (k : String) : Option (Ty κ × Bool) :=
  (fs.find? fun f => decide (f.name = k)).map fun f => (f.ty, f.nullable)

lemma exists_of_fieldType {fs : List (FieldSpec κ)} {k : String} {t : Ty κ} {b : Bool}
    (h : fieldType fs k = some (t, b)) : ∃ f ∈ fs, f.name = k ∧ f.ty = t ∧ f.nullable = b := by
  obtain ⟨f, hfind, heq⟩ := Option.map_eq_some_iff.mp h
  cases heq
  exact ⟨f, List.mem_of_find?_eq_some hfind, of_decide_eq_true (List.find?_some hfind :), rfl, rfl⟩

lemma jsonableFields_lookup_attr {c : κ} {own : List (String × Value κ)}
    (h : Named own (fields c)) {f : FieldSpec κ} (hf : f ∈ fields c) :
    (jsonableFields own).lookup f.name = some ((Value.obj c own).attr f.name).jsonable := by
  rw [jsonableFields_lookup, h.lookup_attr (c := c) hf, Option.map_some]

/-- A record is restored when the entries that are made for it are, and when each other field has
its value from elsewhere. -/
lemma exists_build_iff {c : κ} {own : List (String × Value κ)} {entries : List (String × Reader κ)}
    {other : String → Option (Value κ)} {make : Dict κ → Option (Dict κ)}
    (hnamed : Named own (fields c)) (hnames : ((fields c).map FieldSpec.name).Nodup)
    (hkeys : (entries.map Prod.fst).Nodup)
    (hknown : ∀ k ∈ entries.map Prod.fst, k ∈ (fields c).map FieldSpec.name)
    (hmade : ∀ data', make (jsonableFields own) = some data' →
      Made entries (jsonableFields own) data' other)
    (hexists : (∀ e ∈ entries, ∃ v, e.2 ((jsonableFields own).lookup e.1) = some v) →
      ∃ data', make (jsonableFields own) = some data') :
    (make (jsonableFields own)).bind (build fields c) = some (.obj c own) ↔
      (∀ e ∈ entries, RestoresEntry e.2 ((Value.obj c own).attr e.1)) ∧
        ∀ f ∈ fields c, f.name ∉ entries.map Prod.fst →
          (other f.name).or f.default = some ((Value.obj c own).attr f.name) := by
  have hentry : ∀ e ∈ entries, ∃ f ∈ fields c, f.name = e.1 := fun e he =>
    List.mem_map.mp (hknown e.1 (List.mem_map_of_mem he))
  have hfree : ∀ k, k ∉ entries.map Prod.fst ↔ entries.lookup k = none := by
    intro k
    rw [List.lookup_eq_none_iff, List.mem_map]
    constructor
    · exact fun h e he => bne_iff_ne.mpr fun heq => h ⟨e, he, heq.symm⟩
    · rintro h ⟨e, he, rfl⟩
      exact bne_iff_ne.mp (h e he) rfl
  rw [Option.bind_eq_some_iff]
  constructor
  · rintro ⟨data, hmake, hbuild⟩
    rw [build_eq_iff hnamed hnames] at hbuild
    constructor
    · intro e he
      obtain ⟨f, hf, hname⟩ := hentry e he
      have hdata := hmade data hmake e.1
      rw [(SetDefault.lookup_eq_some_iff_mem hkeys).mpr he] at hdata
      obtain ⟨w, hw, hlook⟩ := hdata
      have hbuilt := hbuild f hf
      rw [hname, hlook, Option.some_or] at hbuilt
      rw [← hname, jsonableFields_lookup_attr hnamed hf, hname] at hw
      rw [RestoresEntry, hw]
      exact hbuilt
    · intro f hf hname
      have hdata := hmade data hmake f.name
      rw [(hfree f.name).mp hname] at hdata
      rw [← hdata]
      exact hbuild f hf
  · rintro ⟨hentries, hothers⟩
    have hread : ∀ e ∈ entries, e.2 ((jsonableFields own).lookup e.1) =
        some ((Value.obj c own).attr e.1) := by
      intro e he
      obtain ⟨f, hf, hname⟩ := hentry e he
      rw [← hname, jsonableFields_lookup_attr hnamed hf, hname]
      exact hentries e he
    obtain ⟨data, hmake⟩ := hexists fun e he => ⟨_, hread e he⟩
    refine ⟨data, hmake, (build_eq_iff hnamed hnames data).mpr fun f hf => ?_⟩
    have hdata := hmade data hmake f.name
    cases hfound : entries.lookup f.name with
    | some r =>
      rw [hfound] at hdata
      obtain ⟨w, hw, hlook⟩ := hdata
      have hmem : (f.name, r) ∈ entries := by
        obtain ⟨l₁, l₂, heq, _⟩ := List.lookup_eq_some_iff.mp hfound
        rw [heq]
        exact List.mem_append_right _ List.mem_cons_self
      rw [hlook, Option.some_or, ← hw]
      exact hread (f.name, r) hmem
    | none =>
      rw [hfound] at hdata
      rw [hdata]
      exact hothers f hf ((hfree f.name).mpr hfound)

section Classes

variable [DecidableEq κ]

lemma named_of_fits {c : κ} {own : List (String × Value κ)}
    (h : fits fields (.obj c own) (.cls c) = true) : Named own (fields c) := by
  obtain ⟨own', heq, hown⟩ := exists_of_fits_cls h
  cases heq
  exact hown.imp fun _ _ h => h.1

/-- What stands in a field of a record of the class is admitted there. -/
lemma admits_attr {c : κ} {v : Value κ} (hnames : ((fields c).map FieldSpec.name).Nodup)
    (h : fits fields v (.cls c) = true) {f : FieldSpec κ} (hf : f ∈ fields c) :
    f.admits fields (v.attr f.name) := by
  obtain ⟨own, rfl, hown⟩ := exists_of_fits_cls h
  have hlookup : ∀ {fs own}, List.Forall₂ (fun (kv : String × Value κ) (f : FieldSpec κ) =>
      kv.1 = f.name ∧ f.admits fields kv.2) own fs → (fs.map FieldSpec.name).Nodup → f ∈ fs →
      ∃ v, own.lookup f.name = some v ∧ f.admits fields v := by
    intro fs own hown
    induction hown with
    | nil => exact fun _ hf => absurd hf List.not_mem_nil
    | @cons kv g own fs hkv hrest ih =>
      intro hnames hf
      rw [List.map_cons, List.nodup_cons] at hnames
      rcases List.mem_cons.mp hf with rfl | hf
      · refine ⟨kv.2, ?_, hkv.2⟩
        rw [← hkv.1]
        exact List.lookup_cons_self
      · have hne : f.name ≠ kv.1 := by
          rw [hkv.1]
          intro heq
          exact hnames.1 (heq ▸ List.mem_map_of_mem hf)
        obtain ⟨v, hv, hadmits⟩ := ih hnames.2 hf
        exact ⟨v, (lookup_cons_of_ne hne).trans hv, hadmits⟩
  obtain ⟨v, hv, hadmits⟩ := hlookup hown hnames hf
  rw [attr, hv]
  exact hadmits

/-- The entries that are made for a class: each is that of one field, and the other fields are free
or among `others`. -/
structure Covers (fields : κ → List (FieldSpec κ)) (c : κ) (keys : List String)
    (free : FieldSpec κ → Bool) (others : List String) : Prop where
  nodup_keys : keys.Nodup
  known : ∀ k ∈ keys ++ others, k ∈ (fields c).map FieldSpec.name
  rest : ∀ f ∈ fields c, f.name ∈ keys ∨ free f = true ∨ f.name ∈ others
  disjoint : ∀ k ∈ others, k ∉ keys

instance (keys : List String) (c : κ) (free : FieldSpec κ → Bool) (others : List String) :
    Decidable (Covers fields c keys free others) :=
  decidable_of_iff
    (keys.Nodup ∧ (∀ k ∈ keys ++ others, k ∈ (fields c).map FieldSpec.name) ∧
      (∀ f ∈ fields c, f.name ∈ keys ∨ free f = true ∨ f.name ∈ others) ∧ ∀ k ∈ others, k ∉ keys)
    ⟨fun ⟨h1, h2, h3, h4⟩ => ⟨h1, h2, h3, h4⟩,
      fun h => ⟨h.nodup_keys, h.known, h.rest, h.disjoint⟩⟩

/-- A record is restored by `rebuild` when the entries that are made anew are, and when the other
ones are already in their JSON form. -/
lemma restores_rebuild_iff {c : κ} {entries : List (String × Reader κ)} {others : List String}
    (hnames : ((fields c).map FieldSpec.name).Nodup)
    (hcovers : Covers fields c (entries.map Prod.fst) (fun f => f.ty.plain) others) {v : Value κ}
    (hv : fits fields v (.cls c) = true) :
    Restores (rebuild fields c entries) v ↔
      (∀ e ∈ entries, RestoresEntry e.2 (v.attr e.1)) ∧
        ∀ k ∈ others, (v.attr k).jsonable = v.attr k := by
  have hadmits := fun f (hf : f ∈ fields c) => admits_attr hnames hv hf
  obtain ⟨own, rfl, _⟩ := exists_of_fits_cls hv
  have hnamed : Named own (fields c) := named_of_fits hv
  have hdict : Restores (rebuild fields c entries) (.obj c own) ↔
      (assign entries (jsonableFields own)).bind (build fields c) = some (.obj c own) := by
    rw [Restores, jsonable, rebuild]
  rw [hdict, exists_build_iff hnamed hnames hcovers.nodup_keys
    (fun k hk => hcovers.known k (List.mem_append_left _ hk))
    (fun _ => assign_made hcovers.nodup_keys) (exists_assign hcovers.nodup_keys)]
  apply and_congr_right
  intro _
  constructor
  · intro h k hk
    obtain ⟨f, hf, rfl⟩ := List.mem_map.mp (hcovers.known k (List.mem_append_right _ hk))
    have hbuilt := h f hf (hcovers.disjoint f.name hk)
    rw [jsonableFields_lookup_attr hnamed hf, Option.some_or] at hbuilt
    exact Option.some.inj hbuilt
  · intro h f hf hname
    rw [jsonableFields_lookup_attr hnamed hf, Option.some_or]
    rcases hcovers.rest f hf with hmem | hplain | hmem
    · exact absurd hmem hname
    · rw [jsonable_of_admits (hadmits f hf) hplain]
    · rw [h f.name hmem]

/-- The JSON form of a record has no key too many. -/
lemma restores_spread_iff {c : κ} {v : Value κ} (hv : fits fields v (.cls c) = true) :
    Restores (spread fields c) v ↔ Restores (rebuild fields c []) v := by
  obtain ⟨own, rfl, _⟩ := exists_of_fits_cls hv
  have hkeys : ∀ e ∈ jsonableFields own, e.1 ∈ (fields c).map FieldSpec.name := by
    intro e he
    rw [← (named_of_fits hv).names, ← jsonableFields_keys]
    exact List.mem_map_of_mem he
  rw [Restores, Restores, jsonable, spread, if_pos hkeys, rebuild]
  rfl

/-- A record is restored by `construct` when the arguments are, and when the fields that are not
given have their defaults. -/
lemma restores_construct_iff {c : κ} {args : List (String × Reader κ)} {others : List String}
    (hnames : ((fields c).map FieldSpec.name).Nodup)
    (hcovers : Covers fields c (args.map Prod.fst) (fun _ => false) others) {v : Value κ}
    (hv : fits fields v (.cls c) = true) :
    Restores (construct fields c args) v ↔
      (∀ e ∈ args, RestoresEntry e.2 (v.attr e.1)) ∧
        ∀ f ∈ fields c, f.name ∈ others → f.default = some (v.attr f.name) := by
  obtain ⟨own, rfl, _⟩ := exists_of_fits_cls hv
  have hdict : Restores (construct fields c args) (.obj c own) ↔
      (arguments args (jsonableFields own)).bind (build fields c) = some (.obj c own) := by
    rw [Restores, jsonable, construct]
  rw [hdict, exists_build_iff (named_of_fits hv) hnames hcovers.nodup_keys
    (fun k hk => hcovers.known k (List.mem_append_left _ hk)) (fun _ => args_made) exists_args]
  apply and_congr_right
  intro _
  constructor
  · intro h f hf hmem
    exact h f hf (hcovers.disjoint f.name hmem)
  · intro h f hf hname
    rcases hcovers.rest f hf with hmem | hfalse | hmem
    · exact absurd hmem hname
    · exact absurd hfalse Bool.false_ne_true
    · exact h f hf hmem

end Classes

end Dataclass
