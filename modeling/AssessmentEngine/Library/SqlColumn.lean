import Mathlib.Algebra.Order.Ring.Int
import AssessmentEngine.Library.Double

/-!
# What the columns of a table take

The types of columns, the values that are bound to them and JSON values.  A column takes an integer
in the range of its type, a number that is finite, a text of its length and a time that has a date.
No text may hold the null character, be it in a column or inside of a JSON value.  `null` is taken
where the column allows it.
-/

namespace Sql

/-- A text without the null character. -/
def CleanText (s : String) : Prop := Char.ofNat 0 ∉ s.toList

instance (s : String) : Decidable (CleanText s) := inferInstanceAs (Decidable (¬ _))

/-! ## JSON -/

inductive Json
  | null
  | bool (b : Bool)
  | int (n : ℤ)
  | float (x : Double)
  | str (s : String)
  | arr (xs : List Json)
  | obj (members : List (String × Json))

namespace Json

/-- The value if there is one, else `null`. -/
def ofOption {α : Type*} (f : α → Json) : Option α → Json
  | some a => f a
  | none => null

def isNull : Json → Bool
  | null => true
  | _ => false

mutual

/-- The database can hold the value: its texts are clean and its numbers are finite. -/
def Storable : Json → Prop
  | null => True
  | bool _ => True
  | int _ => True
  | float x => x.isFinite = true
  | str s => CleanText s
  | arr xs => StorableList xs
  | obj members => StorableMembers members

def StorableList : List Json → Prop
  | [] => True
  | x :: xs => Storable x ∧ StorableList xs

def StorableMembers : List (String × Json) → Prop
  | [] => True
  | (k, v) :: rest => CleanText k ∧ Storable v ∧ StorableMembers rest

end

@[simp] lemma storable_null : Storable null := trivial

@[simp] lemma storable_bool (b : Bool) : Storable (bool b) := trivial

@[simp] lemma storable_int (n : ℤ) : Storable (int n) := trivial

@[simp] lemma storable_float (x : Double) : Storable (float x) ↔ x.isFinite = true := Iff.rfl

@[simp] lemma storable_str (s : String) : Storable (str s) ↔ CleanText s := Iff.rfl

@[simp] lemma storable_ofOption {α : Type*} (f : α → Json) (o : Option α) :
    Storable (ofOption f o) ↔ ∀ a ∈ o, Storable (f a) := by
  cases o with
  | none => exact iff_of_true trivial fun _ ha => nomatch ha
  | some a => simp only [ofOption, Option.mem_def, Option.some.injEq, forall_eq']

@[simp] lemma storable_arr (xs : List Json) : Storable (arr xs) ↔ ∀ x ∈ xs, Storable x := by
  rw [Storable]
  induction xs with
  | nil => exact iff_of_true trivial fun _ hx => absurd hx List.not_mem_nil
  | cons x xs ih => rw [StorableList, ih, List.forall_mem_cons]

@[simp] lemma storable_obj (members : List (String × Json)) :
    Storable (obj members) ↔ ∀ m ∈ members, CleanText m.1 ∧ Storable m.2 := by
  rw [Storable]
  induction members with
  | nil => exact iff_of_true trivial fun _ hm => absurd hm List.not_mem_nil
  | cons m members ih =>
    obtain ⟨k, v⟩ := m
    rw [StorableMembers, ih, List.forall_mem_cons, and_assoc]

end Json

/-! ## Columns -/

inductive SqlType
  | smallInteger
  | integer
  | bigInteger
  | float
  | string (length : ℕ)
  | text
  | boolean
  | dateTime
  | uuid
  | jsonb
  | textArray
  deriving DecidableEq, Repr

/-- The microseconds since the epoch that are in the years 1 to 9999 in UTC. -/
def HasDate (t : ℤ) : Prop := -62135596800000000 ≤ t ∧ t < 253402300800000000

instance (t : ℤ) : Decidable (HasDate t) := inferInstanceAs (Decidable (_ ∧ _))

/-- A value that is bound to a column; `uuid` is the text of a UUID, `time` a time in UTC. -/
inductive SqlValue
  | null
  | int (n : ℤ)
  | float (x : Double)
  | text (s : String)
  | bool (b : Bool)
  | time (t : ℤ)
  | uuid (s : String)
  | json (v : Json)
  | texts (ss : List String)

/-- The values other than `null` that a column of the type takes. -/
def SqlType.Takes : SqlType → SqlValue → Prop
  | smallInteger, .int n => -2 ^ 15 ≤ n ∧ n < 2 ^ 15
  | integer, .int n => -2 ^ 31 ≤ n ∧ n < 2 ^ 31
  | bigInteger, .int n => -2 ^ 63 ≤ n ∧ n < 2 ^ 63
  | float, .float x => x.isFinite = true
  | string length, .text s => s.length ≤ length ∧ CleanText s
  | text, .text s => CleanText s
  | boolean, .bool _ => True
  | dateTime, .time t => HasDate t
  | uuid, .uuid _ => True
  | jsonb, .json v => v.Storable
  | textArray, .texts ss => ∀ s ∈ ss, CleanText s
  | _, _ => False

structure Column where
  name : String
  type : SqlType
  nullable : Bool
  deriving DecidableEq, Repr

/-- The value that is bound to a column. -/
structure Cell where
  column : Column
  value : SqlValue

/-- The column takes the value. -/
def Cell.Fits (cell : Cell) : Prop :=
  match cell.value with
  | .null => cell.column.nullable = true
  | v => cell.column.type.Takes v

/-- A row as it is written, one cell for each column that is given. -/
abbrev Row := List Cell

def Row.Fits (row : Row) : Prop := ∀ cell ∈ row, cell.Fits

@[simp] lemma Row.fits_nil : Row.Fits [] := fun _ h => absurd h List.not_mem_nil

@[simp] lemma Row.fits_cons {cell : Cell} {row : Row} :
    Row.Fits (cell :: row) ↔ cell.Fits ∧ Row.Fits row := List.forall_mem_cons

@[simp] lemma Row.fits_append {row row' : Row} :
    Row.Fits (row ++ row') ↔ row.Fits ∧ row'.Fits := List.forall_mem_append

/-! ### Cells -/

/-- A column that is `NOT NULL`, with its value. -/
def requiredCell (name : String) (type : SqlType) (value : SqlValue) : Cell :=
  ⟨⟨name, type, false⟩, value⟩

/-- A column that may be `NULL`. -/
def nullableCell {α : Type*} (name : String) (type : SqlType) (f : α → SqlValue)
    (value : Option α) : Cell :=
  ⟨⟨name, type, true⟩, value.elim .null f⟩

variable {name : String} {type : SqlType}

@[simp] lemma fits_requiredCell_int {n : ℤ} :
    (requiredCell name type (.int n)).Fits ↔ type.Takes (.int n) := Iff.rfl

@[simp] lemma fits_requiredCell_text {s : String} :
    (requiredCell name type (.text s)).Fits ↔ type.Takes (.text s) := Iff.rfl

@[simp] lemma fits_requiredCell_time {t : ℤ} :
    (requiredCell name type (.time t)).Fits ↔ type.Takes (.time t) := Iff.rfl

@[simp] lemma fits_requiredCell_uuid {s : String} :
    (requiredCell name .uuid (.uuid s)).Fits := trivial

@[simp] lemma fits_nullableCell {α : Type*} {f : α → SqlValue} {value : Option α}
    (hf : ∀ a, f a ≠ .null) :
    (nullableCell name type f value).Fits ↔ ∀ a ∈ value, type.Takes (f a) := by
  cases value with
  | none => exact iff_of_true rfl fun _ ha => nomatch ha
  | some a =>
    simp only [Option.mem_def, Option.some.injEq, forall_eq']
    have hcell : (nullableCell name type f (some a)).value = f a := rfl
    unfold Cell.Fits
    rw [hcell]
    have hne := hf a
    cases hvalue : f a <;> first | rfl | exact absurd hvalue hne

end Sql
