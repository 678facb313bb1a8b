import PocketDart.Number.Binary64

/-
  This file defines the values of a decoded JSON document,
  which the schema payloads are read from.

  Key definitions include:
    * `Value`
    * `Value.Kind`
    * `Value.truthy`
    * `Value.get?`
    * `Entries.insert`

  Key theorems include:
    * `Entries.lookup_insert_self`
    * `Entries.lookup_insert_ne`
-/

------------------------------------------------------------
-- Values
------------------------------------------------------------

namespace PocketDart

/-
  A document value. Integers and floats are told apart, and
  an object keeps its keys in the order of the document.
-/
inductive Value where
  | null
  | bool (b : Bool)
  | int (n : Int)
  | float (x : Binary64)
  | text (s : String)
  | list (items : List Value)
  | object (entries : List (String × Value))
  deriving Inhabited

/- Keys with their values, each key once, in order. -/
abbrev Entries :=
  List (String × Value)

namespace Value

/- The kinds of value. -/
inductive Kind where
  | null
  | bool
  | int
  | float
  | text
  | list
  | object
  deriving DecidableEq, Repr

/- The word that messages use for a kind. -/
def Kind.word : Kind → String
  | .null => "NoneType"
  | .bool => "bool"
  | .int => "int"
  | .float => "float"
  | .text => "str"
  | .list => "list"
  | .object => "dict"

def kind : Value → Kind
  | .null => .null
  | .bool _ => .bool
  | .int _ => .int
  | .float _ => .float
  | .text _ => .text
  | .list _ => .list
  | .object _ => .object

/-
  Null, false, the zeros and whatever is empty are falsy;
  all else is truthy.
-/
def truthy : Value → Bool
  | .null => false
  | .bool b => b
  | .int n => n != 0
  | .float x => !x.isZero
  | .text s => s != ""
  | .list items => !items.isEmpty
  | .object entries => !entries.isEmpty

def isKey : Value → Bool
  | .list _ => false
  | .object _ => false
  | _ => true

/- The value, unless it is falsy. -/
def orElse
    (value : Option Value)
    (fallback : Value) : Value :=
  match value with
  | some v => if v.truthy then v else fallback
  | none => fallback

/- The entry of an object under a key. -/
def get?
    (value : Value)
    (key : String) : Option Value :=
  match value with
  | .object entries => entries.lookup key
  | _ => none

end Value

------------------------------------------------------------
-- Entries
------------------------------------------------------------

namespace Entries

variable {α : Type}

/-
  Set a key: a key that is there keeps its place and takes
  the new value, a new key goes to the end.
-/
def insert
    (key : String)
    (value : α) : List (String × α) → List (String × α)
  | [] => [(key, value)]
  | (k, v) :: rest =>
      if k = key then (k, value) :: rest
      else (k, v) :: insert key value rest

def hasKey
    (entries : Entries)
    (key : String) : Bool :=
  (entries.lookup key).isSome

/- The new value is found under its key. -/
@[simp]
theorem lookup_insert_self
    (key : String)
    (value : α)
    (entries : List (String × α)) :
    (insert key value entries).lookup key = some value := by
  induction entries with
  | nil => simp [insert]
  | cons entry rest ih =>
      obtain ⟨k, v⟩ := entry
      by_cases h : k = key
      · simp [insert, h]
      · have hBeq : (key == k) = false :=
          beq_eq_false_iff_ne.mpr (Ne.symm h)
        simp [insert, h, List.lookup_cons, hBeq, ih]

/- Other keys are not disturbed. -/
@[simp]
theorem lookup_insert_ne
    {key other : String}
    (h : other ≠ key)
    (value : α)
    (entries : List (String × α)) :
    (insert key value entries).lookup other =
      entries.lookup other := by
  induction entries with
  | nil =>
      have hBeq : (other == key) = false :=
        beq_eq_false_iff_ne.mpr h
      simp [insert, List.lookup_cons, hBeq]
  | cons entry rest ih =>
      obtain ⟨k, v⟩ := entry
      by_cases hk : k = key
      · subst hk
        have hBeq : (other == k) = false :=
          beq_eq_false_iff_ne.mpr h
        simp [insert, List.lookup_cons, hBeq]
      · by_cases ho : other = k
        · subst ho
          simp [insert, hk]
        · have hBeq : (other == k) = false :=
            beq_eq_false_iff_ne.mpr ho
          simp [insert, hk, List.lookup_cons, hBeq, ih]

end Entries

end PocketDart
