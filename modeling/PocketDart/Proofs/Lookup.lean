/-
  This file proves what is found in a list of entries by
  their names.

  Key theorems include:
    * `Lookup.mem_of_lookup`
    * `Lookup.lookup_cons_of_ne`
    * `Lookup.lookup_eq_none_iff_notMem`
    * `Lookup.lookup_map_snd`
    * `Lookup.lookup_filterMap_self`
-/

------------------------------------------------------------
-- Entries
------------------------------------------------------------

namespace PocketDart

namespace Lookup

variable {A B : Type} {name : String}

theorem mem_of_lookup
    {K : Type}
    [BEq K]
    [LawfulBEq K]
    {entries : List (K × A)}
    {key : K}
    {found : A}
    (hFound : entries.lookup key = some found) :
    (key, found) ∈ entries := by
  rcases List.lookup_eq_some_iff.mp hFound with
    ⟨before, after, hEntries, _⟩
  rw [hEntries]
  exact List.mem_append_right _ List.mem_cons_self

/- An entry for another name does not matter. -/
@[simp]
theorem lookup_cons_of_ne
    {K : Type}
    [BEq K]
    [LawfulBEq K]
    {key other : K}
    (hKey : key ≠ other)
    (found : A)
    (rest : List (K × A)) :
    ((other, found) :: rest).lookup key =
      rest.lookup key := by
  rw [List.lookup_cons, beq_eq_false_iff_ne.mpr hKey]

/- Nothing is found for the names that have no entry. -/
theorem lookup_eq_none_iff_notMem
    {entries : List (String × A)} :
    entries.lookup name = none ↔
      name ∉ entries.map (·.1) := by
  rw [List.lookup_eq_none_iff]
  simp only [List.mem_map, not_exists, not_and]
  constructor
  · rintro hNone entry hEntry rfl
    simpa using hNone entry hEntry
  · intro hNone entry hEntry
    simpa using fun hEq => hNone entry hEntry hEq.symm

theorem lookup_map_snd
    (change : A → B)
    (entries : List (String × A)) :
    (entries.map fun entry =>
        (entry.1, change entry.2)).lookup name =
      (entries.lookup name).map change := by
  induction entries with
  | nil => rfl
  | cons entry rest ih =>
      rw [List.map_cons, List.lookup_cons, List.lookup_cons]
      cases name == entry.1 with
      | true => rfl
      | false => exact ih

theorem lookup_filterMap_self
    (make : String → Option A)
    (names : List String) :
    (names.filterMap fun other =>
        (make other).map fun entry =>
          (other, entry)).lookup name =
      if name ∈ names then make name else none := by
  induction names with
  | nil => rfl
  | cons other rest ih =>
      by_cases hName : name = other
      · subst hName
        cases hEntry : make name with
        | none => simp [hEntry, ih]
        | some entry => simp [hEntry]
      · cases hEntry : make other with
        | none => simp [hEntry, hName, ih]
        | some entry => simp [hEntry, hName, ih]

end Lookup

end PocketDart
