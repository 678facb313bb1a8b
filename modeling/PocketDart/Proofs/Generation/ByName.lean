import Mathlib.Tactic.ByContra
import PocketDart.Generation.Lenient

/-
  This file proves how results are found by name. Setting or
  dropping the result under a name changes what is found
  under that name only, and a name keeps its place. Texts
  are looked up among the names that were seen as well.

  Key definitions include:
    * `ByName.get?`
    * `ByName.keys`

  Key theorems include:
    * `Value.equals_text_iff`
    * `ByName.get?_insert`
    * `ByName.get?_erase`
    * `ByName.keys_insert`
    * `isSeen_text`
-/

------------------------------------------------------------
-- Names as Values
------------------------------------------------------------

namespace PocketDart

@[simp]
theorem Value.equals_text_iff
    (value : Value)
    (name : String) :
    value.equals (.text name) = true ↔
      value = .text name := by
  cases value <;>
    simp [Value.equals, Value.equalsNumber, Value.toInt?]

namespace ByName

variable {α : Type}

/- The result under a name. -/
def get? (name : String) : ByName α → Option α
  | [] => none
  | (key, result) :: rest =>
      if key.equalsText name then some result
      else get? name rest

/- The names in order. -/
def keys (results : ByName α) : List Value :=
  results.map (·.1)

/- The first entry is the one looked for. -/
@[simp]
theorem get?_cons_self
    (name : String)
    (result : α)
    (rest : ByName α) :
    get? name ((.text name, result) :: rest) =
      some result := by
  simp [get?, Value.equalsText, Value.equals_text]

/- The first entry is not the one looked for. -/
@[simp]
theorem get?_cons_of_ne
    {name : String}
    {key : Value}
    (hKey : key ≠ .text name)
    (result : α)
    (rest : ByName α) :
    get? name ((key, result) :: rest) =
      get? name rest := by
  simp [get?, Value.equalsText, Value.equals_text_iff, hKey]

/- The first entry is the one that is set. -/
@[simp]
theorem insert_cons_self
    (name : String)
    (result old : α)
    (rest : ByName α) :
    insert (.text name) result ((.text name, old) :: rest) =
      (.text name, result) :: rest := by
  simp [insert, Value.equals_text]

/- The first entry is not the one that is set. -/
@[simp]
theorem insert_cons_of_ne
    {name : String}
    {key : Value}
    (hKey : key ≠ .text name)
    (result old : α)
    (rest : ByName α) :
    insert (.text name) result ((key, old) :: rest) =
      (key, old) :: insert (.text name) result rest := by
  simp [insert, Value.equals_text_iff, hKey]

/- The first entry is one that is dropped. -/
@[simp]
theorem erase_cons_self
    (name : String)
    (old : α)
    (rest : ByName α) :
    erase (.text name) ((.text name, old) :: rest) =
      erase (.text name) rest := by
  simp [erase, Value.equals_text]

/- The first entry is not one that is dropped. -/
@[simp]
theorem erase_cons_of_ne
    {name : String}
    {key : Value}
    (hKey : key ≠ .text name)
    (old : α)
    (rest : ByName α) :
    erase (.text name) ((key, old) :: rest) =
      (key, old) :: erase (.text name) rest := by
  have hEquals : key.equals (.text name) = false := by
    rw [Bool.eq_false_iff, ne_eq, Value.equals_text_iff]
    exact hKey
  simp [erase, hEquals]

theorem get?_eq_none_iff
    (name : String)
    (results : ByName α) :
    get? name results = none ↔
      Value.text name ∉ keys results := by
  induction results with
  | nil => simp [get?, keys]
  | cons entry rest ih =>
      rcases entry with ⟨key, result⟩
      by_cases hKey : key = .text name
      · subst hKey
        simp [get?_cons_self, keys]
      · rw [get?_cons_of_ne hKey, ih]
        simp [keys, Ne.symm hKey]

theorem mem_keys_of_get?
    {name : String}
    {result : α}
    {results : ByName α}
    (hGet : get? name results = some result) :
    Value.text name ∈ keys results := by
  by_contra hNot
  rw [(get?_eq_none_iff _ _).mpr hNot] at hGet
  cases hGet

theorem exists_get?_of_mem_keys
    {name : String}
    {results : ByName α}
    (hKey : Value.text name ∈ keys results) :
    ∃ result, get? name results = some result := by
  cases hGet : get? name results with
  | some result => exact ⟨result, rfl⟩
  | none =>
      exact absurd hKey ((get?_eq_none_iff _ _).mp hGet)

/- Where no name stands twice, every entry is found. -/
theorem mem_iff_get?
    {results : ByName α}
    (hKeys : (keys results).Nodup)
    (name : String)
    (result : α) :
    (Value.text name, result) ∈ results ↔
      get? name results = some result := by
  induction results with
  | nil => simp [get?]
  | cons entry rest ih =>
      rcases entry with ⟨key, old⟩
      rcases List.nodup_cons.mp hKeys with ⟨hFirst, hRest⟩
      by_cases hKey : key = .text name
      · subst hKey
        have hNone : (Value.text name, result) ∉ rest :=
          fun hMem =>
            hFirst (List.mem_map.mpr ⟨_, hMem, rfl⟩)
        simp [get?_cons_self, hNone, eq_comm]
      · rw [get?_cons_of_ne hKey, ← ih hRest]
        simp [Ne.symm hKey]

/- What is held was held before, or it was set. -/
theorem mem_insert
    {name : Value}
    {result : α}
    {results : ByName α}
    {entry : Value × α}
    (hMem : entry ∈ insert name result results) :
    entry.2 = result ∨ entry ∈ results := by
  induction results with
  | nil =>
      rw [insert, List.mem_singleton] at hMem
      exact Or.inl (congrArg Prod.snd hMem)
  | cons first rest ih =>
      rw [insert] at hMem
      split at hMem
      · rcases List.mem_cons.mp hMem with rfl | hRest
        · exact Or.inl rfl
        · exact Or.inr (List.mem_cons_of_mem _ hRest)
      · rcases List.mem_cons.mp hMem with rfl | hRest
        · exact Or.inr List.mem_cons_self
        · exact (ih hRest).imp_right
            (List.mem_cons_of_mem _)

/- The result is set under its name and no other. -/
theorem get?_insert
    (name other : String)
    (result : α)
    (results : ByName α) :
    get? other (insert (.text name) result results) =
      if other = name then some result
      else get? other results := by
  have hSet : ∀ rest : ByName α,
      get? other ((.text name, result) :: rest) =
        if other = name then some result
        else get? other rest := by
    intro rest
    by_cases hOther : other = name
    · subst hOther
      simp [get?_cons_self]
    · have hKey : Value.text name ≠ .text other := by
        simpa using Ne.symm hOther
      simp [get?_cons_of_ne hKey, hOther]
  induction results with
  | nil => exact hSet []
  | cons entry rest ih =>
      rcases entry with ⟨key, old⟩
      by_cases hKey : key = .text name
      · subst hKey
        rw [insert_cons_self, hSet]
        by_cases hOther : other = name
        · simp [hOther]
        · have hNe : Value.text name ≠ .text other := by
            simpa using Ne.symm hOther
          rw [get?_cons_of_ne hNe]
      · rw [insert_cons_of_ne hKey]
        by_cases hFound : key = .text other
        · have hOther : other ≠ name := by
            rintro rfl
            exact hKey hFound
          subst hFound
          simp [get?_cons_self, hOther]
        · rw [get?_cons_of_ne hFound, get?_cons_of_ne hFound,
            ih]

/- The result is dropped under its name and no other. -/
theorem get?_erase
    (name other : String)
    (results : ByName α) :
    get? other (erase (.text name) results) =
      if other = name then none
      else get? other results := by
  induction results with
  | nil => simp [erase, get?]
  | cons entry rest ih =>
      rcases entry with ⟨key, old⟩
      by_cases hKey : key = .text name
      · subst hKey
        rw [erase_cons_self, ih]
        by_cases hOther : other = name
        · simp [hOther]
        · have hNe : Value.text name ≠ .text other := by
            simpa using Ne.symm hOther
          rw [get?_cons_of_ne hNe]
      · rw [erase_cons_of_ne hKey]
        by_cases hFound : key = .text other
        · have hOther : other ≠ name := by
            rintro rfl
            exact hKey hFound
          subst hFound
          simp [get?_cons_self, hOther]
        · rw [get?_cons_of_ne hFound, get?_cons_of_ne hFound,
            ih]

/- A name is set to a new result, in its place or last. -/
theorem keys_insert
    (name : String)
    (result : α)
    (results : ByName α) :
    keys (insert (.text name) result results) =
      if (get? name results).isSome then keys results
      else keys results ++ [.text name] := by
  induction results with
  | nil => simp [insert, keys, get?]
  | cons entry rest ih =>
      rcases entry with ⟨key, old⟩
      by_cases hKey : key = .text name
      · subst hKey
        simp [insert_cons_self, get?_cons_self, keys]
      · rw [insert_cons_of_ne hKey, get?_cons_of_ne hKey]
        simp only [keys] at ih
        simp only [keys, List.map_cons, ih]
        split <;> simp

theorem nodup_keys_insert
    {results : ByName α}
    (hKeys : (keys results).Nodup)
    (name : String)
    (result : α) :
    (keys (insert (.text name) result results)).Nodup := by
  rw [keys_insert]
  cases hGet : get? name results with
  | some old => simpa using hKeys
  | none =>
      have hNew := (get?_eq_none_iff _ _).mp hGet
      simp only [Option.isSome_none, Bool.false_eq_true,
        if_false]
      refine List.nodup_append.mpr ⟨hKeys, by simp, ?_⟩
      rintro key hKey other hOther rfl
      rw [List.mem_singleton] at hOther
      subst hOther
      exact hNew hKey

/- The names that stay keep their order. -/
theorem keys_erase_sublist
    (name : Value)
    (results : ByName α) :
    (keys (erase name results)).Sublist (keys results) :=
  List.Sublist.map _ List.filter_sublist

end ByName

------------------------------------------------------------
-- Names Seen So Far
------------------------------------------------------------

/- Names that can be keys are looked up. -/
theorem isSeen_of_isKey
    {name : Value}
    (hKey : name.isKey)
    (seen : List Value) :
    isSeen seen name = .ok (seen.any (·.equals name)) := by
  rw [isSeen, Value.asKey, if_pos hKey]
  rfl

theorem isSeen_of_isKey_eq_false
    {name : Value}
    (hKey : name.isKey = false)
    (seen : List Value) :
    isSeen seen name = .error (.notKey name.kind) := by
  rw [isSeen, Value.asKey, hKey]
  rfl

/- A text was seen when it is among the names. -/
theorem isSeen_text
    {seen : List Value}
    {name : String}
    {known : Bool}
    (hKnown : known = true ↔ Value.text name ∈ seen) :
    isSeen seen (.text name) = .ok known := by
  have hAny : seen.any (·.equals (.text name)) = known := by
    rw [Bool.eq_iff_iff, List.any_eq_true, hKnown]
    simp [Value.equals_text_iff]
  rw [isSeen_of_isKey rfl, hAny]

end PocketDart
