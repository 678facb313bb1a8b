import PocketDart.Proofs.Lookup
import PocketDart.Proofs.Naming.Fresh

/-
  This file proves that a scope keeps the first owner of a
  name. However many claims were made before, a claim is
  told the owner that the name was reserved for, or else the
  one that claimed it first, and changes nothing then. A
  claim that is told none takes its name and no other.

  Key definitions include:
    * `Scope.ofReserved`

  Key theorems include:
    * `Scope.owner?_claim`
    * `Scope.owner?_claimAll`
    * `Scope.knows_claimAll`
    * `claim_tells_first_owner`
-/

------------------------------------------------------------
-- Owners
------------------------------------------------------------

namespace PocketDart

namespace Scope

variable {Owner : Type}

/- A scope with names that each are taken by an owner. -/
def ofReserved
    (reserved : List (String × Owner)) :
    Scope Owner :=
  reserve (reserved.map fun (name, owner) =>
    (name, some owner))

theorem owner?_ofReserved
    (reserved : List (String × Owner))
    (name : String) :
    (ofReserved reserved).owner? name =
      reserved.lookup name := by
  induction reserved with
  | nil => rfl
  | cons entry more ih =>
      rcases entry with ⟨other, owner⟩
      by_cases hName : name = other
      · simp [ofReserved, reserve, owner?, hName]
      · simpa [ofReserved, reserve, owner?, hName] using ih

/-
  What one claim does: a name that has an owner keeps it,
  and only the claimed name can get a new one.
-/
theorem owner?_claim
    (scope : Scope Owner)
    (name other : String)
    (owner : Owner) :
    (scope.claim name (some owner)).2.owner? other =
      (scope.owner? other).or
        ([(name, owner)].lookup other) := by
  by_cases hName : other = name
  · subst hName
    cases hOwner : scope.owner? other with
    | none => simp [owner?_claim_self hOwner]
    | some previous =>
        simp [claim_of_owner hOwner, hOwner]
  · rw [owner?_claim_ne hName,
      Lookup.lookup_cons_of_ne hName]
    exact Option.or_none.symm

@[simp]
theorem owner?_claimAll
    (scope : Scope Owner)
    (claims : List (String × Owner))
    (name : String) :
    (scope.claimAll claims).owner? name =
      (scope.owner? name).or (claims.lookup name) := by
  induction claims generalizing scope with
  | nil => simp [claimAll]
  | cons entry more ih =>
      rcases entry with ⟨other, owner⟩
      rw [claimAll, ih, owner?_claim, Option.or_assoc]
      congr 1
      rw [List.lookup_cons, List.lookup_cons]
      cases name == other with
      | true => rfl
      | false => rfl

------------------------------------------------------------
-- Members
------------------------------------------------------------

theorem knows_of_owner
    {scope : Scope Owner}
    {name : String}
    (hOwner : scope.owner? name ≠ none) :
    scope.knows name := by
  unfold owner? at hOwner
  unfold knows
  cases hClaim : scope.claims.lookup name with
  | none =>
      rw [hClaim] at hOwner
      exact absurd rfl hOwner
  | some owner => rfl

theorem knows_claim
    (scope : Scope Owner)
    (name other : String)
    (owner : Owner) :
    (scope.claim name (some owner)).2.knows other ↔
      scope.knows other ∨ other = name := by
  unfold claim
  split
  · next previous hOwner =>
      have hKnown : scope.knows name :=
        knows_of_owner (by simp [hOwner])
      constructor
      · exact Or.inl
      · rintro (hOther | rfl)
        · exact hOther
        · exact hKnown
  · by_cases hName : other = name
    · simp [knows, hName]
    · simp [knows, hName]

/- After claims the names are known that were or are named. -/
@[simp]
theorem knows_claimAll
    (scope : Scope Owner)
    (claims : List (String × Owner))
    (name : String) :
    (scope.claimAll claims).knows name ↔
      scope.knows name ∨ name ∈ claims.map (·.1) := by
  induction claims generalizing scope with
  | nil => simp [claimAll]
  | cons entry more ih =>
      rcases entry with ⟨other, owner⟩
      rw [claimAll, ih, knows_claim, List.map_cons,
        List.mem_cons, or_assoc]

theorem knows_ofReserved
    (reserved : List (String × Owner))
    (name : String) :
    (ofReserved reserved).knows name ↔
      name ∈ reserved.map (·.1) := by
  have hLookup : (ofReserved reserved).claims.lookup name =
      (reserved.lookup name).map some :=
    Lookup.lookup_map_snd some reserved
  rw [knows, hLookup, Option.isSome_map,
    Option.isSome_iff_ne_none, ne_eq,
    Lookup.lookup_eq_none_iff_notMem, Decidable.not_not]

@[simp]
theorem answer_claim
    (scope : Scope Owner)
    (name : String)
    (owner : Option Owner) :
    (scope.claim name owner).1 = scope.owner? name := by
  unfold claim
  split
  · next other hOwner => exact hOwner.symm
  · next hOwner => exact hOwner.symm

end Scope

------------------------------------------------------------
-- Claims
------------------------------------------------------------

/-
  A claim that comes after others in a scope with reserved
  names: what it is told, what it changes, and which names
  are known.
-/
theorem claim_tells_first_owner
    {Owner : Type}
    (reserved before : List (String × Owner))
    (name : String)
    (owner : Owner) :
    let scope := (Scope.ofReserved reserved).claimAll before
    let answer := (scope.claim name (some owner)).1
    let next := (scope.claim name (some owner)).2
    (answer = none ↔
      name ∉ reserved.map (·.1) ∧
        name ∉ before.map (·.1)) ∧
    answer = (reserved.lookup name).or
      (before.lookup name) ∧
    (answer ≠ none → next = scope) ∧
    (answer = none → ∀ (other : String) (later : Owner),
      (next.claim other (some later)).1 =
        if other = name then some owner
        else (scope.claim other (some later)).1) ∧
    ∀ other, scope.knows other ↔
      other ∈ reserved.map (·.1) ∨
        other ∈ before.map (·.1) := by
  intro scope answer next
  have hOwner : scope.owner? name =
      (reserved.lookup name).or (before.lookup name) := by
    rw [Scope.owner?_claimAll, Scope.owner?_ofReserved]
  have hAnswer : answer = scope.owner? name :=
    Scope.answer_claim scope name (some owner)
  refine ⟨?_, hAnswer.trans hOwner, ?_, ?_, ?_⟩
  · rw [hAnswer, hOwner, Option.or_eq_none_iff,
      Lookup.lookup_eq_none_iff_notMem,
      Lookup.lookup_eq_none_iff_notMem]
  · intro hTaken
    rw [hAnswer] at hTaken
    rcases Option.ne_none_iff_exists'.mp hTaken with
      ⟨other, hOther⟩
    exact congrArg Prod.snd
      (Scope.claim_of_owner hOther (some owner))
  · intro hFree other later
    rw [hAnswer] at hFree
    rw [Scope.answer_claim, Scope.answer_claim,
      Scope.owner?_claim]
    by_cases hName : other = name
    · simp [hName, hFree]
    · simp [hName]
  · intro other
    rw [Scope.knows_claimAll, Scope.knows_ofReserved]

end PocketDart
