import PocketDart.Naming.Scope
import PocketDart.Proofs.Lookup

/-
  This file proves that claiming names one after the other
  succeeds exactly when the names are fresh: pairwise
  distinct and without an owner in the scope. The order of
  the claims therefore does not matter.

  Key definitions include:
    * `Scope.claimAll`
    * `Scope.Fresh`

  Key theorems include:
    * `Scope.owner?_claimAll_eq_none_iff`
    * `Scope.fresh_cons_iff`
    * `Scope.fresh_append_iff`
-/

------------------------------------------------------------
-- Free Names
------------------------------------------------------------

namespace PocketDart

namespace Scope

variable {Owner : Type}

/- Names with their owners, claimed in order. -/
def claimAll
    (scope : Scope Owner) :
    List (String × Owner) → Scope Owner
  | [] => scope
  | (name, owner) :: more =>
      claimAll (scope.claim name (some owner)).2 more

theorem owner?_claim_eq_none_iff
    (scope : Scope Owner)
    (name other : String)
    (owner : Owner) :
    (scope.claim name (some owner)).2.owner? other = none ↔
      other ≠ name ∧ scope.owner? other = none := by
  by_cases hName : other = name
  · subst hName
    cases hOwner : scope.owner? other with
    | none => simp [owner?_claim_self hOwner]
    | some previous =>
        simp [claim_of_owner hOwner, hOwner]
  · rw [owner?_claim_ne hName]
    simp [hName]

/- Claims take the names that they list and no others. -/
theorem owner?_claimAll_eq_none_iff
    (scope : Scope Owner)
    (claims : List (String × Owner))
    (other : String) :
    (scope.claimAll claims).owner? other = none ↔
      other ∉ claims.map (·.1) ∧
        scope.owner? other = none := by
  induction claims generalizing scope with
  | nil => simp [claimAll]
  | cons entry more ih =>
      rcases entry with ⟨name, owner⟩
      rw [claimAll, ih, owner?_claim_eq_none_iff]
      simp only [List.map_cons, List.mem_cons, not_or]
      exact ⟨fun ⟨hMore, hName, hOwner⟩ =>
          ⟨⟨hName, hMore⟩, hOwner⟩,
        fun ⟨⟨hName, hMore⟩, hOwner⟩ =>
          ⟨hMore, hName, hOwner⟩⟩

theorem owner?_reserve_eq_none_iff
    {names : List (String × Option Owner)}
    (hOwned : ∀ entry ∈ names, entry.2 ≠ none)
    (other : String) :
    (reserve names).owner? other = none ↔
      other ∉ names.map (·.1) := by
  induction names with
  | nil => simp [reserve, owner?]
  | cons entry more ih =>
      rcases entry with ⟨name, owner⟩
      have hMore := ih fun entry hEntry =>
        hOwned entry (List.mem_cons_of_mem _ hEntry)
      by_cases hName : other = name
      · have hOwner := hOwned _ List.mem_cons_self
        simpa [reserve, owner?, hName] using hOwner
      · simpa [reserve, owner?, hName] using hMore

------------------------------------------------------------
-- Fresh Names
------------------------------------------------------------

/- Names that can be claimed one after the other. -/
def Fresh
    (scope : Scope Owner)
    (names : List String) : Prop :=
  names.Nodup ∧ ∀ name ∈ names, scope.owner? name = none

@[simp] theorem fresh_nil
    (scope : Scope Owner) :
    scope.Fresh [] := by
  simp [Fresh]

@[simp] theorem fresh_singleton
    (scope : Scope Owner)
    (name : String) :
    scope.Fresh [name] ↔ scope.owner? name = none := by
  simp [Fresh]

/- The claims are made in order. -/
theorem fresh_append_iff
    (scope : Scope Owner)
    (claims : List (String × Owner))
    (names : List String) :
    scope.Fresh (claims.map (·.1) ++ names) ↔
      scope.Fresh (claims.map (·.1)) ∧
        (scope.claimAll claims).Fresh names := by
  have hRest :
      (scope.claimAll claims).Fresh names ↔
        names.Nodup ∧ ∀ name ∈ names,
          name ∉ claims.map (·.1) ∧
            scope.owner? name = none := by
    simp only [Fresh, owner?_claimAll_eq_none_iff]
  rw [hRest]
  simp only [Fresh, List.nodup_append, List.mem_append]
  constructor
  · rintro ⟨⟨hClaims, hNames, hApart⟩, hFree⟩
    refine ⟨⟨hClaims, fun name hName =>
      hFree name (Or.inl hName)⟩, hNames, ?_⟩
    intro name hName
    exact ⟨fun hClaimed => hApart name hClaimed name hName rfl,
      hFree name (Or.inr hName)⟩
  · rintro ⟨⟨hClaims, hFree⟩, hNames, hRestFree⟩
    refine ⟨⟨hClaims, hNames, ?_⟩, ?_⟩
    · rintro name hClaimed other hOther rfl
      exact (hRestFree name hOther).1 hClaimed
    · rintro name (hClaimed | hName)
      · exact hFree name hClaimed
      · exact (hRestFree name hName).2

/- The first claim is made before the others. -/
theorem fresh_cons_iff
    (scope : Scope Owner)
    (name : String)
    (owner : Owner)
    (names : List String) :
    scope.Fresh (name :: names) ↔
      scope.owner? name = none ∧
        (scope.claim name (some owner)).2.Fresh names := by
  have hAppend :=
    fresh_append_iff scope [(name, owner)] names
  simpa [claimAll, Fresh] using hAppend

end Scope

end PocketDart
