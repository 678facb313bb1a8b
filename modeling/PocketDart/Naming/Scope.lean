/-
  This file defines the scope in which names are claimed. A
  name that has an owner keeps it: a later claim is told who
  the owner is and changes nothing.

  Key definitions include:
    * `Scope`
    * `Scope.owner?`
    * `Scope.claim`

  Key theorems include:
    * `Scope.claim_of_owner`
    * `Scope.owner?_claim_self`
    * `Scope.owner?_claim_ne`
-/

------------------------------------------------------------
-- Scopes
------------------------------------------------------------

namespace PocketDart

/-
  The names of a scope with their owners, latest claim
  first. A name may be known without having an owner; such
  a name is free to be claimed.
-/
structure Scope (Owner : Type) where
  claims : List (String × Option Owner)

namespace Scope

variable {Owner : Type}

/- A scope with some names taken up front. -/
def reserve
    (names : List (String × Option Owner)) :
    Scope Owner :=
  ⟨names⟩

def owner?
    (scope : Scope Owner)
    (name : String) : Option Owner :=
  (scope.claims.lookup name).join

def knows
    (scope : Scope Owner)
    (name : String) : Bool :=
  (scope.claims.lookup name).isSome

/-
  Claim a name. The answer is the owner that has it already,
  if there is one, and the scope after the claim.
-/
def claim
    (scope : Scope Owner)
    (name : String)
    (owner : Option Owner) :
    Option Owner × Scope Owner :=
  match scope.owner? name with
  | some other => (some other, scope)
  | none => (none, ⟨(name, owner) :: scope.claims⟩)

/- A name that has an owner cannot be claimed. -/
theorem claim_of_owner
    {scope : Scope Owner}
    {name : String}
    {other : Owner}
    (h : scope.owner? name = some other)
    (owner : Option Owner) :
    scope.claim name owner = (some other, scope) := by
  simp [claim, h]

/- A free name goes to the one who claims it. -/
@[simp]
theorem owner?_claim_self
    {scope : Scope Owner}
    {name : String}
    (h : scope.owner? name = none)
    (owner : Option Owner) :
    (scope.claim name owner).2.owner? name = owner := by
  unfold claim
  rw [h]
  simp [owner?]

/- A claim does not change the owner of another name. -/
@[simp]
theorem owner?_claim_ne
    {scope : Scope Owner}
    {name other : String}
    (h : other ≠ name)
    (owner : Option Owner) :
    (scope.claim name owner).2.owner? other =
      scope.owner? other := by
  have hBeq : (other == name) = false :=
    beq_eq_false_iff_ne.mpr h
  unfold claim
  split
  · rfl
  · simp [owner?, List.lookup_cons, hBeq]

end Scope

end PocketDart
