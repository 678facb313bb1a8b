/-
  This file proves how computations with a state that may
  end early are run: one after the other, where the second
  goes on from the state in which the first ends.

  Key theorems include:
    * `Stateful.run_bind_of_ok`
    * `Stateful.run_bind_of_error`
    * `Stateful.run_tryCatch_of_error`
-/

------------------------------------------------------------
-- Steps
------------------------------------------------------------

namespace PocketDart

namespace Stateful

variable {E S A B : Type}
variable {first : EStateM E S A}
variable {second : A → EStateM E S B}
variable {state next : S}

/- A computation goes on with the result of another. -/
theorem run_bind_of_ok
    {result : A}
    (hFirst : first.run state = .ok result next) :
    (first >>= second).run state =
      (second result).run next := by
  change EStateM.bind first second state = _
  rw [EStateM.bind, show first state = _ from hFirst]
  rfl

/- A computation ends where one before it does. -/
theorem run_bind_of_error
    {cause : E}
    (hFirst : first.run state = .error cause next) :
    (first >>= second).run state = .error cause next := by
  change EStateM.bind first second state = _
  rw [EStateM.bind, show first state = _ from hFirst]

/- What comes after does not tell equal runs apart. -/
theorem run_bind_congr
    {other : EStateM E S A}
    (hFirst : first.run state = other.run next) :
    (first >>= second).run state =
      (other >>= second).run next := by
  change EStateM.bind first second state =
    EStateM.bind other second next
  rw [EStateM.bind, EStateM.bind,
    show first state = other next from hFirst]

/- What gives a result is not caught. -/
theorem run_tryCatch_of_ok
    (handler : E → EStateM E S A)
    {result : A}
    (hFirst : first.run state = .ok result next) :
    (tryCatch first handler).run state =
      .ok result next := by
  change EStateM.tryCatch first handler state = _
  delta EStateM.tryCatch
  rw [show first state = _ from hFirst]

/- What fails is caught, in the state in which it fails. -/
theorem run_tryCatch_of_error
    (handler : E → EStateM E S A)
    {cause : E}
    (hFirst : first.run state = .error cause next) :
    (tryCatch first handler).run state =
      (handler cause).run next := by
  change EStateM.tryCatch first handler state = _
  delta EStateM.tryCatch
  rw [show first state = _ from hFirst]
  rfl

/- The state is looked at first. -/
@[simp]
theorem run_get_bind
    (second : S → EStateM E S B)
    (state : S) :
    (get >>= second).run state =
      (second state).run state := rfl

@[simp]
theorem run_modify_bind
    (change : S → S)
    (second : Unit → EStateM E S B)
    (state : S) :
    (modify change >>= second).run state =
      (second ()).run (change state) := rfl

end Stateful

end PocketDart
