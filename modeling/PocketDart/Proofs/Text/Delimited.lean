import Mathlib.Data.List.Basic
import Mathlib.Data.List.Forall2
import PocketDart.Text.Segments

/-
  This file proves how a text tells what was written at its
  beginning, and where that ends. A name ends at a character
  that it cannot hold, and a list of items ends at a closing
  mark that no item begins with.

  Key definitions include:
    * `Text.Apart`
    * `Text.Tells`

  Key theorems include:
    * `Text.pieces_append`
    * `Text.eq_of_append_stop`
    * `Text.Tells.list`
-/

------------------------------------------------------------
-- Marks
------------------------------------------------------------

namespace PocketDart

namespace Text

/- Two texts neither of which begins with the other. -/
def Apart (xs ys : List Char) : Prop :=
  ¬ xs <+: ys ∧ ¬ ys <+: xs

instance (xs ys : List Char) : Decidable (Apart xs ys) := by
  unfold Apart
  infer_instance

/- Whatever follows, such texts are told apart. -/
theorem Apart.append_ne
    {xs ys : List Char}
    (hApart : Apart xs ys)
    (r s : List Char) :
    xs ++ r ≠ ys ++ s := by
  intro hEq
  rcases List.append_eq_append_iff.mp hEq with
    ⟨middle, hYs, _⟩ | ⟨middle, hXs, _⟩
  · exact hApart.1 ⟨middle, hYs.symm⟩
  · exact hApart.2 ⟨middle, hXs.symm⟩

/- The first piece ends at the first separator. -/
theorem pieces_append
    {sep : Char}
    {piece : List Char}
    (hNone : sep ∉ piece)
    (rest : List Char) :
    pieces sep (piece ++ sep :: rest) =
      piece :: pieces sep rest := by
  induction piece with
  | nil => simp [pieces, split]
  | cons c piece ih =>
      rw [List.mem_cons, not_or] at hNone
      have hTail := ih hNone.2
      simp only [pieces, List.cons.injEq] at hTail
      simp only [List.cons_append, pieces, split,
        if_neg (Ne.symm hNone.1), hTail]

/- What follows a text that is told apart does not matter. -/
theorem Apart.append
    {xs ys : List Char}
    (hApart : Apart xs ys)
    (more : List Char) :
    Apart xs (ys ++ more) := by
  constructor
  · rintro ⟨rest, hRest⟩
    exact hApart.append_ne rest more hRest
  · rintro ⟨rest, hRest⟩
    rw [List.append_assoc] at hRest
    apply hApart.append_ne [] (more ++ rest)
    rw [List.append_nil, hRest]

/- A text ends where a character comes that it cannot hold. -/
theorem eq_of_append_stop
    {c : Char}
    {stop xs ys r s : List Char}
    (hStop : stop.head? = some c)
    (hXs : c ∉ xs)
    (hYs : c ∉ ys)
    (hEq : xs ++ (stop ++ r) = ys ++ (stop ++ s)) :
    xs = ys ∧ r = s := by
  cases stop with
  | nil => cases hStop
  | cons d more =>
      rcases Option.some.inj hStop with rfl
      rw [List.cons_append, List.cons_append] at hEq
      have hPieces := congrArg (pieces d) hEq
      rw [pieces_append hXs, pieces_append hYs] at hPieces
      rcases List.cons.inj hPieces with ⟨rfl, _⟩
      have hAfter := List.append_cancel_left hEq
      exact ⟨rfl, List.append_cancel_left
        (List.cons.inj hAfter).2⟩

------------------------------------------------------------
-- Written Values
------------------------------------------------------------

variable {A : Type}

/-
  A way to write sound values after which a text tells what
  the value was like, and what follows it.
-/
def Tells
    (sound : A → Prop)
    (write : A → List Char)
    (alike : A → A → Prop) : Prop :=
  ∀ a b, sound a → sound b → ∀ r s,
    write a ++ r = write b ++ s → alike a b ∧ r = s

/-
  Items that tell their values, one after the other, tell
  the list of the values. All items begin with a mark, and
  after the last one stands another.
-/
theorem Tells.list
    {sound : A → Prop}
    {write : A → List Char}
    {alike : A → A → Prop}
    (hTells : Tells sound write alike)
    {mark stop : List Char}
    (hMark : ∀ a, mark <+: write a)
    (hApart : Apart mark stop)
    {xs ys : List A}
    (hXs : ∀ x ∈ xs, sound x)
    (hYs : ∀ y ∈ ys, sound y)
    {r s : List Char}
    (hEq : xs.flatMap write ++ (stop ++ r) =
      ys.flatMap write ++ (stop ++ s)) :
    List.Forall₂ alike xs ys ∧ r = s := by
  have hItem : ∀ a r s, write a ++ r ≠ stop ++ s := by
    intro a r s
    rcases hMark a with ⟨more, hWrite⟩
    rw [← hWrite, List.append_assoc]
    exact hApart.append_ne _ _
  induction xs generalizing ys with
  | nil =>
      cases ys with
      | nil =>
          exact ⟨List.Forall₂.nil,
            List.append_cancel_left hEq⟩
      | cons y ys =>
          rw [List.flatMap_cons, List.append_assoc] at hEq
          exact absurd hEq.symm (hItem y _ _)
  | cons x xs ih =>
      rw [List.forall_mem_cons] at hXs
      cases ys with
      | nil =>
          rw [List.flatMap_cons, List.append_assoc] at hEq
          exact absurd hEq (hItem x _ _)
      | cons y ys =>
          rw [List.forall_mem_cons] at hYs
          simp only [List.flatMap_cons,
            List.append_assoc] at hEq
          rcases hTells x y hXs.1 hYs.1 _ _ hEq with
            ⟨hAlike, hRest⟩
          rcases ih hXs.2 hYs.2 hRest with
            ⟨hMore, hAfter⟩
          exact ⟨List.Forall₂.cons hAlike hMore, hAfter⟩

end Text

end PocketDart
