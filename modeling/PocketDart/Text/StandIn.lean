/-
  This file defines the characters that stand for halves of
  surrogate pairs. A half without its partner is no
  character, but escapes in documents can spell one. It has
  no bytes; in messages it is shown as its stand-in.

  Key definitions include:
    * `Text.standIn`
    * `Text.surrogate?`

  Key theorems include:
    * `Text.surrogate?_standIn`
-/

------------------------------------------------------------
-- Stand-Ins
------------------------------------------------------------

namespace PocketDart

namespace Text

/- Whether a code unit is half of a surrogate pair. -/
def isSurrogate (unit : Nat) : Bool :=
  0xD800 ≤ unit && unit ≤ 0xDFFF

/- The first of the stand-ins, at the end of private use. -/
def firstStandIn : Nat := 0x10F800

/- The character that stands for half of a pair. -/
def standIn (unit : Nat) : Char :=
  Char.ofNat (firstStandIn + (unit - 0xD800))

/- The half that a character stands for. -/
def surrogate? (c : Char) : Option Nat :=
  if firstStandIn ≤ c.toNat then
    some (0xD800 + (c.toNat - firstStandIn))
  else none

/- A stand-in leads back to its half. -/
theorem surrogate?_standIn
    {unit : Nat}
    (hHalf : isSurrogate unit = true) :
    surrogate? (standIn unit) = some unit := by
  simp only [isSurrogate, Bool.and_eq_true,
    decide_eq_true_eq] at hHalf
  have hValid :
      (firstStandIn + (unit - 0xD800)).isValidChar := by
    unfold Nat.isValidChar firstStandIn
    omega
  have hChar : (standIn unit).toNat =
      firstStandIn + (unit - 0xD800) := by
    unfold standIn
    rw [Char.ofNat, dif_pos hValid]
    rfl
  have hSame : 0xD800 + (unit - 0xD800) = unit :=
    Nat.add_sub_of_le hHalf.1
  rw [surrogate?, hChar, if_pos (Nat.le_add_right _ _),
    Nat.add_sub_cancel_left, hSame]

end Text

end PocketDart
