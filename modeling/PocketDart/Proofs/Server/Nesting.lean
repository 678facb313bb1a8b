import PocketDart.Proofs.Text.Ascii
import PocketDart.Server.Exchange

/-
  This file proves that a document that opens more lists
  than may be nested is too deep, whatever follows, and so
  is the body of a response with that text.

  Key theorems include:
    * `Json.readValue_brackets`
    * `Json.read_brackets`
    * `readBody_brackets`
-/

------------------------------------------------------------
-- Documents
------------------------------------------------------------

namespace PocketDart

namespace Json

def brackets (count : Nat) : List Char :=
  List.replicate count '['

/-
  Brackets for one list more than there are levels are too
  deep. The induction is on the levels; each takes one step
  for the list and one for its first item.
-/
theorem readValue_brackets
    {levels fuel : Nat}
    (standIn : Nat → Char)
    (hFuel : 2 * levels < fuel)
    (offset : Nat)
    (rest : List Char) :
    readValue standIn fuel levels
        ⟨offset, brackets (levels + 1) ++ rest⟩ =
      .error (.beyond (.depth .list)) := by
  induction levels generalizing fuel offset with
  | zero =>
      rcases fuel with _ | fuel
      · omega
      · rfl
  | succ levels ih =>
      rcases fuel with _ | _ | fuel
      · omega
      · omega
      · have hInside := ih
          (show 2 * levels < fuel by omega) (offset + 1)
        have hOpen :
            readValue standIn (fuel + 2) (levels + 1)
              ⟨offset, brackets (levels + 2) ++ rest⟩ =
          readItems standIn (fuel + 1) levels []
            ⟨offset + 1, brackets (levels + 1) ++ rest⟩ := rfl
        rw [hOpen, readItems, hInside]
        rfl

/- A document that opens too many lists is not read. -/
theorem read_brackets
    (machine : Machine)
    (rest : List Char) :
    read machine (String.ofList
        (brackets (machine.documentLevels + 1) ++ rest)) =
      .error (.beyond (.depth .list)) := by
  let levels := machine.documentLevels
  let cs := brackets (levels + 1) ++ rest
  have hFuel : 2 * levels < 2 * cs.length + 2 := by
    change 2 * levels <
      2 * (brackets (levels + 1) ++ rest).length + 2
    rw [List.length_append, brackets, List.length_replicate]
    omega
  have hValue :
      readValue machine.standIn (2 * cs.length + 2) levels
          (Cursor.skipSpace ⟨0, cs⟩) =
        .error (.beyond (.depth .list)) :=
    readValue_brackets machine.standIn hFuel 0 rest
  have hHead : cs.head? ≠ some '\ufeff' := by
    change some '[' ≠ some '\ufeff'
    decide
  have hDocument : readDocument machine cs =
      .error (.beyond (.depth .list)) := by
    rw [readDocument, if_neg hHead]
    dsimp only
    rw [hValue]
    rfl
  rw [read, String.toList_ofList]
  change (readDocument machine cs).mapError _ = _
  rw [hDocument]
  rfl

end Json

------------------------------------------------------------
-- Bodies
------------------------------------------------------------

theorem readBody_brackets
    (machine : Machine)
    (rest : List Char)
    (hRest : Text.IsPlainAscii rest) :
    readBody machine (String.ofList
        (Json.brackets (machine.documentLevels + 1) ++
          rest)) =
      .error (.unhandled Json.Nest.list.depthMessage) := by
  have hAscii : Text.IsPlainAscii
      (Json.brackets (machine.documentLevels + 1) ++
        rest) := by
    intro c hMem
    rcases List.mem_append.mp hMem with hBracket | hMem
    · rcases List.eq_of_mem_replicate hBracket with rfl
      decide
    · exact hRest c hMem
  rw [readBody, Encoding.reread_ascii hAscii,
    Json.read_brackets]

end PocketDart
