import PocketDart.Proofs.Dart.Literal

/-
  This file proves that a literal is quoted as it should be.
  Replacing one special character after the other spells a
  text as escaping it character by character does, since the
  backslash comes first. What is spelled denotes the text
  and nothing else, so that no two texts share a literal.

  Key definitions include:
    * `Text.replaceChar`
    * `Dart.escapedInTurn`

  Key theorems include:
    * `Dart.escapedInTurn_eq`
    * `Dart.Denotes.unique`
    * `Dart.literals_read_back`
-/

------------------------------------------------------------
-- Replacements
------------------------------------------------------------

namespace PocketDart

/- Write something for each occurrence of a character. -/
def Text.replaceChar
    (c : Char)
    (spelling cs : List Char) : List Char :=
  cs.flatMap fun d => if d = c then spelling else [d]

namespace Dart

/-
  The special characters and their spellings, in the order
  in which they are replaced.
-/
def replacements : List (Char × List Char) :=
  [('\\', ['\\', '\\']), ('\'', ['\\', '\'']),
   ('$', ['\\', '$']), ('\n', ['\\', 'n']),
   ('\r', ['\\', 'r'])]

def replaceAll
    (entries : List (Char × List Char))
    (cs : List Char) : List Char :=
  entries.foldl (fun cs entry =>
    Text.replaceChar entry.1 entry.2 cs) cs

/- A text with all its special characters replaced. -/
def escapedInTurn (cs : List Char) : List Char :=
  replaceAll replacements cs

theorem replaceAll_eq_flatMap
    (entries : List (Char × List Char))
    (cs : List Char) :
    replaceAll entries cs =
      cs.flatMap fun c => replaceAll entries [c] := by
  induction entries generalizing cs with
  | nil => simp [replaceAll]
  | cons entry rest ih =>
      have hStep : ∀ ds, replaceAll (entry :: rest) ds =
          replaceAll rest
            (Text.replaceChar entry.1 entry.2 ds) :=
        fun ds => rfl
      simp only [hStep]
      rw [ih, Text.replaceChar, List.flatMap_assoc]
      refine congrArg (cs.flatMap ·) (funext fun c => ?_)
      rw [← ih, Text.replaceChar, List.flatMap_singleton]

/-
  No spelling is rewritten but by the replacement it comes
  from: the backslash that the others write is never
  replaced, as its turn is over.
-/
theorem replaceAll_singleton (c : Char) :
    replaceAll replacements [c] = escapeChar c := by
  by_cases hMark : c ∈ marks
  · have hCases : c = '\\' ∨ c = '\'' ∨ c = '$' ∨
        c = '\n' ∨ c = '\r' := by
      simpa [marks, lineBreaks] using hMark
    rcases hCases with rfl | rfl | rfl | rfl | rfl
    · decide
    · decide
    · decide
    · decide
    · decide
  · have hOthers : c ≠ '\\' ∧ c ≠ '\'' ∧ c ≠ '$' ∧
        c ≠ '\n' ∧ c ≠ '\r' := by
      simpa [marks, lineBreaks] using hMark
    rcases hOthers with
      ⟨hBackslash, hQuote, hDollar, hFeed, hReturn⟩
    simp [replaceAll, replacements, Text.replaceChar,
      escapeChar, hBackslash, hQuote, hDollar, hFeed,
      hReturn]

theorem escapedInTurn_eq (cs : List Char) :
    escapedInTurn cs = cs.flatMap escapeChar := by
  rw [escapedInTurn, replaceAll_eq_flatMap]
  simp only [replaceAll_singleton]

/- With the backslash last, its own spellings are spoiled. -/
example :
    replaceAll replacements.reverse ['\''] =
      ['\\', '\\', '\''] := by
  decide

------------------------------------------------------------
-- Literals
------------------------------------------------------------

theorem Denotes.unique
    {body text other : List Char}
    (hText : Denotes body text)
    (hOther : Denotes body other) :
    other = text := by
  have hRead := hOther.readBody? []
  rw [hText.readBody? []] at hRead
  cases hRead
  rfl

theorem literal_injective :
    Function.Injective literal := by
  intro s t hEq
  have hRead := readLiteral?_literal s
  rw [hEq, readLiteral?_literal] at hRead
  exact (Option.some.inj hRead).symm

/-
  The literal of a text is its spelling between quotes, with
  one character after the other replaced. The spelling has
  no quote, no dollar sign and no line break that is not
  escaped, it denotes the text alone, and the literal is
  read to its end as the text. Hence it tells the text.
-/
theorem literals_read_back :
    (∀ s : String, ∃ body,
      (literal s).toList = '\'' :: (body ++ ['\'']) ∧
        body = escapedInTurn s.toList ∧
        Denotes body s.toList ∧
        (∀ text, Denotes body text → text = s.toList) ∧
        (∀ c ∈ (literal s).toList, c ∉ lineBreaks) ∧
        readLiteral? (literal s) = some s) ∧
      Function.Injective literal := by
  refine ⟨fun s => ?_, literal_injective⟩
  have hDenotes := denotes_escaped s.toList
  have hLiteral : (literal s).toList =
      '\'' :: (s.toList.flatMap escapeChar ++ ['\'']) := by
    rw [literal, String.toList_ofList, literalChars]
  refine ⟨_, hLiteral, (escapedInTurn_eq s.toList).symm,
    hDenotes, fun _ => hDenotes.unique, ?_,
    readLiteral?_literal s⟩
  rw [hLiteral, List.forall_mem_cons,
    List.forall_mem_append, List.forall_mem_singleton]
  exact ⟨by decide, hDenotes.notMem_lineBreaks, by decide⟩

end Dart

end PocketDart
