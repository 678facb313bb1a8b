import PocketDart.Dart.Literal

/-
  This file proves that a literal means the text that it was
  written for. A literal is read as Dart reads one in single
  quotes: up to the first quote that no backslash precedes,
  and without interpolations and line breaks. What may stand
  between the quotes, and what it denotes, is also given by
  rules, and the reader follows the rules.

  Key definitions include:
    * `Dart.readBody?`
    * `Dart.readLiteral?`
    * `Dart.Denotes`

  Key theorems include:
    * `Dart.Denotes.readBody?`
    * `Dart.denotes_escaped`
    * `Dart.readLiteral?_literal`
-/

------------------------------------------------------------
-- Reading
------------------------------------------------------------

namespace PocketDart

namespace Dart

/- What a character means behind a backslash. -/
def unescape (c : Char) : Char :=
  if c = 'n' then '\n'
  else if c = 'r' then '\r'
  else c

/-
  What stands before the closing quote, and what follows
  the quote. A dollar sign would start an interpolation.
-/
def readBody? :
    List Char → Option (List Char × List Char)
  | [] => none
  | '\\' :: [] => none
  | '\\' :: c :: rest => do
      let (text, after) ← readBody? rest
      return (unescape c :: text, after)
  | c :: rest =>
      if c = '\'' then some ([], rest)
      else if c = '$' ∨ c = '\n' ∨ c = '\r' then none
      else do
        let (text, after) ← readBody? rest
        return (c :: text, after)

/- The text of a literal that ends with its quote. -/
def readLiteral? (spelling : String) : Option String :=
  match spelling.toList with
  | '\'' :: rest =>
      match readBody? rest with
      | some (text, []) => some (String.ofList text)
      | _ => none
  | _ => none

------------------------------------------------------------
-- Rules
------------------------------------------------------------

def lineBreaks : List Char := ['\n', '\r']

/-
  The characters that do not stand for themselves: the
  backslash, the quote that ends a literal, the dollar sign
  of an interpolation, and the line breaks.
-/
def marks : List Char :=
  ['\\', '\'', '$'] ++ lineBreaks

/-
  What may stand between the quotes of a literal, and the
  text that it denotes. A backslash takes the character
  behind it along; all other marks are missing.
-/
inductive Denotes : List Char → List Char → Prop where
  | nil : Denotes [] []
  | plain {c : Char} {body text : List Char}
      (hPlain : c ∉ marks)
      (hRest : Denotes body text) :
      Denotes (c :: body) (c :: text)
  | escaped {c : Char} {body text : List Char}
      (hLine : c ∉ lineBreaks)
      (hRest : Denotes body text) :
      Denotes ('\\' :: c :: body) (unescape c :: text)

namespace Denotes

variable {body more text rest : List Char}

theorem append
    (hFirst : Denotes body text)
    (hLater : Denotes more rest) :
    Denotes (body ++ more) (text ++ rest) := by
  induction hFirst with
  | nil => exact hLater
  | plain hPlain _ ih => exact .plain hPlain ih
  | escaped hLine _ ih => exact .escaped hLine ih

theorem notMem_lineBreaks
    (hDenotes : Denotes body text) :
    ∀ c ∈ body, c ∉ lineBreaks := by
  induction hDenotes with
  | nil => exact nofun
  | plain hPlain _ ih =>
      rw [List.forall_mem_cons]
      exact ⟨fun hBreak => hPlain
        (List.mem_append_right _ hBreak), ih⟩
  | escaped hLine _ ih =>
      rw [List.forall_mem_cons, List.forall_mem_cons]
      exact ⟨by decide, hLine, ih⟩

/- The reader finds the text and what follows the quote. -/
theorem readBody?
    (hDenotes : Denotes body text)
    (after : List Char) :
    Dart.readBody? (body ++ '\'' :: after) =
      some (text, after) := by
  induction hDenotes with
  | nil => rfl
  | @plain c body text hPlain _ ih =>
      have hOthers : c ≠ '\\' ∧ c ≠ '\'' ∧ c ≠ '$' ∧
          c ≠ '\n' ∧ c ≠ '\r' := by
        simpa [marks, lineBreaks] using hPlain
      rcases hOthers with
        ⟨hBackslash, hQuote, hDollar, hFeed, hReturn⟩
      rw [List.cons_append, Dart.readBody?.eq_4, ih]
      · simp [hQuote, hDollar, hFeed, hReturn]
      · exact fun h _ => hBackslash h
      · exact fun _ _ h _ => hBackslash h
  | @escaped c body text _ _ ih =>
      rw [List.cons_append, List.cons_append,
        Dart.readBody?.eq_3, ih]
      rfl

end Denotes

------------------------------------------------------------
-- Written Literals
------------------------------------------------------------

theorem denotes_escapeChar (c : Char) :
    Denotes (escapeChar c) [c] := by
  unfold escapeChar
  split
  · next hMarked =>
      rcases hMarked with rfl | rfl | rfl
      · exact .escaped (by decide) .nil
      · exact .escaped (by decide) .nil
      · exact .escaped (by decide) .nil
  split
  · next hFeed =>
      subst hFeed
      exact .escaped (by decide) .nil
  split
  · next hReturn =>
      subst hReturn
      exact .escaped (by decide) .nil
  · next hMarked hFeed hReturn =>
      refine .plain ?_ .nil
      simpa [marks, lineBreaks, hFeed, hReturn]
        using hMarked

/- The escaped characters of a text denote the text. -/
theorem denotes_escaped (cs : List Char) :
    Denotes (cs.flatMap escapeChar) cs := by
  induction cs with
  | nil => exact .nil
  | cons c rest ih =>
      rw [List.flatMap_cons]
      exact (denotes_escapeChar c).append ih

theorem readBody?_literalBody
    (cs after : List Char) :
    readBody? (cs.flatMap escapeChar ++ '\'' :: after) =
      some (cs, after) :=
  (denotes_escaped cs).readBody? after

/- The literal of a text is read as the text. -/
@[simp]
theorem readLiteral?_literal (s : String) :
    readLiteral? (literal s) = some s := by
  unfold readLiteral? literal literalChars
  rw [String.toList_ofList]
  simp only [readBody?_literalBody, String.ofList_toList]

end Dart

end PocketDart
