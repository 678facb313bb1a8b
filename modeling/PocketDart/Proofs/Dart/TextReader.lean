import Mathlib.Data.List.Basic
import PocketDart.Proofs.Dart.Word

/-
  This file defines the readers of texts that the readings
  of a source are put together from, and proves that each
  finds what stands in front of it. A name is taken up to
  the mark behind it or as long as it lasts, a literal as
  Dart reads one, and rows up to the line behind them.

  Key definitions include:
    * `Dart.TextReader`
    * `Dart.TextReader.before`
    * `Dart.TextReader.branch`
    * `Dart.TextReader.upToLast`
    * `Dart.TextReader.rows`

  Key theorems include:
    * `Dart.TextReader.run_before`
    * `Dart.TextReader.run_word`
    * `Dart.TextReader.run_upToLast`
    * `Dart.TextReader.run_rows`
-/

------------------------------------------------------------
-- Readers
------------------------------------------------------------

namespace PocketDart

namespace Dart

/- A reader takes a beginning off a text, or it fails. -/
abbrev TextReader :=
  StateT (List Char) Option

namespace TextReader

variable {A B : Type}

/- What comes next has to be a mark. -/
def expect (mark : String) : TextReader Unit :=
  fun cs => do
    let rest ← cs.dropPrefix? mark.toList
    return ((), rest)

/- Go on in one way behind a mark, and else in another. -/
def branch
    (mark : String)
    (found missed : TextReader A) : TextReader A :=
  fun cs =>
    match cs.dropPrefix? mark.toList with
    | some rest => found.run rest
    | none => missed.run cs

def isBefore
    (mark : String)
    (c : Char) : Bool :=
  mark.toList.head? ≠ some c

def before (mark : String) : TextReader String :=
  fun cs => do
    let rest ←
      (cs.dropWhile (isBefore mark)).dropPrefix? mark.toList
    return (.ofList (cs.takeWhile (isBefore mark)), rest)

/- A part of a name, or a line break that passes for one. -/
def isWordChar (c : Char) : Bool :=
  isNamePart c || c = '\n'

/- The longest name that comes next. -/
def word : TextReader String :=
  fun cs =>
    some (.ofList (cs.takeWhile isWordChar),
      cs.dropWhile isWordChar)

/- What a literal means from its first quote on. -/
def literalBody : TextReader String :=
  fun cs => do
    let (text, rest) ← readBody? cs
    return (.ofList text, rest)

def literalText : TextReader String := do
  expect "'"
  literalBody

/- What stands before and behind the last character of a kind. -/
def splitLast?
    (c : Char) :
    List Char → Option (List Char × List Char)
  | [] => none
  | d :: rest =>
      match splitLast? c rest with
      | some (front, after) => some (d :: front, after)
      | none => if d = c then some ([], rest) else none

def upToLast (c : Char) : TextReader String :=
  fun cs => do
    let (front, rest) ← splitLast? c cs
    return (.ofList front, rest)

def within
    (text : String)
    (reader : TextReader A) : TextReader A :=
  fun cs =>
    match reader.run text.toList with
    | some (value, []) => some (value, cs)
    | _ => none

def rowsOf
    (row : TextReader A)
    (last : String)
    (cs : List Char) : Option (List A × List Char) :=
  match cs.dropPrefix? last.toList with
  | some rest => some ([], rest)
  | none =>
      match row.run cs with
      | some (value, rest) =>
          if rest.length < cs.length then do
            let (more, after) ← rowsOf row last rest
            return (value :: more, after)
          else none
      | none => none
termination_by cs.length

def rows
    (row : TextReader A)
    (last : String) : TextReader (List A) :=
  rowsOf row last

------------------------------------------------------------
-- Marks
------------------------------------------------------------

/- What comes after a reader that found something. -/
theorem run_bind_of_some
    {first : TextReader A}
    {cs rest : List Char}
    {value : A}
    (hFirst : first.run cs = some (value, rest))
    (next : A → TextReader B) :
    (first >>= next).run cs = (next value).run rest := by
  rw [StateT.run_bind, hFirst]
  rfl

/- A mark is taken off a text that begins with it. -/
theorem dropPrefix?_append
    (mark : String)
    (rest : List Char) :
    (mark.toList ++ rest).dropPrefix? mark.toList =
      some rest :=
  List.dropPrefix?_append_of_beq rest (beq_self_eq_true _)

theorem dropPrefix?_of_apart
    {mark text : List Char}
    (hApart : Text.Apart mark text)
    (rest : List Char) :
    (text ++ rest).dropPrefix? mark = none := by
  rw [Option.eq_none_iff_forall_ne_some]
  intro after hDrop
  rcases List.dropPrefix?_eq_some_iff.mp hDrop with
    ⟨_, hEq, hSame⟩
  rw [eq_of_beq hSame] at hEq
  exact absurd hEq.symm (hApart.append_ne _ _)

/- A mark is found where it stands. -/
@[simp]
theorem run_expect
    (mark : String)
    (rest : List Char) :
    (expect mark).run (mark.toList ++ rest) =
      some ((), rest) := by
  simp [expect, StateT.run, dropPrefix?_append]

/- The way behind a mark is gone where it stands. -/
@[simp]
theorem run_branch
    (mark : String)
    (found missed : TextReader A)
    (rest : List Char) :
    (branch mark found missed).run (mark.toList ++ rest) =
      found.run rest := by
  simp [branch, StateT.run, dropPrefix?_append]

/- Without the mark the other way is gone. -/
theorem run_branch_of_apart
    {mark : String}
    {text : List Char}
    (hApart : Text.Apart mark.toList text)
    (found missed : TextReader A)
    (rest : List Char) :
    (branch mark found missed).run (text ++ rest) =
      missed.run (text ++ rest) := by
  simp [branch, StateT.run, dropPrefix?_of_apart hApart]

------------------------------------------------------------
-- Names
------------------------------------------------------------

/- A name ends at the first character of a mark. -/
theorem run_before
    {mark word : String}
    {c : Char}
    (hMark : mark.toList.head? = some c)
    (hWord : c ∉ word.toList)
    (rest : List Char) :
    (before mark).run
        (word.toList ++ (mark.toList ++ rest)) =
      some (word, rest) := by
  rcases List.head?_eq_some_iff.mp hMark with ⟨more, hMore⟩
  have hStop : isBefore mark c = false := by
    simp [isBefore, hMark]
  have hBefore : ∀ d ∈ word.toList, isBefore mark d := by
    intro d hMem
    rw [isBefore, hMark, decide_eq_true_eq]
    rintro ⟨rfl⟩
    exact hWord hMem
  have hTake :
      (word.toList ++ (mark.toList ++ rest)).takeWhile
          (isBefore mark) = word.toList := by
    rw [List.takeWhile_append_of_pos hBefore, hMore]
    simp [hStop]
  have hLeft :
      (word.toList ++ (mark.toList ++ rest)).dropWhile
          (isBefore mark) = mark.toList ++ rest := by
    rw [List.dropWhile_append_of_pos hBefore, hMore]
    simp [hStop]
  simp [before, StateT.run, hTake, hLeft,
    dropPrefix?_append]

/- A name ends where no part of a name follows. -/
theorem run_word
    {name : String}
    (hName : IsWord name)
    {rest : List Char}
    (hStop : rest.head?.any isWordChar = false) :
    word.run (name.toList ++ rest) = some (name, rest) := by
  have hParts : ∀ d ∈ name.toList, isWordChar d := by
    intro d hMem
    rw [isWordChar, Bool.or_eq_true, decide_eq_true_eq]
    exact hName.parts d hMem
  have hEnd : rest.takeWhile isWordChar = [] ∧
      rest.dropWhile isWordChar = rest := by
    cases rest with
    | nil => exact ⟨rfl, rfl⟩
    | cons c more =>
        have hNone : isWordChar c = false := hStop
        simp [hNone]
  simp [word, StateT.run, hEnd,
    List.takeWhile_append_of_pos hParts,
    List.dropWhile_append_of_pos hParts]

------------------------------------------------------------
-- Literals
------------------------------------------------------------

/- What is escaped is read as the text up to the quote. -/
@[simp]
theorem run_literalBody
    (s : String)
    (rest : List Char) :
    literalBody.run
        (s.toList.flatMap escapeChar ++ '\'' :: rest) =
      some (s, rest) := by
  simp [literalBody, StateT.run, readBody?_literalBody]

theorem run_literalText
    (s : String)
    (rest : List Char) :
    literalText.run ((literal s).toList ++ rest) =
      some (s, rest) := by
  have hSplit : (literal s).toList ++ rest =
      "'".toList ++
        (s.toList.flatMap escapeChar ++ '\'' :: rest) := by
    simp [literal, literalChars]
  rw [literalText, hSplit, run_bind_of_some (run_expect _ _),
    run_literalBody]

------------------------------------------------------------
-- Last Characters
------------------------------------------------------------

theorem splitLast?_append
    {c : Char}
    {rest : List Char}
    (hLast : c ∉ rest)
    (front : List Char) :
    splitLast? c (front ++ c :: rest) =
      some (front, rest) := by
  have hNone : splitLast? c rest = none := by
    induction rest with
    | nil => rfl
    | cons d more ih =>
        rw [List.mem_cons, not_or] at hLast
        rw [splitLast?, ih hLast.2]
        exact if_neg (Ne.symm hLast.1)
  induction front with
  | nil => simp [splitLast?, hNone]
  | cons d front ih => rw [List.cons_append, splitLast?, ih]

/- The text up to the last character of a kind is taken. -/
theorem run_upToLast
    {c : Char}
    {rest : List Char}
    (hLast : c ∉ rest)
    (front : List Char) :
    (upToLast c).run (front ++ c :: rest) =
      some (.ofList front, rest) := by
  simp [upToLast, StateT.run, splitLast?_append hLast]

theorem run_within
    {reader : TextReader A}
    {text : List Char}
    {value : A}
    (hText : reader.run text = some (value, []))
    (rest : List Char) :
    (within (.ofList text) reader).run rest =
      some (value, rest) := by
  simp [within, StateT.run] at hText ⊢
  rw [hText]

------------------------------------------------------------
-- Rows
------------------------------------------------------------

/-
  Rows are read one after the other, given that each of them
  is and begins with a mark that the last line lacks.
-/
theorem run_rows
    {row : TextReader A}
    {write : B → List Char}
    {read : B → A}
    {mark last : String}
    (hMark : ∀ value, mark.toList <+: write value)
    (hApart : Text.Apart mark.toList last.toList)
    {values : List B}
    (hRow : ∀ value ∈ values, ∀ rest,
      row.run (write value ++ rest) =
        some (read value, rest))
    (rest : List Char) :
    (rows row last).run
        (values.flatMap write ++ (last.toList ++ rest)) =
      some (values.map read, rest) := by
  induction values with
  | nil =>
      rw [List.flatMap_nil, List.nil_append, rows,
        StateT.run, rowsOf, dropPrefix?_append]
      rfl
  | cons value values ih =>
      rw [List.forall_mem_cons] at hRow
      rcases hMark value with ⟨more, hWrite⟩
      have hNone :
          (write value ++ (values.flatMap write ++
              (last.toList ++ rest))).dropPrefix?
            last.toList = none := by
        rw [← hWrite, List.append_assoc]
        exact dropPrefix?_of_apart ⟨hApart.2, hApart.1⟩ _
      have hSome : write value ≠ [] := by
        intro hNil
        apply hApart.1
        rw [hNil, List.append_eq_nil_iff] at hWrite
        rw [hWrite.1]
        exact List.nil_prefix
      have hShorter :
          (values.flatMap write ++
              (last.toList ++ rest)).length <
            (write value ++ (values.flatMap write ++
              (last.toList ++ rest))).length := by
        have hPos := List.length_pos_iff.mpr hSome
        simp only [List.length_append]
        omega
      have hMore := ih hRow.2
      rw [rows, StateT.run] at hMore
      rw [List.flatMap_cons, List.append_assoc, rows,
        StateT.run, rowsOf, hNone]
      simp only [hRow.1, if_pos hShorter, hMore]
      rfl

end TextReader

end Dart

end PocketDart
