/-
  This file defines what the program shows on the console,
  and a plain form of it for where there are no colours and
  no frames.

  Key definitions include:
    * `Table`
    * `Shown`
    * `Shown.plain`
-/

------------------------------------------------------------
-- Shown Things
------------------------------------------------------------

namespace PocketDart

/- A table with a title and a header. -/
structure Table where
  title : String
  columns : List String
  rows : List (List String)
  deriving DecidableEq, Repr

/-
  What is shown in one go: a line with marks for colours in
  brackets, a framed text, framed code, or a table.
-/
inductive Shown where
  | blank
  | line (text : String)
  | panel (title text : String)
  | listing (title source : String)
  | summary (table : Table)
  deriving DecidableEq, Repr

------------------------------------------------------------
-- Plain Forms
------------------------------------------------------------

/-
  Whether a mark begins with a character: it stands in
  brackets and starts with a small letter or a slash.
-/
def startsMark
    (c : Char)
    (rest : List Char) : Bool :=
  c = '[' && rest.contains ']' &&
    rest.head?.any fun d => d.isLower || d = '/'

def withoutMarks (inMark : Bool) : List Char → List Char
  | [] => []
  | c :: rest =>
      if inMark then withoutMarks (c ≠ ']') rest
      else if startsMark c rest then withoutMarks true rest
      else c :: withoutMarks false rest

/- A text as it is read, without marks. -/
def unmarked (s : String) : String :=
  String.ofList (withoutMarks false s.toList)

/- A text filled with blanks up to a width. -/
def padTo
    (width : Nat)
    (s : String) : String :=
  s ++ String.ofList (List.replicate (width - s.length) ' ')

/- The width of the first column of a table. -/
def Table.width (table : Table) : Nat :=
  ((table.columns :: table.rows).map fun row =>
    (row.head?.getD "").length).foldl max 0

def Table.rowLine
    (table : Table)
    (row : List String) : String :=
  match row with
  | [] => ""
  | first :: rest =>
      " ".intercalate (padTo table.width first :: rest)

/- A table with its title and a line for each row. -/
def Table.plain (table : Table) : String :=
  let rows :=
    (table.columns :: table.rows).map (·.map unmarked)
  "\n".intercalate
    (table.title :: rows.map table.rowLine) ++ "\n"

def Shown.plain : Shown → String
  | .blank => "\n"
  | .line text => unmarked text ++ "\n"
  | .panel title text => title ++ "\n" ++ text ++ "\n"
  | .listing title source =>
      title ++ "\n" ++ source ++ "\n"
  | .summary table => table.plain

end PocketDart
