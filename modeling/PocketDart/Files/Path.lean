import PocketDart.Text.LetterCase.Mapping
import PocketDart.Text.Segments

/-
  This file defines paths of files: how they are read, put
  together and written.

  Key definitions include:
    * `Path`
    * `Path.ofString`
    * `Path.render`
    * `Path.join`
    * `Path.collapse`
    * `Path.hasExtension`
-/

------------------------------------------------------------
-- Paths
------------------------------------------------------------

namespace PocketDart

/-
  The names between the slashes of a path. Empty names and
  single dots are dropped, double dots are kept.
-/
structure Path where
  absolute : Bool
  parts : List String
  deriving DecidableEq, Repr

namespace Path

/- Read a path. -/
def ofString (s : String) : Path :=
  let names := (Text.pieces '/' s.toList).map String.ofList
  { absolute := s.toList.head? = some '/'
    parts := names.filter fun name =>
      name ≠ "" ∧ name ≠ "." }

/- Write a path; the one without names is a dot. -/
def render (path : Path) : String :=
  let names := "/".intercalate path.parts
  if path.absolute then "/" ++ names
  else if path.parts.isEmpty then "."
  else names

/- A path below another; an absolute one stands alone. -/
def join (path below : Path) : Path :=
  if below.absolute then below
  else { path with parts := path.parts ++ below.parts }

/- The path without its last name. -/
def parent (path : Path) : Path :=
  { path with parts := path.parts.dropLast }

/- The last name. -/
def name (path : Path) : String :=
  path.parts.getLast?.getD ""

------------------------------------------------------------
-- Double Dots
------------------------------------------------------------

/- Let every double dot take back the name before it. -/
def collapseParts
    (absolute : Bool)
    (kept : List String) : List String → List String
  | [] => kept.reverse
  | ".." :: rest =>
      match kept with
      | [] =>
          if absolute then collapseParts absolute [] rest
          else collapseParts absolute [".."] rest
      | ".." :: _ =>
          collapseParts absolute (".." :: kept) rest
      | _ :: before => collapseParts absolute before rest
  | name :: rest =>
      collapseParts absolute (name :: kept) rest

/-
  The path that is left when double dots are resolved by the
  letter, whatever the names stand for.
-/
def collapse (path : Path) : Path :=
  { path with
    parts := collapseParts path.absolute [] path.parts }

------------------------------------------------------------
-- Extensions
------------------------------------------------------------

/-
  The last dot of a name and what follows it. A dot at the
  start or the end begins no extension.
-/
def extension (name : String) : List Char :=
  let cs := name.toList
  let after := (cs.reverse.takeWhile (· ≠ '.')).reverse
  if after.isEmpty ∨ cs.length ≤ after.length + 1 then []
  else '.' :: after

/- Whether a path has an extension, in any letter case. -/
def hasExtension
    (path : Path)
    (wanted : String) : Bool :=
  Text.lowerAll (extension path.name) = wanted.toList

end Path

end PocketDart
