import PocketDart.Files.Path
import PocketDart.Text.Quoted
import PocketDart.Text.Utf8

/-
  This file defines trees of files, and what reading,
  writing and making directories do to them.

  Key definitions include:
    * `FileNode`
    * `FileTree`
    * `SystemFault`
    * `FileError`
    * `FileTree.locate`
    * `FileTree.readFile`
    * `FileTree.writeFile`
    * `FileTree.makeDirectories`

  Key theorems include:
    * `FileTree.node?_set_self`
    * `FileTree.node?_set_ne`
-/

------------------------------------------------------------
-- Trees
------------------------------------------------------------

namespace PocketDart

/- What stands at a place of a tree. -/
inductive FileNode where
  | directory
  | file (bytes : List UInt8)
  deriving DecidableEq, Repr

/- A place: the names on the way from the root. -/
abbrev Location :=
  List String

/-
  The nodes of a tree by their places, latest first, and the
  place where relative paths start. The root is a directory
  that is always there. Some characters of texts and paths
  stand for halves of surrogate pairs.
-/
structure FileTree where
  nodes : List (Location × FileNode) := []
  start : Location := []
  surrogate? : Char → Option Nat := fun _ => none

namespace FileTree

/- The tree of the root alone. -/
def empty : FileTree :=
  {}

/- What stands at a place. -/
def node?
    (tree : FileTree)
    (location : Location) : Option FileNode :=
  if location = [] then some .directory
  else tree.nodes.lookup location

/- Put something at a place. -/
def set
    (tree : FileTree)
    (location : Location)
    (node : FileNode) : FileTree :=
  { tree with nodes := (location, node) :: tree.nodes }

/- What was put at a place stands there. -/
@[simp]
theorem node?_set_self
    (tree : FileTree)
    {location : Location}
    (h : location ≠ [])
    (node : FileNode) :
    (tree.set location node).node? location = some node := by
  simp [node?, set, h]

/- Other places are not disturbed. -/
@[simp]
theorem node?_set_ne
    (tree : FileTree)
    {location other : Location}
    (h : other ≠ location)
    (node : FileNode) :
    (tree.set location node).node? other =
      tree.node? other := by
  have hBeq : (other == location) = false :=
    beq_eq_false_iff_ne.mpr h
  simp [node?, set, List.lookup_cons, hBeq]

------------------------------------------------------------
-- Errors
------------------------------------------------------------

end FileTree

/- What the system can say against an operation. -/
inductive SystemFault where
  | noEntry
  | exists
  | notDirectory
  | isDirectory
  | nameTooLong
  deriving DecidableEq, Repr

namespace SystemFault

def number : SystemFault → Nat
  | .noEntry => 2
  | .exists => 17
  | .notDirectory => 20
  | .isDirectory => 21
  | .nameTooLong => 36

/- A fault in words. -/
def text : SystemFault → String
  | .noEntry => "No such file or directory"
  | .exists => "File exists"
  | .notDirectory => "Not a directory"
  | .isDirectory => "Is a directory"
  | .nameTooLong => "File name too long"

end SystemFault

/-
  Why an operation on a path fails: the system is against
  it, the path cannot be given to the system, the text that
  is to be written has no bytes, or too many directories are
  missing at once.
-/
inductive FileError where
  | system (fault : SystemFault) (path : String)
  | zeroInPath
  | pathNotEncoded (error : Utf8.EncodeError)
  | textNotEncoded (error : Utf8.EncodeError)
  | tooDeep
  deriving DecidableEq, Repr

/- An error in words. -/
def FileError.message : FileError → String
  | .system fault path =>
      "[Errno " ++ toString fault.number ++ "] " ++
        fault.text ++ ": " ++ Text.quoted path
  | .zeroInPath => "embedded null byte"
  | .pathNotEncoded error => error.message
  | .textNotEncoded error => error.message
  | .tooDeep =>
      "maximum recursion depth exceeded while calling a " ++
        "Python object"

------------------------------------------------------------
-- Places of Paths
------------------------------------------------------------

namespace FileTree

/- The longest name and the longest path, in bytes. -/
def maxNameLength : Nat := 255
def maxPathLength : Nat := 4095

/- One step from a directory; the root is its own parent. -/
def enter
    (location : Location)
    (name : String) : Except SystemFault Location :=
  if name = ".." then .ok location.dropLast
  else if name.utf8ByteSize > maxNameLength then
    .error .nameTooLong
  else .ok (location ++ [name])

/-
  Follow names from a directory. All but the last have to
  lead to directories.
-/
def follow
    (tree : FileTree)
    (location : Location) :
    List String → Except SystemFault Location
  | [] => .ok location
  | [name] => enter location name
  | name :: rest => do
      let next ← enter location name
      match tree.node? next with
      | none => .error .noEntry
      | some (.file _) => .error .notDirectory
      | some .directory => follow tree next rest

/-
  Whether a character has bytes in a path: bytes that are no
  text are kept there as halves of surrogate pairs.
-/
def hasPathBytes
    (tree : FileTree)
    (c : Char) : Bool :=
  (tree.surrogate? c).all fun unit =>
    0xDC80 ≤ unit && unit ≤ 0xDCFF

/-
  Whether a path can be given to the system: the character
  zero is in no name, and all names have bytes.
-/
def admits
    (tree : FileTree)
    (path : Path) : Bool :=
  path.parts.all fun name =>
    name.toList.all fun c => c ≠ '\x00' && tree.hasPathBytes c

/- What is said against another path. -/
def pathError
    (tree : FileTree)
    (path : Path) : FileError :=
  if path.render.toList.all tree.hasPathBytes then .zeroInPath
  else
    .pathNotEncoded <|
      Utf8.encodeError tree.surrogate? (!tree.hasPathBytes ·)
        path.render

/-
  The place of a path. A path that is too long as a whole is
  not followed.
-/
def locate
    (tree : FileTree)
    (path : Path) : Except FileError Location :=
  let start := if path.absolute then [] else tree.start
  let place : Except SystemFault Location :=
    if path.render.utf8ByteSize > maxPathLength then
      .error .nameTooLong
    else follow tree start path.parts
  if tree.admits path then
    place.mapError fun fault => .system fault path.render
  else .error (tree.pathError path)

/-
  Whether there is something at a path. What cannot be
  reached is not there; only a name that is too long is an
  error.
-/
def exists?
    (tree : FileTree)
    (path : Path) : Except FileError Bool :=
  match tree.locate path with
  | .ok location => .ok (tree.node? location).isSome
  | .error (.system .nameTooLong name) =>
      .error (.system .nameTooLong name)
  | .error _ => .ok false

------------------------------------------------------------
-- Operations
------------------------------------------------------------

/- The bytes of a file. -/
def readFile
    (tree : FileTree)
    (path : Path) : Except FileError (List UInt8) := do
  let location ← tree.locate path
  match tree.node? location with
  | none => .error (.system .noEntry path.render)
  | some .directory =>
      .error (.system .isDirectory path.render)
  | some (.file bytes) => .ok bytes

/- Whether all characters of a text have bytes. -/
def encodes
    (tree : FileTree)
    (text : String) : Bool :=
  text.toList.all fun c => (tree.surrogate? c).isNone

/- Write a file, in place of one that is there. -/
def writeFile
    (tree : FileTree)
    (path : Path)
    (text : String) : Except FileError FileTree := do
  let location ← tree.locate path
  match tree.node? location with
  | some .directory =>
      .error (.system .isDirectory path.render)
  | _ =>
      if tree.encodes text then
        .ok (tree.set location (.file (Utf8.encode text)))
      else
        .error <| .textNotEncoded <|
          Utf8.encodeError tree.surrogate?
            (tree.surrogate? · |>.isSome) text

/-
  The tree after a file was not written. That a text has no
  bytes is only noticed when its file was emptied.
-/
def afterFailure
    (tree : FileTree)
    (path : Path) : FileError → FileTree
  | .textNotEncoded _ =>
      match tree.locate path with
      | .ok location => tree.set location (.file [])
      | .error _ => tree
  | _ => tree

def makeDirectory
    (tree : FileTree)
    (path : Path) : Except FileError FileTree := do
  let location ← tree.locate path
  match tree.node? location with
  | some _ => .error (.system .exists path.render)
  | none => .ok (tree.set location .directory)

def isDirectory
    (tree : FileTree)
    (path : Path) : Bool :=
  match tree.locate path with
  | .ok location => tree.node? location = some .directory
  | .error _ => false

/-
  Make a directory that may be there already. The faults of
  making it count only when it is not there.
-/
def ensureDirectory
    (tree : FileTree)
    (path : Path) : Except FileError FileTree :=
  match tree.makeDirectory path with
  | .ok tree => .ok tree
  | .error e =>
      if tree.isDirectory path then .ok tree else .error e

/- The tree after an operation, and what went wrong. -/
def settle
    (tree : FileTree) :
    Except FileError FileTree →
      FileTree × Option FileError
  | .ok tree => (tree, none)
  | .error e => (tree, some e)

/-
  Make a directory, and before it those on the way to it
  that are missing. What was made on the way stays when
  something goes wrong.
-/
def ensurePath
    (absolute : Bool)
    (tree : FileTree) :
    (levels : Nat) → (reversed : List String) →
      FileTree × Option FileError
  | 0, _ => (tree, some .tooDeep)
  | _, [] =>
      tree.settle (tree.ensureDirectory ⟨absolute, []⟩)
  | levels + 1, name :: before =>
      let path : Path := ⟨absolute, (name :: before).reverse⟩
      match tree.ensureDirectory path with
      | .error (.system .noEntry _) =>
          match ensurePath absolute tree levels before with
          | (tree, none) =>
              tree.settle (tree.ensureDirectory path)
          | failed => failed
      | result => tree.settle result

/-
  Make a directory with all those on the way to it, of which
  fewer than so many may be missing.
-/
def makeDirectories
    (levels : Nat)
    (tree : FileTree)
    (path : Path) : FileTree × Option FileError :=
  ensurePath path.absolute tree levels path.parts.reverse

------------------------------------------------------------
-- Differences
------------------------------------------------------------

/- The places of a tree, each once. -/
def locations (tree : FileTree) : List Location :=
  (tree.nodes.map (·.1)).eraseDups

/- A place as it is listed: directories end in a slash. -/
def listed
    (location : Location)
    (node : FileNode) : String :=
  match node with
  | .directory => "/".intercalate location ++ "/"
  | .file _ => "/".intercalate location

/-
  What is new or different in a later tree, by its listed
  names in order of code points.
-/
def changes
    (earlier later : FileTree) :
    List (String × FileNode) :=
  let changed := later.locations.filterMap fun location =>
    match later.node? location with
    | none => none
    | some node =>
        if earlier.node? location = some node then none
        else some (listed location node, node)
  changed.mergeSort fun a b => a.1 ≤ b.1

/- Put a directory at a place where nothing is. -/
def fill
    (tree : FileTree)
    (location : Location) : FileTree :=
  match tree.node? location with
  | some _ => tree
  | none => tree.set location .directory

/- Put a node at a place with directories on the way. -/
def place
    (tree : FileTree)
    (location : Location)
    (node : FileNode) : FileTree :=
  let onTheWay :=
    (List.range location.length).map (location.take ·)
  (onTheWay.foldl fill tree).set location node

end FileTree

end PocketDart
