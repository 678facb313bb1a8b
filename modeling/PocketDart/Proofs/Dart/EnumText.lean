import PocketDart.Proofs.Dart.Meaning
import PocketDart.Proofs.Dart.TextReader
import PocketDart.Proofs.Lookup
import PocketDart.Proofs.Model.Lines

/-
  This file defines how the text of an enum is read: its
  constants and the entries of its two tables, in the order
  in which they stand there. It proves that what was written
  for an enum is read as the enum.

  Key definitions include:
    * `Dart.EnumText`
    * `Dart.readEnum?`
    * `Dart.EnumText.IsInverse`

  Key theorems include:
    * `Dart.TextReader.run_declaration`
    * `Dart.TextReader.run_table`
    * `Dart.EnumText.isInverse_of_pairs`
-/

------------------------------------------------------------
-- Enums
------------------------------------------------------------

namespace PocketDart

namespace Dart

/-
  What the text of an enum says: its constants, the table
  from constants to values, and the one back.
-/
structure EnumText where
  type : String
  constants : List String
  toMap : List (String × String)
  fromMap : List (String × String)
  deriving DecidableEq, Repr

namespace TextReader

variable {A : Type}

def constantRow : TextReader String := do
  expect "  "
  before ",\n"

/- The row of a constant in the table to values. -/
def toMapRow
    (type : String) : TextReader (String × String) := do
  expect ("  " ++ type ++ ".")
  let name ← before ": "
  let value ← literalText
  expect ",\n"
  return (name, value)

/- The row of a value in the table to constants. -/
def fromMapRow
    (type : String) : TextReader (String × String) := do
  expect "  "
  let value ← literalText
  expect (": " ++ type ++ ".")
  let name ← before ",\n"
  return (value, name)

/- The declaration of an enum, and the empty line behind. -/
def declaration : TextReader (String × List String) := do
  expect "enum "
  let type ← before (" " ++ openBrace ++ "\n")
  let constants ← rows constantRow (closeBrace ++ "\n\n")
  return (type, constants)

/-
  The name and the rows of a table between two types, and
  the empty line behind.
-/
def table
    (keyType valueType : String)
    (row : TextReader (String × String)) :
    TextReader (String × List (String × String)) := do
  expect "const "
  let name ← before
    (" = <" ++ keyType ++ ", " ++ valueType ++ ">" ++
      openBrace ++ "\n")
  let pairs ← rows row (closeBrace ++ ";\n\n")
  return (name, pairs)

/- The declaration of an enum and its two tables. -/
def enumText : TextReader EnumText := do
  let (type, constants) ← declaration
  let (_, toMap) ← table type "String" (toMapRow type)
  let (_, fromMap) ← table "String" type (fromMapRow type)
  return { type, constants, toMap, fromMap }

------------------------------------------------------------
-- Reading What Was Written for an Enum
------------------------------------------------------------

theorem run_constantRow
    {name : String}
    (hName : IsWord name)
    (rest : List Char) :
    constantRow.run
        ((("  " ++ name ++ ",").toList ++ ['\n']) ++ rest) =
      some (name, rest) := by
  have hText :
      (("  " ++ name ++ ",").toList ++ ['\n']) ++ rest =
        "  ".toList ++ (name.toList ++
          (",\n".toList ++ rest)) := by
    simp
  have hComma : ',' ∉ name.toList :=
    hName.notMem (by decide) (by decide)
  rw [hText, constantRow,
    run_bind_of_some (run_expect _ _),
    run_before (by decide) hComma]

def entryLine (entry : Atom × Atom) : List Char :=
  ("  " ++ entry.1.render ++ ": " ++ entry.2.render ++
    ",").toList ++ ['\n']

theorem run_toMapRow
    {name : String}
    (hName : IsWord name)
    (type value : String)
    (rest : List Char) :
    (toMapRow type).run
        (entryLine (.constant type name,
          .text value) ++ rest) =
      some ((name, value), rest) := by
  have hText :
      entryLine (.constant type name,
          .text value) ++ rest =
        ("  " ++ type ++ ".").toList ++ (name.toList ++
          (": ".toList ++ ((literal value).toList ++
            (",\n".toList ++ rest)))) := by
    simp [entryLine, Atom.render]
  have hColon : ':' ∉ name.toList :=
    hName.notMem (by decide) (by decide)
  rw [hText, toMapRow, run_bind_of_some (run_expect _ _),
    run_bind_of_some (run_before (by decide) hColon _),
    run_bind_of_some (run_literalText _ _),
    run_bind_of_some (run_expect _ _)]
  rfl

theorem run_fromMapRow
    {name : String}
    (hName : IsWord name)
    (type value : String)
    (rest : List Char) :
    (fromMapRow type).run
        (entryLine (.text value,
          .constant type name) ++ rest) =
      some ((value, name), rest) := by
  have hText :
      entryLine (.text value,
          .constant type name) ++ rest =
        "  ".toList ++ ((literal value).toList ++
          ((": " ++ type ++ ".").toList ++ (name.toList ++
            (",\n".toList ++ rest)))) := by
    simp [entryLine, Atom.render]
  have hComma : ',' ∉ name.toList :=
    hName.notMem (by decide) (by decide)
  rw [hText, fromMapRow, run_bind_of_some (run_expect _ _),
    run_bind_of_some (run_literalText _ _),
    run_bind_of_some (run_expect _ _),
    run_bind_of_some (run_before (by decide) hComma _)]
  rfl

/- A declaration is read as the type and its constants. -/
theorem run_declaration
    {type : String}
    (hType : IsWord type)
    {names : List String}
    (hNames : ∀ name ∈ names, IsWord name)
    (rest : List Char) :
    declaration.run
        (block (["enum " ++ type ++ " " ++ openBrace] ++
          names.map (fun name => "  " ++ name ++ ",") ++
            [closeBrace] ++ [""]) ++ rest) =
      some ((type, names), rest) := by
  have hText :
      block (["enum " ++ type ++ " " ++ openBrace] ++
          names.map (fun name => "  " ++ name ++ ",") ++
            [closeBrace] ++ [""]) ++ rest =
        "enum ".toList ++ (type.toList ++
          ((" " ++ openBrace ++ "\n").toList ++
            (names.flatMap (fun name =>
              ("  " ++ name ++ ",").toList ++ ['\n']) ++
              ((closeBrace ++ "\n\n").toList ++ rest)))) := by
    simp [block_append, block_cons, block_map]
  have hSpace : ' ' ∉ type.toList :=
    hType.notMem (by decide) (by decide)
  have hIndent : ∀ name : String, "  ".toList <+:
      ("  " ++ name ++ ",").toList ++ ['\n'] := by
    intro name
    simp only [String.toList_append, List.append_assoc]
    exact List.prefix_append _ _
  rw [hText, declaration, run_bind_of_some (run_expect _ _),
    run_bind_of_some (run_before (by decide) hSpace _),
    run_bind_of_some (run_rows hIndent (by decide)
      (fun name hName =>
        run_constantRow (hNames name hName)) _),
    List.map_id']
  rfl

theorem run_table
    {name : String}
    (hName : IsWord name)
    (keyType valueType : String)
    {row : TextReader (String × String)}
    {values : List A}
    {write : A → Atom × Atom}
    {read : A → String × String}
    (hRow : ∀ value ∈ values, ∀ rest,
      row.run (entryLine (write value) ++ rest) =
        some (read value, rest))
    (rest : List Char) :
    (table keyType valueType row).run
        (block (Table.lines
          { name, keyType, valueType
            entries := values.map write } ++ [""]) ++
          rest) =
      some ((name, values.map read), rest) := by
  have hText :
      block (Table.lines
          { name, keyType, valueType
            entries := values.map write } ++ [""]) ++
          rest =
        "const ".toList ++ (name.toList ++
          ((" = <" ++ keyType ++ ", " ++ valueType ++ ">" ++
            openBrace ++ "\n").toList ++
            (values.flatMap (fun value =>
              entryLine (write value)) ++
              ((closeBrace ++ ";\n\n").toList ++
                rest)))) := by
    simp [Table.lines, block, entryLine, List.flatMap_map]
  have hSpace : ' ' ∉ name.toList :=
    hName.notMem (by decide) (by decide)
  have hMark : (" = <" ++ keyType ++ ", " ++ valueType ++
      ">" ++ openBrace ++ "\n").toList.head? =
        some ' ' := by
    simp
  have hIndent : ∀ value, "  ".toList <+:
      entryLine (write value) := by
    intro value
    simp only [entryLine, String.toList_append,
      List.append_assoc]
    exact List.prefix_append _ _
  rw [hText, table, run_bind_of_some (run_expect _ _),
    run_bind_of_some (run_before hMark hSpace _),
    run_bind_of_some (run_rows hIndent (by decide) hRow _)]
  rfl

end TextReader

/- The enum that a text begins with. -/
def readEnum? (text : String) : Option EnumText :=
  TextReader.enumText.run' text.toList

------------------------------------------------------------
-- Tables as Functions
------------------------------------------------------------

namespace EnumText

def valueOf?
    (text : EnumText)
    (constant : String) : Option String :=
  text.toMap.lookup constant

def constantOf?
    (text : EnumText)
    (value : String) : Option String :=
  text.fromMap.lookup value

/-
  The tables are total, the one on the constants and the
  other on some values, and they undo each other.
-/
structure IsInverse
    (text : EnumText)
    (values : List String) : Prop where
  constants : ∀ constant,
    (text.valueOf? constant).isSome ↔
      constant ∈ text.constants
  values : ∀ value,
    (text.constantOf? value).isSome ↔ value ∈ values
  inverse : ∀ constant value,
    text.valueOf? constant = some value ↔
      text.constantOf? value = some constant

theorem lookup_eq_some_iff
    {entries : List (String × String)}
    (hDistinct : (entries.map (·.1)).Nodup)
    {key value : String} :
    entries.lookup key = some value ↔
      (key, value) ∈ entries := by
  constructor
  · exact Lookup.mem_of_lookup
  · exact lookup_of_mem hDistinct

/- A table that pairs every value once has an inverse. -/
theorem isInverse_of_pairs
    {pairs : List (String × String)}
    (hNames : (pairs.map (·.1)).Nodup)
    (hValues : (pairs.map (·.2)).Nodup)
    (type : String) :
    IsInverse
      { type, constants := pairs.map (·.1), toMap := pairs
        fromMap := pairs.map Prod.swap }
      (pairs.map (·.2)) := by
  have hKeys : ((pairs.map Prod.swap).map (·.1)).Nodup := by
    rwa [List.map_map]
  have hSwap : ∀ constant value,
      (value, constant) ∈ pairs.map Prod.swap ↔
        (constant, value) ∈ pairs := by
    intro constant value
    constructor
    · intro hMem
      rcases List.mem_map.mp hMem with ⟨pair, hPair, hEq⟩
      rcases Prod.mk.inj hEq with ⟨rfl, rfl⟩
      exact hPair
    · exact fun hMem => List.mem_map.mpr ⟨_, hMem, rfl⟩
  constructor
  · intro constant
    simp [valueOf?, Option.isSome_iff_exists,
      lookup_eq_some_iff hNames]
  · intro value
    simp only [constantOf?, Option.isSome_iff_exists,
      lookup_eq_some_iff hKeys, hSwap]
    simp
  · intro constant value
    rw [valueOf?, constantOf?, lookup_eq_some_iff hNames,
      lookup_eq_some_iff hKeys, hSwap]

end EnumText

end Dart

end PocketDart
