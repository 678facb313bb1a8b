import PocketDart.Proofs.Dart.EnumText
import PocketDart.Proofs.Dart.ExpressionText

/-
  This file defines how the source of a model is read as a
  program: the enums, the members with their constants, the
  parameters, and the rows of the factory and of the method
  that writes a record. The type of records is written as it
  is, so that the factory is found from behind: its body is
  the last one with an opening brace before the method.

  Key definitions include:
    * `Dart.TypeName.ofSpelling`
    * `Dart.TextReader.enumPart`
    * `Dart.TextReader.program`
    * `Dart.readProgram?`

  Key theorems include:
    * `Dart.TypeName.ofSpelling_render`
    * `Dart.TextReader.run_lookupFunction`
    * `Dart.TextReader.run_property`
    * `Dart.TextReader.run_pair`
-/

------------------------------------------------------------
-- Readers
------------------------------------------------------------

namespace PocketDart

namespace Dart

/- The type that a spelling tells. -/
def TypeName.ofSpelling (spelling : String) : TypeName :=
  if spelling.toList.getLast? = some '?' then
    ⟨.ofList spelling.toList.dropLast, true⟩
  else ⟨spelling, false⟩

namespace TextReader

/- The comments, and the import with its literal. -/
def header : TextReader Unit := do
  let front ← before "'"
  let _ ← literalBody
  expect ";\n"
  if "import ".toList <:+ front.toList then return ()
  else failure

def lookupFunction (type : String) : TextReader Reader := do
  expect (type ++ " ")
  let name ← before ("(Object? value) " ++ openBrace ++ "\n")
  expect "  final result = "
  let table ← before "[value];\n"
  expect ("  if (result == null) " ++ openBrace ++ "\n" ++
    "    throw ArgumentError.value(value, ")
  let field ← literalText
  expect (", 'Unmapped enum value');\n" ++
    "  " ++ closeBrace ++ "\n" ++
    "  return result;\n" ++ closeBrace ++ "\n")
  return { type, name, table, field }

/- An enum with its tables and its function. -/
def enumPart : TextReader EnumPart := do
  expect "\n"
  let (type, constants) ← declaration
  let (toMap, values) ← table type "String" (toMapRow type)
  let (fromMap, names) ← table "String" type (fromMapRow type)
  let fromWire ← lookupFunction type
  return {
    type, constants, fromWire
    toMap :=
      { name := toMap, keyType := type, valueType := "String"
        entries := values.map fun row =>
          (.constant type row.1, .text row.2) }
    fromMap :=
      { name := fromMap
        keyType := "String", valueType := type
        entries := names.map fun row =>
          (.text row.1, .constant type row.2) } }

/- A member and its constant, and the empty line behind. -/
def property : TextReader Property := do
  expect "  final "
  let type ← before " "
  let member ← before ";\n"
  expect "  static const String "
  let constant ← before " = "
  let wireName ← literalText
  expect ";\n\n"
  return {
    type := .ofSpelling type, member, constant, wireName }

def parameter : TextReader Parameter := do
  expect "    "
  let required ←
    branch "required " (return true) (return false)
  expect "this."
  let member ← before ",\n"
  return { required, member }

def pair : TextReader (String × Expression) := do
  expect "      "
  let name ← before ": "
  let value ← expression
  expect ",\n"
  return (name, value)

/- The marks behind and between the rows of the class. -/
def bodyEnd : String :=
  "    );\n" ++ "  " ++ closeBrace ++ "\n\n" ++ "  Map"

def methodStart : String :=
  "String, dynamic> toMap() " ++ openBrace ++ "\n" ++
    "    return " ++ openBrace ++ "\n"

def methodEnd : String :=
  "    " ++ closeBrace ++ ";\n" ++ "  " ++ closeBrace ++
    "\n" ++ closeBrace ++ "\n"

/- The arguments of the factory, up to the next type. -/
def factory
    (className : String) :
    TextReader (List (String × Expression)) := do
  expect ("\n  factory " ++ className ++ ".fromModel(")
  let record ← upToLast '\x7b'
  expect ("\n    return " ++ className ++ "(\n")
  let arguments ← rows pair bodyEnd
  if " r) ".toList <:+ record.toList then return arguments
  else failure

/- The entries of the method that writes a record. -/
def method : TextReader (List (String × Expression)) := do
  expect methodStart
  rows pair methodEnd

/- The file of a model. -/
def program : TextReader Program := do
  header
  let enums ← rows enumPart "\nclass "
  let className ← before (" " ++ openBrace ++ "\n")
  let properties ← rows property
    ("  const " ++ className ++ "(" ++ openBrace ++ "\n")
  let parameters ← rows parameter
    ("  " ++ closeBrace ++ ");\n")
  let text ← upToLast '<'
  let arguments ← within text (factory className)
  let entries ← method
  return {
    enums, className, properties, parameters, arguments
    entries }

end TextReader

/- The program that a source spells, to its end. -/
def readProgram? (source : String) : Option Program :=
  match TextReader.program.run source.toList with
  | some (program, []) => some program
  | _ => none

------------------------------------------------------------
-- Types
------------------------------------------------------------

theorem TypeName.ofSpelling_render
    {type : TypeName}
    (hBase : '?' ∉ type.base.toList) :
    ofSpelling type.render = type.told := by
  rw [told, render]
  cases hMark : type.nullable && !type.isUntyped with
  | true => simp [ofSpelling]
  | false =>
      have hLast : type.base.toList.getLast? ≠ some '?' :=
        fun hLast => hBase (List.mem_of_getLast? hLast)
      rw [if_neg Bool.false_ne_true, ofSpelling,
        if_neg hLast]

namespace TextReader

------------------------------------------------------------
-- Reading What Was Written
------------------------------------------------------------

/- The function of an enum is read back. -/
theorem run_lookupFunction
    {reader : Reader}
    (hName : IsWord reader.name)
    (hTable : IsWord reader.table)
    (rest : List Char) :
    (lookupFunction reader.type).run
        (block reader.lines ++ rest) =
      some (reader, rest) := by
  have hText :
      block reader.lines ++ rest =
        (reader.type ++ " ").toList ++ (reader.name.toList ++
          (("(Object? value) " ++ openBrace ++ "\n").toList ++
            ("  final result = ".toList ++
              (reader.table.toList ++
                ("[value];\n".toList ++
                  (("  if (result == null) " ++ openBrace ++
                    "\n" ++
                    "    throw ArgumentError.value(value, "
                    ).toList ++
                    ((literal reader.field).toList ++
                      ((", 'Unmapped enum value');\n" ++
                        "  " ++ closeBrace ++ "\n" ++
                        "  return result;\n" ++ closeBrace ++
                        "\n").toList ++ rest)))))))) := by
    simp [Reader.lines, block_cons]
  have hParen : '(' ∉ reader.name.toList :=
    hName.notMem (by decide) (by decide)
  have hIndex : '[' ∉ reader.table.toList :=
    hTable.notMem (by decide) (by decide)
  rw [hText, lookupFunction,
    run_bind_of_some (run_expect _ _),
    run_bind_of_some (run_before (by decide) hParen _),
    run_bind_of_some (run_expect _ _),
    run_bind_of_some (run_before (by decide) hIndex _),
    run_bind_of_some (run_expect _ _),
    run_bind_of_some (run_literalText _ _),
    run_bind_of_some (run_expect _ _)]
  rfl

theorem run_property
    {property : Property}
    (hBase : IsWord property.type.base)
    (hMember : IsWord property.member)
    (hConstant : IsWord property.constant)
    (hTold : property.type.told = property.type)
    (rest : List Char) :
    TextReader.property.run
        (block property.lines ++ ('\n' :: rest)) =
      some (property, rest) := by
  have hText :
      block property.lines ++ ('\n' :: rest) =
        "  final ".toList ++
          (property.type.render.toList ++ (" ".toList ++
            (property.member.toList ++ (";\n".toList ++
              ("  static const String ".toList ++
                (property.constant.toList ++
                  (" = ".toList ++
                    ((literal property.wireName).toList ++
                      (";\n\n".toList ++ rest))))))))) := by
    simp [Property.lines, block_cons]
  have hNone : ' ' ∉ property.type.base.toList :=
    hBase.notMem (by decide) (by decide)
  have hBlank : ' ' ∉ property.type.render.toList := by
    unfold TypeName.render
    split
    · rw [String.toList_append, List.mem_append, not_or]
      exact ⟨hNone, by decide⟩
    · exact hNone
  have hMark : '?' ∉ property.type.base.toList :=
    hBase.notMem (by decide) (by decide)
  have hEnd : ';' ∉ property.member.toList :=
    hMember.notMem (by decide) (by decide)
  have hEqual : ' ' ∉ property.constant.toList :=
    hConstant.notMem (by decide) (by decide)
  rw [hText, TextReader.property,
    run_bind_of_some (run_expect _ _),
    run_bind_of_some (run_before (by decide) hBlank _),
    run_bind_of_some (run_before (by decide) hEnd _),
    run_bind_of_some (run_expect _ _),
    run_bind_of_some (run_before (by decide) hEqual _),
    run_bind_of_some (run_literalText _ _),
    run_bind_of_some (run_expect _ _),
    TypeName.ofSpelling_render hMark, hTold]
  rfl

theorem run_parameter
    {parameter : Parameter}
    (hMember : IsWord parameter.member)
    (rest : List Char) :
    TextReader.parameter.run
        (block [parameter.line] ++ rest) =
      some (parameter, rest) := by
  have hText :
      block [parameter.line] ++ rest =
        "    ".toList ++
          ((if parameter.required then "required "
            else "").toList ++ ("this.".toList ++
              (parameter.member.toList ++
                (",\n".toList ++ rest)))) := by
    simp [Parameter.line, block_cons]
  have hComma : ',' ∉ parameter.member.toList :=
    hMember.notMem (by decide) (by decide)
  have hRequired : ∀ more : List Char,
      (branch "required " (return true)
          (return false) : TextReader Bool).run
        ((if parameter.required then "required "
          else "").toList ++ ("this.".toList ++ more)) =
        some (parameter.required,
          "this.".toList ++ more) := by
    intro more
    cases parameter.required with
    | true => exact run_branch _ _ _ _
    | false =>
        change (branch "required " (return true)
            (return false)).run ("this.".toList ++ more) =
          some (false, "this.".toList ++ more)
        exact run_branch_of_apart (by decide) _ _ _
  rw [hText, TextReader.parameter,
    run_bind_of_some (run_expect _ _),
    run_bind_of_some (hRequired _),
    run_bind_of_some (run_expect _ _),
    run_bind_of_some (run_before (by decide) hComma _)]
  rfl

def AreReadable (rows : List (String × Expression)) : Prop :=
  ∀ row ∈ rows, IsWord row.1 ∧ row.2.IsReadable

def rowsText (rows : List (String × Expression)) : List Char :=
  rows.flatMap fun row => block [namedRow row.1 row.2]

theorem run_pair
    {name : String}
    {value : Expression}
    (hName : IsWord name)
    (hValue : value.IsReadable)
    (rest : List Char) :
    pair.run (block [namedRow name value] ++ rest) =
      some ((name, value), rest) := by
  have hText :
      block [namedRow name value] ++ rest =
        "      ".toList ++ (name.toList ++
          (": ".toList ++ (value.render.toList ++
            (",\n".toList ++ rest)))) := by
    simp [namedRow, block_cons]
  have hColon : ':' ∉ name.toList :=
    hName.notMem (by decide) (by decide)
  have hRead :
      expression.run
          (value.render.toList ++ (",\n".toList ++ rest)) =
        some (value, ",\n".toList ++ rest) :=
    run_expression hValue ('\n' :: rest)
  rw [hText, pair, run_bind_of_some (run_expect _ _),
    run_bind_of_some (run_before (by decide) hColon _),
    run_bind_of_some hRead,
    run_bind_of_some (run_expect _ _)]
  rfl

/- Rows are read back up to a line with less indentation. -/
theorem run_pairs
    {rows : List (String × Expression)}
    (hRows : AreReadable rows)
    {last : String}
    (hLast : Text.Apart "      ".toList last.toList)
    (rest : List Char) :
    (TextReader.rows pair last).run
        (rowsText rows ++ (last.toList ++ rest)) =
      some (rows, rest) := by
  have hIndent : ∀ row : String × Expression,
      "      ".toList <+: block [namedRow row.1 row.2] := by
    intro row
    exact ⟨_, by simp [namedRow, block_cons]; rfl⟩
  have hRead := run_rows hIndent hLast
    (fun row hRow =>
      run_pair (hRows row hRow).1 (hRows row hRow).2) rest
  rwa [List.map_id'] at hRead

theorem notMem_rowsText
    {rows : List (String × Expression)}
    (hRows : AreReadable rows)
    {c : Char}
    (hBracket : c ∈ Expression.brackets) :
    c ∉ rowsText rows := by
  obtain ⟨hIndent, hColon, hComma, hBreak⟩ :
      c ∉ "      ".toList ∧ c ∉ ": ".toList ∧
        c ∉ ",".toList ∧ c ∉ ['\n'] := by
    rcases Expression.eq_or_eq_of_mem_brackets hBracket with
      rfl | rfl <;>
      decide
  intro hMem
  rcases List.mem_flatMap.mp hMem with ⟨row, hRow, hIn⟩
  have hName : c ∉ row.1.toList :=
    (Expression.notMem_of_mem_brackets hBracket).1 _
      (hRows row hRow).1
  have hValue :=
    (hRows row hRow).2.notMem_render hBracket
  simp only [block_cons, block_nil, namedRow,
    String.toList_append, List.append_nil,
    List.mem_append] at hIn
  rcases hIn with ((((h | h) | h) | h) | h) | h
  · exact hIndent h
  · exact hName h
  · exact hColon h
  · exact hValue h
  · exact hComma h
  · exact hBreak h

end TextReader

end Dart

end PocketDart
