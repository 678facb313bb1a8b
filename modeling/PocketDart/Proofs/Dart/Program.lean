import PocketDart.Model.Source

/-
  This file defines what the source of a model declares: its
  enums with their tables and functions, and the members,
  the parameters and the expressions of its class. Literals
  stand for the texts that they mean. It proves that the
  lines of a layout spell its declarations.

  Key definitions include:
    * `Dart.Table`
    * `Dart.EnumPart`
    * `Dart.Program`
    * `Layout.program`

  Key theorems include:
    * `EnumLayout.lines_eq`
    * `FieldLayout.lines_property`
    * `Layout.map_arguments`
-/

------------------------------------------------------------
-- Enums
------------------------------------------------------------

namespace PocketDart

namespace Dart

/- What a table pairs: a text, or a constant of an enum. -/
inductive Atom where
  | text (value : String)
  | constant (type name : String)
  deriving DecidableEq, Repr

def Atom.render : Atom → String
  | .text value => literal value
  | .constant type name => type ++ "." ++ name

/- A table with its keys and what it holds for them. -/
structure Table where
  name : String
  keyType : String
  valueType : String
  entries : List (Atom × Atom)
  deriving DecidableEq, Repr

def Table.lines (table : Table) : List String :=
  ["const " ++ table.name ++ " = <" ++ table.keyType ++
      ", " ++ table.valueType ++ ">" ++ openBrace] ++
    table.entries.map (fun entry =>
      "  " ++ entry.1.render ++ ": " ++ entry.2.render ++
        ",") ++
    [closeBrace ++ ";"]

/-
  A function that looks its argument up in a table, and
  throws when the table does not hold it. The error names
  the field.
-/
structure Reader where
  type : String
  name : String
  table : String
  field : String
  deriving DecidableEq, Repr

def Reader.lines (reader : Reader) : List String :=
  [reader.type ++ " " ++ reader.name ++
      "(Object? value) " ++ openBrace,
    "  final result = " ++ reader.table ++ "[value];",
    "  if (result == null) " ++ openBrace,
    "    throw ArgumentError.value(value, " ++
      literal reader.field ++ ", 'Unmapped enum value');",
    "  " ++ closeBrace,
    "  return result;",
    closeBrace]

/- An enum with its tables and its function. -/
structure EnumPart where
  type : String
  constants : List String
  toMap : Table
  fromMap : Table
  fromWire : Reader
  deriving DecidableEq, Repr

def EnumPart.lines (part : EnumPart) : List String :=
  (["enum " ++ part.type ++ " " ++ openBrace] ++
    part.constants.map (fun name => "  " ++ name ++ ",") ++
    [closeBrace]) ++ [""] ++ part.toMap.lines ++ [""] ++
    part.fromMap.lines ++ [""] ++ part.fromWire.lines

------------------------------------------------------------
-- Classes
------------------------------------------------------------

/-
  A type as its spelling tells it: what is untyped holds
  null without saying so.
-/
def TypeName.told (type : TypeName) : TypeName :=
  { type with nullable := type.nullable && !type.isUntyped }

/- A member with the constant for its name in records. -/
structure Property where
  type : TypeName
  member : String
  constant : String
  wireName : String
  deriving DecidableEq, Repr

def Property.lines (property : Property) : List String :=
  ["  final " ++ property.type.render ++ " " ++
      property.member ++ ";",
    "  static const String " ++ property.constant ++ " = " ++
      literal property.wireName ++ ";"]

/- A parameter of the constructor, named for a member. -/
structure Parameter where
  required : Bool
  member : String
  deriving DecidableEq, Repr

def Parameter.line (parameter : Parameter) : String :=
  "    " ++ (if parameter.required then "required " else "") ++
    "this." ++ parameter.member ++ ","

/-
  What a source declares. The factory has an argument for
  each member, and the method that writes a record has an
  entry under the constant of each field.
-/
structure Program where
  enums : List EnumPart
  className : String
  properties : List Property
  parameters : List Parameter
  arguments : List (String × Expression)
  entries : List (String × Expression)
  deriving DecidableEq, Repr

end Dart

------------------------------------------------------------
-- Programs of Layouts
------------------------------------------------------------

def EnumLayout.part (layout : EnumLayout) : Dart.EnumPart :=
  let constant (variant : Variant) :=
    Dart.Atom.constant layout.typeName variant.name
  { type := layout.typeName
    constants := layout.variants.map (·.name)
    toMap :=
      { name := layout.toMap
        keyType := layout.typeName, valueType := "String"
        entries := layout.variants.map fun variant =>
          (constant variant, .text variant.value) }
    fromMap :=
      { name := layout.fromMap
        keyType := "String", valueType := layout.typeName
        entries := layout.variants.map fun variant =>
          (.text variant.value, constant variant) }
    fromWire :=
      { type := layout.typeName, name := layout.fromWire
        table := layout.fromMap
        field := layout.fieldName } }

namespace FieldLayout

/- The member and the constant of a field. -/
def property (field : FieldLayout) : Dart.Property :=
  { type := field.type.told, member := field.member
    constant := field.constant, wireName := field.name }

def parameter (field : FieldLayout) : Dart.Parameter :=
  ⟨field.required, field.member⟩

def argument
    (field : FieldLayout) : String × Dart.Expression :=
  (field.member, field.readExpression)

def entry
    (field : FieldLayout) : String × Dart.Expression :=
  (field.constant, field.writeExpression)

end FieldLayout

def Layout.program (layout : Layout) : Dart.Program :=
  { enums := layout.enums.map (·.part)
    className := layout.className
    properties := layout.allFields.map (·.property)
    parameters := layout.allFields.map (·.parameter)
    arguments :=
      systemArguments ++ layout.fields.map (·.argument)
    entries := layout.fields.map (·.entry) }

------------------------------------------------------------
-- Lines
------------------------------------------------------------

/- A type is spelled as what its spelling tells. -/
@[simp]
theorem Dart.TypeName.render_told (type : Dart.TypeName) :
    type.told.render = type.render := by
  have hBase : type.told.isUntyped = type.isUntyped := rfl
  rw [render, render, hBase]
  cases hUntyped : type.isUntyped with
  | true => simp [told]
  | false => simp [told, hUntyped]

/- What a spelling tells, its own spelling tells again. -/
@[simp]
theorem Dart.TypeName.told_told (type : Dart.TypeName) :
    type.told.told = type.told := by
  have hTwice : type.told.told =
      ⟨type.base, type.nullable && !type.isUntyped &&
        !type.isUntyped⟩ := rfl
  rw [hTwice, Bool.and_assoc, Bool.and_self]
  rfl

theorem EnumLayout.lines_eq (layout : EnumLayout) :
    layout.lines = layout.part.lines := by
  have hToMap : layout.toMapLines =
      layout.part.toMap.lines := by
    simp [EnumLayout.toMapLines, Dart.Table.lines,
      EnumLayout.part, Dart.Atom.render, String.append_assoc,
      Function.comp_def]
  have hFromMap : layout.fromMapLines =
      layout.part.fromMap.lines := by
    simp [EnumLayout.fromMapLines, Dart.Table.lines,
      EnumLayout.part, Dart.Atom.render, String.append_assoc,
      Function.comp_def]
  rw [EnumLayout.lines, Dart.EnumPart.lines, hToMap,
    hFromMap]
  simp [EnumLayout.declarationLines, EnumLayout.fromWireLines,
    Dart.Reader.lines, EnumLayout.part, Function.comp_def]

theorem FieldLayout.lines_property (field : FieldLayout) :
    field.property.lines = field.declarationLines := by
  rw [Dart.Property.lines, FieldLayout.property,
    Dart.TypeName.render_told]
  rfl

@[simp]
theorem FieldLayout.line_parameter (field : FieldLayout) :
    field.parameter.line = field.parameterLine := rfl

theorem Layout.map_arguments (layout : Layout) :
    layout.program.arguments.map (fun argument =>
        namedRow argument.1 argument.2) =
      systemArguments.map (fun argument =>
          namedRow argument.1 argument.2) ++
        layout.fields.map (·.readLine) := by
  rw [Layout.program, List.map_append, List.map_map]
  rfl

theorem Layout.map_entries (layout : Layout) :
    layout.program.entries.map (fun entry =>
        namedRow entry.1 entry.2) =
      layout.fields.map (·.writeLine) := by
  rw [Layout.program, List.map_map]
  rfl

end PocketDart
