import PocketDart.Dart.Literal
import PocketDart.Generation.Settings
import PocketDart.Model.Layout

/-
  This file defines the Dart source of a model class. Each
  part of the source is a list of lines of its own, and the
  parts are put together with empty lines between them.

  Key definitions include:
    * `headerLines`
    * `EnumLayout.lines`
    * `Layout.fieldLines`
    * `Layout.constructorLines`
    * `Layout.factoryLines`
    * `Layout.toMapLines`
    * `classText`
    * `Layout.source`
-/

------------------------------------------------------------
-- Lines
------------------------------------------------------------

namespace PocketDart

def linesText (lines : List String) : String :=
  "\n".intercalate lines

def openBrace : String := "\x7b"
def closeBrace : String := "\x7d"

------------------------------------------------------------
-- Header
------------------------------------------------------------

/- The comments and the import at the top of a file. -/
def headerLines
    (settings : Settings)
    (collection : String) : List String :=
  let comments :=
    if settings.addComments then
      ["// This file is auto-generated. " ++
          "Do not modify manually.",
        "// Model for collection " ++ collection]
    else []
  comments ++
    ["// ignore_for_file: constant_identifier_names",
      "",
      "import " ++ Dart.literal settings.recordImport ++ ";"]

------------------------------------------------------------
-- Enums
------------------------------------------------------------

namespace EnumLayout

def declarationLines (layout : EnumLayout) : List String :=
  ["enum " ++ layout.typeName ++ " " ++ openBrace] ++
    layout.variants.map (fun variant =>
      "  " ++ variant.name ++ ",") ++
    [closeBrace]

/- The table from enum constants to values. -/
def toMapLines (layout : EnumLayout) : List String :=
  ["const " ++ layout.toMap ++ " = <" ++ layout.typeName ++
      ", String>" ++ openBrace] ++
    layout.variants.map (fun variant =>
      "  " ++ layout.typeName ++ "." ++ variant.name ++
        ": " ++ Dart.literal variant.value ++ ",") ++
    [closeBrace ++ ";"]

/- The table from values to enum constants. -/
def fromMapLines (layout : EnumLayout) : List String :=
  ["const " ++ layout.fromMap ++ " = <String, " ++
      layout.typeName ++ ">" ++ openBrace] ++
    layout.variants.map (fun variant =>
      "  " ++ Dart.literal variant.value ++ ": " ++
        layout.typeName ++ "." ++ variant.name ++ ",") ++
    [closeBrace ++ ";"]

/- The function that throws for an unknown value. -/
def fromWireLines (layout : EnumLayout) : List String :=
  [layout.typeName ++ " " ++ layout.fromWire ++
      "(Object? value) " ++ openBrace,
    "  final result = " ++ layout.fromMap ++ "[value];",
    "  if (result == null) " ++ openBrace,
    "    throw ArgumentError.value(value, " ++
      Dart.literal layout.fieldName ++
      ", 'Unmapped enum value');",
    "  " ++ closeBrace,
    "  return result;",
    closeBrace]

/- The enum with its tables and its function. -/
def lines (layout : EnumLayout) : List String :=
  layout.declarationLines ++ [""] ++ layout.toMapLines ++
    [""] ++ layout.fromMapLines ++ [""] ++
    layout.fromWireLines

end EnumLayout

------------------------------------------------------------
-- Members
------------------------------------------------------------

def namedRow
    (name : String)
    (value : Dart.Expression) : String :=
  "      " ++ name ++ ": " ++ value.render ++ ","

namespace FieldLayout

/- The member and the constant of a field. -/
def declarationLines (field : FieldLayout) : List String :=
  ["  final " ++ field.type.render ++ " " ++ field.member ++
      ";",
    "  static const String " ++ field.constant ++ " = " ++
      Dart.literal field.name ++ ";"]

def parameterLine (field : FieldLayout) : String :=
  "    " ++ (if field.required then "required " else "") ++
    "this." ++ field.member ++ ","

/- The argument that reads a field from a record. -/
def readLine (field : FieldLayout) : String :=
  namedRow field.member field.readExpression

/- The entry that writes a field to a record. -/
def writeLine (field : FieldLayout) : String :=
  namedRow field.constant field.writeExpression

end FieldLayout

/- Groups of lines with an empty line between them. -/
def spaced : List (List String) → List String
  | [] => []
  | [group] => group
  | group :: more => group ++ [""] ++ spaced more

namespace Layout

/- The declarations of all fields. -/
def fieldLines (layout : Layout) : List String :=
  spaced (layout.allFields.map (·.declarationLines))

def constructorLines (layout : Layout) : List String :=
  ["  const " ++ layout.className ++ "(" ++ openBrace] ++
    layout.allFields.map (·.parameterLine) ++
    ["  " ++ closeBrace ++ ");"]

/- The factory that reads a record. -/
def factoryLines
    (layout : Layout)
    (recordType : String) : List String :=
  ["  factory " ++ layout.className ++ ".fromModel(" ++
      recordType ++ " r) " ++ openBrace,
    "    return " ++ layout.className ++ "("] ++
    systemArguments.map (fun argument =>
      namedRow argument.1 argument.2) ++
    layout.fields.map (·.readLine) ++
    ["    );", "  " ++ closeBrace]

/- The method that writes a record. -/
def toMapLines (layout : Layout) : List String :=
  ["  Map<String, dynamic> toMap() " ++ openBrace,
    "    return " ++ openBrace] ++
    layout.fields.map (·.writeLine) ++
    ["    " ++ closeBrace ++ ";", "  " ++ closeBrace]

end Layout

------------------------------------------------------------
-- Classes
------------------------------------------------------------

def classText
    (className : String)
    (members : List String) : String :=
  linesText <|
    ["class " ++ className ++ " " ++ openBrace] ++
      spaced (members.map ([·])) ++ [closeBrace]

def fileText (parts : List String) : String :=
  "\n\n".intercalate parts ++ "\n"

namespace Layout

def memberTexts
    (settings : Settings)
    (layout : Layout) : List String :=
  [linesText layout.fieldLines,
    linesText layout.constructorLines,
    linesText (layout.factoryLines settings.recordType),
    linesText layout.toMapLines]

/- The source of the class, as it is put together. -/
def source
    (settings : Settings)
    (layout : Layout) : String :=
  fileText <|
    [linesText (headerLines settings layout.collection)] ++
      layout.enums.map (fun enum => linesText enum.lines) ++
      [classText layout.className
        (layout.memberTexts settings)]

end Layout

end PocketDart
