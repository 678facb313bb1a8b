import PocketDart.Template.Syntax

/-
  This file holds the templates of the parts of a model
  class.

  Key definitions include:
    * `Template.PartName`
    * `Template.shipped`
-/

------------------------------------------------------------
-- Parts of a Source
------------------------------------------------------------

namespace PocketDart

namespace Template

/- The parts of a source that have a template. -/
inductive PartName where
  | header
  | enum
  | fields
  | constructor
  | factory
  | toMap
  | classBody
  deriving DecidableEq, Repr

namespace PartName

def all : List PartName :=
  [.header, .enum, .fields, .constructor, .factory, .toMap,
   .classBody]

def templateName : PartName → String
  | .header => "header.dart.j2"
  | .enum => "enum.dart.j2"
  | .fields => "fields.dart.j2"
  | .constructor => "constructor.dart.j2"
  | .factory => "factory.dart.j2"
  | .toMap => "to_map.dart.j2"
  | .classBody => "class.dart.j2"

end PartName

------------------------------------------------------------
-- Abbreviations
------------------------------------------------------------

/- The value of a variable. -/
def slot (name : String) : Node :=
  .output (.variable name)

/- An attribute of a variable. -/
def part (name key : String) : Term :=
  .attribute (.variable name) key

/- The value of an attribute. -/
def slotOf (name key : String) : Node :=
  .output (part name key)

def literalSlot (term : Term) : Node :=
  .output (.filtered term "dart_string")

------------------------------------------------------------
-- Templates
------------------------------------------------------------

/- The comments and the import at the top of a file. -/
def headerTemplate : List Node :=
  [.whenTrue (.variable "add_comments")
    [.text ("// This file is auto-generated. " ++
        "Do not modify manually.\n" ++
        "// Model for collection "),
      slot "collection_name", .text "\n"],
    .text ("// ignore_for_file: " ++
      "constant_identifier_names\n\nimport "),
    literalSlot (.variable "record_import"),
    .text ";\n"]

/- An enum with its tables and its function. -/
def enumTemplate : List Node :=
  [.text "enum ", slotOf "enum" "type_name",
    .text " \x7b\n",
    .each "variant" (part "enum" "variants")
      [.text "  ", slotOf "variant" "name", .text ",\n"],
    .text "\x7d\n\nconst ", slotOf "enum" "to_map",
    .text " = <", slotOf "enum" "type_name",
    .text ", String>\x7b\n",
    .each "variant" (part "enum" "variants")
      [.text "  ", slotOf "enum" "type_name", .text ".",
        slotOf "variant" "name", .text ": ",
        literalSlot (part "variant" "value"), .text ",\n"],
    .text "\x7d;\n\nconst ", slotOf "enum" "from_map",
    .text " = <String, ", slotOf "enum" "type_name",
    .text ">\x7b\n",
    .each "variant" (part "enum" "variants")
      [.text "  ", literalSlot (part "variant" "value"),
        .text ": ", slotOf "enum" "type_name", .text ".",
        slotOf "variant" "name", .text ",\n"],
    .text "\x7d;\n\n", slotOf "enum" "type_name",
    .text " ", slotOf "enum" "from_wire",
    .text "(Object? value) \x7b\n  final result = ",
    slotOf "enum" "from_map",
    .text ("[value];\n  if (result == null) \x7b\n" ++
      "    throw ArgumentError.value(value, "),
    literalSlot (part "enum" "field_name"),
    .text (", 'Unmapped enum value');\n  \x7d\n" ++
      "  return result;\n\x7d\n")]

/- The declarations of the fields. -/
def fieldsTemplate : List Node :=
  [.each "field" (.variable "fields")
    [.text "  final ", slotOf "field" "type", .text " ",
      slotOf "field" "member",
      .text ";\n  static const String ",
      slotOf "field" "constant", .text " = ",
      literalSlot (part "field" "name"), .text ";\n",
      .unlessLast [.text "\n"]]]

def constructorTemplate : List Node :=
  [.text "  const ", slot "class_name", .text "(\x7b\n",
    .each "field" (.variable "fields")
      [.text "    ",
        .output (.textIf "required "
          (part "field" "required")),
        .text "this.", slotOf "field" "member",
        .text ",\n"],
    .text "  \x7d);\n"]

/- The factory that reads a record. -/
def factoryTemplate : List Node :=
  [.text "  factory ", slot "class_name",
    .text ".fromModel(", slot "record_type",
    .text " r) \x7b\n    return ", slot "class_name",
    .text ("(\n      id: r.id,\n" ++
      "      created: DateTime.parse(r.created),\n" ++
      "      updated: DateTime.parse(r.updated),\n"),
    .each "field" (.variable "fields")
      [.text "      ", slotOf "field" "member",
        .text ": ", slotOf "field" "read", .text ",\n"],
    .text "    );\n  \x7d\n"]

/- The method that writes a record. -/
def toMapTemplate : List Node :=
  [.text ("  Map<String, dynamic> toMap() \x7b\n" ++
      "    return \x7b\n"),
    .each "field" (.variable "fields")
      [.text "      ", slotOf "field" "constant",
        .text ": ", slotOf "field" "write", .text ",\n"],
    .text "    \x7d;\n  \x7d\n"]

/- The class around its members. -/
def classTemplate : List Node :=
  [.text "class ", slot "class_name", .text " \x7b\n",
    .each "member" (.variable "members")
      [slot "member", .text "\n",
        .unlessLast [.text "\n"]],
    .text "\x7d\n"]

def shippedNodes : PartName → List Node
  | .header => headerTemplate
  | .enum => enumTemplate
  | .fields => fieldsTemplate
  | .constructor => constructorTemplate
  | .factory => factoryTemplate
  | .toMap => toMapTemplate
  | .classBody => classTemplate

/- All templates under their names. -/
def shipped : List (String × List Node) :=
  PartName.all.map fun part =>
    (part.templateName, shippedNodes part)

end Template

end PocketDart
