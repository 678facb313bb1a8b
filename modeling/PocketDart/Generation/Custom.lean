import PocketDart.Generation.Emit
import PocketDart.Template.Render
import PocketDart.Template.Shipped
import PocketDart.Template.Store

/-
  This file defines generation with templates of the user's
  own: a part whose template was replaced is rendered from
  the new one, the other parts are as always.

  Key definitions include:
    * `modelTemplates`
    * `Layout.customSource`
    * `Collection.emitCustom`
-/

------------------------------------------------------------
-- Variables of the Parts
------------------------------------------------------------

namespace PocketDart

open Template (Data Datum Fault Node PartName)

/- The templates of a model class. -/
def modelTemplates : TemplateStore (List Node) :=
  ⟨[], Template.shipped⟩

/- A constant of an enum, for a template. -/
def Variant.toValue (variant : Variant) : Value :=
  .object [("name", .text variant.name),
    ("value", .text variant.value)]

/- An enum, for a template. -/
def EnumLayout.toDatum (layout : EnumLayout) : Datum :=
  .value <| .object
    [("field_name", .text layout.fieldName),
      ("type_name", .text layout.typeName),
      ("to_map", .text layout.toMap),
      ("from_map", .text layout.fromMap),
      ("from_wire", .text layout.fromWire),
      ("variants", .list (layout.variants.map (·.toValue)))]

/- A type, for a template: its parts by name. -/
def Dart.TypeName.toDatum (type : Dart.TypeName) : Datum :=
  .shown
    ("TypeDescriptor(base_type=" ++ Text.quoted type.base ++
      ", nullable=" ++ (Value.bool type.nullable).quoted ++
      ")")
    "'TypeDescriptor' object"

/- A kind of field, for a template: its name and its tag. -/
def FieldKind.toDatum (kind : FieldKind) : Datum :=
  .shown
    ("<FieldType." ++ kind.tag.toUpper ++ ": " ++
      Text.quoted kind.tag ++ ">")
    "'FieldType' object"

namespace FieldLayout

/- The names of a field, for a template. -/
def nameData (field : FieldLayout) : Data :=
  [("name", .text field.name), ("member", .text field.member),
    ("constant", .text field.constant)]

def typeData (field : FieldLayout) : Data :=
  [("type", .text field.type.render),
    ("required", .value (.bool field.required))]

/- A field that every record has, for a template. -/
def toSystemDatum (field : FieldLayout) : Datum :=
  .record (field.nameData ++ field.typeData)

/- A field of the user, for a template. -/
def toDatum (field : FieldLayout) : Datum :=
  let enum : Data :=
    field.enum?.toList.map fun enum => ("enum", enum.toDatum)
  .record <|
    field.nameData ++ [("descriptor", field.type.toDatum)] ++
      field.typeData ++
      [("field_type", field.kind.toDatum)] ++ enum ++
      [("read", .text field.readExpression.render),
        ("write", .text field.writeExpression.render)]

end FieldLayout

/- The fields of the user, for a template. -/
def Layout.fieldData (layout : Layout) : List Datum :=
  layout.fields.map (·.toDatum)

/- All fields, for a template. -/
def Layout.allFieldData (layout : Layout) : List Datum :=
  systemFields.map (·.toSystemDatum) ++ layout.fieldData

------------------------------------------------------------
-- Parts
------------------------------------------------------------

/- A text without line breaks at its end. -/
def withoutBreaks (s : String) : String :=
  String.ofList (Text.trimEndOf (· = '\n') s.toList)

/-
  The text of a part: from the template that was added for
  it, or else the usual one.
-/
def customPart
    (store : TemplateStore (List Node))
    (part : PartName)
    (data : Data)
    (usual : String) : Except (TemplateError Fault) String :=
  let name := part.templateName
  match store.added.lookup name with
  | some _ =>
      (store.render Template.usual name
        (Template.things data)).map withoutBreaks
  | none => .ok usual

/- The source of a class with templates of one's own. -/
def Layout.customSource
    (store : TemplateStore (List Node))
    (settings : Settings)
    (layout : Layout) : Except (TemplateError Fault) String := do
  let className : String × Datum :=
    ("class_name", .text layout.className)
  let all : String × Datum :=
    ("fields", .list layout.allFieldData)
  let own : String × Datum :=
    ("fields", .list layout.fieldData)
  let header ← customPart store .header
    [("add_comments", .value (.bool settings.addComments)),
      ("collection_name", .text layout.collection),
      ("record_import", .text settings.recordImport)]
    (linesText (headerLines settings layout.collection))
  let enums ← layout.enums.mapM fun enum =>
    customPart store .enum [("enum", enum.toDatum)]
      (linesText enum.lines)
  let fields ← customPart store .fields [all]
    (linesText layout.fieldLines)
  let constructor ←
    customPart store .constructor [className, all]
      (linesText layout.constructorLines)
  let factory ← customPart store .factory
    [className, ("record_type", .text settings.recordType),
      own]
    (linesText (layout.factoryLines settings.recordType))
  let toMap ← customPart store .toMap [own]
    (linesText layout.toMapLines)
  let members := [fields, constructor, factory, toMap]
  let body ← customPart store .classBody
    [className, ("members", .list (members.map .text))]
    (classText layout.className members)
  return fileText ([header] ++ enums ++ [body])

------------------------------------------------------------
-- Models
------------------------------------------------------------

/- Why there is no model. -/
inductive CustomFault where
  | inconsistency (cause : Inconsistency)
  | template (error : TemplateError Fault)

/- The source of a collection with templates of one's own. -/
def Collection.emitCustom
    (store : TemplateStore (List Node))
    (settings : Settings)
    (collection : Collection) :
    Except CustomFault String := do
  let layout ←
    (collection.layout settings).mapError .inconsistency
  let source ←
    (layout.customSource store settings).mapError .template
  return Text.tidy source

end PocketDart
