import PocketDart.Log.Message
import PocketDart.Model.Build
import PocketDart.Model.Source
import PocketDart.Text.Tidy

/-
  This file defines the model that is generated for one
  collection, and the warnings about its fields.

  Key definitions include:
    * `GeneratedModel`
    * `Collection.emit`
    * `Collection.warnings`
-/

------------------------------------------------------------
-- Models
------------------------------------------------------------

namespace PocketDart

/- The source generated for a collection. -/
structure GeneratedModel where
  collection : String
  source : String
  fileExtension : String
  deriving DecidableEq, Repr

def GeneratedModel.fileName (model : GeneratedModel) : String :=
  model.collection ++ model.fileExtension

def Layout.model
    (settings : Settings)
    (layout : Layout) : GeneratedModel :=
  { collection := layout.collection
    source := Text.tidy (layout.source settings)
    fileExtension := settings.fileExtension }

def Collection.emit
    (settings : Settings)
    (collection : Collection) :
    Except Inconsistency GeneratedModel :=
  (collection.layout settings).map (·.model settings)

/- The message about a finished source. -/
def Layout.renderedMessage (layout : Layout) : Log.Message :=
  .of .model .debug <|
    "Rendered " ++ layout.className ++ " with " ++
      toString layout.fields.length ++ " fields and " ++
      toString layout.enums.length ++ " enums"

------------------------------------------------------------
-- Warnings
------------------------------------------------------------

/- The warning about a field without a type. -/
def Field.warning
    (collection : Value)
    (field : Field) : String :=
  collection.display ++ "." ++ field.name.display ++
    ": type '" ++ field.tag.display ++
    "' has no dedicated mapping, generated as untyped"

/- The warnings about the fields of a collection. -/
def Collection.warnings
    (collection : Collection) : List String :=
  (collection.fields.filter (·.kind = .other)).map
    (·.warning collection.name)

end PocketDart
