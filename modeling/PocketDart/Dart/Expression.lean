/-
  This file defines the Dart expressions that take a field
  out of a record and put it back, and how they are spelled.

  Key definitions include:
    * `Dart.Expression`
    * `Dart.Expression.render`
-/

------------------------------------------------------------
-- Expressions
------------------------------------------------------------

namespace PocketDart

namespace Dart

/- The expressions of a model class. -/
inductive Expression where
  /- The value of a record under a constant. -/
  | recordValue (constant : String)
  /- What every record has under a name. -/
  | recordField (name : String)
  /- A member of the model. -/
  | member (name : String)
  /- A function applied to one argument. -/
  | call (function : String) (argument : Expression)
  /- What a table holds for a key, or null. -/
  | lookup (table : String) (key : Expression)
  /- A point in time read from its text. -/
  | parseTime (text : Expression)
  /- The text of a point in time; of null, when asked for. -/
  | formatTime (time : Expression) (nullAware : Bool)
  /- Null for null. -/
  | unlessNull (tested value : Expression)
  /- Null for null and for the empty text. -/
  | unlessBlank (tested value : Expression)
  deriving DecidableEq, Repr

namespace Expression

def recordName : String := "r"

/- The spelling of an expression. -/
def render : Expression → String
  | .recordValue constant =>
      recordName ++ ".data[" ++ constant ++ "]"
  | .recordField name => recordName ++ "." ++ name
  | .member name => name
  | .call function argument =>
      function ++ "(" ++ argument.render ++ ")"
  | .lookup table key => table ++ "[" ++ key.render ++ "]"
  | .parseTime text => "DateTime.parse(" ++ text.render ++ ")"
  | .formatTime time nullAware =>
      time.render ++ (if nullAware then "?." else ".") ++
        "toIso8601String()"
  | .unlessNull tested value =>
      tested.render ++ " != null ? " ++ value.render ++
        " : null"
  | .unlessBlank tested value =>
      tested.render ++ " == null || " ++ tested.render ++
        " == '' ? null : " ++ value.render

end Expression

end Dart

end PocketDart
