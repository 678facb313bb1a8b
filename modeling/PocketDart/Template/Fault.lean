import PocketDart.Value.Misuse

/-
  This file defines why a template is not rendered.

  Key definitions include:
    * `Template.Flaw`
    * `Template.Reason`
    * `Template.Reason.message`
    * `Template.Fault`
-/

------------------------------------------------------------
-- Flaws
------------------------------------------------------------

namespace PocketDart

namespace Template

/- How a place for a value is written wrong. -/
inductive Flaw where
  | noExpression
  | unexpected (token : String)
  | expected (wanted token : String)
  | unfinished (wanted : String)
  deriving DecidableEq, Repr

namespace Flaw

/- What the closing braces are called. -/
def closing : String := "end of print statement"

/- What the end of the text is called. -/
def ending : String := "end of template"

/- A flaw in words. -/
def message : Flaw → String
  | .noExpression =>
      "Expected an expression, got " ++ Text.quoted closing
  | .unexpected token => "unexpected " ++ Text.quoted token
  | .expected wanted token =>
      "expected token " ++ Text.quoted wanted ++ ", got " ++
        Text.quoted token
  | .unfinished wanted =>
      "unexpected " ++ ending ++ ", expected " ++
        Text.quoted wanted ++ "."

end Flaw

------------------------------------------------------------
-- Reasons
------------------------------------------------------------

/- Why a template cannot be rendered. -/
inductive Reason where
  | undefined (name : String)
  | noAttribute (kind : Value.Kind) (key : String)
  | unknownFilter (name : String)
  | malformed (flaw : Flaw)
  deriving DecidableEq, Repr

/- A reason in words. -/
def Reason.message : Reason → String
  | .undefined name => Text.quoted name ++ " is undefined"
  | .noAttribute kind key =>
      let object :=
        if kind = .null then "None"
        else kind.word ++ " object"
      Text.quoted object ++ " has no attribute " ++
        Text.quoted key
  | .unknownFilter name =>
      "No filter named " ++ Text.quoted name ++ "."
  | .malformed flaw => flaw.message

------------------------------------------------------------
-- Faults
------------------------------------------------------------

/-
  Why rendering stops: for a reason of the template's own, or
  a value is used as what it is not, or so is something that
  every template knows, or the name of the template itself is
  given away.
-/
inductive Fault where
  | reason (reason : Reason)
  | misuse (cause : Misuse)
  | unfit (holder : String) (ability : Ability)
  | selfGiven
  deriving DecidableEq, Repr

def Fault.message : Fault → String
  | .reason cause => cause.message
  | .misuse cause => cause.message
  | .unfit holder ability =>
      holder ++ " has no attribute " ++
        Text.quoted ability.word
  | .selfGiven =>
      "Template.render() got multiple values for argument " ++
        "'self'"

end Template

end PocketDart
