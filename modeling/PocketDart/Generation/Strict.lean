import PocketDart.Generation.Emit

/-
  This file defines the generation of all models that stops
  at the first collection without one.

  Key definitions include:
    * `GenerationFault`
    * `generateAll`
-/

------------------------------------------------------------
-- Names Seen So Far
------------------------------------------------------------

namespace PocketDart

/-
  Whether a name was seen before. Names that are numbers
  are the same when their values are, and lists and objects
  are no names at all.
-/
def isSeen
    (seen : List Value)
    (name : Value) : Except Misuse Bool := do
  let name ← name.asKey
  return seen.any (·.equals name)

/- Why generation stops. -/
inductive GenerationFault where
  | inconsistency (cause : Inconsistency)
  | misuse (cause : Misuse)

/- A fault in words. -/
def GenerationFault.message : GenerationFault → String
  | .inconsistency cause => cause.message
  | .misuse cause => cause.message

/- Every name has to be new. -/
def checkUnique
    (seen : List Value) :
    List Collection → Except GenerationFault Unit
  | [] => .ok ()
  | collection :: rest => do
      let name := collection.name
      if ← (isSeen seen name).mapError .misuse then
        throw (.inconsistency
          (.ofCollection name .repeatedCollection))
      checkUnique (name :: seen) rest

------------------------------------------------------------
-- Generation
------------------------------------------------------------

/- The models of all collections, in order. -/
def generateAll
    (settings : Settings)
    (collections : List Collection) :
    Except GenerationFault (List GeneratedModel) := do
  checkUnique [] collections
  collections.mapM fun collection =>
    (collection.emit settings).mapError .inconsistency

end PocketDart
