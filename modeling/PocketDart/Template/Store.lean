import PocketDart.Template.Language
import PocketDart.Text.Segments

/-
  This file defines the store of templates. A text that was
  added under a name hides the template of that name, and
  the last text added counts. A shipped template may also be
  named by a path that leads to it.

  Key definitions include:
    * `Template.nameOfPath?`
    * `TemplateStore`
    * `TemplateStore.add`
    * `TemplateStore.find`
    * `TemplateStore.exists?`
    * `TemplateStore.render`
    * `TemplateError`

  Key theorems include:
    * `Template.nameOfPath?_of_notMem`
-/

------------------------------------------------------------
-- Errors
------------------------------------------------------------

namespace PocketDart

open Template (Language Variables)

/- What a caller of the store is told. -/
inductive TemplateError (Fault : Type) where
  | missing (name : String)
  | named (name : String) (fault : Fault)
  | inline (fault : Fault)
  | escaped (fault : Fault)
  deriving DecidableEq, Repr

section

variable {Thing Parsed Fault : Type}

/- An error in words. -/
def TemplateError.message
    (language : Language Thing Parsed Fault) :
    TemplateError Fault → String
  | .missing name =>
      "Failed to render template " ++ name ++ ": " ++ name
  | .named name fault =>
      "Failed to render template " ++ name ++ ": " ++
        language.message fault
  | .inline fault =>
      "Failed to render template string: " ++
        language.message fault
  | .escaped fault => language.message fault

/-
  An error of a rendering at a place. Only the language's
  own faults are told to have happened there.
-/
def TemplateError.ofFault
    (language : Language Thing Parsed Fault)
    (place : Fault → TemplateError Fault)
    (fault : Fault) : TemplateError Fault :=
  if language.isOwn fault then place fault
  else .escaped fault

end

------------------------------------------------------------
-- Names of Shipped Templates
------------------------------------------------------------

namespace Template

/-
  The name that a path leads to. Empty parts and single dots
  stay at their place, and no path leads upwards.
-/
def nameOfPath? (path : String) : Option String :=
  let parts := Text.pieces '/' path.toList
  if ['.', '.'] ∈ parts then none
  else
    some <| String.ofList <| Text.join ['/'] <|
      parts.filter fun part => part ≠ [] ∧ part ≠ ['.']

/- A name that is no path, and no dots alone, is its own. -/
theorem nameOfPath?_of_notMem
    {name : String}
    (hSlash : '/' ∉ name.toList)
    (hDot : name ≠ ".")
    (hDots : name ≠ "..") :
    nameOfPath? name = some name := by
  have hPieces :
      Text.pieces '/' name.toList = [name.toList] := by
    simp [Text.pieces, Text.split_of_notMem hSlash]
  have hDot' : name.toList ≠ ['.'] := fun h =>
    hDot (String.toList_injective h)
  have hDots' : ['.', '.'] ≠ name.toList := fun h =>
    hDots (String.toList_injective h.symm)
  by_cases hEmpty : name.toList = []
  · have hName : name = "" := String.toList_injective hEmpty
    subst hName
    rfl
  · simp [nameOfPath?, hPieces, hDots', hDot', hEmpty,
      Text.join]

end Template

------------------------------------------------------------
-- Stores
------------------------------------------------------------

/- The texts that were added, and the shipped templates. -/
structure TemplateStore (Parsed : Type) where
  added : List (String × String)
  shipped : List (String × Parsed)

namespace TemplateStore

variable {Thing Parsed Fault : Type}

def empty : TemplateStore Parsed :=
  ⟨[], []⟩

/- Add a text under a name. -/
def add
    (store : TemplateStore Parsed)
    (name text : String) : TemplateStore Parsed :=
  { store with added := (name, text) :: store.added }

/- Parse a text, in which all filters may be used. -/
def parse
    (language : Language Thing Parsed Fault)
    (text : String) : Except Fault Parsed :=
  language.parse language.filter? text

def find
    (language : Language Thing Parsed Fault)
    (store : TemplateStore Parsed)
    (name : String) : Option (Except Fault Parsed) :=
  match store.added.lookup name with
  | some text => some (parse language text)
  | none =>
      ((Template.nameOfPath? name).bind fun known =>
        store.shipped.lookup known).map .ok

/- Whether there is a template, by what was found. -/
def presence :
    Option (Except Fault Parsed) →
      Except (TemplateError Fault) Bool
  | some (.ok _) => .ok true
  | some (.error fault) => .error (.escaped fault)
  | none => .ok false

def renderParsed
    (language : Language Thing Parsed Fault)
    (place : Fault → TemplateError Fault)
    (template : Option String)
    (given : Variables Thing)
    (parsed : Except Fault Parsed) :
    Except (TemplateError Fault) String :=
  (do language.render language.filter? template given
        (← parsed)).mapError (.ofFault language place)

def renderFound
    (language : Language Thing Parsed Fault)
    (name : String)
    (given : Variables Thing) :
    Option (Except Fault Parsed) →
      Except (TemplateError Fault) String
  | some parsed =>
      renderParsed language (.named name) (some name) given
        parsed
  | none => .error (.missing name)

def exists?
    (language : Language Thing Parsed Fault)
    (store : TemplateStore Parsed)
    (name : String) : Except (TemplateError Fault) Bool :=
  presence (store.find language name)

def render
    (language : Language Thing Parsed Fault)
    (store : TemplateStore Parsed)
    (name : String)
    (given : Variables Thing) :
    Except (TemplateError Fault) String :=
  renderFound language name given (store.find language name)

def renderText
    (language : Language Thing Parsed Fault)
    (text : String)
    (given : Variables Thing) :
    Except (TemplateError Fault) String :=
  renderParsed language .inline none given
    (parse language text)

end TemplateStore

end PocketDart
