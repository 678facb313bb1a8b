import Mathlib.Data.List.Infix
import PocketDart.Template.Language
import PocketDart.Text.Normal.Form
import PocketDart.Text.Utf8

/-
  This file defines drafts, which are templates of literal
  text and of slots for filtered variables, and what the
  documentation of a template language says of them. A draft
  is spelled out from its pieces, with any blanks around the
  names.

  Key definitions include:
    * `Template.Word`
    * `Template.Slot`
    * `Template.Draft`
    * `Template.Draft.IsPlain`
    * `Template.Language.slotOutcome`
    * `Template.Language.result`
    * `Template.Language.IsDocumented`
-/

------------------------------------------------------------
-- Drafts
------------------------------------------------------------

namespace PocketDart

namespace Template

/- A name with the blanks before and after it. -/
structure Word where
  before : List Char
  name : String
  after : List Char
  deriving DecidableEq

/- A variable, and the filters that its value goes through. -/
structure Slot where
  key : Word
  filters : List Word
  deriving DecidableEq

/- Literal text, which slots and more of it may follow. -/
inductive Draft where
  | literal (cs : List Char)
  | filled (cs : List Char) (slot : Slot) (rest : Draft)
  deriving DecidableEq

def Word.chars (word : Word) : List Char :=
  word.before ++ word.name.toList ++ word.after

namespace Slot

/- What stands between the braces. -/
def inside (slot : Slot) : List Char :=
  slot.key.chars ++
    slot.filters.flatMap fun filter => '|' :: filter.chars

def chars (slot : Slot) : List Char :=
  '\x7b' :: '\x7b' :: slot.inside ++ ['\x7d', '\x7d']

def filterNames (slot : Slot) : List String :=
  slot.filters.map (·.name)

end Slot

namespace Draft

def chars : Draft → List Char
  | .literal cs => cs
  | .filled cs slot rest => cs ++ (slot.chars ++ rest.chars)

def text (draft : Draft) : String :=
  String.ofList draft.chars

def slots : Draft → List Slot
  | .literal _ => []
  | .filled _ slot rest => slot :: rest.slots

/- The variables of a draft, in order. -/
def keys (draft : Draft) : List String :=
  draft.slots.map (·.key.name)

def literals : Draft → List (List Char)
  | .literal cs => [cs]
  | .filled cs _ rest => cs :: rest.literals

/- No literal text has line breaks other than line feeds. -/
def HasFeedsOnly (draft : Draft) : Prop :=
  ∀ cs ∈ draft.literals, '\r' ∉ cs

instance (draft : Draft) :
    Decidable draft.HasFeedsOnly := by
  unfold HasFeedsOnly
  infer_instance

end Draft

------------------------------------------------------------
-- Plain Drafts
------------------------------------------------------------

section

variable (isName : String → Bool)

/- Blanks around a name. -/
structure Word.IsSound (word : Word) : Prop where
  before : ∀ c ∈ word.before, Text.isBlank c
  name : isName word.name
  after : ∀ c ∈ word.after, Text.isBlank c

instance (word : Word) : Decidable (word.IsSound isName) :=
  decidable_of_iff
    (word.before.all Text.isBlank ∧ isName word.name ∧
      word.after.all Text.isBlank)
    ⟨fun ⟨h₁, h₂, h₃⟩ =>
        ⟨List.all_eq_true.mp h₁, h₂, List.all_eq_true.mp h₃⟩,
      fun ⟨h₁, h₂, h₃⟩ =>
        ⟨List.all_eq_true.mpr h₁, h₂,
          List.all_eq_true.mpr h₃⟩⟩

/- Names that stand for no variable in any template. -/
def reservedWords : List String :=
  ["true", "True", "false", "False", "none", "None", "not"]

/- A variable and filters. -/
structure Slot.IsSound (slot : Slot) : Prop where
  key : slot.key.IsSound isName
  notReserved : slot.key.name ∉ reservedWords
  filters : ∀ filter ∈ slot.filters, filter.IsSound isName

instance (slot : Slot) : Decidable (slot.IsSound isName) :=
  decidable_of_iff
    (slot.key.IsSound isName ∧
      slot.key.name ∉ reservedWords ∧
      ∀ filter ∈ slot.filters, filter.IsSound isName)
    ⟨fun ⟨h₁, h₂, h₃⟩ => ⟨h₁, h₂, h₃⟩,
      fun ⟨h₁, h₂, h₃⟩ => ⟨h₁, h₂, h₃⟩⟩

/-
  Text in which nothing is opened: neither a slot nor any
  other thing that the language knows.
-/
def IsLiteral (cs : List Char) : Prop :=
  ∀ c ∈ ['\x7b', '%', '#'], ¬ ['\x7b', c] <:+: cs

instance (cs : List Char) : Decidable (IsLiteral cs) :=
  List.decidableBAll _ _

namespace Draft

/-
  Literal text opens nothing, and before a slot it does not
  end in a brace.
-/
def IsSound : Draft → Prop
  | .literal cs => IsLiteral cs
  | .filled cs slot rest =>
      IsLiteral (cs ++ ['\x7b']) ∧ slot.IsSound isName ∧
        rest.IsSound

instance decidableIsSound :
    (draft : Draft) → Decidable (draft.IsSound isName)
  | .literal cs => inferInstanceAs (Decidable (IsLiteral cs))
  | .filled cs slot rest =>
      have := decidableIsSound rest
      inferInstanceAs (Decidable
        (IsLiteral (cs ++ ['\x7b']) ∧ slot.IsSound isName ∧
          rest.IsSound isName))

/-
  Different variables have different compatible forms, also
  from the name under which a template knows itself.
-/
def NamesApart (draft : Draft) : Prop :=
  ∀ one ∈ selfName :: draft.keys,
    ∀ other ∈ selfName :: draft.keys,
      Text.compatibleForm one = Text.compatibleForm other →
        one = other

instance (draft : Draft) : Decidable draft.NamesApart := by
  unfold NamesApart
  infer_instance

/- A draft that means what it says, with names apart. -/
structure IsPlain (draft : Draft) : Prop where
  sound : draft.IsSound isName
  apart : draft.NamesApart

end Draft

end

------------------------------------------------------------
-- Known Filters and Given Variables
------------------------------------------------------------

/- Texts for variables. -/
abbrev Values :=
  List (String × String)

section

variable {Thing Fault : Type}
variable (filters : Filters Thing Fault)

def Slot.FiltersKnown (slot : Slot) : Prop :=
  ∀ name ∈ slot.filterNames, (filters name).isSome

def Draft.FiltersKnown (draft : Draft) : Prop :=
  ∀ slot ∈ draft.slots, slot.FiltersKnown filters

instance (draft : Draft) :
    Decidable (draft.FiltersKnown filters) := by
  unfold Draft.FiltersKnown Slot.FiltersKnown
  infer_instance

def Slot.filtered
    (slot : Slot)
    (thing : Thing) : Except Fault Thing :=
  (slot.filterNames.filterMap filters).foldlM
    (fun thing filter => filter thing) thing

end

def Slot.IsGiven
    (values : Values)
    (slot : Slot) : Prop :=
  (values.lookup slot.key.name).isSome

def Draft.IsGiven
    (values : Values)
    (draft : Draft) : Prop :=
  ∀ slot ∈ draft.slots, slot.IsGiven values

instance (values : Values) (slot : Slot) :
    Decidable (slot.IsGiven values) := by
  unfold Slot.IsGiven
  infer_instance

instance (values : Values) (draft : Draft) :
    Decidable (draft.IsGiven values) := by
  unfold Draft.IsGiven
  infer_instance

------------------------------------------------------------
-- Meanings
------------------------------------------------------------

namespace Language

variable {Thing Parsed Fault : Type}
variable (language : Language Thing Parsed Fault)

/- Texts as what the variables of a template stand for. -/
def given (values : Values) : Variables Thing :=
  values.map fun entry =>
    (entry.1, language.view.text entry.2)

/-
  What a name stands for in a template: the given text, or
  else what is known, or else it is undefined.
-/
def standsFor
    (template : Option String)
    (values : Values)
    (name : String) : Thing :=
  let given := (values.lookup name).map language.view.text
  (given.or (language.known? template name)).getD
    (language.undefined name)

section

variable (filters : Filters Thing Fault)

def shown
    (slot : Slot)
    (thing : Thing) : Except Fault String := do
  language.view.display (← slot.filtered filters thing)

/- What comes of a slot in a template. -/
def slotOutcome
    (template : Option String)
    (values : Values)
    (slot : Slot) : Except Fault String :=
  language.shown filters slot
    (language.standsFor template values slot.key.name)

/- Parse a text, and render it with texts for variables. -/
def result
    (template : Option String)
    (values : Values)
    (text : String) : Except Fault String := do
  language.render filters template
    (language.given values)
    (← language.parse filters text)

end

def FailsWithOwn
    {A : Type}
    (step : Except Fault A) : Prop :=
  ∃ fault, step = .error fault ∧ language.isOwn fault

------------------------------------------------------------
-- Documentation
------------------------------------------------------------

/-
  What is documented of a language. Texts are what they are,
  and what is undefined is not to be used. A plain draft is
  parsed if its filters are known. Its first literal text
  comes out with line feeds for all line breaks, then what
  comes of its first slot, and then what its rest is by
  itself. The name of the template itself is no variable.
-/
structure IsDocumented : Prop where
  asText_text : ∀ ability text,
    language.view.asText ability (language.view.text text) =
      .ok text
  display_text : ∀ text,
    language.view.display (language.view.text text) =
      .ok text
  asText_undefined : ∀ ability name,
    language.FailsWithOwn
      (language.view.asText ability (language.undefined name))
  display_undefined : ∀ name,
    language.FailsWithOwn
      (language.view.display (language.undefined name))
  parses : ∀ filters (draft : Draft),
    draft.IsPlain language.isName →
      draft.FiltersKnown filters →
        ∃ parsed, language.parse filters draft.text =
          .ok parsed
  refuses : ∀ filters (draft : Draft),
    draft.IsPlain language.isName →
      ¬draft.FiltersKnown filters →
        language.FailsWithOwn
          (language.parse filters draft.text)
  literal : ∀ filters template values cs,
    values.lookup selfName = none → IsLiteral cs →
      language.result filters template values
          (Draft.literal cs).text =
        .ok (String.ofList (Text.unifyBreaks cs))
  filled : ∀ filters template values cs slot rest,
    values.lookup selfName = none →
      (Draft.filled cs slot rest).IsPlain language.isName →
        (Draft.filled cs slot rest).FiltersKnown filters →
          language.result filters template values
              (Draft.filled cs slot rest).text =
            (do
              let first ←
                language.slotOutcome filters template values
                  slot
              let more ←
                language.result filters template values
                  rest.text
              return String.ofList (Text.unifyBreaks cs) ++
                (first ++ more))
  selfGiven : ∀ filters template values parsed,
    (values.lookup selfName).isSome →
      ∃ fault, language.render filters template
          (language.given values) parsed =
            .error fault ∧
        language.isOwn fault = false

end Language

end Template

end PocketDart
