import Mathlib.Data.List.Nodup
import PocketDart.Proofs.Dart.Program

/-
  This file defines what a program does: how its names are
  resolved, what its tables and expressions mean, and which
  object the factory makes of a record. A name means what is
  declared under it, first in the class and then in the
  file. No result stands for an exception.

  Key definitions include:
    * `Dart.TimeFormat`
    * `Dart.Item`
    * `Dart.Program.declaration?`
    * `Dart.Program.eval`
    * `Dart.Program.fromModel`
    * `Dart.Program.toMap`

  Key theorems include:
    * `Dart.lookup_of_mem`
    * `Dart.mapOf_eq_self`
    * `Dart.Program.construct_eq_self`
-/

------------------------------------------------------------
-- Values
------------------------------------------------------------

namespace PocketDart

namespace Dart

/- How points in time are read and written. -/
structure TimeFormat (Time : Type) where
  parse? : String → Option Time
  format : Time → String

/- A value: one of a record, a time, or an enum constant. -/
inductive Item (Time : Type) where
  | wire (value : Value)
  | time (time : Time)
  | constant (type name : String)

/- A record: what every record has, and its other values. -/
structure Record where
  id : String
  created : String
  updated : String
  data : Entries

/- The value under a name, which is null if there is none. -/
def Record.value
    (record : Record)
    (name : String) : Value :=
  (record.data.lookup name).getD .null

def Record.own?
    (record : Record)
    (name : String) : Option String :=
  if name = "id" then some record.id
  else if name = "created" then some record.created
  else if name = "updated" then some record.updated
  else none

namespace Item

variable {Time : Type}

def isNull : Item Time → Bool
  | .wire .null => true
  | _ => false

/- Whether a value is the empty text. -/
def isBlank : Item Time → Bool
  | .wire (.text s) => s = ""
  | _ => false

/- Whether two values are the same key of a table. -/
def isSameKey : Item Time → Item Time → Bool
  | .wire (.text s), .wire (.text t) => s = t
  | .constant type name, .constant type' name' =>
      type = type' ∧ name = name'
  | _, _ => false

/- The type of a value that a member may be declared with. -/
def type? : Item Time → Option String
  | .wire (.text _) => some "String"
  | .wire (.int _) => some "num"
  | .wire (.float _) => some "num"
  | .wire (.bool _) => some "bool"
  | .time _ => some "DateTime"
  | .constant type _ => some type
  | _ => none

end Item

/- Whether a member of a type can hold a value. -/
def TypeName.admits
    {Time : Type}
    (type : TypeName)
    (item : Item Time) : Bool :=
  type.isUntyped ||
    if item.isNull then type.nullable
    else item.type? = some type.base

/- What is untyped admits null, whether it says so or not. -/
theorem TypeName.admits_told
    {Time : Type}
    (type : TypeName)
    (item : Item Time) :
    type.told.admits item = type.admits item := by
  have hUntyped : type.told.isUntyped = type.isUntyped := rfl
  have hBase : type.told.base = type.base := rfl
  rw [admits, admits, hUntyped, hBase]
  cases hKnown : type.isUntyped with
  | true => rfl
  | false => simp [told, hKnown]

------------------------------------------------------------
-- Declarations
------------------------------------------------------------

/- What a name can be declared as. -/
inductive Declaration where
  | member
  | constant (wireName : String)
  | enum (constants : List String)
  | table (table : Table)
  | reader (reader : Reader)
  deriving DecidableEq, Repr

def EnumPart.declarations
    (part : EnumPart) : List (String × Declaration) :=
  [(part.type, .enum part.constants),
    (part.toMap.name, .table part.toMap),
    (part.fromMap.name, .table part.fromMap),
    (part.fromWire.name, .reader part.fromWire)]

/- The declarations of a member and its constant. -/
def Property.declarations
    (property : Property) : List (String × Declaration) :=
  [(property.member, .member),
    (property.constant, .constant property.wireName)]

namespace Program

/-
  The declarations of the file that expressions name. The
  class is none of them: its name only stands where an
  object is constructed.
-/
def fileDeclarations
    (program : Program) : List (String × Declaration) :=
  program.enums.flatMap EnumPart.declarations

/-
  The declarations that expressions in the class name. Those
  of the class hide those of the file.
-/
def declarations
    (program : Program) : List (String × Declaration) :=
  program.properties.flatMap Property.declarations ++
    program.fileDeclarations

def fileDeclaration?
    (program : Program)
    (name : String) : Option Declaration :=
  program.fileDeclarations.lookup name

/-
  What a name means in the class. In the factory one name is
  that of the record and hides what is declared under it.
-/
def declaration?
    (program : Program)
    (inFactory : Bool)
    (name : String) : Option Declaration :=
  if inFactory ∧ name = Expression.recordName then none
  else program.declarations.lookup name

def wireName?
    (program : Program)
    (inFactory : Bool)
    (constant : String) : Option String :=
  match program.declaration? inFactory constant with
  | some (.constant wireName) => some wireName
  | _ => none

def memberTypes
    (program : Program) : List (String × TypeName) :=
  program.properties.map fun property =>
    (property.member, property.type)

end Program

------------------------------------------------------------
-- Tables
------------------------------------------------------------

variable {Time : Type}

def heldFor
    (key : Item Time) :
    List (Item Time × Item Time) → Item Time
  | [] => .wire .null
  | (other, item) :: rest =>
      if other.isSameKey key then item
      else heldFor key rest

namespace Program

def atom?
    (program : Program) : Atom → Option (Item Time)
  | .text value => some (.wire (.text value))
  | .constant type name =>
      match program.fileDeclaration? type with
      | some (.enum constants) =>
          if name ∈ constants then some (.constant type name)
          else none
      | _ => none

def tableItem?
    (program : Program)
    (table : Table)
    (key : Item Time) : Option (Item Time) := do
  let entries ← table.entries.mapM fun entry => do
    return (← program.atom? entry.1, ← program.atom? entry.2)
  return heldFor key entries

/- What a function returns, unless its table lacks it. -/
def call?
    (program : Program)
    (reader : Reader)
    (argument : Item Time) : Option (Item Time) :=
  match program.fileDeclaration? reader.table with
  | some (.table table) => do
      let item ← program.tableItem? table argument
      if item.isNull then none else some item
  | _ => none

end Program

------------------------------------------------------------
-- Expressions
------------------------------------------------------------

/-
  What an expression sees: the record in the factory, and
  the members in the methods of the class.
-/
structure Frame (Time : Type) where
  record? : Option Record
  members : List (String × Item Time)

/- Whether an expression stands in the factory. -/
def Frame.inFactory (frame : Frame Time) : Bool :=
  frame.record?.isSome

namespace Program

variable (program : Program)
variable (times : TimeFormat Time)

def eval
    (frame : Frame Time) :
    Expression → Option (Item Time)
  | .recordValue constant => do
      let record ← frame.record?
      let name ← program.wireName? frame.inFactory constant
      return .wire (record.value name)
  | .recordField name => do
      let record ← frame.record?
      return .wire (.text (← record.own? name))
  | .member name =>
      match program.declaration? frame.inFactory name with
      | some .member => frame.members.lookup name
      | _ => none
  | .call function argument => do
      let item ← eval frame argument
      match program.declaration? frame.inFactory function with
      | some (.reader reader) => program.call? reader item
      | _ => none
  | .lookup table key => do
      let item ← eval frame key
      match program.declaration? frame.inFactory table with
      | some (.table table) => program.tableItem? table item
      | _ => none
  | .parseTime text => do
      match ← eval frame text with
      | .wire (.text s) => return .time (← times.parse? s)
      | _ => none
  | .formatTime time nullAware => do
      match ← eval frame time with
      | .time t => return .wire (.text (times.format t))
      | .wire .null =>
          if nullAware then some (.wire .null) else none
      | _ => none
  | .unlessNull tested value => do
      if (← eval frame tested).isNull then
        return .wire .null
      else eval frame value
  | .unlessBlank tested value => do
      let item ← eval frame tested
      if item.isNull || item.isBlank then
        return .wire .null
      else eval frame value

------------------------------------------------------------
-- Objects
------------------------------------------------------------

/- The value of a parameter, which its member can hold. -/
def parameterItem?
    (arguments : List (String × Item Time))
    (parameter : Parameter) :
    Option (String × Item Time) := do
  let item ←
    match arguments.lookup parameter.member with
    | some item => some item
    | none =>
        if parameter.required then none
        else some (.wire .null)
  let type ← program.memberTypes.lookup parameter.member
  if type.admits item then
    return (parameter.member, item)
  else none

/- An object from arguments that are all parameters. -/
def construct
    (arguments : List (String × Item Time)) :
    Option (List (String × Item Time)) :=
  if ∀ argument ∈ arguments,
      argument.1 ∈ program.parameters.map (·.member) then
    program.parameters.mapM
      (program.parameterItem? arguments)
  else none

/- The object that the factory makes of a record. -/
def fromModel
    (record : Record) :
    Option (List (String × Item Time)) := do
  let arguments ← program.arguments.mapM fun argument => do
    return (argument.1,
      ← program.eval times ⟨some record, []⟩ argument.2)
  program.construct arguments

end Program

def setKey
    (key : String)
    (item : Item Time) :
    List (String × Item Time) → List (String × Item Time)
  | [] => [(key, item)]
  | (other, old) :: rest =>
      if other = key then (other, item) :: rest
      else (other, old) :: setKey key item rest

def mapOf
    (entries : List (String × Item Time)) :
    List (String × Item Time) :=
  entries.foldl (fun map entry => setKey entry.1 entry.2 map)
    []

/- The record that an object is written as. -/
def Program.toMap
    (program : Program)
    (times : TimeFormat Time)
    (members : List (String × Item Time)) :
    Option (List (String × Item Time)) := do
  let entries ← program.entries.mapM fun entry => do
    return (← program.wireName? false entry.1,
      ← program.eval times ⟨none, members⟩ entry.2)
  return mapOf entries

------------------------------------------------------------
-- Tests
------------------------------------------------------------

namespace Program

variable {program : Program}
variable {times : TimeFormat Time}
variable {frame : Frame Time}
variable {tested value : Expression}
variable {item : Item Time}

theorem eval_unlessNull
    (hTested : program.eval times frame tested =
      some item) :
    program.eval times frame (.unlessNull tested value) =
      if item.isNull then some (.wire .null)
      else program.eval times frame value := by
  rw [eval, hTested]
  rfl

theorem eval_unlessBlank
    (hTested : program.eval times frame tested =
      some item) :
    program.eval times frame (.unlessBlank tested value) =
      if item.isNull || item.isBlank then
        some (.wire .null)
      else program.eval times frame value := by
  rw [eval, hTested]
  rfl

end Program

------------------------------------------------------------
-- Lists
------------------------------------------------------------

theorem mapM_eq_map
    {A B : Type}
    {step : A → Option B}
    (result : A → B)
    {items : List A}
    (hSteps : ∀ item ∈ items,
      step item = some (result item)) :
    items.mapM step = some (items.map result) := by
  induction items with
  | nil => rfl
  | cons item rest ih =>
      rcases List.forall_mem_cons.mp hSteps with ⟨hItem, hRest⟩
      rw [List.mapM_cons, hItem, ih hRest]
      rfl

theorem Program.tableItem?_eq_heldFor
    {program : Program}
    {table : Table}
    {texts : List String}
    {key value : String → Atom}
    (keyItem valueItem : String → Item Time)
    (hEntries : table.entries =
      texts.map fun text => (key text, value text))
    (hAtoms : ∀ text ∈ texts,
      program.atom? (key text) = some (keyItem text) ∧
        program.atom? (value text) = some (valueItem text))
    (item : Item Time) :
    program.tableItem? table item =
      some (heldFor item (texts.map fun text =>
        (keyItem text, valueItem text))) := by
  rw [Program.tableItem?, hEntries, List.mapM_map,
    mapM_eq_map fun text => (keyItem text, valueItem text)]
  · rfl
  · intro text hText
    rcases hAtoms text hText with ⟨hKey, hValue⟩
    simp [hKey, hValue]

/- Where names are distinct, an entry is found by its name. -/
theorem lookup_of_mem
    {A : Type}
    {entries : List (String × A)}
    (hDistinct : (entries.map (·.1)).Nodup)
    {name : String}
    {value : A}
    (hMem : (name, value) ∈ entries) :
    entries.lookup name = some value := by
  induction entries with
  | nil => cases hMem
  | cons entry rest ih =>
      rcases List.nodup_cons.mp hDistinct with ⟨hNew, hRest⟩
      rcases List.mem_cons.mp hMem with rfl | hLater
      · simp
      · have hName : (name == entry.1) = false := by
          rw [beq_eq_false_iff_ne]
          rintro rfl
          exact hNew (List.mem_map.mpr
            ⟨_, hLater, rfl⟩)
        rw [List.lookup_cons, hName]
        exact ih hRest hLater

/- A new key goes to the end. -/
theorem setKey_of_notMem
    {key : String}
    {entries : List (String × Item Time)}
    (hKey : key ∉ entries.map (·.1))
    (item : Item Time) :
    setKey key item entries = entries ++ [(key, item)] := by
  induction entries with
  | nil => rfl
  | cons entry rest ih =>
      rw [List.map_cons, List.mem_cons, not_or] at hKey
      rw [setKey, if_neg (Ne.symm hKey.1), ih hKey.2]
      rfl

/- Where keys are distinct, a map holds what is written. -/
theorem mapOf_eq_self
    {entries : List (String × Item Time)}
    (hDistinct : (entries.map (·.1)).Nodup) :
    mapOf entries = entries := by
  have hFold :
      ∀ map : List (String × Item Time),
        ((map ++ entries).map (·.1)).Nodup →
        entries.foldl (fun map entry =>
          setKey entry.1 entry.2 map) map =
            map ++ entries := by
    clear hDistinct
    induction entries with
    | nil => simp
    | cons entry rest ih =>
        intro map hAll
        have hNew : entry.1 ∉ map.map (·.1) := by
          rw [List.map_append, List.map_cons,
            List.nodup_middle, List.nodup_cons] at hAll
          exact fun hMem =>
            hAll.1 (List.mem_append_left _ hMem)
        rw [List.foldl_cons, setKey_of_notMem hNew, ih]
        · simp
        · simpa using hAll
  simpa [mapOf] using hFold [] hDistinct

------------------------------------------------------------
-- Constructed Objects
------------------------------------------------------------

/-
  Arguments that are the parameters of the constructor, and
  that their members can hold, are the object.
-/
theorem Program.construct_eq_self
    {program : Program}
    {arguments : List (String × Item Time)}
    (hNames : program.parameters.map (·.member) =
      arguments.map (·.1))
    (hDistinct : (arguments.map (·.1)).Nodup)
    (hAdmits : ∀ argument ∈ arguments, ∃ type,
      program.memberTypes.lookup argument.1 = some type ∧
        type.admits argument.2) :
    program.construct arguments = some arguments := by
  let held (name : String) : String × Item Time :=
    (name, (arguments.lookup name).getD (.wire .null))
  have hHeld : ∀ argument ∈ arguments,
      held argument.1 = argument := by
    intro argument hArgument
    simp only [held, lookup_of_mem hDistinct hArgument,
      Option.getD_some]
  have hItems : ∀ parameter ∈ program.parameters,
      program.parameterItem? arguments parameter =
        some (held parameter.member) := by
    intro parameter hParameter
    have hName : parameter.member ∈ arguments.map (·.1) := by
      rw [← hNames]
      exact List.mem_map_of_mem hParameter
    rcases List.mem_map.mp hName with ⟨argument, hArgument, hEq⟩
    rcases hAdmits argument hArgument with ⟨type, hType, hItem⟩
    have hFound := lookup_of_mem hDistinct hArgument
    simp only [Program.parameterItem?, held, ← hEq, hFound,
      hType, Option.getD_some, Option.bind_eq_bind,
      Option.bind_some, hItem, if_true]
    rfl
  have hKnown : ∀ argument ∈ arguments,
      argument.1 ∈ program.parameters.map (·.member) := by
    intro argument hArgument
    rw [hNames]
    exact List.mem_map_of_mem hArgument
  have hAll : program.parameters.map
      (fun parameter => held parameter.member) =
        arguments := by
    calc
      program.parameters.map
          (fun parameter => held parameter.member)
          = (program.parameters.map (·.member)).map held := by
        rw [List.map_map]
        rfl
      _ = arguments.map (fun argument => held argument.1) := by
        rw [hNames, List.map_map]
        rfl
      _ = arguments := by
        rw [List.map_congr_left hHeld, List.map_id']
  rw [Program.construct, if_pos hKnown, mapM_eq_map _ hItems,
    hAll]

end Dart

end PocketDart
