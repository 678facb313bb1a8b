import PocketDart.Value.Equality
import PocketDart.Yaml.Scalar

/-
  This file defines the nodes of a YAML document and their
  values. A mapping may take over the entries of others
  under the merge key; its own entries come after them and
  win. Values are found level by level, so that of two
  faults the one that is less deep is met.

  Key definitions include:
    * `Yaml.Node`
    * `Yaml.Node.merged`
    * `Yaml.FaultBelow`
    * `Yaml.Node.value`
-/

------------------------------------------------------------
-- Nodes
------------------------------------------------------------

namespace PocketDart

namespace Yaml

/- A scalar; only a plain one can be other than a text. -/
structure Scalar where
  text : String
  plain : Bool
  deriving DecidableEq, Repr

/- What a document is made of. -/
inductive Node where
  | scalar (scalar : Scalar)
  | sequence (items : List Node)
  | mapping (entries : List (Node × Node))
  /- A mapping that takes over what has no entries. -/
  | unmergeable

/- The node that stands where nothing is written. -/
def Node.empty : Node :=
  .scalar ⟨"", true⟩

------------------------------------------------------------
-- Merged Mappings
------------------------------------------------------------

/- Whether a key takes over the entries of its value. -/
def Node.isMerge : Node → Bool
  | .scalar key => key.plain && key.text == mergeWord
  | _ => false

def Node.entries? : Node → Option (List (Node × Node))
  | .mapping entries => some entries
  | _ => none

/-
  The entries that a node offers to others: its own if it is
  a mapping, or those of a sequence of mappings, of which
  the first one wins.
-/
def Node.offered? : Node → Option (List (Node × Node))
  | .mapping entries => some entries
  | .sequence items => do
      let parts ← items.mapM Node.entries?
      return parts.reverse.flatten
  | _ => none

/- Entries that are taken over, and those of a mapping. -/
structure MappingParts where
  merged : List (Node × Node) := []
  own : List (Node × Node) := []

/- Put one more entry in front. -/
def MappingParts.add
    (parts : MappingParts)
    (key node : Node) : Option MappingParts :=
  if key.isMerge then do
    let offered ← node.offered?
    return { parts with merged := offered ++ parts.merged }
  else
    some { parts with own := (key, node) :: parts.own }

mutual

/- A node without merge keys in it. -/
def Node.merged : Node → Node
  | .scalar scalar => .scalar scalar
  | .sequence items => .sequence (mergedItems items)
  | .mapping entries =>
      match mappingParts? entries with
      | some parts => .mapping (parts.merged ++ parts.own)
      | none => .unmergeable
  | .unmergeable => .unmergeable

/- The items of a sequence without merge keys. -/
def mergedItems : List Node → List Node
  | [] => []
  | item :: rest => item.merged :: mergedItems rest

def mappingParts? :
    List (Node × Node) → Option MappingParts
  | [] => some {}
  | (key, node) :: rest => do
      (← mappingParts? rest).add key node.merged

end

------------------------------------------------------------
-- Faults at Levels
------------------------------------------------------------

/- A fault, and how many levels further down it lies. -/
structure FaultBelow where
  levels : Nat
  fault : Fault

namespace FaultBelow

/- A fault at this level. -/
def here (fault : Fault) : FaultBelow :=
  ⟨0, fault⟩

/- The fault as it lies from one level further up. -/
def fromAbove (below : FaultBelow) : FaultBelow :=
  { below with levels := below.levels + 1 }

/- The less deep fault; the first of two as deep. -/
def earlier (first second : FaultBelow) : FaultBelow :=
  if second.levels < first.levels then second else first

/- Two results together, or the earlier fault. -/
def both
    {α β : Type}
    (first : Except FaultBelow α)
    (second : Except FaultBelow β) :
    Except FaultBelow (α × β) :=
  match first, second with
  | .ok a, .ok b => .ok (a, b)
  | .error e, .ok _ => .error e
  | .ok _, .error e => .error e
  | .error e, .error e' => .error (e.earlier e')

end FaultBelow

------------------------------------------------------------
-- Values
------------------------------------------------------------

def Scalar.value (scalar : Scalar) : Except Fault Document :=
  if scalar.plain then plainValue scalar.text
  else .ok (.text scalar.text)

/-
  The value of a key. A collection is none, and a word
  without value is one as a text.
-/
def Node.keyValue : Node → Except Fault Document
  | .scalar key =>
      match key.value with
      | .error (.noMeaning _) => .ok (.text key.text)
      | value => value
  | _ => .error .collectionKey

/- The number that a scalar stands for. -/
def numberValue? : Document → Option Value
  | .bool b => some (.bool b)
  | .int n => some (.int n)
  | .float x => some (.float x)
  | _ => none

/- Whether two scalars are one key. -/
def areSameKey (x y : Document) : Bool :=
  match x, y with
  | .null, .null => true
  | .text s, .text t => s == t
  | .other a, .other b =>
      a.kind == b.kind && a.quoted == b.quoted
  | _, _ =>
      match numberValue? x, numberValue? y with
      | some m, some n => m.equalsNumber n
      | _, _ => false

/- Set a key, which keeps its place if it is there. -/
def setKey
    (key value : Document) :
    DocumentEntries → DocumentEntries
  | [] => [(key, value)]
  | (k, v) :: rest =>
      if areSameKey k key then (k, value) :: rest
      else (k, v) :: setKey key value rest

/- Entries in order, where the last of equal keys counts. -/
def collectEntries
    (entries : DocumentEntries) : DocumentEntries :=
  entries.foldl
    (fun known (key, value) => setKey key value known) []

mutual

/-
  The value of a node without merge keys. What is in a
  collection lies one level below it.
-/
def Node.mergedValue : Node → Except FaultBelow Document
  | .scalar scalar => scalar.value.mapError .here
  | .sequence items =>
      match itemValues items with
      | .ok values => .ok (.list values)
      | .error e => .error e.fromAbove
  | .mapping entries =>
      match entryValues entries with
      | .ok values => .ok (.mapping (collectEntries values))
      | .error e => .error e.fromAbove
  | .unmergeable =>
      .error (FaultBelow.here .notMergeable).fromAbove

def itemValues :
    List Node → Except FaultBelow (List Document)
  | [] => .ok []
  | item :: rest => do
      let (value, more) ←
        FaultBelow.both item.mergedValue (itemValues rest)
      return value :: more

def entryValues :
    List (Node × Node) → Except FaultBelow DocumentEntries
  | [] => .ok []
  | (key, node) :: rest => do
      let (key, value, more) ←
        FaultBelow.both (key.keyValue.mapError .here)
          (FaultBelow.both node.mergedValue (entryValues rest))
      return (key, value) :: more

end

def Node.value (node : Node) : Except Fault Document :=
  node.merged.mergedValue.mapError (·.fault)

end Yaml

end PocketDart
