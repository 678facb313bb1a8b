import PocketDart.Config.File
import PocketDart.Machine
import PocketDart.Yaml.Lexer
import PocketDart.Yaml.Node

/-
  This file defines how a YAML document is read, in the part
  of the language that a configuration needs: mappings and
  sequences as blocks or between brackets, and scalars. The
  values of nodes are looked at when all nodes are read.

  Key definitions include:
    * `Yaml.read`
    * `Yaml.reader`
-/

------------------------------------------------------------
-- Nodes
------------------------------------------------------------

namespace PocketDart

namespace Yaml

/- A node, and what is left of the tokens after it. -/
abbrev Parsed :=
  Except Fault (Node × List Token)

def endsBlockValue : List Token → Bool
  | [] => true
  | token :: _ =>
      token ∈ [.key, .value, .blockEnd, .documentStart,
        .documentEnd]

def endsFlowValue : List Token → Bool
  | [] => true
  | token :: _ =>
      token ∈ [.value, .flowEntry, .flowSequenceEnd,
        .flowMappingEnd]

/-
  The fault of tokens that do not belong where they are: an
  own one of the first of them, if it has one.
-/
def unexpected
    {α : Type}
    (ts : List Token) : Except Fault α :=
  match ts with
  | .broken fault :: _ => .error fault
  | .alias :: _ => .error .unknownAlias
  | _ => .error .unexpectedToken

mutual

/-
  Read a node with so many levels at most, its own one being
  the first, as a part of a mapping or not. In a mapping a
  sequence need not be indented further, so that its entries
  follow at once.
-/
def readNode
    (fuel depth : Nat)
    (inMapping block indentless : Bool)
    (ts : List Token) : Parsed :=
  match fuel, depth with
  | 0, _ => .error .unexpectedToken
  | _, 0 => .error (.tooDeep inMapping)
  | fuel + 1, depth + 1 =>
      match ts with
      | .scalar text plain :: rest =>
          .ok (.scalar ⟨text, plain⟩, rest)
      | .flowSequenceStart :: rest =>
          readFlowItems fuel depth [] rest
      | .flowMappingStart :: rest =>
          readFlowEntries fuel depth [] rest
      | .blockSequenceStart :: rest =>
          if block then
            readBlockItems fuel depth true [] rest
          else .error .unexpectedToken
      | .blockMappingStart :: rest =>
          if block then
            readBlockEntries fuel depth [] rest
          else .error .unexpectedToken
      | .blockEntry :: _ =>
          if block && indentless then
            readBlockItems fuel depth false [] ts
          else .error .unexpectedToken
      | _ => unexpected ts

/-
  Read the items of a block sequence; those read are in
  reverse. A block of its own is closed by a token.
-/
def readBlockItems
    (fuel depth : Nat)
    (own : Bool)
    (items : List Node)
    (ts : List Token) : Parsed :=
  match fuel with
  | 0 => .error .unexpectedToken
  | fuel + 1 =>
      match ts with
      | .blockEntry :: rest =>
          if endsBlockValue rest ||
              rest.head? = some .blockEntry then
            readBlockItems fuel depth own
              (.empty :: items) rest
          else do
            let (item, rest) ←
              readNode fuel depth false true false rest
            readBlockItems fuel depth own
              (item :: items) rest
      | _ =>
          if own then
            match ts with
            | .blockEnd :: rest =>
                .ok (.sequence items.reverse, rest)
            | _ => unexpected ts
          else .ok (.sequence items.reverse, ts)

/-
  Read the entries of a block mapping; those read are in
  reverse.
-/
def readBlockEntries
    (fuel depth : Nat)
    (entries : List (Node × Node))
    (ts : List Token) : Parsed :=
  match fuel with
  | 0 => .error .unexpectedToken
  | fuel + 1 =>
      match ts with
      | .blockEnd :: rest =>
          .ok (.mapping entries.reverse, rest)
      | .key :: rest => do
          let (key, rest) ←
            if endsBlockValue rest then .ok (.empty, rest)
            else
              readNode fuel depth true true true rest
          let (value, rest) ←
            match rest with
            | .value :: rest =>
                if endsBlockValue rest then .ok (.empty, rest)
                else
                  readNode fuel depth true true true rest
            | _ => .ok (.empty, rest)
          readBlockEntries fuel depth
            ((key, value) :: entries) rest
      | _ => unexpected ts

/- Read the items of a sequence between brackets. -/
def readFlowItems
    (fuel depth : Nat)
    (items : List Node)
    (ts : List Token) : Parsed :=
  match fuel with
  | 0 => .error .unexpectedToken
  | fuel + 1 =>
      match ts with
      | .flowSequenceEnd :: rest =>
          .ok (.sequence items.reverse, rest)
      | _ => do
          let (item, rest) ←
            match ts with
            | .key :: rest => do
                let (entry, rest) ←
                  readFlowEntry fuel depth rest
                .ok (.mapping [entry], rest)
            | _ => readNode fuel depth false false false ts
          match rest with
          | .flowEntry :: rest =>
              readFlowItems fuel depth (item :: items) rest
          | .flowSequenceEnd :: _ =>
              readFlowItems fuel depth (item :: items) rest
          | _ => unexpected rest

/- Read the entries of a mapping between braces. -/
def readFlowEntries
    (fuel depth : Nat)
    (entries : List (Node × Node))
    (ts : List Token) : Parsed :=
  match fuel with
  | 0 => .error .unexpectedToken
  | fuel + 1 =>
      match ts with
      | .flowMappingEnd :: rest =>
          .ok (.mapping entries.reverse, rest)
      | _ => do
          let (entry, rest) ←
            match ts with
            | .key :: rest => readFlowEntry fuel depth rest
            | _ => do
                let (key, rest) ←
                  readNode fuel depth true false false ts
                .ok ((key, .empty), rest)
          match rest with
          | .flowEntry :: rest =>
              readFlowEntries fuel depth
                (entry :: entries) rest
          | .flowMappingEnd :: _ =>
              readFlowEntries fuel depth
                (entry :: entries) rest
          | _ => unexpected rest

/- Read a key and its value between brackets. -/
def readFlowEntry
    (fuel depth : Nat)
    (ts : List Token) :
    Except Fault ((Node × Node) × List Token) :=
  match fuel with
  | 0 => .error .unexpectedToken
  | fuel + 1 => do
      let (key, rest) ←
        if endsFlowValue ts then .ok (.empty, ts)
        else readNode fuel depth true false false ts
      match rest with
      | .value :: rest =>
          if endsFlowValue rest then .ok ((key, .empty), rest)
          else do
            let (value, rest) ←
              readNode fuel depth true false false rest
            .ok ((key, value), rest)
      | _ => .ok ((key, .empty), rest)

end

------------------------------------------------------------
-- Documents
------------------------------------------------------------

def endDocument
    (node : Node)
    (ts : List Token) : Except Fault Node :=
  match ts.dropWhile (· = .documentEnd) with
  | [] => .ok node
  | .broken fault :: _ => .error fault
  | _ => .error .secondDocument

/-
  Read a document, which may be without content and can have
  so many levels of nodes.
-/
def readDocument
    (levels : Nat)
    (ts : List Token) : Except Fault Node :=
  let fuel := 2 * ts.length + 2
  match ts with
  | [] => .ok .empty
  | .documentStart :: rest =>
      match rest with
      | [] => .ok .empty
      | .documentEnd :: _ | .documentStart :: _ =>
          endDocument .empty rest
      | _ => do
          let (node, rest) ←
            readNode fuel levels false true false rest
          endDocument node rest
  | _ => do
      let (node, rest) ← readNode fuel levels false true false ts
      endDocument node rest

/-
  Read the text of a document, which is whole or goes on up
  to a fault.
-/
def read
    (machine : Machine)
    (cs : List Char)
    (ending : Option Fault) : Except Fault Document := do
  let ts := tokens machine.standIn cs ending
  (← readDocument machine.nodeLevels ts).value

------------------------------------------------------------
-- Bytes
------------------------------------------------------------

def Fault.toLoadFault (fault : Fault) : LoadFault :=
  match fault with
  | .scalar _ | .tooDeep _ => .unhandled fault.message
  | _ => .malformed fault.message

/- The reader of configurations. -/
def reader (machine : Machine) : DocumentReader :=
  fun bytes =>
    let (text, failure) := Inflow.read bytes
    match read machine text (failure.map fun _ => .unreadable),
        failure with
    | .ok document, _ => .ok document
    | .error .unreadable, some error =>
        .error (.unhandled error.message)
    | .error fault, _ => .error fault.toLoadFault

end Yaml

end PocketDart
