import TypeDisplay.Yaml.Tag.Implicit
import TypeDisplay.Yaml.Token

/-!
# Graphs of nodes

Tokens are read as the nodes of one document.  Nodes are numbered as they begin, and a
collection holds the numbers of the nodes in it, so that a reference to an anchor is the number
of the anchored node, which may be a collection around the reference.  A node that is left out
is an empty plain scalar.

What is wrong among the tokens is only met where reading looks at it.  Every second step of a
reader passes over a token, so twice their number is enough fuel.
-/

namespace TypeDisplay
namespace Yaml

inductive Shape where
  | scalar (text : Text)
  | list (items : List Nat)
  | mapping (entries : List (Nat × Nat))
  deriving DecidableEq, Repr

structure Node where
  tag : Tag
  shape : Shape
  deriving DecidableEq, Repr

structure Graph where
  nodes : Array Node
  root : Nat
  deriving Repr

/-- The tokens that are left, the nodes that were begun, and the anchors among them. -/
structure Composition where
  rest : List Token
  nodes : Array Node
  anchors : List (String × Nat)

abbrev Composing := StateT Composition (Except Failure)

namespace Composition

def refuse {α : Type} : Composing α := throw (.malformed .nodes)

/-! ### Tokens -/

def peek : Composing Token := do
  match (← get).rest with
  | .fault failure :: _ => throw failure
  | token :: _ => return token
  | [] => refuse

def advance : Composing Unit :=
  modify fun s ↦ { s with rest := s.rest.tail }

def nextIs (tokens : List Token) : Composing Bool :=
  return tokens.contains (← peek)

/-! ### Nodes -/

/-- Begins a node.  No anchor is set twice. -/
def add (anchor : Option String) (node : Node) : Composing Nat := do
  let s ← get
  let number := s.nodes.size
  match anchor with
  | none => set { s with nodes := s.nodes.push node }
  | some name =>
      if (s.anchors.lookup name).isSome then throw (.malformed .anchor)
      set { s with nodes := s.nodes.push node, anchors := (name, number) :: s.anchors }
  return number

def complete (number : Nat) (shape : Shape) : Composing Unit :=
  modify fun s ↦ { s with nodes := s.nodes.modify number fun node ↦ { node with shape := shape } }

/-- The node of an anchor that was set before. -/
def refer (name : String) : Composing Nat := do
  match (← get).anchors.lookup name with
  | some number => return number
  | none => throw (.malformed .anchor)

/-- Adds a node that is left out. -/
def addEmpty : Composing Nat := add none ⟨.null, .scalar []⟩

/-! ### Properties -/

/-- What stands in front of a node: its anchor and the full name of its tag. -/
structure Properties where
  anchor : Option String
  tagName : Option String

namespace Properties

/-- Whether the tag is left to the kind or text of the node. -/
def isOpen (p : Properties) : Bool :=
  p.tagName.isNone || p.tagName == some "!"

def tag (p : Properties) (kind : Tag) : Tag :=
  if p.isOpen then kind else (p.tagName.map Tag.ofFullName).getD kind

/-- A lone exclamation mark gives a quoted scalar the tag of a plain one. -/
def scalarTag (p : Properties) (text : Text) (isPlain : Bool) : Tag :=
  if if isPlain then p.isOpen else p.tagName == some "!" then Implicit.tagOfText text
  else p.tag .text

def addScalar (p : Properties) (text : Text) (isPlain : Bool) : Composing Nat :=
  add p.anchor ⟨p.scalarTag text isPlain, .scalar text⟩

def addList (p : Properties) (items : Composing (List Nat)) : Composing Nat := do
  let number ← add p.anchor ⟨p.tag .list, .list []⟩
  complete number (.list (← items))
  return number

def addMapping (p : Properties) (entries : Composing (List (Nat × Nat))) : Composing Nat := do
  let number ← add p.anchor ⟨p.tag .mapping, .mapping []⟩
  complete number (.mapping (← entries))
  return number

end Properties

def fullName (handles : Handles) (handle : Option String) (suffix : String) :
    Composing String :=
  match handle with
  | none => return suffix
  | some handle =>
      match handles.lookup handle with
      | some start => return start ++ suffix
      | none => refuse

/-- Reads an anchor and a tag in either order, where each may be left out. -/
def properties (handles : Handles) : Composing Properties := do
  match ← peek with
  | .anchor a => do
      advance
      match ← peek with
      | .tag handle suffix => do
          advance
          return ⟨some a, some (← fullName handles handle suffix)⟩
      | _ => return ⟨some a, none⟩
  | .tag handle suffix => do
      advance
      match ← peek with
      | .anchor a => do
          advance
          return ⟨some a, some (← fullName handles handle suffix)⟩
      | _ => return ⟨none, some (← fullName handles handle suffix)⟩
  | _ => return ⟨none, none⟩

/-! ### Trees of nodes -/

/-- The places where a node may stand: in a flow collection, in a block collection, or as
a part of a block mapping, where a list need not be indented. -/
inductive Place where
  | flow | block | mappingPart
  deriving DecidableEq

/-- Passes over the comma in front of every item but the first. -/
def passComma (isFirst : Bool) : Composing Unit := do
  if !isFirst then
    match ← peek with
    | .flowEntry => advance
    | _ => refuse

mutual

def readNode (handles : Handles) : (fuel : Nat) → Place → Composing Nat
  | 0, _ => refuse
  | fuel + 1, place => do
      match ← peek with
      | .reference a => do
          advance
          refer a
      | _ => do
          let p ← properties handles
          match place, ← peek with
          | _, .scalar text isPlain => do
              advance
              p.addScalar text isPlain
          | _, .flowSequenceStart => p.addList do
              advance
              readFlowItems handles fuel true
          | _, .flowMappingStart => p.addMapping do
              advance
              readFlowEntries handles fuel true
          | .mappingPart, .entry => p.addList (readFlatItems handles fuel)
          | .block, .sequenceStart | .mappingPart, .sequenceStart => p.addList do
              advance
              readItems handles fuel
          | .block, .mappingStart | .mappingPart, .mappingStart => p.addMapping do
              advance
              readEntries handles fuel
          | _, _ =>
              if p.anchor.isSome || p.tagName.isSome then p.addScalar [] true else refuse

/-- Reads a node that is left out when one of the tokens is next. -/
def readUnless (handles : Handles) : (fuel : Nat) → (stops : List Token) → Place → Composing Nat
  | 0, _, _ => refuse
  | fuel + 1, stops, place => do
      if ← nextIs stops then addEmpty else readNode handles fuel place

/-- Reads the value of an entry after its key, which may lack its indicator too. -/
def readValue (handles : Handles) : (fuel : Nat) → (stops : List Token) → Place → Composing Nat
  | 0, _, _ => refuse
  | fuel + 1, stops, place => do
      match ← peek with
      | .value => do
          advance
          readUnless handles fuel stops place
      | _ => addEmpty

def readItems (handles : Handles) : (fuel : Nat) → Composing (List Nat)
  | 0 => refuse
  | fuel + 1 => do
      match ← peek with
      | .blockEnd => do
          advance
          return []
      | .entry => do
          advance
          let item ← readUnless handles fuel [.entry, .blockEnd] .block
          return item :: (← readItems handles fuel)
      | _ => refuse

/-- Reads the items of a list that is not indented below its key. -/
def readFlatItems (handles : Handles) : (fuel : Nat) → Composing (List Nat)
  | 0 => refuse
  | fuel + 1 => do
      match ← peek with
      | .entry => do
          advance
          let item ← readUnless handles fuel [.entry, .key, .value, .blockEnd] .block
          return item :: (← readFlatItems handles fuel)
      | _ => return []

def readEntries (handles : Handles) : (fuel : Nat) → Composing (List (Nat × Nat))
  | 0 => refuse
  | fuel + 1 => do
      match ← peek with
      | .blockEnd => do
          advance
          return []
      | .key => do
          advance
          let stops := [Token.key, .value, .blockEnd]
          let key ← readUnless handles fuel stops .mappingPart
          let value ← readValue handles fuel stops .mappingPart
          return (key, value) :: (← readEntries handles fuel)
      | _ => refuse

/-- Reads the items of a flow list, in which a key begins a mapping of one entry. -/
def readFlowItems (handles : Handles) : (fuel : Nat) → (isFirst : Bool) → Composing (List Nat)
  | 0, _ => refuse
  | fuel + 1, isFirst => do
      if ← nextIs [.flowSequenceEnd] then
        advance
        return []
      passComma isFirst
      match ← peek with
      | .flowSequenceEnd => do
          advance
          return []
      | .key => do
          let item ← Properties.addMapping ⟨none, none⟩ do
            advance
            let stops := [Token.flowEntry, .flowSequenceEnd]
            let key ← readUnless handles fuel (.value :: stops) .flow
            let value ← readValue handles fuel stops .flow
            return [(key, value)]
          return item :: (← readFlowItems handles fuel false)
      | _ => do
          let item ← readNode handles fuel .flow
          return item :: (← readFlowItems handles fuel false)

def readFlowEntries (handles : Handles) : (fuel : Nat) → (isFirst : Bool) →
    Composing (List (Nat × Nat))
  | 0, _ => refuse
  | fuel + 1, isFirst => do
      if ← nextIs [.flowMappingEnd] then
        advance
        return []
      passComma isFirst
      match ← peek with
      | .flowMappingEnd => do
          advance
          return []
      | .key => do
          advance
          let stops := [Token.flowEntry, .flowMappingEnd]
          let key ← readUnless handles fuel (.value :: stops) .flow
          let value ← readValue handles fuel stops .flow
          return (key, value) :: (← readFlowEntries handles fuel false)
      | _ => do
          let key ← readNode handles fuel .flow
          let _ ← peek
          let value ← addEmpty
          return (key, value) :: (← readFlowEntries handles fuel false)

end

/-! ### Documents -/

/-- Reads the directives in front of a document: a version of the first edition, at most once,
and handles, each at most once. -/
def directives : (fuel : Nat) → (hasVersion : Bool) → (own : Handles) → Composing Handles
  | 0, _, _ => refuse
  | fuel + 1, hasVersion, own => do
      match ← peek with
      | .version major => do
          advance
          if hasVersion || major != 1 then refuse else directives fuel true own
      | .tagDirective handle start => do
          advance
          if (own.lookup handle).isSome then refuse
          else directives fuel hasVersion ((handle, start) :: own)
      | .otherDirective => do
          advance
          directives fuel hasVersion own
      | _ => return own ++ defaultHandles

/-- Passes over the end of a document, after which no other may begin. -/
def finish : (fuel : Nat) → Composing Unit
  | 0 => refuse
  | fuel + 1 => do
      match ← peek with
      | .documentEnd => do
          advance
          finish fuel
      | .streamEnd => return
      | _ => do
          let _ ← directives (fuel + 1) false []
          refuse

def startsDirective : Token → Bool
  | .version _ | .tagDirective _ _ | .otherDirective => true
  | _ => false

/-- Reads the only document, if there is one.  Its start may be left out where no directive
is, and only after its start it may be empty. -/
def readDocument (fuel : Nat) : Composing (Option Nat) := do
  let first ← peek
  if first == .streamEnd then return none
  let root ←
    if first == .documentStart || startsDirective first then do
      let handles ← directives fuel false []
      match ← peek with
      | .documentStart => do
          advance
          let next ← peek
          if startsDirective next || [.documentStart, .documentEnd, .streamEnd].contains next then
            addEmpty
          else readNode handles fuel .block
      | _ => refuse
    else readNode defaultHandles fuel .block
  finish fuel
  return some root

end Composition

/-- The nodes of a document, if there is one. -/
def Graph.ofTokens (tokens : List Token) : Except Failure (Option Graph) := do
  let (root, s) ← (Composition.readDocument (2 * tokens.length + 2)).run ⟨tokens, #[], []⟩
  return root.map fun root ↦ ⟨s.nodes, root⟩

end Yaml
end TypeDisplay
