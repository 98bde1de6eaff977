import TypeDisplay.Document.Linked
import TypeDisplay.Yaml.Merge
import TypeDisplay.Yaml.Value

/-!
# Documents of graphs

Every node of a graph has one value, however often it is referred to.  Scalars are read when
they are met.  Collections are begun when they are met and completed later, in the order in which
they were begun, so what is wrong inside a collection is met after what is wrong beside it.

A mapping under the tag of a scalar is read as the scalar that stands for its value.
-/

namespace TypeDisplay
namespace Yaml

/-- A key of a mapping.  Two keys that are no number at all are the same only if they come from
one node, or if both are written as the word for it. -/
structure Key where
  value : Scalar
  node : Option Nat

def Key.same (a b : Key) : Bool :=
  a.value.sameKey b.value ||
    (a.value == .float .nan && b.value == .float .nan && a.node == b.node)

/-- Adds an entry.  A key that is there already keeps its place and takes the new value. -/
def putKey : List (Key × Nat) → Key → Nat → List (Key × Nat)
  | [], key, value => [(key, value)]
  | entry :: rest, key, value =>
      if entry.1.same key then (entry.1, value) :: rest else entry :: putKey rest key value

/-- The nodes, the values that were met with the origin of those that are no number at all, and
the collections that are not complete, last one first. -/
structure Building where
  nodes : Array Node
  values : Array (Option (LinkedValue × Option Nat))
  pending : List Nat

abbrev Build := StateT Building (Except Failure)

namespace Building

def refuse {α : Type} (cause : Malformed) : Build α := throw (.malformed cause)

def node (number : Nat) : Build Node :=
  return nodeAt (← get).nodes number

def setValue (number : Nat) (value : LinkedValue) (origin : Option Nat) : Build Unit :=
  modify fun s ↦ { s with values := s.values.setIfInBounds number (some (value, origin)) }

/-- The text of a node that is read as a scalar.  A mapping has the text of its first value that
stands for all of it; only a mapping that stands for itself takes more steps than there are
nodes. -/
def textOf (nodes : Array Node) : (fuel : Nat) → (number : Nat) → Except Failure Text
  | 0, _ => .error (.badScalar .endlessText)
  | fuel + 1, number =>
      match (nodeAt nodes number).shape with
      | .scalar text => .ok text
      | .list _ => .error (.malformed .tag)
      | .mapping entries =>
          match entries.find? fun entry ↦ (nodeAt nodes entry.1).tag = .value with
          | some (_, value) => textOf nodes fuel value
          | none => .error (.malformed .tag)

def isScalar : Shape → Bool
  | .scalar _ => true
  | _ => false

def readScalar (number : Nat) : Build Unit := do
  let nodes := (← get).nodes
  let node := nodeAt nodes number
  let text ← textOf nodes (nodes.size + 1) number
  if node.tag = .timestamp ∧ !isScalar node.shape then
    throw (.badScalar .timestampOfMapping)
  let value ← Value.ofText node.tag text
  setValue number (.scalar value) (if Value.isNanWord text then none else some number)

/-- Meets a node: a collection is begun, and a scalar is read. -/
def meet (number : Nat) : Build Unit := do
  if ((← get).values[number]?).join.isNone then
    let node ← node number
    if node.tag.isCollection then
      setValue number (.list []) none
      modify fun s ↦ { s with pending := number :: s.pending }
    else if node.tag.isScalar then readScalar number
    else refuse .tag

def meetAll (numbers : List Nat) : Build Unit :=
  numbers.forM meet

/-- Meets the key of an entry, which has to be a scalar. -/
def meetKey (number : Nat) : Build Key := do
  meet number
  match ((← get).values[number]?).join with
  | some (.scalar value, origin) => return ⟨value, origin⟩
  | _ => refuse .entry

/-! ### Collections -/

def readEntries (number : Nat) : Build (List (Key × Nat)) := do
  match (← node number).shape with
  | .mapping _ => do
      let nodes ← flattened (← get).nodes number
      modify fun s ↦ { s with nodes := nodes }
      (nodeAt nodes number).shape.entries.foldlM (fun done entry ↦ do
        let key ← meetKey entry.1
        meet entry.2
        return putKey done key entry.2) []
  | _ => refuse .tag

/-- The key and value of a mapping of one entry. -/
def readPair (number : Nat) : Build (Nat × Nat) := do
  match (← node number).shape with
  | .mapping [(key, value)] => do
      meetAll [key, value]
      return (key, value)
  | _ => refuse .tag

def readItems (number : Nat) : Build (List Nat) := do
  match (← node number).shape with
  | .list items => return items
  | _ => refuse .tag

def readCollection (tag : Tag) (number : Nat) : Build LinkedValue := do
  match tag with
  | .list => do
      let items ← readItems number
      meetAll items
      return .list items
  | .orderedMapping | .pairs => return .pairs (← (← readItems number).mapM readPair)
  | .set => return .set ((← readEntries number).map fun entry ↦ entry.1.value)
  | _ => return .mapping ((← readEntries number).map fun entry ↦ (entry.1.value, entry.2))

/-- Completes the collections that were begun, and those that are begun meanwhile after them.
Every node is begun at most once. -/
def completeAll : (fuel : Nat) → Build Unit
  | 0 => return
  | fuel + 1 => do
      let pending := (← get).pending.reverse
      if !pending.isEmpty then
        modify fun s ↦ { s with pending := [] }
        for number in pending do
          let value ← readCollection (← node number).tag number
          setValue number value none
        completeAll fuel

end Building

def Graph.document (graph : Graph) : Except Failure Linked := do
  let size := graph.nodes.size
  let build : Build Unit := do
    Building.meet graph.root
    Building.completeAll (size + 1)
  let (_, s) ← build.run ⟨graph.nodes, Array.replicate size none, []⟩
  return ⟨s.values.map fun value ↦ (value.map Prod.fst).getD (.scalar .null), graph.root⟩

/-- Reads a text as one document; a text without one is null. -/
def read (text : Text) : Except Failure Linked := do
  match ← Graph.ofTokens (tokens text) with
  | some graph => graph.document
  | none => return .null

end Yaml
end TypeDisplay
