import TypeDisplay.Yaml.Graph

/-!
# Merged mappings

A merge key stands for the entries of the mapping that is its value, or of several mappings in
a list.  They come before the mapping's own entries, those of the first of several mappings last,
so that of equal keys the one that counts most comes last.

Merging changes the nodes of a graph: a merge key is gone once its mapping was merged, and a key
that stands for the value of a mapping is a text from then on.  A mapping that merges itself, or
a mapping around it, gets the entries that are there at that time.
-/

namespace TypeDisplay
namespace Yaml

def nodeAt (nodes : Array Node) (number : Nat) : Node :=
  (nodes[number]?).getD ⟨.null, .scalar []⟩

def Shape.entries : Shape → List (Nat × Nat)
  | mapping entries => entries
  | _ => []

abbrev Merging := StateT (Array Node) (Except Failure)

namespace Merging

def entries (number : Nat) : Merging (List (Nat × Nat)) :=
  return (nodeAt (← get) number).shape.entries

def setEntries (number : Nat) (entries : List (Nat × Nat)) : Merging Unit :=
  modify fun nodes ↦ nodes.modify number fun node ↦ { node with shape := .mapping entries }

/-- Takes the first merge key out of a mapping, and gives the node of its value. -/
def takeMerge (number : Nat) : Merging (Option Nat) := do
  let nodes ← get
  let entries := (nodeAt nodes number).shape.entries
  match entries.span fun entry ↦ (nodeAt nodes entry.1).tag != .merge with
  | (_, []) => return none
  | (before, (_, value) :: after) => do
      setEntries number (before ++ after)
      return some value

/-- Makes the keys that stand for the value of a mapping texts. -/
def settleKeys (number : Nat) : Merging Unit := do
  for (key, _) in ← entries number do
    modify fun nodes ↦ nodes.modify key fun node ↦
      if node.tag = .value then { node with tag := .text } else node

/-- Merges what merge keys stand for into a mapping.  Every step takes a merge key away, so the
number of all entries is enough fuel. -/
def flatten : (fuel : Nat) → (number : Nat) → Merging Unit
  | 0, _ => throw (.malformed .entry)
  | fuel + 1, number => do
      match ← takeMerge number with
      | none => settleKeys number
      | some value => do
          let added ←
            match (nodeAt (← get) value).shape with
            | .mapping _ => do
                flatten fuel value
                entries value
            | .list items => do
                let parts ← items.mapM fun item ↦ do
                  match (nodeAt (← get) item).shape with
                  | .mapping _ => do
                      flatten fuel item
                      entries item
                  | _ => throw (.malformed .entry)
                pure parts.reverse.flatten
            | .scalar _ => throw (.malformed .entry)
          flatten fuel number
          setEntries number (added ++ (← entries number))

end Merging

/-- The nodes of a graph after a mapping was merged. -/
def flattened (nodes : Array Node) (number : Nat) : Except Failure (Array Node) := do
  let fuel := nodes.foldl (fun n node ↦ n + node.shape.entries.length) 1
  return (← (Merging.flatten fuel number).run nodes).2

end Yaml
end TypeDisplay
