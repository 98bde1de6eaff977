/-!
# Tags

A tag says what kind of value a node stands for.  Tags are written with a handle that
abbreviates the start of their full name.
-/

namespace TypeDisplay
namespace Yaml

inductive Tag where
  | null | flag | integer | float | timestamp | octets | text
  | list | mapping | set | orderedMapping | pairs
  /-- The key of entries that are merged. -/
  | merge
  /-- The key of the value that stands for a whole mapping. -/
  | value
  | unknown
  deriving DecidableEq, Repr

namespace Tag

/-- The start of the full names of all known tags. -/
def origin : String := "tag:yaml.org,2002:"

def known : List (String × Tag) :=
  [ ("null", null), ("bool", flag), ("int", integer), ("float", float),
    ("timestamp", timestamp), ("binary", octets), ("str", text), ("seq", list),
    ("map", mapping), ("set", set), ("omap", orderedMapping), ("pairs", pairs),
    ("merge", merge), ("value", value) ]

def isCollection : Tag → Bool
  | list | mapping | set | orderedMapping | pairs => true
  | _ => false

def isScalar : Tag → Bool
  | null | flag | integer | float | timestamp | octets | text => true
  | _ => false

def ofFullName (name : String) : Tag :=
  ((known.find? fun entry ↦ origin ++ entry.1 == name).map Prod.snd).getD unknown

end Tag

/-- Handles and the starts of full names that they stand for. -/
abbrev Handles := List (String × String)

def defaultHandles : Handles :=
  [("!", "!"), ("!!", Tag.origin)]

end Yaml
end TypeDisplay
