import TypeDisplay.Document
import TypeDisplay.Number.Shortest
import TypeDisplay.Text.Quoted

/-!
# Values in messages

Messages show a value in one of two ways.  A text stands as it is when it is shown on its
own and is quoted inside a collection; dates are shown as dates on their own and by their
parts inside a collection.  All other scalars are written alike in both places.

Integers of more than 4300 decimal digits are not written at all, nor are collections with
such an integer.
-/

namespace TypeDisplay
namespace Scalar

/-- The least integer that is too long to be written. -/
def writableBound : Nat := Binary64.tenTo 4300

def isWritable : Scalar → Bool
  | int n => n.natAbs < writableBound
  | _ => true

/-- The form of a scalar inside a collection. -/
def literal : Scalar → String
  | null => "None"
  | bool true => "True"
  | bool false => "False"
  | int n => toString n
  | float x => x.text
  | text s => s.quoted
  | bytes octets => Text.quotedOctets octets
  | date d => d.literal
  | moment m => m.literal

/-- The form of a scalar on its own. -/
def shown : Scalar → Text
  | text s => s
  | date d => d.text
  | moment m => m.text
  | s => s.literal

end Scalar

namespace Document

mutual

def literal : Document → String
  | scalar s => s.literal
  | list items => "[" ++ ", ".intercalate (itemLiterals items) ++ "]"
  | set [] => "set()"
  | set (item :: items) =>
      "\x7b" ++ ", ".intercalate ((item :: items).map Scalar.literal) ++ "\x7d"
  | pair first second => "(" ++ literal first ++ ", " ++ literal second ++ ")"
  | mapping entries => "\x7b" ++ ", ".intercalate (entryLiterals entries) ++ "\x7d"
  | elided true => "[...]"
  | elided false | cut _ _ => "\x7b...\x7d"

def itemLiterals : List Document → List String
  | [] => []
  | item :: items => literal item :: itemLiterals items

def entryLiterals : List Entry → List String
  | [] => []
  | (key, value) :: entries =>
      (key.literal ++ ": " ++ literal value) :: entryLiterals entries

end

mutual

/-- Whether all integers in a document are short enough to be written. -/
def isWritable : Document → Bool
  | scalar s => s.isWritable
  | list items => areWritable items
  | set items => items.all Scalar.isWritable
  | pair first second => isWritable first && isWritable second
  | mapping entries => entriesAreWritable entries
  | elided _ | cut _ _ => true

def areWritable : List Document → Bool
  | [] => true
  | item :: items => isWritable item && areWritable items

def entriesAreWritable : List Entry → Bool
  | [] => true
  | (key, value) :: entries => key.isWritable && isWritable value && entriesAreWritable entries

end

/-- The word for the type of a value that can hold an integer. -/
def typeWord : Document → String
  | list _ => "list"
  | set _ => "set"
  | pair _ _ => "tuple"
  | mapping _ => "dict"
  | _ => "int"

/-- What stands in place of a value that is not written. -/
def unwritable (d : Document) : String :=
  "<unprintable " ++ d.typeWord ++ " object>"

/-- The form of a document on its own, where no surrogate may be left. -/
def shown (d : Document) : String :=
  if d.isWritable then
    match d with
    | scalar s => s.shown.replaced
    | d => d.literal
  else d.unwritable

end Document
end TypeDisplay
