import TypeDisplay.Text.Utf8

/-!
# Paths

A path is a root, which is empty for paths from the working directory, and names.  Empty
names and single dots are dropped, names of two dots are kept.
-/

namespace TypeDisplay

structure Path where
  root : String
  names : List Text
  deriving DecidableEq, Repr

namespace Path

def separator : CodePoint := .char '/'

/-- The root of a path that begins with this number of separators. -/
def rootOf (separators : Nat) : String :=
  if separators = 0 then "" else if separators = 2 then "//" else "/"

def isName (name : Text) : Bool :=
  name != "" && name != "."

def ofText (text : Text) : Path :=
  let leading := text.takeWhile (· == separator)
  ⟨rootOf leading.length, ((text.drop leading.length).splitOn separator).filter isName⟩

/-- The path as it is shown; the working directory is a dot. -/
def text (p : Path) : Text :=
  let shown := Text.ofString p.root ++ [separator].intercalate p.names
  if shown.isEmpty then "." else shown

end Path

/-- Why a path names no file anywhere. -/
inductive PathError where
  /-- The null character ends all names. -/
  | nullCharacter
  | unencodable (failure : Utf8.Unencodable)
  deriving DecidableEq, Repr

def PathError.message : PathError → String
  | nullCharacter => "embedded null byte"
  | unencodable failure => failure.message

namespace Path

def octets (p : Path) : Except PathError (List UInt8) :=
  match Utf8.encodeName p.text with
  | .error failure => .error (.unencodable failure)
  | .ok octets => if octets.contains 0 then .error .nullCharacter else .ok octets

/-- The octets of the names of a path that has octets. -/
def nameOctets (p : Path) : List (List UInt8) :=
  p.names.map fun name ↦ name.flatMap fun c ↦ (Utf8.nameOctets? c).getD []

end Path
end TypeDisplay
