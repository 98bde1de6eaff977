import TypeDisplay.Calendar
import TypeDisplay.Number.Binary64
import TypeDisplay.Text.CodePoint

/-!
# Documents

A document is what a text describes before anything is asked of it: scalars, lists, sets,
pairs and mappings, whose entries keep their order.  Documents are finite: where one would
contain itself, or would be read too deep, a mark stands in place of the rest.
-/

namespace TypeDisplay

inductive Scalar where
  | null
  | bool (value : Bool)
  | int (value : Int)
  | float (value : Binary64)
  | text (value : Text)
  | bytes (octets : List UInt8)
  | date (value : Date)
  | moment (value : Moment)
  deriving DecidableEq, Repr

/-- Why a part of a document is not read. -/
inductive Cutoff where
  /-- The part is a mapping that is being read already. -/
  | cycle
  /-- Too many mappings are around the part. -/
  | depth
  deriving DecidableEq, Repr

inductive Document where
  | scalar (value : Scalar)
  | list (items : List Document)
  | set (items : List Scalar)
  | pair (first second : Document)
  | mapping (entries : List (Scalar × Document))
  /-- A part that is not read; the label of its kind is kept when it has one. -/
  | cut (cutoff : Cutoff) (label : Option String)
  /-- The place of a list or mapping inside itself. -/
  | elided (isList : Bool)
  deriving Repr

namespace Scalar

def string? : Scalar → Option String
  | text s => s.string?
  | _ => none

/-- The integer that a scalar equals as a key. -/
def integer? : Scalar → Option Int
  | int n => some n
  | bool b => some (if b then 1 else 0)
  | float x => x.toInt?
  | _ => none

/-- Equality of mapping keys: truth values and floats equal the integers they stand for,
moments are compared as instants, and nothing equals a NaN. -/
def sameKey : Scalar → Scalar → Bool
  | float x, float y => x.same y
  | moment m, moment n => m.same n
  | a, b =>
      match a.integer?, b.integer? with
      | some m, some n => m == n
      | _, _ => a == b

end Scalar

namespace Document

abbrev Entry := Scalar × Document

def null : Document := .scalar .null
def bool (b : Bool) : Document := .scalar (.bool b)
def int (n : Int) : Document := .scalar (.int n)
def float (x : Binary64) : Document := .scalar (.float x)
def text (s : Text) : Document := .scalar (.text s)

/-- The value of a text key. -/
def field? (entries : List Entry) (name : String) : Option Document :=
  (entries.find? fun entry ↦ entry.1 = .text (.ofString name)).map Prod.snd

theorem field?_mem {entries : List Entry} {name : String} {d : Document}
    (h : field? entries name = some d) : (Scalar.text (.ofString name), d) ∈ entries := by
  obtain ⟨⟨key, value⟩, found, rfl⟩ := Option.map_eq_some_iff.1 h
  have same := List.find?_some found
  have member := List.mem_of_find?_eq_some found
  simp only [decide_eq_true_eq] at same
  exact same ▸ member

theorem sizeOf_field?_lt {entries : List Entry} {name : String} {d : Document}
    (h : field? entries name = some d) : sizeOf d < sizeOf entries := by
  have bound := List.sizeOf_lt_of_mem (field?_mem h)
  simp only [Prod.mk.sizeOf_spec] at bound
  omega

/-- Adds an entry.  A key that is there already keeps its place and takes the new value. -/
def put : List Entry → Scalar → Document → List Entry
  | [], key, value => [(key, value)]
  | entry :: rest, key, value =>
      if entry.1.sameKey key then (entry.1, value) :: rest else entry :: put rest key value

/-- A mapping from entries in reading order, in which the last value of a key counts. -/
def ofEntries (entries : List Entry) : Document :=
  .mapping (entries.foldl (fun done entry ↦ put done entry.1 entry.2) [])

end Document
end TypeDisplay
