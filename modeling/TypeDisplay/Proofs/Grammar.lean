import Mathlib.Data.List.Forall2
import TypeDisplay.Proofs.Fields
import TypeDisplay.Proofs.Outcome

/-!
# The grammar of descriptors

A document describes a descriptor when it is a mapping that names a variant, has no keys but the
fields of that variant, and has a fitting value in every field.  Fields with a default may be left
out, a flag and a rank may be written in several ways, and a text among type arguments is the name
of a parameter.

The grammar says nothing about how a document is read: it has no order of fields and no errors.
-/

namespace TypeDisplay
namespace Document

/-- The documents that JSON can write: no octets, dates, sets or pairs, and only texts as keys. -/
inductive IsJson : Document → Prop where
  | null : IsJson null
  | bool (b : Bool) : IsJson (bool b)
  | int (n : Int) : IsJson (int n)
  | float (x : Binary64) : IsJson (float x)
  | text (s : Text) : IsJson (text s)
  | list {items : List Document} (each : ∀ x ∈ items, IsJson x) : IsJson (.list items)
  | mapping {entries : List Entry} (areTexts : ∀ entry ∈ entries, ∃ s, entry.1 = .text s)
      (each : ∀ entry ∈ entries, IsJson entry.2) : IsJson (.mapping entries)

end Document

namespace Descriptor

open Document (Entry field? text IsJson)

/-! ### Values of fields -/

/-- A number, a truth value or a numeral for an integer. -/
inductive StandsForInteger : Document → Int → Prop where
  | int (n : Int) : StandsForInteger (.int n) n
  | bool (b : Bool) : StandsForInteger (.bool b) (if b then 1 else 0)
  | float {x : Binary64} {n : Int} (isIntegral : x.toInt? = some n)
      (fits : Conversion.fitsFloat n = true) : StandsForInteger (.float x) n
  | numeral {cs : List Char} {n : Int} (reads : Conversion.integerOf cs = .ok n) :
      StandsForInteger (text (.ofChars cs)) n

/-- A truth value, a number equal to 0 or 1, or one of the words for a flag. -/
inductive StandsForFlag : Document → Bool → Prop where
  | bool (b : Bool) : StandsForFlag (.bool b) b
  | int (b : Bool) : StandsForFlag (.int (if b then 1 else 0)) b
  | float {x : Binary64} {b : Bool} (isIntegral : x.toInt? = some (if b then 1 else 0)) :
      StandsForFlag (.float x) b
  | word {cs : List Char} {b : Bool} (reads : Conversion.flagWord? cs = some b) :
      StandsForFlag (text (.ofChars cs)) b

def IsRank (v : Document) (rank : Int) : Prop :=
  StandsForInteger v rank ∧ 1 ≤ rank

/-- The value may be null, which says nothing either way. -/
inductive StandsForFlag? : Document → Option Bool → Prop where
  | unknown : StandsForFlag? .null none
  | known {v : Document} {b : Bool} (isFlag : StandsForFlag v b) : StandsForFlag? v (some b)

inductive IsTag : Document → Option WellKnown → Prop where
  | untagged : IsTag .null none
  | tagged : IsTag (text WellKnown.nullable.identity) (some .nullable)

def IsNamespace (v : Document) (segments : List Text) : Prop :=
  v = .list (segments.map text)

/-! ### Mappings -/

/-- No key of a mapping is other than a name. -/
def HasOnly (names : List String) (entries : List Entry) : Prop :=
  ∀ entry ∈ entries, ∃ name ∈ names, entry.1 = .text (.ofString name)

/-- The mapping names the variant and has no keys but its fields. -/
def IsModel (kind : Kind) (entries : List Entry) : Prop :=
  field? entries "kind" = some (text kind.label) ∧ HasOnly ("kind" :: fieldNames kind) entries

/-- A field with a default, which may be left out. -/
def HasField {α : Type} (entries : List Entry) (name : String) (absent : α)
    (stands : Document → α → Prop) (a : α) : Prop :=
  (field? entries name = none ∧ a = absent) ∨ ∃ v, field? entries name = some v ∧ stands v a

mutual

inductive Describes : Document → Descriptor → Prop where
  | primitive {entries : List Entry} {type : Primitive} (model : IsModel .primitive entries)
      (isType : field? entries "primitive" = some (text type.keyword)) :
      Describes (.mapping entries) (.primitive type)
  | void {entries : List Entry} (model : IsModel .void entries) :
      Describes (.mapping entries) .void
  | parameter {entries : List Entry} {name : Text} (model : IsModel .parameter entries)
      (isName : field? entries "name" = some (text name)) :
      Describes (.mapping entries) (.parameter name)
  | named {entries : List Entry} {items : List Document} {segments : List Text}
      {levels : List (Level Descriptor)} {valueType : Option Bool} {wellKnown : Option WellKnown}
      (model : IsModel .named entries)
      (areSegments : HasField entries "namespace" [] IsNamespace segments)
      (areItems : field? entries "levels" = some (.list items)) (nonempty : items ≠ [])
      (areLevels : List.Forall₂ DescribesLevel items levels)
      (isValueType : HasField entries "value_type" none StandsForFlag? valueType)
      (isWellKnown : HasField entries "well_known" none IsTag wellKnown) :
      Describes (.mapping entries) (.named segments levels valueType wellKnown)
  | array {entries : List Entry} {v : Document} {element : Descriptor} {rank : Int}
      {multiDimensional : Bool} (model : IsModel .array entries)
      (isElement : field? entries "element_type" = some v) (describes : Describes v element)
      (isRank : HasField entries "rank" 1 IsRank rank)
      (isFlag : HasField entries "multi_dimensional" false StandsForFlag multiDimensional) :
      Describes (.mapping entries) (.array element rank multiDimensional)
  | pointer {entries : List Entry} {v : Document} {pointee : Descriptor}
      (model : IsModel .pointer entries) (isPointee : field? entries "pointee" = some v)
      (describes : Describes v pointee) : Describes (.mapping entries) (.pointer pointee)
  | nullable {entries : List Entry} {v : Document} {underlying : Descriptor}
      (model : IsModel .nullable entries) (isUnderlying : field? entries "underlying" = some v)
      (describes : Describes v underlying) : Describes (.mapping entries) (.nullable underlying)

inductive DescribesLevel : Document → Level Descriptor → Prop where
  | bare {entries : List Entry} {name : Text} (keys : HasOnly levelFieldNames entries)
      (isName : field? entries "name" = some (text name))
      (noArguments : field? entries "type_arguments" = none) :
      DescribesLevel (.mapping entries) ⟨name, []⟩
  | generic {entries : List Entry} {name : Text} {items : List Document}
      {arguments : List Descriptor} (keys : HasOnly levelFieldNames entries)
      (isName : field? entries "name" = some (text name))
      (areItems : field? entries "type_arguments" = some (.list items))
      (areArguments : List.Forall₂ DescribesArgument items arguments) :
      DescribesLevel (.mapping entries) ⟨name, arguments⟩

inductive DescribesArgument : Document → Descriptor → Prop where
  | name (name : Text) : DescribesArgument (text name) (.parameter name)
  | type {v : Document} {d : Descriptor} (describes : Describes v d) : DescribesArgument v d

end

end Descriptor
end TypeDisplay
