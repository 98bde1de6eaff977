import Mathlib.Control.Monad.Basic
import TypeDisplay.Descriptor.Builder
import TypeDisplay.Proofs.RecordGrammar

/-!
# Expressions of builders

An expression puts a descriptor together by calls of builders, and it can also be written down as a
document.  Both ways give the same descriptor, except that a document is only read as far as there is
room for its models, while builders go on.

Each builder is compared with the grammar for its own mapping.  The induction is over the expression,
its levels and their arguments.
-/

namespace TypeDisplay

open Document (IsJson)

/-- A value that a caller hands over and a document can hold. -/
abbrev JsonValue := { v : Document // IsJson v }

mutual

inductive Expression where
  | primitive (keyword : Text)
  | void
  | parameter (name : Text)
  | named (dotted : Text) (levels : List LevelExpression) (valueType : JsonValue)
  | array (element : Expression) (rank multiDimensional : JsonValue)
  | pointer (pointee : Expression)
  | nullable (underlying : Expression)
  | nullableNamed (argument : ArgumentExpression)

/-- A level by its bare name, or by its name and arguments. -/
inductive LevelExpression where
  | bare (name : Text)
  | generic (name : Text) (arguments : List ArgumentExpression)

inductive ArgumentExpression where
  | type (expression : Expression)
  | name (name : Text)

end

open Document (text)
open Descriptor (record)

/-! ### Building -/

mutual

def Expression.build : Expression → Except BuildError Descriptor
  | .primitive keyword => Descriptor.buildPrimitive (text keyword)
  | .void => .ok .void
  | .parameter name => Descriptor.buildParameter (text name)
  | .named dotted levels valueType =>
      (LevelExpression.buildAll levels).bind fun levels ↦ Descriptor.buildNamed dotted levels valueType
  | .array element rank multiDimensional =>
      element.build.bind fun d ↦ Descriptor.buildArray d rank multiDimensional
  | .pointer pointee => pointee.build.map .pointer
  | .nullable underlying => underlying.build.map .nullable
  | .nullableNamed argument => argument.build.map Descriptor.nullableNamed

def LevelExpression.build : LevelExpression → Except BuildError (Level Descriptor)
  | .bare name => Descriptor.buildLevel (text name) []
  | .generic name arguments =>
      (ArgumentExpression.buildAll arguments).bind fun arguments ↦ Descriptor.buildLevel (text name) arguments

def ArgumentExpression.build : ArgumentExpression → Except BuildError Argument
  | .type expression => expression.build.map .type
  | .name name => .ok (.name name)

def LevelExpression.buildAll : List LevelExpression → Except BuildError (List (Level Descriptor))
  | [] => .ok []
  | level :: rest =>
      level.build.bind fun level ↦ (LevelExpression.buildAll rest).map fun others ↦ level :: others

def ArgumentExpression.buildAll : List ArgumentExpression → Except BuildError (List Argument)
  | [] => .ok []
  | argument :: rest =>
      argument.build.bind fun argument ↦
        (ArgumentExpression.buildAll rest).map fun others ↦ argument :: others

end

/-! ### Writing down -/

mutual

/-- The document that describes what an expression builds. -/
def Expression.document : Expression → Document
  | .primitive keyword => record [("kind", text "primitive"), ("primitive", text keyword)]
  | .void => record [("kind", text "void")]
  | .parameter name => record [("kind", text "parameter"), ("name", text name)]
  | .named dotted levels valueType =>
      record
        [("kind", text "named"), ("namespace", .list ((Descriptor.segmentsOf dotted).map text)),
          ("levels", .list (LevelExpression.documents levels)), ("value_type", valueType)]
  | .array element rank multiDimensional =>
      record
        [("kind", text "array"), ("element_type", element.document), ("rank", rank),
          ("multi_dimensional", multiDimensional)]
  | .pointer pointee => record [("kind", text "pointer"), ("pointee", pointee.document)]
  | .nullable underlying =>
      record [("kind", text "nullable"), ("underlying", underlying.document)]
  | .nullableNamed argument =>
      record
        [("kind", text "named"), ("namespace", .list [text "System"]),
          ("levels", .list
            [record [("name", text "Nullable"), ("type_arguments", .list [argument.document])]]),
          ("value_type", .bool true), ("well_known", text WellKnown.nullable.identity)]

def LevelExpression.document : LevelExpression → Document
  | .bare name => record [("name", text name)]
  | .generic name arguments =>
      record [("name", text name), ("type_arguments", .list (ArgumentExpression.documents arguments))]

/-- The name of a parameter is left as a text. -/
def ArgumentExpression.document : ArgumentExpression → Document
  | .type expression => expression.document
  | .name name => text name

def LevelExpression.documents : List LevelExpression → List Document
  | [] => []
  | level :: rest => level.document :: LevelExpression.documents rest

def ArgumentExpression.documents : List ArgumentExpression → List Document
  | [] => []
  | argument :: rest => argument.document :: ArgumentExpression.documents rest

end

namespace Descriptor

open Checked
open Document (field? Entry)

/-! ### Single builders -/

theorem checked_eq_ok_iff {α : Type} {x : Checked α} {a : α} : checked x = .ok a ↔ x = .ok a := by
  cases x <;> simp [checked]

theorem buildPrimitive_eq_ok_iff {keyword : Text} {d : Descriptor} :
    buildPrimitive (text keyword) = .ok d ↔ ∃ type, keyword = type.keyword ∧ d = primitive type := by
  have reads := @primitive_eq_ok_iff _ (IsJson.text keyword)
  rw [buildPrimitive]
  constructor
  · intro h
    split at h
    · rename_i type isType
      obtain rfl := Except.ok.inj h
      have same := reads.1 isType
      exact ⟨type, by simpa [text] using same, rfl⟩
    · cases h
  · rintro ⟨type, rfl, rfl⟩
    simp [reads.2 rfl]

theorem buildParameter_eq_ok_iff {name : Text} {d : Descriptor} :
    buildParameter (text name) = .ok d ↔ d = parameter name := by
  simp [buildParameter, text, Conversion.text, within, Except.map, checked, eq_comm]

theorem buildLevel_eq (name : Text) (arguments : List Argument) :
    buildLevel (text name) arguments = .ok ⟨name, arguments.map ofArgument⟩ := by
  simp [buildLevel, text, Conversion.text, within, Except.map, checked, level]

theorem buildNamed_eq_ok_iff {dotted : Text} {levels : List (Level Descriptor)}
    {valueType : JsonValue} {d : Descriptor} :
    buildNamed dotted levels valueType = .ok d ↔
      ∃ flag, levels ≠ [] ∧ StandsForFlag? valueType flag ∧
        d = named (segmentsOf dotted) levels flag none := by
  rw [buildNamed, checked_eq_ok_iff, except_map_eq_ok_iff]
  simp only [Prod.exists, both_eq_ok_iff, within_eq_ok_iff, levelsOf_eq_ok_iff,
    flag?_eq_ok_iff valueType.2]
  constructor
  · rintro ⟨chain, flag, ⟨⟨same, nonempty⟩, isFlag⟩, rfl⟩
    obtain rfl := (Prod.mk.inj same).2
    exact ⟨flag, nonempty, isFlag, rfl⟩
  · rintro ⟨flag, nonempty, isFlag, rfl⟩
    exact ⟨levels, flag, ⟨⟨rfl, nonempty⟩, isFlag⟩, rfl⟩

theorem buildArray_eq_ok_iff {element : Descriptor} {rank multiDimensional : JsonValue}
    {d : Descriptor} :
    buildArray element rank multiDimensional = .ok d ↔
      ∃ r m, IsRank rank r ∧ StandsForFlag multiDimensional m ∧ d = array element r m := by
  rw [buildArray, checked_eq_ok_iff, except_map_eq_ok_iff]
  simp only [Prod.exists, both_eq_ok_iff, within_eq_ok_iff, rank_eq_ok_iff rank.2,
    flag_eq_ok_iff multiDimensional.2, and_assoc, @eq_comm _ d]

/-! ### Expressions -/

theorem document_ne_text (e : Expression) (name : Text) : e.document ≠ text name := by
  cases e <;> simp [Expression.document, record, text]

theorem ne_nil_iff_of_forall₂ {items : List Document} {levels : List (Level Descriptor)}
    (h : List.Forall₂ DescribesLevel items levels) : items ≠ [] ↔ levels ≠ [] := by
  cases h <;> simp

mutual

theorem build_iff_describes : ∀ (e : Expression) (d : Descriptor),
    e.build = .ok d ↔ Describes e.document d
  | .primitive keyword, d => by
    rw [Expression.build, Expression.document, buildPrimitive_eq_ok_iff, describes_primitive_iff]
    simp [text]
  | .void, d => by
    rw [Expression.build, Expression.document, describes_void_iff, Except.ok.injEq, eq_comm]
  | .parameter name, d => by
    rw [Expression.build, Expression.document, buildParameter_eq_ok_iff, describes_parameter_iff]
  | .named dotted levels valueType, d => by
    rw [Expression.build, Expression.document, except_bind_eq_ok_iff, describes_untagged_iff]
    simp only [buildNamed_eq_ok_iff, buildAll_iff_describe levels]
    constructor
    · rintro ⟨chain, areLevels, flag, nonempty, isFlag, rfl⟩
      exact ⟨chain, flag, (ne_nil_iff_of_forall₂ areLevels).2 nonempty, areLevels, isFlag, rfl⟩
    · rintro ⟨chain, flag, nonempty, areLevels, isFlag, rfl⟩
      exact ⟨chain, areLevels, flag, (ne_nil_iff_of_forall₂ areLevels).1 nonempty, isFlag, rfl⟩
  | .array element rank multiDimensional, d => by
    rw [Expression.build, Expression.document, except_bind_eq_ok_iff, describes_array_iff]
    simp only [buildArray_eq_ok_iff, build_iff_describes element]
    constructor
    · rintro ⟨e, describes, r, m, isRank, isFlag, rfl⟩
      exact ⟨e, r, m, describes, isRank, isFlag, rfl⟩
    · rintro ⟨e, r, m, describes, isRank, isFlag, rfl⟩
      exact ⟨e, describes, r, m, isRank, isFlag, rfl⟩
  | .pointer pointee, d => by
    rw [Expression.build, Expression.document, except_map_eq_ok_iff, describes_pointer_iff]
    simp only [build_iff_describes pointee, eq_comm]
  | .nullable underlying, d => by
    rw [Expression.build, Expression.document, except_map_eq_ok_iff, describes_nullable_iff]
    simp only [build_iff_describes underlying, eq_comm]
  | .nullableNamed argument, d => by
    rw [Expression.build, Expression.document, except_map_eq_ok_iff, describes_nullableNamed_iff]
    simp only [← build_iff_describesArgument argument]
    constructor
    · rintro ⟨a, isBuilt, rfl⟩
      exact ⟨ofArgument a, ⟨a, isBuilt, rfl⟩, rfl⟩
    · rintro ⟨_, ⟨a, isBuilt, rfl⟩, rfl⟩
      exact ⟨a, isBuilt, rfl⟩

theorem build_iff_describesLevel : ∀ (l : LevelExpression) (level : Level Descriptor),
    l.build = .ok level ↔ DescribesLevel l.document level
  | .bare name, level => by
    rw [LevelExpression.build, LevelExpression.document, buildLevel_eq, describesLevel_bare_iff]
    simp [eq_comm]
  | .generic name arguments, level => by
    rw [LevelExpression.build, LevelExpression.document, except_bind_eq_ok_iff,
      describesLevel_generic_iff]
    simp only [buildLevel_eq, ← buildAll_iff_describeArguments arguments, Except.ok.injEq]
    constructor
    · rintro ⟨built, areBuilt, rfl⟩
      exact ⟨_, ⟨built, areBuilt, rfl⟩, rfl⟩
    · rintro ⟨_, ⟨built, areBuilt, rfl⟩, rfl⟩
      exact ⟨built, areBuilt, rfl⟩

theorem build_iff_describesArgument : ∀ (a : ArgumentExpression) (d : Descriptor),
    (∃ argument, a.build = .ok argument ∧ ofArgument argument = d) ↔
      DescribesArgument a.document d
  | .type e, d => by
    rw [ArgumentExpression.document, describesArgument_iff_describes (document_ne_text e),
      ← build_iff_describes e, ArgumentExpression.build]
    simp [except_map_eq_ok_iff, ofArgument]
  | .name name, d => by
    rw [ArgumentExpression.document, describesArgument_text_iff, ArgumentExpression.build]
    simp [ofArgument, eq_comm]

theorem buildAll_iff_describe : ∀ (ls : List LevelExpression) (levels : List (Level Descriptor)),
    LevelExpression.buildAll ls = .ok levels ↔
      List.Forall₂ DescribesLevel (LevelExpression.documents ls) levels
  | [], levels => by
    rw [LevelExpression.buildAll, LevelExpression.documents]
    simp [eq_comm]
  | l :: ls, levels => by
    rw [LevelExpression.buildAll, LevelExpression.documents, except_bind_eq_ok_iff,
      List.forall₂_cons_left_iff]
    simp only [except_map_eq_ok_iff, build_iff_describesLevel l, buildAll_iff_describe ls]
    constructor
    · rintro ⟨level, isLevel, others, areOthers, rfl⟩
      exact ⟨level, others, isLevel, areOthers, rfl⟩
    · rintro ⟨level, others, isLevel, areOthers, rfl⟩
      exact ⟨level, isLevel, others, areOthers, rfl⟩

theorem buildAll_iff_describeArguments :
    ∀ (as : List ArgumentExpression) (arguments : List Descriptor),
      (∃ built, ArgumentExpression.buildAll as = .ok built ∧ built.map ofArgument = arguments) ↔
        List.Forall₂ DescribesArgument (ArgumentExpression.documents as) arguments
  | [], arguments => by
    rw [ArgumentExpression.buildAll, ArgumentExpression.documents]
    simp [eq_comm]
  | a :: as, arguments => by
    rw [ArgumentExpression.buildAll, ArgumentExpression.documents, List.forall₂_cons_left_iff]
    simp only [← build_iff_describesArgument a, ← buildAll_iff_describeArguments as,
      except_bind_eq_ok_iff, except_map_eq_ok_iff]
    constructor
    · rintro ⟨_, ⟨first, isFirst, others, areOthers, rfl⟩, rfl⟩
      exact ⟨_, _, ⟨first, isFirst, rfl⟩, ⟨others, areOthers, rfl⟩, rfl⟩
    · rintro ⟨_, _, ⟨first, isFirst, rfl⟩, ⟨others, areOthers, rfl⟩, rfl⟩
      exact ⟨_, ⟨first, isFirst, others, areOthers, rfl⟩, rfl⟩

end

/-! ### Validation -/

mutual

theorem isJson_document : ∀ e : Expression, IsJson e.document
  | .primitive keyword => by
    rw [Expression.document]
    apply isJson_record
    simp [IsJson.text]
  | .void => by
    rw [Expression.document]
    apply isJson_record
    simp [IsJson.text]
  | .parameter name => by
    rw [Expression.document]
    apply isJson_record
    simp [IsJson.text]
  | .named dotted levels valueType => by
    rw [Expression.document]
    apply isJson_record
    simp [IsJson.text, isJson_texts, IsJson.list (isJson_documents levels), valueType.2]
  | .array element rank multiDimensional => by
    rw [Expression.document]
    apply isJson_record
    simp [IsJson.text, isJson_document element, rank.2, multiDimensional.2]
  | .pointer pointee => by
    rw [Expression.document]
    apply isJson_record
    simp [IsJson.text, isJson_document pointee]
  | .nullable underlying => by
    rw [Expression.document]
    apply isJson_record
    simp [IsJson.text, isJson_document underlying]
  | .nullableNamed argument => by
    have isLevel : IsJson (record
        [("name", text "Nullable"), ("type_arguments", .list [argument.document])]) := by
      apply isJson_record
      simp [IsJson.text, IsJson.list, isJson_documentOfArgument argument]
    rw [Expression.document]
    apply isJson_record
    simp [IsJson.text, IsJson.list, IsJson.bool, isLevel]

theorem isJson_documentOfLevel : ∀ l : LevelExpression, IsJson l.document
  | .bare name => by
    rw [LevelExpression.document]
    apply isJson_record
    simp [IsJson.text]
  | .generic name arguments => by
    rw [LevelExpression.document]
    apply isJson_record
    simp [IsJson.text, IsJson.list (isJson_documentsOfArguments arguments)]

theorem isJson_documentOfArgument : ∀ a : ArgumentExpression, IsJson a.document
  | .type e => by
    rw [ArgumentExpression.document]
    exact isJson_document e
  | .name name => by
    rw [ArgumentExpression.document]
    exact .text name

theorem isJson_documents : ∀ ls : List LevelExpression,
    ∀ x ∈ LevelExpression.documents ls, IsJson x
  | [] => by simp [LevelExpression.documents]
  | l :: ls => by
    rw [LevelExpression.documents, List.forall_mem_cons]
    exact ⟨isJson_documentOfLevel l, isJson_documents ls⟩

theorem isJson_documentsOfArguments : ∀ as : List ArgumentExpression,
    ∀ x ∈ ArgumentExpression.documents as, IsJson x
  | [] => by simp [ArgumentExpression.documents]
  | a :: as => by
    rw [ArgumentExpression.documents, List.forall_mem_cons]
    exact ⟨isJson_documentOfArgument a, isJson_documentsOfArguments as⟩

end

theorem validate_document_eq_ok_iff (e : Expression) (d : Descriptor) :
    validate e.document = .ok d ↔ e.build = .ok d ∧ d.isTooDeep = false := by
  rw [validate_eq_ok_iff (isJson_document e), build_iff_describes]

/-- What is built is what is read from the document of the expression, and the document is refused
exactly when the expression does not build or builds something too deep to be read. -/
theorem build_agrees_with_document (e : Expression) :
    (∀ d, e.build = .ok d → d.isTooDeep = false → validate e.document = .ok d) ∧
      ((∃ details, validate e.document = .error details) ↔
        (∃ error, e.build = .error error) ∨ ∃ d, e.build = .ok d ∧ d.isTooDeep = true) := by
  have accepted := validate_document_eq_ok_iff e
  refine ⟨fun d isBuilt isShallow ↦ (accepted d).2 ⟨isBuilt, isShallow⟩, ?_⟩
  cases isBuilt : e.build with
  | error error =>
    simp only [isBuilt, reduceCtorEq, false_and, iff_false] at accepted
    cases isValid : validate e.document with
    | ok d => exact absurd isValid (accepted d)
    | error details => simp
  | ok d =>
    cases isDeep : d.isTooDeep with
    | true =>
      cases isValid : validate e.document with
      | ok d' =>
        obtain ⟨same, isShallow⟩ := (accepted d').1 isValid
        obtain rfl : d = d' := by simpa [isBuilt] using same
        simp [isDeep] at isShallow
      | error details => simp [isDeep]
    | false =>
      have isValid := (accepted d).2 ⟨isBuilt, isDeep⟩
      simp [isValid, isDeep]

/-- An array of a nested type, whose levels mix names, expressions and no arguments at all. -/
def nestedArray (rank : JsonValue) : Expression :=
  .array
    (.named "N.M" [.generic "C" [.name "T", .type (.primitive "int")], .bare "D"]
      ⟨.null, .null⟩)
    rank ⟨.bool true, .bool true⟩

/-- With a numeral for its rank the array is built and read, with zero neither. -/
theorem validate_nestedArray :
    let built := array
      (named ["N", "M"] [⟨"C", [parameter "T", primitive .int]⟩, ⟨"D", []⟩] none none) 2 true
    (nestedArray ⟨text "2", .text "2"⟩).build = .ok built ∧ built.isTooDeep = false ∧
      validate (nestedArray ⟨text "2", .text "2"⟩).document = .ok built ∧
      (nestedArray ⟨.int 0, .int 0⟩).build =
        .error (.invalid [⟨[.name "rank"], .belowOne⟩]) ∧
      ∃ details, validate (nestedArray ⟨.int 0, .int 0⟩).document = .error details := by
  intro built
  have isBuilt : (nestedArray ⟨text "2", .text "2"⟩).build = .ok built := by decide +kernel
  have isShallow : built.isTooDeep = false := by decide
  have fails : (nestedArray ⟨.int 0, .int 0⟩).build =
      .error (.invalid [⟨[.name "rank"], .belowOne⟩]) := by
    decide +kernel
  exact ⟨isBuilt, isShallow, (build_agrees_with_document _).1 built isBuilt isShallow, fails,
    (build_agrees_with_document _).2.2 (.inl ⟨_, fails⟩)⟩

/-! ### Too many calls -/

def pointerCalls : Nat → Expression
  | 0 => .void
  | n + 1 => .pointer (pointerCalls n)

theorem build_pointerCalls (n : Nat) : (pointerCalls n).build = .ok (nestedPointers n) := by
  induction n with
  | zero => rw [pointerCalls, Expression.build, nestedPointers]
  | succ n ih =>
    rw [pointerCalls, Expression.build, ih, nestedPointers]
    rfl

/-- Builders nest pointers deeper than their document can be read. -/
theorem validate_pointerCalls :
    (pointerCalls 254).build = .ok (nestedPointers 254) ∧
      ∃ details, validate (pointerCalls 254).document = .error details := by
  have isBuilt := build_pointerCalls 254
  have isDeep := isTooDeep_nestedPointers_iff.2 (Nat.le_refl 254)
  refine ⟨isBuilt, ?_⟩
  cases isValid : validate (pointerCalls 254).document with
  | error details => exact ⟨details, rfl⟩
  | ok d =>
    obtain ⟨same, isShallow⟩ := (validate_document_eq_ok_iff _ d).1 isValid
    obtain rfl : nestedPointers 254 = d := Except.ok.inj (isBuilt.symm.trans same)
    simp [isDeep] at isShallow

end Descriptor
end TypeDisplay
