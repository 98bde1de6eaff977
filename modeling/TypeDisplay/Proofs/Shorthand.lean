import TypeDisplay.Descriptor.Builder
import TypeDisplay.Proofs.Alike
import TypeDisplay.Proofs.Context
import TypeDisplay.Proofs.Layers
import TypeDisplay.Proofs.RecordGrammar

/-!
# Names of parameters

Among type arguments a text is short for a parameter of this name.  Written out it is read the same,
and nowhere else is a text read as a descriptor.
-/

namespace TypeDisplay

open Checked
open Document (Entry text bounded IsJson)

namespace Descriptor

/-! ### Documents -/

/-- A parameter as its name and as a mapping. -/
inductive WritesOut : Document → Document → Prop where
  | parameter (name : Text) : WritesOut (text name) (parameter name).toDocument

/-- The documents are the same but for type arguments of levels that are read, some of which are
names of parameters in one document and written out in the other. -/
def SameParameters : Document → Document → Prop :=
  Alike Eq WritesOut .descriptor

theorem isCongruence_eq : IsCongruence Eq where
  refl _ := rfl
  append := by
    rintro _ _ _ _ rfl rfl
    rfl
  under := by
    rintro _ _ rfl step
    rfl
  eq_nil_iff := by
    rintro _ _ rfl
    rfl

theorem ofDocument_parameter (name : Text) :
    ofDocument (parameter name).toDocument = .ok (parameter name) := by
  have isLeaf : Model.ofKind? (parameter name).variant = none := rfl
  have json : IsJson (parameter name).toDocument := isJson_record (by simp [IsJson.text])
  exact (ofDocument_leaf_eq_ok_iff json isLeaf).2 (describes_parameter_iff.2 rfl)

theorem bounded_parameter (name : Text) (room : Room) :
    bounded .descriptor room (parameter name).toDocument =
      if room.holdsLeaf then (parameter name).toDocument
      else .cut .depth (some Kind.parameter.label) := by
  rw [toDocument, record, bounded]
  rfl

theorem argumentOf_writesOut {v w : Document} (h : WritesOut v w) (room : Room) :
    argumentOf room v = argumentOf room w := by
  obtain ⟨name⟩ := h
  have noText : ∀ other, (parameter name).toDocument ≠ text other := by
    simp [toDocument, record, text]
  rw [argumentOf_of_ne_text noText, bounded_parameter, text, argumentOf]
  split
  · exact (ofDocument_parameter name).symm
  · rw [ofDocument]
    rfl

theorem validate_of_sameParameters {v w : Document} (h : SameParameters v w) :
    validate v = validate w := by
  have asRead : (validate v).Matches Eq (validate w) :=
    (Role.matchesIn_iff (by simp)).1
      (h.matchesIn isCongruence_eq (fun same key ↦ by rw [same]) ?_ ?_ .whole)
  · exact asRead.eq
  · intro entries others same names
    rw [unknownKeys_eq_filterMap, unknownKeys_eq_filterMap, same]
  · intro v w written room
    rw [argumentOf_writesOut written room]
    exact .refl isCongruence_eq _

/-- Elsewhere a text is no descriptor, no level and no list of them. -/
theorem detailsAt_text_ne_nil {expected : Expected} (C : Context expected) (name : Text) :
    detailsAt expected (text name) ≠ [] := by
  cases C with
  | whole => simp [detailsAt, text, ofDocument, fail]
  | inside frame around =>
    cases frame <;>
      simp [detailsAt, text, ofDocument, levelsOfDocument, levelOfDocument, argumentsOfDocument,
        fail]

theorem not_isValid_fill_text {expected : Expected} (C : Context expected) (name : Text)
    (takes : C.Takes (text name)) : ¬ IsValid (C.fill (text name)) := by
  intro valid
  have whole := details_ofDocument_of_isValid valid
  rw [C.details_fill takes, List.append_eq_nil_iff, List.append_eq_nil_iff,
    List.map_eq_nil_iff] at whole
  exact detailsAt_text_ne_nil C name whole.1.2

/-! ### Builders -/

/-- The arguments are the same, or a name and the parameter of this name. -/
inductive SameArgument : Argument → Argument → Prop where
  | same (argument : Argument) : SameArgument argument argument
  | name (name : Text) : SameArgument (.name name) (.type (parameter name))

theorem ofArgument_eq {a b : Argument} (h : SameArgument a b) : ofArgument a = ofArgument b := by
  cases h <;> rfl

theorem level_eq {arguments others : List Argument}
    (h : List.Forall₂ SameArgument arguments others) (name : Text) :
    level name arguments = level name others := by
  have same : arguments.map ofArgument = others.map ofArgument := by
    induction h with
    | nil => rfl
    | cons first _ ih => rw [List.map_cons, List.map_cons, ofArgument_eq first, ih]
  rw [level, level, same]

theorem buildLevel_eq_of_sameArguments {arguments others : List Argument}
    (h : List.Forall₂ SameArgument arguments others) (name : Document) :
    buildLevel name arguments = buildLevel name others := by
  rw [buildLevel, buildLevel, funext (level_eq h)]

/-- A named type from the names and the arguments of its levels. -/
def buildChain (dotted : Text) (chain : List (Document × List Argument)) (valueType : Document) :
    Except BuildError Descriptor :=
  (chain.mapM fun level ↦ buildLevel level.1 level.2).bind fun levels ↦
    buildNamed dotted levels valueType

theorem buildChain_eq {chain others : List (Document × List Argument)}
    (h : List.Forall₂ (fun l m ↦ l.1 = m.1 ∧ List.Forall₂ SameArgument l.2 m.2) chain others)
    (dotted : Text) (valueType : Document) :
    buildChain dotted chain valueType = buildChain dotted others valueType := by
  have sameLevels : chain.mapM (fun level ↦ buildLevel level.1 level.2) =
      others.mapM fun level ↦ buildLevel level.1 level.2 := by
    induction h with
    | nil => rfl
    | cons first _ ih =>
      rw [List.mapM_cons, List.mapM_cons, ih, first.1, buildLevel_eq_of_sameArguments first.2]
  rw [buildChain, buildChain, sameLevels]

theorem nullableNamed_eq {a b : Argument} (h : SameArgument a b) :
    nullableNamed a = nullableNamed b := by
  rw [nullableNamed, nullableNamed, level_eq (.cons h .nil)]

/-- The open definition is an ordinary named type. -/
theorem isNullableWrapper_nullableNamed_name (name : Text) :
    isNullableWrapper (nullableNamed (.name name)) = false := by
  rfl

theorem displayName_nullableNamed_name (name : Text) (escaping : Bool) :
    (nullableNamed (.name name)).displayName escaping =
      .ok ("System.Nullable<" ++ Identifier.display escaping name ++ ">") := by
  have shownLevel : levelNames escaping [level "Nullable" [.name name]] =
      .ok [levelText escaping "Nullable" [Identifier.display escaping name]] := by
    simp [level, ofArgument, levelNames, argumentNames, nameBefore, Except.bind, Except.map]
  have system : Identifier.isKeyword "System" = false := by decide
  have wrapper : Identifier.isKeyword "Nullable" = false := by decide
  have joined : ("System.Nullable<" : Text) = "System" ++ "." ++ "Nullable" ++ "<" := by decide
  rw [nullableNamed, displayName_named escaping (isNullableWrapper_nullableNamed_name name),
    shownLevel, joined]
  simp [Except.map, namedText, levelText, Identifier.display_of_not_keyword escaping system,
    Identifier.display_of_not_keyword escaping wrapper]

/-- A text among type arguments is read and built like the parameter of this name that is written
out, and everywhere else a document with a text in place of a descriptor, a level or a list of them
is not valid.  With the name of a parameter, `System.Nullable` is an ordinary named type. -/
theorem parameterNames_exact :
    (∀ v w, SameParameters v w → validate v = validate w) ∧
    (∀ {expected} (C : Context expected) name, C.Takes (text name) →
      ¬ IsValid (C.fill (text name))) ∧
    (∀ arguments others, List.Forall₂ SameArgument arguments others →
      ∀ name, buildLevel name arguments = buildLevel name others) ∧
    (∀ chain others,
      List.Forall₂ (fun l m ↦ l.1 = m.1 ∧ List.Forall₂ SameArgument l.2 m.2) chain others →
        ∀ dotted valueType,
          buildChain dotted chain valueType = buildChain dotted others valueType) ∧
    (∀ a b, SameArgument a b → nullableNamed a = nullableNamed b) ∧
    ∀ name, (nullableNamed (.name name)).kind = .named ∧
      ∀ escaping, (nullableNamed (.name name)).displayName escaping =
        .ok ("System.Nullable<" ++ Identifier.display escaping name ++ ">") :=
  ⟨fun _ _ ↦ validate_of_sameParameters, not_isValid_fill_text,
    fun _ _ ↦ buildLevel_eq_of_sameArguments, fun _ _ ↦ buildChain_eq,
    fun _ _ ↦ nullableNamed_eq, fun name ↦ ⟨rfl, displayName_nullableNamed_name name⟩⟩

/-- Two levels, with a parameter next to a descriptor that is none. -/
def nestedNames (first second : Document) : Document :=
  record
    [("kind", text "named"),
      ("levels", .list
        [record [("name", text "Outer"), ("type_arguments", .list [first, .int 0])],
          record
            [("name", text "Inner"),
              ("type_arguments", .list
                [record
                  [("kind", text "named"),
                    ("levels", .list
                      [record [("name", text "List"),
                        ("type_arguments", .list [second])]])]])]])]

section

variable {items others : List Document}

theorem alike_genericLevel (name : Text)
    (each : List.Forall₂ (Alike Eq WritesOut .argument) items others) :
    Alike Eq WritesOut (.fields .level)
      (record [("name", text name), ("type_arguments", .list items)])
      (record [("name", text name), ("type_arguments", .list others)]) := by
  have sameList : Alike Eq WritesOut .arguments (.list items) (.list others) := alike_list rfl each
  exact alike_field [_] [] rfl (fun _ ↦ rfl) (by simp) sameList

theorem alike_namedLevels {role : Role} (asks : role = .descriptor ∨ role = .argument)
    (each : List.Forall₂ (Alike Eq WritesOut (.fields .level)) items others) :
    Alike Eq WritesOut role
      (record [("kind", text "named"), ("levels", .list items)])
      (record [("kind", text "named"), ("levels", .list others)]) := by
  have sameList : Alike Eq WritesOut .levels (.list items) (.list others) := alike_list rfl each
  rcases asks with rfl | rfl <;>
    exact alike_field [_] [] rfl (fun _ ↦ rfl) (by simp) sameList

end

theorem sameParameters_nestedNames {first second : Document} {name other : Text}
    (isFirst : WritesOut (text name) first) (isSecond : WritesOut (text other) second) :
    SameParameters (nestedNames (text name) (text other)) (nestedNames first second) := by
  have inner := alike_genericLevel "List" (.cons (Alike.argument isSecond) .nil)
  have outer := alike_genericLevel "Outer"
    (.cons (Alike.argument isFirst) (.cons (.same _ (.int 0)) .nil))
  have list := alike_namedLevels (.inr rfl) (.cons inner .nil)
  exact alike_namedLevels (.inl rfl) (.cons outer
    (.cons (alike_genericLevel "Inner" (.cons list .nil)) .nil))

/-- What a pointer points to. -/
def pointee : Context .descriptor :=
  .inside
    (.field ⟨[(.text "kind", text "pointer")], [], by decide, by decide⟩
      (rfl : innerField? .pointer = some "pointee") (by decide))
    .whole

/-- The details of the other argument stay as they are, and a pointer to a text is not valid. -/
theorem parameterNames_nestedNames :
    SameParameters (nestedNames (text "T") (text "U"))
        (nestedNames (parameter "T").toDocument (parameter "U").toDocument) ∧
      validate (nestedNames (parameter "T").toDocument (parameter "U").toDocument) =
        .error [⟨[.name "named", .name "levels", .index 0, .name "type_arguments", .index 1],
          .notDescriptor⟩] ∧
      validate (nestedNames (text "T") (text "U")) =
        validate (nestedNames (parameter "T").toDocument (parameter "U").toDocument) ∧
      ¬ IsValid (pointee.fill (text "T")) ∧
      buildLevel (text "C") [.name "T", .type void] =
        buildLevel (text "C") [.type (parameter "T"), .type void] ∧
      buildChain "N" [(text "C", [.name "T"]), (text "D", [])] .null =
        buildChain "N" [(text "C", [.type (parameter "T")]), (text "D", [])] .null ∧
      nullableNamed (.name "T") = nullableNamed (.type (parameter "T")) := by
  obtain ⟨documents, elsewhere, levels, chains, nullables, -⟩ := parameterNames_exact
  have written := sameParameters_nestedNames (.parameter "T") (.parameter "U")
  refine ⟨written, eq_error_of_details (by decide +kernel) (by decide), documents _ _ written,
    elsewhere pointee "T" trivial, ?_, ?_, nullables _ _ (.name "T")⟩
  · exact levels _ _ (.cons (.name "T") (.cons (.same _) .nil)) (text "C")
  · refine chains _ _ ?_ _ _
    have arguments : List.Forall₂ SameArgument [.name "T"] [.type (parameter "T")] :=
      .cons (.name "T") .nil
    exact .cons ⟨rfl, arguments⟩ (.cons ⟨rfl, .nil⟩ .nil)

end Descriptor
end TypeDisplay
