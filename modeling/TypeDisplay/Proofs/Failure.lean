import TypeDisplay.Proofs.Levels
import TypeDisplay.Proofs.Malformed

/-!
# What a failure tells

A descriptor without a name contains malformed nullables, and one of them is reported.  Which one
depends on the descriptor alone and not on whether keywords are marked: a nullable is looked at
before what it wraps, and among type arguments the first one without a name counts.  What the
message says about the reported nullable is true.

A tagged type of the wrong shape is reported as well, unless one of its arguments is a free
parameter.  Then the tag counts for nothing.
-/

namespace TypeDisplay
namespace Descriptor

section arguments

/-! ### Failures among arguments -/

variable {escaping : Bool} {e : NameError}

theorem argumentNames_append (as bs : List Descriptor) :
    argumentNames escaping (as ++ bs) =
      (argumentNames escaping as).bind fun texts ↦
        (argumentNames escaping bs).map fun others ↦ texts ++ others := by
  induction as with
  | nil => simp [argumentNames, Except.bind]
  | cons a as ih =>
    rw [List.cons_append, argumentNames, argumentNames, ih]
    cases nameBefore escaping a [] [] <;> cases argumentNames escaping as <;>
      cases argumentNames escaping bs <;> rfl

/-- The failure is that of the first descriptor without a name. -/
theorem argumentNames_eq_error_iff {arguments : List Descriptor} :
    argumentNames escaping arguments = .error e ↔
      ∃ before a after, arguments = before ++ a :: after ∧
        (∀ b ∈ before, HasName escaping b) ∧ a.displayName escaping = .error e := by
  constructor
  · intro h
    induction arguments with
    | nil => cases h
    | cons a arguments ih =>
      rw [argumentNames, except_bind_eq_error_iff] at h
      rcases h with failed | ⟨text, named, rest⟩
      · exact ⟨[], a, arguments, rfl, by simp, failed⟩
      · obtain ⟨before, b, after, rfl, areNamed, failed⟩ := ih (except_map_eq_error_iff.1 rest)
        refine ⟨a :: before, b, after, rfl, ?_, failed⟩
        exact List.forall_mem_cons.2 ⟨⟨text, named⟩, areNamed⟩
  · rintro ⟨before, a, after, rfl, areNamed, failed⟩
    obtain ⟨texts, named⟩ := argumentNames_ok_iff.2 areNamed
    rw [displayName] at failed
    rw [argumentNames_append, named, argumentNames, failed]
    rfl

/-- Levels are gone through one after the other, each with its arguments in order. -/
theorem levelNames_eq_error_iff {levels : List (Level Descriptor)} :
    levelNames escaping levels = .error e ↔
      argumentNames escaping (argumentsOf levels) = .error e := by
  induction levels with
  | nil => simp [levelNames, argumentsOf, argumentNames]
  | cons level levels ih =>
    obtain ⟨name, arguments⟩ := level
    have split : argumentsOf (⟨name, arguments⟩ :: levels) = arguments ++ argumentsOf levels :=
      List.flatMap_cons
    rw [levelNames, split, argumentNames_append, except_bind_eq_error_iff,
      except_bind_eq_error_iff]
    simp only [except_map_eq_error_iff, ih]

theorem displayName_named_eq_error_iff {segments : List Text} {levels : List (Level Descriptor)}
    {valueType : Option Bool} {wellKnown : Option WellKnown}
    (ordinary : isNullableWrapper (named segments levels valueType wellKnown) = false) :
    (named segments levels valueType wellKnown).displayName escaping = .error e ↔
      ∃ before a after, argumentsOf levels = before ++ a :: after ∧
        (∀ b ∈ before, HasName escaping b) ∧ a.displayName escaping = .error e := by
  rw [displayName_named escaping ordinary, except_map_eq_error_iff, levelNames_eq_error_iff,
    argumentNames_eq_error_iff]

end arguments

section wrapped

/-! ### Failures of nullables -/

/-- The first descriptor is a nullable of either form around the second. -/
inductive Wraps : Descriptor → Descriptor → Prop where
  | nullable (u : Descriptor) : Wraps (nullable u) u
  | named {segments : List Text} {name : Text} {u : Descriptor} {valueType : Option Bool}
      {wellKnown : Option WellKnown}
      (wrapper : isNullableWrapper (named segments [⟨name, [u]⟩] valueType wellKnown) = true) :
      Wraps (named segments [⟨name, [u]⟩] valueType wellKnown) u

variable {d u : Descriptor} {escaping : Bool} {e : NameError}

theorem Wraps.mem_parts (h : Wraps d u) : u ∈ d.parts := by
  cases h with
  | nullable => simp [parts]
  | named => simp [parts, argumentsOf]

theorem Wraps.displayName_eq (h : Wraps d u) (escaping : Bool) :
    d.displayName escaping = wrappedName escaping u := by
  cases h with
  | nullable => exact displayName_nullable escaping u
  | named wrapper => exact displayName_wrapper escaping wrapper

theorem wrappedName_of_nullable (h : u.kind = .nullable) :
    wrappedName escaping u = .error .nestedNullable := by
  rw [wrappedName, if_pos h]

theorem wrappedName_of_value (other : u.kind ≠ .nullable) (isValue : u.isValueType = true) :
    wrappedName escaping u = (u.displayName escaping).map (· ++ ("?" : Text)) := by
  rw [wrappedName, if_neg other, if_pos isValue]

theorem wrappedName_of_reference (other : u.kind ≠ .nullable) (isReference : u.isValueType = false) :
    wrappedName escaping u =
      (u.displayName false).bind fun shown ↦ .error (.notValueType shown) := by
  rw [wrappedName, if_neg other, if_neg (by simp [isReference])]

end wrapped

/-! ### The reported failure -/

/-- The failure that is reported for a descriptor. -/
inductive Reports : Descriptor → NameError → Prop where
  | arity {segments : List Text} {levels : List (Level Descriptor)} {valueType : Option Bool}
      {wellKnown : Option WellKnown}
      (wrapper : isNullableWrapper (named segments levels valueType wellKnown) = true)
      (other : ∀ name u, levels ≠ [⟨name, [u]⟩]) :
      Reports (named segments levels valueType wellKnown)
        (.arity (argumentsOf levels).length levels.length)
  | nested {d u : Descriptor} (wraps : Wraps d u) (isNullable : u.kind = .nullable) :
      Reports d .nestedNullable
  | reference {d u : Descriptor} {shown : Text} (wraps : Wraps d u) (other : u.kind ≠ .nullable)
      (isReference : u.isValueType = false) (isShown : u.displayName false = .ok shown) :
      Reports d (.notValueType shown)
  /-- What is wrapped has no name itself. -/
  | wrapped {d u : Descriptor} {e : NameError} (wraps : Wraps d u) (other : u.kind ≠ .nullable)
      (inner : Reports u e) : Reports d e
  | argument {segments : List Text} {levels : List (Level Descriptor)} {valueType : Option Bool}
      {wellKnown : Option WellKnown} {before after : List Descriptor} {a : Descriptor}
      {e : NameError}
      (ordinary : isNullableWrapper (named segments levels valueType wellKnown) = false)
      (split : argumentsOf levels = before ++ a :: after)
      (areNamed : ∀ b ∈ before, HasName false b) (inner : Reports a e) :
      Reports (named segments levels valueType wellKnown) e
  | element {d : Descriptor} {rank : Int} {multiDimensional : Bool} {e : NameError}
      (inner : Reports d e) : Reports (array d rank multiDimensional) e
  | pointee {d : Descriptor} {e : NameError} (inner : Reports d e) : Reports (pointer d) e

section reports

variable {d : Descriptor} {escaping : Bool} {e : NameError}

theorem hasName_iff_of_flag (escaping other : Bool) (d : Descriptor) :
    HasName escaping d ↔ HasName other d := by
  rw [hasName_iff, hasName_iff]

theorem displayName_pointer_eq_error_iff :
    (pointer d).displayName escaping = .error e ↔ d.displayName escaping = .error e := by
  rw [displayName_pointer, except_map_eq_error_iff]

theorem displayName_array_eq_error_iff {rank : Int} {multiDimensional : Bool} :
    (array d rank multiDimensional).displayName escaping = .error e ↔
      d.displayName escaping = .error e := by
  rw [displayName_eq_core, displayName_eq_core escaping d, except_map_eq_error_iff,
    except_map_eq_error_iff, core]

theorem Wraps.reports {u : Descriptor} (wraps : Wraps d u)
    (ih : ∀ escaping, u.displayName escaping = .error e → Reports u e)
    (h : d.displayName escaping = .error e) : Reports d e := by
  rw [wraps.displayName_eq] at h
  by_cases isNullable : u.kind = .nullable
  · rw [wrappedName_of_nullable isNullable] at h
    obtain rfl := Except.error.inj h
    exact .nested wraps isNullable
  cases isValue : u.isValueType with
  | true =>
    rw [wrappedName_of_value isNullable isValue, except_map_eq_error_iff] at h
    exact .wrapped wraps isNullable (ih escaping h)
  | false =>
    -- The message shows what is wrapped without marks, so that is the failure that counts.
    rw [wrappedName_of_reference isNullable isValue, except_bind_eq_error_iff] at h
    rcases h with failed | ⟨shown, isShown, h⟩
    · exact .wrapped wraps isNullable (ih false failed)
    · obtain rfl := Except.error.inj h
      exact .reference wraps isNullable isValue isShown

theorem reports_of_displayName (h : d.displayName escaping = .error e) : Reports d e := by
  induction d using partsInduction generalizing escaping with
  | step d ih =>
    cases d with
    | primitive _ | void | parameter _ => cases h
    | pointer p =>
      exact .pointee (ih p (by simp [parts]) (displayName_pointer_eq_error_iff.1 h))
    | array d rank m =>
      exact .element (ih d (by simp [parts]) (displayName_array_eq_error_iff.1 h))
    | nullable u =>
      have wraps := Wraps.nullable u
      exact wraps.reports (fun _ failed ↦ ih u wraps.mem_parts failed) h
    | named segments levels valueType wellKnown =>
      rcases named_cases segments levels valueType wellKnown with
        ordinary | ⟨wrapper, ⟨name, u, rfl⟩ | other⟩
      · obtain ⟨before, a, after, split, areNamed, failed⟩ :=
          (displayName_named_eq_error_iff ordinary).1 h
        have isPart : a ∈ (named segments levels valueType wellKnown).parts := by
          simp [parts, split]
        refine .argument ordinary split (fun b isBefore ↦ ?_) (ih a isPart failed)
        exact (hasName_iff_of_flag escaping false b).1 (areNamed b isBefore)
      · have wraps := Wraps.named wrapper
        exact wraps.reports (fun _ failed ↦ ih u wraps.mem_parts failed) h
      · rw [displayName_wrapper_arity escaping wrapper other] at h
        obtain rfl := Except.error.inj h
        exact .arity wrapper other

theorem displayName_of_reports (h : Reports d e) (escaping : Bool) :
    d.displayName escaping = .error e := by
  induction h generalizing escaping with
  | arity wrapper other => exact displayName_wrapper_arity escaping wrapper other
  | nested wraps isNullable =>
    rw [wraps.displayName_eq, wrappedName_of_nullable isNullable]
  | reference wraps other isReference isShown =>
    rw [wraps.displayName_eq, wrappedName_of_reference other isReference, isShown]
    rfl
  | @wrapped d u e wraps other inner ih =>
    rw [wraps.displayName_eq]
    cases isValue : u.isValueType with
    | true => rw [wrappedName_of_value other isValue, ih, Except.map]
    | false => rw [wrappedName_of_reference other isValue, ih, Except.bind]
  | @argument segments levels valueType wellKnown before after a e ordinary split areNamed inner ih =>
    refine (displayName_named_eq_error_iff ordinary).2 ⟨before, a, after, split, ?_, ih escaping⟩
    intro b isBefore
    exact (hasName_iff_of_flag escaping false b).2 (areNamed b isBefore)
  | element inner ih => exact displayName_array_eq_error_iff.2 (ih escaping)
  | pointee inner ih => exact displayName_pointer_eq_error_iff.2 (ih escaping)

theorem displayName_eq_error_iff_reports : d.displayName escaping = .error e ↔ Reports d e :=
  ⟨reports_of_displayName, fun h ↦ displayName_of_reports h escaping⟩

end reports

/-! ### Messages -/

/-- A message together with the nullable inside the descriptor that it is true of. -/
inductive Explains (d : Descriptor) : Text → Prop where
  | arity {segments : List Text} {levels : List (Level Descriptor)} {valueType : Option Bool}
      {wellKnown : Option WellKnown}
      (occurs : Occurs (named segments levels valueType wellKnown) d)
      (wrapper : isNullableWrapper (named segments levels valueType wellKnown) = true)
      (other : ∀ name u, levels ≠ [⟨name, [u]⟩]) :
      Explains d ("Nullable wrapper must have exactly one type argument, got " ++
        toString (argumentsOf levels).length ++ " across " ++ toString levels.length ++
          " nesting level(s)")
  | nested {s u : Descriptor} (occurs : Occurs s d) (wraps : Wraps s u)
      (isNullable : u.kind = .nullable) :
      Explains d "Nullable wrapper cannot wrap another nullable type"
  | reference {s u : Descriptor} {shown : Text} (occurs : Occurs s d) (wraps : Wraps s u)
      (other : u.kind ≠ .nullable) (isReference : u.isValueType = false)
      (isShown : u.displayName false = .ok shown) :
      Explains d ("Nullable wrapper requires a value type, got '" ++ shown ++ "'")

theorem Explains.of_mem_parts {c d : Descriptor} {message : Text} (h : Explains c message)
    (isPart : c ∈ d.parts) : Explains d message := by
  cases h with
  | arity occurs wrapper other => exact .arity (.inside isPart occurs) wrapper other
  | nested occurs wraps isNullable => exact .nested (.inside isPart occurs) wraps isNullable
  | reference occurs wraps other isReference isShown =>
    exact .reference (.inside isPart occurs) wraps other isReference isShown

theorem Reports.explains {d : Descriptor} {e : NameError} (h : Reports d e) :
    Explains d e.message := by
  induction h with
  | arity wrapper other => exact .arity (.here _) wrapper other
  | nested wraps isNullable => exact .nested (.here _) wraps isNullable
  | reference wraps other isReference isShown =>
    exact .reference (.here _) wraps other isReference isShown
  | wrapped wraps _ _ ih => exact ih.of_mem_parts wraps.mem_parts
  | argument _ split _ _ ih => exact ih.of_mem_parts (by simp [parts, split])
  | element _ ih | pointee _ ih => exact ih.of_mem_parts (by simp [parts])

/-- A failure is the same with and without marks, its message is true, and for a named type it is
that of the first argument that has no name. -/
theorem displayName_error_tells {d : Descriptor} {escaping : Bool} {e : NameError}
    (h : d.displayName escaping = .error e) :
    (∀ other, d.displayName other = .error e) ∧ Explains d e.message ∧
      ∀ segments levels valueType wellKnown, d = named segments levels valueType wellKnown →
        d.kind = .named →
          ∃ before a after, argumentsOf levels = before ++ a :: after ∧
            (∀ b ∈ before, HasName escaping b) ∧ a.displayName escaping = .error e := by
  have reports : Reports d e := displayName_eq_error_iff_reports.1 h
  refine ⟨fun other ↦ displayName_eq_error_iff_reports.2 reports, reports.explains, ?_⟩
  rintro segments levels valueType wellKnown rfl isNamed
  have ordinary : isNullableWrapper (named segments levels valueType wellKnown) = false := by
    cases wrapper : isNullableWrapper (named segments levels valueType wellKnown) with
    | false => rfl
    | true => simp [kind, wrapper] at isNamed
  exact (displayName_named_eq_error_iff ordinary).1 h

/-- A type whose second level has two malformed arguments. -/
def brokenPair : Descriptor :=
  named []
    [⟨"Outer", [primitive .int]⟩,
      ⟨"Pair", [nullable (named ["N"] [⟨"class", []⟩] (some false) none), nullable void]⟩]
    none none

/-- Of the two the first one is reported, with the plain name of what it wraps. -/
theorem displayName_brokenPair :
    let cause := NameError.notValueType "N.class"
    brokenPair.displayName true = .error cause ∧ brokenPair.displayName false = .error cause ∧
      Explains brokenPair "Nullable wrapper requires a value type, got 'N.class'" ∧
      brokenPair.kind = .named ∧
      ∃ before a after,
        [primitive .int, nullable (named ["N"] [⟨"class", []⟩] (some false) none),
            nullable void] = before ++ a :: after ∧
          (∀ b ∈ before, HasName true b) ∧ a.displayName true = .error cause := by
  have failed : brokenPair.displayName true = .error (.notValueType "N.class") := rfl
  have isNamed : brokenPair.kind = .named := by decide
  obtain ⟨same, explains, first⟩ := displayName_error_tells failed
  exact ⟨failed, same false, explains, isNamed, first _ _ _ _ rfl isNamed⟩

/-! ### Tagged types of the wrong shape -/

theorem isNullableWrapper_tagged_eq_false_iff {segments : List Text}
    {levels : List (Level Descriptor)} {valueType : Option Bool} :
    isNullableWrapper (named segments levels valueType (some .nullable)) = false ↔
      ∃ a ∈ argumentsOf levels, a.isParameter = true := by
  have same : isNullableWrapper (named segments levels valueType (some .nullable)) =
      isConstructed levels := rfl
  rw [same, ← Bool.not_eq_true, isConstructed_iff]
  simp

/-- Inside a descriptor with a name, a tagged type is one argument on one level, or one of its
arguments is a free parameter.  One of another shape is displayed as if it had no tag when one of its
arguments is free, and it has no name otherwise. -/
theorem displayName_tagged (d : Descriptor) (escaping : Bool) :
    (∀ text, d.displayName escaping = .ok text →
      ∀ (segments : List Text) (levels : List (Level Descriptor)) (valueType : Option Bool),
        Occurs (named segments levels valueType (some .nullable)) d →
          (∃ name u, levels = [⟨name, [u]⟩]) ∨
            ∃ a ∈ argumentsOf levels, a.isParameter = true) ∧
    ∀ (segments : List Text) (levels : List (Level Descriptor)) (valueType : Option Bool),
      d = named segments levels valueType (some .nullable) →
        (∀ name u, levels ≠ [⟨name, [u]⟩]) →
          d.displayName escaping =
            if ∃ a ∈ argumentsOf levels, a.isParameter = true then
              (named segments levels valueType none).displayName escaping
            else .error (.arity (argumentsOf levels).length levels.length) := by
  constructor
  · intro text named segments levels valueType occurs
    rcases named_cases segments levels valueType (some .nullable) with
      ordinary | ⟨wrapper, unary | other⟩
    · exact .inr (isNullableWrapper_tagged_eq_false_iff.1 ordinary)
    · exact .inl unary
    · exact absurd (isMalformed_of_arity wrapper other) (hasName_iff.1 ⟨text, named⟩ _ occurs)
  · rintro segments levels valueType rfl other
    have untagged : isNullableWrapper (named segments levels valueType none) = false := rfl
    cases wrapper : isNullableWrapper (named segments levels valueType (some .nullable)) with
    | false =>
      rw [if_pos (isNullableWrapper_tagged_eq_false_iff.1 wrapper),
        displayName_named escaping wrapper, displayName_named escaping untagged]
    | true =>
      have closed : ¬ ∃ a ∈ argumentsOf levels, a.isParameter = true := by
        rw [← @isNullableWrapper_tagged_eq_false_iff segments levels valueType, wrapper]
        decide
      rw [if_neg closed, displayName_wrapper_arity escaping wrapper other]

/-- A tagged type with two arguments, one of them free. -/
def taggedPair : Descriptor :=
  named ["System"] [⟨"Nullable", [parameter "T", primitive .int]⟩] (some true) (some .nullable)

/-- It has a name although it is no single argument on a single level. -/
theorem displayName_taggedPair :
    let levels := [⟨"Nullable", [parameter "T", primitive .int]⟩]
    (∀ name u, levels ≠ [⟨name, [u]⟩]) ∧ Occurs taggedPair (array taggedPair 2 false) ∧
      taggedPair.displayName true = .ok "System.Nullable<T, int>" ∧
      (array taggedPair 2 false).displayName true = .ok "System.Nullable<T, int>[,]" ∧
      ∃ a ∈ argumentsOf levels, a.isParameter = true := by
  intro levels
  have other : ∀ name u, levels ≠ [⟨name, [u]⟩] := by simp [levels]
  have isFree : ∃ a ∈ argumentsOf levels, a.isParameter = true := by
    simp [levels, argumentsOf, isParameter]
  have occurs : Occurs taggedPair (array taggedPair 2 false) :=
    .inside (by simp [parts]) (.here taggedPair)
  have named : (array taggedPair 2 false).displayName true = .ok "System.Nullable<T, int>[,]" :=
    rfl
  have inside := (displayName_tagged (array taggedPair 2 false) true).1 _ named _ _ _ occurs
  refine ⟨other, occurs, ?_, named, inside.resolve_left ?_⟩
  · rw [(displayName_tagged taggedPair true).2 _ _ _ rfl other, if_pos isFree]
    rfl
  · rintro ⟨name, u, same⟩
    exact other name u same

end Descriptor
end TypeDisplay
