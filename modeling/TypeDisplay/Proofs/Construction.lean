import TypeDisplay.Proofs.Expression
import TypeDisplay.Proofs.RankTokens

/-!
# Descriptors that are built step by step

Calls of builders and validations of documents follow each other, and each call may refer to what
earlier calls gave.  Whatever is built in this way is well formed: its ranks are positive, its named
types have levels, and its type arguments are well-formed descriptors again.  Readers establish this
for every document, builders for arguments that have it, and a run keeps it.

So display asks for the tokens of positive ranks only.
-/

namespace TypeDisplay

namespace Descriptor

open Checked
open Document (Entry field?)

/-! ### Reading -/

/-- What is read from a document is well formed, whatever is expected there. -/
structure ReadsWellFormed (v : Document) : Prop where
  descriptor (d : Descriptor) : ofDocument v = .ok d → WellFormed d
  level (level : Level Descriptor) :
    levelOfDocument v = .ok level → ∀ a ∈ level.arguments, WellFormed a
  levels (levels : List (Level Descriptor)) :
    levelsOfDocument v = .ok levels → levels ≠ [] ∧ ∀ a ∈ argumentsOf levels, WellFormed a
  arguments (arguments : List Descriptor) :
    argumentsOfDocument v = .ok arguments → ∀ a ∈ arguments, WellFormed a

theorem one_le_of_rank {v : Document} {n : Int} (h : Conversion.rank v = .ok n) : 1 ≤ n := by
  rw [Conversion.rank] at h
  split at h
  · split at h
    · rename_i positive
      obtain rfl := Except.ok.inj h
      exact positive
    · exact absurd h fail_ne_ok
  · cases h

theorem wellFormed_of_hasFields {entries : List Entry} {d : Descriptor}
    (each : ∀ name v, field? entries name = some v → ReadsWellFormed v)
    (h : HasFields entries d) : WellFormed d := by
  cases d with
  | primitive _ | void | parameter _ => trivial
  | named segments levels valueType wellKnown =>
    obtain ⟨-, ⟨v, found, areLevels⟩, -, -⟩ := h
    obtain ⟨nonempty, areWellFormed⟩ := (each _ v found).levels levels areLevels
    exact ⟨nonempty, wellFormedLevels_iff.2 areWellFormed⟩
  | array e rank m =>
    obtain ⟨⟨v, found, isElement⟩, isRank, -⟩ := h
    refine ⟨?_, (each _ v found).descriptor e isElement⟩
    rcases isRank with ⟨-, rfl⟩ | ⟨w, -, isRead⟩
    · exact Int.le_refl 1
    · exact one_le_of_rank isRead
  | pointer p | nullable p =>
    obtain ⟨v, found, isInside⟩ := h
    exact (each _ v found).descriptor p isInside

theorem readsWellFormed_mapping {entries : List Entry}
    (each : ∀ name v, field? entries name = some v → ReadsWellFormed v) :
    ReadsWellFormed (.mapping entries) where
  descriptor d h := wellFormed_of_hasFields each (ofDocument_mapping_eq_ok_iff.1 h).2
  level level h := by
    obtain ⟨-, -, areArguments⟩ := levelOfDocument_mapping_eq_ok_iff.1 h
    rcases areArguments with ⟨-, none⟩ | ⟨v, found, areRead⟩
    · simp [none]
    · exact (each _ v found).arguments _ areRead
  levels levels h := by simp [levelsOfDocument, fail] at h
  arguments arguments h := by simp [argumentsOfDocument, fail] at h

theorem wellFormed_of_levelsOfItems {items : List Document} {index : Nat}
    {levels : List (Level Descriptor)} (each : ∀ x ∈ items, ReadsWellFormed x)
    (h : levelsOfItems index items = ([], levels)) : ∀ a ∈ argumentsOf levels, WellFormed a := by
  induction items generalizing index levels with
  | nil =>
    rw [levelsOfItems] at h
    obtain rfl := (Prod.mk.inj h).2
    simp [argumentsOf]
  | cons item items ih =>
    obtain ⟨first, rest, isLevel, areLevels, rfl⟩ := levelsOfItems_cons_eq_iff.1 h
    obtain ⟨here, others⟩ := List.forall_mem_cons.1 each
    rw [argumentsOf, List.flatMap_cons, List.forall_mem_append]
    exact ⟨here.level first isLevel, ih others areLevels⟩

theorem wellFormed_of_argumentsOfItems {items : List Document} {index : Nat}
    {arguments : List Descriptor} (each : ∀ x ∈ items, ReadsWellFormed x)
    (h : argumentsOfItems index items = .ok arguments) : ∀ a ∈ arguments, WellFormed a := by
  induction items generalizing index arguments with
  | nil =>
    rw [argumentsOfItems] at h
    obtain rfl := Except.ok.inj h
    simp
  | cons item items ih =>
    obtain ⟨first, rest, isFirst, areRest, rfl⟩ := argumentsOfItems_cons_eq_ok_iff.1 h
    obtain ⟨here, others⟩ := List.forall_mem_cons.1 each
    refine List.forall_mem_cons.2 ⟨?_, ih others areRest⟩
    rcases isFirst with ⟨name, -, rfl⟩ | isRead
    · trivial
    · exact here.descriptor first isRead

theorem readsWellFormed_list {items : List Document} (each : ∀ x ∈ items, ReadsWellFormed x) :
    ReadsWellFormed (.list items) where
  descriptor d h := by simp [ofDocument, fail] at h
  level level h := by simp [levelOfDocument, fail] at h
  levels levels h := by
    rw [levelsOfDocument] at h
    obtain ⟨areRead, nonempty⟩ := levelsOf_eq_ok_iff.1 h
    exact ⟨nonempty, wellFormed_of_levelsOfItems each areRead⟩
  arguments arguments h := by
    rw [argumentsOfDocument] at h
    exact wellFormed_of_argumentsOfItems each h

theorem strayItems_eq_ok_iff {α : Type} {fault : Fault} {count : Nat} {items : List α} :
    strayItems fault count = .ok items ↔ count = 0 ∧ items = [] := by
  rw [strayItems]
  split
  · simp [*, eq_comm]
  · simp [*]

/-- What has no descriptors in it gives none. -/
theorem readsWellFormed_of_stray {v : Document} (noList : ∀ items, v ≠ .list items)
    (noMapping : ∀ entries, v ≠ .mapping entries) : ReadsWellFormed v where
  descriptor d h := by
    rw [ofDocument.eq_def] at h
    split at h
    · exact absurd rfl (noMapping _)
    · exact absurd (within_eq_ok_iff.1 h) fail_ne_ok
    · exact absurd h fail_ne_ok
  level level h := by
    rw [levelOfDocument.eq_def] at h
    split at h
    · exact absurd rfl (noMapping _)
    · exact absurd h fail_ne_ok
    · exact absurd h fail_ne_ok
  levels levels h := by
    rw [levelsOfDocument.eq_def] at h
    split at h
    · exact absurd rfl (noList _)
    -- A set only passes when it is empty, and then the chain has no level.
    · split at h
      · rename_i areRead
        obtain ⟨-, rfl⟩ := strayItems_eq_ok_iff.1 areRead
        obtain ⟨same, nonempty⟩ := levelsOf_eq_ok_iff.1 h
        exact absurd (Prod.mk.inj same).2.symm nonempty
      · obtain ⟨same, nonempty⟩ := levelsOf_eq_ok_iff.1 h
        exact absurd (Prod.mk.inj same).2.symm nonempty
    · exact absurd h fail_ne_ok
  arguments arguments h := by
    rw [argumentsOfDocument.eq_def] at h
    split at h
    · exact absurd rfl (noList _)
    · obtain ⟨-, rfl⟩ := strayItems_eq_ok_iff.1 h
      simp
    · obtain ⟨-, rfl⟩ := strayItems_eq_ok_iff.1 h
      simp
    · exact absurd h fail_ne_ok

theorem readsWellFormed (v : Document) : ReadsWellFormed v := by
  cases v with
  | mapping entries =>
    have each : ∀ name v, field? entries name = some v → ReadsWellFormed v :=
      fun name v found ↦ readsWellFormed v
    exact readsWellFormed_mapping each
  | list items =>
    have each : ∀ x ∈ items, ReadsWellFormed x := fun x member ↦ readsWellFormed x
    exact readsWellFormed_list each
  | _ => exact readsWellFormed_of_stray (by simp) (by simp)
termination_by sizeOf v
decreasing_by
  · have smaller := List.sizeOf_lt_of_mem member
    simp only [Document.list.sizeOf_spec]
    omega
  · have smaller := Document.sizeOf_field?_lt found
    simp only [Document.mapping.sizeOf_spec]
    omega

theorem wellFormed_of_validate {v : Document} {d : Descriptor} (h : validate v = .ok d) :
    WellFormed d :=
  (readsWellFormed _).descriptor d h

/-! ### Building -/

theorem wellFormed_of_buildPrimitive {keyword : Document} {d : Descriptor}
    (h : buildPrimitive keyword = .ok d) : WellFormed d := by
  rw [buildPrimitive] at h
  split at h
  · obtain rfl := Except.ok.inj h
    trivial
  · cases h

theorem wellFormed_of_buildParameter {name : Document} {d : Descriptor}
    (h : buildParameter name = .ok d) : WellFormed d := by
  rw [buildParameter, checked_eq_ok_iff, except_map_eq_ok_iff] at h
  obtain ⟨text, -, rfl⟩ := h
  trivial

theorem wellFormed_level {name : Text} {arguments : List Argument}
    (each : ∀ a ∈ arguments, WellFormed (ofArgument a)) :
    ∀ d ∈ (level name arguments).arguments, WellFormed d := by
  simpa [level] using each

theorem wellFormed_of_buildLevel {name : Document} {arguments : List Argument}
    {built : Level Descriptor} (each : ∀ a ∈ arguments, WellFormed (ofArgument a))
    (h : buildLevel name arguments = .ok built) : ∀ d ∈ built.arguments, WellFormed d := by
  rw [buildLevel, checked_eq_ok_iff, except_map_eq_ok_iff] at h
  obtain ⟨text, -, rfl⟩ := h
  exact wellFormed_level each

theorem wellFormed_of_buildNamed {dotted : Text} {levels : List (Level Descriptor)}
    {valueType : Document} {d : Descriptor} (each : ∀ l ∈ levels, ∀ a ∈ l.arguments, WellFormed a)
    (h : buildNamed dotted levels valueType = .ok d) : WellFormed d := by
  rw [buildNamed, checked_eq_ok_iff, except_map_eq_ok_iff] at h
  obtain ⟨⟨chain, flag⟩, areRead, rfl⟩ := h
  obtain ⟨isChain, -⟩ := both_eq_ok_iff.1 areRead
  obtain ⟨same, nonempty⟩ := levelsOf_eq_ok_iff.1 (within_eq_ok_iff.1 isChain)
  obtain rfl := (Prod.mk.inj same).2
  refine ⟨nonempty, wellFormedLevels_iff.2 fun a isArgument ↦ ?_⟩
  obtain ⟨l, isLevel, inLevel⟩ := mem_argumentsOf.1 isArgument
  exact each l isLevel a inLevel

theorem wellFormed_of_buildArray {element : Descriptor} {rank multiDimensional : Document}
    {d : Descriptor} (inner : WellFormed element)
    (h : buildArray element rank multiDimensional = .ok d) : WellFormed d := by
  rw [buildArray, checked_eq_ok_iff, except_map_eq_ok_iff] at h
  obtain ⟨⟨r, m⟩, areRead, rfl⟩ := h
  obtain ⟨isRank, -⟩ := both_eq_ok_iff.1 areRead
  exact ⟨one_le_of_rank (within_eq_ok_iff.1 isRank), inner⟩

theorem wellFormed_nullableNamed {argument : Argument} (inner : WellFormed (ofArgument argument)) :
    WellFormed (nullableNamed argument) := by
  refine ⟨by simp, wellFormedLevels_iff.2 ?_⟩
  simpa [argumentsOf, level] using inner

end Descriptor

/-! ### Runs of calls -/

/-- What the calls so far gave, in order; a call that failed gave nothing. -/
abbrev Results := List (Option Descriptor)

namespace Results

/-- The descriptor that the call with this number gave. -/
def given? (done : Results) (number : Nat) : Option Descriptor :=
  done[number]?.join

theorem mem_of_given? {done : Results} {number : Nat} {d : Descriptor}
    (h : done.given? number = some d) : some d ∈ done := by
  rw [given?, Option.join_eq_some_iff] at h
  exact List.mem_of_getElem? h

def WellFormed (done : Results) : Prop :=
  ∀ d, some d ∈ done → Descriptor.WellFormed d

end Results

/-- A type argument of a call: what an earlier call gave, or the name of a free parameter. -/
inductive CallArgument where
  | earlier (number : Nat)
  | name (name : Text)

structure LevelCall where
  name : Document
  arguments : List CallArgument

/-- A call of a builder, or the validation of a document.  Calls refer to earlier ones by number, and
a document may be put together from what they gave. -/
inductive Call where
  | primitive (keyword : Document)
  | void
  | parameter (name : Document)
  | named (dotted : Text) (levels : List LevelCall) (valueType : Document)
  | array (element : Nat) (rank multiDimensional : Document)
  | pointer (pointee : Nat)
  | nullable (underlying : Nat)
  | nullableNamed (argument : CallArgument)
  | validate (document : Results → Document)

def CallArgument.result? (done : Results) (argument : CallArgument) : Option Argument :=
  match argument with
  | .earlier number => (done.given? number).map .type
  | .name text => some (.name text)

def LevelCall.result? (done : Results) (call : LevelCall) : Option (Level Descriptor) :=
  (call.arguments.mapM (CallArgument.result? done)).bind fun arguments ↦
    (Descriptor.buildLevel call.name arguments).toOption

def Call.result? (done : Results) : Call → Option Descriptor
  | .primitive keyword => (Descriptor.buildPrimitive keyword).toOption
  | .void => some .void
  | .parameter name => (Descriptor.buildParameter name).toOption
  | .named dotted levels valueType =>
      (levels.mapM (LevelCall.result? done)).bind fun levels ↦
        (Descriptor.buildNamed dotted levels valueType).toOption
  | .array element rank multiDimensional =>
      (done.given? element).bind fun d ↦ (Descriptor.buildArray d rank multiDimensional).toOption
  | .pointer pointee => (done.given? pointee).map .pointer
  | .nullable underlying => (done.given? underlying).map .nullable
  | .nullableNamed argument => (argument.result? done).map Descriptor.nullableNamed
  | .validate document => (Descriptor.validate (document done)).toOption

def Results.perform (done : Results) (call : Call) : Results :=
  done ++ [call.result? done]

def Results.run (done : Results) (calls : List Call) : Results :=
  calls.foldl Results.perform done

theorem forall_of_mapM_eq_some {α β : Type} {f : α → Option β} {P : β → Prop} {xs : List α}
    {ys : List β} (each : ∀ x ∈ xs, ∀ y, f x = some y → P y) (h : xs.mapM f = some ys) :
    ∀ y ∈ ys, P y := by
  induction xs generalizing ys with
  | nil =>
    obtain rfl : [] = ys := by simpa using h
    simp
  | cons x xs ih =>
    simp only [List.mapM_cons, Option.bind_eq_bind, Option.bind_eq_some_iff, Option.pure_def,
      Option.some.injEq] at h
    obtain ⟨y, isFirst, others, areOthers, rfl⟩ := h
    obtain ⟨here, inRest⟩ := List.forall_mem_cons.1 each
    exact List.forall_mem_cons.2 ⟨here y isFirst, ih inRest areOthers⟩

section steps

open Descriptor

variable {done : Results}

theorem wellFormed_of_argument (h : done.WellFormed) {argument : CallArgument} {a : Argument}
    (gives : argument.result? done = some a) : WellFormed (ofArgument a) := by
  cases argument with
  | earlier number =>
    obtain ⟨d, isGiven, rfl⟩ := Option.map_eq_some_iff.1 gives
    exact h d (Results.mem_of_given? isGiven)
  | name name =>
    obtain rfl := Option.some.inj gives
    trivial

theorem wellFormed_of_levelCall (h : done.WellFormed) {call : LevelCall} {built : Level Descriptor}
    (gives : call.result? done = some built) : ∀ d ∈ built.arguments, WellFormed d := by
  obtain ⟨arguments, areGiven, isBuilt⟩ := Option.bind_eq_some_iff.1 gives
  have each : ∀ a ∈ arguments, WellFormed (ofArgument a) :=
    forall_of_mapM_eq_some (fun _ _ _ ↦ wellFormed_of_argument h) areGiven
  exact wellFormed_of_buildLevel each (except_toOption_eq_some_iff.1 isBuilt)

/-- What a call gives is well formed if everything given before it is. -/
theorem wellFormed_of_call (h : done.WellFormed) {call : Call} {d : Descriptor}
    (gives : call.result? done = some d) : WellFormed d := by
  have earlier {number : Nat} {e : Descriptor} (isGiven : done.given? number = some e) :
      WellFormed e := h e (Results.mem_of_given? isGiven)
  cases call with
  | primitive keyword => exact wellFormed_of_buildPrimitive (except_toOption_eq_some_iff.1 gives)
  | void =>
    obtain rfl := Option.some.inj gives
    trivial
  | parameter name => exact wellFormed_of_buildParameter (except_toOption_eq_some_iff.1 gives)
  | named dotted levels valueType =>
    obtain ⟨chain, areGiven, isBuilt⟩ := Option.bind_eq_some_iff.1 gives
    have each : ∀ l ∈ chain, ∀ a ∈ l.arguments, WellFormed a :=
      forall_of_mapM_eq_some (fun _ _ _ ↦ wellFormed_of_levelCall h) areGiven
    exact wellFormed_of_buildNamed each (except_toOption_eq_some_iff.1 isBuilt)
  | array element rank multiDimensional =>
    obtain ⟨e, isGiven, isBuilt⟩ := Option.bind_eq_some_iff.1 gives
    exact wellFormed_of_buildArray (earlier isGiven) (except_toOption_eq_some_iff.1 isBuilt)
  | pointer number | nullable number =>
    obtain ⟨e, isGiven, rfl⟩ := Option.map_eq_some_iff.1 gives
    have inner := earlier isGiven
    exact inner
  | nullableNamed argument =>
    obtain ⟨a, isGiven, rfl⟩ := Option.map_eq_some_iff.1 gives
    exact wellFormed_nullableNamed (wellFormed_of_argument h isGiven)
  | validate document => exact wellFormed_of_validate (except_toOption_eq_some_iff.1 gives)

theorem Results.WellFormed.perform (h : done.WellFormed) (call : Call) :
    (done.perform call).WellFormed := by
  intro d isResult
  rcases List.mem_append.1 isResult with before | last
  · exact h d before
  · exact wellFormed_of_call h (List.mem_singleton.1 last).symm

theorem Results.WellFormed.run (h : done.WellFormed) (calls : List Call) :
    (done.run calls).WellFormed := by
  induction calls generalizing done with
  | nil => exact h
  | cons call calls ih => exact ih (h.perform call)

end steps

/-! ### What display asks for -/

namespace Descriptor

theorem givesTokens_of_wellFormed {ε : Type} {token : Int → Except ε Text}
    (right : ∀ rank, 1 ≤ rank → token rank = .ok (rankToken rank)) {d : Descriptor}
    (h : WellFormed d) : GivesTokens token d := by
  rintro s occurs e rank m rfl
  exact right rank (h.of_occurs occurs).1

end Descriptor

open Descriptor

/-- However calls follow each other, what they give has positive ranks, levels and arguments of the
same kind at every depth.  Its display is the same with any source that has the tokens of positive
ranks, which are told apart by their commas. -/
theorem Results.run_wellFormed (calls : List Call) :
    (∀ d, some d ∈ Results.run [] calls →
      (∀ s, Occurs s d →
        (∀ e rank m, s = array e rank m → 1 ≤ rank) ∧
        ∀ segments levels valueType wellKnown, s = named segments levels valueType wellKnown →
          levels ≠ [] ∧ ∀ a ∈ argumentsOf levels, Descriptor.WellFormed a) ∧
      ∀ (ε : Type) (token : Int → Except ε Text),
        (∀ rank, 1 ≤ rank → token rank = .ok (rankToken rank)) →
        ∀ escaping, d.displayNameWith token escaping = (d.displayName escaping).mapError .inr) ∧
    (∀ rank, 1 ≤ rank → ((rankToken rank).count (.char ',') : Int) = rank - 1) ∧
    ∀ q r, 1 ≤ q → 1 ≤ r → rankToken q = rankToken r → q = r := by
  have kept : (Results.run [] calls).WellFormed := by
    apply Results.WellFormed.run
    simp [Results.WellFormed]
  refine ⟨fun d isResult ↦ ⟨fun s occurs ↦ ⟨?_, ?_⟩, ?_⟩, fun _ ↦ count_comma_rankToken,
    fun _ _ ↦ rankToken_inj⟩
  · rintro e rank m rfl
    exact ((kept d isResult).of_occurs occurs).1
  · rintro segments levels valueType wellKnown rfl
    obtain ⟨nonempty, each⟩ := (kept d isResult).of_occurs occurs
    exact ⟨nonempty, wellFormedLevels_iff.1 each⟩
  · intro ε token right escaping
    exact displayNameWith_eq (givesTokens_of_wellFormed right (kept d isResult)) escaping

open Document (text)

/-- A source of tokens that refuses the other ranks. -/
def guardedToken (rank : Int) : Except Int Text :=
  if 1 ≤ rank then .ok (rankToken rank) else .error rank

/-- Display does ask it for the rank of an array. -/
example : (array .void 0 false).displayNameWith guardedToken = .error (.inl 0) := by
  decide

/-- The third call fails.  The fourth uses what the second gave, and the last reads a document in
which the fourth one's is written out. -/
def mixedCalls : List Call :=
  [.primitive (text "int"), .array 0 (text "2") (.bool false), .array 1 (.int 0) (.bool false),
    .named "N" [⟨text "C", [.earlier 1, .name "T"]⟩, ⟨text "D", []⟩] .null,
    .validate fun done ↦
      record
        [("kind", text "array"), ("element_type", ((done.given? 3).map toDocument).getD .null),
          ("rank", .bool true)]]

theorem run_mixedCalls :
    let chain := named ["N"] [⟨"C", [array (primitive .int) 2 false, parameter "T"]⟩, ⟨"D", []⟩]
      none none
    Results.run [] mixedCalls =
        [some (primitive .int), some (array (primitive .int) 2 false), none, some chain,
          some (array chain 1 false)] ∧
      (array chain 1 false).displayName = .ok "N.C<int[,], T>.D[]" ∧
      (array chain 1 false).displayNameWith guardedToken = .ok "N.C<int[,], T>.D[]" := by
  intro chain
  have results : Results.run [] mixedCalls =
      [some (primitive .int), some (array (primitive .int) 2 false), none, some chain,
        some (array chain 1 false)] := by
    decide +kernel
  have shown : (array chain 1 false).displayName = .ok "N.C<int[,], T>.D[]" := by decide +kernel
  have isResult : some (array chain 1 false) ∈ Results.run [] mixedCalls := by simp [results]
  have guarded : ∀ rank, 1 ≤ rank → guardedToken rank = .ok (rankToken rank) :=
    fun rank positive ↦ if_pos positive
  refine ⟨results, shown, ?_⟩
  have same := ((Results.run_wellFormed mixedCalls).1 _ isResult).2 Int guardedToken guarded true
  rw [same, shown]
  rfl

end TypeDisplay
