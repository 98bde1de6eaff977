import TypeDisplay.Proofs.Layers
import TypeDisplay.Proofs.Levels

/-!
# Rank tokens that display asks for

Display asks for a rank token where it peels an array, and nowhere else.  To say for which ranks, it
is written once more with a source of tokens that may fail.  With the right tokens for the arrays
inside a descriptor the same comes out, whatever the source does for other ranks.
-/

namespace TypeDisplay

theorem count_comma_rankToken {rank : Int} (positive : 1 ≤ rank) :
    ((rankToken rank).count (.char ',') : Int) = rank - 1 := by
  have brackets : CodePoint.char '[' ≠ .char ',' ∧ CodePoint.char ']' ≠ .char ',' := by decide
  have commas : (rankToken rank).count (.char ',') = (rank - 1).toNat := by
    simp [rankToken, brackets]
  omega

theorem rankToken_inj {q r : Int} (positiveQ : 1 ≤ q) (positiveR : 1 ≤ r)
    (same : rankToken q = rankToken r) : q = r := by
  have commasQ := count_comma_rankToken positiveQ
  have commasR := count_comma_rankToken positiveR
  rw [same] at commasQ
  omega

namespace Descriptor

variable {ε : Type}

mutual

/-- Writes a descriptor as `nameBefore` does, with rank tokens from another source. -/
def nameBeforeWith (token : Int → Except ε Text) (escaping : Bool) :
    Descriptor → (run layers : Text) → Except (ε ⊕ NameError) Text
  | pointer p, run, layers => nameBeforeWith token escaping p [] ("*" ++ (run ++ layers))
  | array e rank _, run, layers =>
      ((token rank).mapError .inl).bind fun text ↦
        nameBeforeWith token escaping e (run ++ text) layers
  | primitive type, run, layers => .ok (type.keyword ++ (run ++ layers))
  | void, run, layers => .ok ("void" ++ (run ++ layers))
  | parameter name, run, layers =>
      .ok (Identifier.display escaping name ++ (run ++ layers))
  | nullable u, run, layers =>
      if u.kind = .nullable then .error (.inr .nestedNullable)
      else if u.isValueType then
        (nameBeforeWith token escaping u [] []).map fun text ↦ text ++ "?" ++ (run ++ layers)
      else
        (nameBeforeWith token false u [] []).bind fun shown ↦
          .error (.inr (.notValueType shown))
  | named segments levels valueType wellKnown, run, layers =>
      if isNullableWrapper (named segments levels valueType wellKnown) then
        match levels with
        | [⟨_, [u]⟩] =>
            if u.kind = .nullable then .error (.inr .nestedNullable)
            else if u.isValueType then
              (nameBeforeWith token escaping u [] []).map fun text ↦
                text ++ "?" ++ (run ++ layers)
            else
              (nameBeforeWith token false u [] []).bind fun shown ↦
                .error (.inr (.notValueType shown))
        | _ => .error (.inr (.arity (argumentsOf levels).length levels.length))
      else
        (levelNamesWith token escaping levels).map fun texts ↦
          namedText escaping segments texts ++ (run ++ layers)

def levelNamesWith (token : Int → Except ε Text) (escaping : Bool) :
    List (Level Descriptor) → Except (ε ⊕ NameError) (List Text)
  | [] => .ok []
  | ⟨name, arguments⟩ :: rest =>
      (argumentNamesWith token escaping arguments).bind fun texts ↦
        (levelNamesWith token escaping rest).map fun others ↦
          levelText escaping name texts :: others

def argumentNamesWith (token : Int → Except ε Text) (escaping : Bool) :
    List Descriptor → Except (ε ⊕ NameError) (List Text)
  | [] => .ok []
  | d :: rest =>
      (nameBeforeWith token escaping d [] []).bind fun text ↦
        (argumentNamesWith token escaping rest).map fun others ↦ text :: others

end

def displayNameWith (token : Int → Except ε Text) (d : Descriptor) (escaping : Bool := true) :
    Except (ε ⊕ NameError) Text :=
  nameBeforeWith token escaping d [] []

/-- The source gives the right token for every array inside the descriptor. -/
def GivesTokens (token : Int → Except ε Text) (d : Descriptor) : Prop :=
  ∀ s, Occurs s d → ∀ e rank m, s = array e rank m → token rank = .ok (rankToken rank)

variable {token : Int → Except ε Text} {escaping : Bool}

theorem givesTokens_iff {d : Descriptor} :
    GivesTokens token d ↔
      (∀ e rank m, d = array e rank m → token rank = .ok (rankToken rank)) ∧
        ∀ c ∈ d.parts, GivesTokens token c :=
  forall_occurs_iff

/-- Both ways of display agree on a descriptor and whatever is pending around it. -/
def Agree (token : Int → Except ε Text) (d : Descriptor) : Prop :=
  ∀ escaping run layers,
    nameBeforeWith token escaping d run layers = (nameBefore escaping d run layers).mapError .inr

theorem argumentNamesWith_eq {arguments : List Descriptor}
    (each : ∀ a ∈ arguments, Agree token a) :
    argumentNamesWith token escaping arguments =
      (argumentNames escaping arguments).mapError .inr := by
  induction arguments with
  | nil => rfl
  | cons a arguments ih =>
    obtain ⟨first, rest⟩ := List.forall_mem_cons.1 each
    rw [argumentNamesWith, argumentNames, first, ih rest, except_mapError_bind]
    simp only [except_mapError_map]

theorem levelNamesWith_eq {levels : List (Level Descriptor)}
    (each : ∀ a ∈ argumentsOf levels, Agree token a) :
    levelNamesWith token escaping levels = (levelNames escaping levels).mapError .inr := by
  induction levels with
  | nil => rfl
  | cons level levels ih =>
    obtain ⟨name, arguments⟩ := level
    rw [argumentsOf, List.flatMap_cons, List.forall_mem_append] at each
    obtain ⟨inArguments, inRest⟩ := each
    rw [levelNamesWith, levelNames, argumentNamesWith_eq inArguments, ih inRest,
      except_mapError_bind]
    simp only [except_mapError_map]

theorem agree_nullable {u : Descriptor} (inner : Agree token u) : Agree token (nullable u) := by
  intro escaping run layers
  rw [nameBeforeWith, nameBefore, inner, inner]
  split
  · rfl
  split
  · rw [except_mapError_map]
  · rw [except_mapError_bind]
    rfl

/-- Display asks for no other tokens than those of the arrays inside the descriptor. -/
theorem agree_of_givesTokens {d : Descriptor} (h : GivesTokens token d) : Agree token d := by
  induction d using partsInduction with
  | step d ih =>
    obtain ⟨own, below⟩ := givesTokens_iff.1 h
    have inside : ∀ c ∈ d.parts, Agree token c := fun c isPart ↦ ih c isPart (below c isPart)
    cases d with
    | primitive _ | void | parameter _ =>
      intro escaping run layers
      rw [nameBeforeWith, nameBefore]
      rfl
    | pointer p =>
      intro escaping run layers
      rw [nameBeforeWith, nameBefore]
      exact inside p (by simp [parts]) _ _ _
    | array e rank m =>
      intro escaping run layers
      rw [nameBeforeWith, nameBefore, own e rank m rfl]
      exact inside e (by simp [parts]) _ _ _
    | nullable u => exact agree_nullable (inside u (by simp [parts]))
    | named segments levels valueType wellKnown =>
      intro escaping run layers
      rcases named_cases segments levels valueType wellKnown with
        ordinary | ⟨wrapper, ⟨name, u, rfl⟩ | other⟩
      · rw [nameBefore_named escaping ordinary, nameBeforeWith.eq_def]
        simp only [ordinary, Bool.false_eq_true, if_false]
        rw [levelNamesWith_eq inside, except_mapError_map]
      · have inner := agree_nullable (inside u (by simp [parts, argumentsOf])) escaping run layers
        rw [nameBeforeWith, nameBefore] at inner
        rw [nameBeforeWith, nameBefore, if_pos wrapper, if_pos wrapper]
        exact inner
      · rw [nameBefore_wrapper_arity escaping wrapper other, nameBeforeWith.eq_def]
        simp only [wrapper, if_true]
        rfl

theorem displayNameWith_eq {d : Descriptor} (h : GivesTokens token d) (escaping : Bool) :
    d.displayNameWith token escaping = (d.displayName escaping).mapError .inr :=
  agree_of_givesTokens h escaping [] []

theorem displayNameWith_rankToken (d : Descriptor) (escaping : Bool) :
    d.displayNameWith (fun rank ↦ (.ok (rankToken rank) : Except ε Text)) escaping =
      (d.displayName escaping).mapError .inr :=
  displayNameWith_eq (fun _ _ _ _ _ _ ↦ rfl) escaping

end Descriptor
end TypeDisplay
