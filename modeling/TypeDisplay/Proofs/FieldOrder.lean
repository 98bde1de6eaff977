import TypeDisplay.Descriptor.Name
import TypeDisplay.Proofs.Alike

/-!
# Order of fields

Validation looks up the fields of a model and reads them in the order in which they are declared, so
the order in which a document gives them does not matter.  Only unknown keys are reported in the
order of the document.
-/

namespace TypeDisplay

open Checked
open Descriptor
open Document (Entry text)

/-- The keys are texts, and the same ones in another order. -/
structure ReorderedKeys (keys others : List Scalar) : Prop where
  perm : keys.Perm others
  areTexts : ∀ key ∈ keys, ∃ s, key = .text s

/-- The documents differ in the order of the entries of mappings that are read as models. -/
def SameFields : Document → Document → Prop :=
  Alike ReorderedKeys (fun _ _ ↦ False) .descriptor

theorem reorderedKeys_of_perm {names others : List String} (perm : names.Perm others) :
    ReorderedKeys (names.map fun name : String ↦ .text name)
      (others.map fun name : String ↦ .text name) :=
  ⟨perm.map _, by simp⟩

/-- Both details name an unknown key, and of the same mapping. -/
def AreUnknownTogether (d e : Detail) : Prop :=
  ∃ place s t, d = ⟨place ++ [.name s], .fieldUnknown⟩ ∧ e = ⟨place ++ [.name t], .fieldUnknown⟩

/-- The details are the same ones, and those that changed their order name unknown keys of the same
mapping. -/
structure Shuffled (details others : List Detail) : Prop where
  perm : details.Perm others
  order (d e : Detail) (apart : ¬ AreUnknownTogether d e) :
    [d, e].Sublist details ↔ [d, e].Sublist others

theorem pair_sublist_append_iff {d e : Detail} {details others : List Detail} :
    [d, e].Sublist (details ++ others) ↔
      [d, e].Sublist details ∨ (d ∈ details ∧ e ∈ others) ∨ [d, e].Sublist others := by
  constructor
  · intro h
    obtain ⟨front, back, split, isFront, isBack⟩ := List.sublist_append_iff.1 h
    rcases front with _ | ⟨a, _ | ⟨b, rest⟩⟩
    · rw [List.nil_append] at split
      exact .inr (.inr (split ▸ isBack))
    · simp only [List.cons_append, List.nil_append, List.cons.injEq] at split
      obtain ⟨rfl, rfl⟩ := split
      exact .inr (.inl ⟨List.singleton_sublist.1 isFront, List.singleton_sublist.1 isBack⟩)
    · simp only [List.cons_append, List.cons.injEq, List.nil_eq_append_iff] at split
      obtain ⟨rfl, rfl, rfl, rfl⟩ := split
      exact .inl isFront
  · rintro (h | ⟨inFirst, inSecond⟩ | h)
    · exact h.trans (List.sublist_append_left _ _)
    · exact (List.singleton_sublist.2 inFirst).append (List.singleton_sublist.2 inSecond)
    · exact h.trans (List.sublist_append_right _ _)

theorem pair_sublist_map_iff {f : Detail → Detail} {d e : Detail} {details : List Detail} :
    [d, e].Sublist (details.map f) ↔ ∃ a b, [a, b].Sublist details ∧ f a = d ∧ f b = e := by
  constructor
  · intro h
    obtain ⟨pair, isPair, same⟩ := List.sublist_map_iff.1 h
    rcases pair with _ | ⟨a, _ | ⟨b, _ | _⟩⟩ <;> simp at same
    exact ⟨a, b, isPair, same.1.symm, same.2.symm⟩
  · rintro ⟨a, b, isPair, rfl, rfl⟩
    exact isPair.map f

theorem AreUnknownTogether.under {d e : Detail} (h : AreUnknownTogether d e) (place : List Step) :
    AreUnknownTogether (d.under place) (e.under place) := by
  obtain ⟨inner, s, t, rfl, rfl⟩ := h
  exact ⟨place ++ inner, s, t, by simp [Detail.under], by simp [Detail.under]⟩

theorem isCongruence_shuffled : IsCongruence Shuffled where
  refl details := ⟨.refl _, fun _ _ _ ↦ Iff.rfl⟩
  append {details others details' others'} first second := by
    refine ⟨first.perm.append second.perm, fun d e apart ↦ ?_⟩
    rw [pair_sublist_append_iff, pair_sublist_append_iff, first.order d e apart,
      second.order d e apart, first.perm.mem_iff, second.perm.mem_iff]
  under {details others} related step := by
    refine ⟨related.perm.map _, fun d e apart ↦ ?_⟩
    rw [pair_sublist_map_iff, pair_sublist_map_iff]
    refine exists_congr fun a ↦ exists_congr fun b ↦ and_congr_left ?_
    rintro ⟨rfl, rfl⟩
    exact related.order a b fun together ↦ apart (together.under _)
  eq_nil_iff related := by
    rw [← List.length_eq_zero_iff, related.perm.length_eq, List.length_eq_zero_iff]

/-- Nothing else is reported in the order of the document. -/
theorem shuffled_unknownKeys {entries others : List Entry}
    (reordered : ReorderedKeys (entries.map Prod.fst) (others.map Prod.fst))
    (names : List String) : Shuffled (unknownKeys names entries) (unknownKeys names others) := by
  have together : ∀ {entries : List Entry}, (∀ key ∈ entries.map Prod.fst, ∃ s, key = .text s) →
      ∀ d e, [d, e].Sublist (unknownKeys names entries) → AreUnknownTogether d e := by
    intro entries areTexts d e isPair
    have areEntryTexts : ∀ entry ∈ entries, ∃ s, entry.1 = .text s :=
      fun entry member ↦ areTexts _ (List.mem_map_of_mem member)
    obtain ⟨s, rfl, -⟩ := mem_unknownKeys areEntryTexts (isPair.subset (by simp : d ∈ [d, e]))
    obtain ⟨t, rfl, -⟩ := mem_unknownKeys areEntryTexts (isPair.subset (by simp : e ∈ [_, e]))
    exact ⟨[], s, t, rfl, rfl⟩
  constructor
  · rw [unknownKeys_eq_filterMap, unknownKeys_eq_filterMap]
    exact reordered.perm.filterMap _
  · intro d e apart
    refine iff_of_false (fun isPair ↦ apart (together reordered.areTexts d e isPair)) ?_
    refine fun isPair ↦ apart (together (fun key member ↦ ?_) d e isPair)
    exact reordered.areTexts key (reordered.perm.mem_iff.2 member)

namespace Descriptor

/-- The order in which models have their fields decides neither what a document describes nor what
is wrong with it; only unknown keys of one mapping are reported in another order. -/
theorem validate_of_sameFields {v w : Document} (h : SameFields v w) :
    ((∃ d, validate v = .ok d ∧ validate w = .ok d) ∨
      ∃ details others, validate v = .error details ∧ validate w = .error others ∧
        Shuffled details others) ∧
    ∀ escaping d e, validate v = .ok d → validate w = .ok e →
      d.displayName escaping = e.displayName escaping := by
  have asRead : (validate v).Matches Shuffled (validate w) :=
    (Role.matchesIn_iff (by simp)).1
      (h.matchesIn isCongruence_shuffled (fun reordered _ ↦ reordered.perm.mem_iff)
        shuffled_unknownKeys (fun never ↦ never.elim) .whole)
  generalize validate v = x at asRead
  generalize validate w = y at asRead
  cases asRead with
  | ok d =>
    refine ⟨.inl ⟨d, rfl, rfl⟩, fun escaping e f isLeft isRight ↦ ?_⟩
    rw [← Except.ok.inj isLeft, ← Except.ok.inj isRight]
  | error related => exact ⟨.inr ⟨_, _, rfl, rfl, related⟩, fun _ _ _ isLeft ↦ nomatch isLeft⟩

/-- Any order of the entries of one mapping will do. -/
theorem sameFields_of_perm {entries others : List Entry}
    (distinct : (entries.map Prod.fst).Nodup) (areTexts : ∀ entry ∈ entries, ∃ s, entry.1 = .text s)
    (perm : entries.Perm others) : SameFields (.mapping entries) (.mapping others) := by
  refine .mapping rfl ⟨perm.map _, fun key member ↦ ?_⟩ fun key v w isEntry isOther ↦ ?_
  · obtain ⟨entry, isEntry, rfl⟩ := List.mem_map.1 member
    exact areTexts entry isEntry
  · have isEntry' := perm.mem_iff.2 isOther
    have same := List.inj_on_of_nodup_map distinct isEntry isEntry' rfl
    obtain rfl : v = w := (Prod.mk.inj same).2
    exact .same _ v

/-- Fields and unknown keys are mixed, in the list of levels as well. -/
def scattered : Document :=
  record
    [("more", .null),
      ("levels", .list [record [("b", .null), ("name", text "List"), ("a", .null)]]),
      ("kind", text "named"), ("extra", .null)]

def gathered : Document :=
  record
    [("kind", text "named"),
      ("levels", .list [record [("name", text "List"), ("a", .null), ("b", .null)]]),
      ("extra", .null), ("more", .null)]

theorem sameFields_scattered : SameFields scattered gathered := by
  have level : Alike ReorderedKeys (fun _ _ ↦ False) (.fields .level)
      (record [("b", .null), ("name", text "List"), ("a", .null)])
      (record [("name", text "List"), ("a", .null), ("b", .null)]) := by
    refine alike_record rfl (reorderedKeys_of_perm (by decide)) ?_
    simp [Alike.same]
  refine alike_record rfl (reorderedKeys_of_perm (by decide)) ?_
  -- Only the fields of the same name are left, and all but the levels have the same value.
  simp only [List.mem_cons, List.not_mem_nil, or_false, List.map_cons, List.map_nil,
    forall_eq_or_imp, forall_eq, String.reduceEq, IsEmpty.forall_iff, Alike.same, implies_true,
    and_self, forall_const, and_true, true_and]
  exact alike_list rfl (.cons level .nil)

def scatteredDetails (unknown : List String) (unknownInLevel : List String) : List Detail :=
  unknownInLevel.map (fun key ↦
      ⟨[.name "named", .name "levels", .index 0, .name key], .fieldUnknown⟩) ++
    [⟨[.name "named", .name "levels"], .noLevel⟩] ++
    unknown.map fun key ↦ ⟨[.name "named", .name key], .fieldUnknown⟩

/-- Unknown keys of the level and of the named type change their order, each among themselves. -/
theorem validate_scattered :
    SameFields scattered gathered ∧
      validate scattered = .error (scatteredDetails ["more", "extra"] ["b", "a"]) ∧
      validate gathered = .error (scatteredDetails ["extra", "more"] ["a", "b"]) ∧
      Shuffled (scatteredDetails ["more", "extra"] ["b", "a"])
        (scatteredDetails ["extra", "more"] ["a", "b"]) := by
  have failed : validate scattered = .error (scatteredDetails ["more", "extra"] ["b", "a"]) :=
    eq_error_of_details (by decide +kernel) (by decide)
  have failed' : validate gathered = .error (scatteredDetails ["extra", "more"] ["a", "b"]) :=
    eq_error_of_details (by decide +kernel) (by decide)
  refine ⟨sameFields_scattered, failed, failed', ?_⟩
  rcases (validate_of_sameFields sameFields_scattered).1 with valid | wrong
  · obtain ⟨d, isValid, -⟩ := valid
    rw [failed] at isValid
    cases isValid
  · obtain ⟨details, others, isLeft, isRight, shuffled⟩ := wrong
    rw [failed] at isLeft
    rw [failed'] at isRight
    rwa [Except.error.inj isLeft, Except.error.inj isRight]

end Descriptor
end TypeDisplay
