import TypeDisplay.Keyword
import TypeDisplay.Proofs.Occurrence

/-!
# Words and lists in a text

A text that is read from the left can be split where a character decides that a word, or an item
of a list, has ended.  Identifiers without characters that have a meaning in names are words, and
the marker tells keywords apart from identifiers that are spelled like them.
-/

namespace TypeDisplay

namespace Text

/-- The characters that end an identifier in a name. -/
def delimiters : Text := ".<>,*[]?"

/-- The text is empty or begins with one of the marks. -/
def BeginsWith (marks : Text) (text : Text) : Prop :=
  ∀ p ∈ text.head?, p ∈ marks

@[simp] theorem beginsWith_nil (marks : Text) : BeginsWith marks [] := by
  simp [BeginsWith]

@[simp] theorem beginsWith_cons {marks text : Text} {p : CodePoint} :
    BeginsWith marks (p :: text) ↔ p ∈ marks := by
  simp [BeginsWith]

theorem BeginsWith.mono {marks more text : Text} (h : BeginsWith marks text)
    (sub : ∀ p ∈ marks, p ∈ more) : BeginsWith more text :=
  fun p isHead ↦ sub p (h p isHead)

/-- A text without delimiters in it. -/
def IsWord (text : Text) : Prop := ∀ p ∈ text, p ∉ delimiters

theorem IsWord.append_inj {u v r r' : Text} (hu : IsWord u) (hv : IsWord v)
    (hr : BeginsWith delimiters r) (hr' : BeginsWith delimiters r') (h : u ++ r = v ++ r') :
    u = v ∧ r = r' := by
  induction u generalizing v with
  | nil =>
    cases v with
    | nil => exact ⟨rfl, h⟩
    | cons q v =>
      obtain rfl : r = q :: (v ++ r') := h
      exact absurd (beginsWith_cons.1 hr) (hv q (by simp))
  | cons p u ih =>
    cases v with
    | nil =>
      obtain rfl : p :: (u ++ r) = r' := h
      exact absurd (beginsWith_cons.1 hr') (hu p (by simp))
    | cons q v =>
      obtain ⟨rfl, rest⟩ : p = q ∧ u ++ r = v ++ r' := by simpa using h
      obtain ⟨rfl, same⟩ := ih (fun c member ↦ hu c (by simp [member]))
        (fun c member ↦ hv c (by simp [member])) rest
      exact ⟨rfl, same⟩

/-! ### Lists -/

theorem intercalate_cons (sep a : Text) (rest : List Text) :
    sep.intercalate (a :: rest) = a ++ rest.flatMap (sep ++ ·) := by
  induction rest generalizing a with
  | nil => simp [List.intercalate]
  | cons b rest ih =>
    have inner := ih b
    simp only [List.intercalate] at inner
    simp [List.intercalate, inner]

section lists

variable {α : Type} {write : α → Text} {isValid : α → Prop} {marks ends sep : Text} {c : CodePoint}

/-- An item ends in one place when its text and what follows it can be told apart. -/
def EndsIn (write : α → Text) (isValid : α → Prop) (marks : Text) (a : α) : Prop :=
  ∀ b, isValid b → ∀ r r', BeginsWith marks r → BeginsWith marks r' →
    write a ++ r = write b ++ r' → a = b ∧ r = r'

/-- Items behind a first one, each with a separator in front. -/
def others (write : α → Text) (c : CodePoint) (sep : Text) (items : List α) : Text :=
  items.flatMap fun a ↦ c :: sep ++ write a

theorem beginsWith_others (isMark : c ∈ marks) (items : List α) {r : Text}
    (hr : BeginsWith marks r) : BeginsWith marks (others write c sep items ++ r) := by
  cases items with
  | nil => exact hr
  | cons a items => simpa [others] using isMark

/-- A list whose items end in one place ends in one place, when the mark in front of a further
item can follow an item and cannot follow the list. -/
theorem separated_append_inj (isMark : c ∈ marks) (isNoEnd : c ∉ ends)
    (areMarks : ∀ p ∈ ends, p ∈ marks) {a b : α} {as bs : List α}
    (each : ∀ x ∈ a :: as, EndsIn write isValid marks x) (valid : ∀ x ∈ b :: bs, isValid x)
    {r r' : Text} (hr : BeginsWith ends r) (hr' : BeginsWith ends r')
    (h : write a ++ (others write c sep as ++ r) = write b ++ (others write c sep bs ++ r')) :
    a :: as = b :: bs ∧ r = r' := by
  induction as generalizing a b bs with
  | nil =>
    obtain ⟨rfl, rest⟩ := each a (by simp) b (valid b (by simp)) _ _
      (hr.mono areMarks) (beginsWith_others isMark bs (hr'.mono areMarks)) h
    cases bs with
    | nil => exact ⟨rfl, rest⟩
    | cons x bs =>
      obtain rfl : r = c :: (sep ++ write x ++ others write c sep bs ++ r') := by
        simpa [others] using rest
      exact absurd (Text.beginsWith_cons.1 hr) isNoEnd
  | cons x as ih =>
    obtain ⟨rfl, rest⟩ := each a (by simp) b (valid b (by simp)) _ _
      (beginsWith_others isMark (x :: as) (hr.mono areMarks))
      (beginsWith_others isMark bs (hr'.mono areMarks)) h
    cases bs with
    | nil =>
      obtain rfl : c :: (sep ++ write x ++ others write c sep as ++ r) = r' := by
        simpa [others] using rest
      exact absurd (Text.beginsWith_cons.1 hr') isNoEnd
    | cons y bs =>
      obtain ⟨same, ended⟩ := ih (fun z member ↦ each z (List.mem_cons_of_mem _ member))
        (fun z member ↦ valid z (List.mem_cons_of_mem _ member)) (by simpa [others] using rest)
      exact ⟨by rw [same], ended⟩

end lists

end Text

/-! ### Identifiers -/

namespace Identifier

open Text (IsWord)

/-- An identifier without characters that have a meaning in names. -/
def IsPlain (identifier : Text) : Prop :=
  ∀ p ∈ identifier, p ∉ Text.delimiters ∧ p ≠ marker

theorem IsPlain.isWord_display {identifier : Text} (h : IsPlain identifier) :
    IsWord (display true identifier) := by
  have plain : IsWord identifier := fun p member ↦ (h p member).1
  rw [display]
  split
  · intro p member
    rcases List.mem_cons.1 member with rfl | inside
    · decide
    · exact plain p inside
  · exact plain

theorem IsPlain.display_inj {a b : Text} (ha : IsPlain a) (hb : IsPlain b)
    (h : display true a = display true b) : a = b := by
  cases keywordA : isKeyword a <;> cases keywordB : isKeyword b <;>
    simp only [display, keywordA, keywordB, Bool.and_true, Bool.and_false, Bool.false_eq_true,
      if_true, if_false] at h
  · exact h
  -- An identifier that is displayed like a marked one would hold the marker itself.
  · exact absurd rfl (ha marker (by simp [h])).2
  · exact absurd rfl (hb marker (by simp [← h])).2
  · exact (List.cons.inj h).2

instance (identifier : Text) : Decidable (IsPlain identifier) :=
  inferInstanceAs (Decidable (∀ p ∈ identifier, _))

theorem display_ne_keyword {word : String} (identifier : Text)
    (isMarked : word ∈ Keyword.marked) (isPlain : IsPlain word) :
    display true identifier ≠ word := by
  intro same
  cases keyword : isKeyword identifier with
  | true =>
    have marked : marker :: identifier = Text.ofString word := by
      simpa [display, keyword] using same
    exact absurd rfl (isPlain marker (by simp [← marked])).2
  | false =>
    obtain rfl : identifier = Text.ofString word := by simpa [display, keyword] using same
    simp [isKeyword, Text.string?_ofString, isMarked] at keyword

end Identifier

namespace Descriptor

/-- The identifiers of the outermost layer of a descriptor. -/
def ownIdentifiers : Descriptor → List Text
  | parameter name => [name]
  | named segments levels _ _ => segments ++ levels.map Level.name
  | _ => []

/-- No identifier at any depth holds a character that has a meaning in names. -/
def HasPlainIdentifiers (d : Descriptor) : Prop :=
  ∀ s, Occurs s d → ∀ identifier ∈ s.ownIdentifiers, Identifier.IsPlain identifier

theorem hasPlainIdentifiers_iff {d : Descriptor} :
    HasPlainIdentifiers d ↔ (∀ identifier ∈ d.ownIdentifiers, Identifier.IsPlain identifier) ∧
      ∀ c ∈ d.parts, HasPlainIdentifiers c :=
  forall_occurs_iff

end Descriptor
end TypeDisplay
