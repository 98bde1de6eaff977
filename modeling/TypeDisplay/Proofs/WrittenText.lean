import TypeDisplay.Proofs.Reordering

/-!
# The characters of written documents

A written document holds printable ASCII and line feeds only, whatever the texts in it hold: a
text with any other character is written between double quotes, with an escape for each such
character.  This covers the documents that consist of mappings with words as keys, lists, texts,
integers, flags and null.
-/

namespace TypeDisplay
namespace Yaml
namespace Written

open Document (sortedItems_eq_map sortedEntries_eq_map)

/-- The characters that are written as they are. -/
def IsShown (c : Char) : Prop := needsEscape c = false

instance : DecidablePred IsShown := fun c ↦ inferInstanceAs (Decidable (needsEscape c = false))

/-- All characters are printable ASCII or line feeds. -/
def AreShown (cs : List Char) : Prop := ∀ c ∈ cs, IsShown c

instance (cs : List Char) : Decidable (AreShown cs) :=
  List.decidableBAll IsShown cs

@[simp] theorem areShown_nil : AreShown [] := by simp [AreShown]

@[simp] theorem areShown_cons {c : Char} {cs : List Char} :
    AreShown (c :: cs) ↔ IsShown c ∧ AreShown cs := by
  simp [AreShown]

@[simp] theorem areShown_append {cs ds : List Char} :
    AreShown (cs ++ ds) ↔ AreShown cs ∧ AreShown ds := by
  simp [AreShown, or_imp, forall_and]

theorem areShown_replicate {c : Char} (h : IsShown c) (n : Nat) :
    AreShown (List.replicate n c) := by
  intro d member
  obtain rfl := List.eq_of_mem_replicate member
  exact h

@[simp] theorem areShown_blanks (n : Nat) : AreShown (blanks n) :=
  areShown_replicate (by decide) n

@[simp] theorem areShown_newLine (indent : Nat) : AreShown (newLine indent) := by
  rw [newLine, areShown_cons]
  exact ⟨by decide, areShown_blanks indent⟩

/-! ### Escapes -/

theorem isShown_hexDigit {n : Nat} (h : n < 16) : IsShown (Text.hexDigit true n) := by
  have each : ∀ k : Fin 16, IsShown (Text.hexDigit true k) := by decide
  exact each ⟨n, h⟩

theorem areShown_hexDigits (width n : Nat) : AreShown (Text.hexDigits true width n) := by
  induction width generalizing n with
  | zero => exact areShown_nil
  | succ width ih =>
    rw [Text.hexDigits, areShown_append]
    refine ⟨ih (n / 16), ?_⟩
    rw [areShown_cons]
    exact ⟨isShown_hexDigit (Nat.mod_lt n (by decide)), areShown_nil⟩

theorem areShown_codeEscape (n : Nat) : AreShown (Text.codeEscape true n) := by
  have marks : AreShown ['\\', 'x', 'u', 'U'] := by decide
  have mark : ∀ c ∈ ['\\', 'x', 'u', 'U'], IsShown c := marks
  rw [Text.codeEscape]
  split
  · simp [areShown_hexDigits, mark]
  split
  · simp [areShown_hexDigits, mark]
  · simp [areShown_hexDigits, mark]

theorem areShown_charEscape (c : Char) : AreShown (charEscape c) := by
  unfold charEscape
  split
  case h_16 => exact areShown_codeEscape _
  all_goals simp only [areShown_cons, areShown_nil, and_true]; decide

theorem areShown_escape? {p : CodePoint} {shown : List Char} (h : escape? p = some shown) :
    AreShown shown := by
  cases p with
  | surrogate unit =>
    obtain rfl := Option.some.inj h
    exact areShown_codeEscape unit
  | char c =>
    rw [escape?] at h
    split at h
    · obtain rfl := Option.some.inj h
      exact areShown_charEscape c
    · cases h

theorem areShown_of_escape?_eq_none {p : CodePoint} (h : escape? p = none) :
    AreShown p.char?.toList := by
  cases p with
  | surrogate unit => cases h
  | char c =>
    rw [escape?] at h
    split at h
    · cases h
    · rename_i noEscape
      simp only [Bool.or_eq_true, not_or, Bool.not_eq_true] at noEscape
      simpa [CodePoint.char?, IsShown] using noEscape.2

theorem areShown_continueLine (indent : Nat) (next : Text) :
    AreShown (continueLine indent next).1 := by
  have mark : IsShown '\\' := by decide
  rw [continueLine]
  split <;> simp [mark]

theorem areShown_escapeFrom (indent column : Nat) (isFirst afterEscape : Bool) (t : Text) :
    AreShown (escapeFrom indent column isFirst afterEscape t) := by
  induction t generalizing column isFirst afterEscape with
  | nil => exact areShown_nil
  | cons p rest ih =>
    rw [escapeFrom]
    cases escaped : escape? p with
    | some shown =>
      simp only [areShown_append]
      refine ⟨⟨areShown_escape? escaped, ?_⟩, ih _ _ _⟩
      split
      · exact areShown_continueLine _ _
      · exact areShown_nil
    | none =>
      simp only [areShown_append]
      refine ⟨⟨?_, areShown_of_escape?_eq_none escaped⟩, ih _ _ _⟩
      split
      · exact areShown_continueLine _ _
      · exact areShown_nil

theorem areShown_doubleQuoted (indent column : Nat) (t : Text) :
    AreShown (doubleQuoted indent column t) := by
  have mark : IsShown '"' := by decide
  simp [doubleQuoted, areShown_escapeFrom, mark]

/-! ### Texts and scalars -/

theorem areShown_writeGap (indent column : Nat) (isInner : Bool) (gap : Gap) :
    AreShown (writeGap indent column isInner gap).1 := by
  cases gap with
  | spaces n =>
    rw [writeGap]
    split <;> simp
  | breaks n =>
    rw [writeGap]
    split
    · exact areShown_nil
    · rw [areShown_append]
      exact ⟨areShown_replicate (by decide) n, areShown_newLine indent⟩

theorem areShown_foldFrom (style : Style) (indent : Nat) {cs : List Char} (h : AreShown cs)
    (column : Nat) (isInner : Bool) (gap : Gap) :
    AreShown (foldFrom style indent column isInner gap cs) := by
  induction cs generalizing column isInner gap with
  | nil => exact areShown_writeGap _ _ _ _
  | cons c rest ih =>
    obtain ⟨first, others⟩ := areShown_cons.1 h
    rw [foldFrom]
    split
    · exact ih others _ _ _
    · have shown : AreShown (shownIn style c) := by
        rw [shownIn]
        split <;> simp [first]
      simp only [areShown_append]
      exact ⟨⟨areShown_writeGap _ _ _ _, shown⟩, ih others _ _ _⟩

theorem areShown_text (indent column : Nat) (t : Text) : AreShown (text indent column t) := by
  have mark : IsShown '\x27' := by decide
  rw [text]
  split
  · exact areShown_doubleQuoted _ _ _
  · rename_i cs _
    cases any : cs.any needsEscape with
    | true => simp [style, any, areShown_doubleQuoted]
    | false =>
      have shown : AreShown cs := by simpa [AreShown, IsShown] using any
      split
      · exact areShown_foldFrom _ _ shown _ _ _
      · simp [areShown_foldFrom, shown, mark]
      · exact areShown_doubleQuoted _ _ _

theorem areShown_toString_int (n : Int) : AreShown (toString n).toList := by
  have digits : ∀ k : Nat, AreShown k.repr.toList := by
    intro k c member
    rw [Nat.repr_eq_ofList_toDigits, String.toList_ofList] at member
    have isDigit := Nat.isDigit_of_mem_toDigits (by decide) (by decide) member
    simp only [Char.isDigit, Bool.and_eq_true, decide_eq_true_eq, UInt32.le_iff_toNat_le] at isDigit
    have low : 48 ≤ c.toNat := isDigit.1
    have high : c.toNat ≤ 57 := isDigit.2
    simp only [IsShown, needsEscape, Bool.and_eq_false_iff, Bool.not_eq_false', decide_eq_true_eq,
      Bool.and_eq_true]
    exact .inr ⟨by omega, by omega⟩
  have minus : IsShown '-' := by decide
  rw [Int.toString_eq_repr, Int.repr_eq_if]
  split
  · exact digits _
  · simpa [minus] using digits _

/-! ### Documents -/

/-- A document of mappings with words as keys, lists, texts, integers, flags and null. -/
inductive IsBasic : Document → Prop where
  | null : IsBasic .null
  | bool (b : Bool) : IsBasic (.bool b)
  | int (n : Int) : IsBasic (.int n)
  | text (t : Text) : IsBasic (.text t)
  | list {items : List Document} (each : ∀ x ∈ items, IsBasic x) : IsBasic (.list items)
  | mapping {entries : List Document.Entry}
      (words : ∀ key value, (key, value) ∈ entries → AreShown (Written.key key))
      (each : ∀ key value, (key, value) ∈ entries → IsBasic value) : IsBasic (.mapping entries)

theorem areShown_entries {column : Nat} {entries : List Document.Entry}
    (words : ∀ key value, (key, value) ∈ entries → AreShown (Written.key key))
    (each : ∀ key value, (key, value) ∈ entries → ∀ indent column,
      AreShown (valueAfter indent column value)) : AreShown (Written.entries column entries) := by
  have colon : IsShown ':' := by decide
  induction entries with
  | nil => simp [Written.entries]
  | cons entry rest ih =>
    obtain ⟨key, value⟩ := entry
    have shownRest : AreShown (Written.entries column rest) :=
      ih (fun k v member ↦ words k v (List.mem_cons_of_mem _ member))
        fun k v member ↦ each k v (List.mem_cons_of_mem _ member)
    have own : AreShown (Written.key key ++
        ':' :: valueAfter column (column + (Written.key key).length + 1) value) := by
      rw [areShown_append, areShown_cons]
      exact ⟨words key value (List.mem_cons_self ..), colon,
        each key value (List.mem_cons_self ..) _ _⟩
    cases rest with
    | nil =>
      rw [Written.entries, areShown_append]
      exact ⟨own, areShown_nil⟩
    | cons other rest =>
      rw [Written.entries]
      · exact areShown_append.2 ⟨own, areShown_append.2 ⟨areShown_blanks column, shownRest⟩⟩
      · simp

theorem areShown_itemLines {column : Nat} {items : List Document}
    (each : ∀ x ∈ items, ∀ indent, AreShown (itemAfter indent x)) :
    AreShown (itemLines column items) := by
  have mark : IsShown '-' := by decide
  induction items with
  | nil => simp [itemLines]
  | cons item rest ih =>
    have shownRest := ih fun x member ↦ each x (List.mem_cons_of_mem _ member)
    have own : AreShown ('-' :: itemAfter column item) :=
      areShown_cons.2 ⟨mark, each item (List.mem_cons_self ..) column⟩
    cases rest with
    | nil =>
      rw [itemLines, areShown_append]
      exact ⟨own, areShown_nil⟩
    | cons other rest =>
      rw [itemLines]
      · exact areShown_append.2 ⟨own, areShown_append.2 ⟨areShown_blanks column, shownRest⟩⟩
      · simp

/-- How a document is written behind a key and behind the mark of an item. -/
def IsShownBehind (x : Document) : Prop :=
  (∀ indent column, AreShown (valueAfter indent column x)) ∧
    ∀ indent, AreShown (itemAfter indent x)

theorem isShownBehind_scalar {s : Scalar}
    (h : ∀ indent column, AreShown (scalar indent column s)) : IsShownBehind (.scalar s) := by
  have gap : IsShown ' ' := by decide
  have ending : IsShown '\n' := by decide
  constructor
  · intro indent column
    rw [valueAfter]
    simp [h, gap, ending]
  · intro indent
    rw [itemAfter]
    simp [h, gap, ending]

theorem isShownBehind_of_isBasic {x : Document} (h : IsBasic x) : IsShownBehind x := by
  have gap : IsShown ' ' := by decide
  have noItems : AreShown " []\n".toList := by decide
  have noEntries : AreShown " \x7b\x7d\n".toList := by decide
  induction h with
  | null =>
    have word : AreShown "null".toList := by decide
    exact isShownBehind_scalar fun _ _ ↦ word
  | bool b =>
    have words : AreShown "true".toList ∧ AreShown "false".toList := by decide
    cases b with
    | true => exact isShownBehind_scalar fun _ _ ↦ words.1
    | false => exact isShownBehind_scalar fun _ _ ↦ words.2
  | int n => exact isShownBehind_scalar fun _ _ ↦ areShown_toString_int n
  | text t => exact isShownBehind_scalar fun indent column ↦ areShown_text indent column t
  | @list items _ ih =>
    have shown : ∀ column, AreShown (itemLines column items) :=
      fun column ↦ areShown_itemLines fun x member ↦ (ih x member).2
    cases items with
    | nil => exact ⟨fun _ _ ↦ by rwa [valueAfter], fun _ ↦ by rwa [itemAfter]⟩
    | cons item items =>
      constructor
      · intro indent column
        rw [valueAfter]
        simp [shown]
      · intro indent
        rw [itemAfter]
        simp [shown, gap]
  | @mapping entries words _ ih =>
    have shown : ∀ column, AreShown (Written.entries column entries) :=
      fun column ↦ areShown_entries words fun key value member ↦ (ih key value member).1
    cases entries with
    | nil => exact ⟨fun _ _ ↦ by rwa [valueAfter], fun _ ↦ by rwa [itemAfter]⟩
    | cons entry entries =>
      constructor
      · intro indent column
        rw [valueAfter]
        simp [shown]
      · intro indent
        rw [itemAfter]
        simp [shown, gap]

theorem areShown_lines {entries : List Document.Entry} (h : IsBasic (.mapping entries)) :
    AreShown (lines (.mapping entries)) := by
  cases h with
  | mapping words each =>
    cases entries with
    | nil => decide
    | cons entry rest =>
      rw [lines]
      exact areShown_entries words fun key value member ↦
        (isShownBehind_of_isBasic (each key value member)).1

theorem IsBasic.sorted {x : Document} (h : IsBasic x) : IsBasic (sorted x) := by
  induction h with
  | null => exact .null
  | bool b => exact .bool b
  | int n => exact .int n
  | text t => exact .text t
  | list _ ih =>
    rw [Written.sorted, sortedItems_eq_map]
    refine .list fun x member ↦ ?_
    obtain ⟨item, inItems, rfl⟩ := List.mem_map.1 member
    exact ih item inItems
  | @mapping entries words _ ih =>
    rw [Written.sorted, sortedEntries_eq_map]
    have source : ∀ key value,
        (key, value) ∈ (entries.map fun entry ↦ (entry.1, Written.sorted entry.2)).mergeSort
          (fun a b ↦ decide (keyWord a.1 ≤ keyWord b.1)) →
            ∃ inner, (key, inner) ∈ entries ∧ value = Written.sorted inner := by
      intro key value member
      obtain ⟨entry, inEntries, same⟩ := List.mem_map.1 (List.mem_mergeSort.1 member)
      obtain ⟨rfl, rfl⟩ := Prod.mk.inj same
      exact ⟨entry.2, inEntries, rfl⟩
    refine .mapping ?_ ?_
    · intro key value member
      obtain ⟨inner, inEntries, -⟩ := source key value member
      exact words key inner inEntries
    · intro key value member
      obtain ⟨inner, inEntries, rfl⟩ := source key value member
      exact ih key inner inEntries

end Written

/-- Everything that is written for a mapping is printable ASCII or a line feed. -/
theorem areShown_write {entries : List Document.Entry}
    (h : Written.IsBasic (.mapping entries)) : Written.AreShown (write (.mapping entries)) := by
  have basic := h.sorted
  rw [write]
  rw [Written.sorted] at basic ⊢
  exact Written.areShown_lines basic

end Yaml
end TypeDisplay
