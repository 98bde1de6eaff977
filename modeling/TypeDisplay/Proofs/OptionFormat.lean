import Mathlib.Data.List.Lex
import TypeDisplay.Options
import TypeDisplay.Proofs.ReadKeys

/-!
# The format of options

Options are read from nothing at all, or from a mapping in which no key but one is known, whose
value is a truth value.  A mapping with an unknown key is refused for its unknown keys, whatever
value the known key has, and all of them are listed by their texts in the order of code points.
Sorting makes the list the same for every order of the entries, as texts are the same when their
code points have the same numbers.

An integer that is too long to be written has no text.  Where it is an unknown key, nothing is
listed, and the error is not one that is reported.
-/

namespace TypeDisplay

open Document (Entry field?)

/-! ### Order of texts -/

namespace Text

def numbers (s : Text) : List Nat := s.map CodePoint.number

theorem isLessOrEqual_iff {s t : Text} : isLessOrEqual s t ↔ s.numbers ≤ t.numbers := by
  rw [← not_lt]
  induction s generalizing t with
  | nil => simp [isLessOrEqual, numbers]
  | cons p s ih =>
    cases t with
    | nil => simp [isLessOrEqual, numbers]
    | cons q t =>
      simp only [numbers] at ih
      simp only [isLessOrEqual, numbers, List.map_cons, Bool.or_eq_true, Bool.and_eq_true,
        decide_eq_true_eq, List.cons_lt_cons_iff, ih]
      rcases lt_trichotomy p.number q.number with below | same | above
      · simp [below, below.not_gt, below.ne']
      · simp [same]
      · simp [above, above.not_gt, above.ne']

theorem IsProper.eq_of_numbers {s t : Text} (h : s.IsProper) (h' : t.IsProper)
    (same : s.numbers = t.numbers) : s = t := by
  induction s generalizing t with
  | nil => simpa [numbers, eq_comm] using same
  | cons p s ih =>
    cases t with
    | nil => simp [numbers] at same
    | cons q t =>
      obtain ⟨first, rest⟩ := List.cons.inj same
      obtain ⟨isProper, areProper⟩ := List.forall_mem_cons.1 h
      obtain ⟨isProper', areProper'⟩ := List.forall_mem_cons.1 h'
      rw [CodePoint.number_inj isProper isProper' first, ih areProper areProper' rest]

end Text

theorem Scalar.IsProper.shown {s : Scalar} (h : s.IsProper) : s.shown.IsProper := by
  cases s with
  | text s => exact h
  | _ => exact Text.isProper_ofChars _

namespace Options

theorem perm_fieldTexts (keys : List Scalar) : (fieldTexts keys).Perm (keys.map Scalar.shown) :=
  List.mergeSort_perm _ _

theorem sorted_fieldTexts (keys : List Scalar) :
    (fieldTexts keys).Pairwise fun s t ↦ s.numbers ≤ t.numbers := by
  have trans (s t u : Text) :
      s.isLessOrEqual t = true → t.isLessOrEqual u = true → s.isLessOrEqual u = true := by
    simpa only [Text.isLessOrEqual_iff] using le_trans
  have total (s t : Text) : (s.isLessOrEqual t || t.isLessOrEqual s) = true := by
    simpa only [Bool.or_eq_true, Text.isLessOrEqual_iff] using le_total _ _
  have sorted := List.pairwise_mergeSort trans total (keys.map Scalar.shown)
  exact sorted.imp Text.isLessOrEqual_iff.1

/-! ### Known and unknown keys -/

/-- Any key but that of the flag. -/
def IsUnknown (key : Scalar) : Prop := key ≠ .text (.ofString escapeKey)

instance (key : Scalar) : Decidable (IsUnknown key) := inferInstanceAs (Decidable (_ ≠ _))

variable {entries others : List Entry} {label : Text}

theorem mem_unknownKeys {key : Scalar} :
    key ∈ unknownKeys entries ↔ IsUnknown key ∧ ∃ entry ∈ entries, entry.1 = key := by
  simp [unknownKeys, IsUnknown, and_comm]

theorem unknownKeys_eq_nil_iff :
    unknownKeys entries = [] ↔ ∀ entry ∈ entries, entry.1 = .text (.ofString escapeKey) := by
  simp [unknownKeys]

theorem perm_unknownKeys (perm : entries.Perm others) :
    (unknownKeys entries).Perm (unknownKeys others) :=
  (perm.map _).filter _

theorem ofEntries_of_unknown (unknown : unknownKeys entries ≠ []) :
    ofEntries label entries =
      if (unknownKeys entries).all Scalar.isWritable then
        .error (.unknownFields label (fieldTexts (unknownKeys entries)))
      else .error .unwritableField := by
  rw [ofEntries]
  split
  case h_1 isNil => exact absurd isNil unknown
  case h_2 => rfl

theorem ofEntries_flag (value : Document) :
    ofEntries label [(.text (.ofString escapeKey), value)] =
      match value with
      | .scalar (.bool b) => .ok ⟨b⟩
      | _ => .error (.notFlag label) := by
  simp only [ofEntries, unknownKeys, List.map_cons, List.map_nil, bne_self_eq_false,
    Bool.false_eq_true, not_false_eq_true, List.filter_cons_of_neg, List.filter_nil, field?,
    List.find?_cons, decide_true, Option.map_some]
  split <;> simp_all

/-- A mapping without unknown keys has one entry at most. -/
theorem entries_of_known (areKeys : AreKeys (entries.map Prod.fst))
    (known : unknownKeys entries = []) :
    entries = [] ∨ ∃ value, entries = [(.text (.ofString escapeKey), value)] := by
  have isFlag := unknownKeys_eq_nil_iff.1 known
  match entries with
  | [] => exact .inl rfl
  | [(key, value)] =>
    obtain rfl : key = .text (.ofString escapeKey) := isFlag (key, value) (by simp)
    exact .inr ⟨value, rfl⟩
  | first :: second :: rest =>
    have apart : first.1.sameKey second.1 = false := by
      have distinct := areKeys.distinct
      simp only [List.map_cons, List.pairwise_cons] at distinct
      exact distinct.1 second.1 (by simp)
    rw [isFlag first (by simp), isFlag second (by simp)] at apart
    simp [Scalar.sameKey, Scalar.integer?] at apart

/-! ### The format -/

/-- The documents that are read as options, and the options that they stand for. -/
inductive Describes : Document → Options → Prop where
  | nothing : Describes .null ⟨true⟩
  | unset : Describes (.mapping []) ⟨true⟩
  | set (b : Bool) : Describes (.mapping [(.text (.ofString escapeKey), .bool b)]) ⟨b⟩

/-- The fields are the texts of the unknown keys, each as often as it occurs, in the order of code
points. -/
structure Lists (fields : List Text) (entries : List Entry) : Prop where
  sorted : fields.Pairwise fun s t ↦ s.numbers ≤ t.numbers
  count (s : Text) :
    fields.count s = entries.countP fun entry ↦ IsUnknown entry.1 ∧ entry.1.shown = s

/-- What is wrong with a mapping that has unknown keys. -/
inductive Rejects (label : Text) (entries : List Entry) : OptionsError → Prop where
  | listed {fields : List Text} (lists : Lists fields entries)
      (areWritable : ∀ entry ∈ entries, IsUnknown entry.1 → entry.1.isWritable = true) :
      Rejects label entries (.unknownFields label fields)
  | unwritable {entry : Entry} (isEntry : entry ∈ entries) (unknown : IsUnknown entry.1)
      (isLong : entry.1.isWritable = false) : Rejects label entries .unwritableField

theorem lists_of_perm {fields : List Text}
    (sorted : fields.Pairwise fun s t ↦ s.numbers ≤ t.numbers)
    (perm : fields.Perm ((unknownKeys entries).map Scalar.shown)) : Lists fields entries := by
  refine ⟨sorted, fun s ↦ ?_⟩
  rw [perm.count_eq, List.count_eq_countP, List.countP_map, unknownKeys, List.countP_filter,
    List.countP_map]
  exact List.countP_congr fun entry _ ↦ by simp [IsUnknown, and_comm]

theorem lists_fieldTexts (entries : List Entry) :
    Lists (fieldTexts (unknownKeys entries)) entries :=
  lists_of_perm (sorted_fieldTexts _) (perm_fieldTexts _)

namespace Lists

variable {fields fields' : List Text}

/-- The order of the entries does not show. -/
theorem of_perm (h : Lists fields others) (perm : entries.Perm others) : Lists fields entries :=
  ⟨h.sorted, fun s ↦ (h.count s).trans (perm.countP_eq _).symm⟩

theorem isProper (h : Lists fields entries) (areKeys : AreKeys (entries.map Prod.fst)) {s : Text}
    (member : s ∈ fields) : s.IsProper := by
  have occurs : 0 < entries.countP fun entry ↦ IsUnknown entry.1 ∧ entry.1.shown = s := by
    rw [← h.count s]
    exact List.count_pos_iff.2 member
  obtain ⟨entry, isEntry, isShown⟩ := List.countP_pos_iff.1 occurs
  obtain ⟨-, rfl⟩ := of_decide_eq_true isShown
  exact (areKeys.areProper entry.1 (List.mem_map_of_mem isEntry)).shown

/-- There is one such list. -/
theorem eq (h : Lists fields entries) (h' : Lists fields' entries)
    (areKeys : AreKeys (entries.map Prod.fst)) : fields = fields' := by
  have perm : fields.Perm fields' :=
    List.perm_iff_count.2 fun s ↦ (h.count s).trans (h'.count s).symm
  refine perm.eq_of_pairwise (fun s t isField isField' below above ↦ ?_) h.sorted h'.sorted
  exact (h.isProper areKeys isField).eq_of_numbers (h'.isProper areKeys isField')
    (le_antisymm below above)

end Lists

theorem ofEntries_rejects (unknown : ∃ entry ∈ entries, IsUnknown entry.1) :
    ∃ e, ofEntries label entries = .error e ∧ Rejects label entries e := by
  obtain ⟨entry, isEntry, isUnknown⟩ := unknown
  have hasUnknown : unknownKeys entries ≠ [] := by
    intro isNil
    exact isUnknown (unknownKeys_eq_nil_iff.1 isNil entry isEntry)
  rw [ofEntries_of_unknown hasUnknown]
  split
  case isTrue writable =>
    refine ⟨_, rfl, .listed (lists_fieldTexts entries) fun other isOther isUnknown ↦ ?_⟩
    exact List.all_eq_true.1 writable _ (mem_unknownKeys.2 ⟨isUnknown, other, isOther, rfl⟩)
  case isFalse unwritable =>
    obtain ⟨key, isKey, isLong⟩ : ∃ key ∈ unknownKeys entries, key.isWritable = false := by
      simpa using unwritable
    obtain ⟨isUnknown, other, isOther, rfl⟩ := mem_unknownKeys.1 isKey
    exact ⟨_, rfl, .unwritable isOther isUnknown isLong⟩

/-- The first integer that is too long. -/
example : ofEntries "<string>" [(.int Scalar.writableBound, .null)] = .error .unwritableField := by
  decide +kernel

theorem ofEntries_eq_ok_iff (areKeys : AreKeys (entries.map Prod.fst)) {options : Options} :
    ofEntries label entries = .ok options ↔ Describes (.mapping entries) options := by
  constructor
  · intro isRead
    by_cases known : unknownKeys entries = []
    · rcases entries_of_known areKeys known with rfl | ⟨value, rfl⟩
      · obtain rfl := Except.ok.inj isRead
        exact .unset
      · rw [ofEntries_flag] at isRead
        split at isRead
        case h_1 b =>
          obtain rfl := Except.ok.inj isRead
          exact .set b
        case h_2 => cases isRead
    · rw [ofEntries_of_unknown known] at isRead
      split at isRead <;> cases isRead
  · intro describes
    cases describes with
    | unset => rfl
    | set b => exact ofEntries_flag (.bool b)

theorem ofDocument_eq_ok_iff {d : Document} (keys : d.HasKeys) {options : Options} :
    ofDocument label d = .ok options ↔ Describes d options := by
  unfold ofDocument
  split
  case h_1 =>
    constructor
    · rintro ⟨⟩
      exact .nothing
    · rintro ⟨⟩
      rfl
  case h_2 entries => exact ofEntries_eq_ok_iff keys
  case h_3 notNull notMapping =>
    refine iff_of_false (by simp) fun describes ↦ ?_
    cases describes with
    | nothing => exact notNull rfl
    | unset => exact notMapping _ rfl
    | set b => exact notMapping _ rfl

theorem ofEntries_eq_of_perm (areKeys : AreKeys (entries.map Prod.fst))
    (perm : entries.Perm others) : ofEntries label others = ofEntries label entries := by
  have reordered := perm_unknownKeys perm
  by_cases known : unknownKeys entries = []
  · rcases entries_of_known areKeys known with rfl | ⟨value, rfl⟩
    · rw [perm.nil_eq]
    · rw [List.perm_singleton.1 perm.symm]
  · have unknown : unknownKeys others ≠ [] := by
      rintro isNil
      rw [isNil] at reordered
      exact known reordered.eq_nil
    have sameTexts : fieldTexts (unknownKeys entries) = fieldTexts (unknownKeys others) :=
      (lists_fieldTexts entries).eq ((lists_fieldTexts others).of_perm perm) areKeys
    rw [ofEntries_of_unknown known, ofEntries_of_unknown unknown, reordered.all_eq, sameTexts]

theorem parse_of_read {text : Text} {linked : Linked} (isRead : Yaml.read text = .ok linked) :
    parse text label = ofDocument label linked.top := by
  rw [parse, isRead]

/-- A text gives options exactly when it describes them.  Where a key of its mapping is unknown, this
is the error, and the order of the entries does not matter. -/
theorem parse_format {text label : Text} {linked : Linked} (isRead : Yaml.read text = .ok linked) :
    (∀ options, parse text label = .ok options ↔ Describes linked.top options) ∧
      ∀ entries, linked.top = .mapping entries →
        ((∃ entry ∈ entries, IsUnknown entry.1) →
          ∃ e, parse text label = .error e ∧ Rejects label entries e) ∧
        ∀ others, entries.Perm others →
          ofDocument label (.mapping others) = parse text label := by
  have keys := Yaml.hasKeys_of_read isRead
  rw [parse_of_read isRead]
  refine ⟨fun options ↦ ofDocument_eq_ok_iff keys, fun entries isMapping ↦ ?_⟩
  rw [isMapping] at keys ⊢
  exact ⟨ofEntries_rejects, fun others perm ↦ ofEntries_eq_of_perm keys perm⟩

/-- Two unknown keys have the same text, and the flag is no truth value. -/
def mixedKeys : List (Scalar × Scalar) :=
  [(.text escapeKey, .int 0), (.bool true, .null), (.float (.ofDecimal false 15 (-1)), .null),
    (.text "True", .null)]

/-- How a mapping from scalars to scalars is read. -/
def linkedOf (entries : List (Scalar × Scalar)) : Linked :=
  let links := entries.zipIdx.map fun (entry, i) ↦ (entry.1, 2 * i + 2)
  let scalars := entries.flatMap fun entry ↦ [.scalar entry.1, .scalar entry.2]
  ⟨(.mapping links :: scalars).toArray, 0⟩

def mixedKeysText : Text := "escape-keywords: 0\ntrue:\n1.5:\n\"True\":"

def mixedKeysReversed : Text := "\"True\":\n1.5:\ntrue:\nescape-keywords: 0"

theorem parse_mixedKeys :
    Yaml.read mixedKeysText = .ok (linkedOf mixedKeys) ∧
      parse mixedKeysText = .error (.unknownFields "<string>" ["1.5", "True", "True"]) ∧
      parse mixedKeysReversed = parse mixedKeysText := by
  have isRead : Yaml.read mixedKeysText = .ok (linkedOf mixedKeys) := by decide +kernel
  have isReversed : Yaml.read mixedKeysReversed = .ok (linkedOf mixedKeys.reverse) := by
    decide +kernel
  let entries : List Entry := mixedKeys.map fun entry ↦ (entry.1, .scalar entry.2)
  obtain ⟨-, format⟩ := @parse_format mixedKeysText "<string>" _ isRead
  obtain ⟨unknown, order⟩ := format entries rfl
  refine ⟨isRead, ?_, ?_⟩
  · have isEntry : (.bool true, .scalar .null) ∈ entries := by simp [entries, mixedKeys]
    obtain ⟨e, fails, rejects⟩ := unknown ⟨_, isEntry, by decide⟩
    rw [fails]
    cases rejects with
    | listed lists _ =>
      have expected : Lists ["1.5", "True", "True"] entries :=
        lists_of_perm (by decide +kernel) (by decide +kernel)
      rw [lists.eq expected (Yaml.hasKeys_of_read isRead)]
    | unwritable isEntry _ isLong =>
      have areWritable : ∀ entry ∈ entries, entry.1.isWritable = true := by
        simp [entries, mixedKeys, Scalar.isWritable]
      rw [areWritable _ isEntry] at isLong
      cases isLong
  · rw [parse_of_read isReversed]
    exact order entries.reverse entries.reverse_perm.symm

end Options
end TypeDisplay
