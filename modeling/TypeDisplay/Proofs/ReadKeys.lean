import TypeDisplay.Proofs.ReadTexts
import TypeDisplay.Yaml.Building

/-!
# Keys that are read

An entry is put where its key is already, so no two keys of a mapping that was read are the same.
Two keys that are no number at all may stand beside each other, as nothing equals them.

The keys of a mapping are scalars that were read from nodes, so their texts consist of code points.
Composing nodes, merging mappings and completing collections keep this.
-/

namespace TypeDisplay

def Scalar.IsProper : Scalar → Prop
  | text s => Text.IsProper s
  | _ => True

/-- The scalars may be the keys of one mapping. -/
structure AreKeys (keys : List Scalar) : Prop where
  distinct : keys.Pairwise fun a b ↦ a.sameKey b = false
  areProper : ∀ key ∈ keys, key.IsProper

theorem areKeys_nil : AreKeys [] := ⟨.nil, by simp⟩

def Document.HasKeys : Document → Prop
  | .mapping entries => AreKeys (entries.map Prod.fst)
  | _ => True

/-- A scalar is proper, and the keys of a mapping are keys. -/
def LinkedValue.IsProper : LinkedValue → Prop
  | .scalar value => value.IsProper
  | .mapping entries => AreKeys (entries.map Prod.fst)
  | _ => True

namespace Yaml

/-! ### Nodes -/

def Shape.IsProper : Shape → Prop
  | scalar text => text.IsProper
  | _ => True

def AreProper (nodes : Array Node) : Prop := ∀ number, (nodeAt nodes number).shape.IsProper

theorem areProper_empty : AreProper #[] := fun _ ↦ Text.isProper_nil

theorem AreProper.push {nodes : Array Node} (h : AreProper nodes) {node : Node}
    (isProper : node.shape.IsProper) : AreProper (nodes.push node) := by
  intro number
  rw [nodeAt, Array.getElem?_push]
  split
  · exact isProper
  · exact h number

theorem AreProper.modify {nodes : Array Node} (h : AreProper nodes) {f : Node → Node}
    (each : ∀ node, node.shape.IsProper → (f node).shape.IsProper) (number : Nat) :
    AreProper (nodes.modify number f) := by
  intro other
  have before := h other
  rw [nodeAt] at before ⊢
  rw [Array.getElem?_modify]
  split
  case isTrue =>
    cases found : nodes[other]? with
    | none => exact Text.isProper_nil
    | some node =>
      rw [found] at before
      exact each node before
  case isFalse => exact before

/-- The tokens that are left and the nodes have texts of code points. -/
structure Composition.IsProper (s : Composition) : Prop where
  rest : ∀ t ∈ s.rest, t.IsProper
  nodes : AreProper s.nodes

namespace Composition

variable {α : Type}

theorem ensures_refuse {post : α → Prop} : Ensures IsProper refuse post :=
  .throw _

theorem ensures_peek : Ensures IsProper peek Token.IsProper := by
  refine Ensures.get.bind fun s isProper ↦ ?_
  split
  case h_1 => exact .throw _
  case h_2 t rest _ here =>
    refine .pure (isProper.rest t ?_)
    rw [here]
    exact List.mem_cons_self
  case h_3 => exact ensures_refuse

theorem keeps_advance : Keeps IsProper advance :=
  .modify fun _ h ↦ ⟨fun t member ↦ h.rest t (List.mem_of_mem_tail member), h.nodes⟩

theorem keeps_nextIs (stops : List Token) : Keeps IsProper (nextIs stops) :=
  ensures_peek.keeps.bind fun _ ↦ .pure trivial

theorem keeps_add (anchor : Option String) {node : Node} (isProper : node.shape.IsProper) :
    Keeps IsProper (add anchor node) := by
  refine Ensures.get.bind fun s h ↦ ?_
  have added : AreProper (s.nodes.push node) := h.nodes.push isProper
  cases anchor with
  | none => exact (Keeps.set ⟨h.rest, added⟩).bind fun _ ↦ .pure trivial
  | some name =>
    refine .ite (.throw _) ?_
    exact (Keeps.set ⟨h.rest, added⟩).bind fun _ ↦ .pure trivial

theorem keeps_complete (number : Nat) {shape : Shape} (isProper : shape.IsProper) :
    Keeps IsProper (complete number shape) :=
  .modify fun _ h ↦ ⟨h.rest, h.nodes.modify (fun _ _ ↦ isProper) number⟩

theorem keeps_refer (name : String) : Keeps IsProper (refer name) := by
  refine Ensures.get.keeps.bind fun s ↦ ?_
  split
  · exact .pure trivial
  · exact .throw _

theorem keeps_addEmpty : Keeps IsProper addEmpty :=
  keeps_add none Text.isProper_nil

theorem keeps_addScalar (p : Properties) {text : Text} (isProper : text.IsProper) (isPlain : Bool) :
    Keeps IsProper (p.addScalar text isPlain) :=
  keeps_add _ isProper

/-- A collection is added empty and completed with its parts. -/
theorem keeps_addCollection (anchor : Option String) (empty : Node)
    (isProper : empty.shape.IsProper) {parts : Composing α} (h : Keeps IsProper parts)
    (shape : α → Shape) (each : ∀ a, (shape a).IsProper) :
    Keeps IsProper (do
      let number ← add anchor empty
      let items ← parts
      complete number (shape items)
      return number) := by
  refine (keeps_add anchor isProper).bind fun number ↦ h.bind fun items ↦ ?_
  exact (keeps_complete number (each items)).bind fun _ ↦ .pure trivial

theorem keeps_addList (p : Properties) {items : Composing (List Nat)} (h : Keeps IsProper items) :
    Keeps IsProper (p.addList items) :=
  keeps_addCollection p.anchor ⟨_, .list []⟩ trivial h .list fun _ ↦ trivial

theorem keeps_addMapping (p : Properties) {entries : Composing (List (Nat × Nat))}
    (h : Keeps IsProper entries) : Keeps IsProper (p.addMapping entries) :=
  keeps_addCollection p.anchor ⟨_, .mapping []⟩ trivial h .mapping fun _ ↦ trivial

theorem keeps_fullName (handles : Handles) (handle : Option String) (suffix : String) :
    Keeps IsProper (fullName handles handle suffix) := by
  unfold fullName
  split
  · exact .pure trivial
  · split
    · exact .pure trivial
    · exact ensures_refuse

theorem keeps_properties (handles : Handles) : Keeps IsProper (properties handles) := by
  refine ensures_peek.keeps.bind fun first ↦ ?_
  split
  · refine keeps_advance.bind fun _ ↦ ensures_peek.keeps.bind fun second ↦ ?_
    split
    · exact keeps_advance.bind fun _ ↦ (keeps_fullName _ _ _).bind fun _ ↦ .pure trivial
    · exact .pure trivial
  · refine keeps_advance.bind fun _ ↦ ensures_peek.keeps.bind fun second ↦ ?_
    split
    · exact keeps_advance.bind fun _ ↦ (keeps_fullName _ _ _).bind fun _ ↦ .pure trivial
    · exact (keeps_fullName _ _ _).bind fun _ ↦ .pure trivial
  · exact .pure trivial

theorem keeps_passComma (isFirst : Bool) : Keeps IsProper (passComma isFirst) := by
  refine .ite (ensures_peek.keeps.bind fun next ↦ ?_) (.pure trivial)
  split
  · exact keeps_advance
  · exact ensures_refuse

/-- What the readers of trees keep when they have a given amount of fuel. -/
structure ReadersKeep (handles : Handles) (fuel : Nat) : Prop where
  node (place : Place) : Keeps IsProper (readNode handles fuel place)
  optional (stops : List Token) (place : Place) :
    Keeps IsProper (readUnless handles fuel stops place)
  value (stops : List Token) (place : Place) : Keeps IsProper (readValue handles fuel stops place)
  items : Keeps IsProper (readItems handles fuel)
  flatItems : Keeps IsProper (readFlatItems handles fuel)
  entries : Keeps IsProper (readEntries handles fuel)
  flowItems (isFirst : Bool) : Keeps IsProper (readFlowItems handles fuel isFirst)
  flowEntries (isFirst : Bool) : Keeps IsProper (readFlowEntries handles fuel isFirst)

namespace ReadersKeep

variable {handles : Handles} {fuel : Nat}

theorem succ_node (h : ReadersKeep handles fuel) (place : Place) :
    Keeps IsProper (readNode handles (fuel + 1) place) := by
  rw [readNode]
  refine ensures_peek.keeps.bind fun first ↦ ?_
  split
  · exact keeps_advance.bind fun _ ↦ keeps_refer _
  refine (keeps_properties handles).bind fun p ↦ ensures_peek.bind fun next isProper ↦ ?_
  split
  · exact keeps_advance.bind fun _ ↦ keeps_addScalar p isProper _
  · exact keeps_addList p (keeps_advance.bind fun _ ↦ h.flowItems true)
  · exact keeps_addMapping p (keeps_advance.bind fun _ ↦ h.flowEntries true)
  · exact keeps_addList p h.flatItems
  · exact keeps_addList p (keeps_advance.bind fun _ ↦ h.items)
  · exact keeps_addList p (keeps_advance.bind fun _ ↦ h.items)
  · exact keeps_addMapping p (keeps_advance.bind fun _ ↦ h.entries)
  · exact keeps_addMapping p (keeps_advance.bind fun _ ↦ h.entries)
  · exact .ite (keeps_addScalar p Text.isProper_nil true) ensures_refuse

theorem succ_optional (h : ReadersKeep handles fuel) (stops : List Token) (place : Place) :
    Keeps IsProper (readUnless handles (fuel + 1) stops place) := by
  rw [readUnless]
  exact (keeps_nextIs stops).bind fun isStop ↦ .ite keeps_addEmpty (h.node place)

theorem succ_value (h : ReadersKeep handles fuel) (stops : List Token) (place : Place) :
    Keeps IsProper (readValue handles (fuel + 1) stops place) := by
  rw [readValue]
  refine ensures_peek.keeps.bind fun next ↦ ?_
  split
  · exact keeps_advance.bind fun _ ↦ h.optional stops place
  · exact keeps_addEmpty

theorem succ_items (h : ReadersKeep handles fuel) :
    Keeps IsProper (readItems handles (fuel + 1)) := by
  rw [readItems]
  refine ensures_peek.keeps.bind fun next ↦ ?_
  split
  · exact keeps_advance.bind fun _ ↦ .pure trivial
  · refine keeps_advance.bind fun _ ↦ (h.optional _ _).bind fun item ↦ ?_
    exact h.items.bind fun _ ↦ .pure trivial
  · exact ensures_refuse

theorem succ_flatItems (h : ReadersKeep handles fuel) :
    Keeps IsProper (readFlatItems handles (fuel + 1)) := by
  rw [readFlatItems]
  refine ensures_peek.keeps.bind fun next ↦ ?_
  split
  · refine keeps_advance.bind fun _ ↦ (h.optional _ _).bind fun item ↦ ?_
    exact h.flatItems.bind fun _ ↦ .pure trivial
  · exact .pure trivial

theorem succ_entries (h : ReadersKeep handles fuel) :
    Keeps IsProper (readEntries handles (fuel + 1)) := by
  rw [readEntries]
  refine ensures_peek.keeps.bind fun next ↦ ?_
  split
  · exact keeps_advance.bind fun _ ↦ .pure trivial
  · refine keeps_advance.bind fun _ ↦ (h.optional _ _).bind fun key ↦ ?_
    refine (h.value _ _).bind fun value ↦ ?_
    exact h.entries.bind fun _ ↦ .pure trivial
  · exact ensures_refuse

theorem succ_flowItems (h : ReadersKeep handles fuel) (isFirst : Bool) :
    Keeps IsProper (readFlowItems handles (fuel + 1) isFirst) := by
  rw [readFlowItems]
  refine (keeps_nextIs _).bind fun isEnd ↦ ?_
  refine .ite (keeps_advance.bind fun _ ↦ .pure trivial) ?_
  refine (keeps_passComma isFirst).bind fun _ ↦ ensures_peek.keeps.bind fun next ↦ ?_
  split
  · exact keeps_advance.bind fun _ ↦ .pure trivial
  · refine (keeps_addMapping _ ?_).bind fun item ↦ (h.flowItems false).bind fun _ ↦ .pure trivial
    refine keeps_advance.bind fun _ ↦ (h.optional _ _).bind fun key ↦ ?_
    exact (h.value _ _).bind fun value ↦ .pure trivial
  · exact (h.node _).bind fun item ↦ (h.flowItems false).bind fun _ ↦ .pure trivial

theorem succ_flowEntries (h : ReadersKeep handles fuel) (isFirst : Bool) :
    Keeps IsProper (readFlowEntries handles (fuel + 1) isFirst) := by
  rw [readFlowEntries]
  refine (keeps_nextIs _).bind fun isEnd ↦ ?_
  refine .ite (keeps_advance.bind fun _ ↦ .pure trivial) ?_
  refine (keeps_passComma isFirst).bind fun _ ↦ ensures_peek.keeps.bind fun next ↦ ?_
  split
  · exact keeps_advance.bind fun _ ↦ .pure trivial
  · refine keeps_advance.bind fun _ ↦ (h.optional _ _).bind fun key ↦ ?_
    refine (h.value _ _).bind fun value ↦ ?_
    exact (h.flowEntries false).bind fun _ ↦ .pure trivial
  · refine (h.node _).bind fun key ↦ ensures_peek.keeps.bind fun _ ↦ ?_
    exact keeps_addEmpty.bind fun value ↦ (h.flowEntries false).bind fun _ ↦ .pure trivial

end ReadersKeep

theorem readersKeep (handles : Handles) (fuel : Nat) : ReadersKeep handles fuel := by
  -- The readers call each other with less fuel, so the induction is on all of them together.
  induction fuel with
  | zero => constructor <;> intros <;> exact ensures_refuse
  | succ fuel ih =>
    exact ⟨ih.succ_node, ih.succ_optional, ih.succ_value, ih.succ_items, ih.succ_flatItems,
      ih.succ_entries, ih.succ_flowItems, ih.succ_flowEntries⟩

theorem keeps_directives (fuel : Nat) (hasVersion : Bool) (own : Handles) :
    Keeps IsProper (directives fuel hasVersion own) := by
  induction fuel generalizing hasVersion own with
  | zero => exact ensures_refuse
  | succ fuel ih =>
    rw [directives]
    refine ensures_peek.keeps.bind fun next ↦ ?_
    split
    · exact keeps_advance.bind fun _ ↦ .ite ensures_refuse (ih _ _)
    · exact keeps_advance.bind fun _ ↦ .ite ensures_refuse (ih _ _)
    · exact keeps_advance.bind fun _ ↦ ih _ _
    · exact .pure trivial

theorem keeps_finish (fuel : Nat) : Keeps IsProper (finish fuel) := by
  induction fuel with
  | zero => exact ensures_refuse
  | succ fuel ih =>
    rw [finish]
    refine ensures_peek.keeps.bind fun next ↦ ?_
    split
    · exact keeps_advance.bind fun _ ↦ ih
    · exact .pure trivial
    · exact (keeps_directives _ _ _).bind fun _ ↦ ensures_refuse

theorem keeps_readDocument (fuel : Nat) : Keeps IsProper (readDocument fuel) := by
  refine ensures_peek.keeps.bind fun first ↦ .ite (.pure trivial) ?_
  have ending (root : Nat) : Keeps IsProper (do finish fuel; return some root) :=
    (keeps_finish fuel).bind fun _ ↦ .pure trivial
  refine .ite ?_ (((readersKeep _ _).node _).bind ending)
  refine (keeps_directives _ _ _).bind fun handles ↦ ensures_peek.keeps.bind fun next ↦ ?_
  split
  · refine keeps_advance.bind fun _ ↦ ensures_peek.keeps.bind fun next ↦ ?_
    exact .ite (keeps_addEmpty.bind ending) (((readersKeep _ _).node _).bind ending)
  · exact ensures_refuse

end Composition

theorem areProper_of_ofTokens {tokens : List Token} (areTokens : ∀ t ∈ tokens, t.IsProper)
    {graph : Graph} (isGraph : Graph.ofTokens tokens = .ok (some graph)) :
    AreProper graph.nodes := by
  obtain ⟨⟨root, s⟩, isRead, same⟩ := except_bind_eq_ok_iff.1 isGraph
  have kept := Composition.keeps_readDocument _ _ ⟨areTokens, areProper_empty⟩ _ isRead
  obtain ⟨number, -, rfl⟩ := Option.map_eq_some_iff.1 (Except.ok.inj same)
  exact kept.2.nodes

/-! ### Merged mappings -/

namespace Merging

variable {number : Nat}

theorem keeps_entries (number : Nat) : Keeps AreProper (entries number) :=
  Ensures.get.bind fun _ _ ↦ .pure trivial

theorem keeps_setEntries (number : Nat) (entries : List (Nat × Nat)) :
    Keeps AreProper (setEntries number entries) :=
  .modify fun _ h ↦ h.modify (f := fun node ↦ ⟨node.tag, .mapping entries⟩)
    (fun _ _ ↦ trivial) number

theorem keeps_takeMerge (number : Nat) : Keeps AreProper (takeMerge number) := by
  refine Ensures.get.bind fun nodes _ ↦ ?_
  dsimp only
  split
  · exact .pure trivial
  · exact (keeps_setEntries _ _).bind fun _ ↦ .pure trivial

theorem keeps_settleKeys (number : Nat) : Keeps AreProper (settleKeys number) := by
  refine (keeps_entries number).bind fun entries ↦ ?_
  refine (Keeps.forIn (fun entry _ ↦ ?_) entries _).bind fun _ ↦ .pure trivial
  refine Keeps.bind (.modify fun nodes h ↦ h.modify (fun node isProper ↦ ?_) _) fun _ ↦
    .pure trivial
  split <;> exact isProper

theorem keeps_flatten (fuel number : Nat) : Keeps AreProper (flatten fuel number) := by
  induction fuel generalizing number with
  | zero => exact .throw _
  | succ fuel ih =>
    rw [flatten]
    refine (keeps_takeMerge number).bind fun merged ↦ ?_
    split
    · exact keeps_settleKeys number
    refine Ensures.get.bind fun nodes _ ↦ ?_
    have ending (added : List (Nat × Nat)) : Keeps AreProper (do
        flatten fuel number
        setEntries number (added ++ (← entries number))) :=
      (ih number).bind fun _ ↦ (keeps_entries number).bind fun _ ↦ keeps_setEntries _ _
    split
    · exact (ih _).bind fun _ ↦ (keeps_entries _).bind ending
    · refine (Keeps.mapM (fun item ↦ ?_) _).bind fun parts ↦ ending _
      refine Ensures.get.bind fun nodes _ ↦ ?_
      split
      · exact (ih item).bind fun _ ↦ keeps_entries item
      · exact .throw _
    · exact .throw _

end Merging

theorem AreProper.flattened {nodes : Array Node} (h : AreProper nodes) (number : Nat) :
    Yields (flattened nodes number) AreProper :=
  (Merging.keeps_flatten _ number nodes h).bind fun _ both ↦ .ok both.2

/-! ### Values -/

theorem value_flag_yields (text : Text) : Yields (Value.flag text) Scalar.IsProper :=
  .ite (.ok trivial) (.ite (.ok trivial) (.error _))

theorem value_integer_yields (text : Text) : Yields (Value.integer text) Scalar.IsProper :=
  (Yields.trivial _).bind fun _ _ ↦ (Yields.trivial _).bind fun _ _ ↦ .ok trivial

theorem value_float_yields (text : Text) : Yields (Value.float text) Scalar.IsProper :=
  (Yields.trivial _).bind fun _ _ ↦ (Yields.trivial _).bind fun _ _ ↦ .ok trivial

theorem value_timestamp_yields (text : Text) : Yields (Value.timestamp text) Scalar.IsProper := by
  rw [Value.timestamp]
  split
  · exact .error _
  split
  · exact .ok trivial
  · exact .ok trivial
  · exact .error _

theorem value_octets_yields (text : Text) : Yields (Value.octets text) Scalar.IsProper := by
  rw [Value.octets]
  split
  · exact .error _
  split
  · exact .ok trivial
  · exact .error _

theorem value_ofText_yields (tag : Tag) {text : Text} (isProper : text.IsProper) :
    Yields (Value.ofText tag text) Scalar.IsProper := by
  cases tag with
  | null => exact .ok trivial
  | flag => exact (value_flag_yields text).mapError _
  | integer => exact (value_integer_yields text).mapError _
  | float => exact (value_float_yields text).mapError _
  | timestamp => exact (value_timestamp_yields text).mapError _
  | octets => exact value_octets_yields text
  | text => exact .ok isProper
  | _ => exact .error _

/-! ### Collections -/

/-- No key is there twice. -/
def AreDistinct (entries : List (Key × Nat)) : Prop :=
  entries.Pairwise fun a b ↦ a.1.same b.1 = false

theorem mem_putKey {entries : List (Key × Nat)} {key : Key} {value : Nat} {entry : Key × Nat}
    (member : entry ∈ putKey entries key value) :
    entry.1 = key ∨ ∃ other ∈ entries, other.1 = entry.1 := by
  induction entries with
  | nil =>
    obtain rfl := List.mem_singleton.1 member
    exact .inl rfl
  | cons first rest ih =>
    rw [putKey] at member
    split at member
    · rcases List.mem_cons.1 member with rfl | inRest
      · exact .inr ⟨first, by simp, rfl⟩
      · exact .inr ⟨entry, by simp [inRest], rfl⟩
    · rcases List.mem_cons.1 member with rfl | inRest
      · exact .inr ⟨entry, by simp, rfl⟩
      · rcases ih inRest with isKey | ⟨other, isOther, same⟩
        · exact .inl isKey
        · exact .inr ⟨other, by simp [isOther], same⟩

theorem AreDistinct.putKey {entries : List (Key × Nat)} (h : AreDistinct entries) (key : Key)
    (value : Nat) : AreDistinct (putKey entries key value) := by
  induction entries with
  | nil => exact List.pairwise_singleton _ _
  | cons first rest ih =>
    obtain ⟨apart, others⟩ := List.pairwise_cons.1 h
    rw [Yaml.putKey]
    split
    case isTrue => exact List.pairwise_cons.2 ⟨apart, others⟩
    case isFalse isOther =>
      refine List.pairwise_cons.2 ⟨fun entry member ↦ ?_, ih others⟩
      rcases mem_putKey member with rfl | ⟨other, inRest, same⟩
      · simpa using isOther
      · rw [← same]
        exact apart other inRest

/-- The entries so far may be those of a mapping. -/
structure AreEntries (entries : List (Key × Nat)) : Prop where
  distinct : AreDistinct entries
  areProper : ∀ entry ∈ entries, entry.1.value.IsProper

theorem areEntries_nil : AreEntries [] := ⟨.nil, by simp⟩

theorem AreEntries.putKey {entries : List (Key × Nat)} (h : AreEntries entries) {key : Key}
    (isProper : key.value.IsProper) (value : Nat) : AreEntries (putKey entries key value) := by
  refine ⟨h.distinct.putKey key value, fun entry member ↦ ?_⟩
  rcases mem_putKey member with rfl | ⟨other, isOther, same⟩
  · exact isProper
  · rw [← same]
    exact h.areProper other isOther

theorem AreEntries.areKeys {entries : List (Key × Nat)} (h : AreEntries entries) :
    AreKeys (entries.map fun entry ↦ entry.1.value) := by
  constructor
  · rw [List.pairwise_map]
    refine h.distinct.imp fun {a b} isOther ↦ ?_
    simp only [Key.same, Bool.or_eq_false_iff] at isOther
    exact isOther.1
  · intro key member
    obtain ⟨entry, isEntry, rfl⟩ := List.mem_map.1 member
    exact h.areProper entry isEntry

structure Building.IsProper (s : Building) : Prop where
  nodes : AreProper s.nodes
  values : ∀ (number : Nat) (value : LinkedValue × Option Nat),
    (s.values[number]?).join = some value → value.1.IsProper

namespace Building

theorem ensures_refuse {α : Type} {post : α → Prop} (cause : Malformed) :
    Ensures IsProper (refuse cause) post :=
  .throw _

theorem keeps_node (number : Nat) : Keeps IsProper (node number) :=
  Ensures.get.bind fun _ _ ↦ .pure trivial

theorem keeps_setValue (number : Nat) (value : LinkedValue) (isProper : value.IsProper)
    (origin : Option Nat) : Keeps IsProper (setValue number value origin) := by
  refine .modify fun s h ↦ ⟨h.nodes, fun other found isFound ↦ ?_⟩
  rw [Array.getElem?_setIfInBounds] at isFound
  split at isFound
  · split at isFound
    · obtain rfl : (value, origin) = found := by simpa using isFound
      exact isProper
    · simp at isFound
  · exact h.values other found isFound

theorem textOf_yields {nodes : Array Node} (h : AreProper nodes) (fuel number : Nat) :
    Yields (textOf nodes fuel number) Text.IsProper := by
  induction fuel generalizing number with
  | zero => exact .error _
  | succ fuel ih =>
    have isProper := h number
    rw [textOf]
    split
    case h_1 text isScalar =>
      rw [isScalar] at isProper
      exact .ok isProper
    case h_2 => exact .error _
    case h_3 =>
      split
      · exact ih _
      · exact .error _

theorem keeps_readScalar (number : Nat) : Keeps IsProper (readScalar number) := by
  refine Ensures.get.bind fun s h ↦ ?_
  refine (Ensures.lift (textOf_yields h.nodes _ _)).bind fun text isProper ↦ ?_
  refine .ite (.throw _) ?_
  refine (Ensures.lift (value_ofText_yields _ isProper)).bind fun value isValue ↦ ?_
  exact keeps_setValue number (.scalar value) isValue _

theorem keeps_meet (number : Nat) : Keeps IsProper (meet number) := by
  refine Ensures.get.bind fun s _ ↦ .ite ((keeps_node number).bind fun node ↦ ?_) (.pure trivial)
  refine .ite ?_ (.ite (keeps_readScalar number) (ensures_refuse _))
  refine (keeps_setValue number (.list []) trivial none).bind fun _ ↦ ?_
  exact Keeps.modify fun s h ↦ ⟨h.nodes, h.values⟩

theorem keeps_meetAll (numbers : List Nat) : Keeps IsProper (meetAll numbers) :=
  .forM keeps_meet numbers

theorem ensures_meetKey (number : Nat) :
    Ensures IsProper (meetKey number) fun key ↦ key.value.IsProper := by
  refine (keeps_meet number).bind fun _ ↦ Ensures.get.bind fun s h ↦ ?_
  split
  case h_1 value origin isFound => exact .pure (h.values _ _ isFound)
  case h_2 => exact ensures_refuse _

theorem ensures_readEntries (number : Nat) :
    Ensures IsProper (readEntries number) AreEntries := by
  refine (keeps_node number).bind fun node ↦ ?_
  split
  case h_1 =>
    refine Ensures.get.bind fun s h ↦ ?_
    refine (Ensures.lift (h.nodes.flattened number)).bind fun nodes areProper ↦ ?_
    refine (Keeps.modify fun s h ↦ ⟨areProper, h.values⟩).bind fun _ ↦ ?_
    refine Ensures.foldlM (fun entries entry areEntries ↦ ?_) areEntries_nil _
    refine (ensures_meetKey entry.1).bind fun key isProper ↦ ?_
    exact (keeps_meet entry.2).bind fun _ ↦ .pure (areEntries.putKey isProper _)
  case h_2 => exact ensures_refuse _

theorem keeps_readPair (number : Nat) : Keeps IsProper (readPair number) := by
  refine (keeps_node number).bind fun node ↦ ?_
  split
  · exact (keeps_meetAll _).bind fun _ ↦ .pure trivial
  · exact ensures_refuse _

theorem keeps_readItems (number : Nat) : Keeps IsProper (readItems number) := by
  refine (keeps_node number).bind fun node ↦ ?_
  split
  · exact .pure trivial
  · exact ensures_refuse _

theorem ensures_readCollection (tag : Tag) (number : Nat) :
    Ensures IsProper (readCollection tag number) LinkedValue.IsProper := by
  have pairs : Ensures IsProper (do return .pairs (← (← readItems number).mapM readPair))
      LinkedValue.IsProper :=
    (keeps_readItems number).bind fun items ↦ (Keeps.mapM keeps_readPair items).bind fun _ ↦
      .pure trivial
  have mapping : Ensures IsProper
      (do return .mapping ((← readEntries number).map fun entry ↦ (entry.1.value, entry.2)))
      LinkedValue.IsProper := by
    refine (ensures_readEntries number).bind fun entries areEntries ↦ .pure ?_
    rw [LinkedValue.IsProper, List.map_map]
    exact areEntries.areKeys
  cases tag with
  | list =>
    refine (keeps_readItems number).bind fun items ↦ ?_
    exact (keeps_meetAll items).bind fun _ ↦ .pure trivial
  | orderedMapping => exact pairs
  | pairs => exact pairs
  | set => exact (ensures_readEntries number).keeps.bind fun _ ↦ .pure trivial
  | _ => exact mapping

theorem keeps_completeAll (fuel : Nat) : Keeps IsProper (completeAll fuel) := by
  induction fuel with
  | zero => exact .pure trivial
  | succ fuel ih =>
    rw [completeAll]
    refine Ensures.get.bind fun s _ ↦ .ite ?_ (.pure trivial)
    refine (Keeps.modify fun s h ↦ ⟨h.nodes, h.values⟩).bind fun _ ↦ ?_
    refine (Keeps.forIn (fun number _ ↦ ?_) _ _).bind fun _ ↦ ih
    refine (keeps_node number).bind fun node ↦ ?_
    refine (ensures_readCollection node.tag number).bind fun value isProper ↦ ?_
    exact (keeps_setValue number value isProper none).bind fun _ ↦ .pure trivial

end Building

theorem isProper_of_document {graph : Graph} (areProper : AreProper graph.nodes) {linked : Linked}
    (isRead : graph.document = .ok linked) (number : Nat) : (linked.value number).IsProper := by
  obtain ⟨⟨⟨⟩, s⟩, built, same⟩ := except_bind_eq_ok_iff.1 isRead
  obtain rfl := Except.ok.inj same
  have begins : Building.IsProper ⟨graph.nodes, .replicate graph.nodes.size none, []⟩ := by
    refine ⟨areProper, fun n value isValue ↦ ?_⟩
    rw [Array.getElem?_replicate] at isValue
    split at isValue <;> cases isValue
  have keeps : Keeps Building.IsProper (do
      Building.meet graph.root
      Building.completeAll (graph.nodes.size + 1)) :=
    (Building.keeps_meet _).bind fun _ ↦ Building.keeps_completeAll _
  have kept : s.IsProper := (keeps _ begins _ built).2
  rw [Linked.value, Array.getElem?_map]
  match found : s.values[number]? with
  | none => exact trivial
  | some none => exact trivial
  | some (some value) => exact kept.values number value (by rw [found]; rfl)

theorem isProper_of_read {text : Text} {linked : Linked} (isRead : read text = .ok linked)
    (number : Nat) : (linked.value number).IsProper := by
  obtain ⟨graph?, isGraph, isDocument⟩ := except_bind_eq_ok_iff.1 isRead
  cases graph? with
  | none =>
    obtain rfl := Except.ok.inj isDocument
    match number with
    | 0 => exact trivial
    | n + 1 => exact trivial
  | some graph =>
    have areTokens : ∀ t ∈ tokens text, t.IsProper := fun t ↦ isProper_of_mem_tokens
    exact isProper_of_document (areProper_of_ofTokens areTokens isGraph) isDocument number

/-- The keys of a mapping that is read are keys. -/
theorem hasKeys_of_read {text : Text} {linked : Linked} (isRead : read text = .ok linked) :
    linked.top.HasKeys := by
  have isProper := isProper_of_read isRead linked.root
  rw [Linked.top]
  split
  case h_1 links isRoot =>
    rw [isRoot] at isProper
    simpa [LinkedValue.IsProper, Document.HasKeys, Function.comp_def] using isProper
  case h_2 =>
    rw [Linked.outline]
    split
    case h_5 => exact areKeys_nil
    all_goals exact trivial

end Yaml
end TypeDisplay
