import TypeDisplay.Proofs.Outcome

/-!
# What a step ensures

A property of the result of every success, and an invariant of the state of a computation that may
fail.  Both are pushed through the ways in which steps are put together, so a function has the
property when the steps in it have it.
-/

namespace TypeDisplay

variable {ε σ α β : Type}

/-- What succeeds gives a result with the property. -/
def Yields (x : Except ε α) (post : α → Prop) : Prop := ∀ a, x = .ok a → post a

namespace Yields

variable {x : Except ε α} {p q : α → Prop} {r : β → Prop}

theorem ok {a : α} (h : p a) : Yields (.ok a : Except ε α) p := by
  rintro _ ⟨⟩
  exact h

theorem error (e : ε) : Yields (.error e) p := by
  rintro _ ⟨⟩

theorem trivial (x : Except ε α) : Yields x fun _ ↦ True := fun _ _ ↦ .intro

theorem mono (h : Yields x p) (weaker : ∀ a, p a → q a) : Yields x q :=
  fun a success ↦ weaker a (h a success)

theorem ite {c : Prop} [Decidable c] {y : Except ε α} (h : Yields x p) (h' : Yields y p) :
    Yields (if c then x else y) p := by
  split
  · exact h
  · exact h'

theorem mapError {ε' : Type} (h : Yields x p) (f : ε → ε') : Yields (x.mapError f) p := by
  cases x with
  | error e => exact .error _
  | ok a => exact .ok (h a rfl)

theorem bind {f : α → Except ε β} (h : Yields x p) (next : ∀ a, p a → Yields (f a) r) :
    Yields (x >>= f) r := by
  intro b success
  obtain ⟨a, first, second⟩ := except_bind_eq_ok_iff.1 success
  exact next a (h a first) b second

theorem map {f : α → β} (h : Yields x fun a ↦ r (f a)) : Yields (x.map f) r := by
  intro b success
  obtain ⟨a, first, rfl⟩ := except_map_eq_ok_iff.1 success
  exact h a first

end Yields

/-- Where the step succeeds in a state with the invariant, the state after it has it too, and its
result has the property. -/
def Ensures (inv : σ → Prop) (x : StateT σ (Except ε) α) (post : α → Prop) : Prop :=
  ∀ s, inv s → Yields (x.run s) fun done ↦ post done.1 ∧ inv done.2

/-- The same with nothing to say of the result. -/
def Keeps (inv : σ → Prop) (x : StateT σ (Except ε) α) : Prop := Ensures inv x fun _ ↦ True

namespace Ensures

variable {inv : σ → Prop} {x : StateT σ (Except ε) α} {p : α → Prop} {r : β → Prop}

theorem pure {a : α} (h : p a) : Ensures inv (pure a : StateT σ (Except ε) α) p :=
  fun _ kept ↦ .ok ⟨h, kept⟩

theorem throw (e : ε) : Ensures inv (throw e : StateT σ (Except ε) α) p :=
  fun _ _ ↦ .error e

theorem get : Ensures inv (get : StateT σ (Except ε) σ) inv :=
  fun _ kept ↦ .ok ⟨kept, kept⟩

theorem ite {c : Prop} [Decidable c] {y : StateT σ (Except ε) α} (h : Ensures inv x p)
    (h' : Ensures inv y p) : Ensures inv (if c then x else y) p := by
  split
  · exact h
  · exact h'

theorem keeps (h : Ensures inv x p) : Keeps inv x :=
  fun s kept ↦ (h s kept).mono fun _ both ↦ ⟨trivial, both.2⟩

theorem bind {f : α → StateT σ (Except ε) β} (h : Ensures inv x p)
    (next : ∀ a, p a → Ensures inv (f a) r) : Ensures inv (x >>= f) r :=
  fun s kept ↦ (h s kept).bind fun done both ↦ next done.1 both.1 done.2 both.2

/-- A computation without a state. -/
theorem lift {y : Except ε α} (h : Yields y p) :
    Ensures inv (liftM y : StateT σ (Except ε) α) p :=
  fun _ kept ↦ h.bind fun _ isResult ↦ .ok ⟨isResult, kept⟩

end Ensures

namespace Keeps

variable {inv : σ → Prop} {x : StateT σ (Except ε) α}

theorem bind {f : α → StateT σ (Except ε) β} {r : β → Prop} (h : Keeps inv x)
    (next : ∀ a, Ensures inv (f a) r) : Ensures inv (x >>= f) r :=
  Ensures.bind h fun a _ ↦ next a

theorem set {s : σ} (h : inv s) : Keeps inv (set s : StateT σ (Except ε) PUnit) :=
  fun _ _ ↦ .ok ⟨trivial, h⟩

theorem modify {f : σ → σ} (h : ∀ s, inv s → inv (f s)) :
    Keeps inv (modify f : StateT σ (Except ε) PUnit) :=
  fun s kept ↦ .ok ⟨trivial, h s kept⟩

theorem forM {f : α → StateT σ (Except ε) PUnit} (each : ∀ a, Keeps inv (f a)) (items : List α) :
    Keeps inv (items.forM f) := by
  induction items with
  | nil => exact Ensures.pure trivial
  | cons a items ih => exact (each a).bind fun _ ↦ ih

theorem forIn {f : α → PUnit → StateT σ (Except ε) (ForInStep PUnit)}
    (each : ∀ a u, Keeps inv (f a u)) (items : List α) (u : PUnit) :
    Keeps inv (ForIn.forIn items u f) := by
  induction items generalizing u with
  | nil => exact Ensures.pure trivial
  | cons a items ih =>
    rw [List.forIn_cons]
    refine (each a u).bind fun step ↦ ?_
    cases step with
    | done u => exact Ensures.pure trivial
    | yield u => exact ih u

theorem mapM {f : α → StateT σ (Except ε) β} (each : ∀ a, Keeps inv (f a)) (items : List α) :
    Keeps inv (items.mapM f) := by
  induction items with
  | nil => exact Ensures.pure trivial
  | cons a items ih =>
    rw [List.mapM_cons]
    exact (each a).bind fun _ ↦ ih.bind fun _ ↦ Ensures.pure trivial

end Keeps

theorem Ensures.foldlM {inv : σ → Prop} {p : β → Prop} {f : β → α → StateT σ (Except ε) β}
    (each : ∀ b a, p b → Ensures inv (f b a) p) {first : β} (h : p first) (items : List α) :
    Ensures inv (items.foldlM f first) p := by
  induction items generalizing first with
  | nil => exact Ensures.pure h
  | cons a items ih =>
    rw [List.foldlM_cons]
    exact (each first a h).bind fun b isResult ↦ ih isResult

end TypeDisplay
