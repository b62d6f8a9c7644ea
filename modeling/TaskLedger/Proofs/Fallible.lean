import Mathlib.Data.List.Forall2

/-!
**Computations that may fail.**

A computation that is put together from others succeeds if they all do, and what it fails with is what
one of them fails with.

Main definitions:

* `TaskLedger.FailsOnly` — the failures of a computation are of a kind.

Main results:

* `TaskLedger.bind_eq_ok_iff`, `TaskLedger.mapM_eq_ok_iff` — success in terms of the parts;
* `TaskLedger.FailsOnly.bind`, `TaskLedger.FailsOnly.mapM`, `TaskLedger.FailsOnly.foldlM` — failure.
-/

set_option autoImplicit false

namespace TaskLedger

variable {ε ε' α β : Type}

/-! ### Success -/

/-- A computation that may fail is followed by another. -/
theorem bind_eq_ok_iff {x : Except ε α} {f : α → Except ε β} {b : β} :
    x >>= f = .ok b ↔ ∃ a, x = .ok a ∧ f a = .ok b := by
  cases x <;> simp [bind, Except.bind]

theorem mapError_eq_ok_iff {x : Except ε α} {f : ε → ε'} {a : α} :
    x.mapError f = .ok a ↔ x = .ok a := by
  cases x <;> simp [Except.mapError]

theorem map_eq_ok_iff {x : Except ε α} {f : α → β} {b : β} :
    x.map f = .ok b ↔ ∃ a, x = .ok a ∧ f a = b := by
  cases x <;> simp [Except.map]

/-- A list is gone through entry by entry, and no entry is left out. -/
theorem mapM_eq_ok_iff {f : α → Except ε β} {l : List α} {bs : List β} :
    l.mapM f = .ok bs ↔ List.Forall₂ (fun a b => f a = .ok b) l bs := by
  induction l generalizing bs with
  | nil => cases bs <;> simp [pure, Except.pure]
  | cons a l ih =>
      simp only [List.mapM_cons, bind_eq_ok_iff, ih, List.forall₂_cons_left_iff]
      constructor
      · rintro ⟨b, hb, rest, hrest, h⟩
        exact ⟨b, rest, hb, hrest, (Except.ok.inj h).symm⟩
      · rintro ⟨b, rest, hb, hrest, rfl⟩
        exact ⟨b, hb, rest, hrest, rfl⟩

/-! ### Failure -/

/-- The failures of a computation are of a kind. -/
def FailsOnly (P : ε → Prop) (x : Except ε α) : Prop := ∀ e, x = .error e → P e

namespace FailsOnly

variable {P : ε → Prop}

theorem ok (a : α) : FailsOnly P (.ok a) := nofun

theorem error {e : ε} (h : P e) : FailsOnly P (.error e : Except ε α) := by
  rintro _ ⟨⟩
  exact h

theorem mapError {x : Except ε' α} {f : ε' → ε} (h : ∀ e, P (f e)) :
    FailsOnly P (x.mapError f) := by
  cases x with
  | ok a => exact .ok a
  | error e => exact .error (h e)

theorem map {x : Except ε α} (hx : FailsOnly P x) (f : α → β) : FailsOnly P (x.map f) := by
  cases x with
  | ok a => exact .ok (f a)
  | error e => exact .error (hx e rfl)

theorem bind {x : Except ε α} {f : α → Except ε β} (hx : FailsOnly P x)
    (hf : ∀ a, FailsOnly P (f a)) : FailsOnly P (x >>= f) := by
  cases x with
  | ok a => exact hf a
  | error e => exact .error (hx e rfl)

theorem mapM {f : α → Except ε β} (hf : ∀ a, FailsOnly P (f a)) (l : List α) :
    FailsOnly P (l.mapM f) := by
  induction l with
  | nil => exact .ok []
  | cons a l ih =>
      rw [List.mapM_cons]
      exact (hf a).bind fun b => ih.bind fun bs => .ok (b :: bs)

theorem foldlM {f : β → α → Except ε β} (hf : ∀ b a, FailsOnly P (f b a)) (b : β) (l : List α) :
    FailsOnly P (l.foldlM f b) := by
  induction l generalizing b with
  | nil => exact .ok b
  | cons a l ih =>
      rw [List.foldlM_cons]
      exact (hf b a).bind ih

end FailsOnly

end TaskLedger
