import Mathlib.Data.List.Forall2
import TaskLedger.Proofs.Dialogue.Interleaving

/-!
**Dialogues in lockstep.**

Two dialogues are alike if they ask questions that are alike and, as long as they are given answers
that are alike, go on alike and end with related results.  Where those who answer are alike too, two
scenes in which the same dialogues take their turns stay alike move by move: whatever the one has come
to, the other has come to.  What a dialogue cannot tell apart it cannot tell anybody either.

Main definitions:

* `TaskLedger.Likeness` — which questions are alike, and when their answers are;
* `TaskLedger.Dialogue.Alike`, `TaskLedger.World.Alike`, `TaskLedger.Move.Alike`,
  `TaskLedger.Scene.Alike` — the same for dialogues, those who answer, moves, and scenes.

Main results:

* `TaskLedger.Dialogue.Alike.bind` — dialogues that go on alike are alike;
* `TaskLedger.Scene.Alike.play` — **plays of alike dialogues with alike moves stay alike**.
-/

set_option autoImplicit false

namespace TaskLedger

/-- Which questions are alike, each time with what it means for answers to them to be alike. -/
abbrev Likeness (I : Interface) :=
  (q q' : I.Question) → (I.Answer q → I.Answer q' → Prop) → Prop

variable {I : Interface} {L : Likeness I} {ι ε ε' σ σ' α α' β β' : Type}

/-! ### Dialogues -/

/-- Two dialogues ask the like of each other, whatever answers that are alike they are given, and end
with related results. -/
inductive Dialogue.Alike (L : Likeness I) (R : α → α' → Prop) :
    Dialogue I α → Dialogue I α' → Prop
  | done {r : α} {r' : α'} : R r r' → Alike L R (.done r) (.done r')
  | ask {q q' : I.Question} {A : I.Answer q → I.Answer q' → Prop}
      {next : I.Answer q → Dialogue I α} {next' : I.Answer q' → Dialogue I α'} : L q q' A →
      (∀ a a', A a a' → Alike L R (next a) (next' a')) → Alike L R (.ask q next) (.ask q' next')

namespace Dialogue.Alike

variable {R : α → α' → Prop} {S : β → β' → Prop} {d : Dialogue I α} {d' : Dialogue I α'}

theorem mono {R' : α → α' → Prop} (hd : Alike L R d d') (hR : ∀ r r', R r r' → R' r r') :
    Alike L R' d d' := by
  induction hd with
  | done h => exact .done (hR _ _ h)
  | ask hq _ ih => exact .ask hq fun a a' ha => ih a a' ha

/-- Dialogues that go on alike after related results are alike. -/
theorem bind {f : α → Dialogue I β} {f' : α' → Dialogue I β'} (hd : Alike L R d d')
    (hf : ∀ r r', R r r' → Alike L S (f r) (f' r')) :
    Alike L S (Dialogue.bind d f) (Dialogue.bind d' f') := by
  induction hd with
  | done h => exact hf _ _ h
  | ask hq _ ih => exact .ask hq fun a a' ha => ih a a' ha

theorem request {q q' : I.Question} {A : I.Answer q → I.Answer q' → Prop} (hq : L q q' A) :
    Alike L A (Dialogue.request q) (Dialogue.request q') :=
  .ask hq fun _ _ ha => .done ha

end Dialogue.Alike

/-! ### Those who answer, and what else happens -/

/-- Two worlds in related states answer questions that are alike alike, and are in related states
again; and so they are after events that are alike. -/
structure World.Alike (L : Likeness I) (S : σ → σ' → Prop) (E : ε → ε' → Prop) (w : World I σ ε)
    (w' : World I σ' ε') : Prop where
  answer : ∀ {q q' A s s'}, L q q' A → S s s' →
    A (w.answer q s).1 (w'.answer q' s').1 ∧ S (w.answer q s).2 (w'.answer q' s').2
  happen : ∀ {e e' s s'}, E e e' → S s s' → S (w.happen e s) (w'.happen e' s')

/-- The same dialogue goes on, or events happen that are alike. -/
inductive Move.Alike (E : ε → ε' → Prop) : Move ι ε → Move ι ε' → Prop
  | next (i : ι) : Alike E (.next i) (.next i)
  | event {e : ε} {e' : ε'} : E e e' → Alike E (.event e) (.event e')

/-! ### Scenes -/

namespace Scene

variable {γ γ' : ι → Type} {S : σ → σ' → Prop} {E : ε → ε' → Prop}
  {R : (i : ι) → γ i → γ' i → Prop} {w : World I σ ε} {w' : World I σ' ε'}

/-- Two scenes are alike: their states are related, and each dialogue has the like of what is left of
it in the one left of it in the other. -/
structure Alike (L : Likeness I) (S : σ → σ' → Prop) (R : (i : ι) → γ i → γ' i → Prop)
    (c : Scene I γ σ) (c' : Scene I γ' σ') : Prop where
  state : S c.state c'.state
  rest : ∀ i, (c.rest i).Alike L (R i) (c'.rest i)

variable {c : Scene I γ σ} {c' : Scene I γ' σ'}

/-- Of a dialogue that has ended in one of two scenes that are alike the like has ended in the other,
with a related result. -/
theorem Alike.result? (hc : Alike L S R c c') (i : ι) :
    Option.Rel (R i) (c.result? i) (c'.result? i) := by
  have hi := hc.rest i
  unfold Scene.result?
  generalize c.rest i = d at hi
  generalize c'.rest i = d' at hi
  cases hi with
  | done h => exact .some h
  | ask _ _ => exact .none

/-- Where related results are the same, the results are the same. -/
theorem Alike.result?_eq {c : Scene I γ σ} {c' : Scene I γ σ'}
    (hc : Alike L S (fun _ => Eq) c c') (i : ι) : c.result? i = c'.result? i := by
  have h := hc.result? i
  generalize c.result? i = r at h
  generalize c'.result? i = r' at h
  cases h with
  | none => rfl
  | some h => exact congrArg some h

variable [DecidableEq ι]

/-- A move in one scene and the like of it in the other. -/
theorem Alike.step (hw : World.Alike L S E w w') (hc : Alike L S R c c') {m : Move ι ε}
    {m' : Move ι ε'} (hm : m.Alike E m') : Alike L S R (c.step w m) (c'.step w' m') := by
  cases hm with
  | event he => exact ⟨hw.happen he hc.state, hc.rest⟩
  | next i =>
      have hi := hc.rest i
      generalize hd : c.rest i = d at hi
      generalize hd' : c'.rest i = d' at hi
      cases hi with
      | done _ =>
          simp only [Scene.step, hd, hd']
          exact hc
      | ask hq hnext =>
          obtain ⟨hanswer, hstate⟩ := hw.answer hq hc.state
          simp only [Scene.step, hd, hd']
          refine ⟨hstate, fun j => ?_⟩
          by_cases hj : j = i
          · subst hj
            simpa using hnext _ _ hanswer
          · simpa [Function.update_of_ne hj] using hc.rest j

/-- **Plays of alike dialogues with alike moves stay alike.** -/
theorem Alike.play (hw : World.Alike L S E w w') (hc : Alike L S R c c') {moves : List (Move ι ε)}
    {moves' : List (Move ι ε')} (hmoves : List.Forall₂ (Move.Alike E) moves moves') :
    Alike L S R (c.play w moves) (c'.play w' moves') := by
  induction hmoves generalizing c c' with
  | nil => exact hc
  | cons hm _ ih => exact ih (hc.step hw hm)

end Scene

end TaskLedger
