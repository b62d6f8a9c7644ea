import TaskLedger.Proofs.Dialogue.Turns

/-!
**What happens between two moments.**

A run tells what was said from the beginning.  Often two moments of it are to be compared: the one
at which a dialogue learned something, and a later one at which it acts on it.  What was said in
between is a stretch, with the states at its ends.  A stretch says nothing of whether the questions
were in place; it is enough that each was answered from the state of its moment.

Main definitions:

* `TaskLedger.Stretch` — what was said between two states.

Main results:

* `TaskLedger.Run.stretch` — a run is a stretch from the first state;
* `TaskLedger.Stretch.split`, `TaskLedger.Stretch.moment` — **a stretch falls apart at every
  exchange**, which was answered from the state between its two parts;
* `TaskLedger.Stretch.rel` — what is related by every question and event is related across a stretch;
* `TaskLedger.exists_split_of_historyOf` — an exchange splits what was said as it splits the history;
* `TaskLedger.Scene.exists_of_mem_turnsOf`, `TaskLedger.Scene.said_prefix_play` — where in a play a
  turn took place, and what was said up to it;
* `TaskLedger.Dialogue.AsksAtMost.length_le` — how long the history of a dialogue is at its end.
-/

set_option autoImplicit false

namespace TaskLedger

variable {I : Interface} {ι ε σ : Type}

/-- What was said between two states, while other events may have happened: each question was
answered from the state of its moment. -/
inductive Stretch (w : World I σ ε) (s : σ) : Said I ι → σ → Prop
  | refl : Stretch w s [] s
  | next {said : Said I ι} {t : σ} (i : ι) (q : I.Question) : Stretch w s said t →
      Stretch w s (said ++ [(i, ⟨q, (w.answer q t).1⟩)]) (w.answer q t).2
  | event {said : Said I ι} {t : σ} (e : ε) : Stretch w s said t →
      Stretch w s said (w.happen e t)

/-- A run is a stretch from the first state. -/
theorem Run.stretch [DecidableEq ι] {α : ι → Type} {w : World I σ ε}
    {d : (i : ι) → Dialogue I (α i)} {s₀ s : σ} {said : Said I ι} (h : Run w d s₀ said s) :
    Stretch w s₀ said s := by
  induction h with
  | start => exact .refl
  | next _ _ ih => exact ih.next _ _
  | event e _ ih => exact ih.event e

namespace Stretch

variable {w : World I σ ε} {s t : σ}

/-- A stretch falls apart between any two exchanges. -/
theorem split {before later : Said I ι} (h : Stretch w s (before ++ later) t) :
    ∃ u, Stretch w s before u ∧ Stretch w u later t := by
  generalize hsaid : before ++ later = said at h
  induction h generalizing later with
  | refl =>
      obtain ⟨rfl, rfl⟩ := List.append_eq_nil_iff.1 hsaid
      exact ⟨s, .refl, .refl⟩
  | event e _ ih =>
      obtain ⟨u, hbefore, hlater⟩ := ih hsaid
      exact ⟨u, hbefore, hlater.event e⟩
  | @next said t j q h ih =>
      rcases List.eq_nil_or_concat later with rfl | ⟨front, y, rfl⟩
      · rw [List.append_nil] at hsaid
        exact ⟨(w.answer q t).2, hsaid ▸ h.next j q, .refl⟩
      · rw [List.concat_eq_append, ← List.append_assoc] at hsaid
        obtain ⟨rfl, hy⟩ := List.append_inj' hsaid rfl
        obtain ⟨u, hbefore, hlater⟩ := ih rfl
        refine ⟨u, hbefore, ?_⟩
        rw [List.concat_eq_append, hy]
        exact hlater.next j q

/-- **A stretch falls apart at every exchange**, which was answered from the state between its two
parts. -/
theorem moment {before later : Said I ι} {i : ι} {x : Exchange I}
    (h : Stretch w s (before ++ (i, x) :: later) t) :
    ∃ u, Stretch w s before u ∧ x.answer = (w.answer x.question u).1 ∧
      Stretch w (w.answer x.question u).2 later t := by
  generalize hsaid : before ++ (i, x) :: later = said at h
  induction h generalizing later with
  | refl => simp at hsaid
  | event e _ ih =>
      obtain ⟨u, hbefore, hanswer, hlater⟩ := ih hsaid
      exact ⟨u, hbefore, hanswer, hlater.event e⟩
  | @next said t j q h ih =>
      -- The exchange is the last one of the stretch, or it is one of the part before.
      rcases List.eq_nil_or_concat later with rfl | ⟨front, y, rfl⟩
      · obtain ⟨rfl, hx⟩ := List.append_inj' hsaid rfl
        simp only [List.cons.injEq, Prod.mk.injEq, and_true] at hx
        obtain ⟨rfl, rfl⟩ := hx
        exact ⟨t, h, rfl, .refl⟩
      · rw [List.concat_eq_append, ← List.cons_append, ← List.append_assoc] at hsaid
        obtain ⟨rfl, hy⟩ := List.append_inj' hsaid rfl
        obtain rfl : y = (j, ⟨q, (w.answer q t).1⟩) := by simpa using hy
        obtain ⟨u, hbefore, hanswer, hlater⟩ := ih rfl
        exact ⟨u, hbefore, hanswer, by simpa using hlater.next j q⟩

/-- What is related by every question and every event is related across a stretch. -/
theorem rel {R : σ → σ → Prop} {said : Said I ι} (hrefl : ∀ s, R s s)
    (htrans : ∀ {s t u}, R s t → R t u → R s u) (hanswer : ∀ q s, R s (w.answer q s).2)
    (hhappen : ∀ e s, R s (w.happen e s)) (h : Stretch w s said t) : R s t := by
  induction h with
  | refl => exact hrefl _
  | next _ q _ ih => exact htrans ih (hanswer q _)
  | event e _ ih => exact htrans ih (hhappen e _)

end Stretch

/-- Two parts of a history belong to two parts of what was said. -/
theorem exists_append_of_historyOf [DecidableEq ι] {i : ι} {said : Said I ι}
    {front back : List (Exchange I)} (h : historyOf i said = front ++ back) :
    ∃ before later, said = before ++ later ∧ historyOf i before = front ∧
      historyOf i later = back :=
  List.filterMap_eq_append_iff.1 h

/-- An exchange splits what was said as it splits the history of its dialogue. -/
theorem exists_split_of_historyOf [DecidableEq ι] {i : ι} {x : Exchange I} {said : Said I ι}
    {front back : List (Exchange I)} (h : historyOf i said = front ++ x :: back) :
    ∃ before later, said = before ++ (i, x) :: later ∧ historyOf i before = front ∧
      historyOf i later = back := by
  obtain ⟨before, later, rfl, hbefore⟩ := exists_of_historyOf_eq h
  refine ⟨before, later, rfl, hbefore, ?_⟩
  rw [historyOf_append, historyOf_cons_self, hbefore] at h
  exact (List.cons.inj (List.append_cancel_left h)).2

/-- A turn of a dialogue took place after some of the moves of a play. -/
theorem Scene.exists_of_mem_turnsOf [DecidableEq ι] {α : ι → Type} {w : World I σ ε} {i : ι}
    {c : Scene I α σ} {moves : List (Move ι ε)} {turn : σ × σ} (h : turn ∈ turnsOf w i c moves) :
    ∃ before later, moves = before ++ .next i :: later ∧
      turn = ((c.play w before).state, ((c.play w before).step w (.next i)).state) := by
  induction moves generalizing c with
  | nil => cases h
  | cons move moves ih =>
      rcases List.mem_append.1 h with hfirst | hrest
      · cases move with
        | event e => simp [turnOf?] at hfirst
        | next j =>
            simp only [turnOf?, Option.mem_toList, Option.ite_none_right_eq_some,
              Option.some.injEq] at hfirst
            obtain ⟨rfl, rfl⟩ := hfirst
            exact ⟨[], moves, rfl, rfl⟩
      · obtain ⟨before, later, rfl, rfl⟩ := ih hrest
        exact ⟨move :: before, later, rfl, rfl⟩

/-- What was said stays said. -/
theorem Scene.said_prefix_play [DecidableEq ι] {α : ι → Type} (w : World I σ ε) (c : Scene I α σ)
    (moves : List (Move ι ε)) : c.said <+: (c.play w moves).said := by
  induction moves generalizing c with
  | nil => exact List.prefix_rfl
  | cons move moves ih =>
      refine List.IsPrefix.trans ?_ (ih (c.step w move))
      cases move with
      | event e => exact List.prefix_rfl
      | next j =>
          cases hrest : c.rest j with
          | done r => simp [step, hrest]
          | ask q next => simp [step, hrest]

/-- A dialogue that has ended has asked no more questions than it may ask. -/
theorem Dialogue.AsksAtMost.length_le {γ : Type} {d : Dialogue I γ} {n : Nat}
    {h : List (Exchange I)} {r : γ} (hd : d.AsksAtMost n) (hends : d.Ends h r) : h.length ≤ n := by
  induction hd generalizing h with
  | done r' n =>
      obtain ⟨rfl, -⟩ := ends_done.1 hends
      exact Nat.zero_le n
  | ask _ ih =>
      obtain ⟨a, h', rfl, hnext⟩ := ends_ask.1 hends
      exact Nat.succ_le_succ (ih a hnext)

end TaskLedger
