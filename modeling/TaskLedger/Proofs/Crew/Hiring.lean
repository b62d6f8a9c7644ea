import TaskLedger.Proofs.Crew.Invariant

/-!
**Who is taken on in a crew.**

What a worker does depends on the duty that it was taken on for, and the work of a duty for which nobody
is taken on makes no difference.  Which duties these are can be read off the work itself: what somebody
may ask for, whatever the answers are, and what those may ask for who are taken on for it.

Main definitions:

* `TaskLedger.Crew.Hires` — work for which only workers with certain duties are taken on;
* `TaskLedger.Crew.View.Hires` — everybody's work is of this kind.

Main results:

* `TaskLedger.Crew.keeps_hires` — this remains so, if the work for each of these duties is of this kind;
* `TaskLedger.Crew.run_congr` — **only the work for these duties makes a difference**.
-/

set_option autoImplicit false

namespace TaskLedger.Crew

open Dialogue

variable {σ δ α β : Type} {p : δ → Prop}

/-- Someone who is taken on has a certain duty. -/
def Ask.TakesOn (p : δ → Prop) : Ask σ δ → Prop
  | .takeOn duty => p duty
  | _ => True

/-- Work for which only workers with certain duties are taken on. -/
def Hires (p : δ → Prop) (work : Work σ δ α) : Prop :=
  work.AsksOnly (I := asks σ δ) (Ask.TakesOn p)

namespace Hires

theorem pure (a : α) : Hires p (pure a : Work σ δ α) := .done a

theorem bind {work : Work σ δ α} {f : α → Work σ δ β} (hwork : Hires p work)
    (hf : ∀ a, Hires p (f a)) : Hires p (work >>= f) := AsksOnly.bind hwork hf

/-- Someone who takes on nobody takes on only workers with certain duties. -/
theorem of_nobody {work : Work σ δ α} (hwork : Hires (fun _ => False) work) : Hires p work := by
  refine AsksOnly.mono hwork fun q hq => ?_
  cases q with
  | takeOn duty => exact hq.elim
  | look | put _ | clock | await _ _ | expect _ | step | giveWay | later _ => trivial

theorem of_idle {work : Work σ δ α} (hwork : Idle work) : Hires p work := by
  refine AsksOnly.mono hwork fun q hq => ?_
  cases q with
  | takeOn duty => exact hq.elim
  | look | put _ | clock | await _ _ | expect _ | step | giveWay | later _ => trivial

theorem look : Hires p (look : Work σ δ σ) := .request trivial

theorem change (f : σ → σ) : Hires p (change f : Work σ δ Unit) :=
  .ask trivial fun _ => .request trivial

theorem relay {I : Interface} {pass : (q : I.Question) → Work σ δ (I.Answer q)}
    (hpass : ∀ q, Hires p (pass q)) (d : Dialogue I α) : Hires p (d.relay pass) := by
  induction d with
  | done a => exact .pure a
  | ask q next ih => exact bind (hpass q) ih

end Hires

/-! ### In a crew -/

/-- Only workers with certain duties are taken on for anybody's work. -/
def View.Hires (p : δ → Prop) (v : View σ δ) : Prop := ∀ w ∈ v.workers, Crew.Hires p w.rest

theorem View.hires_join {v : View σ δ} {w : Worker σ δ} :
    (v.join w).Hires p ↔ Crew.Hires p w.rest ∧ v.Hires p := Multiset.forall_mem_cons

section Keeps

variable {duties : δ → Work σ δ Unit} {isHead : Bool}

/-- Whoever is taken on in a turn takes on only such workers as well. -/
theorem afterTurn_hires (hduty : ∀ duty, p duty → Hires p (duties duty)) {work : Work σ δ Unit}
    (hwork : Hires p work) {v : View σ δ} (hv : v.Hires p) :
    AfterTurn duties isHead (View.Hires p) work v := by
  induction work generalizing v with
  | done _ => exact hv
  | ask q next ih =>
      obtain ⟨hq, hnext⟩ := hwork.of_ask
      have hjoin {w : Worker σ δ} (hw : Hires p w.rest) : (v.join w).Hires p :=
        View.hires_join.2 ⟨hw, hv⟩
      cases q with
      | look | put _ | later _ => exact ih _ (hnext _) hv
      | clock | step => exact fun answer => ih answer (hnext answer) hv
      | takeOn duty => exact ih () (hnext ()) (hjoin (hduty duty hq))
      | await wish due => exact ⟨hjoin hwork, fun _ => ih () (hnext ()) hv⟩
      | expect wish =>
          change if _ then _ else _
          split
          · exact ih () (hnext ()) hv
          · exact hjoin hwork
      | giveWay => exact hjoin (hnext ())

/-- In a crew in which only workers with certain duties are taken on this remains so. -/
theorem keeps_hires (hduty : ∀ duty, p duty → Hires p (duties duty)) :
    Keeps duties (View.Hires p) where
  turn h := afterTurn_hires hduty (View.hires_join.1 h).1 (View.hires_join.1 h).2
  change h := h

end Keeps

/-! ### Other duties make no difference -/

section Congr

variable {duties duties' : δ → Work σ δ Unit} (hsame : ∀ duty, p duty → duties duty = duties' duty)

include hsame

theorem turn_congr {isHead : Bool} {work : Work σ δ Unit} (hwork : Hires p work) (steps : Nat)
    (c : Crew σ δ) : turn duties isHead work steps c = turn duties' isHead work steps c := by
  induction work generalizing steps c with
  | done _ => rfl
  | ask q next ih =>
      obtain ⟨hq, hnext⟩ := hwork.of_ask
      have hlater (answer : q.Answer) (steps : Nat) (c : Crew σ δ) :
          turn duties isHead (next answer) steps c = turn duties' isHead (next answer) steps c :=
        ih answer (hnext answer) steps c
      cases q with
      | look | put _ | clock | later _ => exact hlater _ _ _
      | takeOn duty =>
          rw [turn, turn, hsame duty hq]
          exact hlater () _ _
      | await wish due =>
          cases steps with
          | zero => rfl
          | succ steps =>
              simp only [turn]
              split
              · exact hlater () steps c
              · rfl
      | expect wish =>
          simp only [turn]
          split
          · exact hlater () steps c
          · rfl
      | step => cases steps <;> exact hlater _ _ _
      | giveWay => rfl

theorem next?_congr {c : Crew σ δ} (hc : c.view.Hires p) : c.next? duties = c.next? duties' := by
  have hturn {c' : Crew σ δ} {w : Worker σ δ} (hview : c'.view.join w = c.view) :
      turn duties w.isHead w.rest stepsPerTurn c' = turn duties' w.isHead w.rest stepsPerTurn c' := by
    refine turn_congr hsame (hc w ?_) _ _
    rw [← hview]
    exact Multiset.mem_cons_self w _
  have hhead : c.headTurn duties = c.headTurn duties' := by
    simp only [Crew.headTurn]
    split
    · next work hhead => exact hturn (w := ⟨work, true⟩) (view_join_head hhead turnsPerBreak)
    · rfl
  unfold next?
  split
  · rfl
  · split
    · rw [hhead]
    · next left work line _ hline =>
      simp only [hturn (w := ⟨work, false⟩) (view_join_line hline left)]
    · rfl

/-- **Only the work for those duties makes a difference** for which somebody may be taken on. -/
theorem run_congr (hduty : ∀ duty, p duty → Hires p (duties duty)) {c : Crew σ δ}
    (hc : Upholds (View.Hires p) c) (limit : Nat) : c.run duties limit = c.run duties' limit := by
  induction limit generalizing c with
  | zero => rfl
  | succ limit ih =>
      simp only [Crew.run, ← next?_congr hsame hc.inv]
      cases hnext : c.next? duties with
      | none => rfl
      | some c' => exact ih ((keeps_hires hduty).next hc hnext)

end Congr

end TaskLedger.Crew
