import Mathlib.Data.Multiset.Count
import TaskLedger.Crew.Turn
import TaskLedger.Proofs.Dialogue.Apart

/-!
**What stays true in a crew.**

The order in which the workers of a crew have their turns depends on who was ready first, on how many
steps each has left, and on the time.  An invariant does not depend on any of this.  It is about what
is shared, about the workers that there are, wherever they stand, and about the changes that are still
to be made.  If each worker's turn keeps it, however the turn goes, and each of these changes keeps it,
then it holds for as long as the crew is at work.

Main definitions:

* `TaskLedger.Crew.View`, `TaskLedger.Crew.view` — what an invariant of a crew is about;
* `TaskLedger.Crew.Orderly` — there is one head, and nobody waits for what has come;
* `TaskLedger.Crew.AfterTurn` — what holds after the turn of a worker, however it goes;
* `TaskLedger.Crew.Keeps` — an invariant;
* `TaskLedger.Crew.Ask.IsIdle` — to ask for something without doing anything;
* `TaskLedger.Crew.Tells` — work that only tells something of what is shared.

Main results:

* `TaskLedger.Crew.Keeps.run` — **an invariant holds for as long as the crew is at work**;
* `TaskLedger.Crew.afterTurn_idle` — the turn of a worker who first does nothing for a while.
-/

set_option autoImplicit false

namespace TaskLedger.Crew

variable {σ δ α : Type}

/-! ### What an invariant is about -/

/-- What is shared, the workers but for the one whose turn it is, and the changes that are to be made
at the next break. -/
structure View (σ δ : Type) where
  shared : σ
  workers : Multiset (Worker σ δ) := 0
  delayed : Multiset (σ → σ) := 0

namespace View

/-- One more worker. -/
def join (v : View σ δ) (w : Worker σ δ) : View σ δ := { v with workers := w ::ₘ v.workers }

/-- One more change to be made. -/
def delay (v : View σ δ) (f : σ → σ) : View σ δ := { v with delayed := f ::ₘ v.delayed }

/-- Something else is shared. -/
def share (v : View σ δ) (shared : σ) : View σ δ := { v with shared }

/-- More workers, and more changes to be made. -/
def plus (v : View σ δ) : List (Delayed σ δ) → View σ δ
  | [] => v
  | .worker w :: ds => (v.plus ds).join w
  | .change f :: ds => (v.plus ds).delay f

/-- The number of heads. -/
def heads (v : View σ δ) : Nat := v.workers.countP fun w => w.isHead = true

/-- The number of heads among what is put aside. -/
def headsAmong : List (Delayed σ δ) → Nat
  | [] => 0
  | .worker w :: ds => w.isHead.toNat + headsAmong ds
  | .change _ :: ds => headsAmong ds

section Lemmas

variable (v : View σ δ) (w : Worker σ δ) (f : σ → σ) (shared : σ) (ds : List (Delayed σ δ))

theorem heads_join : (v.join w).heads = v.heads + w.isHead.toNat := by
  cases h : w.isHead <;> simp [heads, join, h]

theorem heads_plus : (v.plus ds).heads = v.heads + headsAmong ds := by
  induction ds with
  | nil => rfl
  | cons d ds ih =>
      cases d with
      | worker w =>
          rw [plus, heads_join, ih, headsAmong]
          omega
      | change f => exact ih

theorem plus_append (es : List (Delayed σ δ)) : v.plus (ds ++ es) = (v.plus es).plus ds := by
  induction ds with
  | nil => rfl
  | cons d ds ih => cases d <;> rw [List.cons_append, plus, plus, ih]

/-- The order in which workers and changes are added makes no difference. -/
theorem plus_perm {ds es : List (Delayed σ δ)} (h : ds.Perm es) : v.plus ds = v.plus es := by
  induction h with
  | nil => rfl
  | cons d _ ih => cases d <;> rw [plus, plus, ih]
  | swap d e ds => cases d <;> cases e <;> simp [plus, join, delay, Multiset.cons_swap]
  | trans _ _ ih ih' => exact ih.trans ih'

theorem plus_plus (es : List (Delayed σ δ)) : (v.plus ds).plus es = (v.plus es).plus ds := by
  rw [← plus_append, ← plus_append, plus_perm v List.perm_append_comm]

theorem plus_join : (v.join w).plus ds = (v.plus ds).join w := plus_plus v [.worker w] ds

theorem plus_share : (v.share shared).plus ds = (v.plus ds).share shared := by
  induction ds with
  | nil => rfl
  | cons d ds ih => cases d <;> rw [plus, plus, ih] <;> rfl

theorem shared_plus : (v.plus ds).shared = v.shared := by
  induction ds with
  | nil => rfl
  | cons d ds ih => cases d <;> exact ih

variable {v w} in
/-- A worker who is alone. -/
theorem eq_of_join_eq {v' : View σ δ} {w' : Worker σ δ} (h : v.join w = v'.join w')
    (halone : v'.workers = 0) : v = v' ∧ w = w' := by
  obtain ⟨shared, workers, delayed⟩ := v
  obtain ⟨shared', workers', delayed'⟩ := v'
  obtain ⟨rfl, hworkers, rfl⟩ := View.mk.inj h
  obtain ⟨rfl, rfl⟩ | ⟨-, others, -, hothers⟩ := Multiset.cons_eq_cons.1 hworkers
  · exact ⟨rfl, rfl⟩
  · exact absurd (halone.symm.trans hothers) (Multiset.zero_ne_cons (a := w))

end Lemmas

end View

/-- What an invariant of a crew is about. -/
def view (c : Crew σ δ) : View σ δ :=
  ((({ shared := c.shared } : View σ δ).plus c.aside).plus
      ((c.waiting.map Waiter.worker).map .worker)).plus
    (c.line.map (fun work => .worker ⟨work, false⟩) ++
      c.head.toList.map fun work => .worker ⟨work, true⟩)

section View

variable {c : Crew σ δ} {w : Worker σ δ}

@[simp] theorem shared_view : c.view.shared = c.shared := by
  simp only [view, View.shared_plus]

theorem head_eq_none (h : c.view.heads = 0) : c.head = none := by
  cases hhead : c.head with
  | none => rfl
  | some work =>
      rw [view, hhead, View.plus_append, View.heads_plus] at h
      change View.heads (View.join _ _) + _ = 0 at h
      rw [View.heads_join, Bool.toNat_true] at h
      omega

theorem view_call (h : w.isHead = true → c.view.heads = 0) : (c.call w).view = c.view.join w := by
  obtain ⟨rest, isHead⟩ := w
  cases isHead with
  | true =>
      have hhead : c.head = none := head_eq_none (h rfl)
      simp [view, call, hhead, View.plus_append, View.plus, View.plus_join]
  | false => simp [view, call, View.plus_append, View.plus, View.plus_join]

/-- Workers who are called one after the other are all there, and nothing else changes. -/
theorem view_foldl_call (ws : List (Worker σ δ)) (h : (c.view.plus (ws.map .worker)).heads ≤ 1) :
    (ws.foldl call c).view = c.view.plus (ws.map .worker) := by
  induction ws generalizing c with
  | nil => rfl
  | cons w ws ih =>
      rw [List.map_cons, View.plus] at h ⊢
      have hcall : (c.call w).view = c.view.join w := view_call fun hw => by
        rw [View.heads_join, View.heads_plus, hw, Bool.toNat_true] at h
        omega
      rw [← View.plus_join, ← hcall] at h ⊢
      exact ih h

/-- Nobody is lost, and nobody comes, when some of those who wait are called. -/
theorem view_alert (isOver : Waiter σ δ → Bool) (h : c.view.heads ≤ 1) :
    (c.alert isOver).view = c.view := by
  unfold alert
  split
  · let called := (c.waiting.filter isOver).map Waiter.worker
    let rest : Crew σ δ := { c with waiting := c.waiting.filter (!isOver ·) }
    have hwaiting : (called ++ rest.waiting.map Waiter.worker).Perm (c.waiting.map Waiter.worker) := by
      rw [← List.map_append]
      exact (List.filter_append_perm isOver c.waiting).map _
    have hview : rest.view.plus (called.map .worker) = c.view := by
      rw [view, View.plus_plus, ← View.plus_append _ (called.map _), ← List.map_append,
        View.plus_perm _ (hwaiting.map _)]
      rfl
    rw [List.partition_eq_filter_filter]
    change (List.foldl _ rest _).view = c.view
    rw [← List.foldl_map, view_foldl_call called (hview ▸ h), hview]
  · rfl

theorem call_eq : ∃ head line, c.call w = { c with head, line } := by
  unfold call
  split
  · exact ⟨_, c.line, rfl⟩
  · exact ⟨c.head, _, rfl⟩

theorem foldl_call_eq (ws : List (Worker σ δ)) :
    ∃ head line, ws.foldl call c = { c with head, line } := by
  induction ws generalizing c with
  | nil => exact ⟨c.head, c.line, rfl⟩
  | cons w ws ih =>
      obtain ⟨_, _, hcall⟩ := call_eq (c := c) (w := w)
      rw [List.foldl_cons, hcall]
      exact ih

/-- Nobody waits any more whose wait is over. -/
theorem alert_eq (isOver : Waiter σ δ → Bool) : ∃ head line,
    c.alert isOver = { c with head, line, waiting := c.waiting.filter (!isOver ·) } := by
  unfold alert
  split
  · rw [List.partition_eq_filter_filter]
    change ∃ head line, List.foldl _ _ _ = _
    rw [← List.foldl_map]
    exact foldl_call_eq _
  · next hnobody =>
    have hwaiting : c.waiting.filter (!isOver ·) = c.waiting := by simpa using hnobody
    exact ⟨c.head, c.line, by rw [hwaiting]⟩

@[simp] theorem view_ofHead (shared : σ) (work : Work σ δ Unit) :
    (ofHead shared work).view = ({ shared } : View σ δ).join ⟨work, true⟩ := rfl

theorem view_with_shared (shared : σ) :
    ({ c with shared } : Crew σ δ).view = c.view.share shared := by
  simp only [view, ← View.plus_share]
  rfl

theorem view_share (shared : σ) (h : c.view.heads ≤ 1) :
    (c.share shared).view = c.view.share shared := by
  rw [share, view_alert _ (by rw [view_with_shared]; exact h), view_with_shared]

theorem view_putAside (d : Delayed σ δ) : (c.putAside d).view = c.view.plus [d] := by
  have haside (v : View σ δ) : v.plus (d :: c.aside) = (v.plus c.aside).plus [d] := by cases d <;> rfl
  simp only [view, putAside, haside, View.plus_plus _ [d]]

theorem view_wait (wish : σ → Bool) (due : Option Nat) :
    (c.wait w wish due).view = c.view.join w := by
  simp [view, wait, View.plus_append, View.plus, View.plus_join]

/-- The head, beside everyone else. -/
theorem view_join_head {work : Work σ δ Unit} (h : c.head = some work) (turnsLeft : Nat) :
    ({ c with head := none, turnsLeft } : Crew σ δ).view.join ⟨work, true⟩ = c.view := by
  simp [view, h, View.plus_append, View.plus, View.plus_join]

/-- The first in the line, beside everyone else. -/
theorem view_join_line {work : Work σ δ Unit} {line : List (Work σ δ Unit)} (h : c.line = work :: line)
    (turnsLeft : Nat) :
    ({ c with line, turnsLeft } : Crew σ δ).view.join ⟨work, false⟩ = c.view := by
  simp [view, h, View.plus]

/-- What was put aside, beside everything else. -/
theorem view_plus_aside :
    ({ c with aside := [], turnsLeft := 0 } : Crew σ δ).view.plus c.aside = c.view := by
  simp only [view, View.plus, View.plus_plus _ c.aside]

end View

/-! ### A crew in which everything is in order -/

/-- What somebody who is about to wait waits for: a wish, or a moment if there is one. -/
def awaited : Work σ δ α → Option ((σ → Bool) × Option Nat)
  | .ask (.await wish due) _ => some (wish, due)
  | .ask (.expect wish) _ => some (wish, none)
  | _ => none

/-- Somebody waits for something that has not come. -/
structure Waiter.IsPatient (w : Waiter σ δ) (shared : σ) (moment : Nat) : Prop where
  awaited : awaited w.worker.rest = some (w.wish, w.due)
  wish : w.wish shared = false
  due : w.due.any (· ≤ moment) = false

/-- There is one head until it has done its work, `away` of it being away at the moment, and whoever
waits does so for something that has not come. -/
structure Orderly (c : Crew σ δ) (away : Nat) : Prop where
  oneHead : c.view.heads + away + c.finished.toNat = 1
  waiting : ∀ w ∈ c.waiting, w.IsPatient c.shared c.moment

namespace Orderly

variable {c : Crew σ δ} {w : Worker σ δ} {away : Nat}

theorem ofHead (shared : σ) (work : Work σ δ Unit) : (Crew.ofHead shared work).Orderly 0 where
  oneHead := by
    rw [view_ofHead, View.heads_join]
    rfl
  waiting := by simp [Crew.ofHead]

theorem heads_le (h : c.Orderly away) : c.view.heads ≤ 1 := by
  have := h.oneHead
  omega

theorem view_call (h : c.Orderly (w.isHead.toNat + away)) : (c.call w).view = c.view.join w :=
  Crew.view_call fun hw => by
    have := h.oneHead
    rw [hw, Bool.toNat_true] at this
    omega

theorem call (h : c.Orderly (w.isHead.toNat + away)) : (c.call w).Orderly away := by
  have hview := h.view_call
  obtain ⟨head, line, hcall⟩ := call_eq (c := c) (w := w)
  rw [hcall] at hview ⊢
  refine ⟨?_, h.waiting⟩
  have := h.oneHead
  rw [hview, View.heads_join]
  change _ + c.finished.toNat = 1
  omega

theorem alert {isOver : Waiter σ δ → Bool} (hheads : c.view.heads + away + c.finished.toNat = 1)
    (hwaiting : ∀ w ∈ c.waiting, isOver w = false → w.IsPatient c.shared c.moment) :
    (c.alert isOver).Orderly away := by
  have hview := view_alert (c := c) isOver (by omega)
  obtain ⟨head, line, halert⟩ := alert_eq (c := c) isOver
  rw [halert] at hview ⊢
  refine ⟨by rw [hview]; exact hheads, fun w hw => ?_⟩
  obtain ⟨hmem, hover⟩ := List.mem_filter.1 hw
  exact hwaiting w hmem (by simpa using hover)

theorem share (h : c.Orderly away) (shared : σ) : (c.share shared).Orderly away := by
  refine alert ?_ fun w hw hover => ⟨(h.waiting w hw).awaited, hover, (h.waiting w hw).due⟩
  rw [view_with_shared]
  exact h.oneHead

theorem putAside {d : Delayed σ δ} (h : c.Orderly (View.headsAmong [d] + away)) :
    (c.putAside d).Orderly away := by
  refine ⟨?_, h.waiting⟩
  have := h.oneHead
  rw [view_putAside, View.heads_plus]
  change _ + c.finished.toNat = 1
  omega

theorem wait (h : c.Orderly (w.isHead.toNat + away)) {wish : σ → Bool} {due : Option Nat}
    (hawaited : awaited w.rest = some (wish, due)) (hwish : wish c.shared = false)
    (hdue : due.any (· ≤ c.moment) = false) : (c.wait w wish due).Orderly away := by
  refine ⟨?_, fun w' hw' => ?_⟩
  · have := h.oneHead
    rw [view_wait, View.heads_join]
    change _ + c.finished.toNat = 1
    omega
  · rcases List.mem_append.1 hw' with hmem | hmem
    · exact h.waiting w' hmem
    · obtain rfl := List.mem_singleton.1 hmem
      exact ⟨hawaited, hwish, hdue⟩

/-- It is the turn of somebody who stood in the line or is the head. -/
theorem callOn {head : Option (Work σ δ Unit)} {line : List (Work σ δ Unit)} {turnsLeft : Nat}
    (h : c.Orderly 0) (hview : ({ c with head, line, turnsLeft } : Crew σ δ).view.join w = c.view) :
    ({ c with head, line, turnsLeft } : Crew σ δ).Orderly w.isHead.toNat := by
  refine ⟨?_, h.waiting⟩
  have := h.oneHead
  rw [← hview, View.heads_join] at this
  exact this

/-- What was put aside is about to be taken up. -/
theorem atBreak (h : c.Orderly 0) :
    ({ c with aside := [], turnsLeft := 0 } : Crew σ δ).Orderly (View.headsAmong c.aside) := by
  refine ⟨?_, h.waiting⟩
  have := h.oneHead
  rw [← view_plus_aside, View.heads_plus] at this
  exact this

end Orderly

/-! ### The turn of a worker -/

/-- What holds after the turn of a worker, however many steps it has left and whatever the time is.
`v` is the crew without the worker. -/
def AfterTurn (duties : δ → Work σ δ Unit) (isHead : Bool) (Q : View σ δ → Prop) :
    Work σ δ Unit → (v : View σ δ) → Prop
  | .done _, v => Q v
  | .ask .look next, v => AfterTurn duties isHead Q (next v.shared) v
  | .ask (.put shared) next, v => AfterTurn duties isHead Q (next ()) (v.share shared)
  | .ask .clock next, v => ∀ moment, AfterTurn duties isHead Q (next moment) v
  | .ask (.takeOn duty) next, v =>
      AfterTurn duties isHead Q (next ()) (v.join ⟨duties duty, false⟩)
  | .ask (.await wish due) next, v =>
      Q (v.join ⟨.ask (.await wish due) next, isHead⟩) ∧
        ((due = none → wish v.shared = true) → AfterTurn duties isHead Q (next ()) v)
  | .ask (.expect wish) next, v =>
      if wish v.shared then AfterTurn duties isHead Q (next ()) v
      else Q (v.join ⟨.ask (.expect wish) next, isHead⟩)
  | .ask .step next, v => ∀ isLeft, AfterTurn duties isHead Q (next isLeft) v
  | .ask .giveWay next, v => Q (v.join ⟨next (), isHead⟩)
  | .ask (.later change) next, v => AfterTurn duties isHead Q (next ()) (v.delay change)

section AfterTurn

variable {duties : δ → Work σ δ Unit} {isHead : Bool} {Q : View σ δ → Prop} {v : View σ δ}

/-- After a turn everything is in order, and what holds however the turn goes holds after it. -/
theorem AfterTurn.sound {work : Work σ δ Unit} {c : Crew σ δ} (hc : c.Orderly isHead.toNat)
    (h : AfterTurn duties isHead Q work c.view) (steps : Nat) :
    (turn duties isHead work steps c).Orderly 0 ∧ Q (turn duties isHead work steps c).view := by
  have haway {c : Crew σ δ} : c.Orderly isHead.toNat → c.Orderly (0 + isHead.toNat) := by
    rw [Nat.zero_add]
    exact id
  induction work generalizing c steps with
  | done _ =>
      refine ⟨⟨?_, hc.waiting⟩, h⟩
      have := hc.oneHead
      change c.view.heads + 0 + (c.finished || isHead).toNat = 1
      cases hfinished : c.finished <;> cases isHead <;> simp_all
  | ask q next ih =>
      cases q with
      | look => exact ih _ hc (by simpa only [AfterTurn, shared_view] using h) steps
      | put shared =>
          have hview := view_share (c := c) shared hc.heads_le
          exact ih _ (hc.share shared) (by rw [hview]; exact h) steps
      | clock => exact ih _ hc (h c.moment) steps
      | takeOn duty =>
          have hview : (c.call ⟨duties duty, false⟩).view = c.view.join ⟨duties duty, false⟩ :=
            (haway hc).view_call
          exact ih _ (haway hc).call (by rw [hview]; exact h) steps
      | await wish due =>
          cases steps with
          | zero => exact ⟨hc.putAside, view_putAside _ ▸ h.1⟩
          | succ steps =>
              by_cases hgo : (wish c.shared || due.any (· ≤ c.moment)) = true
              · have hready : due = none → wish c.view.shared = true := by
                  rintro rfl
                  simpa using hgo
                simpa only [turn, if_pos hgo] using ih _ hc (h.2 hready) steps
              · obtain ⟨hwish, hdue⟩ := Bool.or_eq_false_iff.1 (Bool.not_eq_true _ ▸ hgo)
                simp only [turn, if_neg hgo]
                exact ⟨hc.wait rfl hwish hdue, view_wait _ _ ▸ h.1⟩
      | expect wish =>
          by_cases hgo : wish c.shared = true
          · have hnext : AfterTurn duties isHead Q (next ()) c.view := by
              simpa only [AfterTurn, shared_view, if_pos hgo] using h
            simpa only [turn, if_pos hgo] using ih _ hc hnext steps
          · simp only [AfterTurn, shared_view, if_neg hgo] at h
            simp only [turn, if_neg hgo]
            exact ⟨hc.wait rfl (Bool.not_eq_true _ ▸ hgo) rfl, view_wait _ _ ▸ h⟩
      | step =>
          cases steps with
          | zero => exact ih _ hc (h false) 0
          | succ steps => exact ih _ hc (h true) steps
      | giveWay =>
          have hcalled : c.Orderly ((⟨next (), isHead⟩ : Worker σ δ).isHead.toNat + 0) := hc
          exact ⟨hcalled.call, hcalled.view_call ▸ h⟩
      | later change =>
          have hview := view_putAside (c := c) (.change change)
          exact ih _ (haway hc).putAside (by rw [hview]; exact h) steps

/-! ### The turn, action by action -/

section Actions

variable {f : Unit → Work σ δ Unit}

@[simp] theorem afterTurn_look {f : σ → Work σ δ Unit} :
    AfterTurn duties isHead Q (look >>= f) v ↔ AfterTurn duties isHead Q (f v.shared) v := Iff.rfl

@[simp] theorem afterTurn_change {g : σ → σ} :
    AfterTurn duties isHead Q (change g >>= f) v ↔
      AfterTurn duties isHead Q (f ()) (v.share (g v.shared)) := Iff.rfl

@[simp] theorem afterTurn_takeOn {duty : δ} :
    AfterTurn duties isHead Q (takeOn duty >>= f) v ↔
      AfterTurn duties isHead Q (f ()) (v.join ⟨duties duty, false⟩) := Iff.rfl

@[simp] theorem afterTurn_later {g : σ → σ} :
    AfterTurn duties isHead Q (later g >>= f) v ↔ AfterTurn duties isHead Q (f ()) (v.delay g) :=
  Iff.rfl

@[simp] theorem afterTurn_giveWay :
    AfterTurn duties isHead Q (giveWay >>= f) v ↔ Q (v.join ⟨f (), isHead⟩) := Iff.rfl

@[simp] theorem afterTurn_step {f : Bool → Work σ δ Unit} :
    AfterTurn duties isHead Q (step >>= f) v ↔ ∀ isLeft, AfterTurn duties isHead Q (f isLeft) v :=
  Iff.rfl

@[simp] theorem afterTurn_await {wish : σ → Bool} {due : Option Nat} :
    AfterTurn duties isHead Q (await wish due >>= f) v ↔
      Q (v.join ⟨await wish due >>= f, isHead⟩) ∧
        ((due = none → wish v.shared = true) → AfterTurn duties isHead Q (f ()) v) := Iff.rfl

@[simp] theorem afterTurn_expect {wish : σ → Bool} :
    AfterTurn duties isHead Q (expect wish >>= f) v ↔
      if wish v.shared then AfterTurn duties isHead Q (f ()) v
      else Q (v.join ⟨expect wish >>= f, isHead⟩) := Iff.rfl

end Actions

end AfterTurn

/-! ### Work in which nothing is done -/

/-- What may be left of some work after a while. -/
inductive Remainder : Work σ δ α → Work σ δ α → Prop
  | all (work : Work σ δ α) : Remainder work work
  | later {q : Ask σ δ} {next : q.Answer → Work σ δ α} {rest : Work σ δ α} (answer : q.Answer) :
      Remainder (next answer) rest → Remainder (.ask (I := asks σ δ) q next) rest

namespace Remainder

variable {work rest : Work σ δ α}

theorem trans (h : Remainder work rest) {rest' : Work σ δ α} (h' : Remainder rest rest') :
    Remainder work rest' := by
  induction h with
  | all _ => exact h'
  | later answer _ ih => exact .later answer (ih h')

theorem asksOnly (h : Remainder work rest) {P : Ask σ δ → Prop}
    (hwork : work.AsksOnly (I := asks σ δ) P) : rest.AsksOnly (I := asks σ δ) P := by
  induction h with
  | all _ => exact hwork
  | later answer _ ih => exact ih (hwork.of_ask.2 answer)

end Remainder

/-- To ask for something without doing anything. -/
def Ask.IsIdle : Ask σ δ → Prop
  | .put _ | .takeOn _ | .later _ => False
  | .look | .clock | .await _ _ | .expect _ | .step | .giveWay => True

/-- Work in which nothing is done: whoever does it looks around, waits, or makes room for others. -/
abbrev Idle (work : Work σ δ α) : Prop := work.AsksOnly (I := asks σ δ) Ask.IsIdle

/-- A worker who does nothing for a while may be anywhere in this when its turn ends. -/
theorem afterTurn_idle {duties : δ → Work σ δ Unit} {isHead : Bool} {Q : View σ δ → Prop}
    {v : View σ δ} {work : Work σ δ α} {f : α → Work σ δ Unit} (hidle : Idle work)
    (hamid : ∀ rest : Work σ δ α, Remainder work rest → Q (v.join ⟨rest >>= f, isHead⟩))
    (hdone : ∀ a, AfterTurn duties isHead Q (f a) v) :
    AfterTurn duties isHead Q (work >>= f) v := by
  induction work with
  | done a => exact hdone a
  | ask q next ih =>
      obtain ⟨hq, hnext⟩ := hidle.of_ask
      have hlater (a : q.Answer) : AfterTurn duties isHead Q (next a >>= f) v :=
        ih a (hnext a) fun rest hrest => hamid rest (.later a hrest)
      cases q with
      | look => exact hlater v.shared
      | clock => exact hlater
      | await wish due => exact ⟨hamid _ (.all _), fun _ => hlater ()⟩
      | expect wish =>
          change if _ then _ else _
          split
          · exact hlater ()
          · exact hamid _ (.all _)
      | step => exact hlater
      | giveWay => exact hamid _ (.later () (.all _))
      | put _ | takeOn _ | later _ => exact hq.elim

/-- Work that only tells something of what is shared. -/
def Tells (work : Work σ δ α) (g : σ → α) : Prop :=
  ∀ (duties : δ → Work σ δ Unit) (isHead : Bool) (Q : View σ δ → Prop) (f : α → Work σ δ Unit)
    (v : View σ δ), AfterTurn duties isHead Q (work >>= f) v ↔
      AfterTurn duties isHead Q (f (g v.shared)) v

theorem tells_pure (a : α) : Tells (pure a : Work σ δ α) fun _ => a := fun _ _ _ _ _ => Iff.rfl

theorem tells_look (g : σ → α) : Tells (do return g (← look) : Work σ δ α) g :=
  fun _ _ _ _ _ => Iff.rfl

/-! ### All turns and breaks -/

/-- A condition that every turn of a worker keeps, however it goes, and every change that was put
aside. -/
structure Keeps (duties : δ → Work σ δ Unit) (Inv : View σ δ → Prop) : Prop where
  turn : ∀ {v : View σ δ} {w : Worker σ δ}, Inv (v.join w) → AfterTurn duties w.isHead Inv w.rest v
  change : ∀ {v : View σ δ} {f : σ → σ}, Inv (v.delay f) → Inv (v.share (f v.shared))

/-- Everything is in order, and a condition holds. -/
structure Upholds (Inv : View σ δ → Prop) (c : Crew σ δ) : Prop where
  orderly : c.Orderly 0
  inv : Inv c.view

namespace Keeps

variable {duties : δ → Work σ δ Unit} {Inv : View σ δ → Prop} {c c' : Crew σ δ}

/-- The turn of a worker who stood in the line or is the head. -/
theorem afterTurn (h : Keeps duties Inv) (hc : Upholds Inv c) {w : Worker σ δ}
    {head : Option (Work σ δ Unit)} {line : List (Work σ δ Unit)} {turnsLeft : Nat}
    (hview : ({ c with head, line, turnsLeft } : Crew σ δ).view.join w = c.view) (steps : Nat) :
    Upholds Inv (Crew.turn duties w.isHead w.rest steps { c with head, line, turnsLeft }) := by
  have hinv := hc.inv
  rw [← hview] at hinv
  obtain ⟨horderly, hafter⟩ := (h.turn hinv).sound (hc.orderly.callOn hview) steps
  exact ⟨horderly, hafter⟩

theorem takeBreak (h : Keeps duties Inv) (hc : Upholds Inv c) : Upholds Inv c.takeBreak := by
  have haside (ds : List (Delayed σ δ)) (c : Crew σ δ) (hc : c.Orderly (View.headsAmong ds))
      (hinv : Inv (c.view.plus ds)) : Upholds Inv (ds.foldl takeUp c) := by
    induction ds generalizing c with
    | nil => exact ⟨hc, hinv⟩
    | cons d ds ih =>
        cases d with
        | worker w =>
            refine ih (c.call w) hc.call ?_
            rw [hc.view_call, View.plus_join]
            exact hinv
        | change f =>
            have hchange := h.change hinv
            rw [View.shared_plus, shared_view] at hchange
            refine ih (c.share (f c.shared)) (hc.share _) ?_
            rw [view_share _ hc.heads_le, View.plus_share]
            exact hchange
  refine haside c.aside _ hc.orderly.atBreak ?_
  rw [view_plus_aside]
  exact hc.inv

theorem headTurn (h : Keeps duties Inv) (hc : Upholds Inv c) : Upholds Inv (c.headTurn duties) := by
  simp only [Crew.headTurn]
  split
  · next work hhead =>
    exact h.afterTurn (w := ⟨work, true⟩) hc (view_join_head hhead turnsPerBreak) stepsPerTurn
  · exact ⟨⟨hc.orderly.oneHead, hc.orderly.waiting⟩, hc.inv⟩

theorem passTime (hc : Upholds Inv c) (moment : Nat) : Upholds Inv (c.passTime moment) := by
  refine ⟨.alert hc.orderly.oneHead fun w hw hover => ?_, ?_⟩
  · exact ⟨(hc.orderly.waiting w hw).awaited, (hc.orderly.waiting w hw).wish, hover⟩
  have hview : (c.passTime moment).view = c.view := view_alert _ hc.orderly.heads_le
  rw [hview]
  exact hc.inv

theorem next (h : Keeps duties Inv) (hc : Upholds Inv c) (hnext : c.next? duties = some c') :
    Upholds Inv c' := by
  unfold next? at hnext
  split at hnext
  · cases hnext
  · split at hnext
    · obtain rfl := Option.some.inj hnext
      exact h.headTurn hc
    · next left work line _ hline =>
        have hturn : Upholds Inv (Crew.turn duties false work stepsPerTurn
            { c with line, turnsLeft := left }) :=
          h.afterTurn (w := ⟨work, false⟩) hc (view_join_line hline left) stepsPerTurn
        obtain rfl := Option.some.inj hnext
        split
        · exact h.takeBreak hturn
        · exact hturn
    · split at hnext
      · obtain ⟨moment, -, rfl⟩ := Option.map_eq_some_iff.1 hnext
        exact passTime hc moment
      · obtain rfl := Option.some.inj hnext
        exact h.takeBreak hc

/-- **An invariant holds for as long as the crew is at work.** -/
theorem run (h : Keeps duties Inv) (hc : Upholds Inv c) (limit : Nat) :
    Upholds Inv (c.run duties limit) := by
  induction limit generalizing c with
  | zero => exact hc
  | succ limit ih =>
      cases hnext : c.next? duties with
      | none => simpa only [Crew.run, hnext] using hc
      | some c' => simpa only [Crew.run, hnext] using ih (h.next hc hnext)

end Keeps

end TaskLedger.Crew
