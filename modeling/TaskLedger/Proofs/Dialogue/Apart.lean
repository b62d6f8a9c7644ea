import Mathlib.Data.List.Nodup
import Mathlib.Data.List.Perm.Basic
import TaskLedger.Proofs.Dialogue.Interleaving

/-!
**Dialogues that keep apart.**

Two dialogues keep apart if neither of them can tell whether the other was held before, and if the
state after both is the same either way.  Any number of dialogues of which any two keep apart may be
held in any order: each ends as if it were held alone, and the state after all of them is the same.
If even their questions keep apart, they need not wait for each other, and may be held side by side
in any interleaving.

Main definitions:

* `TaskLedger.Dialogue.Apart` — two dialogues keep apart;
* `TaskLedger.Dialogue.afterAll` — the state after some dialogues were held one after the other;
* `TaskLedger.Scene.OnTheWay` — where some dialogues are going, if nobody else is around.

Main results:

* `TaskLedger.Dialogue.AsksOnly.apart` — dialogues keep apart if all their questions do;
* `TaskLedger.Dialogue.run_mapM_of_apart`, `TaskLedger.Dialogue.afterAll_perm` — **in any order**, the
  results and the state are the same;
* `TaskLedger.Scene.play_of_apart` — **in any interleaving** they are the same.
-/

set_option autoImplicit false

namespace TaskLedger

variable {I : Interface} {σ ε ι : Type} {answer : (q : I.Question) → σ → I.Answer q × σ}

namespace Dialogue

variable {α β : Type}

/-- Neither of two dialogues can tell whether the other was held before, and the state after both is
the same either way. -/
structure Apart (answer : (q : I.Question) → σ → I.Answer q × σ) (d : Dialogue I α)
    (d' : Dialogue I β) : Prop where
  first : ∀ s, (d.run answer (d'.run answer s).2).1 = (d.run answer s).1
  second : ∀ s, (d'.run answer (d.run answer s).2).1 = (d'.run answer s).1
  state : ∀ s, (d.run answer (d'.run answer s).2).2 = (d'.run answer (d.run answer s).2).2

namespace Apart

variable {d : Dialogue I α} {d' : Dialogue I β}

theorem symm (h : Apart answer d d') : Apart answer d' d :=
  ⟨h.second, h.first, fun s => (h.state s).symm⟩

theorem done (r : α) (d' : Dialogue I β) : Apart answer (.done r) d' :=
  ⟨fun _ => rfl, fun _ => rfl, fun _ => rfl⟩

/-- A question keeps apart from a dialogue with all that follows it. -/
theorem ask {q : I.Question} {next : I.Answer q → Dialogue I α} (hq : Apart answer (request q) d')
    (hnext : ∀ a, Apart answer (next a) d') : Apart answer (.ask q next) d' := by
  have hanswer : ∀ s, (answer q (d'.run answer s).2).1 = (answer q s).1 := hq.first
  have hresult : ∀ s, (d'.run answer (answer q s).2).1 = (d'.run answer s).1 := hq.second
  have hstate : ∀ s, (answer q (d'.run answer s).2).2 = (d'.run answer (answer q s).2).2 := hq.state
  constructor
  · intro s
    rw [run_ask, run_ask, hanswer, hstate, (hnext _).first]
  · intro s
    rw [run_ask, (hnext _).second, hresult]
  · intro s
    rw [run_ask, run_ask, hanswer, hstate, (hnext _).state]

end Apart

theorem AsksOnly.of_ask {P : I.Question → Prop} {q : I.Question} {next : I.Answer q → Dialogue I α}
    (h : (Dialogue.ask q next).AsksOnly P) : P q ∧ ∀ a, (next a).AsksOnly P :=
  ⟨h [] q (asks_ask.2 (Or.inl ⟨rfl, rfl⟩)),
    fun a h' q' hasks => h _ q' (asks_ask.2 (Or.inr ⟨a, h', rfl, hasks⟩))⟩

/-- **Dialogues keep apart if all their questions do.** -/
theorem AsksOnly.apart {P P' : I.Question → Prop} {d : Dialogue I α} {d' : Dialogue I β}
    (hd : d.AsksOnly P) (hd' : d'.AsksOnly P')
    (hP : ∀ q q', P q → P' q' → Apart answer (Dialogue.request q) (Dialogue.request q')) :
    Apart answer d d' := by
  have hrequest : ∀ q, P q → Apart answer (Dialogue.request q) d' := by
    intro q hq
    induction d' with
    | done r => exact (Apart.done r _).symm
    | ask q' next ih =>
        obtain ⟨hq', hnext⟩ := hd'.of_ask
        exact (Apart.ask (hP q q' hq hq').symm fun a => (ih a (hnext a)).symm).symm
  induction d with
  | done r => exact .done r d'
  | ask q next ih =>
      obtain ⟨hq, hnext⟩ := hd.of_ask
      exact .ask (hrequest q hq) fun a => ih a (hnext a)

/-! ### In any order -/

/-- The state after some dialogues were held one after the other. -/
def afterAll {α : ι → Type} (answer : (q : I.Question) → σ → I.Answer q × σ)
    (d : (i : ι) → Dialogue I (α i)) (l : List ι) (s : σ) : σ :=
  l.foldl (fun s i => ((d i).run answer s).2) s

section AfterAll

variable {γ : ι → Type} {d d' : (i : ι) → Dialogue I (γ i)} {l l' : List ι}

@[simp] theorem afterAll_cons (i : ι) (s : σ) :
    afterAll answer d (i :: l) s = afterAll answer d l ((d i).run answer s).2 := rfl

theorem afterAll_congr (h : ∀ i ∈ l, d i = d' i) (s : σ) :
    afterAll answer d l s = afterAll answer d' l s := by
  induction l generalizing s with
  | nil => rfl
  | cons i l ih =>
      rw [afterAll_cons, afterAll_cons, h i List.mem_cons_self]
      exact ih (fun j hj => h j (List.mem_cons_of_mem i hj)) _

/-- **The state is the same whatever the order.** -/
theorem afterAll_perm (hapart : ∀ i ∈ l, ∀ j ∈ l, i ≠ j → Apart answer (d i) (d j))
    (hperm : l.Perm l') (s : σ) : afterAll answer d l s = afterAll answer d l' s := by
  refine hperm.foldl_eq' (fun i hi j hj s => ?_) s
  by_cases hij : j = i
  · rw [hij]
  · exact (hapart j hj i hi hij).state s

/-- Dialogues that have ended leave the state as it is. -/
theorem afterAll_of_done (h : ∀ i ∈ l, ∃ r, d i = .done r) (s : σ) :
    afterAll answer d l s = s := by
  induction l with
  | nil => rfl
  | cons i l ih =>
      obtain ⟨r, hr⟩ := h i List.mem_cons_self
      rw [afterAll_cons, hr]
      exact ih fun j hj => h j (List.mem_cons_of_mem i hj)

end AfterAll

/-- **Each dialogue ends as if it were held alone.** -/
theorem run_mapM_of_apart {d : ι → Dialogue I α} {l : List ι}
    (hapart : l.Pairwise fun i j => Apart answer (d i) (d j)) (s : σ) :
    (l.mapM d).run answer s =
      (l.map fun i => ((d i).run answer s).1, afterAll answer d l s) := by
  induction l generalizing s with
  | nil => rfl
  | cons i l ih =>
      obtain ⟨hi, hl⟩ := List.pairwise_cons.1 hapart
      have hsame : (l.map fun j => ((d j).run answer ((d i).run answer s).2).1) =
          l.map fun j => ((d j).run answer s).1 :=
        List.map_congr_left fun j hj => (hi j hj).second s
      simp only [List.mapM_cons, bind_def, run_bind, ih hl, hsame]
      rfl

end Dialogue

/-! ### In any interleaving -/

namespace Scene

open Dialogue

variable {α : ι → Type} {w : World I σ ε} {l : List ι}
  {P : ι → I.Question → Prop} {c : Scene I α σ} {last : σ} {result : (i : ι) → α i}

/-- What each of some dialogues may ask keeps apart from what any other of them may ask. -/
def AskApart (w : World I σ ε) (l : List ι) (P : ι → I.Question → Prop) : Prop :=
  ∀ i ∈ l, ∀ j ∈ l, i ≠ j → ∀ q q', P i q → P j q' → Apart w.answer (request q) (request q')

/-- Some dialogues are on their way: they ask only what they may, and if they were held to their ends
now, one after the other, they would come to a certain state, and each to a certain result. -/
structure OnTheWay (w : World I σ ε) (l : List ι) (P : ι → I.Question → Prop) (last : σ)
    (result : (i : ι) → α i) (c : Scene I α σ) : Prop where
  asksOnly : ∀ i ∈ l, (c.rest i).AsksOnly (P i)
  state : afterAll w.answer c.rest l c.state = last
  result : ∀ i ∈ l, ((c.rest i).run w.answer c.state).1 = result i

/-- Where they were going is where they are when all of them have ended. -/
theorem OnTheWay.arrived (h : OnTheWay w l P last result c)
    (hended : ∀ i ∈ l, (c.result? i).isSome) :
    c.state = last ∧ ∀ i ∈ l, c.result? i = some (result i) := by
  have hdone : ∀ i ∈ l, ∃ r, c.rest i = .done r := by
    intro i hi
    have hsome := hended i hi
    unfold result? at hsome
    split at hsome
    · next r hr => exact ⟨r, hr⟩
    · cases hsome
  refine ⟨(afterAll_of_done hdone c.state).symm.trans h.state, fun i hi => ?_⟩
  obtain ⟨r, hr⟩ := hdone i hi
  rw [← h.result i hi, hr]
  simp only [result?, hr, run_done]

variable [DecidableEq ι]

/-- **A turn of one of them changes nothing of where they are going.** -/
theorem OnTheWay.step (hl : l.Nodup) (hP : AskApart w l P) (h : OnTheWay w l P last result c) {i : ι}
    (hi : i ∈ l) : OnTheWay w l P last result (c.step w (.next i)) := by
  cases hrest : c.rest i with
  | done r => simpa only [Scene.step, hrest] using h
  | ask q next =>
      obtain ⟨hq, hnext⟩ := (hrest ▸ h.asksOnly i hi : (Dialogue.ask q next).AsksOnly (P i)).of_ask
      simp only [Scene.step, hrest]
      set a := (w.answer q c.state).1
      set s := (w.answer q c.state).2
      have hothers : ∀ j, j ≠ i → Function.update c.rest i (next a) j = c.rest j :=
        fun j hj => Function.update_of_ne hj _ _
      have hasks : ∀ j ∈ l, (Function.update c.rest i (next a) j).AsksOnly (P j) := by
        intro j hj
        by_cases hji : j = i
        · subst hji
          rw [Function.update_self]
          exact hnext a
        · rw [hothers j hji]
          exact h.asksOnly j hj
      refine ⟨hasks, ?_, fun j hj => ?_⟩
      -- It does no harm to say that the dialogue whose turn it is would have been the first.
      · have hfront : l.Perm (i :: l.erase i) := List.perm_cons_erase hi
        have hlater : ∀ j ∈ l.erase i, c.rest j = Function.update c.rest i (next a) j :=
          fun j hj => (hothers j (fun hji => hl.not_mem_erase (hji ▸ hj))).symm
        have hbefore := afterAll_perm (fun j hj k hk hjk =>
          AsksOnly.apart (h.asksOnly j hj) (h.asksOnly k hk) (hP j hj k hk hjk)) hfront c.state
        have hafter := afterAll_perm (fun j hj k hk hjk =>
          AsksOnly.apart (hasks j hj) (hasks k hk) (hP j hj k hk hjk)) hfront s
        rw [← h.state, hbefore, hafter, afterAll_cons, afterAll_cons, afterAll_congr hlater, hrest,
          Function.update_self]
        rfl
      · change ((Function.update c.rest i (next a) j).run w.answer s).1 = result j
        rw [← h.result j hj]
        by_cases hji : j = i
        · subst hji
          rw [hrest, Function.update_self]
          rfl
        · have hrequest : (request q).AsksOnly (P i) := .request hq
          rw [hothers j hji]
          exact (AsksOnly.apart (h.asksOnly j hj) hrequest (hP j hj i hi hji)).first c.state

theorem OnTheWay.play (hl : l.Nodup) (hP : AskApart w l P) (h : OnTheWay w l P last result c)
    {order : List ι} (horder : ∀ i ∈ order, i ∈ l) :
    OnTheWay w l P last result (c.play w (order.map .next)) := by
  induction order generalizing c with
  | nil => exact h
  | cons i order ih =>
      exact ih (h.step hl hP (horder i List.mem_cons_self)) fun j hj =>
        horder j (List.mem_cons_of_mem i hj)

/-- **In any interleaving** of dialogues that keep apart, once all have ended, each has ended as if it
were held alone, and the state is as after all of them, one after the other. -/
theorem play_of_apart {d : (i : ι) → Dialogue I (α i)} (hl : l.Nodup) (hP : AskApart w l P)
    (hd : ∀ i ∈ l, (d i).AsksOnly (P i)) (s : σ) {order : List ι} (horder : ∀ i ∈ order, i ∈ l)
    (hended : ∀ i ∈ l, (((start d s).play w (order.map .next)).result? i).isSome) :
    ((start d s).play w (order.map .next)).state = afterAll w.answer d l s ∧
      ∀ i ∈ l, ((start d s).play w (order.map .next)).result? i =
        some ((d i).run w.answer s).1 := by
  have hstart : OnTheWay w l P (afterAll w.answer d l s) (fun i => ((d i).run w.answer s).1)
      (start d s) := ⟨hd, rfl, fun _ _ => rfl⟩
  exact (hstart.play hl hP horder).arrived hended

end Scene

end TaskLedger
