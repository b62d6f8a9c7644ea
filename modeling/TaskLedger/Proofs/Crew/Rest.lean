import Mathlib.Logic.Hydra
import TaskLedger.Proofs.Crew.Invariant

/-!
**How a crew comes to rest.**

A crew rests when its head has done its work, or when everyone in it waits for something that nobody is
left to bring about.  Work is a finite matter, whatever the answers are, and so the only way never to
come to rest is to go on taking on new workers.  If what follows from each duty comes to an end, then
every crew comes to rest.

At each turn some work is replaced by what follows from it, unless the worker waits at once.  Then it is
no longer ready, and if nobody is ready the clock goes on to a moment for which somebody waits.

Main definitions:

* `TaskLedger.Crew.Follows` — what follows from something that is to be done;
* `TaskLedger.Crew.View.chores`, `TaskLedger.Crew.Less` — what is still to be done, and less of it;
* `TaskLedger.Crew.early`, `TaskLedger.Crew.bustle`, `TaskLedger.Crew.Calmer` — a crew comes closer to
  rest;
* `TaskLedger.Crew.View.AtRest` — what is seen of a crew at rest;
* `TaskLedger.Crew.Ask.IsTimely` — to ask for something without waiting for others.

Main results:

* `TaskLedger.Crew.Orderly.exists_rest` — **every crew comes to rest**, if what follows from each duty
  comes to an end;
* `TaskLedger.Crew.Orderly.atRest` — **nobody in a crew at rest can go on**;
* `TaskLedger.Crew.idle_sleep`, `TaskLedger.Crew.timely_sleep` — whoever sleeps does nothing, and does
  not wait for others.
-/

set_option autoImplicit false

namespace TaskLedger.Crew

open Relation

variable {σ δ α : Type}

/-! ### What follows from some work -/

/-- What is still to be done: some work, or a change that was put aside. -/
abbrev Chore (σ δ : Type) : Type := Option (Work σ δ Unit)

/-- What follows from something that is to be done: what comes after an answer, the work of somebody
who is taken on, and a change that is put aside. -/
inductive Follows (duties : δ → Work σ δ Unit) : Chore σ δ → Chore σ δ → Prop
  | answer {q : Ask σ δ} {next : q.Answer → Work σ δ Unit} (answer : q.Answer) :
      Follows duties (some (next answer)) (some (.ask (I := asks σ δ) q next))
  | takeOn {duty : δ} {next : Unit → Work σ δ Unit} :
      Follows duties (some (duties duty)) (some (.ask (I := asks σ δ) (.takeOn duty) next))
  | later {change : σ → σ} {next : Unit → Work σ δ Unit} :
      Follows duties none (some (.ask (I := asks σ δ) (.later change) next))

section Follows

variable {duties : δ → Work σ δ Unit}

theorem acc_none : Acc (Follows duties) none := ⟨_, fun _ h => by cases h⟩

/-- Work comes to an end if the work of everyone who may be taken on for it does. -/
theorem acc_of_asksOnly {P : Ask σ δ → Prop}
    (hduty : ∀ duty, P (.takeOn duty) → Acc (Follows duties) (some (duties duty)))
    {work : Work σ δ Unit} (hwork : work.AsksOnly (I := asks σ δ) P) :
    Acc (Follows duties) (some work) := by
  induction work with
  | done _ => exact ⟨_, fun _ h => by cases h⟩
  | ask q next ih =>
      obtain ⟨hq, hnext⟩ := hwork.of_ask
      refine ⟨_, fun _ h => ?_⟩
      cases h with
      | answer answer => exact ih answer (hnext answer)
      | takeOn => exact hduty _ hq
      | later => exact acc_none

theorem wellFounded_follows (hduty : ∀ duty, Acc (Follows duties) (some (duties duty))) :
    WellFounded (Follows duties) := by
  constructor
  rintro (_ | work)
  · exact acc_none
  · exact acc_of_asksOnly (P := fun _ => True) (fun duty _ => hduty duty) fun _ _ _ => trivial

end Follows

/-! ### Less to be done -/

/-- What is still to be done in a crew. -/
def View.chores (v : View σ δ) : Multiset (Chore σ δ) :=
  v.workers.map (fun w => some w.rest) + v.delayed.map fun _ => none

@[simp] theorem View.chores_join (v : View σ δ) (w : Worker σ δ) :
    (v.join w).chores = some w.rest ::ₘ v.chores := by
  simp [chores, join, Multiset.cons_add]

@[simp] theorem View.chores_delay (v : View σ δ) (f : σ → σ) :
    (v.delay f).chores = none ::ₘ v.chores := by
  simp [chores, delay, Multiset.add_cons]

@[simp] theorem View.chores_share (v : View σ δ) (shared : σ) : (v.share shared).chores = v.chores :=
  rfl

/-- Less is to be done: some things were replaced by what follows from them. -/
def Less (duties : δ → Work σ δ Unit) : Multiset (Chore σ δ) → Multiset (Chore σ δ) → Prop :=
  TransGen (CutExpand (Follows duties))

section Less

variable {duties : δ → Work σ δ Unit} {s t u : Multiset (Chore σ δ)} {c : Chore σ δ}

theorem Less.trans (h : Less duties s t) (h' : Less duties t u) : Less duties s u :=
  TransGen.trans h h'

/-- Something is replaced by what follows from it. -/
theorem less_of_follows (s : Multiset (Chore σ δ)) (h : ∀ c' ∈ t, Follows duties c' c) :
    Less duties (t + s) (c ::ₘ s) := by
  refine .single ⟨t, c, h, ?_⟩
  rw [← Multiset.singleton_add]
  ac_rfl

theorem less_cons (s : Multiset (Chore σ δ)) : Less duties s (c ::ₘ s) := by
  have h : Less duties (0 + s) (c ::ₘ s) := less_of_follows s (by simp)
  rwa [Multiset.zero_add] at h

theorem less_cons_cons {c' : Chore σ δ} (h : Follows duties c' c) (s : Multiset (Chore σ δ)) :
    Less duties (c' ::ₘ s) (c ::ₘ s) := by
  rw [← Multiset.singleton_add c' s]
  exact less_of_follows s (by simpa using h)

/-- An answer is given. -/
theorem less_answer (q : Ask σ δ) (next : q.Answer → Work σ δ Unit) (answer : q.Answer)
    (s : Multiset (Chore σ δ)) :
    Less duties (some (next answer) ::ₘ s) (some (.ask (I := asks σ δ) q next) ::ₘ s) :=
  less_cons_cons (.answer answer) s

theorem less_cons_cons_cons {c₁ c₂ : Chore σ δ} (h₁ : Follows duties c₁ c)
    (h₂ : Follows duties c₂ c) (s : Multiset (Chore σ δ)) :
    Less duties (c₁ ::ₘ c₂ ::ₘ s) (c ::ₘ s) := by
  rw [← Multiset.singleton_add c₁, ← Multiset.singleton_add c₂, ← Multiset.add_assoc]
  exact less_of_follows s (by simpa using ⟨h₁, h₂⟩)

theorem wellFounded_less (h : WellFounded (Follows duties)) : WellFounded (Less duties) :=
  h.cutExpand.transGen

end Less

/-! ### The turn of a worker -/

/-- What holds after a turn, and implies something else. -/
theorem AfterTurn.mono {duties : δ → Work σ δ Unit} {isHead : Bool} {Q Q' : View σ δ → Prop}
    (h : ∀ v, Q v → Q' v) {work : Work σ δ Unit} {v : View σ δ}
    (hafter : AfterTurn duties isHead Q work v) : AfterTurn duties isHead Q' work v := by
  induction work generalizing v with
  | done _ => exact h v hafter
  | ask q next ih =>
      cases q with
      | look | put _ | takeOn _ | later _ => exact ih _ hafter
      | clock | step => exact fun answer => ih answer (hafter answer)
      | await wish due => exact ⟨h _ hafter.1, fun hready => ih () (hafter.2 hready)⟩
      | expect wish =>
          change if _ then _ else _ at hafter ⊢
          split at hafter
          · next hgo =>
            rw [if_pos hgo]
            exact ih () hafter
          · next hgo =>
            rw [if_neg hgo]
            exact h _ hafter
      | giveWay => exact h _ hafter

section Turn

variable {duties : δ → Work σ δ Unit} {isHead : Bool}

/-- If less is to be done before a turn, then less is to be done after it. -/
theorem less_of_turn {work : Work σ δ Unit} {v v' : View σ δ} {s : Multiset (Chore σ δ)} {p : Prop}
    (h : Less duties v'.chores (some work ::ₘ v.chores) ∨ v' = v.join ⟨work, isHead⟩ ∧ p)
    (hless : Less duties (some work ::ₘ v.chores) s) : Less duties v'.chores s := by
  rcases h with h | ⟨rfl, -⟩
  · exact h.trans hless
  · rw [View.chores_join]
    exact hless

variable (duties isHead) in
/-- After its turn a worker who does not wait at once has less to do. -/
theorem afterTurn_less (work : Work σ δ Unit) (v : View σ δ) :
    AfterTurn duties isHead (fun v' => Less duties v'.chores (some work ::ₘ v.chores) ∨
      v' = v.join ⟨work, isHead⟩ ∧ (awaited work).isSome) work v := by
  induction work generalizing v with
  | done _ => exact .inl (less_cons v.chores)
  | ask q next ih =>
      -- whatever the worker does after the answer, it has less to do than before it
      have hlater (v' : View σ δ) {answer : q.Answer}
          (hless : Less duties (some (next answer) ::ₘ v'.chores)
            (some (.ask (I := asks σ δ) q next) ::ₘ v.chores)) :
          AfterTurn duties isHead (fun v'' =>
            Less duties v''.chores (some (.ask (I := asks σ δ) q next) ::ₘ v.chores) ∨
              v'' = v.join ⟨.ask (I := asks σ δ) q next, isHead⟩ ∧
                (awaited (σ := σ) (δ := δ) (.ask (I := asks σ δ) q next)).isSome) (next answer) v' :=
        (ih answer v').mono fun _ h => .inl (less_of_turn h hless)
      cases q with
      | look => exact hlater v (less_answer .look next v.shared _)
      | put shared => exact hlater (v.share shared) (less_answer (.put shared) next () _)
      | clock => exact fun moment => hlater v (less_answer .clock next moment _)
      | takeOn duty =>
          refine hlater (v.join ⟨duties duty, false⟩) ?_
          rw [View.chores_join]
          exact less_cons_cons_cons (.answer (q := .takeOn duty) ()) .takeOn v.chores
      | await wish due =>
          exact ⟨.inr ⟨rfl, rfl⟩, fun _ => hlater v (less_answer (.await wish due) next () _)⟩
      | expect wish =>
          change if _ then _ else _
          split
          · exact hlater v (less_answer (.expect wish) next () _)
          · exact .inr ⟨rfl, rfl⟩
      | step => exact fun isLeft => hlater v (less_answer .step next isLeft _)
      | giveWay => exact .inl (by rw [View.chores_join]; exact less_answer .giveWay next () _)
      | later change =>
          refine hlater (v.delay change) ?_
          rw [View.chores_delay]
          exact less_cons_cons_cons (.answer (q := .later change) ()) .later v.chores

theorem orderly_turn {work : Work σ δ Unit} {c : Crew σ δ} (hc : c.Orderly isHead.toNat)
    (steps : Nat) : (turn duties isHead work steps c).Orderly 0 :=
  ((afterTurn_less duties isHead work c.view).sound hc steps).1

/-- In a turn either less is left to be done, or the worker waits at once. -/
theorem turn_less_or_wait {work : Work σ δ Unit} {c : Crew σ δ} (hc : c.Orderly isHead.toNat)
    (steps : Nat) :
    Less duties (turn duties isHead work (steps + 1) c).view.chores (some work ::ₘ c.view.chores) ∨
      ∃ wish due, turn duties isHead work (steps + 1) c = c.wait ⟨work, isHead⟩ wish due := by
  have hsound (work : Work σ δ Unit) (steps : Nat) :=
    ((afterTurn_less duties isHead work c.view).sound hc steps).2
  have hgone (q : Ask σ δ) (next : q.Answer → Work σ δ Unit) (answer : q.Answer) (steps : Nat) :
      Less duties (turn duties isHead (next answer) steps c).view.chores
        (some (.ask (I := asks σ δ) q next) ::ₘ c.view.chores) :=
    less_of_turn (hsound (next answer) steps) (less_answer q next answer _)
  cases work with
  | done r =>
      rcases hsound (.done r) (steps + 1) with h | ⟨-, h⟩
      · exact .inl h
      · cases h
  | ask q next =>
      cases q with
      | await wish due =>
          rw [turn]
          split
          · exact .inl (hgone (.await wish due) next () steps)
          · exact .inr ⟨wish, due, rfl⟩
      | expect wish =>
          rw [turn]
          split
          · exact .inl (hgone (.expect wish) next () (steps + 1))
          · exact .inr ⟨wish, none, rfl⟩
      | look | put _ | clock | takeOn _ | step | giveWay | later _ =>
          rcases hsound (.ask (I := asks σ δ) _ next) (steps + 1) with h | ⟨-, h⟩
          · exact .inl h
          · cases h

end Turn

/-! ### Closer to rest -/

/-- The moment for which somebody is about to wait. -/
def Worker.due? (w : Worker σ δ) : Option Nat := (awaited w.rest).bind Prod.snd

/-- How many wait, or are about to wait, for a moment that is still to come. -/
def early (c : Crew σ δ) : Nat := c.view.workers.countP fun w => w.due?.any (c.moment < ·) = true

/-- How many are ready. -/
def ready (c : Crew σ δ) : Nat := c.line.length + c.head.isSome.toNat

/-- How much can happen of which nothing comes, before the clock goes on: the turns of those who wait at
once, and the breaks. -/
def bustle (c : Crew σ δ) : Nat :=
  4 * c.aside.length + 2 * c.ready + (decide (c.turnsLeft = 0) != c.head.isSome).toNat

/-- A crew has come closer to rest: less is to be done, or at least there is less to wait for, or at
least less can happen of which nothing comes. -/
def Calmer (duties : δ → Work σ δ Unit) (c' c : Crew σ δ) : Prop :=
  Prod.Lex (Less duties) (Prod.Lex (· < ·) (· < ·)) (c'.view.chores, c'.early, c'.bustle)
    (c.view.chores, c.early, c.bustle)

section Calmer

variable {duties : δ → Work σ δ Unit} {c c' : Crew σ δ}

theorem wellFounded_calmer (h : WellFounded (Follows duties)) : WellFounded (Calmer duties) :=
  InvImage.wf _ ((wellFounded_less h).prod_lex (Nat.lt_wfRel.wf.prod_lex Nat.lt_wfRel.wf))

theorem calmer_of_less (h : Less duties c'.view.chores c.view.chores) : Calmer duties c' c :=
  .left _ _ h

theorem calmer_of_early (hview : c'.view = c.view) (h : c'.early < c.early) :
    Calmer duties c' c := by
  rw [Calmer, hview]
  exact .right _ (.left _ _ h)

theorem calmer_of_bustle (hview : c'.view = c.view) (hmoment : c'.moment = c.moment)
    (h : c'.bustle < c.bustle) : Calmer duties c' c := by
  have hearly : c'.early = c.early := by rw [early, early, hview, hmoment]
  rw [Calmer, hview, hearly]
  exact .right _ (.right _ h)

theorem ready_call_le (c : Crew σ δ) (w : Worker σ δ) : (c.call w).ready ≤ c.ready + 1 := by
  unfold call ready
  split
  · cases c.head <;> simp
  · simp only [List.length_append, List.length_singleton]
    omega

variable (duties) in
/-- When what was put aside is taken up, a delayed change is made, or else all of it is ready. -/
theorem foldl_takeUp_cases (ds : List (Delayed σ δ)) (hc : c.Orderly (View.headsAmong ds)) :
    Less duties (ds.foldl takeUp c).view.chores (c.view.plus ds).chores ∨
      (ds.foldl takeUp c).view = c.view.plus ds ∧
        ∃ head line, ds.foldl takeUp c = { c with head, line } ∧
          line.length + head.isSome.toNat ≤ c.ready + ds.length := by
  induction ds generalizing c with
  | nil => exact .inr ⟨rfl, c.head, c.line, rfl, Nat.le_refl _⟩
  | cons d ds ih =>
      cases d with
      | worker w =>
          have hview : (c.call w).view.plus ds = c.view.plus (.worker w :: ds) := by
            rw [hc.view_call, View.plus_join]
            rfl
          have hready : (c.call w).ready ≤ c.ready + 1 := ready_call_le c w
          rw [← hview]
          refine (ih hc.call).imp id fun ⟨hplus, head, line, hfold, hle⟩ => ⟨hplus, head, line, ?_, ?_⟩
          · obtain ⟨_, _, hcall⟩ := call_eq (c := c) (w := w)
            rw [hcall] at hfold
            rw [List.foldl_cons, takeUp, hcall]
            exact hfold
          · rw [List.length_cons]
            omega
      | change f =>
          have hview : ((c.share (f c.shared)).view.plus ds).chores = (c.view.plus ds).chores := by
            rw [view_share _ hc.heads_le, View.plus_share, View.chores_share]
          have hless : Less duties (c.view.plus ds).chores (c.view.plus (.change f :: ds)).chores := by
            rw [View.plus, View.chores_delay]
            exact less_cons _
          rcases ih (hc.share (f c.shared)) with h | ⟨h, -⟩
          · exact .inl ((hview ▸ h).trans hless)
          · left
            rw [List.foldl_cons, takeUp, h, hview]
            exact hless

variable (duties) in
/-- In a break a delayed change is made, or else everyone who was put aside is ready. -/
theorem takeBreak_cases (hc : c.Orderly 0) : Less duties c.takeBreak.view.chores c.view.chores ∨
    c.takeBreak.view = c.view ∧ c.takeBreak.moment = c.moment ∧
      c.takeBreak.bustle ≤ 2 * (c.ready + c.aside.length) + 1 := by
  have hcases := foldl_takeUp_cases duties c.aside hc.atBreak
  rw [view_plus_aside] at hcases
  refine hcases.imp id fun ⟨hview, head, line, hfold, hle⟩ => ⟨hview, ?_⟩
  have hbreak : c.takeBreak = { c with aside := [], turnsLeft := 0, head, line } := hfold
  rw [hbreak]
  refine ⟨rfl, ?_⟩
  have hphase := Bool.toNat_le (decide (0 = 0) != head.isSome)
  change 4 * 0 + 2 * (line.length + head.isSome.toNat) + (decide (0 = 0) != head.isSome).toNat ≤ _
  change _ ≤ c.ready + _ at hle
  omega

theorem mem_workers_plus {v : View σ δ} {ds : List (Delayed σ δ)} {w : Worker σ δ}
    (h : w ∈ v.workers ∨ .worker w ∈ ds) : w ∈ (v.plus ds).workers := by
  induction ds with
  | nil => simpa [View.plus] using h
  | cons d ds ih =>
      cases d with
      | worker w' =>
          refine Multiset.mem_cons.2 ?_
          simp only [List.mem_cons, Delayed.worker.injEq] at h
          tauto
      | change f => exact ih (by simpa using h)

/-- The clock goes on to a moment for which somebody waits. -/
theorem early_passTime (hc : c.Orderly 0) {moment : Nat} (h : c.nextMoment? = some moment) :
    (c.passTime moment).early < c.early := by
  obtain ⟨w, hw, hdue⟩ := List.mem_filterMap.1 (List.min?_mem h)
  have hpatient := hc.waiting w hw
  have hlater : c.moment < moment := by simpa [hdue] using hpatient.due
  have hmem : w.worker ∈ c.view.workers := by
    refine mem_workers_plus (.inl (mem_workers_plus (.inr ?_)))
    exact List.mem_map_of_mem (List.mem_map_of_mem hw)
  obtain ⟨others, hothers⟩ := Multiset.exists_cons_of_mem hmem
  have hview : (c.passTime moment).view = c.view := view_alert _ hc.heads_le
  have hmoment : (c.passTime moment).moment = moment := by
    obtain ⟨_, _, halert⟩ := alert_eq (c := { c with moment, turnsLeft := 0 })
      fun w => w.due.any (· ≤ moment)
    exact congrArg Crew.moment halert
  have hdue' : w.worker.due? = some moment := by
    rw [Worker.due?, hpatient.awaited]
    exact hdue
  rw [early, early, hview, hmoment, hothers,
    Multiset.countP_cons_of_neg _ (by simp [hdue']),
    Multiset.countP_cons_of_pos _ (by simp [hdue', hlater]),
    Multiset.countP_eq_card_filter, Multiset.countP_eq_card_filter]
  refine Nat.lt_succ_of_le (Multiset.card_le_card (Multiset.monotone_filter_right _ fun w' hw' => ?_))
  cases hsome : w'.due? with
  | none => simp [hsome] at hw'
  | some due =>
      simp only [hsome, Option.any_some, decide_eq_true_eq] at hw' ⊢
      omega

variable (duties) in
/-- In the turn of a worker who stood in the line or is the head, less is left to be done, or the worker
waits at once. -/
theorem callOn_less_or_wait (hc : c.Orderly 0) {w : Worker σ δ} {head : Option (Work σ δ Unit)}
    {line : List (Work σ δ Unit)} {turnsLeft : Nat}
    (hview : ({ c with head, line, turnsLeft } : Crew σ δ).view.join w = c.view) :
    Less duties (turn duties w.isHead w.rest stepsPerTurn
        { c with head, line, turnsLeft }).view.chores c.view.chores ∨
      ∃ wish due, turn duties w.isHead w.rest stepsPerTurn { c with head, line, turnsLeft } =
        ({ c with head, line, turnsLeft } : Crew σ δ).wait w wish due := by
  rw [← hview, View.chores_join]
  exact turn_less_or_wait (hc.callOn hview) 127

theorem calmer_headTurn (hc : c.Orderly 0) (hphase : c.turnsLeft = 0) :
    Calmer duties (c.headTurn duties) c := by
  simp only [Crew.headTurn]
  split
  · next work hhead =>
    have hview := view_join_head hhead turnsPerBreak
    rcases callOn_less_or_wait duties hc hview with h | ⟨wish, due, h⟩
    · exact calmer_of_less h
    · rw [h]
      refine calmer_of_bustle ((view_wait wish due).trans hview) rfl ?_
      simp [bustle, ready, wait, hhead, hphase, turnsPerBreak]
  · next hhead =>
    refine calmer_of_bustle rfl rfl ?_
    simp [bustle, ready, hhead, hphase, turnsPerBreak]

theorem calmer_lineTurn (hc : c.Orderly 0) {left : Nat} {work : Work σ δ Unit}
    {line : List (Work σ δ Unit)} (hline : c.line = work :: line) :
    Calmer duties (if left = 0 then
        (turn duties false work stepsPerTurn { c with line, turnsLeft := left }).takeBreak
      else turn duties false work stepsPerTurn { c with line, turnsLeft := left }) c := by
  have hview := view_join_line hline left
  have horderly : (turn duties false work stepsPerTurn { c with line, turnsLeft := left }).Orderly 0 :=
    orderly_turn (hc.callOn hview) stepsPerTurn
  rcases callOn_less_or_wait duties hc hview with h | ⟨wish, due, h⟩
  · split
    · rcases takeBreak_cases duties horderly with hbreak | ⟨hbreak, -⟩
      · exact calmer_of_less (hbreak.trans h)
      · exact calmer_of_less (hbreak ▸ h)
    · exact calmer_of_less h
  · have hwait := (view_wait wish due).trans hview
    have hready : c.ready = line.length + 1 + c.head.isSome.toNat := by
      rw [ready, hline, List.length_cons]
    change turn duties false work stepsPerTurn _ = _ at h
    rw [h] at horderly ⊢
    split
    · rcases takeBreak_cases duties horderly with hbreak | ⟨hbreak, hmoment, hbustle⟩
      · exact calmer_of_less (hwait ▸ hbreak)
      · refine calmer_of_bustle (hbreak.trans hwait) hmoment (Nat.lt_of_le_of_lt hbustle ?_)
        change 2 * (line.length + c.head.isSome.toNat + c.aside.length) + 1 < c.bustle
        rw [bustle, hready]
        omega
    · refine calmer_of_bustle hwait rfl ?_
      have hphase := Bool.toNat_le (decide (left = 0) != c.head.isSome)
      change 4 * c.aside.length + 2 * (line.length + c.head.isSome.toNat) +
        (decide (left = 0) != c.head.isSome).toNat < c.bustle
      rw [bustle, hready]
      omega

/-- A break for those who were put aside, or for the head. -/
theorem calmer_takeBreak (hc : c.Orderly 0) {left : Nat} (hphase : c.turnsLeft = left + 1)
    (h : ¬(c.aside.isEmpty && c.head.isNone) = true) : Calmer duties c.takeBreak c := by
  cases haside : c.aside with
  | nil =>
      have hview : c.takeBreak.view = c.view := by
        rw [← view_plus_aside (c := c), takeBreak, haside]
        rfl
      have hhead : c.head.isSome = true := Option.isSome_iff_ne_none.2 (by simpa [haside] using h)
      refine calmer_of_bustle hview (by rw [takeBreak, haside]; rfl) ?_
      simp [takeBreak, bustle, ready, haside, hhead, hphase]
  | cons d ds =>
      have hlength : c.aside.length = ds.length + 1 := by rw [haside, List.length_cons]
      rcases takeBreak_cases duties hc with hbreak | ⟨hbreak, hmoment, hbustle⟩
      · exact calmer_of_less hbreak
      · refine calmer_of_bustle hbreak hmoment (Nat.lt_of_le_of_lt hbustle ?_)
        rw [bustle]
        omega

/-- Whatever happens next, the crew comes closer to rest. -/
theorem calmer_next (hc : c.Orderly 0) (hnext : c.next? duties = some c') : Calmer duties c' c := by
  unfold next? at hnext
  split at hnext
  · cases hnext
  · split at hnext
    · next hphase =>
      obtain rfl := Option.some.inj hnext
      exact calmer_headTurn hc hphase
    · next left work line _ hline =>
      obtain rfl := Option.some.inj hnext
      exact calmer_lineTurn hc hline
    · next left hphase hline =>
      split at hnext
      · obtain ⟨moment, hmoment, rfl⟩ := Option.map_eq_some_iff.1 hnext
        exact calmer_of_early (view_alert _ hc.heads_le) (early_passTime hc hmoment)
      · next hready =>
        obtain rfl := Option.some.inj hnext
        exact calmer_takeBreak hc hphase hready

end Calmer

theorem Orderly.next {duties : δ → Work σ δ Unit} {c c' : Crew σ δ} (h : c.Orderly 0)
    (hnext : c.next? duties = some c') : c'.Orderly 0 := by
  have hkeeps : Keeps duties fun _ => True :=
    ⟨fun _ => (afterTurn_less _ _ _ _).mono fun _ _ => trivial, fun _ => trivial⟩
  exact (hkeeps.next ⟨h, trivial⟩ hnext).orderly

/-- **Every crew comes to rest**, if what follows from each duty comes to an end. -/
theorem Orderly.exists_rest {duties : δ → Work σ δ Unit} (hduties : WellFounded (Follows duties))
    {c : Crew σ δ} (h : c.Orderly 0) : ∃ n, (c.run duties n).next? duties = none := by
  induction c using (wellFounded_calmer hduties).induction with
  | _ c ih =>
      cases hnext : c.next? duties with
      | none => exact ⟨0, hnext⟩
      | some c' =>
          obtain ⟨n, hrest⟩ := ih c' (calmer_next h hnext) (h.next hnext)
          exact ⟨n + 1, by simpa only [run, hnext] using hrest⟩

/-- Nothing happens in a crew that has come to rest. -/
theorem run_of_rest {duties : δ → Work σ δ Unit} {c : Crew σ δ} {n m : Nat}
    (hrest : (c.run duties n).next? duties = none) (hle : n ≤ m) :
    c.run duties m = c.run duties n := by
  obtain ⟨k, rfl⟩ := Nat.exists_eq_add_of_le hle
  rw [run_add, run_of_next?_eq_none hrest]

/-! ### A crew at rest -/

/-- Somebody who waits for something that has not come, and not for a moment. -/
def Worker.IsStuck (w : Worker σ δ) (shared : σ) : Prop :=
  ∃ wish, awaited w.rest = some (wish, none) ∧ wish shared = false

/-- The head has done its work, or everyone is stuck and nothing is put aside. -/
def View.AtRest (v : View σ δ) : Prop :=
  v.heads = 0 ∨ v.delayed = 0 ∧ ∀ w ∈ v.workers, w.IsStuck v.shared

/-- A crew whose head can go on is not at rest. -/
theorem View.not_atRest_join {v : View σ δ} {w : Worker σ δ} (hhead : w.isHead = true)
    (hgo : ¬ w.IsStuck v.shared) : ¬ (v.join w).AtRest := by
  rintro (hnone | ⟨-, hstuck⟩)
  · rw [heads_join, hhead, Bool.toNat_true] at hnone
    omega
  · exact hgo (hstuck w (Multiset.mem_cons_self w v.workers))

theorem View.plus_workers (shared : σ) (ws : List (Worker σ δ)) :
    ({ shared } : View σ δ).plus (ws.map .worker) = { shared, workers := Multiset.ofList ws } := by
  induction ws with
  | nil => rfl
  | cons w ws ih =>
      rw [List.map_cons, plus, ih]
      rfl

/-- **Nobody in a crew at rest can go on.** -/
theorem Orderly.atRest {duties : δ → Work σ δ Unit} {c : Crew σ δ} (h : c.Orderly 0)
    (hnext : c.next? duties = none) : c.view.AtRest := by
  unfold next? at hnext
  split at hnext
  · next hfinished =>
    have := h.oneHead
    rw [hfinished, Bool.toNat_true] at this
    exact .inl (by omega)
  · split at hnext
    · cases hnext
    · cases hnext
    · next hline =>
      split at hnext
      · next hready =>
        obtain ⟨haside, hhead⟩ : c.aside = [] ∧ c.head = none := by simpa using hready
        have hnever : ∀ w ∈ c.waiting, w.due = none := by
          rw [Option.map_eq_none_iff, nextMoment?, List.min?_eq_none_iff,
            List.filterMap_eq_nil_iff] at hnext
          exact hnext
        have hview : c.view =
            { shared := c.shared, workers := .ofList (c.waiting.map Waiter.worker) } := by
          rw [view, haside, hhead, hline]
          exact View.plus_workers c.shared _
        rw [hview]
        refine .inr ⟨rfl, fun w hw => ?_⟩
        obtain ⟨w, hmem, rfl⟩ := List.mem_map.1 (Multiset.mem_coe.1 hw)
        obtain ⟨hawaited, hwish⟩ := h.waiting w hmem
        exact ⟨w.wish, hnever w hmem ▸ hawaited, hwish⟩
      · cases hnext

/-- To ask for something without waiting for others: whoever waits, waits for a moment. -/
def Ask.IsTimely : Ask σ δ → Prop
  | .await _ due => due.isSome = true
  | .expect _ => False
  | _ => True

/-- Work that comes to its end without others. -/
abbrev Timely (work : Work σ δ α) : Prop := work.AsksOnly (I := asks σ δ) Ask.IsTimely

/-- Nobody is stuck who has such work to do first. -/
theorem not_isStuck_of_timely {work : Work σ δ α} (htimely : Timely work) {f : α → Work σ δ Unit}
    (hf : ∀ a, awaited (f a) = none) (isHead : Bool) (shared : σ) :
    ¬ Worker.IsStuck ⟨work >>= f, isHead⟩ shared := by
  rintro ⟨wish, hawaited, -⟩
  cases work with
  | done a => exact Option.some_ne_none _ (hawaited.symm.trans (hf a))
  | ask q next =>
      have hq := htimely.of_ask.1
      cases q with
      | await wish due =>
          obtain rfl : due = none := congrArg Prod.snd (Option.some.inj hawaited)
          cases hq
      | expect wish => exact hq
      | look | put _ | clock | takeOn _ | step | giveWay | later _ => cases hawaited

/-! ### Sleeping -/

theorem idle_sleep (millis : Nat) : Idle (sleep millis : Work σ δ Unit) :=
  .ask trivial fun _ => .ask trivial fun _ => .done ()

theorem timely_sleep (millis : Nat) : Timely (sleep millis : Work σ δ Unit) :=
  .ask trivial fun _ => .ask rfl fun _ => .done ()

end TaskLedger.Crew
