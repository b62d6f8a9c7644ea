import Mathlib.Logic.Function.Basic
import TaskLedger.Proofs.Dialogue.History

/-!
**Dialogues that go on side by side.**

Any number of dialogues are held with someone who has one state.  At every moment one of them asks
its next question and is answered at once, or something else happens to the state.  Nothing is said
about the order, so that what holds here holds of every interleaving.

A play is computed move by move.  For proofs it is enough to know what was said and the state that
came of it: `TaskLedger.Run` says that each dialogue followed its own course and that each answer
was given from the state of its moment.

Main definitions:

* `TaskLedger.Move`, `TaskLedger.World` — what may come next, and what comes of it;
* `TaskLedger.Scene`, `TaskLedger.Scene.play` — the dialogues as far as they have come, and a play;
* `TaskLedger.historyOf` — the part that one of the dialogues has in what was said;
* `TaskLedger.Run` — what was said in a play, with the state at its end.

Main results:

* `TaskLedger.Scene.run_play`, `TaskLedger.Scene.ends_of_result?` — a play is a run, and the results
  in it are those that the histories lead to;
* `TaskLedger.Scene.exists_result?_of_turnsIn` — a dialogue that gets its turns comes to its end;
* `TaskLedger.Run.moment` — every exchange of a run had its moment, with a run up to it.
-/

set_option autoImplicit false

namespace TaskLedger

variable {I : Interface} {ι ε σ : Type} {α : ι → Type}

/-- One of the dialogues goes on, or something else happens. -/
inductive Move (ι ε : Type) where
  | next (i : ι)
  | event (e : ε)

/-- What the answers to questions are, and what the other events do. -/
structure World (I : Interface) (σ ε : Type) where
  answer : (q : I.Question) → σ → I.Answer q × σ
  happen : ε → σ → σ

/-- Something that was said: an exchange, and the dialogue that it belongs to. -/
abbrev Said (I : Interface) (ι : Type) := List (ι × Exchange I)

/-- The dialogues as far as they have come, and all that was said. -/
structure Scene (I : Interface) {ι : Type} (α : ι → Type) (σ : Type) where
  state : σ
  rest : (i : ι) → Dialogue I (α i)
  said : Said I ι

namespace Scene

variable [DecidableEq ι]

/-- The dialogues before anything was said. -/
def start (d : (i : ι) → Dialogue I (α i)) (s : σ) : Scene I α σ := ⟨s, d, []⟩

/-- One move.  A dialogue that has ended has nothing more to say. -/
def step (w : World I σ ε) (c : Scene I α σ) : Move ι ε → Scene I α σ
  | .next i =>
      match c.rest i with
      | .done _ => c
      | .ask q next =>
          { state := (w.answer q c.state).2
            rest := Function.update c.rest i (next (w.answer q c.state).1)
            said := c.said ++ [(i, ⟨q, (w.answer q c.state).1⟩)] }
  | .event e => { c with state := w.happen e c.state }

/-- A series of moves. -/
def play (w : World I σ ε) (c : Scene I α σ) (moves : List (Move ι ε)) : Scene I α σ :=
  moves.foldl (step w) c

/-- The result of a dialogue, if it has ended. -/
def result? (c : Scene I α σ) (i : ι) : Option (α i) :=
  match c.rest i with
  | .done r => some r
  | .ask _ _ => none

end Scene

/-! ### The history of one dialogue -/

section HistoryOf

variable [DecidableEq ι]

/-- The part that a dialogue has in what was said. -/
def historyOf (i : ι) (said : Said I ι) : List (Exchange I) :=
  said.filterMap fun x => if x.1 = i then some x.2 else none

variable (i : ι) (x : Exchange I) (said later : Said I ι)

@[simp] theorem historyOf_nil : historyOf i ([] : Said I ι) = [] := rfl

@[simp] theorem historyOf_append :
    historyOf i (said ++ later) = historyOf i said ++ historyOf i later := by
  simp [historyOf]

@[simp] theorem historyOf_cons_self :
    historyOf i ((i, x) :: said) = x :: historyOf i said := by
  simp [historyOf]

theorem historyOf_cons_of_ne {i j : ι} (hij : j ≠ i) :
    historyOf i ((j, x) :: said) = historyOf i said := by
  simp [historyOf, hij]

@[simp] theorem mem_historyOf {i : ι} {x : Exchange I} {said : Said I ι} :
    x ∈ historyOf i said ↔ (i, x) ∈ said := by
  simp only [historyOf, List.mem_filterMap]
  constructor
  · rintro ⟨⟨j, y⟩, hy, hxy⟩
    by_cases hj : j = i
    · subst hj
      simp only [if_pos, Option.some.injEq] at hxy
      exact hxy ▸ hy
    · simp [hj] at hxy
  · intro hx
    exact ⟨(i, x), hx, by simp⟩

/-- An exchange in a history was said, after what stands before it in the history. -/
theorem exists_of_historyOf_eq {i : ι} {x : Exchange I} {said : Said I ι}
    {front back : List (Exchange I)} (h : historyOf i said = front ++ x :: back) :
    ∃ before later, said = before ++ (i, x) :: later ∧ historyOf i before = front := by
  obtain ⟨before, rest, rfl, hbefore, hrest⟩ := List.filterMap_eq_append_iff.1 h
  obtain ⟨skipped, ⟨j, y⟩, later, rfl, hskipped, hy, -⟩ := List.filterMap_eq_cons_iff.1 hrest
  obtain ⟨rfl, hxy⟩ := Option.ite_none_right_eq_some.1 hy
  obtain rfl := Option.some.inj hxy
  refine ⟨before ++ skipped, later, by simp, ?_⟩
  rw [historyOf_append]
  have hnil : historyOf j skipped = [] := List.filterMap_eq_nil_iff.2 hskipped
  rw [hnil, List.append_nil]
  exact hbefore

end HistoryOf

/-- What was asked, with the dialogue that asked it, in the order of the asking. -/
def asked (said : Said I ι) : List (ι × I.Question) := said.map fun y => (y.1, y.2.question)

@[simp] theorem asked_append (said later : Said I ι) :
    asked (said ++ later) = asked said ++ asked later := by
  simp [asked]

theorem mem_asked_snoc {said : Said I ι} {i j : ι} {q : I.Question} {x : Exchange I} :
    (i, q) ∈ asked (said ++ [(j, x)]) ↔ (i, q) ∈ asked said ∨ (i = j ∧ q = x.question) := by
  simp [asked]

theorem mem_asked {said : Said I ι} {i : ι} {q : I.Question} :
    (i, q) ∈ asked said ↔ ∃ a, (i, ⟨q, a⟩) ∈ said := by
  simp only [asked, List.mem_map, Prod.mk.injEq]
  constructor
  · rintro ⟨⟨j, x⟩, hx, rfl, rfl⟩
    exact ⟨x.answer, hx⟩
  · rintro ⟨a, ha⟩
    exact ⟨(i, ⟨q, a⟩), ha, rfl, rfl⟩

/-- Three questions were asked in this order if the second of them stands between what was said
before it, the first included, and what was said later, the last included. -/
theorem sublist_asked_iff {said : Said I ι} {i : ι} {q : I.Question}
    {first last : ι × I.Question} :
    List.Sublist [first, (i, q), last] (asked said) ↔
      ∃ before a later, said = before ++ (i, ⟨q, a⟩) :: later ∧ first ∈ asked before ∧
        last ∈ asked later := by
  constructor
  · intro h
    obtain ⟨l₁, l₂, hl, hfirst, hl₂⟩ := List.cons_sublist_iff.1 h
    obtain ⟨l₃, l₄, rfl, hq, hl₄⟩ := List.cons_sublist_iff.1 hl₂
    obtain ⟨l₅, l₆, rfl⟩ := List.append_of_mem hq
    have hasked : said.map (fun y => (y.1, y.2.question)) = (l₁ ++ l₅) ++ (i, q) :: (l₆ ++ l₄) := by
      simpa [asked] using hl
    obtain ⟨before, rest, rfl, hbefore, hrest⟩ := List.map_eq_append_iff.1 hasked
    obtain ⟨⟨j, x⟩, later, rfl, hx, hlater⟩ := List.map_eq_cons_iff.1 hrest
    obtain ⟨rfl, rfl⟩ := Prod.mk.inj hx
    refine ⟨before, x.answer, later, rfl, ?_, ?_⟩
    · rw [asked, hbefore]
      exact List.mem_append_left _ hfirst
    · rw [asked, hlater]
      exact List.mem_append_right _ (List.singleton_sublist.1 hl₄)
  · rintro ⟨before, a, later, rfl, hfirst, hlast⟩
    rw [asked_append]
    exact (List.singleton_sublist.2 hfirst).append ((List.singleton_sublist.2 hlast).cons_cons _)

/-! ### Runs -/

/-- What was said in a play, with the state at its end: each question is one that its dialogue asks
after what it has said so far, and it is answered from the state of its moment. -/
inductive Run [DecidableEq ι] (w : World I σ ε) (d : (i : ι) → Dialogue I (α i)) (s₀ : σ) :
    Said I ι → σ → Prop
  | start : Run w d s₀ [] s₀
  | next {said : Said I ι} {s : σ} {i : ι} {q : I.Question} : Run w d s₀ said s →
      (d i).Asks (historyOf i said) q →
      Run w d s₀ (said ++ [(i, ⟨q, (w.answer q s).1⟩)]) (w.answer q s).2
  | event {said : Said I ι} {s : σ} (e : ε) : Run w d s₀ said s → Run w d s₀ said (w.happen e s)

namespace Scene

variable [DecidableEq ι] {w : World I σ ε} {d : (i : ι) → Dialogue I (α i)} {s₀ : σ}

/-- A scene that a play may have come to: what was said is a run, and of each dialogue that is left
which its own history leaves. -/
structure Reached (w : World I σ ε) (d : (i : ι) → Dialogue I (α i)) (s₀ : σ)
    (c : Scene I α σ) : Prop where
  run : Run w d s₀ c.said c.state
  leaves : ∀ i, (d i).Leaves (historyOf i c.said) (c.rest i)

theorem reached_start (w : World I σ ε) (d : (i : ι) → Dialogue I (α i)) (s : σ) :
    Reached w d s (start d s) where
  run := .start
  leaves := fun i => .all (d i)

theorem Reached.step {c : Scene I α σ} (hc : Reached w d s₀ c) (move : Move ι ε) :
    Reached w d s₀ (c.step w move) := by
  cases move with
  | event e => exact ⟨.event e hc.run, hc.leaves⟩
  | next i =>
      cases hi : c.rest i with
      | done r => simpa only [Scene.step, hi] using hc
      | ask q next =>
          have hleaves : (d i).Leaves (historyOf i c.said) (.ask q next) := hi ▸ hc.leaves i
          simp only [Scene.step, hi]
          refine ⟨.next hc.run ⟨next, hleaves⟩, fun j => ?_⟩
          -- One history has grown by the exchange, and the others are what they were.
          by_cases hj : i = j
          · subst hj
            simpa using hleaves.answered (w.answer q c.state).1
          · simpa [historyOf_cons_of_ne _ _ hj, Function.update_of_ne (Ne.symm hj)]
              using hc.leaves j

theorem Reached.play {c : Scene I α σ} (hc : Reached w d s₀ c) (moves : List (Move ι ε)) :
    Reached w d s₀ (c.play w moves) := by
  induction moves generalizing c with
  | nil => exact hc
  | cons move moves ih => exact ih (hc.step move)

/-- **A play is a run.** -/
theorem run_play (w : World I σ ε) (d : (i : ι) → Dialogue I (α i)) (s : σ)
    (moves : List (Move ι ε)) :
    Run w d s ((start d s).play w moves).said ((start d s).play w moves).state :=
  ((reached_start w d s).play moves).run

/-- The result of a dialogue is one that its history leads to. -/
theorem Reached.ends {c : Scene I α σ} (hc : Reached w d s₀ c) {i : ι} {r : α i}
    (h : c.result? i = some r) : (d i).Ends (historyOf i c.said) r := by
  have hleaves := hc.leaves i
  unfold result? at h
  split at h
  · next r' hr =>
      obtain rfl := Option.some.inj h
      rwa [hr] at hleaves
  · cases h

theorem ends_of_result? {moves : List (Move ι ε)} {i : ι} {r : α i}
    (h : ((start d s₀).play w moves).result? i = some r) :
    (d i).Ends (historyOf i ((start d s₀).play w moves).said) r :=
  ((reached_start w d s₀).play moves).ends h

/-- Where nothing but the dialogues goes on, it does not matter what else might have happened. -/
theorem play_next_congr {ε' : Type} (w : World I σ ε) (w' : World I σ ε')
    (hanswer : w.answer = w'.answer) (c : Scene I α σ) (order : List ι) :
    c.play w (order.map .next) = c.play w' (order.map .next) := by
  have hstep : ∀ (c : Scene I α σ) (i : ι), c.step w (.next i) = c.step w' (.next i) := by
    intro c i
    simp only [Scene.step, hanswer]
  induction order generalizing c with
  | nil => rfl
  | cons i order ih =>
      simp only [play, List.map_cons, List.foldl_cons, hstep] at ih ⊢
      exact ih _

end Scene

/-! ### Turns -/

/-- The number of turns that a series of moves gives to a dialogue. -/
def turnsIn [DecidableEq ι] (i : ι) (moves : List (Move ι ε)) : Nat :=
  moves.countP fun
    | .next j => j = i
    | .event _ => false

/-- The number of turns that an order gives to a dialogue. -/
def turns [DecidableEq ι] (i : ι) (order : List ι) : Nat := order.countP (· = i)

theorem turnsIn_map_next [DecidableEq ι] (i : ι) (order : List ι) :
    turnsIn i (order.map (.next : ι → Move ι ε)) = turns i order := by
  simp [turnsIn, turns, List.countP_map, Function.comp_def]

/-- A dialogue that is given as many turns as it may have questions comes to its end, whatever else
happens. -/
theorem Scene.exists_result?_of_turnsIn [DecidableEq ι] (w : World I σ ε) (c : Scene I α σ)
    {i : ι} {n : Nat} {moves : List (Move ι ε)} (hd : (c.rest i).AsksAtMost n)
    (hn : n ≤ turnsIn i moves) : ∃ r, (c.play w moves).result? i = some r := by
  -- A turn of the dialogue itself takes one question away, and every other move leaves it as it is.
  induction moves generalizing c n with
  | nil =>
      obtain rfl : n = 0 := by simpa [turnsIn] using hn
      cases hrest : c.rest i with
      | done r => exact ⟨r, by simp [play, result?, hrest]⟩
      | ask q next =>
          rw [hrest] at hd
          cases hd
  | cons move moves ih =>
      rw [play, List.foldl_cons]
      cases move with
      | event e => exact ih (c.step w (.event e)) (n := n) hd (by simpa [turnsIn] using hn)
      | next j =>
          by_cases hj : j = i
          · subst hj
            have hturns : turnsIn j (.next j :: moves) = turnsIn j moves + 1 := by simp [turnsIn]
            cases hrest : c.rest j with
            | done r =>
                refine ih (c.step w (.next j)) (n := 0) ?_ (by omega)
                simp only [Scene.step, hrest]
                exact .done r 0
            | ask q next =>
                rw [hrest] at hd
                cases hd with
                | @ask _ _ m hnext =>
                    refine ih (c.step w (.next j)) (n := m) ?_ (by omega)
                    simpa [Scene.step, hrest] using hnext _
          · have hturns : turnsIn i (.next j :: moves) = turnsIn i moves := by simp [turnsIn, hj]
            have hsame : (c.step w (.next j)).rest i = c.rest i := by
              cases hrest : c.rest j with
              | done r => simp [Scene.step, hrest]
              | ask q next => simp [Scene.step, hrest, Function.update_of_ne (Ne.symm hj)]
            refine ih (c.step w (.next j)) (n := n) ?_ (by omega)
            rwa [hsame]

/-- The same where nothing but the dialogues goes on. -/
theorem Scene.exists_result?_of_turns [DecidableEq ι] (w : World I σ ε) (c : Scene I α σ)
    {i : ι} {n : Nat} {order : List ι} (hd : (c.rest i).AsksAtMost n) (hn : n ≤ turns i order) :
    ∃ r, (c.play w (order.map .next)).result? i = some r := by
  rw [← turnsIn_map_next (ε := ε)] at hn
  exact c.exists_result?_of_turnsIn w hd hn

namespace Run

variable [DecidableEq ι] {w : World I σ ε} {d : (i : ι) → Dialogue I (α i)} {s₀ s : σ}

/-- A run in one world is a run in any world with the same answers in which, from every state, the
same may happen. -/
theorem mono {ε' : Type} {w' : World I σ ε'} {said : Said I ι} (hanswer : w.answer = w'.answer)
    (hhappen : ∀ e s, ∃ e', w.happen e s = w'.happen e' s) (h : Run w d s₀ said s) :
    Run w' d s₀ said s := by
  induction h with
  | start => exact .start
  | next _ hasks ih =>
      rw [hanswer]
      exact ih.next hasks
  | @event said s e _ ih =>
      obtain ⟨e', he⟩ := hhappen e s
      rw [he]
      exact ih.event e'

theorem map {ε' : Type} {w' : World I σ ε'} {said : Said I ι} (f : ε → ε')
    (hanswer : w.answer = w'.answer) (hhappen : ∀ e s, w.happen e s = w'.happen (f e) s)
    (h : Run w d s₀ said s) : Run w' d s₀ said s :=
  h.mono hanswer fun e s => ⟨f e, hhappen e s⟩

/-- **Every exchange had its moment**: up to it there was a run, after which its dialogue asked the
question, and the answer was given from the state that this run had led to. -/
theorem moment {before later : Said I ι} {i : ι} {x : Exchange I}
    (h : Run w d s₀ (before ++ (i, x) :: later) s) :
    ∃ s₁, Run w d s₀ before s₁ ∧ (d i).Asks (historyOf i before) x.question ∧
      x.answer = (w.answer x.question s₁).1 := by
  generalize hsaid : before ++ (i, x) :: later = said at h
  induction h generalizing later with
  | start => simp at hsaid
  | event e h ih => exact ih hsaid
  | @next said s₁ j q h hasks ih =>
      -- The exchange is the last one of the run, or it is one of the run before.
      rcases List.eq_nil_or_concat later with rfl | ⟨front, y, rfl⟩
      · obtain ⟨rfl, hx⟩ := List.append_inj' hsaid rfl
        simp only [List.cons.injEq, Prod.mk.injEq, and_true] at hx
        obtain ⟨rfl, rfl⟩ := hx
        exact ⟨s₁, h, hasks, rfl⟩
      · rw [List.concat_eq_append, ← List.cons_append, ← List.append_assoc] at hsaid
        exact ih (List.append_inj' hsaid rfl).1

end Run

end TaskLedger
