import TaskLedger.Dialogue

/-!
**The histories of a dialogue.**

Who holds a dialogue sees a question, gives an answer, sees the next question, and in the end a
result.  What a dialogue may ask, and with what it may end, depends on nothing but the exchanges so
far, and it is said here for all answers whatsoever.  A statement about an operation that runs among
others then has two parts: what its own history tells, which is a matter of the operation alone, and
what the answers tell about the state, which is a matter of the state alone.

Main definitions:

* `TaskLedger.Exchange` — a question with its answer;
* `TaskLedger.consult` — the exchanges with someone who answers a list of questions;
* `TaskLedger.Dialogue.Leaves` — after these exchanges, this is what is left of a dialogue;
* `TaskLedger.Dialogue.Asks`, `TaskLedger.Dialogue.Ends` — after these exchanges a dialogue asks
  this question, or ends with this result;
* `TaskLedger.Dialogue.AsksOnly`, `TaskLedger.Dialogue.AsksAtMost` — what a dialogue may ask at all,
  and after how many questions it comes to its end.

Main results:

* `TaskLedger.consult_eq_of_step` — those who answer every question alike, and stay alike, are not
  told apart;
* `TaskLedger.Dialogue.asks_ask`, `TaskLedger.Dialogue.ends_ask` — the histories of a question and
  what follows it;
* `TaskLedger.Dialogue.asks_bind`, `TaskLedger.Dialogue.ends_bind` — the histories of a dialogue
  followed by another.
-/

set_option autoImplicit false

namespace TaskLedger

/-- A question with its answer. -/
structure Exchange (I : Interface) where
  question : I.Question
  answer : I.Answer question

/-! ### Lists of questions -/

section Consult

variable {I : Interface} {σ τ : Type}

/-- The exchanges with someone who answers some questions from a state, and the state after them. -/
def consult (answer : (q : I.Question) → σ → I.Answer q × σ) :
    List I.Question → σ → List (Exchange I) × σ
  | [], s => ([], s)
  | q :: questions, s =>
      let (later, last) := consult answer questions (answer q s).2
      (⟨q, (answer q s).1⟩ :: later, last)

/-- Two who answer every question alike while their states are related, and whose states are then
related again, are not told apart by any list of questions. -/
theorem consult_eq_of_step {answer : (q : I.Question) → σ → I.Answer q × σ}
    {answer' : (q : I.Question) → τ → I.Answer q × τ} {R : σ → τ → Prop} {P : I.Question → Prop}
    (step : ∀ {q s t}, P q → R s t →
      (answer q s).1 = (answer' q t).1 ∧ R (answer q s).2 (answer' q t).2)
    {questions : List I.Question} (hq : ∀ q ∈ questions, P q) {s : σ} {t : τ} (hst : R s t) :
    (consult answer questions s).1 = (consult answer' questions t).1 ∧
      R (consult answer questions s).2 (consult answer' questions t).2 := by
  induction questions generalizing s t with
  | nil => exact ⟨rfl, hst⟩
  | cons q questions ih =>
      obtain ⟨hanswer, hstate⟩ := step (hq q (by simp)) hst
      obtain ⟨hlater, hlast⟩ := ih (fun q' hq' => hq q' (by simp [hq'])) hstate
      refine ⟨?_, hlast⟩
      simp only [consult, hanswer, hlater]

end Consult

namespace Dialogue

variable {I : Interface} {α β : Type}

/-- After a series of exchanges, this is what is left of a dialogue. -/
inductive Leaves : Dialogue I α → List (Exchange I) → Dialogue I α → Prop
  | all (d : Dialogue I α) : Leaves d [] d
  | later {q : I.Question} {next : I.Answer q → Dialogue I α} {h : List (Exchange I)}
      {rest : Dialogue I α} (a : I.Answer q) :
      Leaves (next a) h rest → Leaves (.ask q next) (⟨q, a⟩ :: h) rest

/-- After a series of exchanges a dialogue asks a question. -/
def Asks (d : Dialogue I α) (h : List (Exchange I)) (q : I.Question) : Prop :=
  ∃ next, Leaves d h (.ask q next)

/-- After a series of exchanges a dialogue ends with a result. -/
def Ends (d : Dialogue I α) (h : List (Exchange I)) (r : α) : Prop := Leaves d h (.done r)

variable {h : List (Exchange I)} {q : I.Question} {r : α}

/-- One more exchange. -/
theorem Leaves.answered {d : Dialogue I α} {next : I.Answer q → Dialogue I α}
    (hd : Leaves d h (.ask q next)) (a : I.Answer q) : Leaves d (h ++ [⟨q, a⟩]) (next a) := by
  generalize hrest : Dialogue.ask q next = rest at hd
  induction hd with
  | all d =>
      subst hrest
      exact .later a (.all (next a))
  | later b _ ih => exact .later b (ih hrest)

@[simp] theorem not_asks_done (r : α) : ¬ Asks (.done r : Dialogue I α) h q := by
  rintro ⟨next, hr⟩
  cases hr

@[simp] theorem ends_done {r' : α} : Ends (.done r : Dialogue I α) h r' ↔ h = [] ∧ r' = r := by
  constructor
  · intro hr
    cases hr
    exact ⟨rfl, rfl⟩
  · rintro ⟨rfl, rfl⟩
    exact .all (.done r')

theorem ends_pure {r' : α} : Ends (pure r : Dialogue I α) h r' ↔ h = [] ∧ r' = r := ends_done

@[simp] theorem not_asks_pure (r : α) : ¬ Asks (pure r : Dialogue I α) h q := not_asks_done r

theorem asks_ask {q' : I.Question} {next : I.Answer q' → Dialogue I α} :
    Asks (.ask q' next) h q ↔
      (h = [] ∧ q = q') ∨ ∃ a h', h = ⟨q', a⟩ :: h' ∧ Asks (next a) h' q := by
  constructor
  · rintro ⟨after, ha⟩
    cases ha with
    | all => exact Or.inl ⟨rfl, rfl⟩
    | later a hn => exact Or.inr ⟨a, _, rfl, after, hn⟩
  · rintro (⟨rfl, rfl⟩ | ⟨a, h', rfl, after, hn⟩)
    · exact ⟨next, .all _⟩
    · exact ⟨after, .later a hn⟩

theorem ends_ask {next : I.Answer q → Dialogue I α} :
    Ends (.ask q next) h r ↔ ∃ a h', h = ⟨q, a⟩ :: h' ∧ Ends (next a) h' r := by
  constructor
  · intro he
    cases he with
    | later a hn => exact ⟨a, _, rfl, hn⟩
  · rintro ⟨a, h', rfl, hn⟩
    exact .later a hn

theorem ends_request {q : I.Question} {a : I.Answer q} :
    Ends (request q) h a ↔ h = [⟨q, a⟩] := by
  simp only [request, ends_ask, ends_done]
  constructor
  · rintro ⟨b, h', rfl, rfl, rfl⟩
    rfl
  · rintro rfl
    exact ⟨a, [], rfl, rfl, rfl⟩

/-! ### A dialogue followed by another -/

theorem ends_bind {d : Dialogue I α} {f : α → Dialogue I β} {s : β} :
    Ends (bind d f) h s ↔ ∃ r h₁ h₂, h = h₁ ++ h₂ ∧ Ends d h₁ r ∧ Ends (f r) h₂ s := by
  induction d generalizing h with
  | done r =>
      simp only [bind_done, ends_done]
      constructor
      · intro hf
        exact ⟨r, [], h, rfl, ⟨rfl, rfl⟩, hf⟩
      · rintro ⟨_, _, h₂, rfl, ⟨rfl, rfl⟩, hf⟩
        exact hf
  | ask q next ih =>
      simp only [bind_ask, ends_ask, ih]
      constructor
      · rintro ⟨a, h', rfl, r, h₁, h₂, rfl, hd, hf⟩
        exact ⟨r, ⟨q, a⟩ :: h₁, h₂, rfl, ⟨a, h₁, rfl, hd⟩, hf⟩
      · rintro ⟨r, _, h₂, rfl, ⟨a, h₁, rfl, hd⟩, hf⟩
        exact ⟨a, h₁ ++ h₂, rfl, r, h₁, h₂, rfl, hd, hf⟩

theorem asks_bind {d : Dialogue I α} {f : α → Dialogue I β} :
    Asks (bind d f) h q ↔
      Asks d h q ∨ ∃ r h₁ h₂, h = h₁ ++ h₂ ∧ Ends d h₁ r ∧ Asks (f r) h₂ q := by
  induction d generalizing h with
  | done r =>
      simp only [bind_done, ends_done, not_asks_done, false_or]
      constructor
      · intro hf
        exact ⟨r, [], h, rfl, ⟨rfl, rfl⟩, hf⟩
      · rintro ⟨_, _, h₂, rfl, ⟨rfl, rfl⟩, hf⟩
        exact hf
  | ask q' next ih =>
      simp only [bind_ask, asks_ask, ends_ask, ih]
      constructor
      · rintro (hh | ⟨a, h', rfl, hd | ⟨r, h₁, h₂, rfl, hd, hf⟩⟩)
        · exact Or.inl (Or.inl hh)
        · exact Or.inl (Or.inr ⟨a, h', rfl, hd⟩)
        · exact Or.inr ⟨r, ⟨q', a⟩ :: h₁, h₂, rfl, ⟨a, h₁, rfl, hd⟩, hf⟩
      · rintro ((hh | ⟨a, h', rfl, hd⟩) | ⟨r, _, h₂, rfl, ⟨a, h₁, rfl, hd⟩, hf⟩)
        · exact Or.inl hh
        · exact Or.inr ⟨a, h', rfl, Or.inl hd⟩
        · exact Or.inr ⟨a, h₁ ++ h₂, rfl, Or.inr ⟨r, h₁, h₂, rfl, hd, hf⟩⟩

/-! ### What a dialogue asks -/

/-- All that a dialogue may ask satisfies a condition, whatever the answers are. -/
def AsksOnly (d : Dialogue I α) (P : I.Question → Prop) : Prop := ∀ h q, d.Asks h q → P q

namespace AsksOnly

variable {P : I.Question → Prop}

theorem done (r : α) : (Dialogue.done r : Dialogue I α).AsksOnly P :=
  fun _ _ hasks => absurd hasks (not_asks_done r)

theorem ask {next : I.Answer q → Dialogue I α} (hq : P q) (hnext : ∀ a, (next a).AsksOnly P) :
    (Dialogue.ask q next).AsksOnly P := by
  intro h q' hasks
  rcases asks_ask.1 hasks with ⟨-, rfl⟩ | ⟨a, h', -, hlater⟩
  · exact hq
  · exact hnext a h' q' hlater

theorem request (hq : P q) : (Dialogue.request q).AsksOnly P := .ask hq fun a => .done a

theorem mono {P' : I.Question → Prop} {d : Dialogue I α} (hd : d.AsksOnly P)
    (h : ∀ q, P q → P' q) : d.AsksOnly P' := fun h' q hasks => h q (hd h' q hasks)

theorem bind {d : Dialogue I α} {f : α → Dialogue I β} (hd : d.AsksOnly P)
    (hf : ∀ r, (f r).AsksOnly P) : (Dialogue.bind d f).AsksOnly P := by
  intro h q hasks
  rcases asks_bind.1 hasks with hfirst | ⟨r, h₁, h₂, -, -, hlater⟩
  · exact hd h q hfirst
  · exact hf r h₂ q hlater

end AsksOnly

/-! ### How much a dialogue asks -/

/-- A dialogue asks no more than a number of questions, whatever the answers are. -/
inductive AsksAtMost : Dialogue I α → Nat → Prop
  | done (r : α) (n : Nat) : AsksAtMost (.done r) n
  | ask {q : I.Question} {next : I.Answer q → Dialogue I α} {n : Nat} :
      (∀ a, AsksAtMost (next a) n) → AsksAtMost (.ask q next) (n + 1)

theorem AsksAtMost.mono {d : Dialogue I α} {n m : Nat} (hd : d.AsksAtMost n) (hnm : n ≤ m) :
    d.AsksAtMost m := by
  induction hd generalizing m with
  | done r n => exact .done r m
  | ask _ ih =>
      obtain ⟨k, rfl⟩ : ∃ k, m = k + 1 := ⟨m - 1, by omega⟩
      exact .ask fun a => ih a (by omega)

theorem AsksAtMost.bind {d : Dialogue I α} {f : α → Dialogue I β} {n m : Nat}
    (hd : d.AsksAtMost n) (hf : ∀ r, (f r).AsksAtMost m) : (bind d f).AsksAtMost (n + m) := by
  induction hd with
  | done r n => exact (hf r).mono (by omega)
  | @ask q next n _ ih =>
      have hsucc : n + 1 + m = n + m + 1 := by omega
      rw [hsucc]
      exact .ask ih

end Dialogue

end TaskLedger
