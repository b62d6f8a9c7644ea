/-!
**Dialogues.**

An operation that depends on a store, a broker and a clock is described by the questions it asks and
by what it does with each answer.  Nothing is said about who answers: one and the same dialogue is
run against stores in memory or in a database, alone, or with other operations in between its
questions.

Main definitions:

* `TaskLedger.Interface` — questions, each with the type of its answers;
* `TaskLedger.Dialogue` — dialogues over an interface, with their monad;
* `TaskLedger.Dialogue.run` — a dialogue held with someone who has a state;
* `TaskLedger.Dialogue.runIn` — a dialogue held inside another monad;
* `TaskLedger.Dialogue.relay` — a dialogue whose questions are passed on as dialogues of their own.

Main results:

* `TaskLedger.Dialogue.bind_assoc` — dialogues are a lawful monad;
* `TaskLedger.Dialogue.run_bind`, `TaskLedger.Dialogue.runIn_bind` — running in parts;
* `TaskLedger.Dialogue.run_relay` — running what was relayed.
-/

set_option autoImplicit false

namespace TaskLedger

universe u

/-- Questions, each with the type of its answers. -/
structure Interface where
  Question : Type
  Answer : Question → Type

/-- A dialogue: a result, or a question and what follows each answer. -/
inductive Dialogue (I : Interface) (α : Type) where
  | done (result : α)
  | ask (question : I.Question) (next : I.Answer question → Dialogue I α)

namespace Dialogue

variable {I J : Interface} {α β γ σ : Type}

/-- The dialogue that asks one question and results in its answer. -/
def request (question : I.Question) : Dialogue I (I.Answer question) := .ask question .done

/-- A dialogue followed by another that depends on its result. -/
def bind : Dialogue I α → (α → Dialogue I β) → Dialogue I β
  | .done a, f => f a
  | .ask q next, f => .ask q fun answer => bind (next answer) f

instance : Monad (Dialogue I) where
  pure := .done
  bind := bind

@[simp] theorem bind_done (a : α) (f : α → Dialogue I β) : bind (.done a) f = f a := rfl

@[simp] theorem bind_ask (q : I.Question) (next : I.Answer q → Dialogue I α)
    (f : α → Dialogue I β) : bind (.ask q next) f = .ask q fun a => bind (next a) f := rfl

theorem pure_def (a : α) : (pure a : Dialogue I α) = .done a := rfl

theorem bind_def (d : Dialogue I α) (f : α → Dialogue I β) : d >>= f = bind d f := rfl

@[simp] theorem bind_request (q : I.Question) (f : I.Answer q → Dialogue I β) :
    bind (request q) f = .ask q f := rfl

theorem bind_done_right (d : Dialogue I α) : bind d .done = d := by
  induction d with
  | done a => rfl
  | ask q next ih => simp [ih]

theorem bind_assoc (d : Dialogue I α) (f : α → Dialogue I β) (g : β → Dialogue I γ) :
    bind (bind d f) g = bind d fun a => bind (f a) g := by
  induction d with
  | done a => rfl
  | ask q next ih => simp [ih]

instance : LawfulMonad (Dialogue I) :=
  LawfulMonad.mk' (Dialogue I) (fun d => bind_done_right d) (fun _ _ => rfl)
    (fun d f g => bind_assoc d f g)

/-! ### Running -/

/-- A dialogue held with someone who answers each question from a state and changes the state. -/
def run (answer : (q : I.Question) → σ → I.Answer q × σ) : Dialogue I α → σ → α × σ
  | .done a, s => (a, s)
  | .ask q next, s =>
      let (a, s) := answer q s
      run answer (next a) s

@[simp] theorem run_done (answer : (q : I.Question) → σ → I.Answer q × σ) (a : α) (s : σ) :
    run answer (.done a) s = (a, s) := rfl

@[simp] theorem run_ask (answer : (q : I.Question) → σ → I.Answer q × σ) (q : I.Question)
    (next : I.Answer q → Dialogue I α) (s : σ) :
    run answer (.ask q next) s = run answer (next (answer q s).1) (answer q s).2 := rfl

/-- A dialogue is run in parts. -/
theorem run_bind (answer : (q : I.Question) → σ → I.Answer q × σ) (d : Dialogue I α)
    (f : α → Dialogue I β) (s : σ) :
    run answer (bind d f) s = run answer (f (run answer d s).1) (run answer d s).2 := by
  induction d generalizing s with
  | done a => rfl
  | ask q next ih => simp [ih]

/-- A dialogue held inside another monad, which answers its questions. -/
def runIn {m : Type → Type u} [Monad m] (answer : (q : I.Question) → m (I.Answer q)) :
    Dialogue I α → m α
  | .done a => pure a
  | .ask q next => do runIn answer (next (← answer q))

section RunIn

variable {m : Type → Type u} [Monad m] (answer : (q : I.Question) → m (I.Answer q))

theorem runIn_pure (a : α) : (pure a : Dialogue I α).runIn answer = pure a := rfl

theorem runIn_request [LawfulMonad m] (q : I.Question) :
    (request q).runIn answer = answer q := by
  simp [request, runIn]

/-- A dialogue inside another monad is held in parts. -/
theorem runIn_bind [LawfulMonad m] (d : Dialogue I α) (f : α → Dialogue I β) :
    (d >>= f).runIn answer = d.runIn answer >>= fun a => (f a).runIn answer := by
  induction d with
  | done a => rw [← pure_def]; simp [runIn_pure]
  | ask q next ih =>
      change (answer q >>= fun a => runIn answer (next a >>= f)) =
        (answer q >>= fun a => runIn answer (next a)) >>= fun a => runIn answer (f a)
      simp only [LawfulMonad.bind_assoc, ih]

theorem runIn_map [LawfulMonad m] (f : α → β) (d : Dialogue I α) :
    (f <$> d).runIn answer = f <$> d.runIn answer := by
  simp only [map_eq_pure_bind, runIn_bind, runIn_pure]

end RunIn

/-! ### Relaying -/

/-- A dialogue whose questions are passed on, each as a dialogue over another interface. -/
def relay (pass : (q : I.Question) → Dialogue J (I.Answer q)) : Dialogue I α → Dialogue J α
  | .done a => .done a
  | .ask q next => bind (pass q) fun a => relay pass (next a)

/-- A relayed dialogue is run as the dialogue itself, with the relayed questions as its answers. -/
theorem run_relay (pass : (q : I.Question) → Dialogue J (I.Answer q))
    (answer : (q : J.Question) → σ → J.Answer q × σ) (d : Dialogue I α) (s : σ) :
    run answer (relay pass d) s = run (fun q s => run answer (pass q) s) d s := by
  induction d generalizing s with
  | done a => rfl
  | ask q next ih => simp [relay, run_bind, ih]

end Dialogue

end TaskLedger
