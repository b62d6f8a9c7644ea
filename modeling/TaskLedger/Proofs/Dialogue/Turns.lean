import TaskLedger.Proofs.Dialogue.Interleaving

/-!
**The turns of one dialogue among others.**

When many dialogues go on side by side it is often one of them that a statement is about.  Here it is
set apart from the others, and the states between which each of its turns takes place are kept.

Main definitions:

* `TaskLedger.amid` — one dialogue, and others beside it;
* `TaskLedger.Scene.turnsOf` — the states before and after each turn of a dialogue;
* `TaskLedger.Scene.Along` — a condition on all moves of a play.

Main results:

* `TaskLedger.Scene.turnsOf_append` — the turns of a play in parts;
* `TaskLedger.Scene.step_next_of_ask` and its neighbours — what a turn does to a dialogue.
-/

set_option autoImplicit false

namespace TaskLedger

variable {I : Interface} {ι κ ε σ : Type}

/-! ### One dialogue and others -/

/-- What one dialogue, and others beside it, result in. -/
abbrev Amid (γ : Type) (β : κ → Type) : Option κ → Type
  | none => γ
  | some j => β j

/-- One dialogue, and others beside it. -/
def amid {γ : Type} {β : κ → Type} (d : Dialogue I γ) (others : (j : κ) → Dialogue I (β j)) :
    (i : Option κ) → Dialogue I (Amid γ β i)
  | none => d
  | some j => others j

/-! ### The states between which turns take place -/

namespace Scene

variable [DecidableEq ι] {α : ι → Type} (w : World I σ ε) (i : ι)

/-- The states before and after a move, if it is a turn of the dialogue. -/
def turnOf? (c : Scene I α σ) : Move ι ε → Option (σ × σ)
  | .next j => if j = i then some (c.state, (c.step w (.next j)).state) else none
  | .event _ => none

/-- The states before and after each turn of a dialogue in a series of moves. -/
def turnsOf (c : Scene I α σ) : List (Move ι ε) → List (σ × σ)
  | [] => []
  | move :: moves => (turnOf? w i c move).toList ++ turnsOf (c.step w move) moves

theorem turnsOf_append (c : Scene I α σ) (moves more : List (Move ι ε)) :
    turnsOf w i c (moves ++ more) = turnsOf w i c moves ++ turnsOf w i (c.play w moves) more := by
  induction moves generalizing c with
  | nil => rfl
  | cons move moves ih =>
      simp only [List.cons_append, turnsOf, ih, List.append_assoc]
      rfl

theorem turnsOf_snoc (c : Scene I α σ) (moves : List (Move ι ε)) (move : Move ι ε) :
    turnsOf w i c (moves ++ [move]) =
      turnsOf w i c moves ++ (turnOf? w i (c.play w moves) move).toList := by
  rw [turnsOf_append, turnsOf, turnsOf, List.append_nil]

theorem play_snoc (c : Scene I α σ) (moves : List (Move ι ε)) (move : Move ι ε) :
    c.play w (moves ++ [move]) = (c.play w moves).step w move := by
  simp [play]

/-- Each of some moves satisfies a condition on the scene in which it is made. -/
def Along (P : Scene I α σ → Move ι ε → Prop) (c : Scene I α σ) : List (Move ι ε) → Prop
  | [] => True
  | move :: moves => P c move ∧ Along P (c.step w move) moves

variable {w i}

/-- A turn of another dialogue leaves a dialogue where it was. -/
theorem step_next_of_ne {c : Scene I α σ} {j : ι} (hj : j ≠ i) :
    (c.step w (.next j)).rest i = c.rest i ∧
      historyOf i (c.step w (.next j)).said = historyOf i c.said := by
  cases hrest : c.rest j with
  | done r => simp [step, hrest]
  | ask q next =>
      simp [step, hrest, Function.update_of_ne (Ne.symm hj), historyOf_cons_of_ne _ _ hj]

/-- A turn of a dialogue that has ended changes nothing. -/
theorem step_next_of_done {c : Scene I α σ} {r : α i} (hrest : c.rest i = .done r) :
    c.step w (.next i) = c := by
  simp [step, hrest]

/-- A turn of a dialogue that asks a question. -/
theorem step_next_of_ask {c : Scene I α σ} {q : I.Question} {next : I.Answer q → Dialogue I (α i)}
    (hrest : c.rest i = .ask q next) :
    (c.step w (.next i)).state = (w.answer q c.state).2 ∧
      (c.step w (.next i)).rest i = next (w.answer q c.state).1 ∧
      historyOf i (c.step w (.next i)).said =
        historyOf i c.said ++ [⟨q, (w.answer q c.state).1⟩] := by
  simp [step, hrest]

end Scene

end TaskLedger
