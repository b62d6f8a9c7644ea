import Mathlib.Data.List.Rotate
import TaskLedger.Proofs.Dialogue.History
import TaskLedger.Proofs.Sql.Listing

/-!
**A store in a database answers as a store in memory.**

The rules of a task are written twice: as operations on records, and as the conditions and assignments
of statements with a second question for the reason of a refusal.  Whoever asks a store cannot tell
which of the two it is, as long as records and handles are made by their constructors and all values
are such as a column holds.

Main definitions:

* `TaskLedger.Sql.brought` — the values that a question brings into the columns;
* `TaskLedger.Sql.Admissible` — the questions that are asked of a store;
* `TaskLedger.Sql.Engine.serve` — the exchanges with a store in a database;
* `TaskLedger.Sql.microsecondEngine` — a database of whole microseconds that turns its rows around.

Main results:

* `TaskLedger.Sql.Mirrors.answer` — one question, answered on both sides;
* `TaskLedger.Sql.refines_memory` — **all questions are answered alike, and no check is ever violated**.
-/

set_option autoImplicit false

namespace TaskLedger.Sql

open Store (Memory Query)

/-! ### What is asked -/

/-- The values that a question brings into the columns of a row. -/
def brought : Query → List Value
  | .insert r => (TaskRow.ofRecord r).values Column.all
  | .setHandle _ handle => [.text handle.text]
  | .appendLog _ message => [.text message]
  | .finish _ update => updateValues update
  | .finishFrom _ _ update => updateValues update
  | .get _ | .markRunning _ | .listOpen | .counts => []

/-- A record that is added is a new one, and a handle was made from a text. -/
def WellMade : Query → Prop
  | .insert r =>
      ∃ id taskType payload createdAt, Record.create id taskType payload createdAt = .ok r
  | .setHandle _ handle => ∃ text, Handle.parse text = .ok handle
  | _ => True

/-- A question whose record or handle was made by its constructor, and whose values are held as they
are.  Identifiers, stages and updates are arbitrary. -/
structure Admissible (q : Query) : Prop where
  made : WellMade q
  storable : ∀ v ∈ brought q, v.isStorable = true

theorem parse_text {text : String} {handle : Handle} (h : Handle.parse text = .ok handle) :
    Handle.parse handle.text = .ok handle := by
  unfold Handle.parse at *
  split at h
  · cases h
  · next hblank =>
      cases h
      exact if_neg hblank

/-! ### One question -/

/-- A question is answered alike by a store in memory and by the database that mirrors it, which
mirrors it again afterwards. -/
theorem Mirrors.answer {db : Database} {m : Memory} (e : Engine) {q : Query} (hq : Admissible q)
    (h : Mirrors db m) :
    ((Sql.answer q).run e.answer db).1 = (Memory.answer q m).1 ∧
      Mirrors ((Sql.answer q).run e.answer db).2 (Memory.answer q m).2 := by
  cases q with
  | insert r =>
      obtain ⟨id, taskType, payload, createdAt, hr⟩ := hq.made
      exact h.insert e (.create hr) hq.storable
  | get id => exact h.get e id
  | setHandle id handle =>
      obtain ⟨text, hparse⟩ := hq.made
      have hhandle : (Value.text handle.text).isStorable = true := hq.storable _ (by simp [brought])
      exact h.write e "set_remote_handle" (expresses_setHandle id (parse_text hparse))
        (isStorable_params id hhandle _)
  | markRunning id =>
      exact h.write e "mark_running" (expresses_markRunning id)
        (isStorable_params id (isStorable_name _) _)
  | appendLog id message =>
      have hmessage : (Value.text message).isStorable = true := hq.storable _ (by simp [brought])
      exact h.write e "append_log" (expresses_appendLog id message)
        (isStorable_params id hmessage _)
  | finish id u =>
      exact h.finishWhere e id (fun s hs => Status.isTerminal_of_canBecome (Status.mem_sources.1 hs))
        (fun hc => hc) (fun hu => exists_finish_iff hu) hq.storable
  | finishFrom id source u =>
      change ((finishFrom id source u).run e.answer db).1 = _ ∧
        Mirrors ((finishFrom id source u).run e.answer db).2 _
      unfold finishFrom
      split
      · next hsource =>
          refine h.finishWhere e id (fun s hs => ?_)
            (fun hc => (Memory.finishAt_eq_ok_iff.1 hc).2) (fun hu => exists_finishAt_iff hu hsource)
            hq.storable
          rw [List.mem_singleton.1 hs]
          exact Status.isTerminal_of_canBecome hsource
      · next hsource =>
          refine h.unapplied e fun r c _ hc => hsource ?_
          obtain ⟨rfl, hfinish⟩ := Memory.finishAt_eq_ok_iff.1 hc
          exact (Record.finish_eq_ok_iff.1 hfinish).2.1
  | listOpen => exact h.listOpen e
  | counts => exact h.counts e

/-! ### All questions -/

/-- The exchanges with a store in a database, from an empty table, and the database after them. -/
def Engine.serve (e : Engine) (questions : List Query) :
    List (TaskLedger.Exchange Store.interface) × Database :=
  consult (I := Store.interface) (fun q => (Sql.answer q).run e.answer) questions Database.empty

/-- **A store in a database answers every list of questions as a store in memory does**, whatever the
database does with what is left to it, and no check of the schema is ever violated. -/
theorem refines_memory (e : Engine) {questions : List Query} (h : ∀ q ∈ questions, Admissible q) :
    (e.serve questions).1 =
        (consult (I := Store.interface) Memory.answer questions Memory.empty).1 ∧
      checkViolation ∉ (e.serve questions).2.refusals := by
  obtain ⟨hanswers, hlast⟩ := consult_eq_of_step (I := Store.interface)
    (fun hq hst => Mirrors.answer e hq hst) h mirrors_empty
  refine ⟨hanswers, fun hcheck => ?_⟩
  exact absurd (hlast.refusals checkViolation hcheck) (by decide)

/-! ### A database of whole microseconds -/

/-- The instant that has some number when instants are counted in microseconds. -/
def ofMicros? (n : Int) : Option Instant := Instant.ofTicks? (momentOrigin * 1000000000 + n * 1000)

theorem ofTicks?_ticks {t : Instant} (h : t.isLeap = false) :
    Instant.ofTicks? t.ticks = some t := by
  have hlt : t.nanos < 1000000000 := by simpa [Instant.isLeap] using h
  have hsecond : t.ticks / 1000000000 = t.second := by
    rw [Instant.ticks]
    omega
  have hnanos : (t.ticks % 1000000000).toNat = t.nanos := by
    rw [Instant.ticks]
    omega
  rw [Instant.ofTicks?, hsecond, hnanos, Instant.ofParts?, dif_pos ⟨t.second_mem, .inl hlt⟩]

/-- Counting in microseconds loses nothing of an instant in whole microseconds. -/
theorem ofMicros?_micros {t : Instant} (h : t.isLeap = false) (hnanos : t.nanos % 1000 = 0) :
    ofMicros? (micros t) = some t := by
  have hdvd : (1000 : Int) ∣ t.ticks - momentOrigin * 1000000000 := by
    rw [Instant.ticks]
    omega
  have hticks : momentOrigin * 1000000000 + (t.ticks - momentOrigin * 1000000000) = t.ticks := by
    omega
  rw [ofMicros?, micros, Int.tdiv_mul_cancel hdvd, hticks, ofTicks?_ticks h]

/-- A database that counts instants in microseconds, refuses texts with the null character, and comes
upon its rows in another order after every statement. -/
def microsecondEngine : Engine where
  hold
    | .text s => if isPlainText s then .ok (.text s) else .error "22021"
    | .texts items => if items.all isPlainText then .ok (.texts items) else .error "22021"
    | .moment t =>
        match ofMicros? (micros t) with
        | some held => .ok (.moment held)
        | none => .error "22008"
    | value => .ok value
  hold_of_isStorable value h := by
    cases value with
    | text s => exact if_pos h
    | texts items => exact if_pos h
    | moment t =>
        have hboth : t.isLeap = false ∧ t.nanos % 1000 = 0 := by simpa [Value.isStorable] using h
        simp only [ofMicros?_micros hboth.1 hboth.2]
    | _ => rfl
  arrange n rows := rows.rotate n
  arrange_perm n rows := List.rotate_perm rows n
  wording code := "refused with " ++ code

/-- A task that is added twice, runs, is wrongly ended at an open stage, and is then completed with a
message that does not belong to a completion. -/
def awkwardQuestions (id : TaskId) : List Query := [
  .insert (.fresh id "export" .null .epoch),
  .insert (.fresh id "export" .null .epoch),
  .markRunning id,
  .setHandle id ⟨"job-1"⟩,
  .markRunning id,
  .finish id { status := .running, endedAt := .epoch },
  .listOpen,
  .finish id { status := .completed, endedAt := .epoch, errorMessage := some "odd" },
  .appendLog id "too late",
  .get id,
  .counts]

theorem refines_memory_awkwardly :
    (∀ q ∈ awkwardQuestions ⟨⟨1⟩⟩, Admissible q) ∧
      (microsecondEngine.serve (awkwardQuestions ⟨⟨1⟩⟩)).1 =
        (consult (I := Store.interface) Memory.answer (awkwardQuestions ⟨⟨1⟩⟩) Memory.empty).1 ∧
      checkViolation ∉ (microsecondEngine.serve (awkwardQuestions ⟨⟨1⟩⟩)).2.refusals := by
  have hcreate : Record.create ⟨⟨1⟩⟩ "export" .null .epoch =
      .ok (.fresh ⟨⟨1⟩⟩ "export" .null .epoch) := by decide
  have hparse : Handle.parse "job-1" = .ok ⟨"job-1"⟩ := by decide
  have h : ∀ q ∈ awkwardQuestions ⟨⟨1⟩⟩, Admissible q := by
    simp only [awkwardQuestions, List.forall_mem_cons]
    refine ⟨⟨⟨_, _, _, _, hcreate⟩, by decide⟩, ⟨⟨_, _, _, _, hcreate⟩, by decide⟩,
      ⟨trivial, by decide⟩, ⟨⟨_, hparse⟩, by decide⟩, ⟨trivial, by decide⟩, ⟨trivial, by decide⟩,
      ⟨trivial, by decide⟩, ⟨trivial, by decide⟩, ⟨trivial, by decide⟩, ⟨trivial, by decide⟩,
      ⟨trivial, by decide⟩, List.forall_mem_nil _⟩
  exact ⟨h, refines_memory microsecondEngine h⟩

end TaskLedger.Sql
