import TaskLedger.Proofs.Dialogue.History
import TaskLedger.Proofs.Sql.Engine
import TaskLedger.Sql.Store

/-!
**The conditional writes are guarded, whatever the server replies.**

A conditional write sends at most two statements: an update, and if that changed no row, the question
for the stage of the record.  The server is free to reply anything at all, and may fail at either.
What protects a task that has ended is in the update itself: it names the stages from which it may be
made, no last stage is among them, and if it sets the stage then each of them leads to the new one.
What becomes of a write is read off the replies, and what no record could have replied is told apart
from the three outcomes.

Main definitions:

* `TaskLedger.Sql.Tells` — what the rows with the stage of a record tell of a write that changed none;
* `TaskLedger.Sql.Write` — the five conditional writes;
* `TaskLedger.Sql.Write.Guarded` — what an update says of the stages that it is made from;
* `TaskLedger.Sql.Write.Course` — how a write goes, reply by reply.

Main results:

* `TaskLedger.Sql.tells_explain` — the rows are explained as they are told;
* `TaskLedger.Sql.Write.exchange_cases` — a write is a guarded update, or is not tried at all;
* `TaskLedger.Sql.Write.course_of_ends` — there are no other courses;
* `TaskLedger.Sql.Write.guarded_and_explained` — **every update is guarded, and every reply has its
  outcome**.
-/

set_option autoImplicit false

namespace TaskLedger

/-! ### Names of stages in any case of their letters -/

theorem Status.eq_of_sameLetters {a b : Status} {s : String}
    (ha : Text.sameLetters a.name s = true) (hb : Text.sameLetters b.name s = true) : a = b := by
  rw [Text.sameLetters_iff] at ha hb
  have hnames : a.name.toList.map Char.toLower = b.name.toList.map Char.toLower := ha.trans hb.symm
  revert hnames
  cases a <;> cases b <;> decide

namespace Sql

open Store (Outcome)

/-! ### Why a write was not applied -/

/-- The first of some rows has a text for the stage. -/
def Shows (rows : List Row) (s : String) : Prop :=
  ∃ row rest, rows = row :: rest ∧ row.cell Column.status.name = .ok (.text s)

/-- What the rows with the stage of a record tell of a write that changed none: there is no record, or
it is at the stage whose name is shown in any case of its letters, or the row is no record's. -/
inductive Tells : List Row → Except Store.Fault Outcome → Prop
  | notFound : Tells [] (.ok .notFound)
  | rejected {rows : List Row} {s : String} {current : Status} :
      Shows rows s → Text.sameLetters current.name s = true → Tells rows (.ok (.rejected current))
  | corrupt {rows : List Row} {detail : String} :
      rows ≠ [] → (∀ s, Shows rows s → ∀ current : Status, Text.sameLetters current.name s = false) →
      Tells rows (.error (.corrupt detail))

theorem Shows.text_eq {rows : List Row} {s t : String} (hs : Shows rows s) (ht : Shows rows t) :
    s = t := by
  obtain ⟨row, rest, rfl, hcell⟩ := hs
  obtain ⟨row', rest', hrows, hcell'⟩ := ht
  obtain ⟨rfl, -⟩ := List.cons.inj hrows
  exact Value.text.inj (Except.ok.inj (hcell.symm.trans hcell'))

theorem required_text_eq_ok_iff {row : Row} {name s : String} :
    row.required name Value.text? = .ok s ↔ row.cell name = .ok (.text s) := by
  unfold Row.required
  cases row.cell name with
  | error fault => simp [bind, Except.bind]
  | ok value => cases value <;> simp [bind, Except.bind, Value.text?]

/-- The rows are explained as they are told. -/
theorem tells_explain (rows : List Row) : Tells rows (explain rows) := by
  match rows with
  | [] => exact .notFound
  | row :: rest =>
      have hshows : ∀ s, Shows (row :: rest) s ↔
          row.required Column.status.name Value.text? = .ok s := by
        intro s
        rw [required_text_eq_ok_iff]
        constructor
        · rintro ⟨row', rest', hrows, hcell⟩
          obtain ⟨rfl, -⟩ := List.cons.inj hrows
          exact hcell
        · exact fun hcell => ⟨row, rest, rfl, hcell⟩
      simp only [explain]
      cases hread : row.required Column.status.name Value.text? with
      | error fault =>
          refine .corrupt (List.cons_ne_nil row rest) fun s hs => ?_
          rw [hshows, hread] at hs
          cases hs
      | ok s =>
          simp only [readStatus, Status.parse]
          cases hparse : Status.parse? s with
          | some current =>
              have hname := List.find?_some hparse
              exact .rejected ((hshows s).2 hread) hname
          | none =>
              refine .corrupt (List.cons_ne_nil row rest) fun t ht current => ?_
              rw [hshows, hread] at ht
              obtain rfl := Except.ok.inj ht
              simpa using List.find?_eq_none.1 hparse current current.mem_all

example : explain [[("status", .text "RUNNING")]] = .ok (.rejected .running) := by rfl

section Tells

variable {rows : List Row} {r : Except Store.Fault Outcome}

theorem Tells.notFound_iff (h : Tells rows r) : r = .ok .notFound ↔ rows = [] := by
  cases h with
  | notFound => simp
  | rejected hshows =>
      obtain ⟨row, rest, rfl, -⟩ := hshows
      simp
  | corrupt hrows => simpa using hrows

theorem Tells.rejected_iff (h : Tells rows r) (current : Status) :
    r = .ok (.rejected current) ↔ ∃ s, Shows rows s ∧ Text.sameLetters current.name s = true := by
  cases h with
  | notFound => simp [Shows]
  | @rejected _ s found hshows hname =>
      constructor
      · intro heq
        cases heq
        exact ⟨s, hshows, hname⟩
      · rintro ⟨t, ht, hcurrent⟩
        rw [ht.text_eq hshows] at hcurrent
        rw [Status.eq_of_sameLetters hname hcurrent]
  | corrupt _ hno =>
      simp only [reduceCtorEq, false_iff, not_exists, not_and]
      intro s hs
      simp [hno s hs current]

theorem Tells.corrupt_iff (h : Tells rows r) :
    (∃ detail, r = .error (.corrupt detail)) ↔
      rows ≠ [] ∧ ∀ s, Shows rows s → ∀ current : Status,
        Text.sameLetters current.name s = false := by
  cases h with
  | notFound => simp
  | rejected hshows hname =>
      simp only [reduceCtorEq, exists_false, false_iff, not_and]
      intro _ hno
      rw [hno _ hshows] at hname
      cases hname
  | corrupt hrows hno => exact ⟨fun _ => ⟨hrows, hno⟩, fun _ => ⟨_, rfl⟩⟩

end Tells

/-! ### How a write that changed nothing is explained -/

/-- The question for the stage of a record. -/
def stageOf (id : TaskId) : Request :=
  .statement (.select [.status] [.equals .taskId 1] []) [.uuid id.uuid]

/-- How a write is explained: the server fails to reply, or it replies with some rows. -/
inductive Explained (id : TaskId) :
    List (TaskLedger.Exchange session) → Except Store.Fault Outcome → Prop
  | failed (fault : ClientFault) :
      Explained id [⟨stageOf id, .error fault⟩] (.error (fault.toFault "current_status"))
  | told (reply : Reply) : Explained id [⟨stageOf id, .ok reply⟩] (explain reply.rows)

section Unapplied

variable {id : TaskId} {h : List (TaskLedger.Exchange session)} {r : Except Store.Fault Outcome}

theorem explained_of_ends (hends : (unapplied id).Ends h r) : Explained id h r := by
  obtain ⟨a, h', rfl, hlater⟩ := Dialogue.ends_ask.1 hends
  match a with
  | .error fault =>
      obtain ⟨rfl, rfl⟩ := Dialogue.ends_done.1 hlater
      exact .failed fault
  | .ok reply =>
      obtain ⟨rfl, rfl⟩ := Dialogue.ends_done.1 hlater
      exact .told reply

theorem asks_unapplied {q : Request} (hasks : (unapplied id).Asks h q) : h = [] ∧ q = stageOf id := by
  rcases Dialogue.asks_ask.1 hasks with hfirst | ⟨a, h', rfl, hlater⟩
  · exact hfirst
  · match a with
    | .error fault => exact absurd hlater (Dialogue.not_asks_done _)
    | .ok reply => exact absurd hlater (Dialogue.not_asks_done _)

theorem asksAtMost_unapplied (id : TaskId) : (unapplied id).AsksAtMost 1 :=
  .ask fun a => by
    match a with
    | .error fault => exact .done _ 0
    | .ok reply => exact .done _ 0

end Unapplied

/-! ### The writes -/

/-- A conditional write of the store. -/
inductive Write where
  | setHandle (id : TaskId) (handle : Handle)
  | markRunning (id : TaskId)
  | appendLog (id : TaskId) (message : String)
  | finish (id : TaskId) (update : FinalUpdate)
  | finishFrom (id : TaskId) (source : Status) (update : FinalUpdate)

namespace Write

/-- The session that makes a write. -/
def exchange : Write → Exchange (Except Store.Fault Outcome)
  | setHandle id handle => Sql.setHandle id handle
  | markRunning id => Sql.markRunning id
  | appendLog id message => Sql.appendLog id message
  | finish id update => Sql.finish id update
  | finishFrom id source update => Sql.finishFrom id source update

/-- The task that a write is about. -/
def id : Write → TaskId
  | setHandle id _ | markRunning id | appendLog id _ | finish id _ | finishFrom id _ _ => id

/-- The stage that a write brings a task to. -/
def target? : Write → Option Status
  | setHandle _ _ | appendLog _ _ => none
  | markRunning _ => some .running
  | finish _ update | finishFrom _ _ update => some update.status

/-- The stage at which a task has to be still. -/
def source? : Write → Option Status
  | finishFrom _ source _ => some source
  | setHandle _ _ | markRunning _ | appendLog _ _ | finish _ _ => none

/-- Whether a write is tried at all: a task ends at a last stage only, and from a stage that leads to
it. -/
def isTried : Write → Bool
  | setHandle _ _ | markRunning _ | appendLog _ _ => true
  | finish _ update => update.status.isTerminal
  | finishFrom _ source update => update.status.isTerminal && source.canBecome update.status

/-- What the update of a write says: it chooses the row of the task at some stages, none of them a last
one and all such that they lead to the stage that the row is brought to, if it is brought to one; and
of the reason of a failure and the result of the task it brings what belongs to that stage. -/
structure Guarded (w : Write) (assignments : List (Column × Term)) (tests : List Test)
    (params : List Value) : Prop where
  row : .equals .taskId 1 ∈ tests ∧ parameter params 1 = .uuid w.id.uuid
  staged : ∃ n, .among .status n ∈ tests
  stages : ∀ n, .among .status n ∈ tests → ∃ stages, parameter params n = stageNames stages ∧
    (∀ source ∈ w.source?, stages = [source]) ∧
    ∀ s ∈ stages, s.isTerminal = false ∧ ∀ target ∈ w.target?, s.canBecome target = true
  status : ∀ term, (.status, term) ∈ assignments →
    ∃ n, ∃ target ∈ w.target?, term = .param n ∧ parameter params n = .text target.name
  errorMessage : ∀ term, (.errorMessage, term) ∈ assignments →
    ∃ n, term = .param n ∧ (parameter params n ≠ .null → w.target? = some .failed)
  result : ∀ term, (.result, term) ∈ assignments →
    ∃ n, term = .param n ∧ (parameter params n ≠ .null → w.target? = some .completed)

/-- A request is the guarded update of a write. -/
def Sends (w : Write) (q : Request) : Prop :=
  ∃ assignments tests params, q = .statement (.update assignments tests) params ∧
    w.Guarded assignments tests params

variable {w : Write}

/-! ### The updates -/

/-- A value that is brought under a condition only is null otherwise. -/
theorem of_ofOption_ite {α : Type} {p : Prop} [Decidable p] {value : α → Value} {o : Option α}
    (h : Value.ofOption value (if p then o else none) ≠ .null) : p := by
  by_contra hp
  rw [if_neg hp] at h
  exact h rfl

/-- The end of a task is a guarded update, or is not tried at all. -/
theorem finishWhere_cases {stages : List Status} {u : FinalUpdate}
    (htarget : w.target? = some u.status) (hsource : ∀ source ∈ w.source?, stages = [source])
    (hstages : ∀ s ∈ stages, s.canBecome u.status = true)
    (hsome : u.status.isTerminal = true → stages ≠ []) :
    (u.status.isTerminal = false ∧ finishWhere w.id stages u = unapplied w.id) ∨
      u.status.isTerminal = true ∧ ∃ operation assignments tests params,
        w.Guarded assignments tests params ∧
          finishWhere w.id stages u = write operation w.id assignments tests params := by
  unfold finishWhere
  cases hended : u.status.isTerminal with
  | false => exact Or.inl ⟨rfl, rfl⟩
  | true =>
      rw [if_neg (by simpa using hsome hended)]
      refine Or.inr ⟨rfl, _, _, _, _, ?_, rfl⟩
      refine {
        row := ⟨by simp, rfl⟩
        staged := ⟨8, by simp⟩
        stages := fun n hn => ?_
        status := fun term hterm => ?_
        errorMessage := fun term hterm => ?_
        result := fun term hterm => ?_ }
      · obtain rfl : n = 8 := by simpa using hn
        refine ⟨stages, rfl, hsource, fun s hs => ?_⟩
        refine ⟨Status.isTerminal_of_canBecome (hstages s hs), fun target ht => ?_⟩
        obtain rfl := Option.some.inj (htarget.symm.trans ht)
        exact hstages s hs
      · obtain rfl : term = .param 2 := by simpa using hterm
        exact ⟨2, u.status, htarget, rfl, rfl⟩
      · obtain rfl : term = .param 4 := by simpa using hterm
        exact ⟨4, rfl, fun hbrought => htarget.trans (congrArg some (of_ofOption_ite hbrought))⟩
      · obtain rfl : term = .param 6 := by simpa using hterm
        exact ⟨6, rfl, fun hbrought => htarget.trans (congrArg some (of_ofOption_ite hbrought))⟩

/-- **A write is a guarded update, or is not tried at all.** -/
theorem exchange_cases (w : Write) :
    (w.isTried = false ∧ w.exchange = unapplied w.id) ∨
      w.isTried = true ∧ ∃ operation assignments tests params,
        w.Guarded assignments tests params ∧
          w.exchange = write operation w.id assignments tests params := by
  cases w with
  | setHandle id handle =>
      refine Or.inr ⟨rfl, _, _, _, _, ?_, rfl⟩
      refine {
        row := ⟨by simp, rfl⟩
        staged := ⟨3, by simp⟩
        stages := fun n hn => ?_
        status := by simp
        errorMessage := by simp
        result := by simp }
      obtain rfl : n = 3 := by simpa using hn
      exact ⟨Status.openStages, rfl, nofun, fun s hs => ⟨Status.mem_openStages.1 hs, nofun⟩⟩
  | markRunning id =>
      refine Or.inr ⟨rfl, _, _, _, _, ?_, rfl⟩
      refine {
        row := ⟨by simp, rfl⟩
        staged := ⟨3, by simp⟩
        stages := fun n hn => ?_
        status := fun term hterm => ?_
        errorMessage := by simp
        result := by simp }
      · obtain rfl : n = 3 := by simpa using hn
        refine ⟨Status.running.sources, rfl, nofun, fun s hs => ?_⟩
        have hleads := Status.mem_sources.1 hs
        refine ⟨Status.isTerminal_of_canBecome hleads, fun target ht => ?_⟩
        obtain rfl := Option.some.inj ht
        exact hleads
      · obtain rfl : term = .param 2 := by simpa using hterm
        exact ⟨2, .running, rfl, rfl, rfl⟩
  | appendLog id message =>
      refine Or.inr ⟨rfl, _, _, _, _, ?_, rfl⟩
      refine {
        row := ⟨by simp, rfl⟩
        staged := ⟨3, by simp⟩
        stages := fun n hn => ?_
        status := by simp
        errorMessage := by simp
        result := by simp }
      obtain rfl : n = 3 := by simpa using hn
      exact ⟨Status.openStages, rfl, nofun, fun s hs => ⟨Status.mem_openStages.1 hs, nofun⟩⟩
  | finish id u =>
      refine finishWhere_cases (w := .finish id u) rfl nofun (fun s hs => Status.mem_sources.1 hs) ?_
      cases u.status <;> simp [Status.isTerminal, Status.sources, Status.openStages]
  | finishFrom id source u =>
      simp only [exchange, Sql.finishFrom, isTried]
      cases hleads : source.canBecome u.status with
      | false => exact Or.inl ⟨Bool.and_false _, rfl⟩
      | true =>
          simp only [if_true, Bool.and_true]
          refine finishWhere_cases (w := .finishFrom id source u) rfl ?_ ?_ fun _ => by simp
          · rintro _ ⟨⟩
            rfl
          · simpa using hleads

/-! ### The courses of a write -/

/-- How a write goes: it is not tried, and explained at once; or its update is sent, and the server
fails to reply, or replies that rows were changed, or that none was and the write is explained. -/
inductive Course (w : Write) :
    List (TaskLedger.Exchange session) → Except Store.Fault Outcome → Prop
  | untried {h : List (TaskLedger.Exchange session)} {r : Except Store.Fault Outcome} :
      w.isTried = false → Explained w.id h r → Course w h r
  | failed {q : Request} {operation : String} (fault : ClientFault) :
      w.Sends q → Course w [⟨q, .error fault⟩] (.error (fault.toFault operation))
  | applied {q : Request} (reply : Reply) :
      w.Sends q → 0 < reply.affected → Course w [⟨q, .ok reply⟩] (.ok .applied)
  | unchanged {q : Request} (reply : Reply) {h : List (TaskLedger.Exchange session)}
      {r : Except Store.Fault Outcome} :
      w.Sends q → reply.affected = 0 → Explained w.id h r → Course w (⟨q, .ok reply⟩ :: h) r

variable {h : List (TaskLedger.Exchange session)} {r : Except Store.Fault Outcome}

/-- **There are no other courses.** -/
theorem course_of_ends (hends : w.exchange.Ends h r) : w.Course h r := by
  rcases w.exchange_cases with ⟨htried, heq⟩ | ⟨htried, operation, assignments, tests, params, hg, heq⟩
  · rw [heq] at hends
    exact .untried htried (explained_of_ends hends)
  · rw [heq] at hends
    have hsends : w.Sends (.statement (.update assignments tests) params) := ⟨_, _, _, rfl, hg⟩
    obtain ⟨a, h', rfl, hlater⟩ := Dialogue.ends_ask.1 hends
    match a with
    | .error fault =>
        obtain ⟨rfl, rfl⟩ := Dialogue.ends_done.1 hlater
        exact .failed fault hsends
    | .ok reply =>
        have hlater : (if 0 < reply.affected then pure (.ok .applied) else unapplied w.id :
          Exchange (Except Store.Fault Outcome)).Ends h' r := hlater
        by_cases hchanged : 0 < reply.affected
        · rw [if_pos hchanged] at hlater
          obtain ⟨rfl, rfl⟩ := Dialogue.ends_pure.1 hlater
          exact .applied reply hsends hchanged
        · rw [if_neg hchanged] at hlater
          exact .unchanged reply hsends (by omega) (explained_of_ends hlater)

/-- A write asks for the stage of the record, or before anything else sends its update. -/
theorem asks_cases {q : Request} (hasks : w.exchange.Asks h q) :
    q = stageOf w.id ∨ h = [] ∧ w.isTried = true ∧ w.Sends q := by
  rcases w.exchange_cases with ⟨-, heq⟩ | ⟨htried, operation, assignments, tests, params, hg, heq⟩
  · rw [heq] at hasks
    exact Or.inl (asks_unapplied hasks).2
  · rw [heq] at hasks
    rcases Dialogue.asks_ask.1 hasks with ⟨rfl, rfl⟩ | ⟨a, h', rfl, hlater⟩
    · exact Or.inr ⟨rfl, htried, _, _, _, rfl, hg⟩
    · match a with
      | .error fault => exact absurd hlater (Dialogue.not_asks_done _)
      | .ok reply =>
          have hlater : (if 0 < reply.affected then pure (.ok .applied) else unapplied w.id :
            Exchange (Except Store.Fault Outcome)).Asks h' q := hlater
          split at hlater
          · exact absurd hlater (Dialogue.not_asks_pure _)
          · exact Or.inl (asks_unapplied hlater).2

/-- A write that is tried sends its update. -/
theorem exists_sends (htried : w.isTried = true) : ∃ q, w.Sends q ∧ w.exchange.Asks [] q := by
  rcases w.exchange_cases with ⟨hnot, -⟩ | ⟨-, operation, assignments, tests, params, hg, heq⟩
  · rw [htried] at hnot
    cases hnot
  · refine ⟨_, ⟨assignments, tests, params, rfl, hg⟩, ?_⟩
    rw [heq]
    exact Dialogue.asks_ask.2 (Or.inl ⟨rfl, rfl⟩)

theorem asksAtMost_exchange (w : Write) : w.exchange.AsksAtMost 2 := by
  rcases w.exchange_cases with ⟨-, heq⟩ | ⟨-, operation, assignments, tests, params, -, heq⟩
  · rw [heq]
    exact (asksAtMost_unapplied w.id).mono (by decide)
  · rw [heq]
    refine .ask fun a => ?_
    match a with
    | .error fault => exact .done _ 1
    | .ok reply =>
        change (if 0 < reply.affected then pure (.ok .applied) else unapplied w.id :
          Exchange (Except Store.Fault Outcome)).AsksAtMost 1
        split
        · exact .done _ 1
        · exact asksAtMost_unapplied w.id

end Write

/-! ### The outcome of a write -/

/-- The server replies to an update that it has changed rows. -/
def Changed (e : TaskLedger.Exchange session) : Prop :=
  ∃ (assignments : List (Column × Term)) (tests : List Test) (params : List Value) (reply : Reply),
    e = ⟨.statement (.update assignments tests) params, .ok reply⟩ ∧ 0 < reply.affected

/-- The server fails to reply. -/
def Failed (e : TaskLedger.Exchange session) : Prop :=
  ∃ (q : Request) (fault : ClientFault), e = ⟨q, .error fault⟩

theorem ClientFault.exists_storage (fault : ClientFault) (operation : String) :
    ∃ detail, fault.toFault operation = .storage detail := by
  cases fault <;> exact ⟨_, rfl⟩

theorem Tells.ne_applied {rows : List Row} {r : Except Store.Fault Outcome} (h : Tells rows r) :
    r ≠ .ok .applied := by
  cases h <;> nofun

namespace Explained

variable {id : TaskId} {h : List (TaskLedger.Exchange session)} {r : Except Store.Fault Outcome}

theorem not_changed (hexplained : Explained id h r) : ∀ e ∈ h, ¬ Changed e := by
  rintro e he ⟨assignments, tests, params, reply, rfl, -⟩
  cases hexplained with
  | failed fault => cases List.mem_singleton.1 he
  | told reply => cases List.mem_singleton.1 he

theorem ne_applied (hexplained : Explained id h r) : r ≠ .ok .applied := by
  cases hexplained with
  | failed fault => nofun
  | told reply => exact (tells_explain reply.rows).ne_applied

theorem storage_of_failed (hexplained : Explained id h r) (hfailed : ∃ e ∈ h, Failed e) :
    ∃ detail, r = .error (.storage detail) := by
  cases hexplained with
  | failed fault =>
      obtain ⟨detail, hdetail⟩ := fault.exists_storage "current_status"
      exact ⟨detail, congrArg Except.error hdetail⟩
  | told reply =>
      obtain ⟨e, he, q, fault, rfl⟩ := hfailed
      cases List.mem_singleton.1 he

theorem told_of_not_failed (hexplained : Explained id h r) (hnot : ∀ e ∈ h, ¬ Failed e) :
    ∃ reply : Reply, h = [⟨stageOf id, .ok reply⟩] ∧ Tells reply.rows r := by
  cases hexplained with
  | failed fault => exact absurd ⟨_, fault, rfl⟩ (hnot _ (List.mem_singleton.2 rfl))
  | told reply => exact ⟨reply, rfl, tells_explain reply.rows⟩

end Explained

namespace Write

variable {w : Write} {h : List (TaskLedger.Exchange session)} {r : Except Store.Fault Outcome}

theorem Sends.ne_stageOf {q : Request} (hsends : w.Sends q) (id : TaskId) : q ≠ stageOf id := by
  obtain ⟨assignments, tests, params, rfl, -⟩ := hsends
  nofun

namespace Course

/-- A write is applied if its update has changed rows, and only then. -/
theorem applied_iff (hc : w.Course h r) : r = .ok .applied ↔ ∃ e ∈ h, Changed e := by
  cases hc with
  | untried _ hexplained =>
      refine iff_of_false hexplained.ne_applied ?_
      rintro ⟨e, he, hchanged⟩
      exact hexplained.not_changed e he hchanged
  | failed fault hsends =>
      refine iff_of_false nofun ?_
      rintro ⟨e, he, _, _, _, reply, rfl, -⟩
      cases List.mem_singleton.1 he
  | applied reply hsends hchanged =>
      obtain ⟨assignments, tests, params, rfl, -⟩ := hsends
      exact iff_of_true rfl
        ⟨_, List.mem_singleton.2 rfl, assignments, tests, params, reply, rfl, hchanged⟩
  | unchanged reply hsends hnone hexplained =>
      refine iff_of_false hexplained.ne_applied ?_
      rintro ⟨e, he, hchanged⟩
      rcases List.mem_cons.1 he with rfl | he
      · obtain ⟨_, _, _, reply', heq, hsome⟩ := hchanged
        cases heq
        omega
      · exact hexplained.not_changed e he hchanged

/-- Where the server fails to reply, the store has failed. -/
theorem storage_of_failed (hc : w.Course h r) (hfailed : ∃ e ∈ h, Failed e) :
    ∃ detail, r = .error (.storage detail) := by
  cases hc with
  | untried _ hexplained => exact hexplained.storage_of_failed hfailed
  | @failed _ operation fault =>
      obtain ⟨detail, hdetail⟩ := fault.exists_storage operation
      exact ⟨detail, congrArg Except.error hdetail⟩
  | applied reply =>
      obtain ⟨e, he, q, fault, rfl⟩ := hfailed
      cases List.mem_singleton.1 he
  | unchanged reply _ _ hexplained =>
      obtain ⟨e, he, q, fault, rfl⟩ := hfailed
      rcases List.mem_cons.1 he with heq | he
      · cases heq
      · exact hexplained.storage_of_failed ⟨_, he, q, fault, rfl⟩

/-- A write that is not applied ends with one question for the stage of the record, and its result is
what the reply tells. -/
theorem told (hc : w.Course h r) (hnot : r ≠ .ok .applied) (hreplied : ∀ e ∈ h, ¬ Failed e) :
    ∃ (sent : List (TaskLedger.Exchange session)) (reply : Reply),
      h = sent ++ [⟨stageOf w.id, .ok reply⟩] ∧ (∀ e ∈ sent, e.question ≠ stageOf w.id) ∧
        Tells reply.rows r := by
  cases hc with
  | untried _ hexplained =>
      obtain ⟨reply, rfl, htells⟩ := hexplained.told_of_not_failed hreplied
      exact ⟨[], reply, rfl, by simp, htells⟩
  | failed fault => exact absurd ⟨_, fault, rfl⟩ (hreplied _ (List.mem_singleton.2 rfl))
  | applied => exact absurd rfl hnot
  | @unchanged q none _ _ hsends _ hexplained =>
      obtain ⟨reply, rfl, htells⟩ :=
        hexplained.told_of_not_failed fun e he => hreplied e (List.mem_cons_of_mem _ he)
      refine ⟨[⟨q, .ok none⟩], reply, rfl, fun e he => ?_, htells⟩
      rw [List.mem_singleton.1 he]
      exact hsends.ne_stageOf w.id

end Course

/-- **Every update is guarded, and every reply has its outcome.**  Whatever the server replies, a
conditional write sends at most two statements.  Each is the question for the stage of the record, or
it is the first one, an update: then the write is one that is tried, and the update is guarded.  If
the server replies to the update that it has changed rows, and only then, the write is applied.  If the
server fails to reply, so does the store.  Otherwise there is one question for the stage, and it
decides: without a row there is no record; a text that is the name of a stage, in any case of its
letters, is the stage at which the write was rejected; and any other row is corrupt. -/
theorem guarded_and_explained (w : Write) :
    w.exchange.AsksAtMost 2 ∧
      (∀ h q, w.exchange.Asks h q → q = stageOf w.id ∨ h = [] ∧ w.isTried = true ∧ w.Sends q) ∧
      (w.isTried = true → ∃ q, w.Sends q ∧ w.exchange.Asks [] q) ∧
      ∀ h r, w.exchange.Ends h r →
        (r = .ok .applied ↔ ∃ e ∈ h, Changed e) ∧
        ((∃ e ∈ h, Failed e) → ∃ detail, r = .error (.storage detail)) ∧
        (r ≠ .ok .applied → (∀ e ∈ h, ¬ Failed e) →
          ∃ (sent : List (TaskLedger.Exchange session)) (reply : Reply),
            h = sent ++ [⟨stageOf w.id, .ok reply⟩] ∧ (∀ e ∈ sent, e.question ≠ stageOf w.id) ∧
            (r = .ok .notFound ↔ reply.rows = []) ∧
            (∀ current, r = .ok (.rejected current) ↔
              ∃ s, Shows reply.rows s ∧ Text.sameLetters current.name s = true) ∧
            ((∃ detail, r = .error (.corrupt detail)) ↔ reply.rows ≠ [] ∧
              ∀ s, Shows reply.rows s → ∀ current : Status,
                Text.sameLetters current.name s = false)) := by
  refine ⟨w.asksAtMost_exchange, fun h q => asks_cases, exists_sends, fun h r hends => ?_⟩
  have hc := course_of_ends hends
  refine ⟨hc.applied_iff, hc.storage_of_failed, fun hnot hreplied => ?_⟩
  obtain ⟨sent, reply, hh, hsent, htells⟩ := hc.told hnot hreplied
  exact ⟨sent, reply, hh, hsent, htells.notFound_iff, htells.rejected_iff, htells.corrupt_iff⟩

end Write

end Sql

end TaskLedger
