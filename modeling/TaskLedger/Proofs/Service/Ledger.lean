import TaskLedger.Backend
import TaskLedger.Proofs.Dialogue.Interleaving
import TaskLedger.Proofs.Service.Operation
import TaskLedger.Proofs.Store.Evolution

/-!
**The ledger of a task.**

Any number of operations run side by side against one backend, while its clock is set and its
broker changes as it likes.  All that the exchanges with the store tell of one task is collected in
a ledger.  The ledger and the record agree at every moment: what the record is now can be read off
the ledger, and what the ledger tells of a terminal stage is true of the record ever after.

Main definitions:

* `TaskLedger.Backend.world` — a backend to which other things happen than being asked;
* `TaskLedger.Service.accounts`, `TaskLedger.Service.finalWrites` — the ledger, and the accounts in
  it of ending the task;
* `TaskLedger.Service.Effect` — what a call may do to a record, and what its reply then tells;
* `TaskLedger.Service.Ledger` — the agreement of ledger and record.

Main results:

* `TaskLedger.Service.effect_answer` — every call of every operation has one of the six effects;
* `TaskLedger.Service.ledger_of_run` — **the ledger of a run agrees with the record**.
-/

set_option autoImplicit false

namespace TaskLedger

/-! ### A backend to which things happen -/

/-- What may happen to a backend between two calls: its clock is set, or its broker has become
another. -/
inductive Incident where
  | clock (now : Instant)
  | broker (m : Broker.Memory)

namespace Backend

/-- A backend after an incident. -/
def happen (b : Backend) : Incident → Backend
  | .clock now => { b with clock := now }
  | .broker m => { b with broker := m }

/-- A backend that answers calls while other things happen to it. -/
def world : World Service.calls Backend Incident where
  answer := answer
  happen e b := b.happen e

/-- A backend that answers calls, to which nothing else happens. -/
def quietWorld : World Service.calls Backend Empty where
  answer := answer
  happen e _ := e.elim

/-- A backend without records and jobs, which numbers the tasks from one. -/
def vacant : Backend :=
  .empty (.ofSeconds 3600) .epoch { taskId := fun n => ⟨⟨n + 1⟩⟩, handle := fun _ => ⟨"job"⟩ }

theorem clock_answer (b : Backend) (q : Service.Call) : (b.answer q).2.clock = b.clock := by
  cases q <;> rfl

@[simp] theorem store_happen (b : Backend) (e : Incident) : (b.happen e).store = b.store := by
  cases e <;> rfl

end Backend

namespace Service

/-! ### The ledger -/

section Accounts

variable {ι : Type}

/-- All that the exchanges of a run tell of a task, each with the operation that was told. -/
def accounts (id : TaskId) (said : Said calls ι) : List (ι × Account) :=
  said.filterMap fun y => (y.2.question.tells id y.2.answer).map (y.1, ·)

/-- The accounts of ending the task. -/
def finalWrites (told : List (ι × Account)) : List (ι × Status) :=
  told.filterMap fun
    | (i, .wrote status) => some (i, status)
    | _ => none

/-- The record that a task began with: the one that was there from the start, or else the one that
was added. -/
def firstRecord? (start? : Option Record) (told : List (ι × Account)) : Option Record :=
  start?.or <| told.findSome? fun
    | (_, .added record) => some record
    | _ => none

variable {id : TaskId} {said later : Said calls ι} {told told' : List (ι × Account)} {i : ι}

@[simp] theorem accounts_append :
    accounts id (said ++ later) = accounts id said ++ accounts id later := by
  simp [accounts]

theorem accounts_snoc (x : Exchange calls) : accounts id (said ++ [(i, x)]) =
    accounts id said ++ ((x.question.tells id x.answer).map (i, ·)).toList := by
  simp only [accounts, List.filterMap_append, List.append_cancel_left_eq]
  cases h : x.question.tells id x.answer <;> simp [h]

theorem mem_accounts {a : Account} :
    (i, a) ∈ accounts id said ↔ ∃ x, (i, x) ∈ said ∧ x.question.tells id x.answer = some a := by
  simp only [accounts, List.mem_filterMap, Option.map_eq_some_iff, Prod.mk.injEq]
  constructor
  · rintro ⟨⟨j, x⟩, hx, a', ha, rfl, rfl⟩
    exact ⟨x, hx, ha⟩
  · rintro ⟨x, hx, ha⟩
    exact ⟨(i, x), hx, a, ha, rfl, rfl⟩

/-- What an exchange tells stands in the ledger. -/
theorem mem_accounts_of_tells {x : Exchange calls} {a : Account}
    (htells : x.question.tells id x.answer = some a) :
    (i, a) ∈ accounts id (said ++ (i, x) :: later) :=
  mem_accounts.2 ⟨x, by simp, htells⟩

@[simp] theorem finalWrites_nil : finalWrites ([] : List (ι × Account)) = [] := rfl

@[simp] theorem finalWrites_append :
    finalWrites (told ++ told') = finalWrites told ++ finalWrites told' := by
  simp [finalWrites]

theorem mem_finalWrites {status : Status} :
    (i, status) ∈ finalWrites told ↔ (i, .wrote status) ∈ told := by
  simp only [finalWrites, List.mem_filterMap]
  constructor
  · rintro ⟨⟨j, a⟩, ha, h⟩
    cases a <;> simp at h
    obtain ⟨rfl, rfl⟩ := h
    exact ha
  · intro h
    exact ⟨(i, .wrote status), h, rfl⟩

theorem firstRecord?_append {start? : Option Record} {r : Record}
    (h : firstRecord? start? told = some r) : firstRecord? start? (told ++ told') = some r := by
  cases start? with
  | some r₀ => simpa [firstRecord?] using h
  | none =>
      simp only [firstRecord?, Option.none_or] at h
      simp [firstRecord?, List.findSome?_append, h]

/-- A record that was not there from the start was added. -/
theorem mem_of_firstRecord? {r : Record}
    (hfirst : firstRecord? none told = some r) : ∃ i, (i, .added r) ∈ told := by
  simp only [firstRecord?, Option.none_or] at hfirst
  obtain ⟨⟨i, a⟩, hmem, ha⟩ := List.exists_of_findSome?_eq_some hfirst
  cases a with
  | added record =>
      obtain rfl := Option.some.inj ha
      exact ⟨i, hmem⟩
  | handed | wrote | found => cases ha

end Accounts

/-! ### Who tells what -/

section Tells

variable {id : TaskId}

/-- An outcome tells what there is to tell if the write is done, or else what the store has
found. -/
theorem ofOutcome_cases {deed : Option Account} {reply : Except Store.Fault Store.Outcome}
    {a : Account} (h : Account.ofOutcome deed reply = some a) :
    (reply = .ok .applied ∧ deed = some a) ∨ ∃ status, a = .found status := by
  rcases reply with fault | _ | current | _
  · cases h
  · exact Or.inl ⟨rfl, h⟩
  · exact Or.inr ⟨current, (Option.some.inj h).symm⟩
  · cases h

/-- The exchanges that tell something of a task: the insertion of its record, the recording of its
handle, the two writes that end it, and all that find it at a stage. -/
theorem tells_cases {x : Exchange calls} {a : Account}
    (h : x.question.tells id x.answer = some a) :
    (∃ record k, x = ⟨.store (.insert record), .ok k⟩ ∧ a = .added record) ∨
      (∃ handle, x = ⟨.store (.setHandle id handle), .ok .applied⟩ ∧ a = .handed handle) ∨
      (∃ u : FinalUpdate, a = .wrote u.status ∧
        (x = ⟨.store (.finish id u), .ok .applied⟩ ∨
          ∃ source, x = ⟨.store (.finishFrom id source u), .ok .applied⟩)) ∨
      ∃ status, a = .found status := by
  obtain ⟨call, reply⟩ := x
  cases call with
  | broker q => cases h
  | now => cases h
  | freshId => cases h
  | store q =>
      cases q with
      | listOpen => cases h
      | counts => cases h
      | insert record =>
          obtain ⟨-, h⟩ := Option.ite_none_right_eq_some.1 h
          rcases reply with fault | k
          · cases h
          · exact Or.inl ⟨record, k, rfl, (Option.some.inj h).symm⟩
      | get k =>
          obtain ⟨-, h⟩ := Option.ite_none_right_eq_some.1 h
          rcases reply with fault | _ | r
          · cases h
          · cases h
          · exact Or.inr (Or.inr (Or.inr ⟨r.status, (Option.some.inj h).symm⟩))
      | markRunning k | appendLog k message =>
          obtain ⟨-, h⟩ := Option.ite_none_right_eq_some.1 h
          rcases ofOutcome_cases h with ⟨-, ha⟩ | hfound
          · cases ha
          · exact Or.inr (Or.inr (Or.inr hfound))
      | setHandle k handle =>
          obtain ⟨rfl, hdeed⟩ := Option.ite_none_right_eq_some.1 h
          rcases ofOutcome_cases hdeed with ⟨rfl, ha⟩ | hfound
          · exact Or.inr (Or.inl ⟨handle, rfl, (Option.some.inj ha).symm⟩)
          · exact Or.inr (Or.inr (Or.inr hfound))
      | finish k u =>
          obtain ⟨rfl, hdeed⟩ := Option.ite_none_right_eq_some.1 h
          rcases ofOutcome_cases hdeed with ⟨rfl, ha⟩ | hfound
          · exact Or.inr (Or.inr (Or.inl ⟨u, (Option.some.inj ha).symm, Or.inl rfl⟩))
          · exact Or.inr (Or.inr (Or.inr hfound))
      | finishFrom k source u =>
          obtain ⟨rfl, hdeed⟩ := Option.ite_none_right_eq_some.1 h
          rcases ofOutcome_cases hdeed with ⟨rfl, ha⟩ | hfound
          · exact Or.inr (Or.inr (Or.inl ⟨u, (Option.some.inj ha).symm, Or.inr ⟨source, rfl⟩⟩))
          · exact Or.inr (Or.inr (Or.inr hfound))

/-- To have ended a task is told by the two calls that end it, if they are applied, and by no other
call. -/
theorem tells_eq_wrote_iff {x : Exchange calls} {status : Status} :
    x.question.tells id x.answer = some (.wrote status) ↔
      ∃ u : FinalUpdate, u.status = status ∧
        (x = ⟨.store (.finish id u), .ok .applied⟩ ∨
          ∃ source, x = ⟨.store (.finishFrom id source u), .ok .applied⟩) := by
  constructor
  · intro h
    rcases tells_cases h with ⟨_, _, _, ha⟩ | ⟨_, _, ha⟩ | ⟨u, ha, hx⟩ | ⟨_, ha⟩
    · cases ha
    · cases ha
    · exact ⟨u, (Account.wrote.inj ha).symm, hx⟩
    · cases ha
  · rintro ⟨u, rfl, rfl | ⟨source, rfl⟩⟩ <;> simp [Call.tells, Account.ofOutcome]

/-- To have recorded the handle of a task is told by the call that records it, if it is applied, and
by no other call. -/
theorem tells_eq_handed_iff {x : Exchange calls} {handle : Handle} :
    x.question.tells id x.answer = some (.handed handle) ↔
      x = ⟨.store (.setHandle id handle), .ok .applied⟩ := by
  constructor
  · intro h
    rcases tells_cases h with ⟨_, _, _, ha⟩ | ⟨other, hx, ha⟩ | ⟨_, ha, _⟩ | ⟨_, ha⟩
    · cases ha
    · rwa [← Account.handed.inj ha] at hx
    · cases ha
    · cases ha
  · rintro rfl
    simp [Call.tells, Account.ofOutcome]

/-- What is told to have been added was written under its own identifier. -/
theorem tells_eq_added_iff {x : Exchange calls} {record : Record} :
    x.question.tells id x.answer = some (.added record) ↔
      record.id = id ∧ ∃ k, x = ⟨.store (.insert record), .ok k⟩ := by
  constructor
  · intro h
    rcases tells_cases h with ⟨other, k, rfl, ha⟩ | ⟨_, _, ha⟩ | ⟨_, ha, _⟩ | ⟨_, ha⟩
    · obtain rfl := Account.added.inj ha
      exact ⟨(Option.ite_none_right_eq_some.1 h).1, k, rfl⟩
    · cases ha
    · cases ha
    · cases ha
  · rintro ⟨rfl, k, rfl⟩
    simp [Call.tells, Account.ofInsertion]

end Tells

/-! ### What one call does -/

/-- What a call may do to the record of a task, or to its absence, and what its reply then tells. -/
inductive Effect : Option Account → Option Record → Option Record → Prop
  | nothing (r? : Option Record) : Effect none r? r?
  | added (r : Record) : Effect (some (.added r)) none (some r)
  | found (r : Record) : Effect (some (.found r.status)) (some r) (some r)
  | handed {r c : Record} {handle : Handle} : r.assignHandle handle = .ok c →
      Effect (some (.handed handle)) (some r) (some c)
  | started {r c : Record} : r.start = .ok c → Effect none (some r) (some c)
  | logged {r c : Record} {message : String} : r.appendLog message = .ok c →
      Effect none (some r) (some c)
  | wrote {r c : Record} {u : FinalUpdate} : r.finish u = .ok c →
      Effect (some (.wrote u.status)) (some r) (some c)

/-- A conditional write of any record does to the one of a task what its operation does. -/
theorem effect_modify (m : Store.Memory) (id : TaskId) {q : Store.Query} {k : TaskId}
    {change : Record → Except TaskError Record} (hq : q.Writes k change) {deed : Option Account}
    (hdeed : ∀ r c, change r = .ok c → Effect deed (some r) (some c)) :
    Effect (if k = id then Account.ofOutcome deed (.ok (m.modify k change).1) else none)
      (m.find? id) ((m.modify k change).2.find? id) := by
  rw [Store.Memory.find?_modify fun r c h => hq.id_eq h]
  -- The reply is about the record of the task if that is the one to be written.
  by_cases hk : k = id
  · subst hk
    rw [if_pos rfl, if_pos rfl]
    rcases m.modify_cases k change with ⟨hr, h⟩ | ⟨r, e, hr, hc, h⟩ | ⟨r, c, hr, hc, h⟩
    · rw [h, hr]
      exact .nothing _
    · simp only [h, hr, Option.map_some, hc]
      exact .found r
    · simp only [h, hr, Option.map_some, hc]
      exact hdeed r c hc
  · rw [if_neg hk, if_neg hk]
    exact .nothing _

theorem effect_insert (m : Store.Memory) (id : TaskId) (record : Record) :
    Effect (if record.id = id then Account.ofInsertion record (m.insert record).1 else none)
      (m.find? id) ((m.insert record).2.find? id) := by
  rw [Store.Memory.find?_insert]
  by_cases hid : record.id = id
  · subst hid
    cases hr : m.find? record.id with
    | none =>
        have h : record.id ∉ m.records.map Record.id := Store.Memory.find?_eq_none_iff.1 hr
        simp only [Store.Memory.insert, dif_neg h, Account.ofInsertion, if_true, and_self]
        exact .added record
    | some r =>
        have h : record.id ∈ m.records.map Record.id := by
          by_contra h
          rw [Store.Memory.find?_eq_none_iff.2 h] at hr
          cases hr
        simp only [Store.Memory.insert, dif_pos h, Account.ofInsertion, if_true, reduceCtorEq,
          false_and, if_false]
        exact .nothing _
  · simp only [hid, and_false, if_false]
    exact .nothing _

/-- **The effects of calls**: what a reply tells of a task is what the call has done to it. -/
theorem effect_answer (b : Backend) (call : Call) (id : TaskId) :
    Effect (call.tells id (b.answer call).1) (b.store.find? id)
      ((b.answer call).2.store.find? id) := by
  cases call with
  | broker q => exact .nothing _
  | now => exact .nothing _
  | freshId => exact .nothing _
  | store q =>
      cases q with
      | insert record => exact effect_insert b.store id record
      | get k =>
          by_cases hk : k = id
          · subst hk
            simp only [Call.tells, Backend.answer_store, Store.Memory.answer, if_true]
            cases hr : b.store.find? k with
            | none => exact .nothing _
            | some r => exact .found r
          · simp only [Call.tells, hk, if_false]
            exact .nothing _
      | setHandle k handle =>
          exact effect_modify b.store id (.setHandle k handle) fun _ _ => .handed
      | markRunning k => exact effect_modify b.store id (.markRunning k) fun _ _ => .started
      | appendLog k message =>
          exact effect_modify b.store id (.appendLog k message) fun _ _ => .logged
      | finish k u => exact effect_modify b.store id (.finish k u) fun _ _ => .wrote
      | finishFrom k source u =>
          exact effect_modify b.store id (.finishFrom k source u) fun _ _ h =>
            .wrote (Store.Memory.finishAt_eq_ok_iff.1 h).2
      | listOpen => exact .nothing _
      | counts => exact .nothing _

/-! ### The agreement of ledger and record -/

section Agreement

variable {ι : Type}

/-- A ledger agrees with a record that began as another. -/
structure Agrees (told : List (ι × Account)) (r₀ r : Record) : Prop where
  evolves : r₀.Evolves r
  added : ∀ i record, (i, .added record) ∈ told → record = r₀
  writes : (finalWrites told = [] ∧ r.isTerminal = r₀.isTerminal) ∨
    (r₀.isTerminal = false ∧ r.isTerminal = true ∧ ∃ i, finalWrites told = [(i, r.status)])
  handle_iff : ∀ handle, r.handle = some handle ↔
    r₀.handle = some handle ∨ ∃ i, (i, .handed handle) ∈ told
  found : ∀ i status, (i, .found status) ∈ told → status.isTerminal = true → r.status = status

/-- A ledger agrees with a record as it is now, or with its absence. -/
inductive Ledger (start? : Option Record) (told : List (ι × Account)) : Option Record → Prop
  | absent : start? = none → told = [] → Ledger start? told none
  | present {r₀ r : Record} : firstRecord? start? told = some r₀ → Agrees told r₀ r →
      Ledger start? told (some r)

variable {told : List (ι × Account)} {r₀ r c : Record}

namespace Agrees

/-- A record begins in agreement with a ledger that tells nothing but that. -/
theorem of_first (h : ∀ y ∈ told, y.2 = .added r) : Agrees told r r where
  evolves := .refl r
  added := by
    intro i record hi
    have ha : Account.added record = .added r := h _ hi
    exact Account.added.inj ha
  writes := by
    refine Or.inl ⟨?_, rfl⟩
    rw [List.eq_nil_iff_forall_not_mem]
    rintro ⟨i, status⟩ hi
    cases h _ (mem_finalWrites.1 hi)
  handle_iff := by
    intro handle
    constructor
    · exact Or.inl
    · rintro (hr | ⟨i, hi⟩)
      · exact hr
      · cases h _ hi
  found := by
    intro i status hi
    cases h _ hi

/-- As long as the record is open, nobody has told of its end. -/
theorem of_open (h : Agrees told r₀ r) (hr : r.isTerminal = false) :
    finalWrites told = [] ∧ r₀.isTerminal = false := by
  rcases h.writes with ⟨hnil, heq⟩ | ⟨-, hterminal, -⟩
  · exact ⟨hnil, heq ▸ hr⟩
  · rw [hr] at hterminal
    cases hterminal

/-- The stage of a record that was found is told. -/
theorem of_found (h : Agrees told r₀ r) (i : ι) : Agrees (told ++ [(i, .found r.status)]) r₀ r where
  evolves := h.evolves
  added := by simpa using h.added
  writes := by simpa [finalWrites] using h.writes
  handle_iff := by simpa using h.handle_iff
  found := by
    intro j status hj hstatus
    rcases List.mem_append.1 hj with hj | hj
    · exact h.found j status hj hstatus
    · simp only [List.mem_singleton, Prod.mk.injEq, Account.found.injEq] at hj
      exact hj.2.symm

/-- A terminal stage is told of no record that is open. -/
theorem not_found_terminal (h : Agrees told r₀ r) (hr : r.isTerminal = false) {i : ι}
    {status : Status} (hi : (i, .found status) ∈ told) (hstatus : status.isTerminal = true) :
    False := by
  rw [← h.found i status hi hstatus] at hstatus
  rw [Record.isTerminal, hstatus] at hr
  cases hr

/-- An open record changes and stays open; if it is given a handle, that is told. -/
theorem of_change (h : Agrees told r₀ r) {extra : List (ι × Account)} (hr : r.isTerminal = false)
    (hc : c.isTerminal = false) (hchange : r.Evolves c)
    (hextra : ∀ y ∈ extra, ∃ handle, y.2 = .handed handle)
    (hhandle : ∀ handle, c.handle = some handle ↔
      r.handle = some handle ∨ ∃ i, (i, .handed handle) ∈ extra) :
    Agrees (told ++ extra) r₀ c where
  evolves := h.evolves.trans hchange
  added := by
    intro i record hi
    rcases List.mem_append.1 hi with hi | hi
    · exact h.added i record hi
    · obtain ⟨handle, ha⟩ := hextra _ hi
      cases ha
  writes := by
    obtain ⟨hnil, hr₀⟩ := h.of_open hr
    refine Or.inl ⟨?_, hc.trans hr₀.symm⟩
    rw [finalWrites_append, hnil, List.nil_append, List.eq_nil_iff_forall_not_mem]
    rintro ⟨i, status⟩ hi
    obtain ⟨handle, ha⟩ := hextra _ (mem_finalWrites.1 hi)
    cases ha
  handle_iff := by
    intro handle
    simp only [hhandle, h.handle_iff, List.mem_append, exists_or, or_assoc]
  found := by
    intro i status hi hstatus
    rcases List.mem_append.1 hi with hi | hi
    · exact (h.not_found_terminal hr hi hstatus).elim
    · obtain ⟨handle, ha⟩ := hextra _ hi
      cases ha

/-- An open record ends, and whoever has ended it tells so. -/
theorem of_wrote (h : Agrees told r₀ r) (i : ι) {u : FinalUpdate} (hc : r.finish u = .ok c) :
    Agrees (told ++ [(i, .wrote u.status)]) r₀ c := by
  obtain ⟨hterminal, hedge, rfl⟩ := Record.finish_eq_ok_iff.1 hc
  -- There is an edge to the stage that is written, and no edge leaves a terminal stage.
  have hr : r.isTerminal = false := by
    rw [← Bool.not_eq_true]
    intro ht
    rw [Status.not_canBecome_of_terminal ht] at hedge
    cases hedge
  obtain ⟨hnil, hr₀⟩ := h.of_open hr
  exact
    { evolves := h.evolves.trans (.of_finish hc)
      added := by simpa using h.added
      writes := Or.inr ⟨hr₀, hterminal, i, by rw [finalWrites_append, hnil]; rfl⟩
      handle_iff := by simpa [Record.ended] using h.handle_iff
      found := by
        intro j status hj hstatus
        have hj' : (j, Account.found status) ∈ told := by simpa using hj
        exact (h.not_found_terminal hr hj' hstatus).elim }

end Agrees

/-- Ledger and record agree after a call of any operation if they did before. -/
theorem Ledger.step {start? r? c? : Option Record} {a? : Option Account}
    (h : Ledger start? told r?) (i : ι) (he : Effect a? r? c?) :
    Ledger start? (told ++ (a?.map (i, ·)).toList) c? := by
  -- Each effect names the record that it is had on, so that the ledger is one of a present record,
  -- and an insertion is had on the absence of one.
  cases he with
  | nothing => simpa using h
  | added r =>
      cases h with
      | absent hstart htold =>
          subst hstart htold
          exact .present rfl (.of_first (by simp))
  | found r =>
      cases h with
      | present hfirst hagrees => exact .present (firstRecord?_append hfirst) (hagrees.of_found i)
  | @handed r c handle hc =>
      cases h with
      | present hfirst hagrees =>
          obtain ⟨hopen, hnone, rfl⟩ := Record.assignHandle_eq_ok_iff.1 hc
          refine .present (firstRecord?_append hfirst) ?_
          exact hagrees.of_change hopen hopen (.of_assignHandle hc) (by simp)
            (by simp [hnone, eq_comm])
  | started hc =>
      cases h with
      | present hfirst hagrees =>
          obtain ⟨hpending, -, rfl⟩ := Record.start_eq_ok_iff.1 hc
          refine .present (firstRecord?_append hfirst) ?_
          exact hagrees.of_change (by rw [Record.isTerminal, hpending]; rfl) rfl (.of_start hc)
            (by simp) (by simp)
  | logged hc =>
      cases h with
      | present hfirst hagrees =>
          obtain ⟨hopen, rfl⟩ := Record.appendLog_eq_ok_iff.1 hc
          refine .present (firstRecord?_append hfirst) ?_
          exact hagrees.of_change hopen hopen (.of_appendLog hc) (by simp) (by simp)
  | wrote hc =>
      cases h with
      | present hfirst hagrees =>
          exact .present (firstRecord?_append hfirst) (hagrees.of_wrote i hc)

/-- Before anything is told, a record is as it began. -/
theorem ledger_start (start? : Option Record) : Ledger start? ([] : List (ι × Account)) start? := by
  cases start? with
  | none => exact .absent rfl rfl
  | some r => exact .present rfl (.of_first (by simp))

namespace Ledger

variable {start? r? : Option Record}

/-- At most one write has ended the task. -/
theorem length_finalWrites_le (h : Ledger start? told r?) : (finalWrites told).length ≤ 1 := by
  cases h with
  | absent _ htold => simp [htold]
  | present _ hagrees =>
      rcases hagrees.writes with ⟨hnil, -⟩ | ⟨-, -, i, hone⟩
      · simp [hnil]
      · simp [hone]

/-- One write has ended the task exactly if it began open and has ended. -/
theorem length_finalWrites_eq_one_iff (h : Ledger start? told r?) :
    (finalWrites told).length = 1 ↔
      (∃ r₀, firstRecord? start? told = some r₀ ∧ r₀.isTerminal = false) ∧
        ∃ r, r? = some r ∧ r.isTerminal = true := by
  cases h with
  | absent _ htold => simp [htold]
  | present hfirst hagrees =>
      rcases hagrees.writes with ⟨hnil, heq⟩ | ⟨hopen, hterminal, i, hone⟩
      · simp [hnil, hfirst, heq]
      · simp [hone, hfirst, hopen, hterminal]

/-- Whoever tells of having ended the task has made the one write that did, and the task is at the
stage that was written. -/
theorem of_mem_wrote (h : Ledger start? told r?) {i : ι} {status : Status}
    (hi : (i, .wrote status) ∈ told) :
    finalWrites told = [(i, status)] ∧ ∃ r, r? = some r ∧ r.status = status := by
  have hmem : (i, status) ∈ finalWrites told := mem_finalWrites.2 hi
  cases h with
  | absent _ htold => simp [htold] at hi
  | @present _ r _ hagrees =>
      rcases hagrees.writes with ⟨hnil, -⟩ | ⟨-, -, j, hone⟩
      · simp [hnil] at hmem
      · rw [hone, List.mem_singleton] at hmem
        obtain ⟨rfl, rfl⟩ := Prod.mk.inj hmem
        exact ⟨hone, r, rfl, rfl⟩

/-- A record that was added is there, and it is what its task began with. -/
theorem of_mem_added (h : Ledger start? told r?) {i : ι} {record : Record}
    (hi : (i, .added record) ∈ told) : ∃ r, r? = some r ∧ Agrees told record r := by
  cases h with
  | absent _ htold => simp [htold] at hi
  | @present r₀ r _ hagrees =>
      obtain rfl := hagrees.added _ _ hi
      exact ⟨r, rfl, hagrees⟩

/-- Before the write that has ended a task there was no other. -/
theorem finalWrites_eq_nil {told' : List (ι × Account)} (h : Ledger start? (told ++ told') r?)
    {i : ι} {status : Status} (hi : (i, .wrote status) ∈ told') : finalWrites told = [] := by
  have hle := h.length_finalWrites_le
  have hpos : 0 < (finalWrites told').length := List.length_pos_of_mem (mem_finalWrites.2 hi)
  rw [finalWrites_append, List.length_append] at hle
  exact List.eq_nil_of_length_eq_zero (by omega)

/-- A task that was found at a terminal stage is at that stage. -/
theorem of_mem_found (h : Ledger start? told r?) {i : ι} {status : Status}
    (hi : (i, .found status) ∈ told) (hstatus : status.isTerminal = true) :
    ∃ r, r? = some r ∧ r.status = status := by
  cases h with
  | absent _ htold => simp [htold] at hi
  | @present _ r _ hagrees => exact ⟨r, rfl, hagrees.found i status hi hstatus⟩

end Ledger

variable [DecidableEq ι] {α : ι → Type} {d : (i : ι) → Action (α i)} {b s : Backend}
  {said : Said calls ι}

/-- **The ledger of a run agrees with the record of the task**, whatever operations run side by side
and whatever else happens to the backend. -/
theorem ledger_of_run (h : Run Backend.world d b said s) (id : TaskId) :
    Ledger (b.store.find? id) (accounts id said) (s.store.find? id) := by
  -- One more exchange has one of the six effects; an incident leaves the store alone.
  induction h with
  | start => exact ledger_start _
  | @next said s i q _ _ ih =>
      rw [accounts_snoc]
      exact ih.step i (effect_answer s q id)
  | event e _ ih =>
      change Ledger _ _ ((Backend.happen _ e).store.find? id)
      rwa [Backend.store_happen]

/-- A run to which nothing happens is one to which anything might have happened. -/
theorem run_of_quiet (h : Run Backend.quietWorld d b said s) : Run Backend.world d b said s :=
  h.map (fun e : Empty => e.elim) rfl fun e => e.elim

end Agreement

end Service

end TaskLedger
