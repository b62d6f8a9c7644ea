import TaskLedger.Proofs.Service.Course
import TaskLedger.Service.Lookup
import TaskLedger.Service.Progress

/-!
**The operations, and what they tell of a task.**

An operation learns what becomes of a task by exchanges with the store, and tells of it by its
result: that it ended the task itself, or that it found it at a stage.  It never tells anything that
no exchange told it.

Main definitions:

* `TaskLedger.Service.Operation` — the operations of the service, and single calls;
* `TaskLedger.Service.Account` — what is told of a task, by an exchange
  (`TaskLedger.Service.Call.tells`) or by a result (`TaskLedger.Service.Operation.account`).

Main results:

* `TaskLedger.Service.Operation.told` — **a result tells nothing but what an exchange has told**.
-/

set_option autoImplicit false

namespace TaskLedger.Service

/-- The operations of the service, and single calls of whoever makes them: a job that begins to run
or adds a line to its log, or some other user of the store and the broker. -/
inductive Operation where
  | submit (taskType : String) (payload : Json)
  | cancel (id : TaskId)
  | lookup (limit : TimeLimit) (id : TaskId)
  | reconcile (limit : TimeLimit) (id : TaskId)
  | reconcileWithFailure (limit : TimeLimit) (id : TaskId) (detail : String)
  | complete (id : TaskId) (result : Json)
  | fail (id : TaskId) (userMessage technicalDetail : String)
  | call (c : Call)

/-- What an operation results in. -/
abbrev Operation.Result : Operation → Type
  | .submit _ _ => Except Fault TaskId
  | .cancel _ => Except Fault Cancellation
  | .lookup _ _ => Except Fault (Option Record)
  | .reconcile _ _ | .reconcileWithFailure _ _ _ => Reconciled
  | .complete _ _ | .fail _ _ _ => Except Store.Fault Store.Outcome
  | .call c => c.Reply

/-- The calls of an operation. -/
def Operation.action : (o : Operation) → Action o.Result
  | .submit taskType payload => Service.submit taskType payload
  | .cancel id => Service.cancel id
  | .lookup limit id => Service.lookup limit id
  | .reconcile limit id => Service.reconcile limit id
  | .reconcileWithFailure limit id detail => Service.reconcileWithFailure limit id detail
  | .complete id result => Progress.complete id result
  | .fail id userMessage technicalDetail => Progress.fail id userMessage technicalDetail
  | .call c => .request (I := calls) c

/-! ### What is told of a task -/

/-- What is told of a task: that whoever tells it has added its record, given it its handle or ended
it at a stage, or has found it at a stage. -/
inductive Account where
  | added (record : Record)
  | handed (handle : Handle)
  | wrote (status : Status)
  | found (status : Status)
  deriving DecidableEq

namespace Account

/-- What the outcome of a conditional write tells, given what there is to tell if it is done. -/
def ofOutcome (deed : Option Account) : Except Store.Fault Store.Outcome → Option Account
  | .ok .applied => deed
  | .ok (.rejected current) => some (found current)
  | .ok .notFound | .error _ => none

/-- What is told by the insertion of a record. -/
def ofInsertion (record : Record) : Except Store.Fault TaskId → Option Account
  | .ok _ => some (added record)
  | .error _ => none

/-- What is told by a record that was looked up. -/
def ofLookup {ε : Type} : Except ε (Option Record) → Option Account
  | .ok (some record) => some (found record.status)
  | .ok none | .error _ => none

/-- What the result of reconciling tells. -/
def ofReconciled : Reconciled → Option Account
  | .ok (.failed _) => some (wrote .failed)
  | .ok (.ended status) | .ok (.lostRace status) => some (found status)
  | .ok .notFound | .ok (.left _) | .error _ => none

/-- What the result of cancelling tells. -/
def ofCancelled : Except Fault Cancellation → Option Account
  | .ok (.cancelled _) => some (wrote .cancelled)
  | .ok (.ended status) => some (found status)
  | .error _ => none

end Account

/-- What the reply to a call tells of a task. -/
def Call.tells (id : TaskId) : (call : Call) → call.Reply → Option Account
  | .store (.insert record), reply =>
      if record.id = id then Account.ofInsertion record reply else none
  | .store (.get k), reply => if k = id then Account.ofLookup reply else none
  | .store (.setHandle k handle), reply =>
      if k = id then Account.ofOutcome (some (.handed handle)) reply else none
  | .store (.markRunning k), reply | .store (.appendLog k _), reply =>
      if k = id then Account.ofOutcome none reply else none
  | .store (.finish k u), reply | .store (.finishFrom k _ u), reply =>
      if k = id then Account.ofOutcome (some (.wrote u.status)) reply else none
  | .store .listOpen, _ | .store .counts, _ => none
  | .broker _, _ | .now, _ | .freshId, _ => none

/-- What the result of an operation tells of a task. -/
def Operation.account (id : TaskId) : (o : Operation) → o.Result → Option Account
  | .submit _ _, _ => none
  | .cancel k, result => if k = id then Account.ofCancelled result else none
  | .lookup _ k, result => if k = id then Account.ofLookup result else none
  | .reconcile _ k, result | .reconcileWithFailure _ k _, result =>
      if k = id then Account.ofReconciled result else none
  | .complete k _, result =>
      if k = id then Account.ofOutcome (some (.wrote .completed)) result else none
  | .fail k _ _, result =>
      if k = id then Account.ofOutcome (some (.wrote .failed)) result else none
  | .call c, result => c.tells id result

/-! ### Results tell what exchanges told -/

/-- What is told of a task was told by an exchange of a history. -/
def Told (id : TaskId) (h : List (Exchange calls)) (account? : Option Account) : Prop :=
  ∀ a, account? = some a → ∃ x ∈ h, Call.tells id x.question x.answer = some a

namespace Told

variable {id : TaskId} {h h' : List (Exchange calls)} {account? : Option Account}

theorem none : Told id h none := by
  intro a ha
  cases ha

theorem mono (ht : Told id h account?) (hsub : h ⊆ h') : Told id h' account? := by
  intro a ha
  obtain ⟨x, hx, hxa⟩ := ht a ha
  exact ⟨x, hsub hx, hxa⟩

theorem of_mem (c : Call) (reply : c.Reply) (hx : (⟨c, reply⟩ : Exchange calls) ∈ h)
    (htells : c.tells id reply = account?) : Told id h account? :=
  fun _ ha => ⟨_, hx, htells.trans ha⟩

/-- What is told of one task only is told, if what there is to tell of that task is. -/
theorem guarded {k : TaskId} (ht : k = id → Told id h account?) :
    Told id h (if k = id then account? else Option.none) := by
  by_cases hk : k = id
  · rw [if_pos hk]
    exact ht hk
  · rw [if_neg hk]
    exact .none

end Told

open Dialogue

variable {id : TaskId} {h : List (Exchange calls)}

/-- The outcome of the write is what is told. -/
theorem told_writeFailure {source : Option Status} {report : FailureReport} {r : Reconciled}
    (hends : (writeFailure id source report).Ends h r) : Told id h (Account.ofReconciled r) := by
  have hwrite : ∀ w : Except Store.Fault Store.Outcome,
      Account.ofOutcome (some (.wrote .failed)) w =
        Account.ofReconciled (Finding.ofWrite report.kind w) := by
    rintro (_ | _ | _ | _) <;> rfl
  cases source with
  | none =>
      simp only [writeFailure, finishGuarded, bind_def, bind_now, bind_finish, ends_ask,
        ends_pure] at hends
      obtain ⟨t, _, rfl, w, _, rfl, rfl, rfl⟩ := hends
      refine .of_mem _ _ (List.mem_cons_of_mem _ List.mem_cons_self) ?_
      simpa [Call.tells] using hwrite w
  | some stage =>
      simp only [writeFailure, finishGuarded, bind_def, bind_now, bind_finishFrom, ends_ask,
        ends_pure] at hends
      obtain ⟨t, _, rfl, w, _, rfl, rfl, rfl⟩ := hends
      refine .of_mem _ _ (List.mem_cons_of_mem _ List.mem_cons_self) ?_
      simpa [Call.tells] using hwrite w

/-- A judgement tells nothing but what its write has told. -/
theorem told_judge {status : Status} {handle : Handle} {r : Reconciled}
    (hends : (judge id status handle).Ends h r) : Told id h (Account.ofReconciled r) := by
  simp only [judge, bind_def, bind_remoteState, ends_ask] at hends
  obtain ⟨remote, h', rfl, hends⟩ := hends
  rcases remote with fault | remote
  · obtain ⟨rfl, rfl⟩ := ends_pure.1 hends
    exact .none
  · simp only at hends
    split at hends
    · obtain ⟨rfl, rfl⟩ := ends_pure.1 hends
      exact .none
    · obtain ⟨detail, h₁, h₂, rfl, -, hends⟩ := ends_bind.1 hends
      refine (told_writeFailure hends).mono fun x hx => ?_
      exact List.mem_cons_of_mem _ (List.mem_append_right _ hx)

theorem told_judgeReported {status : Status} {detail : String} {r : Reconciled}
    (hends : (judgeReported id status detail).Ends h r) :
    Told id h (Account.ofReconciled r) := by
  unfold judgeReported at hends
  split at hends
  · obtain ⟨rfl, rfl⟩ := ends_pure.1 hends
    exact .none
  · exact told_writeFailure hends

/-- A look at a record tells its stage if it has ended, or else what the judgement tells. -/
theorem told_examine {limit : TimeLimit} {reported : Option String} {r : Reconciled}
    (hends : (examine limit id reported).Ends h r) : Told id h (Account.ofReconciled r) := by
  simp only [examine, bind_def, bind_get, ends_ask] at hends
  obtain ⟨reply, h', rfl, hends⟩ := hends
  rcases reply with fault | _ | record
  · obtain ⟨rfl, rfl⟩ := ends_pure.1 hends
    exact .none
  · obtain ⟨rfl, rfl⟩ := ends_pure.1 hends
    exact .none
  · simp only at hends
    split at hends
    · obtain ⟨rfl, rfl⟩ := ends_pure.1 hends
      exact .of_mem _ _ List.mem_cons_self
        (by simp [Call.tells, Account.ofLookup, Account.ofReconciled])
    · simp only [bind_now, ends_ask] at hends
      obtain ⟨asked, h'', rfl, hends⟩ := hends
      have hsub : h'' ⊆ ⟨.store (.get id), .ok (some record)⟩ :: ⟨.now, asked⟩ :: h'' :=
        fun x hx => List.mem_cons_of_mem _ (List.mem_cons_of_mem _ hx)
      split at hends
      · exact (told_writeFailure hends).mono hsub
      · exact (told_judgeReported hends).mono hsub
      · obtain ⟨rfl, rfl⟩ := ends_pure.1 hends
        exact .none
      · exact (told_judge hends).mono hsub

/-- The second look, if there is one, is what is told of. -/
theorem told_reconcile {limit : TimeLimit} {r : Reconciled}
    (hends : (reconcile limit id).Ends h r) : Told id h (Account.ofReconciled r) := by
  simp only [reconcile, bind_def] at hends
  obtain ⟨first, h₁, h₂, rfl, hfirst, hends⟩ := ends_bind.1 hends
  have hleft : Told id (h₁ ++ h₂) (Account.ofReconciled first) :=
    (told_examine hfirst).mono (List.subset_append_left h₁ h₂)
  split at hends
  · split at hends
    · obtain ⟨rfl, rfl⟩ := ends_pure.1 hends
      exact hleft
    · exact (told_examine hends).mono (List.subset_append_right h₁ h₂)
  · obtain ⟨rfl, rfl⟩ := ends_pure.1 hends
    exact hleft

/-- A cancellation tells what it has read if that was not an open record, or else what its write has
told. -/
theorem told_cancel {r : Except Fault Cancellation} (hends : (cancel id).Ends h r) :
    Told id h (Account.ofCancelled r) := by
  rcases ends_cancel hends with
    ⟨reply, rfl, -, rfl⟩ | ⟨record, acknowledged, front, endedAt, w, -, -, rfl, rfl⟩
  · refine .of_mem _ _ List.mem_cons_self ?_
    rcases reply with fault | _ | record <;>
      simp [Call.tells, Account.ofLookup, Account.ofCancelled, Cancellation.ofRecord]
  · refine .of_mem (.store (.finish id (cancellation endedAt))) w (by simp) ?_
    rcases w with fault | _ | current | _ <;>
      simp [Call.tells, Account.ofOutcome, Account.ofCancelled, Cancellation.ofWrite]
    rfl

theorem told_lookup {limit : TimeLimit} {r : Except Fault (Option Record)}
    (hends : (lookup limit id).Ends h r) : Told id h (Account.ofLookup r) := by
  simp only [lookup, bind_def] at hends
  obtain ⟨-, h₁, h₂, rfl, -, hends⟩ := ends_bind.1 hends
  simp only [bind_get, ends_ask] at hends
  obtain ⟨reply, h₃, rfl, hw⟩ := hends
  refine .of_mem (.store (.get id)) reply
    (List.mem_append_right _ List.mem_cons_self) ?_
  rcases reply with fault | _ | record
  · obtain ⟨rfl, rfl⟩ := ends_pure.1 hw
    simp [Call.tells, Account.ofLookup]
  · obtain ⟨rfl, rfl⟩ := ends_pure.1 hw
    simp [Call.tells, Account.ofLookup]
  · obtain ⟨rfl, rfl⟩ := ends_pure.1 hw
    simp [Call.tells, Account.ofLookup]

/-- The report of a job on its own task tells what its write has told. -/
theorem told_finishNow (update : Instant → FinalUpdate) {entered : Status}
    (hentered : ∀ t, (update t).status = entered) {r : Except Store.Fault Store.Outcome}
    (hends : (now >>= fun t => finish id (update t)).Ends h r) :
    Told id h (Account.ofOutcome (some (.wrote entered)) r) := by
  simp only [bind_def, bind_now, ends_ask] at hends
  obtain ⟨t, h', rfl, hwrite⟩ := hends
  obtain rfl := ends_request.1 hwrite
  refine .of_mem _ _ (List.mem_cons_of_mem _ List.mem_cons_self) ?_
  simp [Call.tells, hentered]

/-- **A result tells nothing but what an exchange has told.** -/
theorem Operation.told (o : Operation) {r : o.Result} (hends : o.action.Ends h r) :
    Told id h (o.account id r) := by
  cases o with
  | submit taskType payload => exact .none
  | cancel k =>
      refine .guarded ?_
      rintro rfl
      exact told_cancel hends
  | lookup limit k =>
      refine .guarded ?_
      rintro rfl
      exact told_lookup hends
  | reconcile limit k =>
      refine .guarded ?_
      rintro rfl
      exact told_reconcile hends
  | reconcileWithFailure limit k detail =>
      refine .guarded ?_
      rintro rfl
      exact told_examine hends
  | complete k result =>
      refine .guarded ?_
      rintro rfl
      exact told_finishNow (fun t => (FinalUpdate.completed t result).withLog "Task completed")
        (fun _ => rfl) hends
  | fail k userMessage technicalDetail =>
      refine .guarded ?_
      rintro rfl
      exact told_finishNow
        (fun t => (FinalUpdate.failed t userMessage technicalDetail).withLog "Task failed")
        (fun _ => rfl) hends
  | call c =>
      obtain rfl := ends_request.1 hends
      exact .of_mem _ _ List.mem_cons_self rfl

end TaskLedger.Service
