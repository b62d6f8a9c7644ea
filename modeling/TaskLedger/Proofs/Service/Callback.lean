import TaskLedger.Proofs.Service.Apart
import TaskLedger.Proofs.Text.Uuid
import TaskLedger.Service.JobFailure

/-!
**What a reported failure touches.**

The arguments of a job are whatever was handed over with it.  They may say nothing of a task, they may
say something that names no task, or they name one.  Only in the last case does a report of the
failure of the job do anything: it is looked into with the failure as evidence, which concerns the
record of that task, and neither depends on the broker nor tells it anything.

Main definitions:

* `TaskLedger.JobFailure.Told` — the text of a failure;
* `TaskLedger.Service.Offers` — what the arguments of a job offer as the name of its task;
* `TaskLedger.Service.Silent`, `TaskLedger.Service.Misnames`, `TaskLedger.Service.Designates` — the
  three things that arguments may do;
* `TaskLedger.Service.Call.Enters` — the calls of someone who is busy with a record and the clock.

Main results:

* `TaskLedger.Backend.perform_of_enters` — the broker does not matter to anyone who does not ask it;
* `TaskLedger.Service.onFailure_touches_designated` — **a reported failure touches the record of the
  task that the arguments name, and nothing else**.
-/

set_option autoImplicit false

namespace TaskLedger

open Dialogue

/-! ### The text of a failure -/

/-- The text of a failure: type and message, and a traceback on a line of its own if there is one that
is not blank. -/
inductive JobFailure.Told (f : JobFailure) : String → Prop
  | bare : (∀ traceback, f.traceback = some traceback → Text.isBlankText traceback = true) →
      Told f (f.errorType ++ ": " ++ f.message)
  | traced {traceback : String} : f.traceback = some traceback →
      Text.isBlankText traceback = false →
      Told f (f.errorType ++ ": " ++ f.message ++ "\n" ++ traceback)

theorem JobFailure.told_detail (f : JobFailure) : f.Told f.detail := by
  have hdetail : f.detail = f.errorType ++ ": " ++ f.message ++
      ((f.traceback.filter (!Text.isBlankText ·)).elim "" ("\n" ++ ·)) := by
    unfold detail
    cases f.traceback.filter (!Text.isBlankText ·) <;> rfl
  rw [hdetail]
  cases htraceback : f.traceback.filter (!Text.isBlankText ·) with
  | none =>
      rw [Option.elim_none, String.append_empty]
      refine .bare fun traceback h => ?_
      simpa using Option.filter_eq_none_iff.1 htraceback traceback h
  | some traceback =>
      obtain ⟨h, hblank⟩ := Option.filter_eq_some_iff.1 htraceback
      rw [Option.elim_some, ← String.append_assoc]
      exact .traced h (by simpa using hblank)

namespace Service

variable {args v : Json} {id : TaskId}

/-! ### What the arguments offer -/

/-- What the arguments of a job offer as the name of its task: a member of the arguments, or of the
first of them, or else the first of them. -/
inductive Offers : Json → Json → Prop
  | member {members : List (String × Json)} {v : Json} :
      Json.find? "task_id" members = some v → Offers (.object members) v
  | memberOfFirst {members : List (String × Json)} {rest : List Json} {v : Json} :
      Json.find? "task_id" members = some v → Offers (.list (.object members :: rest)) v
  | first {v : Json} {rest : List Json} :
      (∀ members, v ≠ .object members) → Offers (.list (v :: rest)) v

/-- Arguments say nothing of a task: they offer nothing, or null. -/
def Silent (args : Json) : Prop := ∀ v, Offers args v → v = .null

/-- Arguments offer something that names no task. -/
def Misnames (args : Json) : Prop :=
  ∃ v, Offers args v ∧ v ≠ .null ∧ ∀ s id, v = .text s → ¬ TaskId.Names s id

/-- Arguments name a task. -/
def Designates (args : Json) (id : TaskId) : Prop :=
  ∃ s, Offers args (.text s) ∧ TaskId.Names s id

theorem taskArgument?_eq_some_iff : taskArgument? args = some v ↔ Offers args v := by
  constructor
  · intro h
    unfold taskArgument? at h
    split at h
    · exact .member h
    · exact .memberOfFirst h
    · next hfirst =>
        obtain rfl := Option.some.inj h
        exact .first hfirst
    · cases h
  · intro h
    cases h with
    | member h => exact h
    | memberOfFirst h => exact h
    | first h => cases v <;> first | rfl | exact absurd rfl (h _)

theorem taskOf_eq_missing_iff : taskOf args = .error .missingTaskId ↔ Silent args := by
  simp only [Silent, ← taskArgument?_eq_some_iff, taskOf]
  constructor
  · intro h v hv
    cases v with
    | null => rfl
    | text s =>
        simp only [hv] at h
        cases hs : TaskId.parse s <;> simp [hs, Except.mapError] at h
    | bool | int | double | list | object => simp [hv] at h
  · intro h
    cases hargument : taskArgument? args with
    | none => rfl
    | some v => rw [h v hargument]

theorem taskOf_eq_ok_iff : taskOf args = .ok id ↔ Designates args id := by
  simp only [Designates, ← taskArgument?_eq_some_iff, ← TaskId.parse_eq_ok_iff, taskOf]
  constructor
  · intro h
    split at h
    · cases h
    · cases h
    · next s hargument =>
        refine ⟨s, hargument, ?_⟩
        cases hs : TaskId.parse s with
        | error e => rw [hs] at h; cases h
        | ok k => rw [hs] at h; cases h; rfl
    · cases h
  · rintro ⟨s, hargument, hs⟩
    rw [hargument]
    simp [hs, Except.mapError]

theorem misnames_of_taskOf_eq_error {fault : CallbackFault} (h : taskOf args = .error fault)
    (hmissing : fault ≠ .missingTaskId) :
    Misnames args ∧ ((∃ v, fault = .notAText v) ∨ ∃ e, fault = .invalidTaskId e) := by
  simp only [Misnames, ← taskArgument?_eq_some_iff, ← TaskId.parse_eq_ok_iff]
  unfold taskOf at h
  split at h
  · cases h; exact absurd rfl hmissing
  · cases h; exact absurd rfl hmissing
  · next s hargument =>
      cases hs : TaskId.parse s with
      | ok id => rw [hs] at h; cases h
      | error e =>
          rw [hs] at h
          cases h
          refine ⟨⟨.text s, hargument, by simp, ?_⟩, Or.inr ⟨e, rfl⟩⟩
          rintro _ id ⟨⟩
          simp [hs]
  · next v hnull htext hargument =>
      cases h
      refine ⟨⟨v, hargument, hnull, ?_⟩, Or.inl ⟨v, rfl⟩⟩
      rintro s - hv
      exact absurd hv (htext s)

/-- Arguments offer one thing at most. -/
theorem Offers.unique {w : Json} (hv : Offers args v) (hw : Offers args w) : v = w :=
  Option.some.inj ((taskArgument?_eq_some_iff.2 hv).symm.trans (taskArgument?_eq_some_iff.2 hw))

theorem taskOf_invalid_iff :
    ((∃ v, taskOf args = .error (.notAText v)) ∨ ∃ e, taskOf args = .error (.invalidTaskId e)) ↔
      Misnames args := by
  constructor
  · rintro (⟨v, h⟩ | ⟨e, h⟩) <;> exact (misnames_of_taskOf_eq_error h (by simp)).1
  · rintro ⟨v, hoffers, hnull, hnames⟩
    cases htask : taskOf args with
    | ok id =>
        obtain ⟨s, hs, hid⟩ := taskOf_eq_ok_iff.1 htask
        exact absurd hid (hnames s id (hoffers.unique hs))
    | error fault =>
        have hmissing : fault ≠ .missingTaskId := by
          rintro rfl
          exact hnull (taskOf_eq_missing_iff.1 htask v hoffers)
        rcases (misnames_of_taskOf_eq_error htask hmissing).2 with ⟨w, rfl⟩ | ⟨e, rfl⟩
        · exact Or.inl ⟨w, rfl⟩
        · exact Or.inr ⟨e, rfl⟩

/-- Arguments say nothing of a task, misname one, or name one. -/
theorem silent_or_misnames_or_designates (args : Json) :
    Silent args ∨ Misnames args ∨ ∃ id, Designates args id := by
  cases htask : taskOf args with
  | ok id => exact Or.inr (Or.inr ⟨id, taskOf_eq_ok_iff.1 htask⟩)
  | error fault =>
      by_cases hmissing : fault = .missingTaskId
      · exact Or.inl (taskOf_eq_missing_iff.1 (hmissing ▸ htask))
      · exact Or.inr (Or.inl (misnames_of_taskOf_eq_error htask hmissing).1)

/-! ### One record and the clock -/

/-- The calls of someone who is busy with the record of a task and with the clock. -/
inductive Call.Enters (id : TaskId) : Call → Prop
  | store {q : Store.Query} : q.Regards id → Enters id (.store q)
  | now : Enters id .now

theorem asksOnly_writeFailure (id : TaskId) (source : Option Status) (report : FailureReport) :
    (writeFailure id source report).AsksOnly (Call.Enters id) := by
  cases source with
  | none => exact .ask .now fun _ => .ask (.store (.write (.finish _ _))) fun _ => .done _
  | some stage =>
      exact .ask .now fun _ => .ask (.store (.write (.finishFrom _ _ _))) fun _ => .done _

/-- Whoever has the failure in hand asks the broker nothing. -/
theorem asksOnly_reconcileWithFailure (limit : TimeLimit) (id : TaskId) (text : String) :
    (reconcileWithFailure limit id text).AsksOnly (Call.Enters id) := by
  simp only [reconcileWithFailure, examine, bind_def, bind_get]
  refine .ask (.store .get) fun reply => ?_
  rcases reply with fault | _ | record
  · exact .done _
  · exact .done _
  · simp only
    split
    · exact .done _
    · simp only [bind_now]
      refine .ask .now fun asked => ?_
      split
      · exact asksOnly_writeFailure id none _
      · simp only [judgeReported]
        split
        · exact .done _
        · exact asksOnly_writeFailure id none _
      · next hnone _ => cases hnone
      · next hnone _ => cases hnone

end Service

/-! ### The broker left aside -/

namespace Backend

variable {α : Type} {id : TaskId} {action : Service.Action α}

/-- **The broker does not matter to anyone who does not ask it**: with another one, the result is the
same, and so is all that is left but the broker. -/
theorem perform_of_enters (h : action.AsksOnly (Service.Call.Enters id)) (b : Backend)
    (broker : Broker.Memory) :
    ({ b with broker } : Backend).perform action =
      ((b.perform action).1, { (b.perform action).2 with broker }) := by
  unfold perform
  induction action generalizing b with
  | done r => rfl
  | ask q next ih =>
      obtain ⟨hq, hnext⟩ := h.of_ask
      cases hq with
      | @store q => exact ih _ (hnext _) (b.answer (.store q)).2
      | now => exact ih _ (hnext _) b

theorem broker_perform_of_enters (h : action.AsksOnly (Service.Call.Enters id)) (b : Backend) :
    (b.perform action).2.broker = b.broker :=
  congrArg (·.2.broker) (perform_of_enters h b b.broker)

/-- The records of other tasks stay as they are. -/
theorem find?_perform_of_enters (h : action.AsksOnly (Service.Call.Enters id)) (b : Backend)
    {k : TaskId} (hk : k ≠ id) : (b.perform action).2.store.find? k = b.store.find? k := by
  unfold perform
  induction action generalizing b with
  | done r => rfl
  | ask q next ih =>
      obtain ⟨hq, hnext⟩ := h.of_ask
      rw [run_ask, ih _ (hnext _)]
      cases hq with
      | store hq => exact Store.Memory.find?_of_regards hq hk b.store
      | now => rfl

end Backend

/-! ### The report -/

namespace Service

variable {limit : TimeLimit} {args : Json} {failure : JobFailure} {id : TaskId}

theorem onFailure_of_error {fault : CallbackFault} (h : taskOf args = .error fault) :
    onFailure limit args failure = return .error fault := by
  rw [onFailure, h]

/-- A report that names a task is the reconciliation of the task with the failure. -/
theorem onFailure_of_ok (h : taskOf args = .ok id) :
    onFailure limit args failure =
      Except.mapError .reconcile <$> reconcileWithFailure limit id failure.detail := by
  rw [onFailure, h, map_eq_pure_bind]
  refine congrArg (reconcileWithFailure limit id failure.detail >>= ·) (funext fun result => ?_)
  cases result <;> rfl

theorem asksOnly_onFailure (limit : TimeLimit) (failure : JobFailure) (h : taskOf args = .ok id) :
    (onFailure limit args failure).AsksOnly (Call.Enters id) := by
  rw [onFailure_of_ok h, map_eq_pure_bind]
  exact (asksOnly_reconcileWithFailure limit id _).bind fun _ => .done _

/-- The result is about the arguments exactly if they name no task. -/
theorem onFailure_fst_eq_error_iff (b : Backend) {fault : CallbackFault}
    (hfault : ∀ f, fault ≠ .reconcile f) :
    (b.perform (onFailure limit args failure)).1 = .error fault ↔ taskOf args = .error fault := by
  constructor
  · intro h
    cases htask : taskOf args with
    | error other =>
        rw [onFailure_of_error htask] at h
        exact congrArg Except.error (Except.error.inj h)
    | ok id =>
        rw [onFailure_of_ok htask, map_eq_pure_bind, bind_def, Backend.perform, run_bind] at h
        generalize ((reconcileWithFailure limit id failure.detail).run Backend.answer b).1 = r at h
        cases r with
        | error f => exact absurd (Except.error.inj h).symm (hfault f)
        | ok finding => cases h
  · intro h
    rw [onFailure_of_error h]
    rfl

/-- **A reported failure touches the record of the task that the arguments name, and nothing else.**

That the task is missing is reported exactly if the arguments say nothing of a task, that it is invalid
exactly if they misname one, and then everything stays as it is.  If they name a task, the report is
the reconciliation of that task with the text of the failure; it asks for nothing but the record and
the time, so that no other record changes, the broker stays as it is, and with any other broker the
result and all that is left but the broker are the same.  The written form of an identifier names its
task wherever it is offered. -/
theorem onFailure_touches_designated (limit : TimeLimit) (args : Json) (failure : JobFailure) :
    (∀ b : Backend, (b.perform (onFailure limit args failure)).1 = .error .missingTaskId ↔
      Silent args) ∧
    (∀ b : Backend, ((∃ v, (b.perform (onFailure limit args failure)).1 = .error (.notAText v)) ∨
      ∃ e, (b.perform (onFailure limit args failure)).1 = .error (.invalidTaskId e)) ↔
        Misnames args) ∧
    (Silent args ∨ Misnames args ∨ ∃ id, Designates args id) ∧
    (Silent args ∨ Misnames args →
      (∃ fault, onFailure limit args failure = return .error fault) ∧
      ∀ b : Backend, (b.perform (onFailure limit args failure)).2 = b) ∧
    (∀ id, Designates args id →
      (∃ text, failure.Told text ∧ onFailure limit args failure =
        Except.mapError .reconcile <$> reconcileWithFailure limit id text) ∧
      (onFailure limit args failure).AsksOnly (Call.Enters id) ∧
      ∀ b : Backend,
        (∀ k, k ≠ id →
          (b.perform (onFailure limit args failure)).2.store.find? k = b.store.find? k) ∧
        (b.perform (onFailure limit args failure)).2.broker = b.broker ∧
        ∀ broker : Broker.Memory,
          ({ b with broker } : Backend).perform (onFailure limit args failure) =
            ((b.perform (onFailure limit args failure)).1,
              { (b.perform (onFailure limit args failure)).2 with broker })) ∧
    ∀ (id : TaskId) (members : List (String × Json)) (rest : List Json),
      Designates (.list (.text id.toText :: rest)) id ∧
      (Json.find? "task_id" members = some (.text id.toText) →
        Designates (.object members) id ∧ Designates (.list (.object members :: rest)) id) := by
  refine ⟨fun b => ?_, fun b => ?_, silent_or_misnames_or_designates args, fun hnone => ?_,
    fun id hid => ?_, fun id members rest => ?_⟩
  · rw [onFailure_fst_eq_error_iff b (by simp), taskOf_eq_missing_iff]
  · rw [← taskOf_invalid_iff]
    exact or_congr (exists_congr fun v => onFailure_fst_eq_error_iff b (by simp))
      (exists_congr fun e => onFailure_fst_eq_error_iff b (by simp))
  · have hfault : ∃ fault, taskOf args = .error fault := by
      rcases hnone with hsilent | hmisnames
      · exact ⟨_, taskOf_eq_missing_iff.2 hsilent⟩
      · rcases taskOf_invalid_iff.2 hmisnames with ⟨v, h⟩ | ⟨e, h⟩
        exacts [⟨_, h⟩, ⟨_, h⟩]
    obtain ⟨fault, hfault⟩ := hfault
    rw [onFailure_of_error hfault]
    exact ⟨⟨fault, rfl⟩, fun b => rfl⟩
  · have htask := taskOf_eq_ok_iff.2 hid
    have hasks := asksOnly_onFailure limit failure htask
    exact ⟨⟨_, failure.told_detail, onFailure_of_ok htask⟩, hasks, fun b =>
      ⟨fun k hk => Backend.find?_perform_of_enters hasks b hk,
        Backend.broker_perform_of_enters hasks b, Backend.perform_of_enters hasks b⟩⟩
  · have hnames : TaskId.Names id.toText id := TaskId.parse_eq_ok_iff.1 id.parse_toText
    exact ⟨⟨_, .first (by simp), hnames⟩, fun h =>
      ⟨⟨_, .member h, hnames⟩, ⟨_, .memberOfFirst h, hnames⟩⟩⟩

end Service

end TaskLedger
