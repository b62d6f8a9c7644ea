import TaskLedger.Proofs.Dialogue.Lockstep
import TaskLedger.Proofs.Service.Grounds
import TaskLedger.Proofs.Service.Redaction

/-!
**The operations keep internal texts to themselves.**

An operation reads records with their details, is told why a job has failed or what the broker has to
say, and writes details of its own.  Whatever these texts are, blank or not, it makes the same calls
but for the texts in them, and ends with the same result but for the texts in it.

Main definitions:

* `TaskLedger.Service.Alike` — operations that differ in internal texts only;
* `TaskLedger.Service.User.Alike` — users that differ in the texts that they bring along.

Main results:

* `TaskLedger.Service.alike_examine`, `TaskLedger.Service.alike_submit` and their neighbours — each
  operation is like itself, and like what it would be with other texts;
* `TaskLedger.Service.alike_action` — **users that differ in internal texts only make calls that
  do**.
-/

set_option autoImplicit false

namespace TaskLedger.Service

open Dialogue

/-- Two operations differ in internal texts only, and end with related results. -/
abbrev Alike {α α' : Type} (R : α → α' → Prop) (d : Action α) (d' : Action α') : Prop :=
  Dialogue.Alike Call.Alike R d d'

/-- Two replies with the same contents are both faults, or the same. -/
theorem cases_of_toOption_eq {ε α : Type} {a a' : Except ε α} (h : a.toOption = a'.toOption) :
    (∃ e e', a = .error e ∧ a' = .error e') ∨ ∃ v, a = .ok v ∧ a' = .ok v := by
  rcases a with e | v <;> rcases a' with e' | v'
  · exact Or.inl ⟨e, e', rfl, rfl⟩
  · cases h
  · cases h
  · exact Or.inr ⟨v, rfl, congrArg Except.ok (Option.some.inj h).symm⟩

/-- Two results of looking for a record are the same, or there is a record both times, the same but
for its detail. -/
theorem cases_of_record {ε : Type} {a a' : Except ε (Option Record)}
    (h : a.map (Option.map Record.redacted) = a'.map (Option.map Record.redacted)) :
    (∃ e, a = .error e ∧ a' = .error e) ∨ (a = .ok none ∧ a' = .ok none) ∨
      ∃ r detail, a = .ok (some r) ∧ a' = .ok (some { r with technicalDetail := detail }) := by
  rcases a with e | _ | r <;> rcases a' with e' | _ | r' <;>
    simp only [Except.map, Option.map_none, Option.map_some, Except.error.injEq, Except.ok.injEq,
      Option.some.injEq, reduceCtorEq] at h
  · exact Or.inl ⟨e, rfl, congrArg Except.error h.symm⟩
  · exact Or.inr (Or.inl ⟨rfl, rfl⟩)
  · obtain ⟨detail, rfl⟩ := Record.redacted_eq_iff.1 h
    exact Or.inr (Or.inr ⟨r, detail, rfl, rfl⟩)

section Asking

variable {α α' : Type} {R : α → α' → Prop}

/-- Operations are alike if they are after the same reading of the clock. -/
theorem alike_ask_now {f : Instant → Action α} {f' : Instant → Action α'}
    (h : ∀ t, Alike R (f t) (f' t)) :
    Alike R (.ask (I := calls) .now f) (.ask (I := calls) .now f') := by
  refine .ask (.same .now) fun t t' ht => ?_
  obtain rfl : t = t' := ht
  exact h t

/-- Operations that end a record alike are alike if they are after the same outcome. -/
theorem alike_ask_finish (id : TaskId) {u u' : FinalUpdate} (hu : u.redacted = u'.redacted)
    {f : Except Store.Fault Store.Outcome → Action α}
    {f' : Except Store.Fault Store.Outcome → Action α'} (h : ∀ w, Alike R (f w) (f' w)) :
    Alike R (.ask (I := calls) (.store (.finish id u)) f)
      (.ask (I := calls) (.store (.finish id u')) f') := by
  refine .ask (.finish id hu) fun w w' hw => ?_
  obtain rfl : w = w' := hw
  exact h w

end Asking

section Reconciling

variable {limit : TimeLimit} {id : TaskId}

/-- Failures of the same kind are written alike, whatever the evidence is. -/
theorem alike_writeFailure (source : Option Status) {report report' : FailureReport}
    (hkind : report.kind = report'.kind) :
    Alike Eq (writeFailure id source report) (writeFailure id source report') := by
  simp only [writeFailure, bind_def, bind_now]
  refine alike_ask_now fun t => ?_
  have hupdate : (report.toUpdate t).redacted = (report'.toUpdate t).redacted := by
    simp only [FailureReport.toUpdate, FinalUpdate.redacted, FinalUpdate.failed, FinalUpdate.withLog,
      hkind]
  rw [hkind]
  cases source with
  | none => exact alike_ask_finish id hupdate fun w => .done rfl
  | some stage =>
      refine .ask (.finishFrom id stage hupdate) fun w w' hw => ?_
      obtain rfl : w = w' := hw
      exact .done rfl

/-- Whatever the broker says of a job that has failed, nothing more is asked. -/
theorem alike_evidence (handle : Handle) (remote : RemoteState) :
    Alike (fun _ _ => True) (evidence handle remote) (evidence handle remote) := by
  unfold evidence
  split
  · simp only [bind_def, bind_failureDetail]
    refine .ask (.same _) fun a a' _ => ?_
    rcases a with e | detail <;> rcases a' with e' | detail' <;> exact .done trivial
  · exact .done trivial

theorem alike_judge (status : Status) (handle : Handle) :
    Alike (fun r r' => r.toOption = r'.toOption) (judge id status handle)
      (judge id status handle) := by
  simp only [judge, bind_def, bind_remoteState]
  refine .ask (.same _) fun a a' ha => ?_
  rcases cases_of_toOption_eq ha with ⟨e, e', rfl, rfl⟩ | ⟨remote, rfl, rfl⟩
  · exact .done rfl
  · simp only
    split
    · exact .done rfl
    · refine (alike_evidence handle remote).bind fun detail detail' _ => ?_
      refine Dialogue.Alike.mono (R := Eq) ?_ fun _ _ h => congrArg Except.toOption h
      exact alike_writeFailure _ rfl

theorem alike_judgeReported (status : Status) (detail detail' : String) :
    Alike Eq (judgeReported id status detail) (judgeReported id status detail') := by
  unfold judgeReported
  split
  · exact .done rfl
  · exact alike_writeFailure none rfl

/-- A look at a record comes to the same whatever failure is reported, as long as one is. -/
theorem alike_examine {reported reported' : Option String}
    (hreported : reported.isSome = reported'.isSome) :
    Alike (fun r r' => r.toOption = r'.toOption) (examine limit id reported)
      (examine limit id reported') := by
  simp only [examine, bind_def, bind_get]
  refine .ask (.same _) fun a a' ha => ?_
  rcases cases_of_record ha with ⟨e, rfl, rfl⟩ | ⟨rfl, rfl⟩ | ⟨r, detail, rfl, rfl⟩
  · exact .done rfl
  · exact .done rfl
  -- Nothing that is looked at from here on is the detail of the record.
  have hopen : Record.isTerminal { r with technicalDetail := detail } = r.isTerminal := rfl
  simp only [hopen]
  cases r.isTerminal with
  | true => exact .done rfl
  | false =>
      simp only [Bool.false_eq_true, if_false, bind_now]
      refine alike_ask_now fun t => ?_
      cases FailureReport.ofLimit? limit r.createdAt t with
      | some report => exact (alike_writeFailure none rfl).mono fun _ _ h => congrArg Except.toOption h
      | none =>
          rcases reported with _ | text <;> rcases reported' with _ | text'
          · cases r.handle with
            | none => exact .done rfl
            | some handle => exact alike_judge r.status handle
          · cases hreported
          · cases hreported
          · exact (alike_judgeReported _ text text').mono fun _ _ h => congrArg Except.toOption h

theorem alike_reconcile : Alike (fun r r' => r.toOption = r'.toOption) (reconcile limit id)
    (reconcile limit id) := by
  refine (alike_examine rfl).bind fun r r' hr => ?_
  rcases cases_of_toOption_eq hr with ⟨e, e', rfl, rfl⟩ | ⟨finding, rfl, rfl⟩
  · exact .done rfl
  · cases finding with
    | lostRace current =>
        simp only
        split
        · exact .done rfl
        · exact alike_examine rfl
    | notFound | ended | left | failed => exact .done rfl

theorem alike_lookup : Alike
    (fun a a' => a.map (Option.map Record.redacted) = a'.map (Option.map Record.redacted))
    (lookup limit id) (lookup limit id) := by
  refine alike_reconcile.bind fun _ _ _ => ?_
  refine .ask (.same _) fun a a' ha => ?_
  rcases cases_of_record ha with ⟨e, rfl, rfl⟩ | ⟨rfl, rfl⟩ | ⟨r, detail, rfl, rfl⟩ <;>
    exact .done rfl

/-- A report adds up the findings, and what was no finding. -/
theorem add_eq_of_toOption_eq {r r' : Reconciled} (h : r.toOption = r'.toOption)
    (report : SweepReport) : report.add r = report.add r' := by
  rcases cases_of_toOption_eq h with ⟨e, e', rfl, rfl⟩ | ⟨finding, rfl, rfl⟩ <;> rfl

theorem alike_reconcileAll (ids : List TaskId) (report : SweepReport) :
    Alike Eq (reconcileAll limit ids report) (reconcileAll limit ids report) := by
  induction ids generalizing report with
  | nil => exact .done rfl
  | cons id ids ih =>
      refine alike_reconcile.bind fun r r' hr => ?_
      rw [add_eq_of_toOption_eq hr]
      exact ih _

theorem alike_sweep (maxConcurrent : UInt64) :
    Alike Eq (sweep limit maxConcurrent) (sweep limit maxConcurrent) := by
  rw [sweep_eq]
  refine .ask (.same (.store .listOpen)) fun a a' ha => ?_
  rcases a with e | records <;> rcases a' with e' | records' <;>
    simp only [Call.ReplyAlike, Except.map, Except.error.injEq, Except.ok.injEq,
      reduceCtorEq] at ha
  · subst ha
    exact .done rfl
  · have hids : records.map Record.id = records'.map Record.id := by
      have h := congrArg (List.map Record.id) ha
      rw [List.map_map, List.map_map] at h
      exact h
    simp only [bind_done, hids]
    split
    · exact .done rfl
    · refine (alike_reconcileAll _ _).bind fun report report' hreport => ?_
      exact .done (congrArg Except.ok hreport)

theorem alike_onFailure (args : Json) (failure failure' : JobFailure) :
    Alike (fun _ _ => True) (onFailure limit args failure) (onFailure limit args failure') := by
  unfold onFailure
  split
  · exact .done trivial
  · refine Dialogue.Alike.bind (R := fun r r' => r.toOption = r'.toOption) ?_ fun r r' _ => ?_
    · exact alike_examine rfl
    · rcases r with e | finding <;> rcases r' with e' | finding' <;> exact .done trivial

end Reconciling

/-! ### Submitting and cancelling -/

/-- Two results of submitting are the same, or the broker took the job neither time. -/
inductive SubmittedAlike : Except Fault TaskId → Except Fault TaskId → Prop
  | same (r : Except Fault TaskId) : SubmittedAlike r r
  | dispatch (fault fault' : Broker.Fault) :
      SubmittedAlike (.error (.dispatch fault)) (.error (.dispatch fault'))

theorem alike_settle (id : TaskId) (handle : Handle) :
    Alike SubmittedAlike (settle id handle) (settle id handle) := by
  simp only [settle, bind_def, bind_setHandle]
  refine .ask (.same _) fun w w' hw => ?_
  obtain rfl : w = w' := hw
  rcases w with e | _ | current | _
  · exact .done (.same _)
  · exact .done (.same _)
  · simp only
    split
    · exact .ask (.same _) fun _ _ _ => .done (.same _)
    · exact .done (.same _)
  · exact .done (.same _)

/-- Whatever the broker says when it takes no job, the record ends as failed to start. -/
theorem alike_giveUp (id : TaskId) (fault fault' : Broker.Fault) :
    Alike SubmittedAlike (giveUp id fault) (giveUp id fault') := by
  simp only [giveUp, bind_def, bind_now, bind_finish]
  refine alike_ask_now fun t => ?_
  have hupdate : (undispatched t fault).redacted = (undispatched t fault').redacted := rfl
  refine alike_ask_finish id hupdate fun w => ?_
  rcases w with e | o
  · exact .done (.same _)
  · exact .done (.dispatch fault fault')

theorem alike_submit (taskType : String) (payload : Json) :
    Alike SubmittedAlike (submit taskType payload) (submit taskType payload) := by
  simp only [submit, bind_def, bind_now, bind_freshId]
  refine alike_ask_now fun t => .ask (.same .freshId) fun k k' hk => ?_
  obtain rfl : k = k' := hk
  cases Record.create k taskType payload t with
  | error e => exact .done (.same _)
  | ok record =>
      simp only [bind_insert]
      refine .ask (.same _) fun inserted inserted' h => ?_
      obtain rfl : inserted = inserted' := h
      rcases inserted with e | id
      · exact .done (.same _)
      · simp only [launch, bind_def, bind_dispatch]
        refine .ask (.same _) fun a a' ha => ?_
        rcases cases_of_toOption_eq ha with ⟨e, e', rfl, rfl⟩ | ⟨handle, rfl, rfl⟩
        · exact alike_giveUp id e e'
        · exact alike_settle id handle

theorem alike_revokeIfAny (handle? : Option Handle) :
    Alike Eq (revokeIfAny handle?) (revokeIfAny handle?) := by
  cases handle? with
  | none => exact .done rfl
  | some handle =>
      simp only [revokeIfAny, bind_def, bind_revoke]
      refine .ask (.same _) fun a a' ha => ?_
      rcases cases_of_toOption_eq ha with ⟨e, e', rfl, rfl⟩ | ⟨acknowledged, rfl, rfl⟩ <;>
        exact .done rfl

theorem alike_cancel (id : TaskId) : Alike Eq (cancel id) (cancel id) := by
  simp only [cancel, bind_def, bind_get]
  refine .ask (.same _) fun a a' ha => ?_
  rcases cases_of_record ha with ⟨e, rfl, rfl⟩ | ⟨rfl, rfl⟩ | ⟨r, detail, rfl, rfl⟩
  · exact .done rfl
  · exact .done rfl
  have hopen : Record.isTerminal { r with technicalDetail := detail } = r.isTerminal := rfl
  simp only [hopen]
  split
  · exact .done rfl
  · refine (alike_revokeIfAny r.handle).bind fun acknowledged acknowledged' h => ?_
    obtain rfl : acknowledged = acknowledged' := h
    simp only [bind_now, bind_finish]
    refine alike_ask_now fun t => alike_ask_finish id rfl fun w => ?_
    rcases w with e | _ | current | _ <;> exact .done rfl

theorem alike_tally : Alike Eq tally tally := by
  refine .ask (.same (.store .counts)) fun a a' ha => ?_
  obtain rfl : a = a' := ha
  rcases a with e | c <;> exact .done rfl

/-! ### Users -/

/-- Two users do the same, or report a failure with other texts for operators. -/
inductive User.Alike : User → User → Prop
  | same (u : User) : Alike u u
  | onFailure (args : Json) (failure failure' : JobFailure) :
      Alike (.onFailure args failure) (.onFailure args failure')
  | fail (id : TaskId) (userMessage technicalDetail technicalDetail' : String) :
      Alike (.fail id userMessage technicalDetail) (.fail id userMessage technicalDetail')

/-- What a job reports of its own end, with what is told to operators left open. -/
theorem alike_finishNow (id : TaskId) {update update' : Instant → FinalUpdate}
    (h : ∀ t, (update t).redacted = (update' t).redacted) :
    Alike Eq (now >>= fun t => finish id (update t)) (now >>= fun t => finish id (update' t)) := by
  exact alike_ask_now fun t => alike_ask_finish id (h t) fun w => .done rfl

/-- **Users that differ in internal texts only make calls that do.** -/
theorem alike_action (limit : TimeLimit) {u u' : User} (hu : u.Alike u') :
    Alike (fun _ _ => True) (u.action limit) (u'.action limit) := by
  have hany : ∀ {α α' : Type} {R : α → α' → Prop} {d : Action α} {d' : Action α'},
      Alike R d d' → Alike (fun _ _ => True) d d' := fun hd => hd.mono fun _ _ _ => trivial
  cases hu with
  | onFailure args failure failure' => exact alike_onFailure args failure failure'
  | fail id userMessage technicalDetail technicalDetail' =>
      exact hany (alike_finishNow id fun t => rfl)
  | same =>
      cases u with
      | submit taskType payload => exact hany (alike_submit taskType payload)
      | cancel id => exact hany (alike_cancel id)
      | lookup id => exact hany alike_lookup
      | tally => exact hany alike_tally
      | reconcile id => exact hany alike_reconcile
      | sweep maxConcurrent => exact hany (alike_sweep maxConcurrent)
      | list => exact .ask (.same (.store .listOpen)) fun _ _ _ => .done trivial
      | onFailure args failure => exact alike_onFailure args failure failure
      | start id => exact .ask (.same (.store (.markRunning id))) fun _ _ _ => .done trivial
      | log id message => exact .ask (.same (.store (.appendLog id message))) fun _ _ _ => .done trivial
      | complete id result => exact hany (alike_finishNow id fun t => rfl)
      | fail id userMessage technicalDetail => exact hany (alike_finishNow id fun t => rfl)
      | shouldStop id =>
          refine .ask (.same (.store (.get id))) fun a a' ha => ?_
          rcases cases_of_record ha with ⟨e, rfl, rfl⟩ | ⟨rfl, rfl⟩ | ⟨r, detail, rfl, rfl⟩ <;>
            exact .done trivial

end TaskLedger.Service
