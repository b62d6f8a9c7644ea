import TaskLedger.Proofs.Service.Course
import TaskLedger.Proofs.Service.FinalWrite

/-!
**Who stops the job of a task that is cancelled while it is being submitted.**

A cancellation has the job stopped whose handle it finds in the record, and a submission has its job
stopped if the task has ended before the handle could be recorded.  Between the two there is a gap.
A cancellation that has read the record before the handle was recorded, and that ends it afterwards,
has found no handle, and the submission was not refused: the task is cancelled, and nobody stops its
job.  In every other order one of them does.

Main definitions:

* `TaskLedger.Service.Party`, `TaskLedger.Service.duet` — a submission and a cancellation of its
  task;
* `TaskLedger.Service.Overtaken` — the handle was recorded in the gap;
* `TaskLedger.Service.Met` — what the two have exchanged when both are done.

Main results:

* `TaskLedger.Service.revoked_iff_not_overtaken` — **the job of the cancelled task is asked to stop
  exactly if its handle was not recorded between the reading and the writing of the cancellation**;
* `TaskLedger.Service.overtaken_job_runs_on` — an order in which nobody stops the job.
-/

set_option autoImplicit false

namespace TaskLedger.Service

/-- The two operations that meet. -/
inductive Party where
  | submitter
  | canceller
  deriving DecidableEq, Repr

/-- A submission, and a cancellation of a task. -/
abbrev duet (taskType : String) (payload : Json) (id : TaskId) : Party → Operation
  | .submitter => .submit taskType payload
  | .canceller => .cancel id

/-- The handle was recorded between the reading and the writing of the cancellation. -/
def Overtaken (id : TaskId) (handle : Handle) (said : Said calls Party) : Prop :=
  ∃ u, List.Sublist
    [(.canceller, .store (.get id)), (.submitter, .store (.setHandle id handle)),
      (.canceller, .store (.finish id u))] (asked said)

section Meeting

variable {taskType : String} {payload : Json} {id : TaskId} {b : Backend} {handle : Handle}
  {said before later : Said calls Party} {s : Backend}
  {reply : Except Store.Fault Store.Outcome}

/-- A cancellation records no handle. -/
theorem not_setHandle_canceller {k : TaskId}
    (hrun : RunOf Backend.world (duet taskType payload id) b said s) :
    (.canceller, ⟨.store (.setHandle k handle), reply⟩) ∉ said := by
  intro hx
  obtain ⟨before, later, rfl⟩ := List.append_of_mem hx
  obtain ⟨s₁, -, hasks, -⟩ := hrun.moment
  rcases asks_cancel hasks with ⟨-, hq⟩ | ⟨record, -, ⟨handle, -, hq, -⟩ | ⟨_, _, -, hq⟩⟩
  · cases hq
  · cases hq
  · rcases hq with ⟨hq, -⟩ | ⟨endedAt, hq, -⟩ <;> cases hq

/-- When the submission comes to record the handle of its job, the record of the task is one that it
has added itself. -/
theorem firstRecord?_of_asks
    (hrun : RunOf Backend.world (duet taskType payload id) b said s)
    (hasks : (submit taskType payload).Asks (historyOf .submitter said)
      (.store (.setHandle id handle))) :
    ∃ createdAt, firstRecord? (b.store.find? id) (accounts id said) =
      some (.fresh id taskType payload createdAt) := by
  obtain ⟨k, createdAt, hhistory⟩ := asks_setHandle_submit hasks
  have hinsert : (.submitter,
      ⟨.store (.insert (.fresh k taskType payload createdAt)), .ok id⟩) ∈ said :=
    mem_historyOf.1 (by simp [hhistory, dispatched])
  have hid : id = k := by
    obtain ⟨before, later, rfl⟩ := List.append_of_mem hinsert
    obtain ⟨s₁, -, -, hanswer⟩ := hrun.moment
    exact Store.Memory.insert_eq_ok hanswer.symm
  subst hid
  -- The ledger tells of the insertion, and of no other record.
  have hadded : (.submitter, .added (.fresh id taskType payload createdAt)) ∈ accounts id said :=
    mem_accounts.2 ⟨_, hinsert, by simp [Call.tells, Record.fresh, Account.ofInsertion]⟩
  have hledger := ledger_of_run hrun id
  generalize s.store.find? id = r? at hledger
  cases hledger with
  | absent _ htold => simp [htold] at hadded
  | present hfirst hagrees =>
      refine ⟨createdAt, ?_⟩
      rw [hfirst, hagrees.added _ _ hadded]

/-- Until the submission records the handle of its job, there is none in the record. -/
theorem handle_eq_none {early : Said calls Party} {s₁ : Backend} {r : Record}
    (hrun : RunOf Backend.world (duet taskType payload id) b said s)
    (hasks : (submit taskType payload).Asks (historyOf .submitter said)
      (.store (.setHandle id handle)))
    (hpart : early <+: said)
    (hearly : RunOf Backend.world (duet taskType payload id) b early s₁)
    (hr : s₁.store.find? id = some r) : r.handle = none := by
  obtain ⟨rest, rfl⟩ := hpart
  obtain ⟨createdAt, hfirst⟩ := firstRecord?_of_asks hrun hasks
  obtain ⟨k, t, hhistory⟩ := asks_setHandle_submit hasks
  have hledger := ledger_of_run hearly id
  rw [hr] at hledger
  cases hledger with
  | @present r₀ _ hfirst' hagrees =>
      have hr₀ : r₀ = .fresh id taskType payload createdAt := by
        rw [accounts_append, firstRecord?_append hfirst'] at hfirst
        exact Option.some.inj hfirst
      rw [Option.eq_none_iff_forall_ne_some]
      intro other hother
      rcases (hagrees.handle_iff other).1 hother with hfresh | ⟨i, hi⟩
      · rw [hr₀] at hfresh
        cases hfresh
      · -- Nobody but the submission records handles, and it has not done so yet.
        obtain ⟨x, hx, htells⟩ := mem_accounts.1 hi
        rw [tells_eq_handed_iff.1 htells] at hx
        have hmem := List.mem_append_left rest hx
        cases i with
        | canceller => exact not_setHandle_canceller hrun hmem
        | submitter => simpa [hhistory, dispatched] using mem_historyOf.2 hmem

/-- If nobody has ended the task when its handle is to be recorded, the handle is recorded. -/
theorem recorded_of_open
    (hrun : RunOf Backend.world (duet taskType payload id) b
      (before ++ (.submitter, ⟨.store (.setHandle id handle), reply⟩) :: later) s)
    (hwrites : finalWrites (accounts id before) = []) : reply = .ok .applied := by
  obtain ⟨s₁, hbefore, hasks, hanswer⟩ := hrun.moment
  have hreply : reply = .ok (s₁.store.modify id (·.assignHandle handle)).1 := hanswer
  obtain ⟨createdAt, hfirst⟩ := firstRecord?_of_asks hbefore hasks
  have hledger := ledger_of_run hbefore id
  cases hr : s₁.store.find? id with
  | none =>
      rw [hr] at hledger
      cases hledger with
      | absent hstart htold => simp [hstart, htold, firstRecord?] at hfirst
  | some r =>
      have hnone : r.handle = none :=
        handle_eq_none hbefore hasks List.prefix_rfl hbefore hr
      rw [hr] at hledger
      cases hledger with
      | present hfirst' hagrees =>
          obtain rfl := Option.some.inj (hfirst'.symm.trans hfirst)
          have hopen : r.isTerminal = false := by
            rcases hagrees.writes with ⟨-, heq⟩ | ⟨-, -, i, hone⟩
            · exact heq
            · simp [hwrites] at hone
          have hassign : r.assignHandle handle = .ok { r with handle := some handle } :=
            Record.assignHandle_eq_ok_iff.2 ⟨hopen, hnone, rfl⟩
          rw [hreply, Store.Memory.modify, hr]
          simp only [hassign]

/-- If someone has ended the task when its handle is to be recorded, that is refused. -/
theorem refused_of_ended {i : Party} {status : Status}
    (hrun : RunOf Backend.world (duet taskType payload id) b
      (before ++ (.submitter, ⟨.store (.setHandle id handle), reply⟩) :: later) s)
    (hwrote : (i, .wrote status) ∈ accounts id before) :
    reply = .ok (.rejected status) ∧ status.isTerminal = true := by
  obtain ⟨s₁, hbefore, hasks, hanswer⟩ := hrun.moment
  have hreply : reply = .ok (s₁.store.modify id (·.assignHandle handle)).1 := hanswer
  have hledger := ledger_of_run hbefore id
  obtain ⟨hone, r, hr, rfl⟩ := hledger.of_mem_wrote hwrote
  -- Where one write has ended a task, its record is at a terminal stage.
  obtain ⟨-, r', hr', hterminal⟩ := hledger.length_finalWrites_eq_one_iff.1 (by simp [hone])
  obtain rfl := Option.some.inj (hr.symm.trans hr')
  rw [hreply, Store.Memory.modify, hr]
  simp only [Record.assignHandle, hterminal, if_true, true_and]
  exact hterminal

/-- What the two have exchanged by the time at which the one has had its job dispatched and the
other has cancelled the task: the cancellation found a record, and the submission learned what
became of the handle. -/
structure Met (id : TaskId) (handle : Handle) (said : Said calls Party) (found : Record)
    (recorded : Except Store.Fault Store.Outcome) : Prop where
  get_iff : ∀ a, (.canceller, ⟨.store (.get id), a⟩) ∈ said ↔ a = .ok (some found)
  setHandle_iff : ∀ a, (.submitter, ⟨.store (.setHandle id handle), a⟩) ∈ said ↔ a = recorded
  finish : ∃ u, (.canceller, ⟨.store (.finish id u), .ok .applied⟩) ∈ said
  applied : ∀ u w, (.canceller, ⟨.store (.finish id u), w⟩) ∈ said →
    w = .ok .applied ∧ u.status = .cancelled
  canceller_iff : (.canceller, .broker (.revoke handle)) ∈ asked said ↔ found.handle = some handle
  submitter_iff : (.submitter, .broker (.revoke handle)) ∈ asked said ↔
    ∃ current, recorded = .ok (.rejected current) ∧ current.isTerminal = true

variable {result : Except Fault TaskId} {acknowledged : Bool}

theorem met_of_ends
    (hsubmitted : (submit taskType payload).Ends (historyOf .submitter said) result)
    (hcancelled : (cancel id).Ends (historyOf .canceller said) (.ok (.cancelled acknowledged)))
    (hdispatch : (.submitter, ⟨.broker (.dispatch id taskType payload), .ok handle⟩) ∈ said) :
    ∃ found recorded, Met id handle said found recorded := by
  obtain ⟨k, t, reply, tail, hsubmitter, htail⟩ :=
    ends_submit hsubmitted (mem_historyOf.2 hdispatch)
  obtain ⟨record, front, endedAt, hfront, hcanceller⟩ := ends_cancel_cancelled hcancelled
  refine ⟨record, reply, ?_, ?_, ?_, ?_, ?_, ?_⟩
  · intro a
    rw [← mem_historyOf, hcanceller]
    rcases ends_revokeIfAny.1 hfront with ⟨-, rfl, -⟩ | ⟨_, _, -, rfl, -⟩ <;> simp
  · intro a
    rw [← mem_historyOf, hsubmitter]
    rcases htail with ⟨_, _, -, -, rfl⟩ | ⟨-, rfl⟩ <;> simp [dispatched]
  · refine ⟨cancellation endedAt, ?_⟩
    rw [← mem_historyOf, hcanceller]
    simp
  · intro u w hw
    exact applied_of_ends_cancelled hcancelled (mem_historyOf.2 hw)
  · refine mem_asked.trans ?_
    simp only [← mem_historyOf, hcanceller]
    rcases ends_revokeIfAny.1 hfront with ⟨hnone, rfl, -⟩ | ⟨other, answer, hsome, rfl, -⟩
    · simp [hnone]
    · simp only [hsome, Option.some.injEq]
      constructor
      · rintro ⟨a, ha⟩
        have heq : handle = other ∧ HEq a answer := by simpa using ha
        exact heq.1.symm
      · rintro rfl
        exact ⟨answer, by simp⟩
  · refine mem_asked.trans ?_
    simp only [← mem_historyOf, hsubmitter]
    rcases htail with ⟨current, answer, rfl, hterminal, rfl⟩ | ⟨hopen, rfl⟩
    · simp [dispatched, hterminal]
    · constructor
      · rintro ⟨answer, ha⟩
        simp [dispatched] at ha
      · rintro ⟨current, hreply, hterminal⟩
        rw [hopen current hreply] at hterminal
        cases hterminal

/-- The task was not ended before the cancellation did so. -/
theorem finalWrites_eq_nil_of_finish {found : Record}
    (hrun : RunOf Backend.world (duet taskType payload id) b (before ++ later) s)
    (hmet : Met id handle (before ++ later) found reply) {u : FinalUpdate}
    (hfinish : (.canceller, .store (.finish id u)) ∈ asked later) :
    finalWrites (accounts id before) = [] := by
  obtain ⟨w, hw⟩ := mem_asked.1 hfinish
  obtain ⟨rfl, -⟩ := hmet.applied u w (List.mem_append_right _ hw)
  have hledger := ledger_of_run hrun id
  rw [accounts_append] at hledger
  have hwrote : (.canceller, .wrote u.status) ∈ accounts id later :=
    mem_accounts.2 ⟨_, hw, tells_eq_wrote_iff.2 ⟨u, rfl, Or.inl rfl⟩⟩
  exact hledger.finalWrites_eq_nil hwrote

/-- If the handle was recorded between the reading and the writing of the cancellation, nobody has
asked the job to stop. -/
theorem not_revoked_of_overtaken {found : Record} {recorded : Except Store.Fault Store.Outcome}
    (hrun : RunOf Backend.world (duet taskType payload id) b said s)
    (hmet : Met id handle said found recorded) (hovertaken : Overtaken id handle said) (i : Party) :
    (i, .broker (.revoke handle)) ∉ asked said := by
  obtain ⟨u, hovertaken⟩ := hovertaken
  obtain ⟨before, reply, later, rfl, hget, hfinish⟩ := sublist_asked_iff.1 hovertaken
  obtain ⟨s₁, hbefore, hasks, -⟩ := hrun.moment
  cases i with
  | canceller =>
      -- It has read the record before the handle was there.
      obtain ⟨a, ha⟩ := mem_asked.1 hget
      obtain rfl := (hmet.get_iff a).1 (List.mem_append_left _ ha)
      obtain ⟨early, rest, rfl⟩ := List.append_of_mem ha
      obtain ⟨s₀, hearly, -, hanswer⟩ := hbefore.moment
      have hfound : s₀.store.find? id = some found :=
        (Except.ok.inj hanswer).symm
      have hnone := handle_eq_none hbefore hasks (List.prefix_append _ _) hearly hfound
      rw [hmet.canceller_iff, hnone]
      exact fun h => nomatch h
  | submitter =>
      -- It has not been refused, as the task was open when the handle was recorded.
      have hrecorded : reply = recorded :=
        (hmet.setHandle_iff reply).1 (List.mem_append_right _ List.mem_cons_self)
      have happlied : reply = .ok .applied := by
        have hlater := List.mem_cons_of_mem (.submitter, .store (.setHandle id handle)) hfinish
        exact recorded_of_open hrun (finalWrites_eq_nil_of_finish hrun hmet hlater)
      rw [hmet.submitter_iff, ← hrecorded, happlied]
      rintro ⟨current, hcurrent, -⟩
      cases hcurrent

/-- In every other order one of the two has asked the job to stop. -/
theorem revoked_of_not_overtaken {found : Record} {recorded : Except Store.Fault Store.Outcome}
    (hrun : RunOf Backend.world (duet taskType payload id) b said s)
    (hmet : Met id handle said found recorded) (hnot : ¬ Overtaken id handle said) :
    ∃ i, (i, .broker (.revoke handle)) ∈ asked said := by
  obtain ⟨u, hfinish⟩ := hmet.finish
  have hget := (hmet.get_iff _).2 rfl
  obtain ⟨before, later, rfl⟩ := List.append_of_mem ((hmet.setHandle_iff recorded).2 rfl)
  simp only [List.mem_append, List.mem_cons, Prod.mk.injEq, reduceCtorEq, false_and,
    false_or] at hfinish hget
  rcases hfinish with hfinish | hfinish
  · -- The task had been cancelled, so that the handle was refused.
    refine ⟨.submitter, hmet.submitter_iff.2 ⟨.cancelled, ?_⟩⟩
    have hwrote : (.canceller, .wrote u.status) ∈ accounts id before :=
      mem_accounts.2 ⟨_, hfinish, tells_eq_wrote_iff.2 ⟨u, rfl, Or.inl rfl⟩⟩
    rw [(hmet.applied u _ (List.mem_append_left _ hfinish)).2] at hwrote
    exact refused_of_ended hrun hwrote
  · rcases hget with hget | hget
    · refine absurd ⟨u, sublist_asked_iff.2 ⟨before, recorded, later, rfl, ?_, ?_⟩⟩ hnot
      · exact mem_asked.2 ⟨_, hget⟩
      · exact mem_asked.2 ⟨_, hfinish⟩
    · -- The handle had been recorded, so that the cancellation found it.
      refine ⟨.canceller, hmet.canceller_iff.2 ?_⟩
      have hlater : (.canceller, .store (.finish id u)) ∈
          asked (I := calls) ((.submitter, ⟨.store (.setHandle id handle), recorded⟩) :: later) :=
        mem_asked.2 ⟨_, List.mem_cons_of_mem _ hfinish⟩
      have happlied : recorded = .ok .applied :=
        recorded_of_open hrun (finalWrites_eq_nil_of_finish hrun hmet hlater)
      obtain ⟨early, rest, rfl⟩ := List.append_of_mem hget
      rw [← List.cons_append, ← List.append_assoc] at hrun
      obtain ⟨s₂, hearly, -, hanswer⟩ := hrun.moment
      have hfound : s₂.store.find? id = some found :=
        (Except.ok.inj hanswer).symm
      have hledger := ledger_of_run hearly id
      rw [hfound] at hledger
      cases hledger with
      | present _ hagrees =>
          refine (hagrees.handle_iff handle).2 (Or.inr ⟨.submitter, mem_accounts.2 ?_⟩)
          refine ⟨⟨.store (.setHandle id handle), recorded⟩, by simp, ?_⟩
          rw [happlied]
          exact tells_eq_handed_iff.2 rfl

/-- **The job of the cancelled task is asked to stop exactly if its handle was not recorded between
the reading and the writing of the cancellation.** -/
theorem revoked_iff_not_overtaken {moves : List (Move Party Incident)}
    (hsubmit : ((sideBySide (duet taskType payload id) b moves).result? .submitter).isSome = true)
    (hcancel : (sideBySide (duet taskType payload id) b moves).result? .canceller =
      some (.ok (.cancelled acknowledged)))
    (hdispatch : (.submitter, ⟨.broker (.dispatch id taskType payload), .ok handle⟩) ∈
      (sideBySide (duet taskType payload id) b moves).said) :
    (∃ r, (sideBySide (duet taskType payload id) b moves).state.store.find? id = some r ∧
        r.status = .cancelled) ∧
      ((∃ i, (i, .broker (.revoke handle)) ∈
          asked (sideBySide (duet taskType payload id) b moves).said) ↔
        ¬ Overtaken id handle (sideBySide (duet taskType payload id) b moves).said) := by
  obtain ⟨result, hresult⟩ := Option.isSome_iff_exists.1 hsubmit
  have hrun := Scene.run_play Backend.world (fun i => (duet taskType payload id i).action) b moves
  obtain ⟨found, recorded, hmet⟩ := met_of_ends (Scene.ends_of_result? hresult)
    (Scene.ends_of_result? hcancel) hdispatch
  refine ⟨?_, ?_, revoked_of_not_overtaken hrun hmet⟩
  · obtain ⟨u, hfinish⟩ := hmet.finish
    have hwrote := mem_accounts.2 ⟨_, hfinish, tells_eq_wrote_iff.2 ⟨u, rfl, Or.inl rfl⟩⟩
    rw [(hmet.applied u _ hfinish).2] at hwrote
    exact ((ledger_of_run hrun id).of_mem_wrote hwrote).2
  · rintro ⟨i, hi⟩ hovertaken
    exact not_revoked_of_overtaken hrun hmet hovertaken i hi

end Meeting

/-! ### Two orders -/

/-- The order in which the cancellation begins when the submission is over. -/
def orderly : List (Move Party Incident) :=
  (List.replicate 5 Party.submitter ++ List.replicate 4 Party.canceller).map .next

theorem revoked_iff_not_overtaken_orderly :
    ((sideBySide (duet "report" .null ⟨⟨1⟩⟩) .vacant orderly).result? .submitter).isSome = true ∧
      (sideBySide (duet "report" .null ⟨⟨1⟩⟩) .vacant orderly).result? .canceller =
        some (.ok (.cancelled true)) ∧
      (.submitter, ⟨.broker (.dispatch ⟨⟨1⟩⟩ "report" .null), .ok ⟨"job"⟩⟩) ∈
        (sideBySide (duet "report" .null ⟨⟨1⟩⟩) .vacant orderly).said ∧
      ((∃ i, (i, .broker (.revoke ⟨"job"⟩)) ∈
          asked (sideBySide (duet "report" .null ⟨⟨1⟩⟩) .vacant orderly).said) ↔
        ¬ Overtaken ⟨⟨1⟩⟩ ⟨"job"⟩
          (sideBySide (duet "report" .null ⟨⟨1⟩⟩) .vacant orderly).said) := by
  have hdispatch : (.submitter, ⟨.broker (.dispatch ⟨⟨1⟩⟩ "report" .null), .ok ⟨"job"⟩⟩) ∈
      (sideBySide (duet "report" .null ⟨⟨1⟩⟩) .vacant orderly).said :=
    List.mem_iff_getElem?.2 ⟨3, rfl⟩
  exact ⟨rfl, rfl, hdispatch, (revoked_iff_not_overtaken rfl rfl hdispatch).2⟩

/-- The order in which the cancellation reads the record just before the handle is recorded. -/
def overtaking : List (Move Party Incident) :=
  (List.replicate 4 Party.submitter ++
    [Party.canceller, Party.submitter, Party.canceller, Party.canceller]).map .next

/-- **An order in which nobody stops the job**: both operations succeed and the task is cancelled,
and its job has never been asked to stop. -/
theorem overtaken_job_runs_on :
    (sideBySide (duet "report" .null ⟨⟨1⟩⟩) .vacant overtaking).result? .submitter =
        some (.ok ⟨⟨1⟩⟩) ∧
      (sideBySide (duet "report" .null ⟨⟨1⟩⟩) .vacant overtaking).result? .canceller =
        some (.ok (.cancelled false)) ∧
      (.submitter, ⟨.broker (.dispatch ⟨⟨1⟩⟩ "report" .null), .ok ⟨"job"⟩⟩) ∈
        (sideBySide (duet "report" .null ⟨⟨1⟩⟩) .vacant overtaking).said ∧
      ¬ ∃ i, (i, .broker (.revoke ⟨"job"⟩)) ∈
        asked (sideBySide (duet "report" .null ⟨⟨1⟩⟩) .vacant overtaking).said := by
  have hasked : asked (sideBySide (duet "report" .null ⟨⟨1⟩⟩) .vacant overtaking).said =
      [(.submitter, .now), (.submitter, .freshId),
        (.submitter, .store (.insert (.fresh ⟨⟨1⟩⟩ "report" .null .epoch))),
        (.submitter, .broker (.dispatch ⟨⟨1⟩⟩ "report" .null)),
        (.canceller, .store (.get ⟨⟨1⟩⟩)),
        (.submitter, .store (.setHandle ⟨⟨1⟩⟩ ⟨"job"⟩)),
        (.canceller, .now),
        (.canceller, .store (.finish ⟨⟨1⟩⟩ (cancellation .epoch)))] := rfl
  refine ⟨rfl, rfl, List.mem_iff_getElem?.2 ⟨3, rfl⟩, ?_⟩
  rw [hasked]
  simp

end TaskLedger.Service
