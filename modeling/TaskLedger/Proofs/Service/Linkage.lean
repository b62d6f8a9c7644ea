import Mathlib.Data.List.Nodup
import TaskLedger.Proofs.Service.Submission
import TaskLedger.Proofs.Service.Surroundings

/-!
**Records and jobs stay linked.**

A record and its job know of each other by an identifier and a handle, and nobody keeps the two in
step: jobs are forgotten, records end before their handle is recorded, and submissions overtake each
other.  Still a job belongs to one record, it is the only one that was ever dispatched for it, and the
record names no other handle than the one that this dispatch returned.

The links are read off the histories of the submissions.  Each call of a submission has all its
earlier calls before it, so that what stands in the store and in the broker leads back to the beginning
of one history; and two histories with the same identifier belong to the same submission.  What is
assumed of the generators of identifiers and handles is that they gave nothing out twice in the run.

Main definitions:

* `TaskLedger.Service.ordersIn` — the jobs that were dispatched;
* `TaskLedger.Service.Unrepeated` — no identifier and no handle was given out twice;
* `TaskLedger.Service.Linked` — how records and jobs are linked.

Main results:

* `TaskLedger.Service.orders_subset` — whatever the broker retains was dispatched;
* `TaskLedger.Service.exists_dispatched`, `TaskLedger.Service.exists_recorded` — what was dispatched,
  and what is recorded, leads back to the history of a submission;
* `TaskLedger.Service.linked` — **records and jobs are linked at every moment**.
-/

set_option autoImplicit false

namespace TaskLedger.Service

open Dialogue

/-! ### The jobs that were dispatched -/

section Orders

variable {ι : Type} {said later : Said calls ι} {o : Broker.Order}

/-- The jobs that were dispatched, each with its order. -/
def ordersIn (said : Said calls ι) : List Broker.Order :=
  said.filterMap fun
    | (_, ⟨.broker (.dispatch id taskType payload), .ok handle⟩) =>
        some ⟨handle, id, taskType, payload⟩
    | _ => none

theorem ordersIn_append : ordersIn (said ++ later) = ordersIn said ++ ordersIn later := by
  simp [ordersIn]

/-- The exchange in which a job is dispatched. -/
abbrev dispatchOf (o : Broker.Order) : Exchange calls :=
  ⟨.broker (.dispatch o.taskId o.taskType o.payload), .ok o.handle⟩

theorem mem_ordersIn : o ∈ ordersIn said ↔ ∃ i, (i, dispatchOf o) ∈ said := by
  simp only [ordersIn, List.mem_filterMap]
  constructor
  · rintro ⟨⟨i, q, a⟩, hx, ho⟩
    split at ho
    · next heq =>
        obtain rfl := Option.some.inj ho
        rw [heq] at hx
        exact ⟨_, hx⟩
    · cases ho
  · rintro ⟨i, hx⟩
    exact ⟨(i, dispatchOf o), hx, rfl⟩

/-- No identifier of a task and no handle of a job was given out twice. -/
structure Unrepeated (said : Said calls ι) : Prop where
  ids : ((givenOut said).map Prod.snd).Nodup
  handles : ((ordersIn said).map Broker.Order.handle).Nodup

end Orders

/-! ### The beginning of a history -/

section Beginnings

variable {id id' k k' : TaskId} {taskType taskType' : String} {payload payload' : Json}
  {createdAt createdAt' : Instant} {handle handle' : Handle} {h : List (Exchange calls)}

theorem recorded_prefix_dispatched :
    recorded id k taskType payload createdAt <+:
      dispatched id k taskType payload createdAt handle :=
  ⟨[⟨.broker (.dispatch id taskType payload), .ok handle⟩], rfl⟩

/-- A history tells what record was written. -/
theorem recorded_inj (hh : recorded id k taskType payload createdAt <+: h)
    (hh' : recorded id' k' taskType' payload' createdAt' <+: h) :
    id = id' ∧ taskType = taskType' ∧ payload = payload' ∧ createdAt = createdAt' := by
  obtain ⟨later, rfl⟩ := hh
  obtain ⟨later', heq⟩ := hh'
  simp only [recorded, List.cons_append, List.cons.injEq, Exchange.mk.injEq, heq_eq_eq, true_and,
    Call.store.injEq, Store.Query.insert.injEq, Record.fresh, Record.mk.injEq, List.nil_append,
    and_true] at heq
  obtain ⟨rfl, rfl, ⟨⟨-, rfl, rfl, -⟩, hid⟩, -⟩ := heq
  exact ⟨(Except.ok.inj hid).symm, rfl, rfl, rfl⟩

/-- A history tells under which handle the job was dispatched. -/
theorem dispatched_inj (hh : dispatched id k taskType payload createdAt handle <+: h)
    (hh' : dispatched id' k' taskType' payload' createdAt' handle' <+: h) : handle = handle' := by
  obtain ⟨rfl, rfl, rfl, -⟩ :=
    recorded_inj (recorded_prefix_dispatched.trans hh) (recorded_prefix_dispatched.trans hh')
  obtain ⟨later, rfl⟩ := hh
  obtain ⟨later', heq⟩ := hh'
  simp only [dispatched, List.cons_append, List.cons.injEq, Exchange.mk.injEq, heq_eq_eq, true_and,
    List.nil_append, Except.ok.injEq] at heq
  exact heq.2.2.2.1.symm

end Beginnings

/-! ### Where records and jobs come from -/

section Origins

variable {ι : Type} [DecidableEq ι] {limit : TimeLimit} {users : ι → User} {b s : Backend}
  {said : Said calls ι} {i j : ι}

/-- **Whatever the broker retains was dispatched.** -/
theorem orders_subset (hrun : RunInUse limit users b said s) (hnone : b.broker.orders = []) :
    s.broker.orders ⊆ ordersIn said := by
  induction hrun with
  | start => simp [hnone]
  | @next said s i q _ _ ih =>
      have hearlier : s.broker.orders ⊆
          ordersIn (said ++ [(i, (⟨q, (s.answer q).1⟩ : Exchange calls))]) := by
        rw [ordersIn_append]
        exact List.subset_append_of_subset_left _ ih
      cases q with
      | store | now | freshId => exact hearlier
      | broker query =>
          intro o ho
          rcases Broker.Memory.mem_orders_answer ho with hkept | hnew
          · exact hearlier hkept
          · refine mem_ordersIn.2 ⟨i, List.mem_append_right _ (List.mem_singleton.2 ?_)⟩
            have hx := congrArg (fun x : Exchange Broker.interface =>
              (⟨.broker x.question, x.answer⟩ : Exchange calls)) hnew
            exact congrArg (Prod.mk i) hx.symm
  | @event said s e _ ih =>
      cases e with
      | clock now => exact ih
      | notice n => exact List.Subset.trans (s.broker.orders_heed s.clock n) ih

/-- A call that only submissions make was made at its place in the history of one. -/
theorem submitted_of_mem {x : Exchange calls} (hrun : RunInUse limit users b said s)
    (hx : (i, x) ∈ said) (hsubmits : x.question.submits = true) :
    ∃ taskType payload h, users i = .submit taskType payload ∧
      SubmitAsks taskType payload h x.question ∧ h ++ [x] <+: historyOf i said := by
  obtain ⟨before, later, rfl⟩ := List.append_of_mem hx
  obtain ⟨_, -, hasks, -⟩ := hrun.moment
  obtain ⟨taskType, payload, hi, hplace⟩ := User.asks_of_submits hasks hsubmits
  refine ⟨taskType, payload, historyOf i before, hi, hplace, historyOf i later, ?_⟩
  rw [historyOf_append, historyOf_cons_self, List.append_assoc, List.singleton_append]

/-- A record was written under its own identifier. -/
theorem eq_id_of_inserted {record : Record} {k : TaskId} (hrun : RunInUse limit users b said s)
    (hx : (i, ⟨.store (.insert record), .ok k⟩) ∈ said) : k = record.id := by
  obtain ⟨before, later, rfl⟩ := List.append_of_mem hx
  obtain ⟨s₁, -, -, hanswer⟩ := hrun.moment
  exact Store.Memory.insert_eq_ok hanswer.symm

/-- A submission has written its record under the identifier that it was given. -/
theorem eq_of_recorded {id k : TaskId} {taskType : String} {payload : Json} {createdAt : Instant}
    (hrun : RunInUse limit users b said s)
    (hh : recorded id k taskType payload createdAt <+: historyOf i said) : id = k := by
  have hx : (i, ⟨.store (.insert (.fresh k taskType payload createdAt)), .ok id⟩) ∈ said :=
    mem_historyOf.1 (hh.subset (by simp [recorded]))
  exact eq_id_of_inserted hrun hx

/-- A submission owns the identifier of its record. -/
theorem owner_of_recorded {id : TaskId} {taskType taskType' : String} {payload payload' : Json}
    {createdAt createdAt' : Instant} (hunrepeated : Unrepeated said)
    (hi : recorded id id taskType payload createdAt <+: historyOf i said)
    (hj : recorded id id taskType' payload' createdAt' <+: historyOf j said) : i = j := by
  have hgiven : ∀ {l taskType payload createdAt},
      recorded id id taskType payload createdAt <+: historyOf l said → (l, id) ∈ givenOut said :=
    fun hl => mem_givenOut.2 (mem_historyOf.1 (hl.subset (by simp [recorded])))
  exact (Prod.mk.inj (List.inj_on_of_nodup_map hunrepeated.ids (hgiven hi) (hgiven hj) rfl)).1

/-- **A job that was dispatched leads back to a submission**, which has written a record and has had
the job dispatched for it. -/
theorem exists_dispatched {o : Broker.Order} (hrun : RunInUse limit users b said s)
    (ho : o ∈ ordersIn said) :
    ∃ i createdAt, dispatched o.taskId o.taskId o.taskType o.payload createdAt o.handle <+:
      historyOf i said := by
  obtain ⟨i, hx⟩ := mem_ordersIn.1 ho
  obtain ⟨taskType, payload, h, -, hplace, hprefix⟩ := submitted_of_mem hrun hx rfl
  cases hplace with
  | @dispatch createdAt _ k =>
      obtain rfl := eq_of_recorded hrun ((List.prefix_append _ _).trans hprefix)
      exact ⟨i, createdAt, hprefix⟩

/-- **A record leads back to a submission** that has written it. -/
theorem exists_recorded {id : TaskId} {r : Record} (hrun : RunInUse limit users b said s)
    (hnone : b.store.find? id = none) (hr : s.store.find? id = some r) :
    ∃ i r₀, recorded id id r.taskType r.payload r.createdAt <+: historyOf i said ∧
      r₀.handle = none ∧ Agrees (accounts id said) r₀ r := by
  have hledger := ledger_of_run hrun.run id
  rw [hnone, hr] at hledger
  cases hledger with
  | present hfirst hagrees =>
      obtain ⟨i, hadded⟩ := mem_of_firstRecord? hfirst
      obtain ⟨x, hx, htells⟩ := mem_accounts.1 hadded
      obtain ⟨hid, inserted, rfl⟩ := tells_eq_added_iff.1 htells
      obtain rfl := eq_id_of_inserted hrun hx
      obtain ⟨taskType, payload, h, -, hplace, hprefix⟩ := submitted_of_mem hrun hx rfl
      cases hplace with
      | @insert createdAt k =>
          obtain rfl : k = id := hid
          refine ⟨i, _, ?_, rfl, hagrees⟩
          rw [hagrees.evolves.taskType_eq, hagrees.evolves.payload_eq, hagrees.evolves.createdAt_eq]
          exact hprefix

/-- **A handle leads back to the submission of its record**, for which a job was dispatched under that
handle. -/
theorem exists_dispatched_of_handle {id : TaskId} {r : Record} {handle : Handle}
    (hrun : RunInUse limit users b said s) (hunrepeated : Unrepeated said)
    (hnone : b.store.find? id = none) (hr : s.store.find? id = some r)
    (hhandle : r.handle = some handle) :
    ∃ i, dispatched id id r.taskType r.payload r.createdAt handle <+: historyOf i said := by
  obtain ⟨i, r₀, hrecorded, hbare, hagrees⟩ := exists_recorded hrun hnone hr
  rcases (hagrees.handle_iff handle).1 hhandle with hfirst | ⟨j, hhanded⟩
  · rw [hbare] at hfirst
    cases hfirst
  obtain ⟨x, hx, htells⟩ := mem_accounts.1 hhanded
  obtain rfl := tells_eq_handed_iff.1 htells
  obtain ⟨taskType, payload, h, -, hplace, hprefix⟩ := submitted_of_mem hrun hx rfl
  cases hplace with
  | @setHandle createdAt _ k =>
      have hdispatched := (List.prefix_append _ _).trans hprefix
      obtain rfl := eq_of_recorded hrun (recorded_prefix_dispatched.trans hdispatched)
      -- Who has recorded the handle has written the record, so that it is the same submission.
      obtain rfl := owner_of_recorded hunrepeated hrecorded
        (recorded_prefix_dispatched.trans hdispatched)
      obtain ⟨-, rfl, rfl, rfl⟩ :=
        recorded_inj hrecorded (recorded_prefix_dispatched.trans hdispatched)
      exact ⟨i, hdispatched⟩

/-- For no task two jobs were dispatched. -/
theorem eq_of_taskId_eq {o o' : Broker.Order} (hrun : RunInUse limit users b said s)
    (hunrepeated : Unrepeated said) (ho : o ∈ ordersIn said) (ho' : o' ∈ ordersIn said)
    (hid : o'.taskId = o.taskId) : o' = o := by
  obtain ⟨i, createdAt, hi⟩ := exists_dispatched hrun ho
  obtain ⟨j, createdAt', hj⟩ := exists_dispatched hrun ho'
  rw [hid] at hj
  obtain rfl := owner_of_recorded hunrepeated (recorded_prefix_dispatched.trans hi)
    (recorded_prefix_dispatched.trans hj)
  obtain ⟨-, htype, hpayload, -⟩ := recorded_inj (recorded_prefix_dispatched.trans hi)
    (recorded_prefix_dispatched.trans hj)
  have hhandle := dispatched_inj hi hj
  obtain ⟨_, _, _, _⟩ := o
  obtain ⟨_, _, _, _⟩ := o'
  simp only at hid htype hpayload hhandle
  simp only [hid, htype, hpayload, hhandle]

/-- The orders for a task are the one order for it. -/
theorem filter_ordersIn {o : Broker.Order} (hrun : RunInUse limit users b said s)
    (hunrepeated : Unrepeated said) (ho : o ∈ ordersIn said) :
    (ordersIn said).filter (·.taskId = o.taskId) = [o] := by
  have hsame : (ordersIn said).filter (·.taskId = o.taskId) = (ordersIn said).filter (· = o) := by
    refine List.filter_congr fun o' ho' => decide_eq_decide.2 ⟨?_, congrArg Broker.Order.taskId⟩
    exact eq_of_taskId_eq hrun hunrepeated ho ho'
  rw [hsame, List.filter_eq, List.count_eq_one_of_mem hunrepeated.handles.of_map ho]
  rfl

end Origins

/-! ### The links -/

section Main

variable {ι : Type} [DecidableEq ι]

/-- How the records of a backend and its jobs are linked, given all that was said: no two records
have the same handle; a record has the handle that the submission which wrote it was answered, when it
had its job dispatched; and a job belongs to a record, of which it has type and payload, it is the only
one that was dispatched for it, and it has the handle of the record, if that has one. -/
structure Linked (said : Said calls ι) (b : Backend) : Prop where
  handle_inj : ∀ r ∈ b.store.records, ∀ r' ∈ b.store.records, ∀ handle,
    r.handle = some handle → r'.handle = some handle → r = r'
  own : ∀ r ∈ b.store.records, ∀ handle, r.handle = some handle →
    ∃ i, dispatched r.id r.id r.taskType r.payload r.createdAt handle <+: historyOf i said
  record : ∀ job ∈ b.broker.jobs, ∃ r, b.store.find? job.taskId = some r ∧
    job.taskType = r.taskType ∧ job.payload = r.payload ∧
    ∀ handle, r.handle = some handle → handle = job.handle
  sole : ∀ job ∈ b.broker.jobs,
    (ordersIn said).filter (·.taskId = job.taskId) = [job.order]

/-- **Records and jobs are linked at every moment**, whatever users do side by side, if no identifier
and no handle was given out twice. -/
theorem linked (limit : TimeLimit) (users : ι → User) (retention : Span) (clock : Instant)
    (supply : Supply) (moves : List (Move ι Happening))
    (hunrepeated : Unrepeated (inUse limit users (.empty retention clock supply) moves).said) :
    let c := inUse limit users (.empty retention clock supply) moves
    Linked c.said c.state := by
  intro c
  have hrun : RunInUse limit users (.empty retention clock supply) c.said c.state :=
    run_inUse limit users _ moves
  have hfind : ∀ r ∈ c.state.store.records, c.state.store.find? r.id = some r :=
    fun r hr => Store.Memory.find?_eq_some_iff.2 ⟨hr, rfl⟩
  have hown : ∀ r ∈ c.state.store.records, ∀ handle, r.handle = some handle →
      ∃ i, dispatched r.id r.id r.taskType r.payload r.createdAt handle <+: historyOf i c.said :=
    fun r hr handle hhandle => exists_dispatched_of_handle hrun hunrepeated rfl (hfind r hr) hhandle
  have horder : ∀ r ∈ c.state.store.records, ∀ handle, r.handle = some handle →
      ⟨handle, r.id, r.taskType, r.payload⟩ ∈ ordersIn c.said := by
    intro r hr handle hhandle
    obtain ⟨i, hi⟩ := hown r hr handle hhandle
    exact mem_ordersIn.2 ⟨i, mem_historyOf.1 (hi.subset (by simp [dispatched]))⟩
  have hjob : ∀ job ∈ c.state.broker.jobs, job.order ∈ ordersIn c.said :=
    fun job hmem => orders_subset hrun rfl (List.mem_map_of_mem hmem)
  refine ⟨?_, hown, ?_, fun job hmem => filter_ordersIn hrun hunrepeated (hjob job hmem)⟩
  · intro r hr r' hr' handle hhandle hhandle'
    have heq := List.inj_on_of_nodup_map hunrepeated.handles (horder r hr handle hhandle)
      (horder r' hr' handle hhandle') rfl
    have hid : r'.id = r.id := (congrArg Broker.Order.taskId heq).symm
    exact (Store.Memory.eq_of_find? (hfind r hr) hr' hid).symm
  · intro job hmem
    obtain ⟨i, createdAt, hi⟩ := exists_dispatched hrun (hjob job hmem)
    have hadded : (i, .added (.fresh job.taskId job.taskType job.payload createdAt)) ∈
        accounts job.taskId c.said :=
      mem_accounts.2 ⟨⟨.store (.insert _), .ok job.taskId⟩,
        mem_historyOf.1 (hi.subset (by simp [dispatched, Broker.Job.order])),
        tells_eq_added_iff.2 ⟨rfl, job.taskId, rfl⟩⟩
    obtain ⟨r, hr, hagrees⟩ := (ledger_of_run hrun.run job.taskId).of_mem_added hadded
    refine ⟨r, hr, hagrees.evolves.taskType_eq.symm, hagrees.evolves.payload_eq.symm, ?_⟩
    intro handle hhandle
    have hid := Store.Memory.id_of_find? hr
    have heq := eq_of_taskId_eq hrun hunrepeated (hjob job hmem)
      (horder r (Store.Memory.mem_of_find? hr) handle hhandle) hid
    exact congrArg Broker.Order.handle heq

/-- Two who submit tasks, and one who cancels the first of them. -/
abbrev overlapping : Fin 3 → User
  | 0 => .submit "report" .null
  | 1 => .submit "digest" .null
  | 2 => .cancel ⟨⟨1⟩⟩

/-- A backend that gives out different identifiers and handles. -/
def numbered : Backend :=
  .empty (.ofSeconds 3600) .epoch
    { taskId := fun n => ⟨⟨n + 1⟩⟩, handle := fun n => ⟨if n = 0 then "first" else "second"⟩ }

/-- The submissions take turns up to the dispatch of their jobs.  The first job is forgotten while its
task is cancelled, and the second begins to run before its handle is recorded. -/
def takingTurns : List (Move (Fin 3) Happening) :=
  [.next 0, .next 1, .next 0, .next 1, .next 0, .next 1, .next 0, .next 1, .next 0, .next 2,
    .event (.notice (.forget ⟨"first"⟩)), .next 2, .next 2, .next 2,
    .event (.notice (.state ⟨"second"⟩ .started)), .next 1]

/-- What has come of them. -/
abbrev tookTurns : Scene calls (fun i => (overlapping i).Result) Backend :=
  inUse ⟨none⟩ overlapping numbered takingTurns

theorem linked_taking_turns :
    Unrepeated tookTurns.said ∧
      tookTurns.state.store.records.map Record.handle = [some ⟨"first"⟩, some ⟨"second"⟩] ∧
      tookTurns.state.broker.jobs.map Broker.Job.handle = [⟨"second"⟩] ∧
      Linked tookTurns.said tookTurns.state := by
  have hgiven : givenOut tookTurns.said = [(0, ⟨⟨1⟩⟩), (1, ⟨⟨2⟩⟩)] := rfl
  have horders : (ordersIn tookTurns.said).map Broker.Order.handle =
      [⟨"first"⟩, ⟨"second"⟩] := rfl
  have hunrepeated : Unrepeated tookTurns.said := by
    constructor
    · rw [hgiven]
      decide
    · rw [horders]
      decide
  exact ⟨hunrepeated, rfl, rfl, linked ⟨none⟩ overlapping _ _ _ takingTurns hunrepeated⟩

end Main

end TaskLedger.Service
