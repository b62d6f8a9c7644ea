import Mathlib.Data.List.Nodup
import TaskLedger.Proofs.Service.FinalWrite

/-!
**No submission leaves a task stuck.**

A submission writes a record, has its job dispatched and records the handle of the job.  Between any
two of these calls others may look the record up, cancel it or declare it failed, and the broker may
be out of reach.  However this goes, the record that was written has ended or has a handle when the
submission returns, so that someone can ask what became of the task; and no job runs on whose task
had ended before its handle could be recorded.

The identifier of the record is one that nobody else has.  This is an assumption on the generator of
identifiers, made of those that were given out and of no others.

Main definitions:

* `TaskLedger.Service.givenOut`, `TaskLedger.Service.Fresh` — the identifiers that were given out,
  and that they are fresh;
* `TaskLedger.Service.Submission` — the ways in which a submission may come to its end;
* `TaskLedger.Service.Accounted` — what has become of a submission that was not refused.

Main results:

* `TaskLedger.Service.not_taken` — the identifier that a submission has taken is free when it comes
  to write its record;
* `TaskLedger.Service.submission_accounted_for` — **a submission is refused if the type of the task
  is blank, and otherwise it leaves one record, which has ended or has a handle**.
-/

set_option autoImplicit false

namespace TaskLedger.Service

open Dialogue

/-! ### Identifiers that were given out -/

section GivenOut

variable {ι : Type} {said later : Said calls ι} {i : ι} {k : TaskId}

/-- The identifiers that were given out, each with the operation that has it. -/
def givenOut (said : Said calls ι) : List (ι × TaskId) :=
  said.filterMap fun
    | (i, ⟨.freshId, k⟩) => some (i, k)
    | _ => none

theorem givenOut_append : givenOut (said ++ later) = givenOut said ++ givenOut later := by
  simp [givenOut]

theorem mem_givenOut : (i, k) ∈ givenOut said ↔ (i, ⟨.freshId, k⟩) ∈ said := by
  simp only [givenOut, List.mem_filterMap]
  constructor
  · rintro ⟨⟨j, q, a⟩, hx, hk⟩
    cases q with
    | freshId =>
        obtain ⟨rfl, rfl⟩ := Prod.mk.inj (Option.some.inj hk)
        exact hx
    | store | broker | now => cases hk
  · intro hk
    exact ⟨(i, ⟨.freshId, k⟩), hk, rfl⟩

/-- The identifiers that were given out are fresh: each was given out once, no record has had it from
the start, and nobody has made it up to write a record under it. -/
structure Fresh (b : Backend) (ops : ι → Operation) (said : Said calls ι) : Prop where
  distinct : ((givenOut said).map Prod.snd).Nodup
  unused : ∀ i k, (i, k) ∈ givenOut said → b.store.find? k = none
  reserved : ∀ i k, (i, k) ∈ givenOut said → ∀ j record,
    ops j = .call (.store (.insert record)) → record.id ≠ k

namespace Fresh

variable {b : Backend} {ops : ι → Operation}

/-- What is fresh has been fresh. -/
theorem of_append (hfresh : Fresh b ops (said ++ later)) : Fresh b ops said := by
  have hmem : ∀ {i k}, (i, k) ∈ givenOut said → (i, k) ∈ givenOut (said ++ later) := by
    intro i k hk
    rw [givenOut_append]
    exact List.mem_append_left _ hk
  refine ⟨?_, fun i k hk => hfresh.unused i k (hmem hk),
    fun i k hk => hfresh.reserved i k (hmem hk)⟩
  have hdistinct := hfresh.distinct
  rw [givenOut_append, List.map_append] at hdistinct
  exact hdistinct.sublist (List.sublist_append_left _ _)

/-- An identifier has one owner. -/
theorem owner {j : ι} (hfresh : Fresh b ops said) (hi : (i, k) ∈ givenOut said)
    (hj : (j, k) ∈ givenOut said) : i = j :=
  (Prod.mk.inj (List.inj_on_of_nodup_map hfresh.distinct hi hj rfl)).1

end Fresh

end GivenOut

/-! ### Who writes a record -/

section Inserting

variable {h : List (Exchange calls)}

/-- A submission writes a record right after it has taken its identifier. -/
theorem asks_insert_submit {taskType : String} {payload : Json} {record : Record}
    (hasks : (submit taskType payload).Asks h (.store (.insert record))) :
    ∃ createdAt, h = [⟨.now, createdAt⟩, ⟨.freshId, record.id⟩] := by
  cases asks_submit hasks with
  | @insert createdAt => exact ⟨createdAt, rfl⟩

/-- Only a submission writes a record under an identifier that it has taken; whoever else writes a
record does nothing but that. -/
theorem asks_insert {o : Operation} {record : Record}
    (hasks : o.action.Asks h (.store (.insert record))) :
    o = .call (.store (.insert record)) ∨
      ∃ createdAt, h = [⟨.now, createdAt⟩, ⟨.freshId, record.id⟩] := by
  cases o with
  | submit taskType payload => exact Or.inr (asks_insert_submit hasks)
  | cancel id =>
      rcases asks_cancel hasks with ⟨-, hq⟩ | ⟨_, -, ⟨_, -, hq, -⟩ | ⟨_, _, -, ⟨hq, -⟩ | ⟨_, hq, -⟩⟩⟩ <;>
        cases hq
  | lookup limit id =>
      simp only [Operation.action, lookup, bind_def] at hasks
      rcases asks_bind.1 hasks with hlook | ⟨_, _, h₂, -, -, hget⟩
      · cases asks_reconcile hlook
      · simp only [bind_get, asks_ask, Call.store.injEq, reduceCtorEq, and_false, false_or] at hget
        obtain ⟨reply, h', -, hdone⟩ := hget
        rcases reply with fault | record? <;> simp at hdone
  | reconcile limit id => cases asks_reconcile hasks
  | reconcileWithFailure limit id detail => cases asks_examine hasks
  | complete id result =>
      simp [Operation.action, Progress.complete, bind_def, finish, request, asks_ask] at hasks
  | fail id userMessage technicalDetail =>
      simp [Operation.action, Progress.fail, bind_def, finish, request, asks_ask] at hasks
  | call c =>
      simp only [Operation.action, request, asks_ask, not_asks_done, and_false, exists_false,
        or_false] at hasks
      exact Or.inl (by rw [hasks.2])

end Inserting

section Freshness

variable {ι : Type} [DecidableEq ι] {ops : ι → Operation} {b s : Backend} {said : Said calls ι}

/-- **The identifier that a submission has taken is free when it comes to write its record.** -/
theorem not_taken {i : ι} {t : Instant} {k : TaskId} (hrun : RunOf Backend.world ops b said s)
    (hfresh : Fresh b ops said) (hhistory : historyOf i said = [⟨.now, t⟩, ⟨.freshId, k⟩]) :
    s.store.find? k = none := by
  have hgiven : (i, k) ∈ givenOut said :=
    mem_givenOut.2 (mem_historyOf.1 (by simp [hhistory]))
  have hledger := ledger_of_run hrun k
  rw [hfresh.unused i k hgiven] at hledger
  cases hr : s.store.find? k with
  | none => rfl
  | some r =>
      rw [hr] at hledger
      cases hledger with
      | present hfirst hagrees =>
          -- Whoever has added the record has taken the identifier, or else has made it up.
          obtain ⟨j, hj⟩ := mem_of_firstRecord? hfirst
          obtain ⟨x, hx, htells⟩ := mem_accounts.1 hj
          obtain ⟨hid, inserted, rfl⟩ := tells_eq_added_iff.1 htells
          obtain ⟨before, later, rfl⟩ := List.append_of_mem hx
          obtain ⟨s₁, -, hasks, -⟩ := hrun.moment
          rcases asks_insert hasks with hcall | ⟨t', hj'⟩
          · exact absurd hid (hfresh.reserved i k hgiven j _ hcall)
          · have hgiven' : (j, k) ∈ givenOut (before ++
                (j, ⟨.store (.insert _), .ok inserted⟩) :: later : Said calls ι) := by
              refine mem_givenOut.2 (List.mem_append_left _ (mem_historyOf.1 ?_))
              simp [hj', hid]
            -- So it was the submission itself, which has not come to write yet.
            obtain rfl := hfresh.owner hgiven hgiven'
            have hmem := mem_historyOf.2 hx
            rw [hhistory] at hmem
            simp at hmem

end Freshness

/-! ### The course of a submission -/

section Course

variable {taskType : String} {payload : Json} {h : List (Exchange calls)}

/-- A submission makes six calls at most. -/
theorem asksAtMost_submit (taskType : String) (payload : Json) :
    (submit taskType payload).AsksAtMost 6 := by
  simp only [submit, bind_def, bind_now, bind_freshId]
  refine .ask fun createdAt => .ask fun k => ?_
  cases Record.create k taskType payload createdAt with
  | error e => exact .done _ 4
  | ok record =>
      simp only [bind_insert]
      refine .ask fun inserted => ?_
      rcases inserted with fault | id
      · exact .done _ 3
      · simp only [launch, bind_def, bind_dispatch]
        refine .ask fun reply => ?_
        rcases reply with fault | handle
        · simp only [giveUp, bind_def, bind_now, bind_finish]
          refine .ask fun endedAt => .ask fun w => ?_
          rcases w with e | o <;> exact .done _ 0
        · simp only [settle, bind_def, bind_setHandle]
          refine .ask fun w => ?_
          rcases w with e | _ | current | _
          · exact .done _ 1
          · exact .done _ 1
          · simp only
            split
            · exact .ask fun _ => .done _ 0
            · exact .done _ 1
          · exact .done _ 1

/-- What it means for a submission that its record was ended as not dispatched. -/
def gaveUp (fault : Broker.Fault) : Except Store.Fault Store.Outcome → Except Fault TaskId
  | .error e => .error (.store e)
  | .ok _ => .error (.dispatch fault)

/-- What it means for a submission how the handle of its job was recorded. -/
def settled (id : TaskId) : Except Store.Fault Store.Outcome → Except Fault TaskId
  | .error e => .error (.store e)
  | .ok _ => .ok id

/-- The ways in which a submission may come to its end, each with its exchanges and its result. -/
inductive Submission (taskType : String) (payload : Json) :
    List (Exchange calls) → Except Fault TaskId → Prop
  | refused {createdAt : Instant} {k : TaskId} : Text.isBlankText taskType = true →
      Submission taskType payload [⟨.now, createdAt⟩, ⟨.freshId, k⟩]
        (.error (.invalid .blankTaskType))
  | notWritten {createdAt : Instant} {k : TaskId} {fault : Store.Fault} :
      Text.isBlankText taskType = false →
      Submission taskType payload
        [⟨.now, createdAt⟩, ⟨.freshId, k⟩,
          ⟨.store (.insert (.fresh k taskType payload createdAt)), .error fault⟩]
        (.error (.store fault))
  | notDispatched {createdAt endedAt : Instant} {k id : TaskId} {fault : Broker.Fault}
      {w : Except Store.Fault Store.Outcome} : Text.isBlankText taskType = false →
      Submission taskType payload
        [⟨.now, createdAt⟩, ⟨.freshId, k⟩,
          ⟨.store (.insert (.fresh k taskType payload createdAt)), .ok id⟩,
          ⟨.broker (.dispatch id taskType payload), .error fault⟩,
          ⟨.now, endedAt⟩, ⟨.store (.finish id (undispatched endedAt fault)), w⟩]
        (gaveUp fault w)
  | dispatched {createdAt : Instant} {k id : TaskId} {handle : Handle}
      {reply : Except Store.Fault Store.Outcome} {tail : List (Exchange calls)} :
      Text.isBlankText taskType = false →
      ((∃ current answer, reply = .ok (.rejected current) ∧ current.isTerminal = true ∧
          tail = [⟨.broker (.revoke handle), answer⟩]) ∨
        (∀ current, reply = .ok (.rejected current) → current.isTerminal = false) ∧ tail = []) →
      Submission taskType payload
        (Service.dispatched id k taskType payload createdAt handle ++
          ⟨.store (.setHandle id handle), reply⟩ :: tail)
        (settled id reply)

/-- The result of recording the handle says how it was recorded. -/
theorem result_of_ends_settle {id : TaskId} {handle : Handle} {r : Except Fault TaskId}
    {reply : Except Store.Fault Store.Outcome} {tail : List (Exchange calls)}
    (hends : (settle id handle).Ends (⟨.store (.setHandle id handle), reply⟩ :: tail) r) :
    r = settled id reply := by
  simp only [settle, bind_def, bind_setHandle, ends_ask, List.cons.injEq, Exchange.mk.injEq,
    heq_eq_eq, true_and] at hends
  obtain ⟨_, _, ⟨rfl, rfl⟩, hends⟩ := hends
  rcases reply with fault | _ | current | _
  · exact (ends_pure.1 hends).2
  · exact (ends_pure.1 hends).2
  · simp only at hends
    split at hends
    · simp only [bind_revoke, ends_ask, ends_pure] at hends
      obtain ⟨_, _, -, -, rfl⟩ := hends
      rfl
    · exact (ends_pure.1 hends).2
  · exact (ends_pure.1 hends).2

/-- **The course of a submission.** -/
theorem submission_of_ends {r : Except Fault TaskId} (hends : (submit taskType payload).Ends h r) :
    Submission taskType payload h r := by
  simp only [submit, bind_def, bind_now, bind_freshId, ends_ask] at hends
  obtain ⟨createdAt, _, rfl, k, h₁, rfl, hends⟩ := hends
  cases hcreate : Record.create k taskType payload createdAt with
  | error e =>
      simp only [hcreate, ends_pure] at hends
      obtain ⟨rfl, rfl⟩ := hends
      unfold Record.create at hcreate
      split at hcreate
      · next hblank =>
          obtain rfl := Except.error.inj hcreate
          exact .refused hblank
      · cases hcreate
  | ok record =>
      obtain ⟨hblank, rfl⟩ := Record.create_eq_ok_iff.1 hcreate
      simp only [hcreate, bind_insert, ends_ask] at hends
      obtain ⟨inserted, h₂, rfl, hends⟩ := hends
      rcases inserted with fault | id
      · obtain ⟨rfl, rfl⟩ := ends_pure.1 hends
        exact .notWritten hblank
      · simp only [launch, bind_def, bind_dispatch, ends_ask] at hends
        obtain ⟨reply, h₃, rfl, hends⟩ := hends
        rcases reply with fault | handle
        · simp only [giveUp, bind_def, bind_now, bind_finish, ends_ask] at hends
          obtain ⟨endedAt, _, rfl, w, h₄, rfl, hends⟩ := hends
          rcases w with e | o
          · obtain ⟨rfl, rfl⟩ := ends_pure.1 hends
            exact .notDispatched hblank
          · obtain ⟨rfl, rfl⟩ := ends_pure.1 hends
            exact .notDispatched hblank
        · obtain ⟨reply, tail, rfl, htail⟩ := ends_settle hends
          obtain rfl := result_of_ends_settle hends
          exact .dispatched hblank htail

end Course

/-! ### What becomes of the record -/

section Record

variable {ι : Type} [DecidableEq ι] {ops : ι → Operation} {b s : Backend}
  {said before later : Said calls ι} {i j : ι} {id : TaskId} {record : Record}
  {reply : Except Store.Fault Store.Outcome}

/-- If the handle of a task that was added is to be recorded, the task has ended or it has a handle
ever after. -/
theorem ended_or_handle_of_setHandle {handle : Handle}
    (hrun : RunOf Backend.world ops b
      (before ++ (i, ⟨.store (.setHandle id handle), reply⟩) :: later) s)
    (hadded : (j, .added record) ∈ accounts id before) :
    (∃ o, reply = .ok o) ∧
      ∃ r, s.store.find? id = some r ∧ (r.isTerminal = true ∨ r.handle.isSome = true) := by
  obtain ⟨s₁, hbefore, -, hanswer⟩ := hrun.moment
  have hreply : reply = .ok (s₁.store.modify id (·.assignHandle handle)).1 := hanswer
  refine ⟨⟨_, hreply⟩, ?_⟩
  obtain ⟨r₁, hr₁, hagrees₁⟩ := (ledger_of_run hbefore id).of_mem_added hadded
  have hledger := ledger_of_run hrun id
  obtain ⟨r, hr, hagrees⟩ := hledger.of_mem_added
    (by rw [accounts_append]; exact List.mem_append_left _ hadded)
  refine ⟨r, hr, ?_⟩
  rcases Store.Memory.modify_of_find? hr₁ (·.assignHandle handle) with
    ⟨e, hc, hmodify⟩ | ⟨c, -, hmodify⟩
  · rw [hmodify] at hreply
    subst hreply
    cases hterminal : r₁.isTerminal with
    | true =>
        -- The task was found at a terminal stage, and it stays there.
        obtain ⟨r', hr', hstatus⟩ := hledger.of_mem_found
          (mem_accounts_of_tells (by simp [Call.tells, Account.ofOutcome])) hterminal
        obtain rfl := Option.some.inj (hr.symm.trans hr')
        exact Or.inl (by rw [Record.isTerminal, hstatus]; exact hterminal)
    | false =>
        -- There was a handle already, and no handle is lost.
        cases hhandle : r₁.handle with
        | none => simp [Record.assignHandle, hterminal, hhandle] at hc
        | some other =>
            refine Or.inr (Option.isSome_iff_exists.2 ⟨other, (hagrees.handle_iff other).2 ?_⟩)
            rcases (hagrees₁.handle_iff other).1 hhandle with hfirst | ⟨l, hl⟩
            · exact Or.inl hfirst
            · refine Or.inr ⟨l, ?_⟩
              rw [accounts_append]
              exact List.mem_append_left _ hl
  · rw [hmodify] at hreply
    subst hreply
    have hhanded : (i, .handed handle) ∈ accounts id
        (before ++ (i, ⟨.store (.setHandle id handle), .ok .applied⟩) :: later : Said calls ι) :=
      mem_accounts_of_tells (tells_eq_handed_iff.2 rfl)
    exact Or.inr (Option.isSome_iff_exists.2
      ⟨handle, (hagrees.handle_iff handle).2 (Or.inr ⟨i, hhanded⟩)⟩)

/-- If a task that was added is to be ended as failed, it has ended ever after. -/
theorem ended_of_finish {u : FinalUpdate} (hu : u.status = .failed)
    (hrun : RunOf Backend.world ops b (before ++ (i, ⟨.store (.finish id u), reply⟩) :: later) s)
    (hadded : (j, .added record) ∈ accounts id before) :
    (∃ o, reply = .ok o) ∧ ∃ r, s.store.find? id = some r ∧ r.isTerminal = true := by
  obtain ⟨s₁, hbefore, -, hanswer⟩ := hrun.moment
  have hreply : reply = .ok (s₁.store.modify id (·.finish u)).1 := hanswer
  refine ⟨⟨_, hreply⟩, ?_⟩
  obtain ⟨r₁, hr₁, -⟩ := (ledger_of_run hbefore id).of_mem_added hadded
  have hledger := ledger_of_run hrun id
  rcases Store.Memory.modify_of_find? hr₁ (·.finish u) with ⟨e, hc, hmodify⟩ | ⟨c, -, hmodify⟩
  · rw [hmodify] at hreply
    subst hreply
    -- An open task may fail, so that it was refused because it had ended.
    have hterminal : r₁.status.isTerminal = true := by
      by_contra hopen
      rw [Bool.not_eq_true] at hopen
      have hedge := Status.canBecome_of_open hopen (Or.inl hu)
      simp [Record.finish, hu ▸ hedge, hu, Status.isTerminal] at hc
    obtain ⟨r, hr, hstatus⟩ := hledger.of_mem_found
      (mem_accounts_of_tells (by simp [Call.tells, Account.ofOutcome])) hterminal
    exact ⟨r, hr, by rw [Record.isTerminal, hstatus]; exact hterminal⟩
  · rw [hmodify] at hreply
    subst hreply
    obtain ⟨-, r, hr, hstatus⟩ := hledger.of_mem_wrote
      (mem_accounts_of_tells (tells_eq_wrote_iff.2 ⟨u, rfl, Or.inl rfl⟩))
    exact ⟨r, hr, by rw [Record.isTerminal, hstatus, hu]; rfl⟩

end Record

/-! ### A submission among others -/

/-- An operation, and others beside it. -/
abbrev Operation.amid {κ : Type} (o : Operation) (others : κ → Operation) : Option κ → Operation
  | none => o
  | some j => others j

/-- The records that were written in some exchanges. -/
def writtenIn (h : List (Exchange calls)) : List Record :=
  h.filterMap fun
    | ⟨.store (.insert record), .ok _⟩ => some record
    | _ => none

/-- What has become of a submission that was not refused: it has written one record, under an
identifier that was free, which has ended or has a handle, and the result tells whether a job was
dispatched for it.  If the handle of the job was refused because the task had ended, the job was
asked to stop. -/
structure Accounted (b s : Backend) (taskType : String) (payload : Json)
    (h : List (Exchange calls)) (result : Except Fault TaskId) (id : TaskId) : Prop where
  written : ∃ createdAt, writtenIn h = [.fresh id taskType payload createdAt]
  new : b.store.find? id = none
  record : ∃ r, s.store.find? id = some r ∧ (r.isTerminal = true ∨ r.handle.isSome = true)
  result : (result = .ok id ∧
      ∃ handle, ⟨.broker (.dispatch id taskType payload), .ok handle⟩ ∈ h) ∨
    ∃ fault, result = .error (.dispatch fault)
  revoked : ∀ handle current, ⟨.store (.setHandle id handle), .ok (.rejected current)⟩ ∈ h →
    current.isTerminal = true → ∃ answer, ⟨.broker (.revoke handle), answer⟩ ∈ h

section Main

variable {κ : Type} [DecidableEq κ] {others : κ → Operation} {b s : Backend}
  {said : Said calls (Option κ)} {taskType : String} {payload : Json}

/-- A submission that comes to write its record has written it, under an identifier that was free
from the start. -/
theorem inserted_of_history {createdAt : Instant} {k : TaskId}
    {inserted : Except Store.Fault TaskId} {back : List (Exchange calls)}
    (hrun : RunOf Backend.world ((Operation.submit taskType payload).amid others) b said s)
    (hfresh : Fresh b ((Operation.submit taskType payload).amid others) said)
    (hhistory : historyOf none said = ⟨.now, createdAt⟩ :: ⟨.freshId, k⟩ ::
      ⟨.store (.insert (.fresh k taskType payload createdAt)), inserted⟩ :: back) :
    inserted = .ok k ∧ b.store.find? k = none := by
  have hsplit : historyOf none said = ([⟨.now, createdAt⟩, ⟨.freshId, k⟩] : List (Exchange calls)) ++
      ⟨.store (.insert (.fresh k taskType payload createdAt)), inserted⟩ :: back := hhistory
  obtain ⟨before, later, rfl, hbefore⟩ := exists_of_historyOf_eq hsplit
  obtain ⟨s₁, hrun₁, -, hanswer⟩ := hrun.moment
  have hfree : s₁.store.find? k = none := not_taken hrun₁ hfresh.of_append hbefore
  have hgiven : (none, k) ∈ givenOut (before ++
      (none, ⟨.store (.insert (.fresh k taskType payload createdAt)), inserted⟩) :: later :
        Said calls (Option κ)) :=
    mem_givenOut.2 (List.mem_append_left _ (mem_historyOf.1 (by simp [hbefore])))
  exact ⟨hanswer.trans (Store.Memory.insert_of_free hfree), hfresh.unused none k hgiven⟩

/-- The record that a submission has written stands in the ledger. -/
theorem mem_accounts_of_inserted {before : Said calls (Option κ)} {createdAt : Instant} {k : TaskId}
    (hmem : ⟨.store (.insert (.fresh k taskType payload createdAt)), .ok k⟩ ∈
      historyOf none before) :
    (none, .added (.fresh k taskType payload createdAt)) ∈ accounts k before :=
  mem_accounts.2 ⟨_, mem_historyOf.1 hmem, tells_eq_added_iff.2 ⟨rfl, k, rfl⟩⟩

/-- What a submission that was not refused has made of the store. -/
theorem accounted_of_ends {result : Except Fault TaskId}
    (hrun : RunOf Backend.world ((Operation.submit taskType payload).amid others) b said s)
    (hfresh : Fresh b ((Operation.submit taskType payload).amid others) said)
    (hends : (submit taskType payload).Ends (historyOf none said) result)
    (hblank : Text.isBlankText taskType = false) :
    ∃ id, Accounted b s taskType payload (historyOf none said) result id := by
  generalize hhistory : historyOf none said = h at hends ⊢
  cases submission_of_ends hends with
  | refused h =>
      rw [hblank] at h
      cases h
  | notWritten => cases (inserted_of_history hrun hfresh hhistory).1
  | @notDispatched createdAt endedAt k id fault w =>
      obtain ⟨hid, hnew⟩ := inserted_of_history hrun hfresh hhistory
      obtain rfl := Except.ok.inj hid
      have hsplit : historyOf none said =
          ([⟨.now, createdAt⟩, ⟨.freshId, id⟩,
            ⟨.store (.insert (.fresh id taskType payload createdAt)), .ok id⟩,
            ⟨.broker (.dispatch id taskType payload), .error fault⟩,
            ⟨.now, endedAt⟩] : List (Exchange calls)) ++
          [⟨.store (.finish id (undispatched endedAt fault)), w⟩] := hhistory
      obtain ⟨before, later, rfl, hbefore⟩ := exists_of_historyOf_eq hsplit
      have hadded : (none, .added (.fresh id taskType payload createdAt)) ∈ accounts id before :=
        mem_accounts_of_inserted (by simp [hbefore])
      obtain ⟨⟨o, rfl⟩, r, hr, hended⟩ := ended_of_finish rfl hrun hadded
      refine ⟨id, ⟨createdAt, rfl⟩, hnew, ⟨r, hr, Or.inl hended⟩, Or.inr ⟨fault, rfl⟩, ?_⟩
      intro handle current hmem
      simp at hmem
  | @dispatched createdAt k id handle reply tail _ htail =>
      obtain ⟨hid, hnew⟩ := inserted_of_history hrun hfresh hhistory
      obtain rfl := Except.ok.inj hid
      obtain ⟨before, later, rfl, hbefore⟩ := exists_of_historyOf_eq hhistory
      have hadded : (none, .added (.fresh id taskType payload createdAt)) ∈ accounts id before :=
        mem_accounts_of_inserted (by simp [hbefore, Service.dispatched])
      obtain ⟨⟨o, rfl⟩, r, hr, hheld⟩ := ended_or_handle_of_setHandle hrun hadded
      refine ⟨id, ⟨createdAt, ?_⟩, hnew, ⟨r, hr, hheld⟩,
        Or.inl ⟨rfl, handle, by simp [Service.dispatched]⟩, ?_⟩
      · rcases htail with ⟨_, _, -, -, rfl⟩ | ⟨-, rfl⟩ <;> rfl
      · intro other current hmem hterminal
        rcases htail with ⟨current', answer, -, -, rfl⟩ | ⟨hopen, rfl⟩
        · obtain ⟨rfl, -⟩ : other = handle ∧ Store.Outcome.rejected current = o := by
            simpa [Service.dispatched] using hmem
          exact ⟨answer, by simp⟩
        · have hsame : other = handle ∧ Store.Outcome.rejected current = o := by
            simpa [Service.dispatched] using hmem
          rw [hopen current (by rw [hsame.2])] at hterminal
          cases hterminal

/-- **A submission is refused if the type of the task is blank, and otherwise it leaves one record,
which has ended or has a handle**, whatever others do between its calls, and whether or not the broker
can be reached.  It comes to its end, and if it is refused, it has asked neither the store nor the
broker anything. -/
theorem submission_accounted_for (taskType : String) (payload : Json) (others : κ → Operation)
    (b : Backend) (moves : List (Move (Option κ) Incident))
    (hfresh : Fresh b ((Operation.submit taskType payload).amid others)
      (sideBySide ((Operation.submit taskType payload).amid others) b moves).said) :
    let c := sideBySide ((Operation.submit taskType payload).amid others) b moves
    (6 ≤ turnsIn none moves → ∃ result, c.result? none = some result) ∧
      ∀ result, c.result? none = some result →
        ((∃ error, result = .error (.invalid error)) ↔ Text.isBlankText taskType = true) ∧
        (Text.isBlankText taskType = true →
          ∃ t k, historyOf none c.said = [⟨.now, t⟩, ⟨.freshId, k⟩]) ∧
        (Text.isBlankText taskType = false →
          ∃ id, Accounted b c.state taskType payload (historyOf none c.said) result id) := by
  intro c
  refine ⟨?_, fun result hresult => ?_⟩
  · have hcalls : ((Scene.start (fun i => ((Operation.submit taskType payload).amid others i).action)
        b).rest none).AsksAtMost 6 := asksAtMost_submit taskType payload
    exact Scene.exists_result?_of_turnsIn Backend.world _ hcalls
  have hends : (submit taskType payload).Ends (historyOf none c.said) result :=
    Scene.ends_of_result? hresult
  have hrun : RunOf Backend.world _ b c.said c.state := Scene.run_play Backend.world _ b moves
  cases hblank : Text.isBlankText taskType with
  | true =>
      generalize historyOf none c.said = h at hends ⊢
      cases submission_of_ends hends with
      | refused _ =>
          exact ⟨⟨fun _ => rfl, fun _ => ⟨_, rfl⟩⟩, fun _ => ⟨_, _, rfl⟩, nofun⟩
      | notWritten hnot | notDispatched hnot | dispatched hnot =>
          rw [hblank] at hnot
          cases hnot
  | false =>
      obtain ⟨id, haccounted⟩ := accounted_of_ends hrun hfresh hends hblank
      refine ⟨⟨?_, nofun⟩, nofun, fun _ => ⟨id, haccounted⟩⟩
      rintro ⟨error, rfl⟩
      rcases haccounted.result with ⟨h, -⟩ | ⟨fault, h⟩ <;> cases h

end Main

/-! ### A submission that is overtaken -/

/-- A submission, and a cancellation of the task that it is about to submit. -/
abbrev overtakenSubmission : Option Unit → Operation :=
  (Operation.submit "report" .null).amid fun _ => .cancel ⟨⟨1⟩⟩

/-- The order in which the task is cancelled, an hour later, before its handle can be recorded. -/
def cancelledEarly : List (Move (Option Unit) Incident) :=
  List.replicate 4 (.next none) ++ [.event (.clock ⟨3600, 0, by decide, by decide⟩)] ++
    List.replicate 3 (.next (some ())) ++ List.replicate 2 (.next none)

theorem submission_accounted_for_cancelled_early :
    Fresh .vacant overtakenSubmission
        (sideBySide overtakenSubmission .vacant cancelledEarly).said ∧
      6 ≤ turnsIn none cancelledEarly ∧
      ∃ result, (sideBySide overtakenSubmission .vacant cancelledEarly).result? none = some result ∧
        ∃ id, Accounted .vacant (sideBySide overtakenSubmission .vacant cancelledEarly).state
          "report" .null
          (historyOf none (sideBySide overtakenSubmission .vacant cancelledEarly).said) result id := by
  have hgiven : givenOut (sideBySide overtakenSubmission .vacant cancelledEarly).said =
      [(none, ⟨⟨1⟩⟩)] := rfl
  have hfresh : Fresh .vacant overtakenSubmission
      (sideBySide overtakenSubmission .vacant cancelledEarly).said := by
    refine ⟨by simp [hgiven], fun _ _ _ => rfl, fun _ _ _ j record hcall => ?_⟩
    rcases j with _ | ⟨⟩ <;> cases hcall
  have hturns : 6 ≤ turnsIn none cancelledEarly := by decide
  obtain ⟨hends, haccounted⟩ := submission_accounted_for "report" .null (fun _ => .cancel ⟨⟨1⟩⟩)
    .vacant cancelledEarly hfresh
  obtain ⟨result, hresult⟩ := hends hturns
  exact ⟨hfresh, hturns, result, hresult, (haccounted result hresult).2.2 (by decide)⟩

end TaskLedger.Service
