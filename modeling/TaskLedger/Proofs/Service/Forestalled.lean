import TaskLedger.Proofs.Broker.Change
import TaskLedger.Proofs.Service.Course
import TaskLedger.Proofs.Service.FinalWrite

/-!
**A cancellation among reconciliations.**

A cancellation has the job stopped first and ends the record next.  In between, the broker reports
the job as revoked while the record is still open, and to a reconciliation that looks just then the
task seems to have died.  If it writes before the cancellation does, the task that its user has
cancelled ends as failed, and the cancellation reports that there was nothing to cancel.  No other
order does any harm.

As long as nobody has ended the task, its record is as it was, and its job is at work until the
cancellation has it stopped.  This is the invariant that everything here rests on.

Main definitions:

* `TaskLedger.Service.contest` — a cancellation of a task, and any number of reconciliations of it;
* `TaskLedger.Service.AtWork` — a task that is open, with a job at work;
* `TaskLedger.Service.Forestalled` — a reconciliation has seen the job revoked, and was first to
  write.

Main results:

* `TaskLedger.Service.cancelled_iff_not_forestalled` — **the cancellation succeeds exactly if it was
  not forestalled**;
* `TaskLedger.Service.forestalled_task_fails` — an order in which the cancelled task ends as failed.
-/

set_option autoImplicit false

namespace TaskLedger

namespace Service

variable {κ : Type}

/-- A cancellation of a task, and reconciliations of the same task. -/
abbrev contest (limit : TimeLimit) (id : TaskId) : Option κ → Operation
  | none => .cancel id
  | some _ => .reconcile limit id

/-- A task that is open and within its limit, and whose job is waiting or at work. -/
structure AtWork (limit : TimeLimit) (b : Backend) (id : TaskId) (handle : Handle) (r₀ : Record) :
    Prop where
  record : b.store.find? id = some r₀
  isOpen : r₀.isTerminal = false
  handle_eq : r₀.handle = some handle
  inTime : limit.isExpired r₀.createdAt b.clock = false
  job : ∃ state, b.broker.Retains b.clock handle state ∧ state.isLive = true

/-- Some reconciliation has asked for the state of the job after it was revoked, and has come to
write before the cancellation did. -/
def Forestalled (id : TaskId) (handle : Handle) (said : Said calls (Option κ)) : Prop :=
  ∃ j source u v, List.Sublist
    [(none, .broker (.revoke handle)), (some j, .broker (.state handle)),
      (some j, .store (.finishFrom id source u)), (none, .store (.finish id v))] (asked said)

section Contest

variable {limit : TimeLimit} {b s : Backend} {id : TaskId} {handle : Handle}
  {r₀ : Record} {said before later : Said calls (Option κ)} {i : Option κ} {q : Call}

/-! ### What the contestants may ask -/

/-- The calls that a cancellation or a reconciliation of a task may make. -/
inductive Contests (id : TaskId) : Option κ → Call → Prop
  | get (i : Option κ) : Contests id i (.store (.get id))
  | now (i : Option κ) : Contests id i .now
  | state (j : κ) (k : Handle) : Contests id (some j) (.broker (.state k))
  | detail (j : κ) (k : Handle) : Contests id (some j) (.broker (.failureDetail k))
  | revoke (k : Handle) : Contests id none (.broker (.revoke k))
  | finish (i : Option κ) (u : FinalUpdate) : Contests id i (.store (.finish id u))
  | finishFrom (j : κ) (source : Status) (u : FinalUpdate) :
      Contests id (some j) (.store (.finishFrom id source u))

theorem contests_of_asks {h : List (Exchange calls)}
    (hasks : (contest limit id i).action.Asks h q) : Contests id i q := by
  cases i with
  | none =>
      rcases asks_cancel hasks with ⟨-, rfl⟩ | ⟨record, -, ⟨k, -, rfl, -⟩ | ⟨_, _, -, hq⟩⟩
      · exact .get none
      · exact .revoke k
      · rcases hq with ⟨rfl, -⟩ | ⟨endedAt, rfl, -⟩
        · exact .now none
        · exact .finish none _
  | some j =>
      cases asks_reconcile hasks with
      | get => exact .get _
      | now => exact .now _
      | state => exact .state j _
      | detail => exact .detail j _
      | late => exact .finish _ _
      | told _ _ hreported => cases hreported
      | dead => exact .finishFrom j _ _

/-- Unless it ends the task, such a call leaves its record as it is. -/
theorem find?_answer_of_contests (hq : Contests id i q)
    (hwrote : ∀ status, q.tells id (s.answer q).1 ≠ some (.wrote status)) :
    (s.answer q).2.store.find? id = s.store.find? id := by
  have hmodify : ∀ (change : Record → Except TaskError Record) (u : FinalUpdate),
      (∀ status, Account.ofOutcome (some (.wrote u.status)) (.ok (s.store.modify id change).1) ≠
        some (.wrote status)) →
      (s.store.modify id change).2.find? id = s.store.find? id := by
    intro change u hne
    rcases s.store.modify_cases id change with ⟨-, h⟩ | ⟨r, e, -, -, h⟩ | ⟨r, c, -, -, h⟩
    · rw [h]
    · rw [h]
    · rw [h] at hne
      exact absurd rfl (hne u.status)
  cases hq with
  | get | now | state | detail | revoke => rfl
  | finish i u =>
      exact hmodify _ u
        (by simpa [Call.tells, Store.Memory.answer, Store.Memory.answer.done] using hwrote)
  | finishFrom j source u =>
      exact hmodify _ u
        (by simpa [Call.tells, Store.Memory.answer, Store.Memory.answer.done] using hwrote)

/-! ### The invariant -/

/-- What holds while the contest is going on: the clock stands still, the job is at work until the
cancellation has had it stopped, and the record is as it was until someone has ended the task. -/
structure Standing (b : Backend) (id : TaskId) (handle : Handle) (r₀ : Record)
    (said : Said calls (Option κ)) (s : Backend) : Prop where
  clock : s.clock = b.clock
  job : ∃ state, s.broker.Retains b.clock handle state ∧
    ((state.isLive = true ∧ (none, .broker (.revoke handle)) ∉ asked said) ∨
      (state = .revoked ∧ (none, .broker (.revoke handle)) ∈ asked said))
  record : finalWrites (accounts id said) = [] → s.store.find? id = some r₀

/-- Whatever a contestant asks, the job is retained, and it is revoked if that is what was asked. -/
theorem retains_answer_of_contests {state : RemoteState} (hq : Contests id i q)
    (hclock : s.clock = b.clock) (hretains : s.broker.Retains b.clock handle state) :
    (q ≠ .broker (.revoke handle) → (s.answer q).2.broker.Retains b.clock handle state) ∧
      (q = .broker (.revoke handle) → (s.answer q).2.broker.Retains b.clock handle
        (if state.isLive = true then .revoked else state)) := by
  rw [← hclock] at hretains ⊢
  cases hq with
  | get | now | finish | finishFrom => exact ⟨fun _ => hretains, fun h => nomatch h⟩
  | state j k =>
      have hanswer := hretains.answer (s.supply.handle s.handlesUsed) (.state k) nofun
      exact ⟨fun _ => hanswer.1 nofun, nofun⟩
  | detail j k =>
      have hanswer := hretains.answer (s.supply.handle s.handlesUsed) (.failureDetail k) nofun
      exact ⟨fun _ => hanswer.1 nofun, nofun⟩
  | revoke k =>
      have hanswer := hretains.answer (s.supply.handle s.handlesUsed) (.revoke k) nofun
      constructor
      · intro hk
        exact hanswer.1 fun h => hk (congrArg Call.broker h)
      · intro hk
        exact hanswer.2 (Call.broker.inj hk)

theorem standing_of_run [DecidableEq κ] (hwork : AtWork limit b id handle r₀)
    (hrun : RunOf Backend.quietWorld (contest limit id) b said s) :
    Standing b id handle r₀ said s := by
  -- Only two calls matter: the one that has the job stopped, and the one that ends the task.
  induction hrun with
  | start =>
      obtain ⟨state, hretains, hlive⟩ := hwork.job
      exact ⟨rfl, ⟨state, hretains, Or.inl ⟨hlive, List.not_mem_nil⟩⟩, fun _ => hwork.record⟩
  | event e => exact e.elim
  | @next said s i q _ hasks ih =>
      have hq := contests_of_asks hasks
      have hclock : (s.answer q).2.clock = s.clock := by cases q <;> rfl
      refine ⟨hclock.trans ih.clock, ?_, ?_⟩
      · obtain ⟨state, hretains, hstate⟩ := ih.job
        have hkeeps := retains_answer_of_contests hq ih.clock hretains
        by_cases hrevoke : q = .broker (.revoke handle)
        · subst hrevoke
          cases hq with
          | revoke =>
              refine ⟨_, hkeeps.2 rfl, Or.inr ⟨?_, mem_asked_snoc.2 (Or.inr ⟨rfl, rfl⟩)⟩⟩
              rcases hstate with ⟨hlive, -⟩ | ⟨rfl, -⟩
              · rw [if_pos hlive]
              · rfl
        · refine ⟨state, hkeeps.1 hrevoke, ?_⟩
          have hsame : (none, .broker (.revoke handle)) ∈
              asked (I := calls) (said ++ [(i, ⟨q, (Backend.quietWorld.answer q s).1⟩)]) ↔
                (none, .broker (.revoke handle)) ∈ asked said :=
            mem_asked_snoc.trans (or_iff_left fun h => hrevoke h.2.symm)
          rwa [hsame]
      · intro hnil
        rw [accounts_snoc, finalWrites_append, List.append_eq_nil_iff] at hnil
        refine (find?_answer_of_contests hq ?_).trans (ih.record hnil.1)
        intro status htells
        have htold : (q.tells id (Backend.quietWorld.answer q s).1) = some (.wrote status) := htells
        simp [htold, finalWrites] at hnil

/-! ### What the contestants have learned -/

section Learned

variable [DecidableEq κ] (hwork : AtWork limit b id handle r₀)

include hwork

/-- A record that was found open is the record as it was. -/
theorem eq_of_found_open {record : Record}
    (hrun : RunOf Backend.quietWorld (contest limit id) b said s)
    (hget : (i, ⟨.store (.get id), .ok (some record)⟩) ∈ said) (hopen : record.isTerminal = false) :
    record = r₀ := by
  obtain ⟨before, later, rfl⟩ := List.append_of_mem hget
  obtain ⟨s₁, hbefore, -, hanswer⟩ := hrun.moment
  have hr : s₁.store.find? id = some record :=
    (Except.ok.inj hanswer).symm
  -- An open record is one that nobody has ended, and till then it is as it was.
  have hledger := ledger_of_run (run_of_quiet hbefore) id
  rw [hr] at hledger
  cases hledger with
  | present _ hagrees =>
      have hsame := (standing_of_run hwork hbefore).record (hagrees.of_open hopen).1
      rw [hr] at hsame
      exact Option.some.inj hsame

/-- Whoever has read the clock has read what it shows all the time. -/
theorem eq_of_read_clock {t : Instant}
    (hrun : RunOf Backend.quietWorld (contest limit id) b said s)
    (hnow : (i, ⟨.now, t⟩) ∈ said) : t = b.clock := by
  obtain ⟨before, later, rfl⟩ := List.append_of_mem hnow
  obtain ⟨s₁, hbefore, -, hanswer⟩ := hrun.moment
  have ht : t = s₁.clock := hanswer
  rw [ht, (standing_of_run hwork hbefore).clock]

/-- Whoever was told that the job is not at work was told so after the cancellation had it
stopped. -/
theorem revoked_of_dead {remote : RemoteState}
    (hrun : RunOf Backend.quietWorld (contest limit id) b
      (before ++ (i, ⟨.broker (.state handle), .ok remote⟩) :: later) s)
    (hdead : remote.isLive = false) : (none, .broker (.revoke handle)) ∈ asked before := by
  obtain ⟨s₁, hbefore, -, hanswer⟩ := hrun.moment
  have hstanding := standing_of_run hwork hbefore
  obtain ⟨state, hretains, hstate⟩ := hstanding.job
  have hremote : remote = state := by
    rw [← hstanding.clock] at hretains
    have hreply := hanswer.trans
      (hretains.answer_state (s₁.supply.handle s₁.handlesUsed))
    exact Except.ok.inj hreply
  rcases hstate with ⟨hlive, -⟩ | ⟨-, hasked⟩
  · rw [hremote, hlive] at hdead
    cases hdead
  · exact hasked

/-- A reconciliation that comes to write has seen the job revoked, and judges the record as it
was. -/
theorem of_asks_finishFrom {j : κ} {source : Status} {u : FinalUpdate}
    (hrun : RunOf Backend.quietWorld (contest limit id) b said s)
    (hasks : (reconcile limit id).Asks (historyOf (some j) said)
      (.store (.finishFrom id source u))) :
    source = r₀.status ∧ u.status = .failed ∧
      List.Sublist [(none, .broker (.revoke handle)), (some j, .broker (.state handle))]
        (asked said) := by
  cases asks_reconcile hasks with
  | dead hget hopen hhandle hstate hkind hended =>
      obtain rfl := eq_of_found_open hwork hrun (mem_historyOf.1 hget) hopen
      obtain rfl := Option.some.inj (hhandle.symm.trans hwork.handle_eq)
      refine ⟨rfl, rfl, ?_⟩
      obtain ⟨before, later, rfl⟩ := List.append_of_mem (mem_historyOf.1 hstate)
      have hrevoke := revoked_of_dead hwork hrun (Verdict.isLive_eq_false_of_fail hkind)
      rw [asked_append]
      exact (List.singleton_sublist.2 hrevoke).append
        (List.singleton_sublist.2 (mem_asked.2 ⟨_, List.mem_cons_self⟩))

/-- No reconciliation finds the task to be late. -/
theorem not_asks_finish {j : κ} {u : FinalUpdate}
    (hrun : RunOf Backend.quietWorld (contest limit id) b said s) :
    ¬ (reconcile limit id).Asks (historyOf (some j) said) (.store (.finish id u)) := by
  intro hasks
  cases asks_reconcile hasks with
  | late hget hopen hasked hreport hended =>
      obtain rfl := eq_of_found_open hwork hrun (mem_historyOf.1 hget) hopen
      obtain rfl := eq_of_read_clock hwork hrun (mem_historyOf.1 hasked)
      rw [FailureReport.ofLimit?_eq_none_iff.2 hwork.inTime] at hreport
      cases hreport
  | told _ _ hreported => cases hreported

/-- Whoever has ended the task is the cancellation, or a reconciliation that has seen the job
revoked. -/
theorem writer_cases {status : Status}
    (hrun : RunOf Backend.quietWorld (contest limit id) b said s)
    (hwrote : (i, .wrote status) ∈ accounts id said) :
    (∃ u, (none, ⟨.store (.finish id u), .ok .applied⟩) ∈ said) ∨
      ∃ j source u, List.Sublist
        [(none, .broker (.revoke handle)), (some j, .broker (.state handle)),
          (some j, .store (.finishFrom id source u))] (asked said) := by
  obtain ⟨x, hx, htells⟩ := mem_accounts.1 hwrote
  obtain ⟨before, later, rfl⟩ := List.append_of_mem hx
  obtain ⟨s₁, hbefore, hasks, -⟩ := hrun.moment
  obtain ⟨u, -, rfl | ⟨source, rfl⟩⟩ := tells_eq_wrote_iff.1 htells
  · cases i with
    | none => exact Or.inl ⟨u, hx⟩
    | some j => exact (not_asks_finish hwork hbefore hasks).elim
  · cases i with
    | none => cases contests_of_asks hasks
    | some j =>
        obtain ⟨-, -, hseen⟩ := of_asks_finishFrom hwork hbefore hasks
        refine Or.inr ⟨j, source, u, ?_⟩
        rw [asked_append]
        exact hseen.append (List.singleton_sublist.2 (mem_asked.2 ⟨_, List.mem_cons_self⟩))

/-! ### The three steps of the cancellation -/

/-- The cancellation finds the record as it was: nobody writes before the job was stopped. -/
theorem cancel_finds {reply : Except Store.Fault (Option Record)}
    (hrun : RunOf Backend.quietWorld (contest limit id) b
      (before ++ (none, ⟨.store (.get id), reply⟩) :: later) s) :
    reply = .ok (some r₀) := by
  obtain ⟨s₁, hbefore, hasks, hanswer⟩ := hrun.moment
  have hreply : reply = .ok (s₁.store.find? id) := hanswer
  -- Nobody ends the task without a call of the cancellation, and this is its first.
  have hsilent : ∀ x, (none, x) ∉ before := by
    intro x hx
    have hmem := mem_historyOf.2 hx
    rw [asks_get_cancel hasks] at hmem
    cases hmem
  have hnil : finalWrites (accounts id before) = [] := by
    rw [List.eq_nil_iff_forall_not_mem]
    rintro ⟨i, status⟩ hi
    rcases writer_cases hwork hbefore (mem_finalWrites.1 hi) with ⟨u, hu⟩ | ⟨j, source, u, hsub⟩
    · exact hsilent _ hu
    · obtain ⟨a, ha⟩ := mem_asked.1 (hsub.subset List.mem_cons_self)
      exact hsilent _ ha
  rw [hreply, (standing_of_run hwork hbefore).record hnil]

/-- The job that the cancellation has stopped was at work. -/
theorem cancel_revokes {reply : Except Broker.Fault Bool}
    (hrun : RunOf Backend.quietWorld (contest limit id) b
      (before ++ (none, ⟨.broker (.revoke handle), reply⟩) :: later) s) :
    reply = .ok true := by
  obtain ⟨s₁, hbefore, hasks, hanswer⟩ := hrun.moment
  have hstanding := standing_of_run hwork hbefore
  obtain ⟨state, hretains, hstate⟩ := hstanding.job
  rw [← hstanding.clock] at hretains
  have hreply : reply = .ok state.isLive := hanswer.trans
    (hretains.answer_revoke (s₁.supply.handle s₁.handlesUsed))
  rcases hstate with ⟨hlive, -⟩ | ⟨-, hasked⟩
  · rw [hreply, hlive]
  · -- It has asked for nothing but the record before.
    obtain ⟨a, ha⟩ := mem_asked.1 hasked
    have hmem := mem_historyOf.2 ha
    obtain ⟨record, hh⟩ := asks_revoke_cancel hasks
    simp [hh] at hmem

/-- Unless it was forestalled, the cancellation ends the task. -/
theorem cancel_finishes {endedAt : Instant} {w : Except Store.Fault Store.Outcome}
    (hrun : RunOf Backend.quietWorld (contest limit id) b
      (before ++ (none, ⟨.store (.finish id (cancellation endedAt)), w⟩) :: later) s)
    (hnot : ¬ Forestalled id handle
      (before ++ (none, ⟨.store (.finish id (cancellation endedAt)), w⟩) :: later)) :
    w = .ok .applied := by
  obtain ⟨s₁, hbefore, hasks, hanswer⟩ := hrun.moment
  have hw : w = .ok (s₁.store.modify id (·.finish (cancellation endedAt))).1 := hanswer
  have hnil : finalWrites (accounts id before) = [] := by
    rw [List.eq_nil_iff_forall_not_mem]
    rintro ⟨i, status⟩ hi
    rcases writer_cases hwork hbefore (mem_finalWrites.1 hi) with ⟨u, hu⟩ | ⟨j, source, u, hsub⟩
    · -- The cancellation itself writes only once.
      exact asks_finish_cancel hasks (mem_historyOf.2 hu)
    · refine hnot ⟨j, source, u, cancellation endedAt, ?_⟩
      rw [asked_append]
      exact hsub.append (List.singleton_sublist.2 (mem_asked.2 ⟨_, List.mem_cons_self⟩))
  have hr := (standing_of_run hwork hbefore).record hnil
  have hfinish : r₀.finish (cancellation endedAt) = .ok (r₀.ended (cancellation endedAt)) :=
    Record.finish_eq_ok_iff.2
      ⟨rfl, Status.canBecome_of_open hwork.isOpen (Or.inr rfl), rfl⟩
  rw [hw, Store.Memory.modify, hr]
  simp only [hfinish]

/-! ### The outcome -/

/-- A cancellation that was not forestalled succeeds. -/
theorem cancelled_of_not_forestalled {result : Except Fault Cancellation}
    (hrun : RunOf Backend.quietWorld (contest limit id) b said s)
    (hends : (cancel id).Ends (historyOf none said) result)
    (hnot : ¬ Forestalled id handle said) :
    result = .ok (.cancelled true) ∧ (none, .wrote .cancelled) ∈ accounts id said := by
  rcases ends_cancel hends with
    ⟨reply, hhistory, hclosed, -⟩ |
      ⟨record, acknowledged, front, endedAt, w, -, hfront, hhistory, rfl⟩
  · -- It has found an open record, so that this was not the end.
    have hget : (none, ⟨.store (.get id), reply⟩) ∈ said :=
      mem_historyOf.1 (by rw [hhistory]; exact List.mem_cons_self)
    obtain ⟨before, later, rfl⟩ := List.append_of_mem hget
    have hopen := hclosed r₀ (cancel_finds hwork hrun)
    rw [hwork.isOpen] at hopen
    cases hopen
  · have hget : (none, ⟨.store (.get id), .ok (some record)⟩) ∈ said :=
      mem_historyOf.1 (by rw [hhistory]; exact List.mem_cons_self)
    have hfinish : (none, ⟨.store (.finish id (cancellation endedAt)), w⟩) ∈ said :=
      mem_historyOf.1 (by rw [hhistory]; simp)
    have hrecord : record = r₀ := by
      obtain ⟨before, later, rfl⟩ := List.append_of_mem hget
      exact Option.some.inj (Except.ok.inj (cancel_finds hwork hrun))
    obtain rfl : w = .ok .applied := by
      obtain ⟨before, later, rfl⟩ := List.append_of_mem hfinish
      exact cancel_finishes hwork hrun hnot
    have hacknowledged : acknowledged = true := by
      rw [hrecord, hwork.handle_eq] at hfront
      rcases ends_revokeIfAny.1 hfront with ⟨hnone, -⟩ | ⟨k, reply, hk, rfl, rfl⟩
      · cases hnone
      · obtain rfl := Option.some.inj hk
        have hrevoke : (none, ⟨.broker (.revoke handle), reply⟩) ∈ said :=
          mem_historyOf.1 (by rw [hhistory]; simp)
        obtain ⟨before, later, rfl⟩ := List.append_of_mem hrevoke
        rw [cancel_revokes hwork hrun]
        rfl
    refine ⟨by rw [hacknowledged]; rfl, mem_accounts.2 ⟨_, hfinish, ?_⟩⟩
    exact tells_eq_wrote_iff.2 ⟨cancellation endedAt, rfl, Or.inl rfl⟩

/-- A cancellation that has succeeded was not forestalled. -/
theorem not_forestalled_of_cancelled {acknowledged : Bool}
    (hrun : RunOf Backend.quietWorld (contest limit id) b said s)
    (hends : (cancel id).Ends (historyOf none said) (.ok (.cancelled acknowledged))) :
    ¬ Forestalled id handle said := by
  rintro ⟨j, source, u, v, hsub⟩
  obtain ⟨before, a, later, rfl, -, hfinish⟩ :=
    sublist_asked_iff.1 ((List.sublist_cons_self _ _).trans hsub)
  obtain ⟨s₁, hbefore, hasks, hanswer⟩ := hrun.moment
  have ha : a = .ok (s₁.store.modify id (Store.Memory.finishAt source u)).1 := hanswer
  obtain ⟨rfl, hu, -⟩ := of_asks_finishFrom hwork hbefore hasks
  -- The one write that has ended the task is the later one.
  have hnil : finalWrites (accounts id
      (before ++ [(some j, ⟨.store (.finishFrom id r₀.status u), a⟩)])) = [] := by
    obtain ⟨w, hw⟩ := mem_asked.1 hfinish
    obtain ⟨rfl, -⟩ := applied_of_ends_cancelled hends
      (mem_historyOf.2 (List.mem_append_right _ (List.mem_cons_of_mem _ hw)))
    have hledger := ledger_of_run (run_of_quiet hrun) id
    rw [List.append_cons, accounts_append] at hledger
    exact hledger.finalWrites_eq_nil
      (mem_accounts.2 ⟨_, hw, tells_eq_wrote_iff.2 ⟨v, rfl, Or.inl rfl⟩⟩)
  rw [accounts_snoc, finalWrites_append, List.append_eq_nil_iff] at hnil
  have hr := (standing_of_run hwork hbefore).record hnil.1
  have hfails : Store.Memory.finishAt r₀.status u r₀ = .ok (r₀.ended u) := by
    refine Store.Memory.finishAt_eq_ok_iff.2 ⟨rfl, Record.finish_eq_ok_iff.2 ⟨?_, ?_, rfl⟩⟩
    · rw [hu]
      rfl
    · exact Status.canBecome_of_open hwork.isOpen (Or.inl hu)
  have happlied : a = .ok .applied := by
    rw [ha, Store.Memory.modify, hr]
    simp only [hfails]
  subst happlied
  simp [Call.tells, Account.ofOutcome, finalWrites] at hnil

/-- **The cancellation succeeds exactly if it was not forestalled**: given its four turns, it
reports that it has stopped the job and cancelled the task, and the task ends as cancelled and by no
reconciliation, exactly if no reconciliation has seen the job revoked and was first to write. -/
theorem cancelled_iff_not_forestalled {order : List (Option κ)} (hturns : 4 ≤ turns none order) :
    ((sideBySide (contest limit id) b (order.map .next)).result? none =
          some (.ok (.cancelled true)) ∧
        (∃ r, (sideBySide (contest limit id) b (order.map .next)).state.store.find? id = some r ∧
          r.status = .cancelled) ∧
        ∀ j status, (some j, status) ∉
          finalWrites (accounts id (sideBySide (contest limit id) b (order.map .next)).said)) ↔
      ¬ Forestalled id handle (sideBySide (contest limit id) b (order.map .next)).said := by
  have hrun := run_quietWorld (contest limit id) b order
  constructor
  · rintro ⟨hresult, -, -⟩
    exact not_forestalled_of_cancelled hwork hrun (Scene.ends_of_result? hresult)
  · intro hnot
    obtain ⟨result, hresult⟩ :=
      exists_result_of_turns (contest limit id) b (i := none) (asksAtMost_cancel id) hturns
    obtain ⟨rfl, hwrote⟩ :=
      cancelled_of_not_forestalled hwork hrun (Scene.ends_of_result? hresult) hnot
    obtain ⟨hone, hr⟩ := (ledger_of_run (run_of_quiet hrun) id).of_mem_wrote hwrote
    refine ⟨hresult, hr, ?_⟩
    intro j status hj
    have hmem : (some j, status) ∈ [(none, .cancelled)] := hone ▸ hj
    simp at hmem

end Learned

end Contest

/-! ### Two orders -/

/-- A backend in which one task has begun to run. -/
def underWay : Backend :=
  (Backend.perform (submit "report" .null >>= fun _ => markRunning ⟨⟨1⟩⟩) .vacant).2

/-- The record of that task. -/
def running : Record :=
  { Record.fresh ⟨⟨1⟩⟩ "report" .null .epoch with status := .running, handle := some ⟨"job"⟩ }

theorem atWork_underWay : AtWork ⟨none⟩ underWay ⟨⟨1⟩⟩ ⟨"job"⟩ running where
  record := rfl
  isOpen := rfl
  handle_eq := rfl
  inTime := rfl
  job := ⟨.pending, ⟨rfl, _, rfl, by decide, rfl⟩, rfl⟩

/-- The order in which a reconciliation begins when the cancellation is over. -/
def unhurried : List (Option Unit) := List.replicate 4 none ++ [some ()]

theorem cancelled_iff_not_forestalled_unhurried :
    AtWork ⟨none⟩ underWay ⟨⟨1⟩⟩ ⟨"job"⟩ running ∧ 4 ≤ turns none unhurried ∧
      ¬ Forestalled ⟨⟨1⟩⟩ ⟨"job"⟩
        (sideBySide (contest ⟨none⟩ ⟨⟨1⟩⟩) underWay (unhurried.map .next)).said := by
  refine ⟨atWork_underWay, by decide, ?_⟩
  refine (cancelled_iff_not_forestalled atWork_underWay (by decide)).1 ⟨rfl, ⟨_, rfl, rfl⟩, ?_⟩
  intro j status hj
  have hwrites : finalWrites (accounts ⟨⟨1⟩⟩
      (sideBySide (contest ⟨none⟩ ⟨⟨1⟩⟩) underWay (unhurried.map .next)).said) =
      [(none, .cancelled)] := rfl
  rw [hwrites] at hj
  simp at hj

/-- The order in which a reconciliation takes place between the stopping and the writing. -/
def hurried : List (Option Unit) := [none, none] ++ List.replicate 6 (some ()) ++ [none, none]

/-- **An order in which the cancelled task ends as failed**: the cancellation has had the job
stopped, and reports that the task had ended already. -/
theorem forestalled_task_fails :
    AtWork ⟨none⟩ underWay ⟨⟨1⟩⟩ ⟨"job"⟩ running ∧ 4 ≤ turns none hurried ∧
      (sideBySide (contest ⟨none⟩ ⟨⟨1⟩⟩) underWay (hurried.map .next)).result? none =
        some (.ok (.ended .failed)) ∧
      (sideBySide (contest ⟨none⟩ ⟨⟨1⟩⟩) underWay (hurried.map .next)).result? (some ()) =
        some (.ok (.failed .stoppedUnexpectedly)) ∧
      ∃ r, (sideBySide (contest ⟨none⟩ ⟨⟨1⟩⟩) underWay (hurried.map .next)).state.store.find?
        ⟨⟨1⟩⟩ = some r ∧ r.status = .failed :=
  ⟨atWork_underWay, by decide, rfl, rfl, _, rfl, rfl⟩

end Service

end TaskLedger
