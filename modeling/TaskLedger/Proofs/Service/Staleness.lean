import TaskLedger.Proofs.Dialogue.Stretch
import TaskLedger.Proofs.Service.Diagnosis
import TaskLedger.Proofs.Service.Vanished

/-!
**Judgements that have grown stale.**

A reconciliation judges a record by what it has read, and asks the broker and the clock before it
writes.  Meanwhile the job may have begun to run, and then a task that has started would be said never
to have got going.

Where the broker was asked, the write is made only while the record is at the stage that was judged,
and if it has moved on the record is judged once more.  Once more is enough: the only stage that an
open record can move on to is the running one, and from there it can only end.

Main definitions:

* `TaskLedger.FailureKind.Fits` — the stage at which a task can fail in a way;
* `TaskLedger.Service.FailingTurn` — the turn at which a reconciliation has ended a record as failed;
* `TaskLedger.Service.Superseded` — the exchanges of a look at a record whose write was refused.

Main results:

* `TaskLedger.Service.exists_failingTurn` — every change that a reconciliation makes to the store is
  made at such a turn;
* `TaskLedger.Service.Superseded.moved` — what has become of a record whose write was refused;
* `TaskLedger.Service.terminal_of_lostRace` — after two refusals in a row the task has ended;
* `TaskLedger.Service.no_stale_failure` — **a failure that is written fits the stage of the record
  when it is written, and a race is lost only to the end of the task**.
-/

set_option autoImplicit false

namespace TaskLedger

/-- The stage at which a task can fail in a way: it has failed to start if it is pending, and it has
stopped or vanished if it is running.  Its time may be up at any stage. -/
def FailureKind.Fits : FailureKind → Status → Prop
  | .failedToStart, status => status = .pending
  | .stoppedUnexpectedly, status | .vanished, status => status = .running
  | .timedOut, _ => True

/-- An open stage is reached from itself, and the running one from the pending one. -/
theorem Status.eq_or_begun_of_path {status later : Status}
    (hpath : Relation.ReflTransGen Status.Edge status later) (hopen : later.isTerminal = false) :
    later = status ∨ status = .pending ∧ later = .running := by
  induction hpath with
  | refl => exact Or.inl rfl
  | tail _ hedge ih =>
      cases hedge with
      | begin =>
          rcases ih rfl with rfl | ⟨-, h⟩
          · exact Or.inr ⟨rfl, rfl⟩
          · cases h
      | failWaiting | cancelWaiting | complete | failRunning | cancelRunning => cases hopen

/-- The lines for the log tell the kinds of failures apart. -/
theorem FailureKind.logLine_inj {kind kind' : FailureKind} (h : kind.logLine = kind'.logLine) :
    kind = kind' := by
  revert h
  cases kind <;> cases kind' <;> decide

namespace Service

open Dialogue

variable {limit : TimeLimit} {id : TaskId} {reported : Option String} {h : List (Exchange calls)}

/-! ### The calls that end a record -/

/-- Calls that end a record as failed are the same only if the failures are. -/
theorem finishCall_inj (source source' : Option Status) {report report' : FailureReport}
    {endedAt endedAt' : Instant}
    (heq : finishCall id source (report.toUpdate endedAt) =
      finishCall id source' (report'.toUpdate endedAt')) :
    source = source' ∧ report.kind = report'.kind := by
  have hkind : report.toUpdate endedAt = report'.toUpdate endedAt' → report.kind = report'.kind :=
    fun h => FailureKind.logLine_inj (Option.some.inj (congrArg FinalUpdate.logMessage h))
  cases source with
  | none =>
      cases source' with
      | none => exact ⟨rfl, hkind (by simpa [finishCall] using heq)⟩
      | some stage' => simp [finishCall] at heq
  | some stage =>
      cases source' with
      | none => simp [finishCall] at heq
      | some stage' =>
          obtain ⟨rfl, hupdate⟩ : stage = stage' ∧ report.toUpdate endedAt =
              report'.toUpdate endedAt' := by simpa [finishCall] using heq
          exact ⟨rfl, hkind hupdate⟩

/-- A reconciliation looks about, or it ends the record as failed. -/
theorem LookAsks.idle_or_finish {q : Call} (hq : LookAsks limit id reported h q) :
    q.isIdle = true ∨ ∃ source report endedAt,
      q = finishCall id source (FailureReport.toUpdate report endedAt) := by
  cases hq with
  | get | now | state | detail => exact Or.inl rfl
  | late => exact Or.inr ⟨none, _, _, rfl⟩
  | told => exact Or.inr ⟨none, _, _, rfl⟩
  | dead => exact Or.inr ⟨some _, _, _, rfl⟩

/-- A reconciliation that asks the broker fails a task for its age, or for the state of its job, and
then only at the stage that was judged. -/
theorem LookAsks.timedOut_or_judged {source : Option Status} {report : FailureReport}
    {endedAt : Instant}
    (hq : LookAsks limit id none h (finishCall id source (report.toUpdate endedAt))) :
    report.kind = .timedOut ∨ ∃ status remote, source = some status ∧
      Verdict.of status remote = .fail report.kind := by
  generalize hcall : finishCall id source (report.toUpdate endedAt) = q at hq
  cases hq with
  | get | now | state | detail => cases source <;> simp [finishCall] at hcall
  | late _ _ _ hreport =>
      obtain ⟨-, hkind⟩ := finishCall_inj source none hcall
      exact Or.inl (hkind.trans (kind_of_ofLimit? hreport))
  | told _ _ hreported => cases hreported
  | @dead record _ remote _ _ _ _ _ _ _ hverdict =>
      obtain ⟨hsource, hkind⟩ := finishCall_inj source (some record.status) hcall
      exact Or.inr ⟨record.status, remote, hsource, hkind ▸ hverdict⟩

/-! ### The turn of the write -/

section Among

variable {κ : Type} [DecidableEq κ] {others : κ → Operation} {b : Backend}

/-- The turn at which a reconciliation has ended an open record as failed, after all that was said up
to it.  If a stage is given in the call, the record is at that stage. -/
structure FailingTurn (limit : TimeLimit) (id : TaskId) (reported : Option String)
    (others : κ → Operation) (b : Backend)
    (c : Scene calls (Amid Reconciled fun j => (others j).Result) Backend)
    (source : Option Status) (r : Record) (report : FailureReport) (endedAt : Instant) : Prop where
  reached : Scene.Reached Backend.world (reconciliationAmid limit id reported others) b c
  asks : (reconciliation limit id reported).Asks (historyOf none c.said)
    (finishCall id source (report.toUpdate endedAt))
  found : c.state.store.find? id = some r
  isOpen : r.isTerminal = false
  guarded : ∀ stage, source = some stage → r.status = stage
  said : (c.step Backend.world (.next none)).said = c.said ++
    [(none, ⟨finishCall id source (report.toUpdate endedAt),
      finishReply id _ (.ok .applied) source⟩)]
  written : (c.step Backend.world (.next none)).state.store =
    c.state.store.replace (r.failedFor report.kind report.technicalDetail endedAt)

/-- A turn that changes the store ends an open record as failed. -/
theorem failingTurn_of_change {c : Scene calls (Amid Reconciled fun j => (others j).Result) Backend}
    (hc : Scene.Reached Backend.world (reconciliationAmid limit id reported others) b c)
    (hchange : (c.step Backend.world (.next none)).state.store ≠ c.state.store) :
    ∃ source r report endedAt, FailingTurn limit id reported others b c source r report endedAt := by
  cases hrest : c.rest none with
  | done result => exact absurd (by rw [Scene.step_next_of_done hrest]) hchange
  | ask q next =>
      have hasks : (reconciliation limit id reported).Asks (historyOf none c.said) q :=
        ⟨next, hrest ▸ hc.leaves none⟩
      obtain ⟨hstate, -, -⟩ := Scene.step_next_of_ask (w := Backend.world) hrest
      rcases (asks_reconciliation hasks).idle_or_finish with
        hidle | ⟨source, report, endedAt, rfl⟩
      · refine absurd ?_ hchange
        rw [hstate]
        exact store_answer_of_isIdle hidle c.state
      · have hanswer := answer_finishCall c.state id (report.toUpdate endedAt) source
        have hsaid : (c.step Backend.world (.next none)).said = c.said ++
            [(none, ⟨finishCall id source (report.toUpdate endedAt),
              (c.state.answer (finishCall id source (report.toUpdate endedAt))).1⟩)] := by
          simp only [Scene.step, hrest]
          rfl
        change _ = (c.state.answer _).2 at hstate
        rw [hanswer] at hstate hsaid
        rw [hstate] at hchange
        -- Of the three ways that a conditional write may go, one changes the store.
        rcases c.state.store.modify_cases id (finishing (report.toUpdate endedAt) source) with
          ⟨-, hmodify⟩ | ⟨r, e, -, -, hmodify⟩ | ⟨r, r', hr, hr', hmodify⟩
        · exact absurd (by rw [hmodify]) hchange
        · exact absurd (by rw [hmodify]) hchange
        · have hfinish : r.finish (report.toUpdate endedAt) = .ok r' ∧
              ∀ stage, source = some stage → r.status = stage := by
            cases source with
            | none => exact ⟨hr', by simp⟩
            | some stage =>
                obtain ⟨hstage, hfinish⟩ := Store.Memory.finishAt_eq_ok_iff.1 hr'
                exact ⟨hfinish, fun _ h => Option.some.inj h ▸ hstage⟩
          obtain ⟨-, hedge, rfl⟩ := Record.finish_eq_ok_iff.1 hfinish.1
          rw [hmodify] at hstate hsaid
          exact ⟨source, r, report, endedAt,
            { reached := hc
              asks := hasks
              found := hr
              isOpen := Status.isTerminal_of_canBecome hedge
              guarded := hfinish.2
              said := hsaid
              written := congrArg Backend.store hstate }⟩

/-- **Every change that a reconciliation makes to the store is made at a failing turn**, from which
the play goes on. -/
theorem exists_failingTurn {moves : List (Move (Option κ) Incident)} {m m' : Store.Memory}
    (h : (m, m') ∈ storeChanges (Scene.turnsOf Backend.world none
      (Scene.start (reconciliationAmid limit id reported others) b) moves)) :
    ∃ c later source r report endedAt,
      FailingTurn limit id reported others b c source r report endedAt ∧
      (Scene.start (reconciliationAmid limit id reported others) b).play Backend.world moves =
        (c.step Backend.world (.next none)).play Backend.world later ∧
      m.find? id = some r ∧
      m'.find? id = some (r.failedFor report.kind report.technicalDetail endedAt) := by
  obtain ⟨hturn, hne⟩ := List.mem_filter.1 h
  obtain ⟨turn, hturn, hstores⟩ := List.mem_map.1 hturn
  obtain ⟨before, later, rfl, rfl⟩ := Scene.exists_of_mem_turnsOf hturn
  obtain ⟨rfl, rfl⟩ := Prod.mk.inj hstores
  have hreached := (Scene.reached_start Backend.world
    (reconciliationAmid limit id reported others) b).play before
  obtain ⟨source, r, report, endedAt, hfailing⟩ :=
    failingTurn_of_change hreached (Ne.symm (of_decide_eq_true hne))
  refine ⟨_, later, source, r, report, endedAt, hfailing, by simp [Scene.play], hfailing.found, ?_⟩
  have hid : r.id = id := Store.Memory.id_of_find? hfailing.found
  rw [hfailing.written,
    Store.Memory.find?_replace id (by simp [Record.failedFor, hid, hfailing.found])]
  exact if_pos hid

/-- A reconciliation that has changed the store reports the failure that it has written. -/
theorem result?_of_mem_storeChanges {moves : List (Move (Option κ) Incident)} {m m' : Store.Memory}
    {r : Record} {kind : FailureKind} {detail : String} {endedAt : Instant}
    (h : (m, m') ∈ storeChanges (Scene.turnsOf Backend.world none
      (Scene.start (reconciliationAmid limit id reported others) b) moves))
    (hr : m.find? id = some r) (hwritten : m'.find? id = some (r.failedFor kind detail endedAt)) :
    ((Scene.start (reconciliationAmid limit id reported others) b).play Backend.world
      moves).result? none = some (.ok (.failed kind)) := by
  have hstands : Stands limit id reported
      ((Scene.start (reconciliationAmid limit id reported others) b).play Backend.world moves)
      (storeChanges (Scene.turnsOf Backend.world none
        (Scene.start (reconciliationAmid limit id reported others) b) moves)) := stands_play moves
  generalize storeChanges _ = changes at h hstands
  cases hstands with
  | unwritten => cases h
  | @written r' report endedAt' m₁ m₁' hdone hwrite =>
      obtain ⟨rfl, rfl⟩ := Prod.mk.inj (List.mem_singleton.1 h)
      obtain rfl : r = r' := Option.some.inj (hr.symm.trans hwrite.found)
      -- The line at the end of the log tells the kind of the failure.
      have hlog : r.log ++ [kind.logLine] = r.log ++ [report.kind.logLine] :=
        congrArg Record.log (Option.some.inj (hwritten.symm.trans hwrite.written))
      have hkind : kind = report.kind :=
        FailureKind.logLine_inj (List.singleton_inj.1 (List.append_cancel_left hlog))
      simp only [Scene.result?, hdone, hkind]

end Among

/-! ### How a look at a record comes to nothing -/

/-- The course of the write of a failure. -/
theorem ends_writeFailure {source : Option Status} {report : FailureReport} {result : Reconciled}
    (hends : (writeFailure id source report).Ends h result) :
    ∃ endedAt w, h = [⟨.now, endedAt⟩, ⟨finishCall id source (report.toUpdate endedAt),
        finishReply id _ w source⟩] ∧ result = Finding.ofWrite report.kind w := by
  cases source with
  | none =>
      simp only [writeFailure, finishGuarded, bind_def, bind_now, bind_finish, ends_ask,
        ends_pure] at hends
      obtain ⟨endedAt, _, rfl, w, _, rfl, rfl, rfl⟩ := hends
      exact ⟨endedAt, w, rfl, rfl⟩
  | some stage =>
      simp only [writeFailure, finishGuarded, bind_def, bind_now, bind_finishFrom, ends_ask,
        ends_pure] at hends
      obtain ⟨endedAt, _, rfl, w, _, rfl, rfl, rfl⟩ := hends
      exact ⟨endedAt, w, rfl, rfl⟩

/-- Only a write that is refused loses a race. -/
theorem ofWrite_eq_lostRace {kind : FailureKind} {w : Except Store.Fault Store.Outcome}
    {current : Status} (hw : Finding.ofWrite kind w = .ok (.lostRace current)) :
    w = .ok (.rejected current) := by
  rcases w with fault | _ | stage | _ <;> simp_all [Finding.ofWrite]

/-- The exchanges of a look at a record that someone else was quicker to change: the record was read
as open, and at the end the write of a failure was refused.  If the write was to be made at one stage
only, that is the stage at which the record was read. -/
def Superseded (id : TaskId) (record : Record) (current : Status) (h : List (Exchange calls)) :
    Prop :=
  record.isTerminal = false ∧ ∃ front source report endedAt,
    (∀ stage, source = some stage → record.status = stage) ∧
      h = ⟨.store (.get id), .ok (some record)⟩ :: (front ++
        [⟨finishCall id source (FailureReport.toUpdate report endedAt),
          finishReply id _ (.ok (.rejected current)) source⟩])

theorem superseded_of_ends {record : Record} {current : Status} {report : FailureReport}
    {h' : List (Exchange calls)} (front : List (Exchange calls)) (source : Option Status)
    (hopen : record.isTerminal = false)
    (hsource : ∀ stage, source = some stage → record.status = stage)
    (hends : (writeFailure id source report).Ends h' (.ok (.lostRace current))) :
    Superseded id record current (⟨.store (.get id), .ok (some record)⟩ :: (front ++ h')) := by
  obtain ⟨endedAt, w, rfl, hw⟩ := ends_writeFailure hends
  obtain rfl := ofWrite_eq_lostRace hw.symm
  exact ⟨hopen, front ++ [⟨.now, endedAt⟩], source, report, endedAt, hsource, by simp⟩

/-- A look at a record that loses the race has those exchanges. -/
theorem ends_examine_lostRace {current : Status}
    (hends : (examine limit id reported).Ends h (.ok (.lostRace current))) :
    ∃ record, Superseded id record current h := by
  simp only [examine, bind_def, bind_get, ends_ask] at hends
  obtain ⟨reply, h', rfl, hends⟩ := hends
  rcases reply with fault | _ | record
  · simp [ends_pure] at hends
  · simp [ends_pure] at hends
  · simp only at hends
    cases hopen : record.isTerminal with
    | true => simp [hopen, ends_pure] at hends
    | false =>
        refine ⟨record, ?_⟩
        simp only [hopen, Bool.false_eq_true, if_false, bind_now, ends_ask] at hends
        obtain ⟨asked, h₁, rfl, hends⟩ := hends
        split at hends
        · exact superseded_of_ends [⟨.now, asked⟩] none hopen (by simp) hends
        · next text _ =>
            cases hverdict : Verdict.ofReportedFailure record.status with
            | leave reason => simp [judgeReported, hverdict, ends_pure] at hends
            | fail kind =>
                simp only [judgeReported, hverdict] at hends
                exact superseded_of_ends [⟨.now, asked⟩] none hopen (by simp) hends
        · simp [ends_pure] at hends
        · next handle _ _ =>
            simp only [judge, bind_def, bind_remoteState, ends_ask] at hends
            obtain ⟨reply, h₂, rfl, hends⟩ := hends
            rcases reply with fault | remote
            · simp [ends_pure] at hends
            · simp only at hends
              cases hverdict : Verdict.of record.status remote with
              | leave reason => simp [hverdict, ends_pure] at hends
              | fail kind =>
                  simp only [hverdict] at hends
                  obtain ⟨detail, h₃, h₄, rfl, -, hends⟩ := ends_bind.1 hends
                  exact superseded_of_ends
                    (⟨.now, asked⟩ :: ⟨.broker (.state handle), .ok remote⟩ :: h₃)
                    (some record.status) hopen (fun _ h => Option.some.inj h) hends

/-! ### Records between two moments -/

section Between

variable {ι : Type} [DecidableEq ι]

omit [DecidableEq ι] in
/-- No record is lost between two moments, and each evolves. -/
theorem evolves_of_stretch {said : Said calls ι} {s t : Backend}
    (h : Stretch Backend.world s said t) : s.store.Evolves t.store :=
  h.rel (R := fun s t => s.store.Evolves t.store) (fun s => .refl s.store)
    (fun hst htu => hst.trans htu) (fun q s => evolves_answer s q) fun e s => by
      change s.store.Evolves (s.happen e).store
      rw [Backend.store_happen]
      exact .refl s.store

/-- The write of a failure is refused by a record that has ended, and by one that is not at the stage
that was asked for. -/
theorem refused_of_rejected {b : Backend} {source : Option Status} {report : FailureReport}
    {endedAt : Instant} {current : Status}
    (hanswer : finishReply id _ (.ok (.rejected current)) source =
      (b.answer (finishCall id source (report.toUpdate endedAt))).1) :
    ∃ r, b.store.find? id = some r ∧ r.status = current ∧
      (current.isTerminal = true ∨ ∃ stage, source = some stage ∧ stage ≠ current) := by
  rw [answer_finishCall] at hanswer
  have hrejected : .rejected current =
      (b.store.modify id (finishing (report.toUpdate endedAt) source)).1 := by
    cases source <;> exact Except.ok.inj hanswer
  rcases b.store.modify_cases id (finishing (report.toUpdate endedAt) source) with
    ⟨-, hmodify⟩ | ⟨r, e, hr, herror, hmodify⟩ | ⟨r, r', -, -, hmodify⟩
  · rw [hmodify] at hrejected
    cases hrejected
  · rw [hmodify] at hrejected
    obtain rfl : current = r.status := by simpa using hrejected
    refine ⟨r, hr, rfl, ?_⟩
    by_contra hneither
    obtain ⟨hopen, hstage⟩ := not_or.1 hneither
    -- An open record at the stage that was asked for takes the write.
    have hfinish : r.finish (report.toUpdate endedAt) = .ok (r.ended (report.toUpdate endedAt)) :=
      Record.finish_eq_ok_iff.2
        ⟨rfl, Status.canBecome_of_open (Bool.not_eq_true _ ▸ hopen) (Or.inl rfl), rfl⟩
    have htakes : finishing (report.toUpdate endedAt) source r =
        .ok (r.ended (report.toUpdate endedAt)) := by
      cases source with
      | none => exact hfinish
      | some stage =>
          have hat : r.status = stage :=
            (Decidable.not_not.1 fun hne => hstage ⟨stage, rfl, hne⟩).symm
          exact Store.Memory.finishAt_eq_ok_iff.2 ⟨hat, hfinish⟩
    rw [htakes] at herror
    cases herror
  · rw [hmodify] at hrejected
    cases hrejected

/-- What has become of a record that someone else was quicker to change: it has ended, or it was
pending when it was read and running when it was to be written.  Before the look it was no further,
and after it no less far. -/
theorem Superseded.moved {said : Said calls ι} {s t : Backend} {i : ι} {record : Record}
    {current : Status} (hover : Superseded id record current (historyOf i said))
    (hs : Stretch Backend.world s said t) :
    (current.isTerminal = true ∨ record.status = .pending ∧ current = .running) ∧
      (∃ u : Backend, s.store.Evolves u.store ∧ u.store.find? id = some record) ∧
        ∃ r, t.store.find? id = some r ∧ Relation.ReflTransGen Status.Edge current r.status := by
  obtain ⟨hopen, front, source, report, endedAt, hsource, hhistory⟩ := hover
  -- First comes the reading, and what follows it splits at the write.
  obtain ⟨before, rest, rfl, -, hrest⟩ := exists_split_of_historyOf (hhistory.trans
    (List.nil_append _).symm)
  obtain ⟨u, hbefore, hget, hafter⟩ := hs.moment
  obtain ⟨between, later, rfl, -, -⟩ := exists_split_of_historyOf hrest
  obtain ⟨v, hbetween, hwrite, hlater⟩ := hafter.moment
  have hfound : u.store.find? id = some record := (Except.ok.inj hget).symm
  obtain ⟨r, hr, rfl, hrefused⟩ := refused_of_rejected hwrite
  obtain ⟨r', hr', hevolves⟩ := evolves_of_stretch hbetween id record hfound
  obtain rfl : r = r' := Option.some.inj (hr.symm.trans hr')
  obtain ⟨last, hlast, hfinal⟩ :=
    ((evolves_answer v (finishCall id source (report.toUpdate endedAt))).trans
      (evolves_of_stretch hlater)) id r hr
  refine ⟨?_, ⟨u, evolves_of_stretch hbefore, hfound⟩, last, hlast, hfinal.status_path⟩
  rcases hrefused with hterminal | ⟨stage, hstage, hne⟩
  · exact Or.inl hterminal
  · cases hcurrent : r.status.isTerminal with
    | true => exact Or.inl rfl
    | false =>
        rcases Status.eq_or_begun_of_path hevolves.status_path hcurrent with hsame | hbegun
        · exact absurd ((hsource stage hstage).symm.trans hsame.symm) hne
        · exact Or.inr hbegun

end Between

/-! ### Reconciling by asking the broker -/

section Asking

variable {κ : Type} [DecidableEq κ]

/-- A failure that is written after the broker was asked fits the stage of the record. -/
theorem FailingTurn.fits {others : κ → Operation} {b : Backend}
    {c : Scene calls (Amid Reconciled fun j => (others j).Result) Backend}
    {source : Option Status} {r : Record} {report : FailureReport} {endedAt : Instant}
    (hturn : FailingTurn limit id none others b c source r report endedAt) :
    report.kind.Fits r.status := by
  rcases (asks_reconciliation hturn.asks).timedOut_or_judged with
    hkind | ⟨status, remote, hsource, hverdict⟩
  · rw [hkind]
    exact trivial
  · rw [hturn.guarded status hsource]
    rcases Verdict.of_eq_fail_iff.1 hverdict with
      ⟨hkind, hstatus, -⟩ | ⟨hkind, hstatus, -⟩ | ⟨hkind, hstatus, -⟩ <;>
    · rw [hkind, hstatus]
      rfl

/-- A reconciliation loses the race to the end of the task, or in both of its looks. -/
theorem ends_reconcile_lostRace {current : Status}
    (hends : (reconcile limit id).Ends h (.ok (.lostRace current))) :
    current.isTerminal = true ∨ ∃ first record record' h₁ h₂, h = h₁ ++ h₂ ∧
      first.isTerminal = false ∧ Superseded id record first h₁ ∧
        Superseded id record' current h₂ := by
  simp only [reconcile, bind_def] at hends
  obtain ⟨result, h₁, h₂, rfl, hfirst, hends⟩ := ends_bind.1 hends
  split at hends
  · next first =>
      split at hends
      · next hterminal =>
          obtain ⟨-, hresult⟩ := ends_pure.1 hends
          cases hresult
          exact Or.inl hterminal
      · next hopen =>
          obtain ⟨record, hrecord⟩ := ends_examine_lostRace hfirst
          obtain ⟨record', hrecord'⟩ := ends_examine_lostRace hends
          exact Or.inr ⟨first, record, record', h₁, h₂, rfl, Bool.not_eq_true _ ▸ hopen, hrecord,
            hrecord'⟩
  · next hnot =>
      obtain ⟨-, rfl⟩ := ends_pure.1 hends
      exact absurd rfl (hnot current)

/-- A race is lost only to the end of the task. -/
theorem terminal_of_lostRace {ι : Type} [DecidableEq ι] {said : Said calls ι} {s t : Backend} {i : ι}
    {current : Status} (hs : Stretch Backend.world s said t)
    (hends : (reconcile limit id).Ends (historyOf i said) (.ok (.lostRace current))) :
    current.isTerminal = true := by
  rcases ends_reconcile_lostRace hends with
    hterminal | ⟨first, record, record', h₁, h₂, hhistory, hopen, hfirst, hsecond⟩
  · exact hterminal
  -- After the first look the record is running, and so it is read in the second.
  · obtain ⟨before, later, rfl, rfl, rfl⟩ := exists_append_of_historyOf hhistory
    obtain ⟨u, hbefore, hlater⟩ := hs.split
    obtain ⟨hmoved, -, r, hr, hpath⟩ := hfirst.moved hbefore
    obtain ⟨hmoved', ⟨v, huv, hv⟩, -⟩ := hsecond.moved hlater
    rcases hmoved' with hterminal | ⟨hpending, -⟩
    · exact hterminal
    · rcases hmoved with hended | ⟨-, rfl⟩
      · rw [hopen] at hended
        cases hended
      · obtain ⟨r', hr', hevolves⟩ := huv id r hr
        obtain rfl : record' = r' := Option.some.inj (hv.symm.trans hr')
        rcases Status.eq_or_begun_of_path (hpath.trans hevolves.status_path) hsecond.1 with
          hsame | ⟨hfirst, -⟩
        · rw [hsame] at hpending
          cases hpending
        · cases hfirst

/-- **No stale judgement is written, and one more look is enough.**  Whatever other operations and
other users of the store do between the calls of a reconciliation, and however the clock and the
broker change: a failure that it writes fits the stage of the record right before the write, and the
stage to which it reports to have lost the race is a terminal one. -/
theorem no_stale_failure (limit : TimeLimit) (id : TaskId) (others : κ → Operation) (b : Backend)
    (moves : List (Move (Option κ) Incident)) :
    let start := Scene.start (reconciliationAmid limit id none others) b
    let c := start.play Backend.world moves
    (∀ m m', (m, m') ∈ storeChanges (Scene.turnsOf Backend.world none start moves) →
      ∃ r kind detail endedAt, m.find? id = some r ∧
        m'.find? id = some (r.failedFor kind detail endedAt) ∧
        c.result? none = some (.ok (.failed kind)) ∧ kind.Fits r.status) ∧
    ∀ current, c.result? none = some (.ok (.lostRace current)) → current.isTerminal = true := by
  intro start c
  refine ⟨fun m m' hchange => ?_, fun current hresult => ?_⟩
  · obtain ⟨_, _, _, r, report, endedAt, hturn, -, hr, hwritten⟩ := exists_failingTurn hchange
    exact ⟨r, report.kind, report.technicalDetail, endedAt, hr, hwritten,
      result?_of_mem_storeChanges hchange hr hwritten, hturn.fits⟩
  · have hends : (reconciliationAmid limit id none others none).Ends (historyOf none c.said)
        (.ok (.lostRace current)) := Scene.ends_of_result? hresult
    exact terminal_of_lostRace (Scene.run_play _ _ _ _).stretch hends

end Asking

end Service

end TaskLedger
