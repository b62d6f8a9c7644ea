import TaskLedger.Proofs.Service.Staleness

/-!
**A job that starts while its failure is being written.**

When the job itself has reported its failure nobody asks the broker.  The record is read, the kind of
the failure is told from its stage, and the failure is written without regard to the stage that it was
told from.  So if the record was read as pending and is marked as running before the write, the write
takes place all the same, and a task that has started is said never to have got going.

This is the only way in which the failure that is written can be of the wrong kind, and it is written
whenever this happens.

Main definitions:

* `TaskLedger.Service.StartedMeanwhile` — a task was marked as running after a reconciliation had read
  its record and before it wrote.

Main results:

* `TaskLedger.Service.exists_markRunning_of_stretch` — nothing else makes a pending record run;
* `TaskLedger.Service.reported_failure_fits_iff` — **the failure fits the stage of the record exactly
  if no task that is said not to have started has started meanwhile**;
* `TaskLedger.Service.started_task_fails_to_start` — an order in which one has.
-/

set_option autoImplicit false

namespace TaskLedger

/-- What stands after one thing of a kind and before another stands between any two outside of which
there is nothing of the kind. -/
theorem mem_between {α : Type} (P : α → Prop) {first middle last before later : List α} {x y z : α}
    (heq : before ++ x :: later = first ++ y :: (middle ++ z :: last))
    (hbefore : ∃ p ∈ before, P p) (hlater : ∃ q ∈ later, P q) (hfirst : ∀ p ∈ first, ¬ P p)
    (hlast : ∀ q ∈ last, ¬ P q) : x ∈ middle := by
  obtain ⟨p, hp, hP⟩ := hbefore
  obtain ⟨q, hq, hQ⟩ := hlater
  rcases List.append_eq_append_iff.1 heq with ⟨front, rfl, -⟩ | ⟨front, rfl, hrest⟩
  · exact absurd hP (hfirst p (List.mem_append_left _ hp))
  cases front with
  | nil => exact absurd hP (hfirst p (by simpa using hp))
  | cons y' front =>
      obtain ⟨-, hrest⟩ := List.cons.inj hrest
      rcases List.append_eq_append_iff.1 hrest with ⟨back, -, hback⟩ | ⟨back, rfl, hback⟩
      · refine absurd hQ (hlast q ?_)
        cases back with
        | nil => exact (List.cons.inj hback).2 ▸ hq
        | cons z' back =>
            exact (List.cons.inj hback).2 ▸ List.mem_append_right _ (List.mem_cons_of_mem _ hq)
      · cases back with
        | nil => exact absurd hQ (hlast q ((List.cons.inj hback).2 ▸ hq))
        | cons x' back =>
            rw [(List.cons.inj hback).1]
            simp

namespace Service

open Dialogue

variable {limit : TimeLimit} {id : TaskId} {h : List (Exchange calls)}

/-! ### Starting -/

section Starting

variable {ι : Type}

/-- A task that was marked as running is running. -/
theorem running_of_markRunning {b : Backend}
    (hanswer : (.ok .applied : Except Store.Fault Store.Outcome) =
      (b.answer (.store (.markRunning id))).1) :
    ∃ r, (b.answer (.store (.markRunning id))).2.store.find? id = some r ∧ r.status = .running := by
  have happlied : .applied = (b.store.modify id (·.start)).1 := Except.ok.inj hanswer
  change ∃ r, (b.store.modify id (·.start)).2.find? id = some r ∧ r.status = .running
  rcases b.store.modify_cases id (·.start) with
    ⟨-, hmodify⟩ | ⟨r, e, -, -, hmodify⟩ | ⟨r, c, hr, hc, hmodify⟩
  · rw [hmodify] at happlied
    cases happlied
  · rw [hmodify] at happlied
    cases happlied
  · obtain ⟨-, -, rfl⟩ := Record.start_eq_ok_iff.1 hc
    have hid : r.id = id := Store.Memory.id_of_find? hr
    refine ⟨{ r with status := .running }, ?_, rfl⟩
    rw [hmodify, Store.Memory.find?_replace id (by simp [hid, hr])]
    exact if_pos hid

/-- A write that makes a record run that was not running marks the task as running. -/
theorem markRunning_of_writes {q : Store.Query} {change : Record → Except TaskError Record}
    {r r' : Record} (hq : q.Writes id change) (hc : change r = .ok r')
    (hrunning : r'.status = .running) (hnot : r.status ≠ .running) :
    q = .markRunning id ∧ r.start = .ok r' := by
  cases hq with
  | markRunning => exact ⟨rfl, hc⟩
  | setHandle =>
      obtain ⟨-, -, rfl⟩ := Record.assignHandle_eq_ok_iff.1 hc
      exact absurd hrunning hnot
  | appendLog =>
      obtain ⟨-, rfl⟩ := Record.appendLog_eq_ok_iff.1 hc
      exact absurd hrunning hnot
  | finish _ update =>
      obtain ⟨hterminal, -, rfl⟩ := Record.finish_eq_ok_iff.1 hc
      rw [show update.status = .running from hrunning] at hterminal
      cases hterminal
  | finishFrom _ _ update =>
      obtain ⟨hterminal, -, rfl⟩ :=
        Record.finish_eq_ok_iff.1 (Store.Memory.finishAt_eq_ok_iff.1 hc).2
      rw [show update.status = .running from hrunning] at hterminal
      cases hterminal

/-- **Nothing makes a pending record run but that the task is marked as running.** -/
theorem exists_markRunning_of_stretch {said : Said calls ι} {s t : Backend} {r r' : Record}
    (hs : Stretch Backend.world s said t) (hr : s.store.find? id = some r)
    (hnot : r.status ≠ .running) (hr' : t.store.find? id = some r')
    (hrunning : r'.status = .running) :
    ∃ i, (i, ⟨.store (.markRunning id), .ok .applied⟩) ∈ said := by
  induction hs generalizing r' with
  | refl =>
      obtain rfl : r = r' := Option.some.inj (hr.symm.trans hr')
      exact absurd hrunning hnot
  | event e _ ih =>
      refine ih ?_ hrunning
      rw [← Backend.store_happen _ e]
      exact hr'
  | @next said t j q hs ih =>
      obtain ⟨now, hnow, -⟩ := evolves_of_stretch hs id r hr
      by_cases halready : now.status = .running
      · obtain ⟨i, hi⟩ := ih hnow halready
        exact ⟨i, List.mem_append_left _ hi⟩
      · cases q with
        | broker | now | freshId =>
            exact absurd ((Option.some.inj (hnow.symm.trans hr')) ▸ hrunning) halready
        | store query =>
            -- It is the last question that has made the record run.
            have hmakes := t.store.makes_answer query id
            rw [hnow, show (Store.Memory.answer query t.store).2.find? id = some r' from hr']
              at hmakes
            cases hmakes with
            | same => exact absurd hrunning halready
            | changed hwrites hchange =>
                obtain ⟨rfl, hstart⟩ := markRunning_of_writes hwrites hchange hrunning halready
                refine ⟨j, List.mem_append_right _ (List.mem_singleton.2 ?_)⟩
                have hanswer : (t.answer (.store (.markRunning id))).1 = .ok .applied := by
                  change Except.ok (t.store.modify id (·.start)).1 = _
                  simp only [Store.Memory.modify, hnow, hstart]
                exact congrArg (fun a => (j, (⟨.store (.markRunning id), a⟩ : Exchange calls)))
                  hanswer.symm

/-- A running record that has not ended is running still. -/
theorem running_of_stretch {said : Said calls ι} {s t : Backend} {record r : Record}
    (hs : Stretch Backend.world s said t) (hrecord : s.store.find? id = some record)
    (hrunning : record.status = .running) (hr : t.store.find? id = some r)
    (hopen : r.isTerminal = false) : r.status = .running := by
  obtain ⟨last, hlast, hevolves⟩ := evolves_of_stretch hs id record hrecord
  obtain rfl : r = last := Option.some.inj (hr.symm.trans hlast)
  have hpath := hevolves.status_path
  rw [hrunning] at hpath
  rcases Status.eq_or_begun_of_path hpath hopen with hsame | ⟨hnot, -⟩
  · exact hsame
  · cases hnot

end Starting

/-! ### The course of a reported failure -/

/-- A failure that the job has reported is written as the fourth call, after the record was read and
the clock twice, and without regard to the stage of the record; its kind is told from the stage at
which the record was read. -/
theorem asks_finish_of_reported {text : String} {source : Option Status} {report : FailureReport}
    {endedAt : Instant} (hasks : (reconciliation limit id (some text)).Asks h
      (finishCall id source (report.toUpdate endedAt))) :
    source = none ∧ ∃ record asked time,
      h = [⟨.store (.get id), .ok (some record)⟩, ⟨.now, asked⟩, ⟨.now, time⟩] ∧
      (report.kind = .timedOut ∨ Verdict.ofReportedFailure record.status = .fail report.kind) := by
  generalize hcall : finishCall id source (report.toUpdate endedAt) = q at hasks
  have hidle : q.isIdle = false := by
    rw [← hcall]
    cases source <;> rfl
  simp only [reconciliation, reconcileWithFailure, examine, bind_def, bind_get, asks_ask] at hasks
  rcases hasks with ⟨-, rfl⟩ | ⟨reply, h', rfl, hasks⟩
  · cases hidle
  rcases reply with fault | _ | record
  · simp at hasks
  · simp at hasks
  simp only at hasks
  cases hopen : record.isTerminal with
  | true => simp [hopen] at hasks
  | false =>
      simp only [hopen, Bool.false_eq_true, if_false, bind_now, asks_ask] at hasks
      rcases hasks with ⟨-, rfl⟩ | ⟨asked, h₁, rfl, hasks⟩
      · cases hidle
      cases hlimit : FailureReport.ofLimit? limit record.createdAt asked with
      | some late =>
          simp only [hlimit] at hasks
          rcases asks_writeFailure hasks with ⟨-, rfl⟩ | ⟨time, rfl, rfl⟩
          · cases hidle
          · obtain ⟨hsource, hkind⟩ := finishCall_inj source none hcall
            exact ⟨hsource, record, asked, time, rfl,
              Or.inl (hkind.trans (kind_of_ofLimit? hlimit))⟩
      | none =>
          simp only [hlimit, judgeReported] at hasks
          cases hverdict : Verdict.ofReportedFailure record.status with
          | leave reason => simp [hverdict] at hasks
          | fail kind =>
              simp only [hverdict] at hasks
              rcases asks_writeFailure hasks with ⟨-, rfl⟩ | ⟨time, rfl, rfl⟩
              · cases hidle
              · obtain ⟨hsource, hkind⟩ := finishCall_inj source none hcall
                exact ⟨hsource, record, asked, time, rfl, Or.inr (hkind ▸ hverdict)⟩

/-- The kind of a failure that the job has reported. -/
theorem ofReportedFailure_eq_fail_iff {status : Status} {kind : FailureKind} :
    Verdict.ofReportedFailure status = .fail kind ↔
      (kind = .failedToStart ∧ status = .pending) ∨
        (kind = .stoppedUnexpectedly ∧ status = .running) := by
  cases status <;> cases kind <;> decide

/-- A reconciliation to which the job has reported its failure makes four calls at most. -/
theorem asksAtMost_reported (limit : TimeLimit) (id : TaskId) (text : String) :
    (reconciliation limit id (some text)).AsksAtMost 4 := by
  simp only [reconciliation, reconcileWithFailure, examine, bind_def, bind_get]
  refine .ask fun reply => ?_
  rcases reply with fault | _ | record
  · exact .done _ 3
  · exact .done _ 3
  · simp only
    split
    · exact .done _ 3
    · simp only [bind_now]
      refine .ask fun asked => ?_
      cases FailureReport.ofLimit? limit record.createdAt asked with
      | some report => exact asksAtMost_writeFailure id none report
      | none =>
          simp only [judgeReported]
          split
          · exact .done _ 2
          · exact asksAtMost_writeFailure id none _

/-! ### The stage of the record at the write -/

section Among

variable {κ : Type} [DecidableEq κ]

/-- A task was marked as running after a reconciliation had read its record and before it came to
write a failure. -/
def StartedMeanwhile (id : TaskId) (said : Said calls (Option κ)) : Prop :=
  ∃ (before : Said calls (Option κ)) (j : Option κ) (later : Said calls (Option κ)),
    said = before ++ (j, ⟨.store (.markRunning id), .ok .applied⟩) :: later ∧
      (none, .store (.get id)) ∈ asked before ∧
        ∃ update, (none, .store (.finish id update)) ∈ asked later

omit [DecidableEq κ] in
/-- A pending record that is open at the end of a stretch is running exactly if the task was marked as
running meanwhile. -/
theorem running_iff_of_stretch {said : Said calls (Option κ)} {s t : Backend} {record r : Record}
    (hs : Stretch Backend.world s said t) (hrecord : s.store.find? id = some record)
    (hpending : record.status = .pending) (hr : t.store.find? id = some r)
    (hopen : r.isTerminal = false) :
    r.status = .running ↔ ∃ j, (j, ⟨.store (.markRunning id), .ok .applied⟩) ∈ said := by
  constructor
  · intro hrunning
    exact exists_markRunning_of_stretch hs hrecord (by rw [hpending]; decide) hr hrunning
  · rintro ⟨j, hj⟩
    obtain ⟨before, later, rfl⟩ := List.append_of_mem hj
    obtain ⟨u, -, hanswer, hlater⟩ := hs.moment
    obtain ⟨r', hr', hrunning⟩ := running_of_markRunning hanswer
    exact running_of_stretch hlater hr' hrunning hr hopen

/-- Between a reading and a write that are the only ones of a reconciliation stands what happened
meanwhile. -/
theorem startedMeanwhile_iff {first between last : Said calls (Option κ)} {record : Record}
    {update : FinalUpdate} {w : Except Store.Fault Store.Outcome} (hfirst : historyOf none first = [])
    (hlast : historyOf none last = []) :
    StartedMeanwhile id (first ++ (none, ⟨.store (.get id), .ok (some record)⟩) ::
        (between ++ (none, ⟨.store (.finish id update), w⟩) :: last)) ↔
      ∃ j, (j, ⟨.store (.markRunning id), .ok .applied⟩) ∈ between := by
  have silent : ∀ {said : Said calls (Option κ)}, historyOf none said = [] →
      ∀ y ∈ said, ¬ y.1 = none := by
    rintro said hsaid ⟨j, x⟩ hy rfl
    have := mem_historyOf.2 hy
    simp [hsaid] at this
  constructor
  · rintro ⟨before, j, later, hsaid, hget, update', hfinish⟩
    obtain ⟨a, ha⟩ := mem_asked.1 hget
    obtain ⟨a', ha'⟩ := mem_asked.1 hfinish
    exact ⟨j, mem_between (·.1 = none) hsaid.symm ⟨_, ha, rfl⟩ ⟨_, ha', rfl⟩ (silent hfirst)
      (silent hlast)⟩
  · rintro ⟨j, hj⟩
    obtain ⟨front, back, rfl⟩ := List.append_of_mem hj
    refine ⟨first ++ (none, ⟨.store (.get id), .ok (some record)⟩) :: front, j,
      back ++ (none, ⟨.store (.finish id update), w⟩) :: last, by simp, ?_, update, ?_⟩
    · exact mem_asked.2 ⟨_, List.mem_append_right _ List.mem_cons_self⟩
    · exact mem_asked.2 ⟨_, List.mem_append_right _ List.mem_cons_self⟩

/-- What was said falls apart at the reading and at the write of a reconciliation to which the job has
reported its failure, and so do the states: between them the record that was read has become the one
that is written. -/
theorem exists_between {text : String} {others : κ → Operation} {b : Backend}
    {c : Scene calls (Amid Reconciled fun j => (others j).Result) Backend}
    {source : Option Status} {r : Record} {report : FailureReport} {endedAt : Instant}
    (hturn : FailingTurn limit id (some text) others b c source r report endedAt)
    {later : List (Move (Option κ) Incident)} {result : Reconciled}
    (hresult : ((c.step Backend.world (.next none)).play Backend.world later).result? none =
      some result) :
    ∃ (s t : Backend) (record : Record) (between : Said calls (Option κ)),
      Stretch Backend.world s between t ∧ s.store.find? id = some record ∧
      t.store.find? id = some r ∧
      (report.kind = .timedOut ∨ Verdict.ofReportedFailure record.status = .fail report.kind) ∧
      (StartedMeanwhile id ((c.step Backend.world (.next none)).play Backend.world later).said ↔
        ∃ j, (j, ⟨.store (.markRunning id), .ok .applied⟩) ∈ between) := by
  obtain ⟨rfl, record, asked, time, hhistory, hkind⟩ := asks_finish_of_reported hturn.asks
  have hends := ((hturn.reached.step (.next none)).play later).ends hresult
  obtain ⟨last, hlast⟩ :=
    Scene.said_prefix_play Backend.world (c.step Backend.world (.next none)) later
  rw [hturn.said] at hlast
  obtain ⟨first, between, hsaid, hfirst, -⟩ :=
    exists_split_of_historyOf (hhistory.trans (List.nil_append _).symm)
  -- The write was the fourth call and the last one.
  have hsilent : historyOf none last = [] := by
    have hlength := (asksAtMost_reported limit id text).length_le hends
    rw [← hlast, historyOf_append, historyOf_append, hhistory, historyOf_cons_self] at hlength
    simp only [List.length_append, List.length_cons, List.length_nil] at hlength
    exact List.eq_nil_of_length_eq_zero (by omega)
  have hs := hturn.reached.run.stretch
  rw [hsaid] at hs
  obtain ⟨u, -, hget, hbetween⟩ := hs.moment
  refine ⟨_, c.state, record, between, hbetween, (Except.ok.inj hget).symm, hturn.found, hkind, ?_⟩
  rw [← hlast, hsaid, List.append_assoc, List.append_assoc]
  exact startedMeanwhile_iff hfirst hsilent

/-- **The failure fits the stage of the record exactly if no task that is said not to have started has
started meanwhile.**  Whatever other operations and other users of the store do between the calls of a
reconciliation to which the job has reported its failure: a task that is said to have stopped was
running right before the write, and one that is said not to have started was pending, unless it was
marked as running after its record was read, and then it was running. -/
theorem reported_failure_fits_iff (limit : TimeLimit) (id : TaskId) (text : String)
    (others : κ → Operation) (b : Backend) (moves : List (Move (Option κ) Incident))
    (m m' : Store.Memory)
    (hchange : (m, m') ∈ storeChanges (Scene.turnsOf Backend.world none
      (Scene.start (reconciliationAmid limit id (some text) others) b) moves)) :
    let c := (Scene.start (reconciliationAmid limit id (some text) others) b).play Backend.world moves
    ∃ r kind detail endedAt, m.find? id = some r ∧
      m'.find? id = some (r.failedFor kind detail endedAt) ∧
      c.result? none = some (.ok (.failed kind)) ∧ kind ≠ .vanished ∧
      (kind.Fits r.status ↔ ¬ (kind = .failedToStart ∧ StartedMeanwhile id c.said)) := by
  intro c
  obtain ⟨c', later, source, r, report, endedAt, hturn, hplay, hr, hwritten⟩ :=
    exists_failingTurn hchange
  replace hplay : c = (c'.step Backend.world (.next none)).play Backend.world later := hplay
  have hresult : c.result? none = some (.ok (.failed report.kind)) :=
    result?_of_mem_storeChanges hchange hr hwritten
  refine ⟨r, report.kind, report.technicalDetail, endedAt, hr, hwritten, hresult, ?_⟩
  obtain ⟨s, t, record, between, hs, hrecord, hfound, hkind, hmeanwhile⟩ :=
    exists_between hturn (hplay ▸ hresult)
  rw [← hplay] at hmeanwhile
  rw [hmeanwhile]
  rcases hkind with hkind | hverdict
  · rw [hkind]
    exact ⟨nofun, fun _ h => absurd h.1 nofun, fun _ => trivial⟩
  · rcases ofReportedFailure_eq_fail_iff.1 hverdict with ⟨hkind, hpending⟩ | ⟨hkind, hrunning⟩
    · -- An open record that is not running is pending still.
      have hstarted := running_iff_of_stretch hs hrecord hpending hfound hturn.isOpen
      rw [hkind, ← hstarted]
      refine ⟨nofun, fun hfits hboth => ?_, fun hnot => ?_⟩
      · have hfits : r.status = .pending := hfits
        rw [hfits] at hboth
        cases hboth.2
      · rcases Status.isTerminal_eq_false_iff.1 hturn.isOpen with hpending | hrunning
        · exact hpending
        · exact absurd ⟨rfl, hrunning⟩ hnot
    · rw [hkind]
      exact ⟨nofun, fun _ h => absurd h.1 nofun,
        fun _ => running_of_stretch hs hrecord hrunning hfound hturn.isOpen⟩

end Among

/-! ### Two orders -/

/-- A backend to which one task was submitted. -/
def waiting : Backend := (Backend.perform (submit "report" .null) .vacant).2

/-- The reconciliation of a task whose job has reported its failure, and the job as it begins to
run. -/
abbrev reporting :
    Scene calls (Amid Reconciled fun _ : Unit => Except Store.Fault Store.Outcome) Backend :=
  Scene.start (reconciliationAmid ⟨none⟩ ⟨⟨1⟩⟩ (some "ValueError: bad input")
    fun _ : Unit => .call (.store (.markRunning ⟨⟨1⟩⟩))) waiting

/-- The order in which the job begins to run when all is over. -/
def startedLate : List (Move (Option Unit) Incident) :=
  List.replicate 4 (.next none) ++ [.next (some ())]

theorem reported_failure_fits_started_late :
    ∃ m m' r, (m, m') ∈ storeChanges (Scene.turnsOf Backend.world none reporting startedLate) ∧
      m.find? ⟨⟨1⟩⟩ = some r ∧ r.status = .pending ∧
      (reporting.play Backend.world startedLate).result? none = some (.ok (.failed .failedToStart)) ∧
      ¬ StartedMeanwhile ⟨⟨1⟩⟩ (reporting.play Backend.world startedLate).said := by
  obtain ⟨m, m', r, hchange, hfound, hpending, hdone⟩ : ∃ m m' r,
      (m, m') ∈ storeChanges (Scene.turnsOf Backend.world none reporting startedLate) ∧
        m.find? ⟨⟨1⟩⟩ = some r ∧ r.status = .pending ∧
        (reporting.play Backend.world startedLate).result? none =
          some (.ok (.failed .failedToStart)) :=
    ⟨_, _, _, List.mem_of_mem_head? rfl, rfl, rfl, rfl⟩
  obtain ⟨r', kind, _, _, hr', -, hresult, -, hfits⟩ :=
    reported_failure_fits_iff _ _ _ _ _ startedLate m m' hchange
  obtain rfl : r = r' := Option.some.inj (hfound.symm.trans hr')
  obtain rfl : FailureKind.failedToStart = kind := by
    simpa using hdone.symm.trans hresult
  exact ⟨m, m', r, hchange, hfound, hpending, hdone, fun h => hfits.1 hpending ⟨rfl, h⟩⟩

/-- The order in which the job begins to run right before the failure is written. -/
def startedInBetween : List (Move (Option Unit) Incident) :=
  List.replicate 3 (.next none) ++ [.next (some ()), .next none]

/-- **A task that has started is said to have failed to start.** -/
theorem started_task_fails_to_start :
    ∃ m m' r, (m, m') ∈
        storeChanges (Scene.turnsOf Backend.world none reporting startedInBetween) ∧
      m.find? ⟨⟨1⟩⟩ = some r ∧ r.status = .running ∧
      m'.find? ⟨⟨1⟩⟩ = some (r.failedFor .failedToStart
        "failure reported by worker: ValueError: bad input" .epoch) ∧
      (reporting.play Backend.world startedInBetween).result? none =
        some (.ok (.failed .failedToStart)) :=
  ⟨_, _, _, List.mem_of_mem_head? rfl, rfl, rfl, rfl, rfl⟩

end Service

end TaskLedger
