import Mathlib.Data.List.Induction
import TaskLedger.Proofs.Dialogue.Turns
import TaskLedger.Proofs.Service.FinalWrite

/-!
**Reconciling writes nothing but one failure.**

A reconciliation looks at a record, at the clock and at the broker, and it may end the record as
failed.  Whatever others do between its calls, and on whichever way it comes to its end, it changes
the store exactly if it reports a failure, and then by one write: an open record fails for the reason
that the reconciliation has found, at the time that it has read just before, and nothing else in the
store is touched.

What is left of a reconciliation at any moment tells what it may still do.  This is described by a
predicate on dialogues that each part of the reconciliation satisfies, and that each turn preserves
until the failure is written; after that nothing is left.

Main definitions:

* `TaskLedger.Service.OnlyFails` — a dialogue that looks about and may write one failure at its end;
* `TaskLedger.Service.reconciliation` — the two ways of reconciling a record;
* `TaskLedger.Service.storeChanges` — the stores before and after those turns that have changed it;
* `TaskLedger.Service.FailureWrite` — a write that has ended an open record as failed.

Main results:

* `TaskLedger.Service.onlyFails_reconciliation` — reconciling is such a dialogue;
* `TaskLedger.Service.changed_iff_failed` — **a reconciliation changes the store exactly if it
  reports a failure, and then by one write of it**.
-/

set_option autoImplicit false

namespace TaskLedger

instance : DecidableEq Store.Memory := fun m m' =>
  decidable_of_iff (m.records = m'.records) <| by
    cases m
    cases m'
    simp

namespace Service

/-! ### What may be left of a reconciliation -/

/-- Whether a call leaves every record as it is, whatever the reply. -/
def Call.isIdle : Call → Bool
  | .store (.get _) | .store .listOpen | .store .counts | .broker _ | .now | .freshId => true
  | .store (.insert _) | .store (.setHandle _ _) | .store (.markRunning _)
  | .store (.appendLog _ _) | .store (.finish _ _) | .store (.finishFrom _ _ _) => false

theorem store_answer_of_isIdle {q : Call} (hq : q.isIdle = true) (b : Backend) :
    (b.answer q).2.store = b.store := by
  cases q with
  | store query => cases query <;> first | rfl | cases hq
  | broker | now | freshId => rfl

/-- The reply to the call that ends a task, with or without a stage. -/
def finishReply (id : TaskId) (update : FinalUpdate) (w : Except Store.Fault Store.Outcome) :
    (source : Option Status) → (finishCall id source update).Reply
  | some _ => w
  | none => w

/-- The operation on records that stands behind such a call. -/
def finishing (update : FinalUpdate) : Option Status → Record → Except TaskError Record
  | some stage => Store.Memory.finishAt stage update
  | none => (·.finish update)

theorem answer_finishCall (b : Backend) (id : TaskId) (update : FinalUpdate)
    (source : Option Status) :
    b.answer (finishCall id source update) =
      (finishReply id update (.ok (b.store.modify id (finishing update source)).1) source,
        { b with store := (b.store.modify id (finishing update source)).2 }) := by
  cases source <;> rfl

theorem tells_finishReply (id : TaskId) (update : FinalUpdate)
    (w : Except Store.Fault Store.Outcome) (source : Option Status) :
    (finishCall id source update).tells id (finishReply id update w source) =
      Account.ofOutcome (some (.wrote update.status)) w := by
  cases source <;> simp [finishCall, finishReply, Call.tells]

/-- A dialogue about a task that looks about, and that may end its record as failed.  The failure is
written right after the time was read, and if the write is applied it is reported, and nothing more is
done.  The instant is what the last call has read from the clock, if that was what it did. -/
inductive OnlyFails (id : TaskId) : Option Instant → Action Reconciled → Prop
  | done {time? : Option Instant} {r : Reconciled} :
      (∀ kind, r ≠ .ok (.failed kind)) → OnlyFails id time? (.done r)
  | now {time? : Option Instant} {next : Instant → Action Reconciled} :
      (∀ time, OnlyFails id (some time) (next time)) →
      OnlyFails id time? (.ask (I := calls) .now next)
  | look {time? : Option Instant} {q : Call} {next : q.Reply → Action Reconciled} :
      q.isIdle = true → q ≠ .now → (∀ a, OnlyFails id none (next a)) →
      OnlyFails id time? (.ask (I := calls) q next)
  | write {endedAt : Instant} {source : Option Status} {report : FailureReport}
      {next : (finishCall id source (report.toUpdate endedAt)).Reply → Action Reconciled} :
      next (finishReply id _ (.ok .applied) source) = .done (.ok (.failed report.kind)) →
      (∀ w, w ≠ .ok .applied → OnlyFails id none (next (finishReply id _ w source))) →
      OnlyFails id (some endedAt)
        (.ask (I := calls) (finishCall id source (report.toUpdate endedAt)) next)

namespace OnlyFails

open Dialogue

variable {id : TaskId} {time? : Option Instant}

/-- Such a dialogue followed by another one, unless the failure is written. -/
theorem bind {d : Action Reconciled} {f : Reconciled → Action Reconciled}
    (hd : OnlyFails id time? d) (hfailed : ∀ kind, f (.ok (.failed kind)) = .done (.ok (.failed kind)))
    (hf : ∀ r, (∀ kind, r ≠ .ok (.failed kind)) → ∀ time?, OnlyFails id time? (f r)) :
    OnlyFails id time? (Dialogue.bind d f) := by
  induction hd with
  | done hr => exact hf _ hr _
  | now _ ih => exact .now ih
  | look hidle hne _ ih => exact .look hidle hne ih
  | write happlied _ ih =>
      refine .write ?_ ih
      rw [happlied, Dialogue.bind_done, hfailed]

theorem writeFailure (source : Option Status) (report : FailureReport) :
    OnlyFails id time? (writeFailure id source report) := by
  have hreport : ∀ w : Except Store.Fault Store.Outcome, w ≠ .ok .applied →
      ∀ kind, Finding.ofWrite report.kind w ≠ .ok (.failed kind) := by
    rintro (fault | _ | current | _) hw kind hkind
    · cases hkind
    · exact hw rfl
    · cases hkind
    · cases hkind
  cases source with
  | none =>
      exact .now fun endedAt =>
        @OnlyFails.write id endedAt none report _ rfl fun w hw => .done (hreport w hw)
  | some stage =>
      exact .now fun endedAt =>
        @OnlyFails.write id endedAt (some stage) report _ rfl fun w hw => .done (hreport w hw)

theorem judge (status : Status) (handle : Handle) : OnlyFails id time? (judge id status handle) := by
  simp only [Service.judge, bind_def, bind_remoteState]
  refine .look rfl (by simp) fun reply => ?_
  rcases reply with fault | remote
  · exact .done (by simp)
  · simp only
    split
    · exact .done (by simp)
    · -- The detail is asked for or not, and then the failure is written.
      simp only [evidence]
      split
      · simp only [bind_def, bind_failureDetail, bind_ask]
        refine .look rfl (by simp) fun reply => ?_
        rcases reply with fault | detail <;> exact writeFailure _ _
      · exact writeFailure _ _

theorem judgeReported (status : Status) (detail : String) :
    OnlyFails id time? (judgeReported id status detail) := by
  unfold Service.judgeReported
  split
  · exact .done (by simp)
  · exact writeFailure _ _

theorem examine (limit : TimeLimit) (reported : Option String) :
    OnlyFails id time? (examine limit id reported) := by
  simp only [Service.examine, bind_def, bind_get, bind_now]
  refine .look rfl (by simp) fun reply => ?_
  rcases reply with fault | _ | record
  · exact .done (by simp)
  · exact .done (by simp)
  · simp only
    split
    · exact .done (by simp)
    · refine .now fun asked => ?_
      split
      · exact writeFailure _ _
      · exact judgeReported _ _
      · exact .done (by simp)
      · exact judge _ _

end OnlyFails

/-- The two ways of reconciling a record: by asking the broker, and when the job has reported its own
failure. -/
def reconciliation (limit : TimeLimit) (id : TaskId) : Option String → Action Reconciled
  | none => reconcile limit id
  | some detail => reconcileWithFailure limit id detail

/-- Both ways of reconciling look about and may write one failure at their end. -/
theorem onlyFails_reconciliation (limit : TimeLimit) (id : TaskId) (reported : Option String)
    (time? : Option Instant) : OnlyFails id time? (reconciliation limit id reported) := by
  cases reported with
  | some detail => exact .examine limit (some detail)
  | none =>
      refine (OnlyFails.examine limit none).bind (fun _ => rfl) fun r hr _ => ?_
      split
      · split
        · exact .done (by simp)
        · exact .examine limit none
      · exact .done hr

theorem asks_reconciliation {limit : TimeLimit} {id : TaskId} {reported : Option String}
    {h : List (Exchange calls)} {q : Call} (hasks : (reconciliation limit id reported).Asks h q) :
    LookAsks limit id reported h q := by
  cases reported with
  | none => exact asks_reconcile hasks
  | some detail => exact asks_examine hasks

/-! ### The write -/

/-- The stores before and after those turns that have changed the store. -/
def storeChanges (turns : List (Backend × Backend)) : List (Store.Memory × Store.Memory) :=
  (turns.map fun t => (t.1.store, t.2.store)).filter fun m => m.1 ≠ m.2

theorem storeChanges_append (turns more : List (Backend × Backend)) :
    storeChanges (turns ++ more) = storeChanges turns ++ storeChanges more := by
  simp [storeChanges]

/-- A write that has ended an open record as failed.  It was the last exchange of a reconciliation,
made for a reason that the exchanges before it have given, and it says what the report says, at the
time that was read just before. -/
structure FailureWrite (limit : TimeLimit) (id : TaskId) (reported : Option String)
    (h : List (Exchange calls)) (r : Record) (report : FailureReport) (endedAt : Instant)
    (m m' : Store.Memory) : Prop where
  found : m.find? id = some r
  wasOpen : r.status = .pending ∨ r.status = .running
  written : m'.find? id = some
    { r with
      status := .failed
      completedAt := some endedAt
      errorMessage := some report.kind.userMessage
      technicalDetail := some report.technicalDetail
      log := r.log ++ [report.kind.logLine] }
  others : ∀ k, k ≠ id → m'.find? k = m.find? k
  grounds : ∃ front source write,
    h = front ++ [⟨.now, endedAt⟩, write] ∧
      write.question = finishCall id source (report.toUpdate endedAt) ∧
      write.question.tells id write.answer = some (.wrote .failed) ∧
      LookAsks limit id reported (front ++ [⟨.now, endedAt⟩]) write.question

/-- What a failure makes of a record. -/
theorem ended_toUpdate (r : Record) (report : FailureReport) (endedAt : Instant) :
    r.ended (report.toUpdate endedAt) =
      { r with
        status := .failed
        completedAt := some endedAt
        errorMessage := some report.kind.userMessage
        technicalDetail := some report.technicalDetail
        log := r.log ++ [report.kind.logLine] } := rfl

/-- A write that ends a task as failed is applied to an open record, or changes nothing. -/
theorem modify_finishing_cases (m : Store.Memory) (id : TaskId) (source : Option Status)
    (report : FailureReport) (endedAt : Instant) :
    (∃ r, m.find? id = some r ∧ r.isTerminal = false ∧
        m.modify id (finishing (report.toUpdate endedAt) source) =
          (.applied, m.replace (r.ended (report.toUpdate endedAt)))) ∨
      ∃ o, o ≠ .applied ∧ m.modify id (finishing (report.toUpdate endedAt) source) = (o, m) := by
  have hfinish : ∀ {r c}, finishing (report.toUpdate endedAt) source r = .ok c →
      r.finish (report.toUpdate endedAt) = .ok c := by
    cases source with
    | none => exact fun h => h
    | some stage => exact fun h => (Store.Memory.finishAt_eq_ok_iff.1 h).2
  rcases m.modify_cases id (finishing (report.toUpdate endedAt) source) with
    ⟨-, h⟩ | ⟨r, e, -, -, h⟩ | ⟨r, c, hr, hc, h⟩
  · exact Or.inr ⟨.notFound, by simp, h⟩
  · exact Or.inr ⟨.rejected r.status, by simp, h⟩
  · obtain ⟨-, hedge, rfl⟩ := Record.finish_eq_ok_iff.1 (hfinish hc)
    refine Or.inl ⟨r, hr, ?_, h⟩
    -- No edge leaves a terminal stage.
    rw [← Bool.not_eq_true]
    intro hterminal
    rw [Status.not_canBecome_of_terminal hterminal] at hedge
    cases hedge

/-- The view of a store in which an open record has failed. -/
theorem FailureWrite.of_replace {limit : TimeLimit} {id : TaskId} {reported : Option String}
    {h : List (Exchange calls)} {r : Record} {report : FailureReport} {endedAt : Instant}
    {m : Store.Memory} (hr : m.find? id = some r) (hopen : r.isTerminal = false)
    (hgrounds : ∃ front source write,
      h = front ++ [⟨.now, endedAt⟩, write] ∧
        write.question = finishCall id source (report.toUpdate endedAt) ∧
        write.question.tells id write.answer = some (.wrote .failed) ∧
        LookAsks limit id reported (front ++ [⟨.now, endedAt⟩]) write.question) :
    FailureWrite limit id reported h r report endedAt m
      (m.replace (r.ended (report.toUpdate endedAt))) := by
  have hid : r.id = id := Store.Memory.id_of_find? hr
  have hended : (r.ended (report.toUpdate endedAt)).id = id := hid
  have hview : ∀ k, (m.replace (r.ended (report.toUpdate endedAt))).find? k =
      if id = k then some (r.ended (report.toUpdate endedAt)) else m.find? k := by
    intro k
    rw [Store.Memory.find?_replace k (by rw [hended, hr]; exact Option.some_ne_none r), hended]
  exact
    { found := hr
      wasOpen := Status.isTerminal_eq_false_iff.1 hopen
      written := by rw [hview, if_pos rfl, ended_toUpdate]
      others := fun k hk => by rw [hview, if_neg (Ne.symm hk)]
      grounds := hgrounds }

/-- A write that has ended a record has changed the store. -/
theorem FailureWrite.ne {limit : TimeLimit} {id : TaskId} {reported : Option String}
    {h : List (Exchange calls)} {r : Record} {report : FailureReport} {endedAt : Instant}
    {m m' : Store.Memory} (hw : FailureWrite limit id reported h r report endedAt m m') : m ≠ m' := by
  rintro rfl
  have hstatus := congrArg Record.status (Option.some.inj (hw.found.symm.trans hw.written))
  rcases hw.wasOpen with hopen | hopen
  · rw [hopen] at hstatus
    cases hstatus
  · rw [hopen] at hstatus
    cases hstatus

/-! ### A reconciliation among others -/

section Among

variable {κ : Type} [DecidableEq κ] {limit : TimeLimit} {id : TaskId} {reported : Option String}
  {others : κ → Operation} {b : Backend}

/-- A reconciliation, and other operations beside it. -/
abbrev reconciliationAmid (limit : TimeLimit) (id : TaskId) (reported : Option String)
    (others : κ → Operation) (i : Option κ) :
    Action (Amid Reconciled (fun j => (others j).Result) i) :=
  amid (reconciliation limit id reported) (fun j => (others j).action) i

/-- How far a reconciliation has come, and the changes of the store that it has made: it has written
nothing yet and may do so, or it has written a failure and reports it. -/
inductive Stands (limit : TimeLimit) (id : TaskId) (reported : Option String)
    (c : Scene calls (Amid Reconciled fun j => (others j).Result) Backend) :
    List (Store.Memory × Store.Memory) → Prop
  | unwritten : OnlyFails id (lastReading? (historyOf none c.said)) (c.rest none) →
      Stands limit id reported c []
  | written {r : Record} {report : FailureReport} {endedAt : Instant} {m m' : Store.Memory} :
      c.rest none = .done (.ok (.failed report.kind)) →
      FailureWrite limit id reported (historyOf none c.said) r report endedAt m m' →
      Stands limit id reported c [(m, m')]

theorem stands_start :
    Stands limit id reported (Scene.start (reconciliationAmid limit id reported others) b) [] :=
  .unwritten (onlyFails_reconciliation limit id reported none)

/-- A turn that makes an idle call changes nothing in the store. -/
theorem storeChanges_turn_of_isIdle
    {c : Scene calls (Amid Reconciled fun j => (others j).Result) Backend} {q : Call}
    {next : q.Reply → Action Reconciled} (hrest : c.rest none = .ask (I := calls) q next)
    (hq : q.isIdle = true) :
    storeChanges (Scene.turnOf? Backend.world none c (.next none)).toList = [] := by
  obtain ⟨hstate, -, -⟩ := Scene.step_next_of_ask (w := Backend.world) hrest
  have hstore : (c.step Backend.world (.next none)).state.store = c.state.store := by
    rw [hstate]
    exact store_answer_of_isIdle hq c.state
  simp [Scene.turnOf?, storeChanges, hstore]

/-- A turn of a dialogue that has ended changes nothing in the store. -/
theorem storeChanges_turn_of_done
    {c : Scene calls (Amid Reconciled fun j => (others j).Result) Backend} {r : Reconciled}
    (hrest : c.rest none = .done r) :
    storeChanges (Scene.turnOf? Backend.world none c (.next none)).toList = [] := by
  simp [Scene.turnOf?, storeChanges, Scene.step_next_of_done hrest]

/-- The turn at which a failure is to be written. -/
theorem Stands.step_write {c : Scene calls (Amid Reconciled fun j => (others j).Result) Backend}
    (hc : Scene.Reached Backend.world (reconciliationAmid limit id reported others) b c)
    {endedAt : Instant} {source : Option Status} {report : FailureReport}
    {next : (finishCall id source (report.toUpdate endedAt)).Reply → Action Reconciled}
    (hread : lastReading? (historyOf none c.said) = some endedAt)
    (hrest : c.rest none =
      .ask (I := calls) (finishCall id source (report.toUpdate endedAt)) next)
    (happlied : next (finishReply id _ (.ok .applied) source) = .done (.ok (.failed report.kind)))
    (hother : ∀ w, w ≠ .ok .applied → OnlyFails id none (next (finishReply id _ w source))) :
    Stands limit id reported (c.step Backend.world (.next none))
      (storeChanges (Scene.turnOf? Backend.world none c (.next none)).toList) := by
  obtain ⟨hstate, hnext, hhistory⟩ := Scene.step_next_of_ask (w := Backend.world) hrest
  have hasks : LookAsks limit id reported (historyOf none c.said)
      (finishCall id source (report.toUpdate endedAt)) :=
    asks_reconciliation ⟨next, hrest ▸ hc.leaves none⟩
  have hanswer := answer_finishCall c.state id (report.toUpdate endedAt) source
  change Backend.world.answer _ _ = _ at hanswer
  rw [hanswer] at hstate hnext hhistory
  obtain ⟨front, hfront⟩ := exists_of_lastReading? hread
  rcases modify_finishing_cases c.state.store id source report endedAt with
    ⟨r, hr, hopen, hmodify⟩ | ⟨o, ho, hmodify⟩
  · -- The write is applied, and its reasons are the exchanges before it.
    rw [hmodify] at hstate hnext hhistory
    have hwrite : FailureWrite limit id reported
        (historyOf none (c.step Backend.world (.next none)).said) r report endedAt c.state.store
        (c.state.store.replace (r.ended (report.toUpdate endedAt))) := by
      refine .of_replace hr hopen ⟨front, source,
        ⟨finishCall id source (report.toUpdate endedAt), finishReply id _ (.ok .applied) source⟩,
        ?_, rfl, tells_finishReply id _ _ source, hfront ▸ hasks⟩
      rw [hhistory, hfront]
      simp
    have hturn : storeChanges (Scene.turnOf? Backend.world none c (.next none)).toList =
        [(c.state.store, c.state.store.replace (r.ended (report.toUpdate endedAt)))] := by
      have hne := hwrite.ne
      simp [Scene.turnOf?, storeChanges, hstate, hne]
    rw [hturn]
    exact .written (hnext.trans happlied) hwrite
  · -- The write is refused, or there is no record: the store is what it was.
    rw [hmodify] at hstate hnext hhistory
    have hturn : storeChanges (Scene.turnOf? Backend.world none c (.next none)).toList = [] := by
      simp [Scene.turnOf?, storeChanges, hstate]
    have hne : finishCall id source (report.toUpdate endedAt) ≠ .now := by
      cases source <;> simp [finishCall]
    rw [hturn]
    refine .unwritten ?_
    rw [hnext, hhistory, lastReading?_snoc_of_ne _ _ hne]
    exact hother _ fun happ => ho (Except.ok.inj happ)

/-- Each move leaves a reconciliation where it was, or brings it on; only one move of its own changes
the store. -/
theorem Stands.step {c : Scene calls (Amid Reconciled fun j => (others j).Result) Backend}
    {changes : List (Store.Memory × Store.Memory)}
    (hc : Scene.Reached Backend.world (reconciliationAmid limit id reported others) b c)
    (hs : Stands limit id reported c changes) (move : Move (Option κ) Incident) :
    Stands limit id reported (c.step Backend.world move)
      (changes ++ storeChanges (Scene.turnOf? Backend.world none c move).toList) := by
  -- A move of someone else changes neither what is left of the reconciliation nor its history.
  have hforeign : ∀ {d : Scene calls (Amid Reconciled fun j => (others j).Result) Backend},
      d.rest none = c.rest none → historyOf none d.said = historyOf none c.said →
      Stands limit id reported d changes := by
    intro d hrest hsaid
    cases hs with
    | unwritten hleft => exact .unwritten (by rwa [hsaid, hrest])
    | written hdone hwrite => exact .written (hrest.trans hdone) (by rwa [hsaid])
  cases move with
  | event e => simpa [Scene.turnOf?, storeChanges] using hforeign (d := c.step _ (.event e)) rfl rfl
  | next i =>
      cases i with
      | some j =>
          obtain ⟨hrest, hsaid⟩ := Scene.step_next_of_ne (w := Backend.world) (c := c) (i := none)
            (Option.some_ne_none j)
          simpa [Scene.turnOf?, storeChanges] using hforeign hrest hsaid
      | none =>
          cases hs with
          | written hdone hwrite =>
              rw [storeChanges_turn_of_done hdone, List.append_nil,
                Scene.step_next_of_done hdone]
              exact .written hdone hwrite
          | unwritten hleft =>
              rw [List.nil_append]
              generalize hlast : lastReading? (historyOf none c.said) = time? at hleft
              generalize hrest : c.rest none = d at hleft
              cases hleft with
              | done hr =>
                  rw [storeChanges_turn_of_done hrest, Scene.step_next_of_done hrest]
                  exact .unwritten (hrest ▸ .done hr)
              | now hnext =>
                  obtain ⟨-, hafter, hhistory⟩ := Scene.step_next_of_ask (w := Backend.world) hrest
                  rw [storeChanges_turn_of_isIdle hrest rfl]
                  refine .unwritten ?_
                  rw [hafter, hhistory, lastReading?_snoc_now]
                  exact hnext _
              | look hidle hne hnext =>
                  obtain ⟨-, hafter, hhistory⟩ := Scene.step_next_of_ask (w := Backend.world) hrest
                  rw [storeChanges_turn_of_isIdle hrest hidle]
                  refine .unwritten ?_
                  rw [hafter, hhistory, lastReading?_snoc_of_ne _ _ hne]
                  exact hnext _
              | write happlied hother => exact .step_write hc hlast hrest happlied hother

omit [DecidableEq κ] in
/-- What has not written a failure has not reported one. -/
theorem OnlyFails.result?_ne {c : Scene calls (Amid Reconciled fun j => (others j).Result) Backend}
    {time? : Option Instant} (hleft : OnlyFails id time? (c.rest none)) (kind : FailureKind) :
    c.result? none ≠ some (.ok (.failed kind)) := by
  unfold Scene.result?
  generalize c.rest none = d at hleft
  cases hleft with
  | done hr => exact fun h => hr kind (Option.some.inj h)
  | now | look | write => simp

/-- Wherever a play has led, a reconciliation has written nothing yet, or one failure. -/
theorem stands_play (moves : List (Move (Option κ) Incident)) :
    Stands limit id reported
      ((Scene.start (reconciliationAmid limit id reported others) b).play Backend.world moves)
      (storeChanges (Scene.turnsOf Backend.world none
        (Scene.start (reconciliationAmid limit id reported others) b) moves)) := by
  induction moves using List.reverseRec with
  | nil => exact stands_start
  | append_singleton moves move ih =>
      rw [Scene.play_snoc, Scene.turnsOf_snoc, storeChanges_append]
      exact ih.step ((Scene.reached_start _ _ _).play moves) move

/-- **A reconciliation changes the store exactly if it reports a failure, and then by one write of
it.**  Other operations and other users of the store may make their calls between its own, and the
clock and the broker may change in any way. -/
theorem changed_iff_failed (limit : TimeLimit) (id : TaskId) (reported : Option String)
    (others : κ → Operation) (b : Backend) (moves : List (Move (Option κ) Incident)) :
    let start := Scene.start (reconciliationAmid limit id reported others) b
    let c := start.play Backend.world moves
    let changes := storeChanges (Scene.turnsOf Backend.world none start moves)
    (changes ≠ [] ↔ ∃ kind, c.result? none = some (.ok (.failed kind))) ∧
      ∀ kind, c.result? none = some (.ok (.failed kind)) →
        ∃ r report endedAt m m', report.kind = kind ∧ changes = [(m, m')] ∧
          FailureWrite limit id reported (historyOf none c.said) r report endedAt m m' := by
  intro start c changes
  have hstands : Stands limit id reported c changes := stands_play moves
  generalize changes = changes at hstands
  cases hstands with
  | @written r report endedAt m m' hdone hwrite =>
      have hresult : c.result? none = some (.ok (.failed report.kind)) := by
        simp only [Scene.result?, hdone]
      refine ⟨⟨fun _ => ⟨report.kind, hresult⟩, fun _ => List.cons_ne_nil _ _⟩, fun kind hkind => ?_⟩
      rw [hresult] at hkind
      have heq : report.kind = kind := by simpa using hkind
      exact ⟨r, report, endedAt, m, m', heq, rfl, hwrite⟩
  | unwritten hleft =>
      have hnot : ∀ kind, c.result? none ≠ some (.ok (.failed kind)) := hleft.result?_ne
      refine ⟨⟨fun h => absurd rfl h, ?_⟩, fun kind hkind => absurd hkind (hnot kind)⟩
      rintro ⟨kind, hkind⟩
      exact absurd hkind (hnot kind)

end Among

end Service

end TaskLedger
