import TaskLedger.Proofs.Service.Repetition
import TaskLedger.Proofs.Service.SweepOrder

/-!
**The account that a sweep gives.**

With nobody else around, a sweep finds of every open record that its task has failed, that it is to
be left, or that it could not be judged; and what it reports are the numbers of these findings.  Since
different tasks keep apart, each finding is what reconciling that task alone would have come to, and
the tasks may as well be thought to have come last, each of them.  So the records that the sweep
changed are those that it found to have failed, and the whole backend is settled after it: another
sweep, at the same time, finds of every record that is still open what the first one found, and moves
nothing at all.

Main definitions:

* `TaskLedger.Service.hasFailed`, `TaskLedger.Service.isLeft`, `TaskLedger.Service.isFault` — the three
  findings;
* `TaskLedger.Backend.swept` — what reconciling all open records leaves;
* `TaskLedger.Service.Swept` — what a sweep may come to, whatever it examines at once.

Main results:

* `TaskLedger.Service.foldl_add_eq` — a report holds the numbers of the findings;
* `TaskLedger.Service.countP_changed` — the records that were changed are those that have failed;
* `TaskLedger.Service.swept_swept` — another sweep leaves everything as it is;
* `TaskLedger.Service.swept_clean` — **the account of a sweep is exact, and another one has nothing
  left to change**.
-/

set_option autoImplicit false

namespace TaskLedger

namespace Service

open Dialogue

/-! ### Reports -/

/-- A task was found to have failed. -/
def hasFailed : Reconciled → Bool
  | .ok (.failed _) => true
  | _ => false

/-- A task was left as it is. -/
def isLeft : Reconciled → Bool
  | .ok (.left _) => true
  | _ => false

/-- A task could not be judged. -/
def isFault : Reconciled → Bool
  | .error _ => true
  | .ok _ => false

/-- What can be found of an open record with nobody else around. -/
def IsPlain (result : Reconciled) : Prop :=
  hasFailed result = true ∨ isLeft result = true ∨ isFault result = true

theorem hasFailed_iff {result : Reconciled} :
    hasFailed result = true ↔ ∃ kind, result = .ok (.failed kind) := by
  match result with
  | .ok (.failed kind) => simp [hasFailed]
  | .ok .notFound | .ok (.ended _) | .ok (.left _) | .ok (.lostRace _) | .error _ =>
      simp [hasFailed]

/-- A report holds the numbers of the findings, if these are plain. -/
theorem foldl_add_eq {found : List Reconciled} (h : ∀ result ∈ found, IsPlain result)
    (report : SweepReport) :
    found.foldl SweepReport.add report =
      { report with
        examined := report.examined + found.length
        failed := report.failed + found.countP hasFailed
        left := report.left + found.countP isLeft
        errors := report.errors + found.countP isFault } := by
  induction found generalizing report with
  | nil => rfl
  | cons result found ih =>
      rw [List.foldl_cons, ih fun r hr => h r (List.mem_cons_of_mem _ hr)]
      match result, h result List.mem_cons_self with
      | .ok (.failed _), _ | .ok (.left _), _ | .error _, _ =>
          simp [SweepReport.add, hasFailed, isLeft, isFault, List.countP_cons, Nat.add_comm,
            Nat.add_left_comm]
      | .ok .notFound, hplain | .ok (.ended _), hplain | .ok (.lostRace _), hplain =>
          simp [IsPlain, hasFailed, isLeft, isFault] at hplain

/-- Every plain finding is counted once. -/
theorem length_eq_of_plain {found : List Reconciled} (h : ∀ result ∈ found, IsPlain result) :
    found.length = found.countP hasFailed + found.countP isLeft + found.countP isFault := by
  induction found with
  | nil => rfl
  | cons result found ih =>
      have htail := ih fun r hr => h r (List.mem_cons_of_mem _ hr)
      match result, h result List.mem_cons_self with
      | .ok (.failed _), _ | .ok (.left _), _ | .error _, _ =>
          simp only [List.length_cons, List.countP_cons, hasFailed, isLeft, isFault, if_true,
            Bool.false_eq_true, if_false]
          omega
      | .ok .notFound, hplain | .ok (.ended _), hplain | .ok (.lostRace _), hplain =>
          simp [IsPlain, hasFailed, isLeft, isFault] at hplain

/-- The findings that are no failures are counted as before. -/
theorem countP_rest (found : List Reconciled) {p : Reconciled → Bool}
    (hp : ∀ result, p result = true → hasFailed result = false) :
    (found.filter (!hasFailed ·)).countP p = found.countP p := by
  rw [List.countP_filter]
  refine List.countP_congr fun result _ => ?_
  cases hpr : p result with
  | false => simp
  | true => simp [hp result hpr]

/-- The report about the findings that are no failures. -/
theorem foldl_add_rest {found : List Reconciled} (h : ∀ result ∈ found, IsPlain result) :
    (found.filter (!hasFailed ·)).foldl SweepReport.add {} =
      { examined := found.countP isLeft + found.countP isFault
        left := found.countP isLeft
        errors := found.countP isFault } := by
  have hrest : ∀ result ∈ found.filter (!hasFailed ·), IsPlain result :=
    fun result hresult => h result (List.mem_filter.1 hresult).1
  have hnone : (found.filter (!hasFailed ·)).countP hasFailed = 0 := by simp [List.countP_eq_zero]
  have hleft := countP_rest found (p := isLeft) fun result hresult => by
    match result, hresult with
    | .ok (.left _), _ => rfl
  have herrors := countP_rest found (p := isFault) fun result hresult => by
    match result, hresult with
    | .error _, _ => rfl
  rw [foldl_add_eq hrest]
  simp only [Nat.zero_add, hnone, hleft, herrors, length_eq_of_plain hrest]

end Service

/-! ### The tasks of a sweep -/

namespace Backend

theorem openIds_perm (b : Backend) :
    b.openIds.Perm ((b.store.records.filter (!·.isTerminal)).map Record.id) :=
  (List.mergeSort_perm _ _).map Record.id

theorem mem_openIds {b : Backend} {id : TaskId} :
    id ∈ b.openIds ↔ ∃ r, b.store.find? id = some r ∧ r.isTerminal = false := by
  simp only [b.openIds_perm.mem_iff, List.mem_map, List.mem_filter, Bool.not_eq_true',
    Store.Memory.find?_eq_some_iff]
  exact exists_congr fun r => by rw [and_right_comm]

theorem length_openIds (b : Backend) :
    b.openIds.length = b.store.records.countP (!·.isTerminal) := by
  rw [b.openIds_perm.length_eq, List.length_map, List.countP_eq_length_filter]

/-- Time does not go by while nobody else is around. -/
theorem clock_perform {α : Type} (action : Service.Action α) (b : Backend) :
    (b.perform action).2.clock = b.clock := by
  unfold perform
  induction action generalizing b with
  | done a => rfl
  | ask q next ih => rw [Dialogue.run_ask, ih, clock_answer]

/-- What reconciling all open records leaves, one after the other. -/
def swept (limit : TimeLimit) (b : Backend) : Backend :=
  Dialogue.afterAll (I := Service.calls) answer (Service.reconcile limit) b.openIds b

end Backend

namespace Service

open Dialogue

variable {limit : TimeLimit} {b : Backend} {id : TaskId}

/-! ### One task of the sweep -/

/-- What was found of an open record is plain. -/
theorem Diagnosis.isPlain {reported : Option String} {result : Reconciled} {detail? : Option String}
    {r : Record} (h : Diagnosis limit b id reported result detail?) (hr : b.store.find? id = some r)
    (hopen : r.isTerminal = false) : IsPlain result := by
  cases h with
  | notFound hnone => simp [hnone] at hr
  | ended hr' hended =>
      obtain rfl := Option.some.inj (hr.symm.trans hr')
      rw [Record.isTerminal, ← Status.mem_openStages] at hopen
      simp [Status.openStages] at hopen hended
      rcases hopen with h | h <;> simp [h] at hended
  | timedOut | reportedPending | reportedRunning | failedToStart | stopped | vanished =>
      exact Or.inl rfl
  | notDispatched | completionPending | alive | notYetKnown => exact Or.inr (Or.inl rfl)
  | outage => exact Or.inr (Or.inr rfl)

/-- A reconciliation that finds no failure writes nothing, and one that finds a failure ends the
record with it. -/
theorem exists_aftermath (limit : TimeLimit) (b : Backend) (id : TaskId) :
    ∃ detail?, Diagnosis limit b id none (findingOn limit b id) detail? ∧
      Aftermath b id (findingOn limit b id) detail? (b.perform (reconcile limit id)).2.store := by
  obtain ⟨result, detail?, hd⟩ := exists_diagnosis limit b id none
  obtain ⟨hresult, hafter⟩ := hd.perform_examine
  have hsame : b.perform (reconcile limit id) = b.perform (examine limit id none) :=
    perform_reconciliation_eq limit b id none
  rw [findingOn, hsame, hresult]
  exact ⟨detail?, hd, hafter⟩

/-- What is found of a task that is swept over is plain. -/
theorem isPlain_findingOn (hid : id ∈ b.openIds) : IsPlain (findingOn limit b id) := by
  obtain ⟨r, hr, hopen⟩ := Backend.mem_openIds.1 hid
  obtain ⟨detail?, hd, -⟩ := exists_aftermath limit b id
  exact hd.isPlain hr hopen

/-- A record that has failed is found in the place of the one that was open. -/
theorem find?_failed {r : Record} {kind : FailureKind} {detail : String} {now : Instant}
    (hr : b.store.find? id = some r) (k : TaskId) :
    (b.store.replace (r.failedFor kind detail now)).find? k =
      if id = k then some (r.failedFor kind detail now) else b.store.find? k := by
  have hid : r.id = id := Store.Memory.id_of_find? hr
  rw [Store.Memory.find?_replace k (by simp [Record.failedFor, hid, hr])]
  simp only [Record.failedFor, hid]

theorem find?_reconcile_of_ne {k : TaskId} (hk : k ≠ id) :
    (b.perform (reconcile limit id)).2.store.find? k = b.store.find? k := by
  obtain ⟨detail?, -, hafter⟩ := exists_aftermath limit b id
  generalize (b.perform (reconcile limit id)).2.store = store at hafter ⊢
  generalize findingOn limit b id = finding at hafter
  cases hafter with
  | unchanged => rfl
  | @failed r kind detail hr =>
      rw [find?_failed hr k, if_neg (Ne.symm hk)]

theorem find?_reconcile_of_not_failed (h : hasFailed (findingOn limit b id) = false) :
    (b.perform (reconcile limit id)).2.store.find? id = b.store.find? id := by
  obtain ⟨detail?, -, hafter⟩ := exists_aftermath limit b id
  generalize (b.perform (reconcile limit id)).2.store = store at hafter ⊢
  generalize findingOn limit b id = finding at h hafter
  cases hafter with
  | unchanged => rfl
  | failed => cases h

theorem find?_reconcile_of_failed {r : Record} (hr : b.store.find? id = some r)
    (h : hasFailed (findingOn limit b id) = true) :
    ∃ kind detail, (b.perform (reconcile limit id)).2.store.find? id =
      some (r.failedFor kind detail b.clock) := by
  obtain ⟨detail?, -, hafter⟩ := exists_aftermath limit b id
  generalize (b.perform (reconcile limit id)).2.store = store at hafter ⊢
  generalize findingOn limit b id = finding at h hafter
  cases hafter with
  | unchanged hnot =>
      obtain ⟨kind, rfl⟩ := hasFailed_iff.1 h
      exact absurd rfl (hnot kind)
  | @failed r' kind detail hr' =>
      obtain rfl := Option.some.inj (hr.symm.trans hr')
      exact ⟨kind, detail, (find?_failed hr id).trans (if_pos rfl)⟩

/-! ### A task among the others -/

section Others

variable {ids : List TaskId}

/-- Reconciling other tasks leaves a record as it is. -/
theorem find?_afterAll (hid : id ∉ ids) (b : Backend) :
    (afterAll (I := calls) Backend.answer (reconcile limit) ids b).store.find? id =
      b.store.find? id := by
  induction ids generalizing b with
  | nil => rfl
  | cons k ids ih =>
      rw [afterAll_cons, ih (List.not_mem_of_not_mem_cons hid)]
      exact find?_reconcile_of_ne (List.ne_of_not_mem_cons hid)

theorem clock_afterAll (limit : TimeLimit) (ids : List TaskId) (b : Backend) :
    (afterAll (I := calls) Backend.answer (reconcile limit) ids b).clock = b.clock := by
  induction ids generalizing b with
  | nil => rfl
  | cons k ids ih =>
      rw [afterAll_cons, ih]
      exact b.clock_perform (reconcile limit k)

theorem afterAll_concat (limit : TimeLimit) (ids : List TaskId) (id : TaskId) (b : Backend) :
    afterAll (I := calls) Backend.answer (reconcile limit) (ids ++ [id]) b =
      ((afterAll (I := calls) Backend.answer (reconcile limit) ids b).perform
        (reconcile limit id)).2 := by
  rw [afterAll, List.foldl_append]
  rfl

/-- What is found of a task does not depend on others that were reconciled before. -/
theorem findingOn_afterAll (hid : id ∉ ids) (b : Backend) :
    findingOn limit (afterAll (I := calls) Backend.answer (reconcile limit) ids b) id =
      findingOn limit b id := by
  induction ids generalizing b with
  | nil => rfl
  | cons k ids ih =>
      rw [afterAll_cons, ih (List.not_mem_of_not_mem_cons hid)]
      exact (apart_reconcile (List.ne_of_not_mem_cons hid)).first b

end Others

/-- Each task of a sweep may be thought to have come last. -/
theorem exists_before (limit : TimeLimit) (hid : id ∈ b.openIds) :
    ∃ before : Backend, before.perform (reconcile limit id) =
        (findingOn limit b id, b.swept limit) ∧
      before.store.find? id = b.store.find? id ∧ before.clock = b.clock := by
  have hnot : id ∉ b.openIds.erase id := b.nodup_openIds.not_mem_erase
  have hlast : b.openIds.Perm (b.openIds.erase id ++ [id]) :=
    (List.perm_cons_erase hid).trans (List.perm_append_singleton id _).symm
  refine ⟨afterAll (I := calls) Backend.answer (reconcile limit) (b.openIds.erase id) b,
    Prod.ext (findingOn_afterAll hnot b) ?_, find?_afterAll hnot b, clock_afterAll limit _ b⟩
  rw [Backend.swept, afterAll_perm (fun _ _ _ _ hne => apart_reconcile hne) hlast]
  exact (afterAll_concat limit _ id b).symm

/-- A task is settled after the sweep. -/
theorem perform_reconcile_swept (limit : TimeLimit) (hid : id ∈ b.openIds) :
    (b.swept limit).perform (reconcile limit id) =
      (again (findingOn limit b id), b.swept limit) := by
  obtain ⟨before, hlast, -, -⟩ := exists_before limit hid
  have hsettled : (before.perform (reconcile limit id)).2.perform (reconcile limit id) =
      (again (before.perform (reconcile limit id)).1, (before.perform (reconcile limit id)).2) :=
    settled_reconciliation limit before id none
  rwa [hlast] at hsettled

/-! ### The records after the sweep -/

theorem find?_swept_of_not_failed (h : id ∈ b.openIds → hasFailed (findingOn limit b id) = false) :
    (b.swept limit).store.find? id = b.store.find? id := by
  by_cases hid : id ∈ b.openIds
  · obtain ⟨before, hlast, hfind, -⟩ := exists_before limit hid
    have hfinding : findingOn limit before id = findingOn limit b id := by
      rw [findingOn, hlast]
    have hleft := find?_reconcile_of_not_failed (hfinding ▸ h hid)
    rwa [hlast, hfind] at hleft
  · exact find?_afterAll hid b

theorem find?_swept_of_failed {r : Record} (hr : b.store.find? id = some r)
    (hopen : r.isTerminal = false) (h : hasFailed (findingOn limit b id) = true) :
    ∃ kind detail, (b.swept limit).store.find? id = some (r.failedFor kind detail b.clock) := by
  obtain ⟨before, hlast, hfind, hclock⟩ :=
    exists_before limit (Backend.mem_openIds.2 ⟨r, hr, hopen⟩)
  have hfinding : findingOn limit before id = findingOn limit b id := by
    rw [findingOn, hlast]
  have hended := find?_reconcile_of_failed (hfind.trans hr) (hfinding ▸ h)
  rwa [hlast, hclock] at hended

/-- A record is changed by the sweep exactly if it was open and its task was found to have failed. -/
theorem changed_iff {r : Record} (hr : b.store.find? r.id = some r) :
    (b.swept limit).store.find? r.id ≠ some r ↔
      r.isTerminal = false ∧ hasFailed (findingOn limit b r.id) = true := by
  constructor
  · intro hchanged
    by_contra hnot
    refine hchanged ((find?_swept_of_not_failed fun hid => ?_).trans hr)
    obtain ⟨r', hr', hopen⟩ := Backend.mem_openIds.1 hid
    obtain rfl := Option.some.inj (hr.symm.trans hr')
    exact Bool.eq_false_iff.2 fun hfailed => hnot ⟨hopen, hfailed⟩
  · rintro ⟨hopen, hfailed⟩ hsame
    obtain ⟨kind, detail, hended⟩ := find?_swept_of_failed hr hopen hfailed
    rw [hsame] at hended
    have hstatus := congrArg Record.isTerminal (Option.some.inj hended)
    rw [hopen] at hstatus
    cases hstatus

/-- **The records that the sweep changed are those whose tasks it found to have failed.** -/
theorem countP_changed (limit : TimeLimit) (b : Backend) :
    b.store.records.countP (fun r => (b.swept limit).store.find? r.id ≠ some r) =
      (b.openIds.map (findingOn limit b)).countP hasFailed := by
  have hchanged : ∀ r ∈ b.store.records,
      (decide ((b.swept limit).store.find? r.id ≠ some r) = true ↔
        (hasFailed (findingOn limit b r.id) && !r.isTerminal) = true) := by
    intro r hr
    rw [decide_eq_true_iff, changed_iff (Store.Memory.find?_eq_some_iff.2 ⟨hr, rfl⟩), and_comm,
      Bool.and_eq_true, Bool.not_eq_true']
  rw [List.countP_congr hchanged, List.countP_map, b.openIds_perm.countP_eq, List.countP_map,
    List.countP_filter]
  rfl

/-! ### Another sweep -/

theorem mem_openIds_swept :
    id ∈ (b.swept limit).openIds ↔
      id ∈ b.openIds ∧ hasFailed (findingOn limit b id) = false := by
  constructor
  · intro hid
    obtain ⟨r, hr, hopen⟩ := Backend.mem_openIds.1 hid
    have hnot : id ∈ b.openIds → hasFailed (findingOn limit b id) = false := by
      intro hbefore
      obtain ⟨r', hr', hopen'⟩ := Backend.mem_openIds.1 hbefore
      refine Bool.eq_false_iff.2 fun hfailed => ?_
      obtain ⟨kind, detail, hended⟩ := find?_swept_of_failed hr' hopen' hfailed
      obtain rfl := Option.some.inj (hr.symm.trans hended)
      cases hopen
    rw [find?_swept_of_not_failed hnot] at hr
    have hbefore := Backend.mem_openIds.2 ⟨r, hr, hopen⟩
    exact ⟨hbefore, hnot hbefore⟩
  · rintro ⟨hid, hnot⟩
    obtain ⟨r, hr, hopen⟩ := Backend.mem_openIds.1 hid
    exact Backend.mem_openIds.2 ⟨r, (find?_swept_of_not_failed fun _ => hnot).trans hr, hopen⟩

/-- Another sweep finds what the first one found, of all records that have not failed. -/
theorem findings_swept (limit : TimeLimit) (b : Backend) :
    ((b.swept limit).openIds.map (findingOn limit (b.swept limit))).Perm
      ((b.openIds.map (findingOn limit b)).filter (!hasFailed ·)) := by
  have hids : (b.swept limit).openIds.Perm
      (b.openIds.filter fun id => !hasFailed (findingOn limit b id)) := by
    refine (List.perm_ext_iff_of_nodup (Backend.nodup_openIds _)
      (b.nodup_openIds.filter _)).2 fun id => ?_
    rw [mem_openIds_swept, List.mem_filter, Bool.not_eq_true']
  have hsame : ∀ id ∈ (b.swept limit).openIds,
      findingOn limit (b.swept limit) id = findingOn limit b id := by
    intro id hid
    obtain ⟨hbefore, hnot⟩ := mem_openIds_swept.1 hid
    rw [findingOn, perform_reconcile_swept limit hbefore]
    refine again_of_ne_failed fun kind hkind => ?_
    rw [hkind] at hnot
    cases hnot
  rw [List.map_congr_left hsame, List.filter_map]
  exact hids.map _

/-- **Another sweep leaves everything as it is.** -/
theorem swept_swept (limit : TimeLimit) (b : Backend) :
    (b.swept limit).swept limit = b.swept limit := by
  have hstays : ∀ ids : List TaskId, (∀ id ∈ ids, id ∈ b.openIds) →
      afterAll (I := calls) Backend.answer (reconcile limit) ids (b.swept limit) =
        b.swept limit := by
    intro ids hids
    induction ids with
    | nil => rfl
    | cons id ids ih =>
        have hone : ((reconcile limit id).run (I := calls) Backend.answer (b.swept limit)).2 =
            b.swept limit := congrArg Prod.snd (perform_reconcile_swept limit (hids id (by simp)))
        rw [afterAll_cons, hone]
        exact ih fun k hk => hids k (List.mem_cons_of_mem _ hk)
  exact hstays _ fun id hid => (mem_openIds_swept.1 hid).1

/-! ### Sweeps -/

/-- What a sweep may come to with nobody else around, and what it may leave: it has the tasks
reconciled one after the other, or side by side in any order of turns and with the findings handed in
in any order. -/
inductive Swept (limit : TimeLimit) (maxConcurrent : UInt64) (b : Backend) :
    Except SweepFault SweepReport → Backend → Prop
  | oneByOne :
      Swept limit maxConcurrent b (b.perform (sweep limit maxConcurrent)).1
        (b.perform (sweep limit maxConcurrent)).2
  | atOnce {order : List TaskId} {h : List (Exchange sweepSteps)}
      {result : Except SweepFault SweepReport} :
      (∀ id ∈ order, id ∈ b.openIds) →
      (∀ id ∈ b.openIds, ((reconciledAtOnce limit b order).result? id).isSome) →
      (sweeping maxConcurrent).Ends h result → Undisturbed b.store.listOpen h →
      (handedIn h).Perm (b.openIds.filterMap (reconciledAtOnce limit b order).result?) →
      Swept limit maxConcurrent b result (reconciledAtOnce limit b order).state

/-- However a sweep goes about it, it reports what was found of each task alone. -/
theorem Swept.eq {maxConcurrent : UInt64} {result : Except SweepFault SweepReport} {after : Backend}
    (h : Swept limit maxConcurrent b result after) (hpermits : permits maxConcurrent ≤ permitCap) :
    result = .ok ((b.openIds.map (findingOn limit b)).foldl SweepReport.add {}) ∧
      after = b.swept limit := by
  cases h with
  | oneByOne =>
      rw [perform_sweep, if_neg (Nat.not_lt.2 hpermits), perform_reconcileAll b.nodup_openIds]
      exact ⟨rfl, rfl⟩
  | @atOnce order h _ horder hended hends hquiet hfound =>
      have hapart : Scene.AskApart Backend.world b.openIds Call.Tends :=
        fun _ _ _ _ hne _ _ hq hq' => hq.apart hq' hne
      obtain ⟨hstate, hresult⟩ := Scene.play_of_apart b.nodup_openIds hapart
        (fun id _ => asksOnly_reconcile limit id) b horder hended
      obtain ⟨-, -, rfl⟩ := ends_sweeping hpermits hends hquiet
      have hfindings : b.openIds.filterMap (reconciledAtOnce limit b order).result? =
          b.openIds.map (findingOn limit b) := by
        rw [← List.filterMap_eq_map]
        exact List.filterMap_congr fun id hid => hresult id hid
      rw [hfindings] at hfound
      exact ⟨congrArg Except.ok (SweepReport.foldl_add_perm hfound {}), hstate⟩

/-- **The account of a sweep is exact, and another one has nothing left to change.**  With nobody else
around and at a fixed time, for every number of tasks that can be examined at once: a sweep examines
the open records, and as many have failed as it has changed in the store.  Those it has changed were
open and have failed, and all others are as they were.  What did not fail was left or could not be
judged, and nothing else was found.  Another sweep right after it leaves the whole backend as it is,
and finds the same of the records that are still open. -/
theorem swept_clean (limit : TimeLimit) {maxConcurrent : UInt64}
    (hmax : maxConcurrent.toNat ≤ permitCap) (b : Backend) {result : Except SweepFault SweepReport}
    {after : Backend} (h : Swept limit maxConcurrent b result after) :
    ∃ report, result = .ok report ∧
      report.examined = b.store.records.countP (!·.isTerminal) ∧
      report.failed = b.store.records.countP (fun r => after.store.find? r.id ≠ some r) ∧
      (∀ id, after.store.find? id = b.store.find? id ∨
        ∃ r kind detail, b.store.find? id = some r ∧ r.isTerminal = false ∧
          after.store.find? id = some (r.failedFor kind detail b.clock)) ∧
      report.examined = report.failed + report.left + report.errors ∧
      report.ended = 0 ∧ report.lostRace = 0 ∧ report.notFound = 0 ∧
      ∀ result' after', Swept limit maxConcurrent after result' after' →
        after' = after ∧
          result' = .ok
            { examined := report.left + report.errors, left := report.left,
              errors := report.errors } := by
  have hpermits : permits maxConcurrent ≤ permitCap := Nat.max_le.2 ⟨by decide, hmax⟩
  obtain ⟨rfl, rfl⟩ := h.eq hpermits
  have hplain : ∀ result ∈ b.openIds.map (findingOn limit b), IsPlain result := by
    intro result hresult
    obtain ⟨id, hid, rfl⟩ := List.mem_map.1 hresult
    exact isPlain_findingOn hid
  have hlength := length_eq_of_plain hplain
  refine ⟨_, rfl, ?_⟩
  rw [foldl_add_eq hplain, countP_changed]
  simp only [Nat.zero_add]
  refine ⟨?_, trivial, fun id => ?_, hlength, trivial, trivial, trivial, fun result' after' h' => ?_⟩
  · rw [List.length_map, Backend.length_openIds]
  · by_cases hfailed : id ∈ b.openIds ∧ hasFailed (findingOn limit b id) = true
    · obtain ⟨hid, hfailed⟩ := hfailed
      obtain ⟨r, hr, hopen⟩ := Backend.mem_openIds.1 hid
      obtain ⟨kind, detail, hended⟩ := find?_swept_of_failed hr hopen hfailed
      exact Or.inr ⟨r, kind, detail, hr, hopen, hended⟩
    · refine Or.inl (find?_swept_of_not_failed fun hid => ?_)
      exact Bool.eq_false_iff.2 fun h => hfailed ⟨hid, h⟩
  · obtain ⟨rfl, rfl⟩ := h'.eq hpermits
    refine ⟨swept_swept limit b, congrArg Except.ok ?_⟩
    rw [SweepReport.foldl_add_perm (findings_swept limit b), foldl_add_rest hplain]

/-- The broker cannot be reached.  Of three open tasks one is hours old, one runs, and one has no
handle. -/
def duringOutage : Backend :=
  { Backend.vacant with
    store := Store.Memory.empty.after
      [.insert (.fresh ⟨⟨1⟩⟩ "report" .null .epoch),
        .insert (.fresh ⟨⟨2⟩⟩ "report" .null ⟨8400, 0, by decide, by decide⟩),
        .insert (.fresh ⟨⟨3⟩⟩ "report" .null ⟨8400, 0, by decide, by decide⟩),
        .setHandle ⟨⟨2⟩⟩ ⟨"job"⟩, .markRunning ⟨⟨2⟩⟩]
    broker := (Broker.Memory.empty (.ofSeconds 3600)).setAvailable false
    clock := ⟨9000, 0, by decide, by decide⟩ }

/-- With a limit of one hour, the old task is the only one that a sweep settles. -/
theorem swept_clean_during_outage :
    ∃ after, Swept ⟨some (.ofSeconds 3600)⟩ 0 duringOutage
        (.ok { examined := 3, failed := 1, left := 1, errors := 1 }) after ∧
      duringOutage.store.records.countP (fun r => after.store.find? r.id ≠ some r) = 1 ∧
      after.perform (sweep ⟨some (.ofSeconds 3600)⟩ 0) =
        (.ok { examined := 2, left := 1, errors := 1 }, after) := by
  have hsorted : (duringOutage.store.records.filter (!·.isTerminal)).Pairwise
      (Store.Memory.listedBefore · ·) := by decide +kernel
  have hopen : duringOutage.openIds = [⟨⟨1⟩⟩, ⟨⟨2⟩⟩, ⟨⟨3⟩⟩] := by
    rw [Backend.openIds, Store.Memory.listOpen, List.mergeSort_of_pairwise hsorted]
    decide +kernel
  have hreport : (duringOutage.perform (sweep ⟨some (.ofSeconds 3600)⟩ 0)).1 =
      .ok { examined := 3, failed := 1, left := 1, errors := 1 } := by
    rw [perform_sweep, hopen]
    decide +kernel
  have hswept : Swept ⟨some (.ofSeconds 3600)⟩ 0 duringOutage
      (.ok { examined := 3, failed := 1, left := 1, errors := 1 })
      (duringOutage.perform (sweep ⟨some (.ofSeconds 3600)⟩ 0)).2 := hreport ▸ .oneByOne
  obtain ⟨report, hok, -, hfailed, -, -, -, -, -, hagain⟩ :=
    swept_clean ⟨some (.ofSeconds 3600)⟩ (by decide) duringOutage hswept
  obtain rfl := Except.ok.inj hok
  obtain ⟨hafter, hresult⟩ := hagain _ _ .oneByOne
  exact ⟨_, hswept, hfailed.symm, Prod.ext hresult hafter⟩

end Service

end TaskLedger
