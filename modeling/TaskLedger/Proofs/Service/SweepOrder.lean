import TaskLedger.Proofs.Service.Apart
import TaskLedger.Proofs.Service.FinalWrite
import TaskLedger.Proofs.Store.Listing
import TaskLedger.Service.Sweep

/-!
**A sweep in any order.**

A sweep has the listed tasks examined side by side, no more than so many at once, and takes the
findings in whatever order they come.  With nobody else around none of this makes a difference, since
different tasks keep apart: after the reconciling of all of them, in any order and in any
interleaving of the calls, the backend is the same, every task has its one finding, and these add up
to the same report.

Main definitions:

* `TaskLedger.Backend.openIds` — the listed tasks, in the order of the list;
* `TaskLedger.Service.begun`, `TaskLedger.Service.handedIn`, `TaskLedger.Service.Undisturbed` — what
  a sweep has begun and was handed in, while nobody stopped it;
* `TaskLedger.Service.reconciledAtOnce` — what has come of reconciling some tasks side by side.

Main results:

* `TaskLedger.Service.ends_sweeping` — a sweep begins with every listed task, and reports the
  findings that it was handed in;
* `TaskLedger.Service.swept_in_any_order` — **backend and report do not depend on the order**;
* `TaskLedger.Service.ended_of_turns` — with twelve turns each, all tasks have their findings.
-/

set_option autoImplicit false

namespace TaskLedger

/-- The tasks that a sweep is about, in the order of the list. -/
def Backend.openIds (b : Backend) : List TaskId := b.store.listOpen.map Record.id

theorem Backend.nodup_openIds (b : Backend) : b.openIds.Nodup := b.store.nodup_ids_listOpen

namespace Service

open Dialogue

/-! ### What a sweep reports -/

/-- The tasks that a sweep has let be examined. -/
def begun (h : List (Exchange sweepSteps)) : List TaskId :=
  h.filterMap fun
    | ⟨.begin id, _⟩ => some id
    | _ => none

/-- The findings that a sweep was handed in. -/
def handedIn (h : List (Exchange sweepSteps)) : List Reconciled :=
  h.filterMap fun
    | ⟨.finding, finding?⟩ => finding?
    | _ => none

/-- A sweep was given these records and nobody stopped it, and there was a finding whenever it came to
take one. -/
structure Undisturbed (records : List Record) (h : List (Exchange sweepSteps)) : Prop where
  listed : ∀ listed, ⟨.list, listed⟩ ∈ h → listed = .ok records
  unstopped : ⟨.isStopped, true⟩ ∉ h
  found : ⟨.finding, none⟩ ∉ h

section Steps

variable {h : List (Exchange sweepSteps)}

/-- All findings that are taken go into the report. -/
theorem ends_collect {count : Nat} {report r : SweepReport}
    (hends : (Sweeping.collect count report).Ends h r) (hfound : ⟨.finding, none⟩ ∉ h) :
    begun h = [] ∧ (handedIn h).length = count ∧ r = (handedIn h).foldl SweepReport.add report := by
  induction count generalizing h report with
  | zero =>
      obtain ⟨rfl, rfl⟩ := ends_pure.1 hends
      exact ⟨rfl, rfl, rfl⟩
  | succ count ih =>
      obtain ⟨finding?, h', rfl, hrest⟩ := ends_ask.1 hends
      cases finding? with
      | none => exact absurd List.mem_cons_self hfound
      | some result =>
          obtain ⟨hbegun, hcount, rfl⟩ := ih hrest fun hmem => hfound (List.mem_cons_of_mem _ hmem)
          exact ⟨hbegun, congrArg (· + 1) hcount, rfl⟩

/-- Unless told to stop, a sweep lets all tasks be examined, each once. -/
theorem ends_beginAll {ids : List TaskId} {n k : Nat}
    (hends : (Sweeping.beginAll ids n).Ends h k) (hunstopped : ⟨.isStopped, true⟩ ∉ h) :
    begun h = ids ∧ handedIn h = [] ∧ k = n + ids.length := by
  induction ids generalizing h n with
  | nil =>
      obtain ⟨rfl, rfl⟩ := ends_pure.1 hends
      exact ⟨rfl, rfl, rfl⟩
  | cons id ids ih =>
      obtain ⟨stopped, h₁, rfl, hplace⟩ := ends_ask.1 hends
      cases stopped with
      | true => exact absurd List.mem_cons_self hunstopped
      | false =>
          obtain ⟨_, h₂, rfl, hagain⟩ := ends_ask.1 hplace
          obtain ⟨stopped, h₃, rfl, hbegin⟩ := ends_ask.1 hagain
          cases stopped with
          | true => exact absurd (by simp) hunstopped
          | false =>
              obtain ⟨_, h₄, rfl, hlater⟩ := ends_ask.1 hbegin
              obtain ⟨hbegun, hfound, rfl⟩ := ih hlater fun hmem => hunstopped (by simp [hmem])
              refine ⟨congrArg (id :: ·) hbegun, hfound, ?_⟩
              rw [List.length_cons]
              omega

/-- **A sweep that nobody disturbs has every listed task examined**, each once, takes as many
findings, and reports these, however many tasks it may have examined at once. -/
theorem ends_sweeping {maxConcurrent : UInt64} {records : List Record}
    {r : Except SweepFault SweepReport} (hpermits : permits maxConcurrent ≤ permitCap)
    (hends : (sweeping maxConcurrent).Ends h r) (hquiet : Undisturbed records h) :
    begun h = records.map Record.id ∧ (handedIn h).length = records.length ∧
      r = .ok ((handedIn h).foldl SweepReport.add {}) := by
  obtain ⟨listed, h', rfl, hrest⟩ := ends_ask.1 hends
  obtain rfl := hquiet.listed listed List.mem_cons_self
  change Ends (if permitCap < permits maxConcurrent then _ else _) h' r at hrest
  rw [if_neg (Nat.not_lt.2 hpermits)] at hrest
  obtain ⟨count, h₁, h₂, rfl, hbegin, hrest⟩ := ends_bind.1 hrest
  obtain ⟨report, h₃, h₄, rfl, hcollect, hrest⟩ := ends_bind.1 hrest
  obtain ⟨rfl, rfl⟩ := ends_pure.1 hrest
  obtain ⟨hbegun, hnone, rfl⟩ := ends_beginAll hbegin fun hmem => hquiet.unstopped (by simp [hmem])
  obtain ⟨hnothing, hlength, rfl⟩ := ends_collect hcollect fun hmem => hquiet.found (by simp [hmem])
  have hall : begun (⟨.list, .ok records⟩ :: (h₁ ++ (h₃ ++ []))) = begun h₁ ++ begun h₃ := by
    simp [begun]
  have hhanded : handedIn (⟨.list, .ok records⟩ :: (h₁ ++ (h₃ ++ []))) =
      handedIn h₁ ++ handedIn h₃ := by
    simp [handedIn]
  rw [hall, hhanded, hbegun, hnothing, hnone, List.append_nil, List.nil_append]
  refine ⟨rfl, ?_, rfl⟩
  rw [hlength, List.length_map, Nat.zero_add]

end Steps

/-- In a report it makes no difference which of two findings came first. -/
theorem SweepReport.add_right_comm (report : SweepReport) (r r' : Reconciled) :
    (report.add r).add r' = (report.add r').add r := by
  rcases r with e | (_ | _ | _ | _ | _) <;> rcases r' with e' | (_ | _ | _ | _ | _) <;> rfl

theorem SweepReport.foldl_add_perm {found found' : List Reconciled} (h : found.Perm found')
    (report : SweepReport) :
    found.foldl SweepReport.add report = found'.foldl SweepReport.add report :=
  h.foldl_eq' (fun r _ r' _ report => report.add_right_comm r r') report

/-! ### Reconciling in some order -/

variable {limit : TimeLimit} {b : Backend}

/-- What reconciling a task finds with nobody else around. -/
def findingOn (limit : TimeLimit) (b : Backend) (id : TaskId) : Reconciled :=
  (b.perform (reconcile limit id)).1

theorem apart_reconcile {id id' : TaskId} (hne : id ≠ id') :
    Apart (I := calls) Backend.answer (reconcile limit id) (reconcile limit id') :=
  (asksOnly_reconcile limit id).apart (asksOnly_reconcile limit id') fun _ _ hq hq' =>
    hq.apart hq' hne

/-- After any number of tasks was reconciled, one after the other, the report is about the finding on
each of them alone. -/
theorem perform_reconcileAll {order : List TaskId} (hnodup : order.Nodup) (report : SweepReport)
    (b : Backend) : b.perform (reconcileAll limit order report) =
      ((order.map (findingOn limit b)).foldl SweepReport.add report,
        afterAll Backend.answer (reconcile limit) order b) := by
  have hrun : (order.mapM (reconcile limit)).run (I := calls) Backend.answer b =
      (order.map (findingOn limit b), afterAll Backend.answer (reconcile limit) order b) :=
    run_mapM_of_apart (hnodup.imp fun hne => apart_reconcile hne) b
  rw [reconcileAll_eq, Backend.perform]
  refine (run_bind (I := calls) Backend.answer _ _ b).trans ?_
  rw [hrun]
  rfl

/-- What has come of reconciling some tasks side by side, after each of an order of turns. -/
def reconciledAtOnce (limit : TimeLimit) (b : Backend) (order : List TaskId) :
    Scene calls (fun _ : TaskId => Reconciled) Backend :=
  sideBySide (fun id => .reconcile limit id) b (order.map .next)

theorem perform_sweep (maxConcurrent : UInt64) (b : Backend) :
    b.perform (sweep limit maxConcurrent) =
      if permitCap < permits maxConcurrent then (.error .tooManyAtOnce, b)
      else (.ok (b.perform (reconcileAll limit b.openIds {})).1,
        (b.perform (reconcileAll limit b.openIds {})).2) := by
  rw [sweep_eq]
  change Dialogue.run (I := calls) Backend.answer
    (if permitCap < permits maxConcurrent then _ else _) b = _
  split
  · rfl
  · exact run_bind _ _ _ b

/-- With twelve turns each, all tasks have their findings. -/
theorem ended_of_turns {ids order : List TaskId} (hturns : ∀ id ∈ ids, 12 ≤ turns id order) :
    ∀ id ∈ ids, ((reconciledAtOnce limit b order).result? id).isSome := by
  intro id hid
  exact Option.isSome_iff_exists.2 (exists_result_of_turns (fun id => .reconcile limit id) b
    (asksAtMost_reconcile limit id) (hturns id hid))

/-- **The outcome of a sweep does not depend on the order.**  With nobody else around, and at a fixed
time, there is one report and one backend that comes of it

* if the listed tasks are reconciled one after the other, in whatever order;
* if they are swept over with any number of places for tasks, unless that is more than there can be:
  then nothing happens at all;
* if they are reconciled side by side, in whatever interleaving of the calls, and a sweep is handed in
  what was found, in whatever order. -/
theorem swept_in_any_order (limit : TimeLimit) (b : Backend) :
    ∃ (report : SweepReport) (after : Backend),
      (∀ order : List TaskId, order.Perm b.openIds →
        b.perform (reconcileAll limit order {}) = (report, after)) ∧
      (∀ maxConcurrent, b.perform (sweep limit maxConcurrent) =
        if permitCap < permits maxConcurrent then (.error .tooManyAtOnce, b)
        else (.ok report, after)) ∧
      ∀ order : List TaskId, (∀ id ∈ order, id ∈ b.openIds) →
        (∀ id ∈ b.openIds, ((reconciledAtOnce limit b order).result? id).isSome) →
        (reconciledAtOnce limit b order).state = after ∧
        ∀ maxConcurrent h r, permits maxConcurrent ≤ permitCap →
          (sweeping maxConcurrent).Ends h r → Undisturbed b.store.listOpen h →
          (handedIn h).Perm (b.openIds.filterMap (reconciledAtOnce limit b order).result?) →
          begun h = b.openIds ∧ r = .ok report := by
  have hnodup := b.nodup_openIds
  have hlisted : b.perform (reconcileAll limit b.openIds {}) = _ :=
    perform_reconcileAll hnodup {} b
  refine ⟨(b.openIds.map (findingOn limit b)).foldl SweepReport.add {},
    afterAll (I := calls) Backend.answer (reconcile limit) b.openIds b,
    fun order horder => ?_, fun maxConcurrent => ?_, fun order horder hended => ?_⟩
  · rw [perform_reconcileAll (horder.nodup_iff.2 hnodup),
      SweepReport.foldl_add_perm (horder.map _),
      afterAll_perm (fun _ _ _ _ hne => apart_reconcile hne) horder]
  · rw [perform_sweep, hlisted]
  · have hapart : Scene.AskApart Backend.world b.openIds Call.Tends :=
      fun _ _ _ _ hne _ _ hq hq' => hq.apart hq' hne
    obtain ⟨hstate, hresult⟩ := Scene.play_of_apart hnodup hapart
      (fun id _ => asksOnly_reconcile limit id) b horder hended
    refine ⟨hstate, fun maxConcurrent h r hpermits hends hquiet hfound => ?_⟩
    obtain ⟨hbegun, -, rfl⟩ := ends_sweeping hpermits hends hquiet
    refine ⟨hbegun, congrArg Except.ok (SweepReport.foldl_add_perm (hfound.trans ?_) {})⟩
    have hfindings : b.openIds.filterMap (reconciledAtOnce limit b order).result? =
        b.openIds.map (findingOn limit b) := by
      rw [← List.filterMap_eq_map]
      exact List.filterMap_congr fun id hid => hresult id hid
    rw [hfindings]

/-- Three tasks, of which two run and have the same handle.  Its job has failed long ago, and has not
been looked up since. -/
def sharing : Backend :=
  { Backend.vacant with
    store := Store.Memory.empty.after
      [.insert (.fresh ⟨⟨1⟩⟩ "report" .null .epoch), .insert (.fresh ⟨⟨2⟩⟩ "report" .null .epoch),
        .insert (.fresh ⟨⟨3⟩⟩ "report" .null .epoch), .setHandle ⟨⟨1⟩⟩ ⟨"job"⟩, .markRunning ⟨⟨1⟩⟩,
        .setHandle ⟨⟨2⟩⟩ ⟨"job"⟩, .markRunning ⟨⟨2⟩⟩]
    broker := ((Broker.Memory.empty (.ofSeconds 3600)).dispatch .epoch ⟨"job"⟩ ⟨⟨1⟩⟩ "report"
      .null).fail .epoch ⟨"job"⟩ "disk full" |>.2
    clock := ⟨7200, 0, by decide, by decide⟩ }

/-- The three take turns, call by call. -/
def inTurns : List TaskId := (List.replicate 12 [⟨⟨1⟩⟩, ⟨⟨2⟩⟩, ⟨⟨3⟩⟩]).flatten

theorem swept_in_any_order_sharing :
    sharing.broker.jobs.length = 1 ∧
      (reconciledAtOnce ⟨none⟩ sharing inTurns).state.broker.jobs = [] ∧
      (sharing.perform (reconcileAll ⟨none⟩ [⟨⟨2⟩⟩, ⟨⟨3⟩⟩, ⟨⟨1⟩⟩] {})).1 =
        { examined := 3, failed := 2, left := 1 } ∧
      sharing.perform (reconcileAll ⟨none⟩ [⟨⟨2⟩⟩, ⟨⟨3⟩⟩, ⟨⟨1⟩⟩] {}) =
        ((sharing.perform (reconcileAll ⟨none⟩ [⟨⟨3⟩⟩, ⟨⟨1⟩⟩, ⟨⟨2⟩⟩] {})).1,
          (reconciledAtOnce ⟨none⟩ sharing inTurns).state) := by
  have hsorted : (sharing.store.records.filter (!·.isTerminal)).Pairwise
      (Store.Memory.listedBefore · ·) := by decide +kernel
  have hopen : sharing.openIds = [⟨⟨1⟩⟩, ⟨⟨2⟩⟩, ⟨⟨3⟩⟩] := by
    rw [Backend.openIds, Store.Memory.listOpen, List.mergeSort_of_pairwise hsorted]
    decide +kernel
  obtain ⟨report, after, horder, -, hside⟩ := swept_in_any_order ⟨none⟩ sharing
  have hstate := (hside inTurns (by rw [hopen]; decide) (ended_of_turns (by rw [hopen]; decide))).1
  refine ⟨by decide, by decide +kernel, by decide +kernel, ?_⟩
  rw [horder _ (by rw [hopen]; decide), horder _ (by rw [hopen]; decide), hstate]

end Service

end TaskLedger
