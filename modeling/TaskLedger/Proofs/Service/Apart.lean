import TaskLedger.Proofs.Broker.Change
import TaskLedger.Proofs.Dialogue.Apart
import TaskLedger.Proofs.Service.Ledger

/-!
**Looking after different tasks.**

Whoever looks after a task reads and writes its record, reads the clock, and has the broker look jobs
up.  Two who look after different tasks keep apart: they write different records, and all that a
lookup does is to drop a job that nobody would be told of any more, even if it is the job of both.

Main definitions:

* `TaskLedger.Store.Query.Regards`, `TaskLedger.Broker.Query.LooksUp` — questions about one record,
  and about one job;
* `TaskLedger.Service.Call.Tends` — the calls of someone who looks after a task.

Main results:

* `TaskLedger.Store.Memory.apart_of_regards`, `TaskLedger.Broker.Memory.apart_of_looksUp` — questions
  about different records keep apart, and so do all lookups;
* `TaskLedger.Service.Call.Tends.apart` — **whoever looks after one task keeps apart from whoever looks
  after another**;
* `TaskLedger.Service.asksOnly_reconcile` — reconciling a task is looking after it.
-/

set_option autoImplicit false

namespace TaskLedger

open Dialogue

/-! ### Different records -/

namespace Store

/-- A question is about the record of an identifier and no other. -/
inductive Query.Regards (id : TaskId) : Query → Prop
  | get : Regards id (.get id)
  | write {q : Query} {change : Record → Except TaskError Record} : q.Writes id change → Regards id q

namespace Memory

variable {m m' : Memory} {id id' : TaskId} {change change' : Record → Except TaskError Record}

theorem answer_of_writes {q : Query} (hq : q.Writes id change) (m : Memory) :
    (answer q m).2 = (m.modify id change).2 := by
  cases hq <;> rfl

/-- The answer depends on nothing but the record. -/
theorem answer_fst_of_regards {q : Query} (hq : q.Regards id) (h : m.find? id = m'.find? id) :
    (answer q m).1 = (answer q m').1 := by
  cases hq with
  | get => exact congrArg Except.ok h
  | @write _ change hq =>
      have hmodify : (m.modify id change).1 = (m'.modify id change).1 := by
        simp only [modify, h]
        cases m'.find? id with
        | none => rfl
        | some r =>
            dsimp only
            cases change r <;> rfl
      cases hq <;> exact congrArg Except.ok hmodify

/-- The one record is decided upon, and all others stay as they are. -/
theorem records_modify (keeps : ∀ r c, change r = .ok c → c.id = r.id) (m : Memory) :
    (m.modify id change).2.records =
      m.records.map fun r => if r.id = id then (change r).toOption.getD r else r := by
  have hsame : ∀ f : Record → Record, (∀ r ∈ m.records, f r = r) → m.records = m.records.map f :=
    fun f hf => (List.map_id _).symm.trans (List.map_congr_left fun r hr => (hf r hr).symm)
  rcases m.modify_cases id change with ⟨hnone, h⟩ | ⟨r, e, hr, hc, h⟩ | ⟨r, c, hr, hc, h⟩
  · rw [h]
    refine hsame _ fun r hr => if_neg fun hid => ?_
    exact find?_eq_none_iff.1 hnone (List.mem_map.2 ⟨r, hr, hid⟩)
  · rw [h]
    refine hsame _ fun r' hr' => ?_
    split
    · next hid =>
      rw [eq_of_find? hr hr' hid, hc]
      rfl
    · rfl
  · rw [h]
    have hid : c.id = id := (keeps r c hc).trans (id_of_find? hr)
    refine List.map_congr_left fun r' hr' => ?_
    rw [hid]
    split
    · next hid' =>
      rw [eq_of_find? hr hr' hid', hc]
      rfl
    · rfl

theorem modify_comm (keeps : ∀ r c, change r = .ok c → c.id = r.id)
    (keeps' : ∀ r c, change' r = .ok c → c.id = r.id) (hne : id ≠ id') (m : Memory) :
    ((m.modify id' change').2.modify id change).2 =
      ((m.modify id change).2.modify id' change').2 := by
  have hid : ∀ {f : Record → Except TaskError Record}, (∀ r c, f r = .ok c → c.id = r.id) →
      ∀ r, ((f r).toOption.getD r).id = r.id := by
    intro f hf r
    cases hr : f r with
    | error e => rfl
    | ok c => exact hf r c hr
  refine eq_of_records ?_
  rw [records_modify keeps, records_modify keeps', records_modify keeps', records_modify keeps,
    List.map_map, List.map_map]
  refine List.map_congr_left fun r _ => ?_
  by_cases hr : r.id = id
  · have hr' : r.id ≠ id' := fun h => hne (hr.symm.trans h)
    simp only [Function.comp_apply, if_pos hr, if_neg hr', hid keeps]
  · by_cases hr' : r.id = id'
    · simp only [Function.comp_apply, if_neg hr, if_pos hr', hid keeps']
    · simp only [Function.comp_apply, if_neg hr, if_neg hr']

/-- A question about another record leaves the record of an identifier as it is. -/
theorem find?_of_regards {q : Query} (hq : q.Regards id') (hne : id ≠ id') (m : Memory) :
    (answer q m).2.find? id = m.find? id := by
  cases hq with
  | get => rfl
  | write hq => rw [answer_of_writes hq, find?_modify (fun r c => hq.id_eq), if_neg (Ne.symm hne)]

/-- **Questions about different records keep apart.** -/
theorem apart_of_regards {q q' : Query} (hq : q.Regards id) (hq' : q'.Regards id')
    (hne : id ≠ id') : Apart (I := interface) answer (request q) (request q') := by
  refine ⟨fun m => ?_, fun m => ?_, fun m => ?_⟩
  · exact answer_fst_of_regards hq (find?_of_regards hq' hne m)
  · exact answer_fst_of_regards hq' (find?_of_regards hq (Ne.symm hne) m)
  · change (answer q (answer q' m).2).2 = (answer q' (answer q m).2).2
    cases hq with
    | get => rfl
    | write hq =>
        cases hq' with
        | get => rfl
        | write hq' =>
            simp only [answer_of_writes hq, answer_of_writes hq']
            exact modify_comm (fun r c => hq.id_eq) (fun r c => hq'.id_eq) hne m

end Memory

end Store

/-! ### Lookups -/

namespace Broker

/-- A question has a job looked up and does nothing else. -/
inductive Query.LooksUp : Query → Prop
  | state (handle : Handle) : LooksUp (.state handle)
  | failureDetail (handle : Handle) : LooksUp (.failureDetail handle)

namespace Memory

theorem keep_comm (m : Memory) (p p' : Job → Bool) : (m.keep p).keep p' = (m.keep p').keep p := by
  refine eq_of_jobs ?_ rfl rfl rfl
  simp only [keep, List.filter_filter, Bool.and_comm]

/-- A lookup finds what it would find after another one. -/
theorem lookup_fst_lookup (m : Memory) (now : Instant) (handle handle' : Handle) :
    ((m.lookup now handle').2.lookup now handle).1 = (m.lookup now handle).1 := by
  have hexpired : (m.lookup now handle').2.isExpired now = m.isExpired now := rfl
  rw [lookup_fst, lookup_fst, find?_lookup, hexpired]
  split
  · rw [Option.filter_filter]
    simp only [Bool.and_self]
  · rfl

/-- **All lookups keep apart**, even of the same job. -/
theorem apart_of_looksUp (now : Instant) (fresh : Handle) {q q' : Query} (hq : q.LooksUp)
    (hq' : q'.LooksUp) :
    Apart (I := interface) (answer now fresh) (request q) (request q') := by
  have key : ∀ {q q' : Query}, q.LooksUp → q'.LooksUp → ∀ m : Memory,
      (answer now fresh q (answer now fresh q' m).2).1 = (answer now fresh q m).1 ∧
        (answer now fresh q (answer now fresh q' m).2).2 =
          (answer now fresh q' (answer now fresh q m).2).2 := by
    intro q q' hq hq' m
    cases havailable : m.available with
    | false => simp only [answer_of_unavailable now fresh havailable, and_self]
    | true =>
        have h : ∀ handle, (m.lookup now handle).2.available = true := fun _ => havailable
        cases hq <;> cases hq' <;>
          simp only [answer_state now fresh havailable, answer_failureDetail now fresh havailable,
            answer_state now fresh (h _), answer_failureDetail now fresh (h _), lookup_fst_lookup,
            true_and] <;>
          exact keep_comm m _ _
  exact ⟨fun m => (key hq hq' m).1, fun m => (key hq' hq m).1, fun m => (key hq hq' m).2⟩

end Memory

end Broker

/-! ### Calls -/

/-- A lookup uses nothing of the supply. -/
theorem Backend.answer_of_looksUp {q : Broker.Query} (hq : q.LooksUp) (b : Backend) :
    b.answer (.broker q) =
      ((Broker.Memory.answer b.clock (b.supply.handle b.handlesUsed) q b.broker).1,
        { b with broker :=
          (Broker.Memory.answer b.clock (b.supply.handle b.handlesUsed) q b.broker).2 }) := by
  cases hq <;> rfl

namespace Service

/-- The calls of someone who looks after a task. -/
inductive Call.Tends (id : TaskId) : Call → Prop
  | store {q : Store.Query} : q.Regards id → Tends id (.store q)
  | broker {q : Broker.Query} : q.LooksUp → Tends id (.broker q)
  | now : Tends id .now

/-- **Whoever looks after one task keeps apart from whoever looks after another.** -/
theorem Call.Tends.apart {id id' : TaskId} {q q' : Call} (hq : q.Tends id) (hq' : q'.Tends id')
    (hne : id ≠ id') : Apart (I := calls) Backend.answer (request q) (request q') := by
  have hnow : ∀ q : Call, Apart (I := calls) Backend.answer (request (I := calls) .now) (request q) :=
    fun q => ⟨fun b => b.clock_answer q, fun _ => rfl, fun _ => rfl⟩
  cases hq with
  | now => exact hnow q'
  | store hq =>
      cases hq' with
      | now => exact (hnow _).symm
      | broker hq' => exact ⟨fun _ => rfl, fun _ => rfl, fun _ => rfl⟩
      | store hq' =>
          have h := Store.Memory.apart_of_regards hq hq' hne
          exact ⟨fun b => h.first b.store, fun b => h.second b.store,
            fun b => congrArg (fun store => { b with store }) (h.state b.store)⟩
  | @broker q hq =>
      cases hq' with
      | now => exact (hnow _).symm
      | store hq' => exact ⟨fun _ => rfl, fun _ => rfl, fun _ => rfl⟩
      | @broker q' hq' =>
          have h := fun b : Backend =>
            Broker.Memory.apart_of_looksUp b.clock (b.supply.handle b.handlesUsed) hq hq'
          refine ⟨fun b => ?_, fun b => ?_, fun b => ?_⟩
          · change (Backend.answer (.broker q) (Backend.answer (.broker q') b).2).1 = _
            rw [Backend.answer_of_looksUp hq', Backend.answer_of_looksUp hq]
            exact (h b).first b.broker
          · change (Backend.answer (.broker q') (Backend.answer (.broker q) b).2).1 = _
            rw [Backend.answer_of_looksUp hq, Backend.answer_of_looksUp hq']
            exact (h b).second b.broker
          · change (Backend.answer (.broker q) (Backend.answer (.broker q') b).2).2 =
              (Backend.answer (.broker q') (Backend.answer (.broker q) b).2).2
            rw [Backend.answer_of_looksUp hq', Backend.answer_of_looksUp hq,
              Backend.answer_of_looksUp hq, Backend.answer_of_looksUp hq']
            exact congrArg (fun broker => { b with broker }) ((h b).state b.broker)

/-- Reconciling a task is looking after it. -/
theorem asksOnly_reconcile (limit : TimeLimit) (id : TaskId) :
    (reconcile limit id).AsksOnly (Call.Tends id) := by
  intro h q hasks
  cases asks_reconcile hasks with
  | get => exact .store .get
  | now => exact .now
  | state => exact .broker (.state _)
  | detail => exact .broker (.failureDetail _)
  | late => exact .store (.write (.finish _ _))
  | told => exact .store (.write (.finish _ _))
  | dead => exact .store (.write (.finishFrom _ _ _))

end Service

end TaskLedger
