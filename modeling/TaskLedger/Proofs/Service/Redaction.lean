import TaskLedger.Proofs.Broker.Redaction
import TaskLedger.Proofs.Service.Ledger
import TaskLedger.Proofs.Store.Redaction

/-!
**A backend with its internal texts left out.**

Two backends that differ in internal texts only, in the details of records and in the reasons why jobs
have failed, differ in nothing else after any call, and so do their replies.  The same is true if the
calls themselves differ in the texts that they bring along.

Main definitions:

* `TaskLedger.Backend.redacted` — what is left of a backend without its texts;
* `TaskLedger.Service.Call.ReplyAlike`, `TaskLedger.Service.Call.Alike` — replies, and calls, that
  differ in internal texts only.

Main results:

* `TaskLedger.Backend.answer_alike` — **calls and backends that differ in internal texts only make
  replies and backends that do**.
-/

set_option autoImplicit false

namespace TaskLedger

/-! ### Calls and replies -/

namespace Service

/-- Two replies to a call differ in internal texts only: in those of records, in the reason why a job
has failed, and in what the broker says when it cannot answer. -/
def Call.ReplyAlike : (q : Call) → q.Reply → q.Reply → Prop
  | .store (.get _), a, a' =>
      a.map (Option.map Record.redacted) = a'.map (Option.map Record.redacted)
  | .store .listOpen, a, a' =>
      a.map (List.map Record.redacted) = a'.map (List.map Record.redacted)
  | .store (.insert _), a, a' | .store (.setHandle _ _), a, a' | .store (.markRunning _), a, a'
  | .store (.appendLog _ _), a, a' | .store (.finish _ _), a, a'
  | .store (.finishFrom _ _ _), a, a' | .store .counts, a, a' => a = a'
  | .broker (.failureDetail _), _, _ => True
  | .broker (.dispatch _ _ _), a, a' | .broker (.state _), a, a' | .broker (.revoke _), a, a' =>
      a.toOption = a'.toOption
  | .now, a, a' | .freshId, a, a' => a = a'

/-- Two calls differ in internal texts only, each time with what it means for the replies to them. -/
inductive Call.Alike : (q q' : Call) → (q.Reply → q'.Reply → Prop) → Prop
  | same (q : Call) : Alike q q q.ReplyAlike
  | finish (id : TaskId) {u u' : FinalUpdate} : u.redacted = u'.redacted →
      Alike (.store (.finish id u)) (.store (.finish id u')) Eq
  | finishFrom (id : TaskId) (source : Status) {u u' : FinalUpdate} : u.redacted = u'.redacted →
      Alike (.store (.finishFrom id source u)) (.store (.finishFrom id source u')) Eq

end Service

open Service

/-- Stores that are alike reply alike, and stay alike. -/
theorem Store.Memory.answer_alike {m m' : Memory} (hm : m.redacted = m'.redacted) (q : Query) :
    Call.ReplyAlike (.store q) (answer q m).1 (answer q m').1 ∧
      (answer q m).2.redacted = (answer q m').2.redacted := by
  cases q with
  | insert record =>
      have h := m.insert_redacted record
      rw [hm, m'.insert_redacted record] at h
      exact ⟨(congrArg Prod.fst h).symm, (congrArg Prod.snd h).symm⟩
  | get id =>
      refine ⟨?_, hm⟩
      have h := m.find?_redacted id
      rw [hm, m'.find?_redacted id] at h
      exact congrArg Except.ok h.symm
  | setHandle id handle =>
      exact modify_alike hm id _ _ (·.assignHandle handle) (fun r => r.assignHandle_redacted handle)
        fun r => r.assignHandle_redacted handle
  | markRunning id =>
      exact modify_alike hm id _ _ (·.start) (fun r => r.start_redacted) fun r => r.start_redacted
  | appendLog id message =>
      exact modify_alike hm id _ _ (·.appendLog message) (fun r => r.appendLog_redacted message)
        fun r => r.appendLog_redacted message
  | finish id u => exact finish_alike hm id rfl
  | finishFrom id source u => exact finishAt_alike hm id source rfl
  | listOpen =>
      refine ⟨?_, hm⟩
      have h := m.listOpen_redacted
      rw [hm, m'.listOpen_redacted] at h
      exact congrArg Except.ok h.symm
  | counts =>
      refine ⟨?_, hm⟩
      have h := m.counts_redacted
      rw [hm, m'.counts_redacted] at h
      exact congrArg Except.ok h.symm

/-- Brokers that are alike reply alike, and stay alike. -/
theorem Broker.Memory.answer_alike {m m' : Memory} (hm : m.redacted = m'.redacted) (now : Instant)
    (fresh : Handle) (q : Query) :
    Call.ReplyAlike (.broker q) (answer now fresh q m).1 (answer now fresh q m').1 ∧
      (answer now fresh q m).2.redacted = (answer now fresh q m').2.redacted := by
  refine ⟨?_, by rw [redacted_answer, redacted_answer, hm]⟩
  have hsame : (∀ handle, q ≠ .failureDetail handle) →
      (answer now fresh q m).1.toOption = (answer now fresh q m').1.toOption := by
    intro hq
    rw [← answer_redacted_fst m now fresh hq, hm, answer_redacted_fst m' now fresh hq]
  cases q with
  | failureDetail handle => trivial
  | dispatch | state | revoke => exact hsame nofun

namespace Backend

/-- A backend without its internal texts. -/
def redacted (b : Backend) : Backend :=
  { b with store := b.store.redacted, broker := b.broker.redacted }

variable {b b' : Backend}

theorem redacted_eq_iff : b.redacted = b'.redacted ↔
    b.store.redacted = b'.store.redacted ∧ b.broker.redacted = b'.broker.redacted ∧
      b.clock = b'.clock ∧ b.supply = b'.supply ∧ b.idsUsed = b'.idsUsed ∧
        b.handlesUsed = b'.handlesUsed := by
  simp only [redacted, mk.injEq]

/-- **Calls and backends that differ in internal texts only make replies and backends that do.** -/
theorem answer_alike {q q' : Call} {A : q.Reply → q'.Reply → Prop} (hq : Call.Alike q q' A)
    (hb : b.redacted = b'.redacted) :
    A (b.answer q).1 (b'.answer q').1 ∧ (b.answer q).2.redacted = (b'.answer q').2.redacted := by
  obtain ⟨hstore, hbroker, hclock, hsupply, hids, hhandles⟩ := redacted_eq_iff.1 hb
  cases hq with
  | finish id hu =>
      obtain ⟨hreply, hafter⟩ := Store.Memory.finish_alike hstore id hu
      exact ⟨hreply, redacted_eq_iff.2 ⟨hafter, hbroker, hclock, hsupply, hids, hhandles⟩⟩
  | finishFrom id source hu =>
      obtain ⟨hreply, hafter⟩ := Store.Memory.finishAt_alike hstore id source hu
      exact ⟨hreply, redacted_eq_iff.2 ⟨hafter, hbroker, hclock, hsupply, hids, hhandles⟩⟩
  | same =>
      cases q with
      | now => exact ⟨hclock, hb⟩
      | freshId =>
          refine ⟨?_, redacted_eq_iff.2 ⟨hstore, hbroker, hclock, hsupply, ?_, hhandles⟩⟩
          · change b.supply.taskId b.idsUsed = b'.supply.taskId b'.idsUsed
            rw [hsupply, hids]
          · exact congrArg (· + 1) hids
      | store query =>
          obtain ⟨hreply, hafter⟩ := Store.Memory.answer_alike hstore query
          exact ⟨hreply, redacted_eq_iff.2 ⟨hafter, hbroker, hclock, hsupply, hids, hhandles⟩⟩
      | broker query =>
          have havailable : b.broker.redacted.available = b'.broker.redacted.available :=
            congrArg Broker.Memory.available hbroker
          have hused : handlesFor b.broker query = handlesFor b'.broker query := by
            change b.broker.available = b'.broker.available at havailable
            simp only [handlesFor, havailable]
          obtain ⟨hreply, hafter⟩ := Broker.Memory.answer_alike hbroker b.clock
            (b.supply.handle b.handlesUsed) query
          simp only [answer]
          rw [← hclock, ← hsupply, ← hhandles]
          refine ⟨hreply, redacted_eq_iff.2 ⟨hstore, hafter, rfl, rfl, hids, ?_⟩⟩
          exact congrArg (b.handlesUsed + ·) hused

end Backend

end TaskLedger
