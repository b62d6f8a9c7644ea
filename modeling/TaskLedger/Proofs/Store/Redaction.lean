import TaskLedger.Proofs.Store.Change

/-!
**A store with its internal texts left out.**

The technical detail of a record is meant for operators.  It is kept and handed on, and nothing is
decided by it: an operation on a record without its detail does the same as on the whole record, and
so do the questions to a store.

Main definitions:

* `TaskLedger.FinalUpdate.redacted`, `TaskLedger.Record.redacted`,
  `TaskLedger.Store.Memory.redacted` — what is left without the details.

Main results:

* `TaskLedger.Store.Memory.modify_redacted` — what is decided by a redacted record is decided by the
  record;
* `TaskLedger.Store.Memory.insert_redacted`, `TaskLedger.Store.Memory.listOpen_redacted` and their
  neighbours — the questions to a redacted store.
-/

set_option autoImplicit false

namespace TaskLedger

/-! ### Records -/

/-- What is to be recorded when a task ends, without the detail for operators. -/
def FinalUpdate.redacted (u : FinalUpdate) : FinalUpdate := { u with technicalDetail := none }

namespace Record

/-- A record without the detail for operators. -/
def redacted (r : Record) : Record := { r with technicalDetail := none }

/-- Two records differ in the detail for operators only if one is the other with another detail. -/
theorem redacted_eq_iff {r r' : Record} :
    r.redacted = r'.redacted ↔ ∃ detail, r' = { r with technicalDetail := detail } := by
  constructor
  · intro h
    refine ⟨r'.technicalDetail, ?_⟩
    obtain ⟨⟩ := r
    obtain ⟨⟩ := r'
    simp only [redacted, mk.injEq] at h ⊢
    simp [h]
  · rintro ⟨detail, rfl⟩
    rfl

variable (r : Record)

theorem assignHandle_redacted (handle : Handle) :
    r.redacted.assignHandle handle = (r.assignHandle handle).map redacted := by
  simp only [assignHandle, apply_ite (Except.map redacted)]
  rfl

theorem start_redacted : r.redacted.start = r.start.map redacted := by
  simp only [start, apply_ite (Except.map redacted)]
  rfl

theorem appendLog_redacted (message : String) :
    r.redacted.appendLog message = (r.appendLog message).map redacted := by
  simp only [appendLog, apply_ite (Except.map redacted)]
  rfl

theorem finish_redacted (u : FinalUpdate) :
    r.redacted.finish u.redacted = (r.finish u).map redacted := by
  simp only [finish, apply_ite (Except.map redacted)]
  rfl

end Record

/-! ### Stores -/

namespace Store.Memory

variable {m m' : Memory}

theorem finishAt_redacted (source : Status) (u : FinalUpdate) (r : Record) :
    finishAt source u.redacted r.redacted = (finishAt source u r).map Record.redacted := by
  simp only [finishAt, apply_ite (Except.map Record.redacted), r.finish_redacted u]
  rfl

/-- A store without the details for operators. -/
def redacted (m : Memory) : Memory where
  records := m.records.map Record.redacted
  distinct := by
    rw [List.map_map]
    exact m.distinct

theorem ids_redacted (m : Memory) : m.redacted.records.map Record.id = m.records.map Record.id := by
  rw [redacted, List.map_map]
  rfl

theorem find?_redacted (m : Memory) (id : TaskId) :
    m.redacted.find? id = (m.find? id).map Record.redacted := List.find?_map ..

theorem insert_redacted (m : Memory) (record : Record) :
    m.redacted.insert record.redacted = ((m.insert record).1, (m.insert record).2.redacted) := by
  have hid : record.redacted.id ∈ m.redacted.records.map Record.id ↔
      record.id ∈ m.records.map Record.id := by
    rw [ids_redacted]
    rfl
  by_cases h : record.id ∈ m.records.map Record.id
  · rw [insert, dif_pos (hid.2 h), insert, dif_pos h]
    rfl
  · rw [insert, dif_neg (mt hid.1 h), insert, dif_neg h]
    exact Prod.ext rfl (eq_of_records (by simp [redacted]))

theorem replace_redacted (m : Memory) (record : Record) :
    m.redacted.replace record.redacted = (m.replace record).redacted := by
  refine eq_of_records ?_
  simp only [replace, redacted, List.map_map]
  refine List.map_congr_left fun r _ => ?_
  change (if r.id = record.id then _ else _) = Record.redacted (if _ then _ else _)
  split <;> rfl

/-- **What is decided by a redacted record is decided by the record.** -/
theorem modify_redacted (m : Memory) (id : TaskId) {change change' : Record → Except TaskError Record}
    (hchange : ∀ r, change' r.redacted = (change r).map Record.redacted) :
    m.redacted.modify id change' = ((m.modify id change).1, (m.modify id change).2.redacted) := by
  simp only [modify, find?_redacted]
  cases m.find? id with
  | none => rfl
  | some r =>
      simp only [Option.map_some, hchange]
      cases change r with
      | error e => rfl
      | ok c => exact Prod.ext rfl (m.replace_redacted c)

/-- Conditional writes that decide alike of redacted records do so of stores that are alike. -/
theorem modify_alike (hm : m.redacted = m'.redacted) (id : TaskId)
    (change change' common : Record → Except TaskError Record)
    (hchange : ∀ r, common r.redacted = (change r).map Record.redacted)
    (hchange' : ∀ r, common r.redacted = (change' r).map Record.redacted) :
    (.ok (m.modify id change).1 : Except Fault Outcome) = .ok (m'.modify id change').1 ∧
      (m.modify id change).2.redacted = (m'.modify id change').2.redacted := by
  have h := m.modify_redacted id hchange
  rw [hm, m'.modify_redacted id hchange'] at h
  exact ⟨congrArg Except.ok (congrArg Prod.fst h).symm, (congrArg Prod.snd h).symm⟩

theorem finish_alike (hm : m.redacted = m'.redacted) (id : TaskId) {u u' : FinalUpdate}
    (hu : u.redacted = u'.redacted) :
    (.ok (m.modify id (·.finish u)).1 : Except Fault Outcome) = .ok (m'.modify id (·.finish u')).1 ∧
      (m.modify id (·.finish u)).2.redacted = (m'.modify id (·.finish u')).2.redacted :=
  modify_alike hm id _ _ (·.finish u.redacted) (fun r => r.finish_redacted u)
    fun r => hu ▸ r.finish_redacted u'

theorem finishAt_alike (hm : m.redacted = m'.redacted) (id : TaskId) (source : Status)
    {u u' : FinalUpdate} (hu : u.redacted = u'.redacted) :
    (.ok (m.modify id (finishAt source u)).1 : Except Fault Outcome) =
        .ok (m'.modify id (finishAt source u')).1 ∧
      (m.modify id (finishAt source u)).2.redacted =
        (m'.modify id (finishAt source u')).2.redacted :=
  modify_alike hm id _ _ (finishAt source u.redacted) (fun r => finishAt_redacted source u r)
    fun r => hu ▸ finishAt_redacted source u' r

theorem listOpen_redacted (m : Memory) : m.redacted.listOpen = m.listOpen.map Record.redacted := by
  have hsort := List.map_mergeSort (r := listedBefore) (s := listedBefore) (f := Record.redacted)
    (l := m.records.filter (!·.isTerminal)) fun _ _ _ _ => rfl
  rw [listOpen, listOpen, hsort, redacted, List.filter_map]
  rfl

theorem counts_redacted (m : Memory) : m.redacted.counts = m.counts := by
  rw [counts, counts, redacted, List.foldl_map]
  rfl

end Store.Memory

end TaskLedger
