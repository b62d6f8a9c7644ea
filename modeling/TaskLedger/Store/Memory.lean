import TaskLedger.Store.Query

/-!
**A store in memory.**

The records stand in the order of their insertion, each identifier once.  A conditional write finds
the record, lets it decide by its own rules, and changes nothing if it refuses.

Main definitions:

* `TaskLedger.Store.Memory` — the store;
* `TaskLedger.Store.Memory.find?` — the record of an identifier, the view of everything else;
* `TaskLedger.Store.Memory.insert`, `TaskLedger.Store.Memory.modify` — the two ways it changes;
* `TaskLedger.Store.Memory.listOpen`, `TaskLedger.Store.Memory.counts` — what it tells of the whole;
* `TaskLedger.Store.Memory.answer` — its answers to all questions.

Main results:

* `TaskLedger.Store.Memory.find?_insert`, `TaskLedger.Store.Memory.find?_modify` — the view after a
  change.
-/

set_option autoImplicit false

namespace TaskLedger.Store

/-- The records of a store, each identifier once. -/
structure Memory where
  records : List Record
  distinct : (records.map Record.id).Nodup

namespace Memory

/-- The store without records. -/
def empty : Memory := ⟨[], by simp⟩

/-- The record of an identifier. -/
def find? (m : Memory) (id : TaskId) : Option Record := m.records.find? (·.id = id)

/-! ### Changing -/

/-- Adds a record unless its identifier is taken. -/
def insert (m : Memory) (record : Record) : Except Fault TaskId × Memory :=
  if h : record.id ∈ m.records.map Record.id then (.error (.alreadyExists record.id), m)
  else (.ok record.id, ⟨m.records ++ [record], by
    rw [List.map_append, List.nodup_append]
    refine ⟨m.distinct, by simp, ?_⟩
    intro a ha b hb
    simp only [List.map_cons, List.map_nil, List.mem_singleton] at hb
    subst hb
    exact fun e => h (e ▸ ha)⟩)

/-- Puts a record in the place of the one with its identifier. -/
def replace (m : Memory) (record : Record) : Memory where
  records := m.records.map fun r => if r.id = record.id then record else r
  distinct := by
    have : (m.records.map fun r => if r.id = record.id then record else r).map Record.id
        = m.records.map Record.id := by
      rw [List.map_map]
      refine List.map_congr_left fun r _ => ?_
      by_cases h : r.id = record.id <;> simp [h]
    rw [this]
    exact m.distinct

/-- Changes the record of an identifier as the record itself allows. -/
def modify (m : Memory) (id : TaskId) (change : Record → Except TaskError Record) :
    Outcome × Memory :=
  match m.find? id with
  | none => (.notFound, m)
  | some r =>
      match change r with
      | .ok changed => (.applied, m.replace changed)
      | .error _ => (.rejected r.status, m)

/-- Ends a record only if it is still at a given stage. -/
def finishAt (source : Status) (update : FinalUpdate) (r : Record) : Except TaskError Record :=
  if r.status = source then r.finish update
  else .error (.invalidTransition r.status update.status)

/-! ### Telling -/

/-- Whether a record is listed before another: by the time of creation, then by the identifier. -/
def listedBefore (a b : Record) : Bool :=
  a.createdAt.precedes b.createdAt || (a.createdAt = b.createdAt && !b.id.precedes a.id)

/-- The records of tasks that have not ended, oldest first. -/
def listOpen (m : Memory) : List Record :=
  (m.records.filter (!·.isTerminal)).mergeSort listedBefore

/-- The number of records at each stage. -/
def counts (m : Memory) : Counts := m.records.foldl (fun c r => c.add r.status 1) {}

/-! ### Answering -/

/-- The answers of the store. -/
def answer : (q : Query) → Memory → interface.Answer q × Memory
  | .insert record, m => m.insert record
  | .get id, m => (.ok (m.find? id), m)
  | .setHandle id handle, m => done (m.modify id (·.assignHandle handle))
  | .markRunning id, m => done (m.modify id (·.start))
  | .appendLog id message, m => done (m.modify id (·.appendLog message))
  | .finish id update, m => done (m.modify id (·.finish update))
  | .finishFrom id source update, m => done (m.modify id (finishAt source update))
  | .listOpen, m => (.ok m.listOpen, m)
  | .counts, m => (.ok m.counts, m)
where
  /-- A write never fails, whatever becomes of it. -/
  done (result : Outcome × Memory) : Except Fault Outcome × Memory := (.ok result.1, result.2)

/-! ### The view after a change -/

@[simp] theorem find?_empty (id : TaskId) : empty.find? id = none := rfl

theorem id_of_find? {m : Memory} {id : TaskId} {r : Record} (h : m.find? id = some r) :
    r.id = id := by
  simpa using List.find?_some h

theorem find?_eq_none_iff {m : Memory} {id : TaskId} :
    m.find? id = none ↔ id ∉ m.records.map Record.id := by
  simp only [find?, List.find?_eq_none, decide_eq_true_eq, List.mem_map, not_exists, not_and]

/-- The view after an insertion. -/
theorem find?_insert {m : Memory} {record : Record} (id : TaskId) :
    (m.insert record).2.find? id =
      if m.find? record.id = none ∧ record.id = id then some record else m.find? id := by
  by_cases h : record.id ∈ m.records.map Record.id
  · have : m.find? record.id ≠ none := fun hn => find?_eq_none_iff.1 hn h
    simp [insert, h, this]
  · have hn : m.find? record.id = none := find?_eq_none_iff.2 h
    rw [insert, dif_neg h]
    simp only [hn, true_and]
    simp only [find?, List.find?_append]
    by_cases hid : record.id = id
    · subst hid
      have hf : m.records.find? (·.id = record.id) = none := hn
      simp [hf]
    · cases hf : m.records.find? (·.id = id) <;> simp [hid]

theorem find?_replace {m : Memory} {record : Record} (id : TaskId)
    (h : m.find? record.id ≠ none) :
    (m.replace record).find? id = if record.id = id then some record else m.find? id := by
  have key : ∀ rs : List Record, (rs.map fun r => if r.id = record.id then record else r).find?
      (·.id = id) = if record.id = id then (rs.find? (·.id = record.id)).map fun _ => record
        else rs.find? (·.id = id) := by
    intro rs
    induction rs with
    | nil => simp
    | cons r rs ih =>
        simp only [List.map_cons, List.find?_cons, ih]
        by_cases hr : r.id = record.id <;> by_cases hk : record.id = id
        · simp [hr, hk]
        · simp [hr, hk]
        · have : ¬ r.id = id := fun e => hr (e.trans hk.symm)
          simp [hk, this]
        · have hk' : ¬ id = record.id := Ne.symm hk
          by_cases hi : r.id = id <;> simp [hr, hk, hi, hk']
  rw [find?, replace, key]
  by_cases hk : record.id = id
  · obtain ⟨r, hr⟩ := Option.ne_none_iff_exists'.1 h
    rw [find?] at hr
    simp [hk] at hr ⊢
    simp [hr]
  · simp [hk, find?]

/-- The view after a conditional write by an operation that keeps identifiers. -/
theorem find?_modify {m : Memory} {id : TaskId} {change : Record → Except TaskError Record}
    (keeps : ∀ r c, change r = .ok c → c.id = r.id) (k : TaskId) :
    (m.modify id change).2.find? k =
      if id = k then
        (m.find? id).map fun r =>
          match change r with
          | .ok changed => changed
          | .error _ => r
      else m.find? k := by
  cases hf : m.find? id with
  | none =>
      simp only [modify, hf]
      by_cases h : id = k
      · subst h; simp [hf]
      · simp [h]
  | some r =>
      have hid := id_of_find? hf
      cases hc : change r with
      | error e =>
          simp only [modify, hf, hc]
          by_cases h : id = k
          · subst h; simp [hf, hc]
          · simp [h]
      | ok changed =>
          have hk := (keeps r changed hc).trans hid
          simp only [modify, hf, hc]
          rw [find?_replace k (by simp [hk, hf])]
          simp [hk, hc]

end Memory

end TaskLedger.Store
