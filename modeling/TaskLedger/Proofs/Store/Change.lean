import TaskLedger.Store.Memory

/-!
**What a question does to a store.**

A store in memory is changed by two kinds of questions only.  An insertion adds the record of a new
identifier; a conditional write lets the record of one identifier decide, by one of the operations
on records, what becomes of it.  What any question makes of the record of any identifier is said
here once, and every invariant of the store is derived from it.

Main definitions:

* `TaskLedger.Store.Query.Writes` — the conditional writes, each with its record and its operation;
* `TaskLedger.Store.Query.Makes` — what a question may make of the record of an identifier;
* `TaskLedger.Store.Memory.after` — a store after a run of questions.

Main results:

* `TaskLedger.Store.Memory.makes_answer` — nothing else happens to the record of an identifier;
* `TaskLedger.Store.Memory.modify_cases` — a conditional write finds no record, is refused, or is
  done.
-/

set_option autoImplicit false

namespace TaskLedger.Store

/-! ### The conditional writes -/

/-- A question is a conditional write of the record of an identifier, by an operation on records. -/
inductive Query.Writes : Query → TaskId → (Record → Except TaskError Record) → Prop
  | setHandle (id : TaskId) (handle : Handle) :
      Writes (.setHandle id handle) id (·.assignHandle handle)
  | markRunning (id : TaskId) : Writes (.markRunning id) id (·.start)
  | appendLog (id : TaskId) (message : String) :
      Writes (.appendLog id message) id (·.appendLog message)
  | finish (id : TaskId) (update : FinalUpdate) : Writes (.finish id update) id (·.finish update)
  | finishFrom (id : TaskId) (source : Status) (update : FinalUpdate) :
      Writes (.finishFrom id source update) id (Memory.finishAt source update)

theorem Memory.finishAt_eq_ok_iff {source : Status} {update : FinalUpdate} {r c : Record} :
    finishAt source update r = .ok c ↔ r.status = source ∧ r.finish update = .ok c := by
  unfold finishAt
  by_cases h : r.status = source <;> simp [h]

/-- No operation on records changes the identifier. -/
theorem Query.Writes.id_eq {q : Query} {id : TaskId} {change : Record → Except TaskError Record}
    (hq : q.Writes id change) {r c : Record} (h : change r = .ok c) : c.id = r.id := by
  cases hq with
  | setHandle => exact Record.id_of_assignHandle h
  | markRunning => exact Record.id_of_start h
  | appendLog => exact Record.id_of_appendLog h
  | finish => exact Record.id_of_finish h
  | finishFrom => exact Record.id_of_finish (Memory.finishAt_eq_ok_iff.1 h).2

/-- A conditional write finds no record, is refused by the record, or is done. -/
theorem Memory.modify_cases (m : Memory) (id : TaskId)
    (change : Record → Except TaskError Record) :
    (m.find? id = none ∧ m.modify id change = (.notFound, m)) ∨
      (∃ r e, m.find? id = some r ∧ change r = .error e ∧
        m.modify id change = (.rejected r.status, m)) ∨
      (∃ r c, m.find? id = some r ∧ change r = .ok c ∧
        m.modify id change = (.applied, m.replace c)) := by
  cases hf : m.find? id with
  | none => exact Or.inl ⟨rfl, by simp [modify, hf]⟩
  | some r =>
      cases hc : change r with
      | error e => exact Or.inr (Or.inl ⟨r, e, rfl, hc, by simp [modify, hf, hc]⟩)
      | ok c => exact Or.inr (Or.inr ⟨r, c, rfl, hc, by simp [modify, hf, hc]⟩)

/-- A conditional write of a record that is there is refused by the record, or is done. -/
theorem Memory.modify_of_find? {m : Memory} {id : TaskId} {r : Record} (h : m.find? id = some r)
    (change : Record → Except TaskError Record) :
    (∃ e, change r = .error e ∧ m.modify id change = (.rejected r.status, m)) ∨
      ∃ c, change r = .ok c ∧ m.modify id change = (.applied, m.replace c) := by
  rcases m.modify_cases id change with ⟨hnone, -⟩ | ⟨r', e, hr', hc, hm⟩ | ⟨r', c, hr', hc, hm⟩
  · rw [h] at hnone
    cases hnone
  · obtain rfl := Option.some.inj (h.symm.trans hr')
    exact Or.inl ⟨e, hc, hm⟩
  · obtain rfl := Option.some.inj (h.symm.trans hr')
    exact Or.inr ⟨c, hc, hm⟩

/-- What an insertion returns is the identifier of the record. -/
theorem Memory.insert_eq_ok {m : Memory} {record : Record} {k : TaskId}
    (h : (m.insert record).1 = .ok k) : k = record.id := by
  unfold insert at h
  split at h
  · cases h
  · exact (Except.ok.inj h).symm

/-- A record is added if its identifier is free. -/
theorem Memory.insert_of_free {m : Memory} {record : Record} (h : m.find? record.id = none) :
    (m.insert record).1 = .ok record.id := by
  rw [insert, dif_neg (find?_eq_none_iff.1 h)]

/-- A record that was added is found. -/
theorem Memory.find?_of_insert_eq_ok {m : Memory} {record : Record} {k : TaskId}
    (h : (m.insert record).1 = .ok k) : (m.insert record).2.find? k = some record := by
  obtain rfl := insert_eq_ok h
  unfold insert at h
  split at h
  · cases h
  · next hfree => rw [find?_insert, if_pos ⟨find?_eq_none_iff.2 hfree, rfl⟩]

/-! ### The records by their identifiers -/

namespace Memory

variable {m : Memory} {id : TaskId} {r : Record}

theorem eq_of_records {m' : Memory} (h : m.records = m'.records) : m = m' := by
  obtain ⟨records, _⟩ := m
  obtain ⟨records', _⟩ := m'
  obtain rfl : records = records' := h
  rfl

theorem mem_of_find? (h : m.find? id = some r) : r ∈ m.records := List.mem_of_find?_eq_some h

/-- A store holds one record of an identifier at most. -/
theorem filter_id (m : Memory) (id : TaskId) :
    m.records.filter (·.id = id) = (m.find? id).toList := by
  have key : ∀ records : List Record, (records.map Record.id).Nodup →
      records.filter (·.id = id) = (records.find? (·.id = id)).toList := by
    intro records
    induction records with
    | nil => exact fun _ => rfl
    | cons r records ih =>
        intro hnodup
        obtain ⟨hr, hrest⟩ := List.nodup_cons.1 hnodup
        by_cases hid : r.id = id
        · have hnone : records.filter (·.id = id) = [] := by
            refine List.filter_eq_nil_iff.2 fun r' hr' => ?_
            simp only [decide_eq_true_eq]
            rintro rfl
            exact hr (hid ▸ List.mem_map_of_mem hr')
          simp [hid, hnone]
        · simpa [hid] using ih hrest
  exact key m.records m.distinct

theorem find?_eq_some_iff : m.find? id = some r ↔ r ∈ m.records ∧ r.id = id := by
  rw [← Option.mem_toList.trans Option.mem_def, ← filter_id, List.mem_filter, decide_eq_true_iff]

theorem eq_of_find? {r' : Record} (h : m.find? id = some r) (hr' : r' ∈ m.records)
    (hid : r'.id = id) : r' = r :=
  Option.some.inj ((find?_eq_some_iff.2 ⟨hr', hid⟩).symm.trans h)

end Memory

/-! ### One question, seen from one identifier -/

/-- What a question may make of the record of an identifier, or of its absence. -/
inductive Query.Makes (q : Query) (k : TaskId) : Option Record → Option Record → Prop
  | same (r? : Option Record) : Makes q k r? r?
  | new (record : Record) : q = .insert record → record.id = k → Makes q k none (some record)
  | changed {r c : Record} {change : Record → Except TaskError Record} :
      q.Writes k change → change r = .ok c → Makes q k (some r) (some c)

namespace Memory

theorem makes_insert (m : Memory) (record : Record) (k : TaskId) :
    (Query.insert record).Makes k (m.find? k) ((m.insert record).2.find? k) := by
  rw [find?_insert]
  by_cases h : m.find? record.id = none ∧ record.id = k
  · obtain ⟨hn, rfl⟩ := h
    rw [if_pos ⟨hn, rfl⟩, hn]
    exact .new record rfl rfl
  · rw [if_neg h]
    exact .same _

theorem makes_modify (m : Memory) {q : Query} {id : TaskId}
    {change : Record → Except TaskError Record} (hq : q.Writes id change) (k : TaskId) :
    q.Makes k (m.find? k) ((m.modify id change).2.find? k) := by
  rcases m.modify_cases id change with ⟨-, h⟩ | ⟨r, e, -, -, h⟩ | ⟨r, c, hr, hc, h⟩
  · rw [h]
    exact .same _
  · rw [h]
    exact .same _
  · have hid : c.id = id := (hq.id_eq hc).trans (id_of_find? hr)
    rw [h, find?_replace k (by rw [hid, hr]; simp), hid]
    by_cases hk : id = k
    · subst hk
      rw [if_pos rfl, hr]
      exact .changed hq hc
    · rw [if_neg hk]
      exact .same _

/-- **What a question makes of the record of an identifier**: it stays as it is, it is inserted
where there was none, or it is changed by the operation of a conditional write. -/
theorem makes_answer (m : Memory) (q : Query) (k : TaskId) :
    q.Makes k (m.find? k) ((answer q m).2.find? k) := by
  cases q with
  | insert record => exact m.makes_insert record k
  | get => exact .same _
  | setHandle id handle => exact m.makes_modify (.setHandle id handle) k
  | markRunning id => exact m.makes_modify (.markRunning id) k
  | appendLog id message => exact m.makes_modify (.appendLog id message) k
  | finish id update => exact m.makes_modify (.finish id update) k
  | finishFrom id source update => exact m.makes_modify (.finishFrom id source update) k
  | listOpen => exact .same _
  | counts => exact .same _

/-! ### Runs -/

/-- A store after a run of questions. -/
def after (m : Memory) (run : List Query) : Memory := run.foldl (fun m q => (answer q m).2) m

@[simp] theorem after_nil (m : Memory) : m.after [] = m := rfl

@[simp] theorem after_cons (m : Memory) (q : Query) (run : List Query) :
    m.after (q :: run) = (answer q m).2.after run := rfl

theorem after_append (m : Memory) (before later : List Query) :
    m.after (before ++ later) = (m.after before).after later := by
  simp [after, List.foldl_append]

end Memory

end TaskLedger.Store
