import TaskLedger.Proofs.Sql.Writes

/-!
**A table that mirrors a store in memory.**

The rows of the table are those of the records of a store in memory.  An operation on the one side is
then, on the other, a statement, or a write that changes no row and a question why.  Each of them is
followed here through the database once: what it results in is what the store in memory answers, and
the table mirrors that store again.

Main definitions:

* `TaskLedger.Sql.Mirrors` — a database whose table mirrors a store in memory.

Main results:

* `TaskLedger.Sql.Mirrors.select_key` — the row of an identifier;
* `TaskLedger.Sql.Mirrors.insert`, `TaskLedger.Sql.Mirrors.get` — adding and looking up a record;
* `TaskLedger.Sql.Mirrors.write` — **a statement that stands for an operation on records does to the
  table what the operation does to the store**;
* `TaskLedger.Sql.Mirrors.unapplied` — a write that is not even tried is explained as one that is
  refused.
-/

set_option autoImplicit false

namespace TaskLedger.Sql

open Store (Memory Outcome)

/-- The table of a database mirrors a store in memory, all of whose records are tidy, and no statement
was refused for anything but a taken key. -/
structure Mirrors (db : Database) (m : Memory) : Prop where
  rows : db.rows = m.records.map cells
  tidy : ∀ r ∈ m.records, Tidy r
  refusals : ∀ code ∈ db.refusals, code = uniqueViolation

theorem mirrors_empty : Mirrors .empty .empty :=
  ⟨rfl, by simp [Memory.empty], by simp [Database.empty]⟩

/-! ### The rows of a store -/

/-- Rows have distinct keys if their records have distinct identifiers. -/
theorem nodup_keys_iff {records : List Record} :
    ((records.map cells).map (· .taskId)).Nodup ↔ (records.map Record.id).Nodup := by
  have hkeys : (records.map cells).map (· .taskId) =
      (records.map Record.id).map fun id => Value.uuid id.uuid := by
    rw [List.map_map, List.map_map]
    rfl
  rw [hkeys, List.nodup_map_iff]
  rintro ⟨u⟩ ⟨v⟩ h
  cases h
  rfl

/-- The schema has nothing against rows of tidy records. -/
theorem findSome?_violation? {written : List Record} (h : ∀ r ∈ written, Tidy r) :
    (written.map cells).findSome? violation? = none := by
  rw [List.findSome?_eq_none_iff]
  intro row hrow
  obtain ⟨r, hr, rfl⟩ := List.mem_map.1 hrow
  exact violation?_cells (h r hr)

/-- Rows of tidy records may be written if that leaves the rows of a store. -/
theorem settle_cells {written : List Record} (h : ∀ r ∈ written, Tidy r) (m : Memory) :
    settle (written.map cells) (m.records.map cells) =
      .ok ({ affected := written.length }, m.records.map cells) := by
  rw [settle, refusal?, findSome?_violation? h, if_pos (nodup_keys_iff.2 m.distinct), List.length_map]
  rfl

/-- The row of a record explains a write that was not applied. -/
theorem explain_row (r : Record) (rows : List Row) :
    explain ([(Column.status.name, cells r .status)] :: rows) = .ok (.rejected r.status) := by
  have hread : Row.required [(Column.status.name, cells r .status)] Column.status.name Value.text? =
      .ok r.status.name :=
    reads_text.required (List.mem_singleton_self Column.status) rfl
  rw [explain, hread]
  simp only [readStatus_name, Except.map]

/-! ### Requests in a dialogue -/

/-- A request within an operation. -/
theorem run_request (e : Engine) {α : Type} {r : Request}
    {f : Except ClientFault Reply → Exchange α} {db : Database} :
    (request r >>= f).run e.answer db = (f (e.answer r db).1).run e.answer (e.answer r db).2 := rfl

/-- A statement that is not refused, within an operation. -/
theorem run_ask (e : Engine) {α : Type} {operation : String} {statement : Statement}
    {params : List Value} {f : Except Store.Fault Reply → Exchange α} {db : Database} {reply : Reply}
    {rows : List Cells} (h : e.execute db statement params = .ok (reply, rows)) :
    (ask operation (.statement statement params) >>= f).run e.answer db =
      (f (.ok reply)).run e.answer { db with rows, executed := db.executed + 1 } := by
  have hrun : (ask operation (.statement statement params) >>= f).run e.answer db =
      (f ((e.answer (.statement statement params) db).1.mapError (·.toFault operation))).run e.answer
        (e.answer (.statement statement params) db).2 := rfl
  rw [hrun, e.answer_of_ok h]
  rfl

namespace Mirrors

variable {db : Database} {m : Memory} (e : Engine)

/-- Reading leaves the table as it is. -/
theorem after_read (h : Mirrors db m) :
    Mirrors { db with rows := db.rows, executed := db.executed + 1 } m :=
  ⟨h.rows, h.tidy, h.refusals⟩

/-! ### The row of an identifier -/

/-- The rows that are found by the identifier of a record. -/
theorem select_key (h : Mirrors db m) (columns : List Column) (id : TaskId) :
    e.execute db (.select columns [.equals .taskId 1] []) [.uuid id.uuid] =
      .ok ({ rows := (m.find? id).toList.map fun r => columns.map fun c => (c.name, cells r c) },
        db.rows) := by
  have hchosen : db.rows.filter (chosen [.equals .taskId 1] [.uuid id.uuid]) =
      (m.find? id).toList.map cells := by
    rw [h.rows, List.filter_map, ← Memory.filter_id]
    congr 1
    refine List.filter_congr fun r _ => ?_
    rw [Function.comp_apply, chosen_cons, chosen_nil, Bool.and_true, Bool.eq_iff_iff, holds_key,
      decide_eq_true_iff]
  -- there is one row at most, so neither the order nor the sorting matters
  have hsorted : ((e.arrange db.executed ((m.find? id).toList.map cells)).mergeSort (sortedBy [])) =
      (m.find? id).toList.map cells := by
    have hperm := (List.mergeSort_perm _ (sortedBy [])).trans
      (e.arrange_perm db.executed ((m.find? id).toList.map cells))
    cases hf : m.find? id with
    | none =>
        rw [hf] at hperm
        exact List.perm_nil.1 hperm
    | some r =>
        rw [hf] at hperm
        exact List.perm_singleton.1 hperm
  rw [e.execute_of_isStorable db _ (by simp [Value.isStorable]), Statement.execute, hchosen]
  simp only [hsorted, List.map_map]
  rfl

/-- Why a write is not applied that is not even tried: what the store in memory answers to an
operation that does not succeed. -/
theorem unapplied (h : Mirrors db m) {id : TaskId} {change : Record → Except TaskError Record}
    (hno : ∀ r c, m.find? id = some r → change r ≠ .ok c) :
    ((Sql.unapplied id).run e.answer db).1 = .ok (m.modify id change).1 ∧
      Mirrors ((Sql.unapplied id).run e.answer db).2 (m.modify id change).2 := by
  have hselect := h.select_key e [.status] id
  rcases m.modify_cases id change with ⟨hf, hm⟩ | ⟨r, error, hf, -, hm⟩ | ⟨r, c, hf, hc, -⟩
  · rw [hf] at hselect
    rw [hm, Sql.unapplied, run_ask e hselect]
    exact ⟨rfl, h.after_read⟩
  · rw [hf] at hselect
    rw [hm, Sql.unapplied, run_ask e hselect]
    exact ⟨explain_row r [], h.after_read⟩
  · exact absurd hc (hno r c hf)

/-- Looking a record up. -/
theorem get (h : Mirrors db m) (id : TaskId) :
    ((Sql.get id).run e.answer db).1 = .ok (m.find? id) ∧ Mirrors ((Sql.get id).run e.answer db).2 m := by
  have hselect := h.select_key e Column.all id
  rw [Sql.get, run_ask e hselect]
  cases hf : m.find? id with
  | none => exact ⟨rfl, h.after_read⟩
  | some r =>
      have hread : readRecord (Column.all.map fun c => (c.name, cells r c)) = .ok r :=
        readRecord_toRow (h.tidy r (Memory.mem_of_find? hf))
      refine ⟨?_, h.after_read⟩
      simp only [Option.toList_some, List.map_cons, List.map_nil, hread]
      rfl

/-! ### Writing -/

section Write

variable {assignments : List (Column × Term)} {tests : List Test} {params : List Value}
  {id : TaskId} {change : Record → Except TaskError Record}

/-- The row of a record is chosen if it is the one of the identifier and lets itself be changed. -/
theorem chosen_iff (h : Mirrors db m) (hx : Expresses assignments tests params id change) {r : Record}
    (hr : r ∈ m.records) :
    chosen tests params (cells r) = true ↔ m.find? id = some r ∧ ∃ c, change r = .ok c := by
  rw [hx.chosen_iff (h.tidy r hr), Memory.find?_eq_some_iff, and_iff_right hr]

/-- A statement that stands for an operation changes no row if the operation does not succeed. -/
theorem update_of_refused (h : Mirrors db m) (hx : Expresses assignments tests params id change)
    (hparams : ∀ v ∈ params, v.isStorable = true)
    (hno : ∀ r c, m.find? id = some r → change r ≠ .ok c) :
    e.execute db (.update assignments tests) params = .ok ({ affected := 0 }, db.rows) := by
  have hchosen : ∀ row ∈ db.rows, chosen tests params row = false := by
    rw [h.rows]
    intro row hrow
    obtain ⟨r, hr, rfl⟩ := List.mem_map.1 hrow
    rw [Bool.eq_false_iff, Ne, h.chosen_iff hx hr]
    rintro ⟨hf, c, hc⟩
    exact hno r c hf hc
  have hnone : db.rows.filter (chosen tests params) = [] :=
    List.filter_eq_nil_iff.2 fun row hrow => by simp [hchosen row hrow]
  have hsame : (db.rows.map fun row =>
      if chosen tests params row then assigned assignments params row else row) = db.rows := by
    conv_rhs => rw [← List.map_id db.rows]
    exact List.map_congr_left fun row hrow => by simp [hchosen row hrow]
  rw [e.execute_of_isStorable db _ hparams, Statement.execute, hnone, hsame, h.rows]
  exact settle_cells (List.forall_mem_nil _) m

/-- The rows that are chosen if the operation succeeds. -/
theorem chosen_of_done (h : Mirrors db m) (hx : Expresses assignments tests params id change)
    {r c : Record} (hf : m.find? id = some r) (hc : change r = .ok c) :
    ∀ r' ∈ m.records, chosen tests params (cells r') = decide (r'.id = id) := by
  intro r' hr'
  rw [Bool.eq_iff_iff, h.chosen_iff hx hr', decide_eq_true_iff]
  constructor
  · rintro ⟨hf', -⟩
    exact Memory.id_of_find? hf'
  · intro hid
    obtain rfl := Memory.eq_of_find? hf hr' hid
    exact ⟨hf, c, hc⟩

/-- A statement that stands for an operation that succeeds puts the row of the record it returns in
the place of the row of the record it was given. -/
theorem update_of_done (h : Mirrors db m) (hx : Expresses assignments tests params id change)
    (hparams : ∀ v ∈ params, v.isStorable = true) {r c : Record} (hf : m.find? id = some r)
    (hc : change r = .ok c) :
    e.execute db (.update assignments tests) params =
      .ok ({ affected := 1 }, (m.replace c).records.map cells) := by
  obtain ⟨hr, hid⟩ := Memory.find?_eq_some_iff.1 hf
  have hcid : c.id = id := (hx.id_eq hc).trans hid
  have hchosen := h.chosen_of_done hx hf hc
  have hassigned := hx.assigned_eq (h.tidy r hr) hc
  have hone : m.records.filter (chosen tests params ∘ cells) = [r] := by
    rw [List.filter_congr (q := (·.id = id)) hchosen, Memory.filter_id, hf]
    rfl
  have hwritten : (db.rows.filter (chosen tests params)).map (assigned assignments params) =
      [c].map cells := by
    rw [h.rows, List.filter_map, hone, List.map_singleton, List.map_singleton, List.map_singleton,
      hassigned]
  have hrows : (db.rows.map fun row =>
      if chosen tests params row then assigned assignments params row else row) =
        (m.replace c).records.map cells := by
    rw [h.rows, List.map_map, Memory.replace, List.map_map]
    refine List.map_congr_left fun r' hr' => ?_
    simp only [Function.comp_apply, hchosen r' hr', decide_eq_true_iff, hcid]
    by_cases hid' : r'.id = id
    · obtain rfl := Memory.eq_of_find? hf hr' hid'
      rw [if_pos hid', if_pos hid', hassigned]
    · rw [if_neg hid', if_neg hid']
  rw [e.execute_of_isStorable db _ hparams, Statement.execute, hwritten, hrows]
  refine settle_cells (fun c' hc' => ?_) (m.replace c)
  rw [List.mem_singleton.1 hc']
  exact hx.tidy (h.tidy r hr) hc

/-- The table after a write that was done. -/
theorem replaced (h : Mirrors db m) {c : Record} (hc : Tidy c) :
    Mirrors { db with rows := (m.replace c).records.map cells, executed := db.executed + 1 }
      (m.replace c) := by
  refine ⟨rfl, fun r hr => ?_, h.refusals⟩
  obtain ⟨r', hr', rfl⟩ := List.mem_map.1 hr
  split
  · exact hc
  · exact h.tidy r' hr'

/-- **A statement that stands for an operation on records does to the table what the operation does
to the store**, and what it results in is what the store answers. -/
theorem write (h : Mirrors db m) (operation : String)
    (hx : Expresses assignments tests params id change)
    (hparams : ∀ v ∈ params, v.isStorable = true) :
    ((Sql.write operation id assignments tests params).run e.answer db).1 =
        .ok (m.modify id change).1 ∧
      Mirrors ((Sql.write operation id assignments tests params).run e.answer db).2
        (m.modify id change).2 := by
  by_cases hdone : ∃ r c, m.find? id = some r ∧ change r = .ok c
  · obtain ⟨r, c, hf, hc⟩ := hdone
    have hmodify : m.modify id change = (.applied, m.replace c) := by
      simp only [Memory.modify, hf, hc]
    rw [Sql.write, run_ask e (h.update_of_done e hx hparams hf hc), hmodify]
    exact ⟨rfl, h.replaced (hx.tidy (h.tidy r (Memory.mem_of_find? hf)) hc)⟩
  · -- no row was changed, and the second question asks the same table why
    have hno : ∀ r c, m.find? id = some r → change r ≠ .ok c :=
      fun r c hf hc => hdone ⟨r, c, hf, hc⟩
    rw [Sql.write, run_ask e (h.update_of_refused e hx hparams hno)]
    exact h.after_read.unapplied e hno

end Write

/-- The guarded end of a task, when it stands for an operation that ends a record at a last stage. -/
theorem finishWhere (h : Mirrors db m) (id : TaskId) {stages : List Status} {u : FinalUpdate}
    {change : Record → Except TaskError Record} (hopen : ∀ s ∈ stages, s.isTerminal = false)
    (hfinish : ∀ {r c}, change r = .ok c → r.finish u = .ok c)
    (hchange : u.status.isTerminal = true → ∀ {r}, (∃ c, change r = .ok c) ↔ r.status ∈ stages)
    (hvalues : ∀ v ∈ updateValues u, v.isStorable = true) :
    ((Sql.finishWhere id stages u).run e.answer db).1 = .ok (m.modify id change).1 ∧
      Mirrors ((Sql.finishWhere id stages u).run e.answer db).2 (m.modify id change).2 := by
  unfold Sql.finishWhere
  by_cases hskip : (!u.status.isTerminal || stages.isEmpty) = true
  · rw [if_pos hskip]
    -- what is skipped here could not have succeeded
    refine h.unapplied e fun r c _ hc => ?_
    obtain ⟨hu, -, -⟩ := Record.finish_eq_ok_iff.1 (hfinish hc)
    have hr := (hchange hu).1 ⟨c, hc⟩
    simp only [hu, Bool.not_true, Bool.false_or, List.isEmpty_iff] at hskip
    rw [hskip] at hr
    exact List.not_mem_nil hr
  · rw [if_neg hskip]
    obtain ⟨hu, -⟩ : u.status.isTerminal = true ∧ stages ≠ [] := by simpa using hskip
    refine h.write e "finish_task" (expresses_finishWhere id hopen hfinish (hchange hu)) ?_
    simp only [updateValues, hu, if_true, List.forall_mem_cons] at hvalues ⊢
    obtain ⟨hended, hmessage, hdetail, hresult, hlog, hnil⟩ := hvalues
    exact ⟨rfl, isStorable_name _, hended, hmessage, hdetail, hresult, hlog,
      isStorable_stageNames stages, hnil⟩

/-! ### Adding a record -/

theorem inserted_values (r : Record) :
    inserted Column.all ((TaskRow.ofRecord r).values Column.all) = cells r := by
  funext c
  cases c <;> rfl

/-- Adding a record, or being told that its identifier is taken. -/
theorem insert (h : Mirrors db m) {r : Record} (hr : Tidy r)
    (hvalues : ∀ v ∈ (TaskRow.ofRecord r).values Column.all, v.isStorable = true) :
    ((Sql.insert r).run e.answer db).1 = (m.insert r).1 ∧
      Mirrors ((Sql.insert r).run e.answer db).2 (m.insert r).2 := by
  have hexecute : e.execute db (.insert Column.all) ((TaskRow.ofRecord r).values Column.all) =
      settle ([r].map cells) (m.records.map cells ++ [r].map cells) := by
    rw [e.execute_of_isStorable db _ hvalues, Statement.execute, inserted_values, h.rows]
    rfl
  have hwritten : ∀ r' ∈ [r], Tidy r' := by
    intro r' hr'
    rw [List.mem_singleton.1 hr']
    exact hr
  by_cases htaken : r.id ∈ m.records.map Record.id
  · have hkeys : ¬ ((m.records.map cells ++ [r].map cells).map (· .taskId)).Nodup := by
      rw [← List.map_append, nodup_keys_iff, List.map_append]
      exact fun hnodup => (List.nodup_append.1 hnodup).2.2 r.id htaken r.id (by simp) rfl
    have hrefused : e.execute db (.insert Column.all) ((TaskRow.ofRecord r).values Column.all) =
        .error uniqueViolation := by
      rw [hexecute, settle, refusal?, findSome?_violation? hwritten, if_neg hkeys]
      rfl
    rw [Sql.insert, run_request, e.answer_of_error hrefused, Memory.insert, dif_pos htaken]
    refine ⟨rfl, h.rows, h.tidy, fun code hcode => ?_⟩
    have hcode : code ∈ db.refusals ++ [uniqueViolation] := hcode
    rcases List.mem_append.1 hcode with hearlier | hnew
    · exact h.refusals code hearlier
    · exact List.mem_singleton.1 hnew
  · have hrecords : m.records ++ [r] = (m.insert r).2.records := by
      rw [Memory.insert, dif_neg htaken]
    have hdone : e.execute db (.insert Column.all) ((TaskRow.ofRecord r).values Column.all) =
        .ok ({ affected := 1 }, (m.insert r).2.records.map cells) := by
      rw [hexecute, ← List.map_append, hrecords]
      exact settle_cells hwritten (m.insert r).2
    rw [Sql.insert, run_request, e.answer_of_ok hdone, Memory.insert, dif_neg htaken]
    refine ⟨rfl, rfl, fun r' hr' => ?_, h.refusals⟩
    rcases List.mem_append.1 hr' with hearlier | hnew
    · exact h.tidy r' hearlier
    · exact hwritten r' hnew

end Mirrors

end TaskLedger.Sql
