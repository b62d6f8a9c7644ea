import Mathlib.Data.List.Perm.Basic
import Mathlib.Data.Set.List
import TaskLedger.Proofs.Sql.Mirror
import TaskLedger.Proofs.Store.Listing

/-!
**What a mirroring table tells of the whole.**

A database comes upon the rows of a table in any order.  The list of open records comes out the same
nevertheless, because the order in which it is asked for, by the time of creation and then by the
identifier, leaves no two records of a store level; and the counts come out the same because they are
sums.

Main results:

* `TaskLedger.Sql.sortedBy_cells` — rows are sorted as their records are;
* `TaskLedger.Sql.foldlM_addCount` — groups of records are added to the counts one after another;
* `TaskLedger.Sql.Mirrors.listOpen`, `TaskLedger.Sql.Mirrors.counts` — both questions are answered as
  by the store in memory.
-/

set_option autoImplicit false

namespace TaskLedger.Sql

open Store (Memory Counts)

/-! ### The order of the rows -/

/-- Rows are sorted as their records are. -/
theorem sortedBy_cells (a b : Record) :
    sortedBy [.createdAt, .taskId] (cells a) (cells b) = Memory.listedBefore a b := by
  rw [Bool.eq_iff_iff, Memory.listedBefore_iff]
  simp only [sortedBy, cells, TaskRow.value, TaskRow.ofRecord, Value.precedes, Instant.precedes,
    Uuid.precedes, Bool.or_eq_true, Bool.and_eq_true, Bool.not_eq_true', decide_eq_true_eq,
    decide_eq_false_iff_not, Bool.or_eq_false_iff, Bool.and_eq_false_imp, and_true]
  omega

/-- A reordering of rows of records consists of the rows of reordered records. -/
theorem exists_records_of_perm {rows : List Cells} {records : List Record}
    (h : rows.Perm (records.map cells)) :
    ∃ others : List Record, rows = others.map cells ∧ others.Perm records := by
  have hrange : rows ∈ Set.range (List.map cells) := by
    rw [Set.range_list_map]
    intro row hrow
    obtain ⟨r, -, hr⟩ := List.mem_map.1 (h.subset hrow)
    exact ⟨r, hr⟩
  obtain ⟨others, rfl⟩ := hrange
  exact ⟨others, rfl, (List.map_perm_map_iff cells_injective).1 h⟩

/-! ### Adding up -/

/-- A group is added to the counts. -/
theorem addCount_group (c : Counts) (s : Status) (n : Nat) :
    addCount c [(Column.status.name, .text s.name), ("n", .number n)] = .ok (c.add s n) := by
  have hname : Row.required [(Column.status.name, .text s.name), ("n", .number n)]
      Column.status.name Value.text? = .ok s.name := rfl
  have hnumber : Row.required [(Column.status.name, .text s.name), ("n", .number n)]
      "n" Value.number? = .ok (n : Int) := rfl
  rw [addCount, hname, hnumber]
  simp only [Except.mapError, bind, Except.bind, readStatus_name, pure, Except.pure, Int.toNat_natCast]

/-- Groups are added to the counts one after another. -/
theorem foldlM_addCount (f : Status → Nat) (stages : List Status) (c : Counts) :
    (stages.map fun s => [(Column.status.name, Value.text s.name), ("n", Value.number (f s))]).foldlM
        addCount c =
      .ok (stages.foldl (fun c s => c.add s (f s)) c) := by
  simp only [List.foldlM_map, addCount_group]
  exact List.foldlM_pure

namespace Mirrors

variable {db : Database} {m : Memory} (e : Engine)

/-! ### The list of open records -/

/-- The rows that are listed. -/
theorem select_open (h : Mirrors db m) :
    e.execute db (.select Column.all [.among .status 1] [.createdAt, .taskId])
        [stageNames Status.openStages] =
      .ok ({ rows := m.listOpen.map fun r => (TaskRow.ofRecord r).toRow Column.all }, db.rows) := by
  have hchosen : db.rows.filter (chosen [.among .status 1] [stageNames Status.openStages]) =
      (m.records.filter (!·.isTerminal)).map cells := by
    rw [h.rows, List.filter_map]
    congr 1
    refine List.filter_congr fun r _ => ?_
    rw [Function.comp_apply, chosen_cons, chosen_nil, Bool.and_true, Bool.eq_iff_iff,
      holds_stage rfl, Status.mem_openStages, Bool.not_eq_true', Record.isTerminal]
  have hopen : ∀ r ∈ m.records.filter (!·.isTerminal), r ∈ m.records :=
    fun r hr => (List.mem_filter.1 hr).1
  obtain ⟨others, hothers, hperm⟩ := exists_records_of_perm
    (e.arrange_perm db.executed ((m.records.filter (!·.isTerminal)).map cells))
  have hsorted : (others.map cells).mergeSort (sortedBy [.createdAt, .taskId]) =
      m.listOpen.map cells := by
    rw [← List.map_mergeSort fun a _ b _ => (sortedBy_cells a b).symm,
      Memory.mergeSort_eq_of_perm hopen hperm]
    rfl
  rw [e.execute_of_isStorable db _ (by decide), Statement.execute, hchosen, hothers]
  simp only [hsorted, List.map_map]
  rfl

/-- The list of open records. -/
theorem listOpen (h : Mirrors db m) :
    (Sql.listOpen.run e.answer db).1 = .ok m.listOpen ∧ Mirrors (Sql.listOpen.run e.answer db).2 m := by
  have hread : (m.listOpen.map fun r => (TaskRow.ofRecord r).toRow Column.all).mapM readRecord =
      .ok m.listOpen := by
    have htidy : ∀ r ∈ m.listOpen, readRecord ((TaskRow.ofRecord r).toRow Column.all) = .ok r :=
      fun r hr => readRecord_toRow (h.tidy r (Memory.mem_listOpen.1 hr).1)
    rw [List.mapM_map]
    exact (mapM_eq_ok (g := id) htidy).trans (congrArg Except.ok (List.map_id _))
  rw [Sql.listOpen, run_ask e (h.select_open e)]
  exact ⟨hread, h.after_read⟩

/-! ### The counts -/

/-- The groups that are counted. -/
theorem countBy_status (h : Mirrors db m) :
    ∃ stages : List Status, stages.Perm (m.records.map Record.status) ∧
      e.execute db (.countBy .status) [] =
        .ok ({ rows := stages.dedup.map fun s =>
          [(Column.status.name, .text s.name), ("n", .number (stages.count s))] }, db.rows) := by
  obtain ⟨others, hothers, hperm⟩ := exists_records_of_perm
    (e.arrange_perm db.executed (m.records.map cells))
  refine ⟨others.map Record.status, hperm.map _, ?_⟩
  have hinj : Function.Injective fun s : Status => Value.text s.name :=
    fun s t hst => Status.name_inj.1 (Value.text.inj hst)
  have hstages : (others.map cells).map (· .status) =
      (others.map Record.status).map fun s => Value.text s.name := by
    rw [List.map_map, List.map_map]
    rfl
  have hcount : ∀ s : Status, (others.map cells).countP (· .status = .text s.name) =
      (others.map Record.status).count s := by
    intro s
    rw [List.count_eq_countP, List.countP_map, List.countP_map]
    refine List.countP_congr fun r _ => ?_
    simp [cells, TaskRow.value, TaskRow.ofRecord, Status.name_inj]
  rw [e.execute_of_isStorable db _ (List.forall_mem_nil _), Statement.execute, h.rows,
    hothers]
  simp only [hstages, List.dedup_map_of_injective hinj]
  simp only [List.map_map, Function.comp_def, hcount]

/-- The counts of the stages. -/
theorem counts (h : Mirrors db m) :
    (Sql.counts.run e.answer db).1 = .ok m.counts ∧ Mirrors (Sql.counts.run e.answer db).2 m := by
  obtain ⟨stages, hperm, hexecute⟩ := h.countBy_status e
  rw [Sql.counts, run_ask e hexecute]
  refine ⟨?_, h.after_read⟩
  change (stages.dedup.map _).foldlM addCount {} = _
  rw [foldlM_addCount, Memory.counts_eq_foldl]
  -- each stage is one group, and its count stands for as many records counted one by one
  refine congrArg Except.ok (Counts.ext_at fun s => ?_)
  rw [Counts.at_foldl_add, Counts.at_foldl_add, List.count_dedup, hperm.count_eq, Nat.mul_one]
  by_cases hs : s ∈ stages
  · rw [if_pos hs, Nat.one_mul]
  · rw [if_neg hs, Nat.zero_mul, ← hperm.count_eq, List.count_eq_zero.2 hs]

end Mirrors

end TaskLedger.Sql
