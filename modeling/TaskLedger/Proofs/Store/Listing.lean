import Mathlib.Data.List.Nodup
import TaskLedger.Proofs.Store.Change

/-!
**What a store tells of the whole.**

The list of open records is ordered by the time of creation and then by the identifier.  No two
records of a store are level in this order, so that there is one way only to list them, and it does
not matter in what order the store comes upon its records.  The counts are sums, to which each record
contributes at its stage, so that they do not depend on that order either.

List and counts agree with each other because both look at the same records.  That they agree with the
past of the store is an invariant of its runs: what a question adds is a record for each insertion that
succeeds, and no question takes a record away.

Main definitions:

* `TaskLedger.Record.Before` — the order of the list;
* `TaskLedger.Store.Memory.insertions` — how many insertions of a run succeed;
* `TaskLedger.Store.Memory.Overview` — what the list and the counts of a store have to be.

Main results:

* `TaskLedger.Store.Memory.mergeSort_eq_of_perm` — there is one way only to list the records of a store;
* `TaskLedger.Store.Memory.length_after` — a store has grown by the insertions that succeeded;
* `TaskLedger.Store.Memory.overview_after` — **list and counts are exact and agree**, after any run.
-/

set_option autoImplicit false

namespace TaskLedger

/-- A record comes before another in the list: it was created earlier, or at the same time and has the
smaller identifier. -/
def Record.Before (a b : Record) : Prop :=
  a.createdAt.precedes b.createdAt = true ∨ a.createdAt = b.createdAt ∧ a.id.precedes b.id = true

namespace Store

/-! ### The order of the list -/

namespace Memory

/-- The order of the list compares seconds, nanoseconds and identifiers, one after another. -/
theorem listedBefore_iff {a b : Record} :
    listedBefore a b = true ↔
      a.createdAt.second < b.createdAt.second ∨ a.createdAt.second = b.createdAt.second ∧
        (a.createdAt.nanos < b.createdAt.nanos ∨ a.createdAt.nanos = b.createdAt.nanos ∧
          a.id.uuid.bits.toNat ≤ b.id.uuid.bits.toNat) := by
  have heq : a.createdAt = b.createdAt ↔
      a.createdAt.second = b.createdAt.second ∧ a.createdAt.nanos = b.createdAt.nanos := by
    cases a.createdAt
    cases b.createdAt
    simp only [Instant.mk.injEq]
  simp only [listedBefore, Instant.precedes, TaskId.precedes, Uuid.precedes, heq,
    Bool.or_eq_true, Bool.and_eq_true, Bool.not_eq_true', decide_eq_true_eq, decide_eq_false_iff_not]
  omega

theorem listedBefore_trans (a b c : Record) (hab : listedBefore a b = true)
    (hbc : listedBefore b c = true) : listedBefore a c = true := by
  rw [listedBefore_iff] at *
  omega

theorem listedBefore_total (a b : Record) : (listedBefore a b || listedBefore b a) = true := by
  rw [Bool.or_eq_true, listedBefore_iff, listedBefore_iff]
  omega

/-- Records that are level have the same identifier. -/
theorem id_eq_of_listedBefore {a b : Record} (hab : listedBefore a b = true)
    (hba : listedBefore b a = true) : a.id = b.id := by
  rw [listedBefore_iff] at hab hba
  have hbits : a.id.uuid.bits.toNat = b.id.uuid.bits.toNat := by omega
  exact congrArg (fun bits => TaskId.mk (Uuid.mk bits)) (BitVec.eq_of_toNat_eq hbits)

/-- Of two records with different identifiers one is before the other. -/
theorem before_of_listedBefore {a b : Record} (hab : listedBefore a b = true) (hne : a.id ≠ b.id) :
    a.Before b := by
  have hba : ¬ listedBefore b a = true := fun hba => hne (id_eq_of_listedBefore hab hba)
  simp only [listedBefore, Bool.or_eq_true, Bool.and_eq_true, Bool.not_eq_true', decide_eq_true_eq]
    at hab hba
  rcases hab with hearlier | ⟨heq, -⟩
  · exact Or.inl hearlier
  · refine Or.inr ⟨heq, ?_⟩
    rw [not_or, not_and] at hba
    simpa using hba.2 heq.symm

/-- Records of a store are sorted in one way only. -/
theorem mergeSort_eq_of_perm {m : Memory} {records others : List Record}
    (hrecords : ∀ r ∈ records, r ∈ m.records) (h : others.Perm records) :
    others.mergeSort listedBefore = records.mergeSort listedBefore := by
  have hperm : (others.mergeSort listedBefore).Perm (records.mergeSort listedBefore) :=
    ((List.mergeSort_perm _ _).trans h).trans (List.mergeSort_perm _ _).symm
  refine hperm.eq_of_pairwise (fun a b ha hb hab hba => ?_)
    (List.pairwise_mergeSort listedBefore_trans listedBefore_total others)
    (List.pairwise_mergeSort listedBefore_trans listedBefore_total records)
  have hmem : ∀ r, r ∈ records.mergeSort listedBefore → r ∈ m.records :=
    fun r hr => hrecords r (List.mem_mergeSort.1 hr)
  have hfb := find?_eq_some_iff.2 ⟨hmem b hb, rfl⟩
  exact eq_of_find? hfb (hmem a (hperm.subset ha)) (id_eq_of_listedBefore hab hba)

/-! ### The list of open records -/

variable {m m' : Memory}

theorem mem_listOpen {r : Record} : r ∈ m.listOpen ↔ r ∈ m.records ∧ r.isTerminal = false := by
  rw [listOpen, List.mem_mergeSort, List.mem_filter, Bool.not_eq_true']

theorem nodup_ids_listOpen (m : Memory) : (m.listOpen.map Record.id).Nodup := by
  have hperm := (List.mergeSort_perm (m.records.filter (!·.isTerminal)) listedBefore).map Record.id
  exact hperm.nodup_iff.2 (m.distinct.sublist (List.filter_sublist.map _))

/-- The list is strictly increasing. -/
theorem pairwise_listOpen (m : Memory) : m.listOpen.Pairwise Record.Before := by
  have hsorted : m.listOpen.Pairwise (listedBefore · ·) :=
    List.pairwise_mergeSort listedBefore_trans listedBefore_total _
  exact (hsorted.and (List.pairwise_map.1 m.nodup_ids_listOpen)).imp
    fun ⟨hle, hne⟩ => before_of_listedBefore hle hne

theorem nodup_records (m : Memory) : m.records.Nodup := m.distinct.of_map _

/-- Stores with the same records hold them in two orders. -/
theorem perm_of_mem_iff (h : ∀ r, r ∈ m'.records ↔ r ∈ m.records) : m'.records.Perm m.records :=
  (List.perm_ext_iff_of_nodup m'.nodup_records m.nodup_records).2 h

theorem listOpen_eq_of_perm (h : m'.records.Perm m.records) : m'.listOpen = m.listOpen :=
  mergeSort_eq_of_perm (fun _ hr => (List.mem_filter.1 hr).1) (h.filter _)

end Memory

/-! ### Adding up -/

theorem Counts.ext_at {c d : Counts} (h : ∀ s, c.at s = d.at s) : c = d := by
  cases c
  cases d
  have hpending := h .pending
  have hrunning := h .running
  have hcompleted := h .completed
  have hfailed := h .failed
  have hcancelled := h .cancelled
  simp only [Counts.at] at *
  subst hpending hrunning hcompleted hfailed hcancelled
  rfl

/-- A count after adding something for each stage of a list. -/
theorem Counts.at_foldl_add (f : Status → Nat) (stages : List Status) (c : Counts) (t : Status) :
    (stages.foldl (fun c s => c.add s (f s)) c).at t = c.at t + stages.count t * f t := by
  induction stages generalizing c with
  | nil => simp
  | cons s stages ih =>
      rw [List.foldl_cons, ih, Counts.at_add, List.count_cons]
      by_cases hst : s = t
      · subst hst
        simp only [if_true, beq_self_eq_true, Nat.add_mul, Nat.one_mul]
        omega
      · simp [hst]

/-- Every record is at one of the five stages. -/
theorem sum_count_eq_length (stages : List Status) :
    stages.count .pending + stages.count .running + stages.count .completed + stages.count .failed +
      stages.count .cancelled = stages.length := by
  induction stages with
  | nil => rfl
  | cons s stages ih =>
      rw [List.length_cons, ← ih]
      cases s <;> simp only [List.count_cons] <;> simp <;> omega

/-- A stage that is not a last one is one of two. -/
theorem countP_open (stages : List Status) :
    stages.countP (!·.isTerminal) = stages.count .pending + stages.count .running := by
  induction stages with
  | nil => rfl
  | cons s stages ih =>
      cases s <;> simp only [List.countP_cons, List.count_cons, ih] <;> simp [Status.isTerminal] <;>
        omega

namespace Memory

variable {m m' : Memory}

theorem counts_eq_foldl (m : Memory) :
    m.counts = (m.records.map Record.status).foldl (fun c s => c.add s 1) {} := by
  rw [List.foldl_map]
  rfl

/-- Each count is the number of records at the stage. -/
theorem at_counts (m : Memory) (s : Status) : m.counts.at s = (m.records.map Record.status).count s := by
  rw [counts_eq_foldl, Counts.at_foldl_add, Nat.mul_one]
  cases s <;> exact Nat.zero_add _

theorem counts_eq_of_perm (h : m'.records.Perm m.records) : m'.counts = m.counts := by
  refine Counts.ext_at fun s => ?_
  rw [at_counts, at_counts, (h.map Record.status).count_eq]

theorem length_listOpen (m : Memory) :
    m.listOpen.length = m.counts.pending + m.counts.running := by
  have hlength : m.listOpen.length = (m.records.map Record.status).countP (!·.isTerminal) := by
    rw [listOpen, List.length_mergeSort, ← List.countP_eq_length_filter, List.countP_map]
    rfl
  rw [hlength, countP_open]
  exact congrArg₂ (· + ·) (m.at_counts .pending).symm (m.at_counts .running).symm

theorem length_records (m : Memory) :
    m.counts.pending + m.counts.running + m.counts.completed + m.counts.failed + m.counts.cancelled =
      m.records.length := by
  have hsum := sum_count_eq_length (m.records.map Record.status)
  simp only [← at_counts, List.length_map] at hsum
  exact hsum

/-! ### Runs -/

/-- Whether a question was an insertion that succeeded. -/
def added : (q : Query) → interface.Answer q → Bool
  | .insert _, .ok _ => true
  | _, _ => false

/-- How many insertions of a run succeed. -/
def insertions (m : Memory) : List Query → Nat
  | [] => 0
  | q :: run => (added q (answer q m).1).toNat + insertions (answer q m).2 run

theorem length_insert (m : Memory) (record : Record) :
    (m.insert record).2.records.length =
      m.records.length + (added (.insert record) (m.insert record).1).toNat := by
  unfold insert
  split
  · rfl
  · exact List.length_append

theorem length_modify (m : Memory) (id : TaskId) (change : Record → Except TaskError Record) :
    (m.modify id change).2.records.length = m.records.length := by
  rcases m.modify_cases id change with ⟨-, h⟩ | ⟨r, e, -, -, h⟩ | ⟨r, c, -, -, h⟩
  · rw [h]
  · rw [h]
  · rw [h]
    exact List.length_map _

/-- A question adds a record if it is an insertion that succeeds, and takes none away. -/
theorem length_answer (m : Memory) (q : Query) :
    (answer q m).2.records.length = m.records.length + (added q (answer q m).1).toNat := by
  cases q with
  | insert record => exact m.length_insert record
  | setHandle | markRunning | appendLog | finish | finishFrom => exact m.length_modify _ _
  | get | listOpen | counts => rfl

/-- **A store has grown by the insertions that succeeded.** -/
theorem length_after (m : Memory) (run : List Query) :
    (m.after run).records.length = m.records.length + m.insertions run := by
  induction run generalizing m with
  | nil => rfl
  | cons q run ih => rw [after_cons, ih, length_answer, insertions, Nat.add_assoc]

/-- What is told of a store to which so many records were added: the list of its open records and its
counts.  Both depend on nothing but the records that it holds, in whatever order these stand. -/
structure Overview (m : Memory) (inserted : Nat) (listed : List Record) (counted : Counts) : Prop where
  mem_iff : ∀ r, r ∈ listed ↔ r ∈ m.records ∧ (r.status = .pending ∨ r.status = .running)
  nodup : listed.Nodup
  increasing : listed.Pairwise Record.Before
  at_eq : ∀ s, counted.at s = m.records.countP (·.status = s)
  open_eq : counted.pending + counted.running = listed.length
  sum_eq : counted.pending + counted.running + counted.completed + counted.failed +
    counted.cancelled = inserted
  same_in_any_order : ∀ m' : Memory, (∀ r, r ∈ m'.records ↔ r ∈ m.records) →
    (answer .listOpen m').1 = .ok listed ∧ (answer .counts m').1 = .ok counted

/-- **List and counts are exact and agree.**  After any questions to an empty store it lists every open
record once and nothing else, in the order of creation and then of identifiers, and it counts the
records at each stage; as many are counted as open as are listed, and as many are counted at all as
insertions have succeeded.  In whatever order the same records were inserted or are come upon, the
answers are the same. -/
theorem overview_after (run : List Query) :
    ∃ listed counted, (answer .listOpen (empty.after run)).1 = .ok listed ∧
      (answer .counts (empty.after run)).1 = .ok counted ∧
      Overview (empty.after run) (insertions empty run) listed counted := by
  have hlength := length_after empty run
  generalize empty.after run = m at hlength
  refine ⟨m.listOpen, m.counts, rfl, rfl, ?_⟩
  exact
    { mem_iff := fun r => by
        rw [mem_listOpen, Record.isTerminal]
        cases r.status <;> simp [Status.isTerminal]
      nodup := m.nodup_ids_listOpen.of_map _
      increasing := m.pairwise_listOpen
      at_eq := fun s => by
        rw [at_counts, List.count_eq_countP, List.countP_map]
        exact List.countP_congr fun r _ => by simp
      open_eq := m.length_listOpen.symm
      sum_eq := by
        rw [length_records, hlength]
        exact Nat.zero_add _
      same_in_any_order := fun m' h =>
        ⟨congrArg Except.ok (listOpen_eq_of_perm (perm_of_mem_iff h)),
          congrArg Except.ok (counts_eq_of_perm (perm_of_mem_iff h))⟩ }

end Memory

end Store

end TaskLedger
