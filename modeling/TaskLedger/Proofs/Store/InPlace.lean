import TaskLedger.Proofs.Store.Change

/-!
**Records that are worked on in place.**

A conditional write works on the record where it stands, without a copy of it: whatever has been
changed by the time that the write is refused is there to stay, and the stage that is told is the one
that is left.  So a refused write changes nothing only as long as every operation makes all of its
checks before it assigns anything.

The operations on records are written out here as the statements that they are made of, in their order.
Carried out one after another on the record itself they come to what the operations come to as
functions, and since none of them assigns before it has checked, a store that puts back what is left of
a record is the store that puts back nothing when it refuses.

Main definitions:

* `TaskLedger.Record.Edit`, `TaskLedger.Record.carryOut` — statements that check a record or assign to
  it, and their effect in place;
* `TaskLedger.Record.ChecksFirst` — no statement checks after another one has assigned;
* `TaskLedger.Record.Operation` — the operations of conditional writes, with their statements;
* `TaskLedger.Store.Memory.answerInPlace` — a store that works on its records in place.

Main results:

* `TaskLedger.Record.ChecksFirst.unchanged` — who checks first and refuses has changed nothing;
* `TaskLedger.Record.Operation.settle_edits` — the statements come to what the operation comes to;
* `TaskLedger.Store.Memory.answerInPlace_eq` — the two stores are the same;
* `TaskLedger.Store.Memory.refused_or_alone` — **a refused write changes nothing, and one that is
  applied changes one record**.
-/

set_option autoImplicit false

namespace TaskLedger

namespace Record

/-! ### Statements -/

/-- A statement of an operation that works on a record in place: it may refuse, or it assigns. -/
inductive Edit where
  | check (refusal? : Record → Option TaskError)
  | assign (write : Record → Record)

/-- A check that refuses records of a kind. -/
def Edit.refuse (kind : Record → Bool) (error : Record → TaskError) : Edit :=
  .check fun r => if kind r then some (error r) else none

/-- Carries out statements in turn, up to one that refuses.  Tells whether one did, and what is left in
the place of the record. -/
def carryOut : List Edit → Record → Except TaskError Unit × Record
  | [], r => (.ok (), r)
  | .check refusal? :: edits, r =>
      match refusal? r with
      | some e => (.error e, r)
      | none => carryOut edits r
  | .assign write :: edits, r => carryOut edits (write r)

/-- What statements come to: the record that they leave, unless they refuse. -/
def settle : Except TaskError Unit × Record → Except TaskError Record
  | (.ok (), r) => .ok r
  | (.error e, _) => .error e

/-- All checks stand before the first assignment. -/
inductive ChecksFirst : List Edit → Prop
  | assigns (writes : List (Record → Record)) : ChecksFirst (writes.map .assign)
  | check (refusal? : Record → Option TaskError) {edits : List Edit} :
      ChecksFirst edits → ChecksFirst (.check refusal? :: edits)

/-- Assignments alone never refuse. -/
theorem carryOut_assigns (writes : List (Record → Record)) (r : Record) :
    carryOut (writes.map .assign) r = (.ok (), writes.foldl (fun r write => write r) r) := by
  induction writes generalizing r with
  | nil => rfl
  | cons write writes ih => exact ih (write r)

/-- **Who checks first and refuses has changed nothing.** -/
theorem ChecksFirst.unchanged {edits : List Edit} (h : ChecksFirst edits) {r : Record} {e : TaskError}
    (hrefused : (carryOut edits r).1 = .error e) : (carryOut edits r).2 = r := by
  induction h with
  | assigns writes =>
      rw [carryOut_assigns] at hrefused
      cases hrefused
  | check refusal? _ ih =>
      cases hr : refusal? r with
      | some e' => simp only [carryOut, hr]
      | none =>
          simp only [carryOut, hr] at hrefused ⊢
          exact ih hrefused

/-- Whoever assigns before the last check may refuse and have changed the record all the same. -/
example : (carryOut [.assign fun r => { r with status := .failed },
      .refuse isTerminal fun r => .finished r.id r.status]
    (.fresh ⟨⟨1⟩⟩ "report" .null .epoch)).2 ≠ .fresh ⟨⟨1⟩⟩ "report" .null .epoch := by decide

/-! ### The operations of conditional writes -/

/-- An operation on records that a conditional write carries out. -/
inductive Operation where
  | assignHandle (handle : Handle)
  | start
  | appendLog (message : String)
  | finish (update : FinalUpdate)
  | finishFrom (source : Status) (update : FinalUpdate)

/-- A check that the record may go on to a stage. -/
def Edit.checkTransition (target : Status) : Edit :=
  .refuse (fun r => !r.status.canBecome target) fun r => .invalidTransition r.status target

/-- What is assigned when a task ends, field by field. -/
def endWrites (u : FinalUpdate) : List (Record → Record) :=
  [fun r => { r with status := u.status },
    fun r => { r with completedAt := some u.endedAt },
    fun r => if u.status = .failed then { r with errorMessage := u.errorMessage } else r,
    fun r => if u.status = .completed then { r with result := u.result } else r,
    fun r => if u.technicalDetail.isSome then { r with technicalDetail := u.technicalDetail } else r,
    fun r =>
      match u.logMessage with
      | some message => { r with log := r.log ++ [message] }
      | none => r]

/-- The statements that end a task. -/
def finishEdits (u : FinalUpdate) : List Edit :=
  .refuse (fun _ => !u.status.isTerminal) (fun _ => .notTerminal u.status) ::
    .checkTransition u.status :: (endWrites u).map .assign

namespace Operation

/-- The statements of an operation, in their order. -/
def edits : Operation → List Edit
  | assignHandle handle =>
      [.refuse isTerminal fun r => .finished r.id r.status,
        .refuse (·.handle.isSome) fun r => .handleTaken r.id,
        .assign fun r => { r with handle := some handle }]
  | start =>
      [.checkTransition .running, .refuse (·.handle.isNone) fun r => .handleMissing r.id,
        .assign fun r => { r with status := .running }]
  | appendLog message =>
      [.refuse isTerminal fun r => .logClosed r.id r.status,
        .assign fun r => { r with log := r.log ++ [message] }]
  | finish u => finishEdits u
  | finishFrom source u =>
      .refuse (fun r => r.status ≠ source) (fun r => .invalidTransition r.status u.status) ::
        finishEdits u

/-- The operation as a function. -/
def apply : Operation → Record → Except TaskError Record
  | assignHandle handle, r => r.assignHandle handle
  | start, r => r.start
  | appendLog message, r => r.appendLog message
  | finish u, r => r.finish u
  | finishFrom source u, r => Store.Memory.finishAt source u r

/-- **No operation assigns before it has checked.** -/
theorem checksFirst (op : Operation) : ChecksFirst op.edits := by
  have hfinish : ∀ u, ChecksFirst (finishEdits u) :=
    fun u => .check _ (.check _ (.assigns (endWrites u)))
  cases op with
  | assignHandle handle => exact .check _ (.check _ (.assigns [_]))
  | start => exact .check _ (.check _ (.assigns [_]))
  | appendLog message => exact .check _ (.assigns [_])
  | finish u => exact hfinish u
  | finishFrom source u => exact .check _ (hfinish u)

/-- Field by field, a record is assigned what it is to be when its task has ended. -/
theorem foldl_endWrites (u : FinalUpdate) (r : Record) :
    (endWrites u).foldl (fun r write => write r) r = r.ended u := by
  simp only [endWrites, List.foldl_cons, List.foldl_nil, ended]
  cases u.technicalDetail <;> cases u.logMessage <;> by_cases hfailed : u.status = .failed <;>
    by_cases hcompleted : u.status = .completed <;> simp [hfailed, hcompleted]

theorem settle_finishEdits (u : FinalUpdate) (r : Record) :
    settle (carryOut (finishEdits u) r) = r.finish u := by
  simp only [finishEdits, Edit.refuse, Edit.checkTransition, carryOut, Record.finish]
  cases u.status.isTerminal with
  | false => rfl
  | true =>
      cases r.status.canBecome u.status with
      | false => rfl
      | true =>
          simp only [Bool.not_true, Bool.false_eq_true, if_false, carryOut_assigns, foldl_endWrites,
            settle]

/-- **The statements come to what the operation comes to.** -/
theorem settle_edits (op : Operation) (r : Record) : settle (carryOut op.edits r) = op.apply r := by
  cases op with
  | assignHandle handle =>
      simp only [edits, Edit.refuse, carryOut, apply, Record.assignHandle]
      cases r.isTerminal <;> cases r.handle.isSome <;> rfl
  | start =>
      simp only [edits, Edit.refuse, Edit.checkTransition, carryOut, apply, Record.start]
      cases r.status.canBecome .running <;> cases r.handle.isNone <;> rfl
  | appendLog message =>
      simp only [edits, Edit.refuse, carryOut, apply, Record.appendLog]
      cases r.isTerminal <;> rfl
  | finish u => exact settle_finishEdits u r
  | finishFrom source u =>
      by_cases hsource : r.status = source
      · simp only [edits, Edit.refuse, carryOut, apply, Store.Memory.finishAt, hsource, if_true]
        simpa using settle_finishEdits u r
      · simp [edits, Edit.refuse, carryOut, apply, Store.Memory.finishAt, hsource, settle]

/-- An operation either refuses and leaves the record as it is, or leaves what it comes to. -/
theorem carryOut_edits (op : Operation) (r : Record) :
    (∃ e, op.apply r = .error e ∧ carryOut op.edits r = (.error e, r)) ∨
      ∃ c, op.apply r = .ok c ∧ carryOut op.edits r = (.ok (), c) := by
  have hsettle := op.settle_edits r
  have hunchanged : ∀ e, (carryOut op.edits r).1 = .error e → (carryOut op.edits r).2 = r :=
    fun e => op.checksFirst.unchanged
  generalize carryOut op.edits r = outcome at hsettle hunchanged
  obtain ⟨e | ⟨⟩, left⟩ := outcome
  · obtain rfl : left = r := hunchanged e rfl
    exact Or.inl ⟨e, hsettle.symm, rfl⟩
  · exact Or.inr ⟨left, hsettle.symm, rfl⟩

/-- No operation changes the identifier. -/
theorem id_of_apply {op : Operation} {r c : Record} (h : op.apply r = .ok c) : c.id = r.id := by
  cases op with
  | assignHandle => exact id_of_assignHandle h
  | start => exact id_of_start h
  | appendLog => exact id_of_appendLog h
  | finish => exact id_of_finish h
  | finishFrom => exact id_of_finish (Store.Memory.finishAt_eq_ok_iff.1 h).2

end Operation

end Record

namespace Store.Memory

/-! ### The store -/

/-- Carries out an operation on the record of an identifier, where it stands. -/
def modifyInPlace (m : Memory) (id : TaskId) (op : Record.Operation) : Outcome × Memory :=
  match m.find? id with
  | none => (.notFound, m)
  | some r =>
      match Record.carryOut op.edits r with
      | (.ok (), left) => (.applied, m.replace left)
      | (.error _, left) => (.rejected left.status, m.replace left)

/-- The answers of a store that works on its records in place. -/
def answerInPlace : (q : Query) → Memory → interface.Answer q × Memory
  | .insert record, m => m.insert record
  | .get id, m => (.ok (m.find? id), m)
  | .setHandle id handle, m => answer.done (m.modifyInPlace id (.assignHandle handle))
  | .markRunning id, m => answer.done (m.modifyInPlace id .start)
  | .appendLog id message, m => answer.done (m.modifyInPlace id (.appendLog message))
  | .finish id update, m => answer.done (m.modifyInPlace id (.finish update))
  | .finishFrom id source update, m => answer.done (m.modifyInPlace id (.finishFrom source update))
  | .listOpen, m => (.ok m.listOpen, m)
  | .counts, m => (.ok m.counts, m)

variable {m : Memory} {id : TaskId} {r : Record}

/-- Putting back a record as it was changes nothing. -/
theorem replace_self (h : m.find? id = some r) : m.replace r = m := by
  refine eq_of_records ((List.map_congr_left fun r' hr' => ?_).trans (List.map_id m.records))
  by_cases hid : r'.id = r.id
  · rw [if_pos hid, eq_of_find? h hr' (hid.trans (id_of_find? h)), id_eq]
  · rw [if_neg hid, id_eq]

theorem modifyInPlace_eq (m : Memory) (id : TaskId) (op : Record.Operation) :
    m.modifyInPlace id op = m.modify id op.apply := by
  unfold modifyInPlace modify
  cases hr : m.find? id with
  | none => rfl
  | some r =>
      rcases op.carryOut_edits r with ⟨e, happly, hedits⟩ | ⟨c, happly, hedits⟩
      · simp only [happly, hedits, replace_self hr]
      · simp only [happly, hedits]

/-- **The two stores are the same.** -/
theorem answerInPlace_eq (q : Query) (m : Memory) : answerInPlace q m = answer q m := by
  cases q with
  | setHandle | markRunning | appendLog | finish | finishFrom =>
      exact congrArg answer.done (m.modifyInPlace_eq _ _)
  | insert | get | listOpen | counts => rfl

/-! ### What becomes of the writes -/

/-- What an insertion may come to: it is refused exactly if the identifier is taken, and then nothing
has changed; or else the record is added, and nothing else. -/
structure Inserted (m : Memory) (record : Record) (result : Except Fault TaskId × Memory) :
    Prop where
  refused_iff : result.1 = .error (.alreadyExists record.id) ↔ ∃ r, m.find? record.id = some r
  unchanged : ∀ fault, result.1 = .error fault → result.2 = m
  added : ∀ id, result.1 = .ok id → id = record.id ∧ result.2.find? id = some record
  alone : ∀ id, id ≠ record.id → result.2.find? id = m.find? id

/-- What a conditional write may come to: it finds no record, or the record refuses and its stage is
told, and then nothing has changed; or the record is changed as the operation has it, and no other. -/
structure Written (m : Memory) (id : TaskId) (op : Record.Operation)
    (result : Except Fault Outcome × Memory) : Prop where
  answered : ∃ outcome, result.1 = .ok outcome
  notFound_iff : result.1 = .ok .notFound ↔ m.find? id = none
  rejected_iff : ∀ current, result.1 = .ok (.rejected current) ↔
    ∃ r e, m.find? id = some r ∧ op.apply r = .error e ∧ r.status = current
  unchanged : result.1 ≠ .ok .applied → result.2 = m
  applied_iff : result.1 = .ok .applied ↔
    ∃ r c, m.find? id = some r ∧ op.apply r = .ok c ∧ result.2.find? id = some c
  alone : ∀ k, k ≠ id → result.2.find? k = m.find? k

/-- An insertion is refused or adds its record. -/
theorem inserted_insert (m : Memory) (record : Record) : Inserted m record (m.insert record) where
  refused_iff := by
    constructor
    · intro hrefused
      refine Option.ne_none_iff_exists'.1 fun hfree => ?_
      rw [insert_of_free hfree] at hrefused
      cases hrefused
    · rintro ⟨r, hr⟩
      have htaken : record.id ∈ m.records.map Record.id :=
        List.mem_map.2 ⟨r, mem_of_find? hr, id_of_find? hr⟩
      rw [insert, dif_pos htaken]
  unchanged := by
    intro fault hfault
    unfold insert at hfault ⊢
    split at hfault
    · next htaken => rw [dif_pos htaken]
    · cases hfault
  added _ hid := ⟨insert_eq_ok hid, find?_of_insert_eq_ok hid⟩
  alone id hid := by
    rw [find?_insert, if_neg]
    exact fun h => hid h.2.symm

/-- A write without a record. -/
theorem written_of_notFound {op : Record.Operation} (hnone : m.find? id = none) :
    Written m id op (.ok .notFound, m) where
  answered := ⟨.notFound, rfl⟩
  notFound_iff := iff_of_true rfl hnone
  rejected_iff := by
    intro current
    constructor
    · intro hrejected
      cases hrejected
    · rintro ⟨r, e, hr, -, -⟩
      rw [hnone] at hr
      cases hr
  unchanged _ := rfl
  applied_iff := by
    constructor
    · intro happlied
      cases happlied
    · rintro ⟨r, c, hr, -, -⟩
      rw [hnone] at hr
      cases hr
  alone _ _ := rfl

/-- A write that the record refuses. -/
theorem written_of_refused {op : Record.Operation} {e : TaskError} (hr : m.find? id = some r)
    (he : op.apply r = .error e) : Written m id op (.ok (.rejected r.status), m) where
  answered := ⟨.rejected r.status, rfl⟩
  notFound_iff := by
    rw [hr]
    constructor <;> intro hnone <;> cases hnone
  rejected_iff := by
    intro current
    constructor
    · intro hrejected
      cases hrejected
      exact ⟨r, e, hr, he, rfl⟩
    · rintro ⟨r', e', hr', -, rfl⟩
      rw [hr] at hr'
      cases hr'
      rfl
  unchanged _ := rfl
  applied_iff := by
    constructor
    · intro happlied
      cases happlied
    · rintro ⟨r', c, hr', hc, -⟩
      rw [hr] at hr'
      cases hr'
      rw [he] at hc
      cases hc
  alone _ _ := rfl

/-- A write that is applied. -/
theorem written_of_done {op : Record.Operation} {c : Record} (hr : m.find? id = some r)
    (hc : op.apply r = .ok c) : Written m id op (.ok .applied, m.replace c) := by
  have hid : c.id = id := (Record.Operation.id_of_apply hc).trans (id_of_find? hr)
  have hview : ∀ k, (m.replace c).find? k = if id = k then some c else m.find? k := by
    intro k
    rw [find?_replace k (by simp [hid, hr]), hid]
  exact
    { answered := ⟨.applied, rfl⟩
      notFound_iff := by
        rw [hr]
        constructor <;> intro hnone <;> cases hnone
      rejected_iff := by
        intro current
        constructor
        · intro hrejected
          cases hrejected
        · rintro ⟨r', e, hr', he, -⟩
          rw [hr] at hr'
          cases hr'
          rw [hc] at he
          cases he
      unchanged := fun hne => absurd rfl hne
      applied_iff := iff_of_true rfl ⟨r, c, hr, hc, (hview id).trans (if_pos rfl)⟩
      alone := fun k hk => (hview k).trans (if_neg (Ne.symm hk)) }

/-- A conditional write comes to one of the three outcomes, and the store to what goes with it. -/
theorem written_modifyInPlace (m : Memory) (id : TaskId) (op : Record.Operation) :
    Written m id op (answer.done (m.modifyInPlace id op)) := by
  rw [modifyInPlace_eq]
  rcases m.modify_cases id op.apply with ⟨hnone, h⟩ | ⟨r, e, hr, he, h⟩ | ⟨r, c, hr, hc, h⟩
  · rw [h]
    exact written_of_notFound hnone
  · rw [h]
    exact written_of_refused hr he
  · rw [h]
    exact written_of_done hr hc

/-- **A refused write changes nothing, and one that is applied changes one record**, whatever records
the store holds and whatever the write is given, though it works on the record in place.  An insertion
is refused exactly if the identifier is taken, and a conditional write finds no record exactly if there
is none.  An operation on a record that refuses leaves it as it was, whichever of its checks fails. -/
theorem refused_or_alone (m : Memory) :
    (∀ record, Inserted m record (answerInPlace (.insert record) m)) ∧
    (∀ id handle, Written m id (.assignHandle handle) (answerInPlace (.setHandle id handle) m)) ∧
    (∀ id, Written m id .start (answerInPlace (.markRunning id) m)) ∧
    (∀ id message, Written m id (.appendLog message) (answerInPlace (.appendLog id message) m)) ∧
    (∀ id update, Written m id (.finish update) (answerInPlace (.finish id update) m)) ∧
    (∀ id source update, Written m id (.finishFrom source update)
      (answerInPlace (.finishFrom id source update) m)) ∧
    (∀ q, answerInPlace q m = answer q m) ∧
    ∀ (op : Record.Operation) (r : Record), Record.settle (Record.carryOut op.edits r) = op.apply r ∧
      ∀ e, (Record.carryOut op.edits r).1 = .error e → (Record.carryOut op.edits r).2 = r :=
  ⟨m.inserted_insert, fun id _ => m.written_modifyInPlace id _,
    fun id => m.written_modifyInPlace id _, fun id _ => m.written_modifyInPlace id _,
    fun id _ => m.written_modifyInPlace id _, fun id _ _ => m.written_modifyInPlace id _,
    fun q => answerInPlace_eq q m, fun op r => ⟨op.settle_edits r, fun _ => op.checksFirst.unchanged⟩⟩

end Store.Memory

end TaskLedger
