import TaskLedger.Http.View
import TaskLedger.Proofs.Json.Composite
import TaskLedger.Proofs.Json.Plain
import TaskLedger.Proofs.Text.Uuid
import TaskLedger.Proofs.Time.Rfc3339

/-!
**Records and updates are read back from the objects that they are written as.**

A record is read back with all that it holds, whether its parts fit together or not, but for two
things.  A result that is null is written like no result, and is read as none.  And a payload or a
result that is not plain is not taken over as it is: it holds an object that is taken for an embedded
text, which is refused unless it really is one, and then becomes the value that the text denotes.
The two leave different traces.  The first shows to users only as a member that is missing from a view;
the second may keep a record from being read at all.

Main definitions:

* `TaskLedger.Record.isPlain`, `TaskLedger.FinalUpdate.isPlain` — the values held are plain;
* `TaskLedger.Record.withoutNull`, `TaskLedger.FinalUpdate.withoutNull` — a result that is null left out.

Main results:

* `TaskLedger.Record.ofJson?_toJson`, `TaskLedger.FinalUpdate.ofJson?_toJson` — what is read of what is
  written, whatever is held;
* `TaskLedger.View.toJson_withResult` — a result is a member of its own in a view;
* `TaskLedger.read_back_iff_plain` — **plain records and updates are read back, without a result that is
  null, and no others are**.
-/

set_option autoImplicit false

namespace TaskLedger

open Json

/-! ### Single values -/

theorem TaskId.ofJson?_toJson (id : TaskId) : TaskId.ofJson? id.toJson = some id := by
  simp only [TaskId.ofJson?, TaskId.toJson, textOf?, Option.bind_eq_bind, Option.bind_some,
    TaskId.parse_toText]
  rfl

theorem Instant.ofJson?_toJson (t : Instant) : Instant.ofJson? t.toJson = some t := by
  simp only [Instant.ofJson?, Instant.toJson, textOf?, Option.bind_eq_bind, Option.bind_some,
    Instant.read?_toText]

theorem reads_taskId : Reads TaskId.ofJson? TaskId.toJson := ⟨TaskId.ofJson?_toJson, nofun⟩

theorem reads_instant : Reads Instant.ofJson? Instant.toJson :=
  ⟨Instant.ofJson?_toJson, fun t => by simp [Instant.toJson]⟩

theorem reads_handle : Reads Handle.ofJson? Handle.toJson := ⟨Handle.ofJson?_toJson, nofun⟩

theorem reads_status : Reads Status.ofJson? Status.toJson := ⟨Status.ofJson?_toJson, nofun⟩

/-! ### Results -/

/-- A result that is there is taken over as it is exactly if it is plain. -/
theorem mapM_resolve?_eq_self_iff {o : Option Json} :
    o.mapM resolve? = some o ↔ o.all isPlain = true := by
  cases o with
  | none => simp
  | some v =>
      rw [Option.all_some, ← resolve?_eq_self_iff]
      change (resolve? v).map some = some (some v) ↔ _
      cases resolve? v <;> simp

theorem filter_ne_null_eq_self_iff {o : Option Json} :
    o.filter (· ≠ .null) = o ↔ o ≠ some .null := by
  cases o with
  | none => simp
  | some v => by_cases hv : v = .null <;> simp [hv]

/-- Null is plain, so that leaving it out changes nothing about it. -/
theorem all_isPlain_filter (o : Option Json) :
    (o.filter (· ≠ .null)).all isPlain = o.all isPlain := by
  cases o with
  | none => rfl
  | some v => by_cases hv : v = .null <;> simp [hv, isPlain]

/-- What is read is a value itself, if it is the value with something left out, and nothing is left out
of this one. -/
theorem eq_some_iff_and {α : Type} {x : Option α} {a less : α} {P Q : Prop}
    (hless : x = some less ↔ P) (hsame : less = a ↔ Q) (hkept : x = some a → Q) :
    x = some a ↔ P ∧ Q := by
  constructor
  · intro h
    exact ⟨hless.1 (h.trans (congrArg some (hsame.2 (hkept h)).symm)), hkept h⟩
  · rintro ⟨hP, hQ⟩
    rw [hless.2 hP, hsame.2 hQ]

/-! ### Records -/

namespace Record

/-- The payload and the result are plain. -/
def isPlain (r : Record) : Bool := r.payload.isPlain && r.result.all Json.isPlain

/-- A record without a result that is null. -/
def withoutNull (r : Record) : Record := { r with result := r.result.filter (· ≠ .null) }

theorem nodup_parts (r : Record) : (r.parts.map Prod.fst).Nodup := by
  change ["task_id", "remote_handle", "task_type", "payload", "status", "created_at",
    "completed_at", "log_messages", "error_message", "technical_detail", "result"].Nodup
  decide

/-- **What is read of what is written of a record.**  The payload is taken over, and so is the result,
if it is not null.  All other parts are read back, in whatever combination they come. -/
theorem ofJson?_toJson (r : Record) :
    Record.ofJson? r.toJson = (resolve? r.payload).bind fun payload =>
      (r.withoutNull.result.mapM resolve?).map fun result => { r with payload, result } := by
  have hkeys : (r.parts.map Prod.fst).Nodup := nodup_parts r
  have hid : (Composite.ofMembers r.parts).required 0 "task_id" TaskId.ofJson? = some r.id :=
    reads_taskId.required hkeys rfl
  have hhandle :
      (Composite.ofMembers r.parts).optional 1 "remote_handle" Handle.ofJson? = some r.handle :=
    reads_handle.optional hkeys rfl rfl
  have htaskType : (Composite.ofMembers r.parts).required 2 "task_type" textOf? = some r.taskType :=
    reads_text.required hkeys rfl
  have hpayload : (Composite.ofMembers r.parts).required 3 "payload" resolve? = resolve? r.payload :=
    Composite.required_ofMembers hkeys rfl resolve?
  have hstatus : (Composite.ofMembers r.parts).required 4 "status" Status.ofJson? = some r.status :=
    reads_status.required hkeys rfl
  have hcreatedAt :
      (Composite.ofMembers r.parts).required 5 "created_at" Instant.ofJson? = some r.createdAt :=
    reads_instant.required hkeys rfl
  have hcompletedAt :
      (Composite.ofMembers r.parts).optional 6 "completed_at" Instant.ofJson? =
        some r.completedAt :=
    reads_instant.optional hkeys rfl rfl
  have hlog : (Composite.ofMembers r.parts).required 7 "log_messages" textsOf? = some r.log :=
    reads_texts.required hkeys rfl
  have herrorMessage :
      (Composite.ofMembers r.parts).optional 8 "error_message" textOf? = some r.errorMessage :=
    reads_text.optional hkeys rfl (ofText?_eq _)
  have htechnicalDetail :
      (Composite.ofMembers r.parts).optional 9 "technical_detail" textOf? =
        some r.technicalDetail :=
    reads_text.optional hkeys rfl (ofText?_eq _)
  have hresult : (Composite.ofMembers r.parts).optional 10 "result" resolve? =
      r.withoutNull.result.mapM resolve? :=
    Composite.optional_ofMembers hkeys rfl resolve?
  dsimp only [Record.ofJson?, Record.toJson, Composite.of?_ofMembers, Option.bind_eq_bind,
    Option.bind_some]
  rw [hid, hhandle, htaskType, hpayload, hstatus, hcreatedAt, hcompletedAt, hlog, herrorMessage,
    htechnicalDetail, hresult]
  dsimp only [Option.bind_some]
  cases resolve? r.payload <;> cases r.withoutNull.result.mapM resolve? <;> rfl

/-- A record is read back without a result that is null exactly if it is plain. -/
theorem ofJson?_toJson_eq_withoutNull_iff (r : Record) :
    Record.ofJson? r.toJson = some r.withoutNull ↔ r.isPlain = true := by
  rw [ofJson?_toJson, isPlain, Bool.and_eq_true, ← resolve?_eq_self_iff, ← all_isPlain_filter,
    ← mapM_resolve?_eq_self_iff]
  change _ ↔ _ ∧ r.withoutNull.result.mapM resolve? = some r.withoutNull.result
  cases resolve? r.payload <;> cases r.withoutNull.result.mapM resolve? <;>
    simp [withoutNull]

theorem withoutNull_eq_self_iff (r : Record) : r.withoutNull = r ↔ r.result ≠ some .null := by
  rw [← filter_ne_null_eq_self_iff]
  exact ⟨congrArg Record.result, fun h => congrArg (fun result => { r with result }) h⟩

/-- What is read of a record has no result if the record has null for one. -/
theorem result_of_ofJson?_toJson {r c : Record} (h : Record.ofJson? r.toJson = some c)
    (hnull : r.result = some .null) : c.result = none := by
  rw [ofJson?_toJson, withoutNull, hnull] at h
  obtain ⟨payload, -, h⟩ := Option.bind_eq_some_iff.1 h
  obtain ⟨result, hresult, rfl⟩ := Option.map_eq_some_iff.1 h
  exact (Option.some.inj hresult).symm

/-- **A record is read back as it is exactly if it is plain and its result is not null.** -/
theorem ofJson?_toJson_eq_self_iff (r : Record) :
    Record.ofJson? r.toJson = some r ↔ r.isPlain = true ∧ r.result ≠ some .null := by
  refine eq_some_iff_and (ofJson?_toJson_eq_withoutNull_iff r) (withoutNull_eq_self_iff r) ?_
  intro h hnull
  rw [result_of_ofJson?_toJson h hnull] at hnull
  cases hnull

end Record

/-! ### Updates -/

namespace FinalUpdate

/-- The result is plain. -/
def isPlain (u : FinalUpdate) : Bool := u.result.all Json.isPlain

/-- An update without a result that is null. -/
def withoutNull (u : FinalUpdate) : FinalUpdate := { u with result := u.result.filter (· ≠ .null) }

theorem nodup_parts (u : FinalUpdate) : (u.parts.map Prod.fst).Nodup := by
  change ["status", "at", "error_message", "technical_detail", "result", "log_message"].Nodup
  decide

/-- **What is read of what is written of an update**: the result is taken over if it is not null, and
all other parts are read back. -/
theorem ofJson?_toJson (u : FinalUpdate) :
    FinalUpdate.ofJson? u.toJson =
      (u.withoutNull.result.mapM resolve?).map fun result => { u with result } := by
  have hkeys : (u.parts.map Prod.fst).Nodup := nodup_parts u
  have hstatus : (Composite.ofMembers u.parts).required 0 "status" Status.ofJson? = some u.status :=
    reads_status.required hkeys rfl
  have hendedAt : (Composite.ofMembers u.parts).required 1 "at" Instant.ofJson? = some u.endedAt :=
    reads_instant.required hkeys rfl
  have herrorMessage :
      (Composite.ofMembers u.parts).optional 2 "error_message" textOf? = some u.errorMessage :=
    reads_text.optional hkeys rfl (ofText?_eq _)
  have htechnicalDetail :
      (Composite.ofMembers u.parts).optional 3 "technical_detail" textOf? =
        some u.technicalDetail :=
    reads_text.optional hkeys rfl (ofText?_eq _)
  have hresult : (Composite.ofMembers u.parts).optional 4 "result" resolve? =
      u.withoutNull.result.mapM resolve? :=
    Composite.optional_ofMembers hkeys rfl resolve?
  have hlogMessage :
      (Composite.ofMembers u.parts).optional 5 "log_message" textOf? = some u.logMessage :=
    reads_text.optional hkeys rfl (ofText?_eq _)
  dsimp only [FinalUpdate.ofJson?, FinalUpdate.toJson, Composite.of?_ofMembers, Option.bind_eq_bind,
    Option.bind_some]
  rw [hstatus, hendedAt, herrorMessage, htechnicalDetail, hresult, hlogMessage]
  dsimp only [Option.bind_some]
  cases u.withoutNull.result.mapM resolve? <;> rfl

/-- An update is read back without a result that is null exactly if it is plain. -/
theorem ofJson?_toJson_eq_withoutNull_iff (u : FinalUpdate) :
    FinalUpdate.ofJson? u.toJson = some u.withoutNull ↔ u.isPlain = true := by
  rw [ofJson?_toJson, isPlain, ← all_isPlain_filter, ← mapM_resolve?_eq_self_iff]
  change _ ↔ u.withoutNull.result.mapM resolve? = some u.withoutNull.result
  cases u.withoutNull.result.mapM resolve? <;> simp [withoutNull]

theorem withoutNull_eq_self_iff (u : FinalUpdate) : u.withoutNull = u ↔ u.result ≠ some .null := by
  rw [← filter_ne_null_eq_self_iff]
  exact ⟨congrArg FinalUpdate.result, fun h => congrArg (fun result => { u with result }) h⟩

/-- What is read of an update has no result if the update has null for one. -/
theorem result_of_ofJson?_toJson {u c : FinalUpdate} (h : FinalUpdate.ofJson? u.toJson = some c)
    (hnull : u.result = some .null) : c.result = none := by
  rw [ofJson?_toJson, withoutNull, hnull] at h
  obtain ⟨result, hresult, rfl⟩ := Option.map_eq_some_iff.1 h
  exact (Option.some.inj hresult).symm

/-- **An update is read back as it is exactly if it is plain and its result is not null.** -/
theorem ofJson?_toJson_eq_self_iff (u : FinalUpdate) :
    FinalUpdate.ofJson? u.toJson = some u ↔ u.isPlain = true ∧ u.result ≠ some .null := by
  refine eq_some_iff_and (ofJson?_toJson_eq_withoutNull_iff u) (withoutNull_eq_self_iff u) ?_
  intro h hnull
  rw [result_of_ofJson?_toJson h hnull] at hnull
  cases hnull

end FinalUpdate

/-! ### Views -/

/-- **A result is a member of its own in a view**: without it the view has no such member, and with it
there is one more, and everything else is the same. -/
theorem View.toJson_withResult {v : View} (hnone : v.result = none) (result : Json) :
    ∃ members, v.toJson = .object members ∧ find? "result" members = none ∧
      { v with result := some result }.toJson = .object (insert "result" result members) := by
  refine ⟨_, rfl, ?_, ?_⟩
  · rw [find?_foldl_insert_of_notMem]
    · rfl
    · cases herror : v.errorMessage <;> simp [hnone]
  · rw [hnone, View.toJson, Option.toList_some, List.map_singleton, Option.toList_none, List.map_nil,
      List.append_nil, ofMembers_concat]

/-- A view is that of what is read of its record, but for a result that is null. -/
theorem Record.view_of_ofJson?_toJson {r c : Record} (hplain : r.isPlain = true)
    (h : Record.ofJson? r.toJson = some c) :
    (r.result ≠ some .null → c.view = r.view) ∧
      (r.result = some .null → ∃ members, c.view.toJson = .object members ∧
        find? "result" members = none ∧ r.view.toJson = .object (insert "result" .null members)) := by
  rw [(Record.ofJson?_toJson_eq_withoutNull_iff r).2 hplain] at h
  obtain rfl := Option.some.inj h
  constructor
  · intro hresult
    rw [(Record.withoutNull_eq_self_iff r).2 hresult]
  · intro hnull
    have hnone : r.withoutNull.view.result = none := by
      change r.result.filter (· ≠ .null) = none
      rw [hnull]
      rfl
    have hview : r.view = { r.withoutNull.view with result := some .null } := by
      rw [← hnull]
      rfl
    rw [hview]
    exact View.toJson_withResult hnone .null

/-! ### What is read back -/

/-- **Plain records and updates are read back, and no others are.**  Of what is written of a record or an
update, the record or the update without a result that is null is read exactly if it is plain, and
itself exactly if its result is not null besides.  Users see what is read of a plain record as they see
the record; only if its result is null, the member for it is missing from what they see.  Every instant
is written in its form. -/
theorem read_back_iff_plain :
    (∀ r : Record,
      (Record.ofJson? r.toJson = some r.withoutNull ↔ r.isPlain = true) ∧
      (Record.ofJson? r.toJson = some r ↔ r.isPlain = true ∧ r.result ≠ some .null)) ∧
    (∀ u : FinalUpdate,
      (FinalUpdate.ofJson? u.toJson = some u.withoutNull ↔ u.isPlain = true) ∧
      (FinalUpdate.ofJson? u.toJson = some u ↔ u.isPlain = true ∧ u.result ≠ some .null)) ∧
    (∀ r c : Record, r.isPlain = true → Record.ofJson? r.toJson = some c →
      (r.result ≠ some .null → c.view = r.view) ∧
      (r.result = some .null → ∃ members, c.view.toJson = .object members ∧
        find? "result" members = none ∧
        r.view.toJson = .object (insert "result" .null members))) ∧
    ∀ t : Instant, ∃ cs, t.toJson = .text (.ofList cs) ∧ t.Written cs :=
  ⟨fun r => ⟨r.ofJson?_toJson_eq_withoutNull_iff, r.ofJson?_toJson_eq_self_iff⟩,
    fun u => ⟨u.ofJson?_toJson_eq_withoutNull_iff, u.ofJson?_toJson_eq_self_iff⟩,
    fun _ _ hplain h => Record.view_of_ofJson?_toJson hplain h,
    fun t => ⟨t.chars, rfl, t.written_chars⟩⟩

/-- The last moment but a little of a year before year 0, in its leap second. -/
def longAgo : Instant := ⟨-62293449601, 1250000000, by decide, by decide⟩

/-- A task that was completed with null, though its stage does not say so, and long before it was
created. -/
def outOfOrder : Record where
  id := ⟨⟨.ofNat 128 1⟩⟩
  handle := some ⟨" "⟩
  taskType := ""
  payload := .object [("a", .list [.int 1, .null, .object [("b", .text "c")]])]
  status := .pending
  createdAt := .epoch
  completedAt := some longAgo
  log := ["queued", ""]
  errorMessage := none
  technicalDetail := some ""
  result := some .null

/-- It is read back without its result, which is missing from its view, and an update with another
result is read back as it is. -/
theorem read_back_iff_plain_out_of_order :
    Record.ofJson? outOfOrder.toJson = some { outOfOrder with result := none } ∧
      outOfOrder.view.toJson.member? "result" = some .null ∧
      ({ outOfOrder with result := none } : Record).view.toJson.member? "result" = none ∧
      FinalUpdate.ofJson? (FinalUpdate.completed longAgo (.bool true)).toJson =
        some (FinalUpdate.completed longAgo (.bool true)) := by
  obtain ⟨hrecords, hupdates, hviews, -⟩ := read_back_iff_plain
  have hread : Record.ofJson? outOfOrder.toJson = some { outOfOrder with result := none } :=
    (hrecords outOfOrder).1.2 (by decide)
  obtain ⟨members, hread_view, hmissing, hview⟩ :=
    (hviews outOfOrder _ (by decide) hread).2 rfl
  refine ⟨hread, ?_, ?_, (hupdates _).2.2 ⟨by decide, by decide⟩⟩
  · rw [hview, member?, find?_insert, if_pos rfl]
  · rw [hread_view, member?, hmissing]

/-- A task that was submitted with an object of two members, the second of them under the embedding
key.  In the order of their keys it is the first. -/
def mistaken : Record :=
  .fresh ⟨⟨.ofNat 128 1⟩⟩ "report" (.object [(embeddingKey, .int 2), ("b", .int 1)]) .epoch

/-- **A payload that was accepted is taken for an embedded text.**  It is read from a text like any other
object, but a record that holds it is not read back. -/
theorem payload_taken_for_embedded :
    read? "\x7b\"b\":1,\"$serde_json::private::RawValue\":2\x7d" = some mistaken.payload ∧
      Record.ofJson? mistaken.toJson = none ∧
      ¬ ∀ r : Record, Record.ofJson? r.toJson = some r.withoutNull := by
  have hnone : Record.ofJson? mistaken.toJson = none := by
    have hrefused : resolve? mistaken.payload = none := by decide
    rw [Record.ofJson?_toJson, hrefused, Option.bind_none]
  refine ⟨by decide +kernel, hnone, fun h => ?_⟩
  have hread := h mistaken
  rw [hnone] at hread
  cases hread

end TaskLedger
