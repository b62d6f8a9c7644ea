import TaskLedger.Proofs.Broker.Notice
import TaskLedger.Proofs.Broker.Retention

/-!
**A journal beside a broker.**

Beside the broker stands a journal of all that it has acknowledged: what was dispatched, told and
revoked, with the time, and what was to be forgotten.  Nothing is ever struck from the journal.  The
broker drops jobs past their retention at one time or another, and until it does it lets them change
and be retained anew.

Broker and journal are compared handle by handle.  What the broker has for a handle is what is known
of it by the journal, and what the broker has dropped is past its retention; and whatever the broker
is asked and told, this remains so.

Main definitions:

* `TaskLedger.Broker.Journal` — the journal, with `TaskLedger.Broker.Journal.state` and
  `TaskLedger.Broker.Journal.failureDetail`, what is known of a job by it;
* `TaskLedger.Broker.Journal.record`, `TaskLedger.Broker.Journal.hear` — what is written in it when
  the broker has answered a question, and when it was told something;
* `TaskLedger.Broker.Follows` — the broker has what the journal has, or it is past its retention.

Main results:

* `TaskLedger.Broker.Follows.dispatch`, `TaskLedger.Broker.Follows.change` and their neighbours —
  what a question or a notice leaves together;
* `TaskLedger.Broker.Follows.lookup_fst` — **what a lookup finds is what is known by the journal
  within the retention**.
-/

set_option autoImplicit false

namespace TaskLedger

namespace Broker

/-! ### The journal -/

/-- A change of a job that the broker has acknowledged. -/
inductive Change where
  | dispatched
  | told (state : RemoteState)
  | failed (detail : String)
  | revoked
  deriving DecidableEq

/-- The state that a change leaves a job in. -/
def Change.state : Change → RemoteState
  | dispatched => .pending
  | told state => state
  | failed _ => .failure
  | revoked => .revoked

/-- The reason of a failure. -/
def Change.reason? : Change → Option String
  | failed detail => some detail
  | dispatched | told _ | revoked => none

/-- A change of the job of a handle, and its time. -/
structure Entry where
  handle : Handle
  change : Change
  time : Instant

/-- All changes that the broker has acknowledged, the latest first, and the handles of the jobs that
it was to forget. -/
structure Journal where
  changes : List Entry
  forgotten : List Handle

/-- What is known of a job, in the broker or by the journal. -/
structure Account where
  state : RemoteState
  failureDetail : Option String
  changedAt : Instant

def Job.account (job : Job) : Account := ⟨job.state, job.failureDetail, job.changedAt⟩

namespace Journal

/-- The journal before anything has happened. -/
def empty : Journal := ⟨[], []⟩

/-- The entries about a handle, the latest first. -/
def about (j : Journal) (handle : Handle) : List Entry := j.changes.filter (·.handle = handle)

/-- The latest change of the job of a handle. -/
def latest? (j : Journal) (handle : Handle) : Option Entry := (j.about handle).head?

/-- The reason of the latest failure of the job of a handle. -/
def latestFailure? (j : Journal) (handle : Handle) : Option String :=
  (j.about handle).findSome? (·.change.reason?)

/-- The handles of the jobs that were dispatched, the latest first. -/
def dispatched (j : Journal) : List Handle :=
  (j.changes.filter (·.change = .dispatched)).map Entry.handle

/-- The latest change of the job of a handle if the job is still to be known: it was not to be
forgotten, and at most the retention has passed since the change. -/
def current? (j : Journal) (retention : Span) (now : Instant) (handle : Handle) : Option Entry :=
  if handle ∈ j.forgotten then none
  else (j.latest? handle).filter fun e => now.since e.time ≤ retention.ticks

/-- The state of a job by the journal. -/
def state (j : Journal) (retention : Span) (now : Instant) (handle : Handle) : RemoteState :=
  ((j.current? retention now handle).map (·.change.state)).getD .unknown

/-- The reason of the failure of a job by the journal. -/
def failureDetail (j : Journal) (retention : Span) (now : Instant) (handle : Handle) :
    Option String :=
  (j.current? retention now handle).bind fun _ => j.latestFailure? handle

/-! ### What is written in it -/

/-- One more change. -/
def note (j : Journal) (e : Entry) : Journal := { j with changes := e :: j.changes }

/-- One more change, if the broker has acknowledged it. -/
def noteIf (j : Journal) (acknowledged : Bool) (e : Entry) : Journal :=
  if acknowledged then j.note e else j

/-- A job is to be forgotten; nothing that was never dispatched is. -/
def forget (j : Journal) (handle : Handle) : Journal :=
  if handle ∈ j.dispatched then { j with forgotten := handle :: j.forgotten } else j

/-- The journal after the broker was told something. -/
def hear (j : Journal) (m : Memory) (now : Instant) : Notice → Journal
  | .state handle state => j.noteIf (m.setState now handle state).1 ⟨handle, .told state, now⟩
  | .failure handle detail => j.noteIf (m.fail now handle detail).1 ⟨handle, .failed detail, now⟩
  | .forget handle => j.forget handle
  | .availability _ => j

/-- The journal after the broker has answered a question. -/
def record (j : Journal) (now : Instant) : (q : Query) → interface.Answer q → Journal
  | .dispatch _ _ _, .ok handle => j.note ⟨handle, .dispatched, now⟩
  | .revoke handle, .ok acknowledged => j.noteIf acknowledged ⟨handle, .revoked, now⟩
  | .dispatch _ _ _, .error _ | .revoke _, .error _ | .state _, _ | .failureDetail _, _ => j

/-! ### What is known by it -/

/-- What is known of a job by the journal, however long ago it has changed. -/
def account? (j : Journal) (handle : Handle) : Option Account :=
  if handle ∈ j.forgotten then none
  else (j.latest? handle).map fun e => ⟨e.change.state, j.latestFailure? handle, e.time⟩

theorem state_eq_and_failureDetail_eq (j : Journal) (retention : Span) (now : Instant)
    (handle : Handle) :
    j.state retention now handle = (((j.account? handle).filter fun a =>
        now.since a.changedAt ≤ retention.ticks).map Account.state).getD .unknown ∧
      j.failureDetail retention now handle = ((j.account? handle).filter fun a =>
        now.since a.changedAt ≤ retention.ticks).bind Account.failureDetail := by
  simp only [state, failureDetail, current?, account?]
  by_cases hforgotten : handle ∈ j.forgotten
  · simp [hforgotten]
  · cases j.latest? handle with
    | none => simp [hforgotten]
    | some e =>
        by_cases hpast : now.since e.time ≤ retention.ticks <;>
          simp [hforgotten, hpast, Option.filter_some]

theorem account?_note (j : Journal) (e : Entry) (handle : Handle) :
    (j.note e).account? handle =
      if e.handle = handle then
        if handle ∈ j.forgotten then none
        else some ⟨e.change.state, e.change.reason?.or (j.latestFailure? handle), e.time⟩
      else j.account? handle := by
  by_cases he : e.handle = handle
  · cases hreason : e.change.reason? <;>
      simp [account?, note, latest?, latestFailure?, about, he, hreason]
  · simp [account?, note, latest?, latestFailure?, about, he]

theorem account?_forget (j : Journal) (k handle : Handle) :
    (j.forget k).account? handle =
      if k = handle ∧ k ∈ j.dispatched then none else j.account? handle := by
  by_cases hk : k ∈ j.dispatched
  · by_cases he : k = handle
    · subst he
      simp [account?, forget, hk]
    · simp [account?, forget, hk, he, Ne.symm he, latest?, latestFailure?, about]
  · simp [forget, hk]

theorem about_forget (j : Journal) (k handle : Handle) :
    (j.forget k).about handle = j.about handle := by
  unfold forget
  split <;> rfl

/-- A job that is known has changed once more. -/
theorem account?_note_of_account? {j : Journal} {handle : Handle} {a : Account}
    (ha : j.account? handle = some a) (c : Change) (now : Instant) :
    (j.note ⟨handle, c, now⟩).account? handle =
      some ⟨c.state, c.reason?.or a.failureDetail, now⟩ := by
  unfold account? at ha
  split at ha
  · cases ha
  · next hnever =>
      obtain ⟨e, -, rfl⟩ := Option.map_eq_some_iff.1 ha
      rw [account?_note, if_pos rfl, if_neg hnever]

/-- What is known of a job was last changed by an entry about it. -/
theorem exists_of_account? {j : Journal} {handle : Handle} {a : Account}
    (ha : j.account? handle = some a) :
    ∃ e ∈ j.changes, e.handle = handle ∧ e.time = a.changedAt := by
  unfold account? at ha
  split at ha
  · cases ha
  · obtain ⟨e, he, rfl⟩ := Option.map_eq_some_iff.1 ha
    obtain ⟨hmem, hhandle⟩ := List.mem_filter.1 (List.mem_of_mem_head? (Option.mem_def.2 he))
    exact ⟨e, hmem, of_decide_eq_true hhandle, rfl⟩

/-! ### What is new in it -/

/-- A journal has grown at a time: there are entries of that time before those that it had. -/
def Grows (j j' : Journal) (now : Instant) : Prop :=
  ∃ new, j'.changes = new ++ j.changes ∧ ∀ e ∈ new, e.time = now

theorem Grows.refl (j : Journal) (now : Instant) : Grows j j now := ⟨[], rfl, List.forall_mem_nil _⟩

theorem grows_note (j : Journal) (e : Entry) : Grows j (j.note e) e.time := ⟨[e], rfl, by simp⟩

theorem grows_noteIf (j : Journal) (acknowledged : Bool) (e : Entry) :
    Grows j (j.noteIf acknowledged e) e.time := by
  cases acknowledged with
  | false => exact .refl j e.time
  | true => exact j.grows_note e

/-- What an answer brings is of its time. -/
theorem grows_record (j : Journal) (now : Instant) (q : Query) (a : interface.Answer q) :
    Grows j (j.record now q a) now := by
  cases q with
  | dispatch id taskType payload =>
      cases a with
      | error => exact .refl j now
      | ok handle => exact j.grows_note ⟨handle, .dispatched, now⟩
  | revoke handle =>
      cases a with
      | error => exact .refl j now
      | ok acknowledged => exact j.grows_noteIf acknowledged ⟨handle, .revoked, now⟩
  | state | failureDetail => exact .refl j now

/-- What a notice brings is of its time. -/
theorem grows_hear (j : Journal) (m : Memory) (now : Instant) (n : Notice) :
    Grows j (j.hear m now n) now := by
  cases n with
  | state k state => exact j.grows_noteIf _ ⟨k, .told state, now⟩
  | failure k detail => exact j.grows_noteIf _ ⟨k, .failed detail, now⟩
  | forget k =>
      rw [hear, forget]
      split <;> exact .refl j now
  | availability available => exact .refl j now

namespace Grows

variable {j j' : Journal} {now : Instant}

theorem mem (h : Grows j j' now) {e : Entry} (he : e ∈ j'.changes) : e.time = now ∨ e ∈ j.changes := by
  obtain ⟨new, hnew, htime⟩ := h
  rw [hnew, List.mem_append] at he
  exact he.imp_left (htime e)

theorem suffix (h : Grows j j' now) : j.changes <:+ j'.changes := by
  obtain ⟨new, hnew, -⟩ := h
  exact ⟨new, hnew.symm⟩

/-- No dispatch is struck from a journal. -/
theorem dispatched (h : Grows j j' now) : j.dispatched.Sublist j'.dispatched :=
  (h.suffix.sublist.filter _).map _

end Grows

/-! ### What was dispatched -/

theorem dispatched_note (j : Journal) (e : Entry) :
    (j.note e).dispatched =
      if e.change = .dispatched then e.handle :: j.dispatched else j.dispatched := by
  by_cases he : e.change = .dispatched <;> simp [dispatched, note, he]

theorem dispatched_forget (j : Journal) (handle : Handle) :
    (j.forget handle).dispatched = j.dispatched := by
  unfold forget
  split <;> rfl

/-- Nothing is in the journal but what was dispatched. -/
structure Orderly (j : Journal) : Prop where
  changes : ∀ e ∈ j.changes, e.handle ∈ j.dispatched
  forgotten : ∀ handle ∈ j.forgotten, handle ∈ j.dispatched

namespace Orderly

variable {j : Journal} {handle : Handle}

theorem empty : Orderly Journal.empty := ⟨by simp [Journal.empty], by simp [Journal.empty]⟩

/-- What is known by the journal was dispatched. -/
theorem mem_dispatched (h : j.Orderly) {a : Account} (ha : j.account? handle = some a) :
    handle ∈ j.dispatched := by
  obtain ⟨e, he, rfl, -⟩ := exists_of_account? ha
  exact h.changes e he

/-- Of what was never dispatched the journal has no entry. -/
theorem about_eq_nil (h : j.Orderly) (hnew : handle ∉ j.dispatched) : j.about handle = [] := by
  refine List.filter_eq_nil_iff.2 fun e he hhandle => hnew ?_
  have hdispatched := h.changes e he
  rwa [of_decide_eq_true hhandle] at hdispatched

/-- A job that was never dispatched before is waiting when it is. -/
theorem account?_note_dispatched (h : j.Orderly) (hnew : handle ∉ j.dispatched) (now : Instant) :
    (j.note ⟨handle, .dispatched, now⟩).account? handle = some ⟨.pending, none, now⟩ := by
  -- The journal has no failure of the job yet, and it was not to be forgotten.
  have hnever : handle ∉ j.forgotten := fun hmem => hnew (h.forgotten handle hmem)
  rw [account?_note, if_pos rfl, if_neg hnever]
  simp [Change.state, Change.reason?, latestFailure?, h.about_eq_nil hnew]

/-- What was to be forgotten is not known by the journal. -/
theorem account?_forget_self (h : j.Orderly) (handle : Handle) :
    (j.forget handle).account? handle = none := by
  rw [account?_forget]
  by_cases hdispatched : handle ∈ j.dispatched
  · rw [if_pos ⟨rfl, hdispatched⟩]
  · -- What was never dispatched is not known by the journal either.
    rw [if_neg fun hboth => hdispatched hboth.2]
    cases haccount : j.account? handle with
    | none => rfl
    | some a => exact absurd (h.mem_dispatched haccount) hdispatched

theorem note (h : j.Orderly) {e : Entry}
    (he : e.change = .dispatched ∨ e.handle ∈ j.dispatched) : (j.note e).Orderly := by
  have hgrow : ∀ k ∈ j.dispatched, k ∈ (j.note e).dispatched := by
    intro k hk
    rw [dispatched_note]
    split
    · exact List.mem_cons_of_mem _ hk
    · exact hk
  refine ⟨?_, fun k hk => hgrow k (h.forgotten k hk)⟩
  intro e' he'
  rcases List.mem_cons.1 he' with rfl | he'
  · rcases he with hdispatch | hold
    · simp [dispatched_note, hdispatch]
    · exact hgrow _ hold
  · exact hgrow _ (h.changes e' he')

theorem noteIf (h : j.Orderly) {acknowledged : Bool} {e : Entry}
    (he : acknowledged = true → e.handle ∈ j.dispatched) : (j.noteIf acknowledged e).Orderly := by
  cases acknowledged with
  | false => exact h
  | true => exact h.note (Or.inr (he rfl))

theorem forget (h : j.Orderly) (handle : Handle) : (j.forget handle).Orderly := by
  by_cases hhandle : handle ∈ j.dispatched
  · refine ⟨fun e he => ?_, fun k hk => ?_⟩
    · rw [dispatched_forget]
      simp only [Journal.forget, if_pos hhandle] at he
      exact h.changes e he
    · rw [dispatched_forget]
      simp only [Journal.forget, if_pos hhandle] at hk
      rcases List.mem_cons.1 hk with rfl | hk
      · exact hhandle
      · exact h.forgotten k hk
  · simpa only [Journal.forget, if_neg hhandle] using h

end Orderly

end Journal

/-! ### Broker and journal -/

/-- What the broker has for a handle is what is known by the journal; or it has dropped the job, and
more than the retention has passed since the latest change. -/
def Follows (m : Memory) (now : Instant) (j : Journal) (handle : Handle) : Prop :=
  (m.find? handle).map Job.account = j.account? handle ∨
    m.find? handle = none ∧
      ∃ a, j.account? handle = some a ∧ exceeds m.retention a.changedAt now = true

namespace Follows

variable {m : Memory} {now : Instant} {j : Journal} {handle : Handle}

theorem account?_eq (h : Follows m now j handle) {job : Job} (hjob : m.find? handle = some job) :
    j.account? handle = some job.account := by
  rcases h with hsame | ⟨hnone, -⟩
  · simpa [hjob] using hsame.symm
  · simp [hjob] at hnone

/-- What is found in the broker was dispatched. -/
theorem mem_dispatched (h : Follows m now j handle) (hj : j.Orderly)
    (hknown : (m.find? handle).isSome = true) : handle ∈ j.dispatched := by
  obtain ⟨job, hjob⟩ := Option.isSome_iff_exists.1 hknown
  exact hj.mem_dispatched (h.account?_eq hjob)

/-- Nothing has changed about a handle. -/
theorem of_same {m' : Memory} {j' : Journal} (h : Follows m now j handle)
    (hfind : m'.find? handle = m.find? handle) (haccount : j'.account? handle = j.account? handle)
    (hretention : m'.retention = m.retention) : Follows m' now j' handle := by
  unfold Follows
  rw [hfind, haccount, hretention]
  exact h

/-- Time goes by. -/
theorem later {later : Instant} (h : Follows m now j handle)
    (hlater : ∀ a, j.account? handle = some a → 0 < now.since a.changedAt →
      now.since a.changedAt ≤ later.since a.changedAt) :
    Follows m later j handle := by
  rcases h with hsame | ⟨hnone, a, ha, hexceeds⟩
  · exact Or.inl hsame
  · refine Or.inr ⟨hnone, a, ha, ?_⟩
    rw [exceeds_iff] at hexceeds ⊢
    have := hlater a ha (by omega)
    omega

/-- The job is dropped if it is past its retention. -/
theorem drop {m' : Memory} (h : Follows m now j handle)
    (hfind : m'.find? handle = (m.find? handle).filter (!m.isExpired now ·))
    (hretention : m'.retention = m.retention) : Follows m' now j handle := by
  cases hjob : m.find? handle with
  | none => exact h.of_same (by simp [hfind, hjob]) rfl hretention
  | some job =>
      cases hexpired : m.isExpired now job with
      | false =>
          exact h.of_same (by simp [hfind, hjob, hexpired, Option.filter_some]) rfl hretention
      | true =>
          refine Or.inr ⟨by simp [hfind, hjob, hexpired, Option.filter_some], job.account,
            h.account?_eq hjob, ?_⟩
          rw [hretention]
          exact hexpired

/-- A lookup leaves what is retained. -/
theorem lookup (h : Follows m now j handle) (k : Handle) :
    Follows (m.lookup now k).2 now j handle := by
  by_cases hk : k = handle
  · exact h.drop (by rw [Memory.find?_lookup, if_pos hk]) rfl
  · exact h.of_same (by rw [Memory.find?_lookup, if_neg hk]) rfl rfl

/-- A job is taken on under a handle that was never given out. -/
theorem dispatch (h : Follows m now j handle) (hj : j.Orderly) {fresh : Handle}
    (hfresh : fresh ∉ j.dispatched) (id : TaskId) (taskType : String) (payload : Json) :
    Follows (m.dispatch now fresh id taskType payload) now (j.note ⟨fresh, .dispatched, now⟩)
      handle := by
  by_cases hk : fresh = handle
  · subst hk
    refine Or.inl ?_
    rw [Memory.dispatch, Memory.find?_add, if_pos rfl, hj.account?_note_dispatched hfresh]
    rfl
  · have hkept : Follows (m.dispatch now fresh id taskType payload) now j handle := by
      refine h.drop ?_ rfl
      rw [Memory.dispatch, Memory.find?_add, if_neg hk, Memory.find?_keep]
    exact hkept.of_same rfl (by rw [Journal.account?_note, if_neg hk]) rfl

/-- A job changes, and if the broker knew it the journal has the change. -/
theorem change (h : Follows m now j handle) {k : Handle} {f : Job → Job}
    {keeps : ∀ job, (f job).handle = job.handle} {c : Change}
    (hf : ∀ job, (f job).account = ⟨c.state, c.reason?.or job.failureDetail, now⟩) :
    Follows (m.change k f keeps).2 now (j.noteIf (m.change k f keeps).1 ⟨k, c, now⟩) handle := by
  have hfind := m.find?_change k f keeps handle
  by_cases hk : k = handle
  · subst hk
    rw [if_pos rfl] at hfind
    cases hjob : m.find? k with
    | none =>
        refine h.of_same (by simp [hfind, hjob]) ?_ rfl
        simp [Memory.change, Journal.noteIf, hjob]
    | some job =>
        refine Or.inl ?_
        have hnoted : (j.noteIf (m.change k f keeps).1 ⟨k, c, now⟩) = j.note ⟨k, c, now⟩ := by
          simp [Memory.change, Journal.noteIf, hjob]
        rw [hnoted, Journal.account?_note_of_account? (h.account?_eq hjob), hfind, hjob,
          Option.map_some, Option.map_some, hf]
        rfl
  · rw [if_neg hk] at hfind
    refine h.of_same hfind ?_ rfl
    cases (m.change k f keeps).1 with
    | false => rfl
    | true => exact (j.account?_note _ _).trans (if_neg hk)

/-- A revocation changes a job that is waiting or at work. -/
theorem revoke (h : Follows m now j handle) (k : Handle) :
    Follows (m.revoke now k).2 now (j.noteIf (m.revoke now k).1 ⟨k, .revoked, now⟩) handle := by
  have hlogged : ∀ log, Follows { m with revocations := log } now j handle := fun _ => h
  simp only [Memory.revoke]
  split
  · exact (hlogged _).change fun _ => rfl
  · exact h

/-- A job is forgotten. -/
theorem forget (h : Follows m now j handle) (hj : j.Orderly) (k : Handle) :
    Follows (m.forget k).2 now (j.forget k) handle := by
  by_cases hk : k = handle
  · subst hk
    exact Or.inl (by rw [Memory.find?_forget, if_pos rfl, hj.account?_forget_self, Option.map_none])
  · refine h.of_same ?_ ?_ rfl
    · rw [Memory.find?_forget, if_neg hk]
    · rw [Journal.account?_forget, if_neg fun hboth => hk hboth.1]

/-- What a lookup finds is what is known by the journal within the retention. -/
theorem lookup_fst (h : Follows m now j handle) :
    (m.lookup now handle).1.map Job.account =
      (j.account? handle).filter fun a => now.since a.changedAt ≤ m.retention.ticks := by
  have hpast : ∀ t, (exceeds m.retention t now = true) ↔ ¬ now.since t ≤ m.retention.ticks := by
    intro t
    rw [exceeds_iff, Int.not_le]
  rw [Memory.lookup_fst]
  cases hjob : m.find? handle with
  | some job =>
      rw [h.account?_eq hjob]
      by_cases hexpired : m.isExpired now job = true
      · have : ¬ now.since job.changedAt ≤ m.retention.ticks := (hpast _).1 hexpired
        simp [Option.filter_some, hexpired, Job.account, this]
      · have : now.since job.changedAt ≤ m.retention.ticks :=
          Decidable.not_not.1 fun hle => hexpired ((hpast _).2 hle)
        simp [Option.filter_some, hexpired, Job.account, this]
  | none =>
      rcases h with hsame | ⟨-, a, ha, hexceeds⟩
      · have hnone : j.account? handle = none := by simpa [hjob] using hsame.symm
        simp [hnone]
      · rw [ha]
        simp [Option.filter_some, (hpast _).1 hexceeds]

end Follows

end Broker

end TaskLedger
