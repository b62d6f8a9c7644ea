import TaskLedger.Proofs.Broker.Change

/-!
**How long a broker remembers.**

A broker retains a job until its retention has passed since the job last changed, and a job never
changes before it is dispatched.  So as long as no more than the retention has passed since some
instant before the dispatch, the broker knows the job, whatever it is asked and told in between.  Past
that, it may have dropped the job or not.

Distances of instants are compared here, and with leap seconds these do not add up: the instants are
taken to lie outside of leap seconds.

Main definitions:

* `TaskLedger.Instant.Past` — an instant that another one does not precede, outside of leap seconds;
* `TaskLedger.Broker.Memory.Recalls` — the broker knows the job of a handle, or more than its
  retention has passed since an instant.

Main results:

* `TaskLedger.Broker.Memory.Recalls.answer`, `TaskLedger.Broker.Memory.Recalls.setState` and their
  neighbours — **what a broker recalls it keeps recalling**, whatever it is asked and told;
* `TaskLedger.Broker.Memory.Recalls.exceeds_of_unknown` — a broker that recalls a job has it unknown
  only when its retention has passed.
-/

set_option autoImplicit false

namespace TaskLedger

/-! ### Instants outside of leap seconds -/

namespace Instant

theorem since_of_plain {t s : Instant} (ht : t.isLeap = false) (hs : s.isLeap = false) :
    t.since s = t.ticks - s.ticks := by
  simp [since, leapBetween, ht, hs]

theorem nanos_lt_of_plain {t : Instant} (ht : t.isLeap = false) : t.nanos < 1000000000 := by
  simpa [isLeap] using ht

theorem precedes_iff_of_plain {t s : Instant} (ht : t.isLeap = false) (hs : s.isLeap = false) :
    t.precedes s = true ↔ t.ticks < s.ticks := by
  have := nanos_lt_of_plain ht
  have := nanos_lt_of_plain hs
  simp only [precedes, ticks, Bool.or_eq_true, Bool.and_eq_true, decide_eq_true_eq]
  omega

/-- An instant outside of leap seconds that is no later than another. -/
structure Past (t now : Instant) : Prop where
  plain : t.isLeap = false
  le : t.ticks ≤ now.ticks

theorem Past.refl {t : Instant} (ht : t.isLeap = false) : t.Past t := ⟨ht, Int.le_refl _⟩

theorem Past.trans {t s now : Instant} (hts : t.Past s) (hs : s.Past now) : t.Past now :=
  ⟨hts.plain, Int.le_trans hts.le hs.le⟩

theorem past_of_not_precedes {t now : Instant} (ht : t.isLeap = false) (hnow : now.isLeap = false)
    (h : now.precedes t = false) : t.Past now := by
  refine ⟨ht, ?_⟩
  rw [← Int.not_lt, ← precedes_iff_of_plain hnow ht, h]
  decide

end Instant

/-- Outside of leap seconds a span is exceeded if it is shorter than the distance. -/
theorem exceeds_iff_of_plain {span : Span} {t now : Instant} (ht : t.isLeap = false)
    (hnow : now.isLeap = false) :
    exceeds span t now = true ↔ (span.ticks : Int) < now.ticks - t.ticks := by
  rw [exceeds_iff, Instant.since_of_plain hnow ht]

/-- The earlier an instant is and the shorter the span, the sooner it is exceeded. -/
theorem exceeds_mono {span longer : Span} {t s now later : Instant} (hspan : span.ticks ≤ longer.ticks)
    (hts : t.Past s) (hnow : now.Past later) (hs : s.isLeap = false) (hlater : later.isLeap = false)
    (h : exceeds longer s now = true) : exceeds span t later = true := by
  rw [exceeds_iff_of_plain hs hnow.plain] at h
  rw [exceeds_iff_of_plain hts.plain hlater]
  have := hts.le
  have := hnow.le
  omega

namespace Broker.Memory

/-! ### What a broker recalls -/

/-- The broker knows the job of a handle, in a state that is known, and the job has not changed since
before an instant; or else more than the retention has passed since that instant. -/
structure Recalls (m : Memory) (now : Instant) (handle : Handle) (t : Instant) : Prop where
  past : t.Past now
  known : (∃ job, m.find? handle = some job ∧ job.state ≠ .unknown ∧ t.Past job.changedAt ∧
      job.changedAt.Past now) ∨ exceeds m.retention t now = true

variable {m : Memory} {now : Instant} {handle : Handle} {t : Instant}

namespace Recalls

/-- Time goes by. -/
theorem later {now' : Instant} (h : m.Recalls now handle t) (hnow : now.Past now')
    (hplain : now'.isLeap = false) : m.Recalls now' handle t where
  past := h.past.trans hnow
  known := by
    rcases h.known with ⟨job, hjob, hstate, ht, hchanged⟩ | hexceeds
    · exact Or.inl ⟨job, hjob, hstate, ht, hchanged.trans hnow⟩
    · exact Or.inr (exceeds_mono (Nat.le_refl _) (.refl h.past.plain) hnow h.past.plain hplain hexceeds)

/-- Jobs past their retention are dropped, and some of the others are perhaps told something. -/
theorem of_view {m' : Memory} (h : m.Recalls now handle t) (hnow : now.isLeap = false)
    (hretention : m'.retention = m.retention)
    (hview : ∀ job, m.find? handle = some job → m.isExpired now job = false →
      ∃ job', m'.find? handle = some job' ∧ (job'.state = .unknown → job.state = .unknown) ∧
        (job'.changedAt = job.changedAt ∨ job'.changedAt = now)) :
    m'.Recalls now handle t := by
  refine ⟨h.past, ?_⟩
  rw [hretention]
  rcases h.known with ⟨job, hjob, hstate, ht, hchanged⟩ | hexceeds
  · cases hexpired : m.isExpired now job with
    | true => exact Or.inr (exceeds_mono (Nat.le_refl _) ht (.refl hnow) hchanged.plain hnow hexpired)
    | false =>
        obtain ⟨job', hjob', hstate', hsame | hnew⟩ := hview job hjob hexpired
        · exact Or.inl ⟨job', hjob', fun hu => hstate (hstate' hu), hsame ▸ ht, hsame ▸ hchanged⟩
        · have hpast : job'.changedAt.Past now := by
            rw [hnew]
            exact .refl hnow
          exact Or.inl ⟨job', hjob', fun hu => hstate (hstate' hu), hnew ▸ h.past, hpast⟩
  · exact Or.inr hexceeds

/-- A lookup drops no job that is retained. -/
theorem lookup (h : m.Recalls now handle t) (hnow : now.isLeap = false) (k : Handle) :
    (m.lookup now k).2.Recalls now handle t := by
  refine h.of_view hnow rfl fun job hjob hretained => ⟨job, ?_, fun hu => hu, Or.inl rfl⟩
  rw [find?_lookup, hjob, Option.filter_some, hretained]
  simp

/-- A revocation leaves the job known. -/
theorem revoke (h : m.Recalls now handle t) (hnow : now.isLeap = false) (k : Handle) :
    (m.revoke now k).2.Recalls now handle t := by
  refine h.of_view hnow (retention_revoke m now k) fun job hjob _ => ?_
  rw [find?_revoke, hjob]
  by_cases hk : k = handle
  · cases hlive : job.state.isLive with
    | true => exact ⟨{ job with state := .revoked, changedAt := now }, by simp [hk, hlive],
        nofun, Or.inr rfl⟩
    | false => exact ⟨job, by simp [hk, hlive], fun hu => hu, Or.inl rfl⟩
  · exact ⟨job, by simp [hk], fun hu => hu, Or.inl rfl⟩

/-- A job that is told its state, other than that it is unknown, is known. -/
theorem setState (h : m.Recalls now handle t) (hnow : now.isLeap = false) (k : Handle)
    {state : RemoteState} (hstate : state ≠ .unknown) :
    (m.setState now k state).2.Recalls now handle t := by
  refine h.of_view hnow rfl fun job hjob _ => ?_
  rw [Memory.setState, find?_change, hjob]
  by_cases hk : k = handle
  · exact ⟨{ job with state, changedAt := now }, by simp [hk], fun hu => absurd hu hstate,
      Or.inr rfl⟩
  · exact ⟨job, by simp [hk], fun hu => hu, Or.inl rfl⟩

/-- A job that has failed is known. -/
theorem fail (h : m.Recalls now handle t) (hnow : now.isLeap = false) (k : Handle)
    (detail : String) : (m.fail now k detail).2.Recalls now handle t := by
  refine h.of_view hnow rfl fun job hjob _ => ?_
  rw [Memory.fail, find?_change, hjob]
  by_cases hk : k = handle
  · exact ⟨{ job with state := .failure, failureDetail := some detail, changedAt := now },
      by simp [hk], nofun, Or.inr rfl⟩
  · exact ⟨job, by simp [hk], fun hu => hu, Or.inl rfl⟩

end Recalls

/-- The job that was added is what its handle finds, and every other handle finds what it found. -/
theorem find?_add (m : Memory) (job : Job) (handle : Handle) :
    (m.add job).find? handle = if job.handle = handle then some job else m.find? handle := by
  have hkept : (m.jobs.filter (·.handle ≠ job.handle)).find? (·.handle = handle) =
      (m.find? handle).filter (·.handle ≠ job.handle) := find?_keep m _ handle
  simp only [find?, add, List.find?_append] at hkept ⊢
  rw [hkept]
  by_cases hjob : job.handle = handle
  · cases hold : m.jobs.find? (·.handle = handle) with
    | none => simp [hjob]
    | some old => simp [hjob, handle_of_find? hold, Option.filter_some]
  · cases hold : m.jobs.find? (·.handle = handle) with
    | none => simp [hjob]
    | some old => simp [hjob, handle_of_find? hold, Option.filter_some, Ne.symm hjob]

/-- A job that was just dispatched is known. -/
theorem recalls_dispatch (m : Memory) (ht : t.Past now) (hnow : now.isLeap = false)
    (fresh : Handle) (id : TaskId) (taskType : String) (payload : Json) :
    (m.dispatch now fresh id taskType payload).Recalls now fresh t := by
  have hjob : (m.dispatch now fresh id taskType payload).find? fresh =
      some { handle := fresh, taskId := id, taskType, payload, state := .pending,
             failureDetail := none, changedAt := now } := by
    rw [dispatch, find?_add]
    exact if_pos rfl
  exact ⟨ht, Or.inl ⟨_, hjob, nofun, ht, .refl hnow⟩⟩

/-- A dispatch drops no job that is retained, unless it gives its handle to another job. -/
theorem Recalls.dispatch (h : m.Recalls now handle t) (hnow : now.isLeap = false)
    (fresh : Handle) (id : TaskId) (taskType : String) (payload : Json) :
    (m.dispatch now fresh id taskType payload).Recalls now handle t := by
  by_cases hfresh : fresh = handle
  · subst hfresh
    exact recalls_dispatch m h.past hnow fresh id taskType payload
  · refine h.of_view hnow rfl fun job hjob hretained => ⟨job, ?_, fun hu => hu, Or.inl rfl⟩
    rw [Memory.dispatch, find?_add, if_neg hfresh, find?_keep, hjob, Option.filter_some, hretained]
    rfl

/-- **What a broker recalls it keeps recalling**, whatever it is asked. -/
theorem Recalls.answer (h : m.Recalls now handle t) (hnow : now.isLeap = false) (fresh : Handle)
    (q : Query) : (answer now fresh q m).2.Recalls now handle t := by
  cases havailable : m.available with
  | false => simpa [Memory.answer, havailable] using h
  | true =>
      cases q with
      | dispatch id taskType payload =>
          simpa [Memory.answer, havailable] using h.dispatch hnow fresh id taskType payload
      | state k => simpa [Memory.answer, havailable] using h.lookup hnow k
      | failureDetail k => simpa [Memory.answer, havailable] using h.lookup hnow k
      | revoke k => simpa [Memory.answer, havailable] using h.revoke hnow k

/-- A broker recalls the job that it has just taken on. -/
theorem recalls_of_dispatched (ht : t.Past now) (hnow : now.isLeap = false) {fresh : Handle}
    {id : TaskId} {taskType : String} {payload : Json}
    (h : (answer now fresh (.dispatch id taskType payload) m).1 = .ok handle) :
    (answer now fresh (.dispatch id taskType payload) m).2.Recalls now handle t := by
  cases havailable : m.available with
  | false => simp [answer, havailable] at h
  | true =>
      have hfresh : fresh = handle := by simpa [answer, havailable] using h
      subst hfresh
      simpa [answer, havailable] using recalls_dispatch m ht hnow fresh id taskType payload

/-- What is not found by a broker that recalls it is past the retention. -/
theorem Recalls.exceeds_of_lookup (h : m.Recalls now handle t) (hnow : now.isLeap = false)
    (hnone : (m.lookup now handle).1 = none) : exceeds m.retention t now = true := by
  rcases h.known with ⟨job, hjob, -, ht, hchanged⟩ | hexceeds
  · rw [lookup_fst, hjob, Option.filter_some] at hnone
    have hexpired : m.isExpired now job = true := by simpa using hnone
    exact exceeds_mono (Nat.le_refl _) ht (.refl hnow) hchanged.plain hnow hexpired
  · exact hexceeds

/-- A broker that recalls a job has it unknown only when its retention has passed. -/
theorem Recalls.exceeds_of_unknown (h : m.Recalls now handle t) (hnow : now.isLeap = false)
    (fresh : Handle) (hanswer : (Memory.answer now fresh (.state handle) m).1 = .ok .unknown) :
    exceeds m.retention t now = true := by
  cases havailable : m.available with
  | false => simp [Memory.answer, havailable] at hanswer
  | true =>
      simp only [Memory.answer, havailable, Bool.not_true, Bool.false_eq_true, if_false,
        Except.ok.injEq] at hanswer
      rcases h.known with ⟨job, hjob, hstate, -, -⟩ | hexceeds
      · cases hlookup : (m.lookup now handle).1 with
        | none => exact h.exceeds_of_lookup hnow hlookup
        | some found =>
            -- What is found is the job, whose state is known.
            rw [lookup_fst, hjob, Option.filter_some] at hlookup
            obtain rfl : job = found := by
              simpa using (Option.ite_none_right_eq_some.1 hlookup).2
            rw [lookup_fst, hjob, Option.filter_some, hlookup] at hanswer
            exact absurd hanswer hstate
      · exact hexceeds

/-- No question changes the retention. -/
theorem retention_answer (m : Memory) (now : Instant) (fresh : Handle) (q : Query) :
    (answer now fresh q m).2.retention = m.retention := by
  cases havailable : m.available with
  | false => simp [answer, havailable]
  | true =>
      cases q with
      | dispatch | state | failureDetail => simp [answer, havailable, dispatch, lookup, add, keep]
      | revoke k => simpa [answer, havailable] using retention_revoke m now k

end Broker.Memory

end TaskLedger
