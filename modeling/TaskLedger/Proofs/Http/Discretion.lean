import TaskLedger.Http.Api
import TaskLedger.Proofs.Service.Discretion
import TaskLedger.Proofs.Service.Surroundings
import TaskLedger.Proofs.Store.Evolution

/-!
**Internal texts do not reach clients.**

Two sites are run side by side.  The same requests arrive at both of them, everything else goes on at
both in the same order and at the same times, and the same identifiers and handles are given out.
Only texts for operators may differ: those that are stored already, those that jobs and their runtime
report, those that the broker is told, and what the broker says when it cannot be reached.  Then every
client of the one site gets the same response as its counterpart at the other, status and body, blank
texts or not, and gets it at the same moment.

The requests need not wait for each other, nor need anything else: what holds here holds of every
interleaving of all calls.  A sweep that works on several records at once makes the calls of as many
parties.

Main definitions:

* `TaskLedger.Site` — a backend with the words of its broker for an outage;
* `TaskLedger.Occurrence`, `TaskLedger.Occurrence.Alike` — what happens at a site;
* `TaskLedger.Http.Party`, `TaskLedger.Http.Party.Alike` — who makes calls there;
* `TaskLedger.Http.atWork` — what has come of all parties after a series of moves.

Main results:

* `TaskLedger.Site.answer_outage` — a site whose broker has the usual words answers as its backend;
* `TaskLedger.Http.alike_handle` — what is done for a request depends on no internal text;
* `TaskLedger.Http.same_responses` — **all clients get the same responses**.
-/

set_option autoImplicit false

namespace TaskLedger

open Service

/-! ### Sites -/

/-- A reply in which the broker gives a certain excuse if it cannot answer. -/
def Service.Call.excused (excuse : Broker.Fault) : (q : Call) → q.Reply → q.Reply
  | .broker (.dispatch _ _ _), a | .broker (.state _), a | .broker (.failureDetail _), a
  | .broker (.revoke _), a => a.mapError fun _ => excuse
  | .store _, a | .now, a | .freshId, a => a

/-- A backend, with what its broker says when it cannot be reached. -/
structure Site where
  backend : Backend
  excuse : Broker.Fault

/-- Something happens to the backend, or from now on the broker has other words for an outage. -/
inductive Occurrence where
  | happening (e : Happening)
  | excuse (fault : Broker.Fault)

/-- The same happens, but for the texts for operators. -/
inductive Occurrence.Alike : Occurrence → Occurrence → Prop
  | clock (now : Instant) : Alike (.happening (.clock now)) (.happening (.clock now))
  | notice {n n' : Broker.Notice} : n.Alike n' →
      Alike (.happening (.notice n)) (.happening (.notice n'))
  | excuse (fault fault' : Broker.Fault) : Alike (.excuse fault) (.excuse fault')

theorem Service.Call.toOption_mapError {ε ε' α : Type} (f : ε → ε') (a : Except ε α) :
    (a.mapError f).toOption = a.toOption := by
  cases a <;> rfl

/-- Replies that are alike still are with any excuses. -/
theorem Service.Call.ReplyAlike.excused {q : Call} {a a' : q.Reply} (h : q.ReplyAlike a a')
    (fault fault' : Broker.Fault) : q.ReplyAlike (q.excused fault a) (q.excused fault' a') := by
  cases q with
  | store query => cases query <;> exact h
  | now => exact h
  | freshId => exact h
  | broker query =>
      cases query with
      | failureDetail handle => trivial
      | dispatch | state | revoke =>
          exact (toOption_mapError _ a).trans (h.trans (toOption_mapError _ a').symm)

namespace Site

/-- The replies of a site. -/
def answer (q : Call) (s : Site) : q.Reply × Site :=
  (q.excused s.excuse (s.backend.answer q).1, { s with backend := (s.backend.answer q).2 })

/-- A site at work. -/
def world : World calls Site Occurrence where
  answer := answer
  happen
    | .happening e, s => { s with backend := s.backend.happen (s.backend.incident e) }
    | .excuse fault, s => { s with excuse := fault }

/-- A site whose broker has the usual words for an outage answers as its backend does. -/
theorem answer_outage (q : Call) (b : Backend) :
    answer q ⟨b, Broker.Memory.outage⟩ = ((b.answer q).1, ⟨(b.answer q).2, Broker.Memory.outage⟩) := by
  refine Prod.ext ?_ rfl
  cases q with
  | store query => rfl
  | now => rfl
  | freshId => rfl
  | broker query =>
      change Call.excused Broker.Memory.outage (.broker query)
        (Broker.Memory.answer b.clock (b.supply.handle b.handlesUsed) query b.broker).1 =
          (Broker.Memory.answer b.clock (b.supply.handle b.handlesUsed) query b.broker).1
      cases havailable : b.broker.available with
      | false =>
          rw [Broker.Memory.answer_of_unavailable _ _ havailable]
          cases query <;> rfl
      | true => cases query <;> simp [Broker.Memory.answer, havailable, Call.excused, Except.mapError]

/-- Two sites that differ in internal texts only. -/
def Alike (s s' : Site) : Prop := s.backend.redacted = s'.backend.redacted

theorem happen_alike {b b' : Backend} (hb : b.redacted = b'.redacted) {n n' : Broker.Notice}
    (hn : n.Alike n') : (b.happen (b.incident (.notice n))).redacted =
      (b'.happen (b'.incident (.notice n'))).redacted := by
  obtain ⟨hstore, hbroker, hclock, hsupply, hids, hhandles⟩ := Backend.redacted_eq_iff.1 hb
  have hheed := Broker.Memory.heed_alike hbroker b.clock hn
  refine Backend.redacted_eq_iff.2 ⟨hstore, ?_, hclock, hsupply, hids, hhandles⟩
  change (b.broker.heed b.clock n).redacted = (b'.broker.heed b'.clock n').redacted
  rwa [← hclock]

/-- **Sites at which the like is asked and happens are alike.** -/
theorem world_alike : World.Alike Call.Alike Alike Occurrence.Alike world world where
  answer {q q' A s s'} hq hs := by
    obtain ⟨hreply, hafter⟩ := Backend.answer_alike hq hs
    refine ⟨?_, hafter⟩
    cases hq with
    | same => exact Call.ReplyAlike.excused hreply _ _
    | finish id hu => exact hreply
    | finishFrom id source hu => exact hreply
  happen {e e' s s'} he hs := by
    cases he with
    | excuse fault fault' => exact hs
    | notice hn => exact happen_alike hs hn
    | clock now =>
        obtain ⟨hstore, hbroker, -, hrest⟩ := Backend.redacted_eq_iff.1 hs
        exact Backend.redacted_eq_iff.2 ⟨hstore, hbroker, rfl, hrest⟩

end Site

namespace Http

open Dialogue

/-! ### Requests -/

section Requests

variable {limit : TimeLimit}

theorem alike_submitTask (r : Request) : Service.Alike Eq (submitTask r) (submitTask r) := by
  unfold submitTask
  split
  · exact .done rfl
  · split
    · exact .done rfl
    · split
      · exact .done rfl
      · exact .done rfl
      · refine (alike_submit _ _).bind fun a a' ha => ?_
        cases ha with
        | dispatch fault fault' => exact .done rfl
        | same => rcases a with fault | id <;> exact .done rfl

theorem alike_showStats : Service.Alike Eq showStats showStats := by
  refine alike_tally.bind fun a a' ha => ?_
  obtain rfl : a = a' := ha
  rcases a with fault | c <;> exact .done rfl

/-- A record is shown without its detail. -/
theorem alike_showTask (id : TaskId) : Service.Alike Eq (showTask limit id) (showTask limit id) := by
  refine alike_lookup.bind fun a a' ha => ?_
  rcases cases_of_record ha with ⟨fault, rfl, rfl⟩ | ⟨rfl, rfl⟩ | ⟨r, detail, rfl, rfl⟩ <;>
    exact .done rfl

theorem alike_cancelTask (id : TaskId) : Service.Alike Eq (cancelTask id) (cancelTask id) := by
  refine (alike_cancel id).bind fun a a' ha => ?_
  obtain rfl : a = a' := ha
  rcases a with fault | cancellation <;> exact .done rfl

theorem alike_withTask (segment : List Char) {operation : TaskId → Action Response}
    (h : ∀ id, Service.Alike Eq (operation id) (operation id)) :
    Service.Alike Eq (withTask segment operation) (withTask segment operation) := by
  unfold withTask
  split
  · exact .done rfl
  · split
    · exact .done rfl
    · exact h _

theorem alike_operation {r : Request} {route : Route} {operation : Action Response}
    (h : operation? limit r route = some operation) : Service.Alike Eq operation operation := by
  cases route with
  | health =>
      simp only [operation?, Option.ite_none_right_eq_some, Option.some.injEq] at h
      obtain ⟨-, rfl⟩ := h
      exact .done rfl
  | tasks =>
      simp only [operation?, Option.ite_none_right_eq_some, Option.some.injEq] at h
      obtain ⟨-, rfl⟩ := h
      exact alike_submitTask r
  | stats =>
      simp only [operation?, Option.ite_none_right_eq_some, Option.some.injEq] at h
      obtain ⟨-, rfl⟩ := h
      exact alike_showStats
  | task segment =>
      simp only [operation?] at h
      split at h
      · obtain rfl := Option.some.inj h
        exact alike_withTask segment alike_showTask
      · obtain ⟨-, h⟩ := Option.ite_none_right_eq_some.1 h
        obtain rfl := Option.some.inj h
        exact alike_withTask segment alike_cancelTask

/-- **What is done for a request, and what it is answered, depends on no internal text.** -/
theorem alike_handle (r : Request) : Service.Alike Eq (handle limit r) (handle limit r) := by
  unfold handle
  split
  · exact .done rfl
  · split
    · exact .done rfl
    · next hoperation =>
      refine (alike_operation hoperation).bind fun response response' h => ?_
      obtain rfl : response = response' := h
      exact .done rfl

end Requests

/-! ### All who make calls -/

/-- Someone who makes calls: a client, a user of the service, or anybody else, with any call. -/
inductive Party where
  | client (r : Request)
  | user (u : User)
  | caller (q : Call)

namespace Party

/-- The calls of a party, with the response if it is a client. -/
def action (limit : TimeLimit) : Party → Action (Option Response)
  | .client r => do return some (← handle limit r)
  | .user u => do
      let _ ← u.action limit
      return none
  | .caller q => do
      let _ ← request (I := calls) q
      return none

/-- Two parties do the same, but for the texts for operators. -/
inductive Alike : Party → Party → Prop
  | client (r : Request) : Alike (.client r) (.client r)
  | user {u u' : User} : u.Alike u' → Alike (.user u) (.user u')
  | caller {q q' : Call} {A : q.Reply → q'.Reply → Prop} : Call.Alike q q' A →
      Alike (.caller q) (.caller q')

theorem alike_action (limit : TimeLimit) {p p' : Party} (hp : p.Alike p') :
    Service.Alike Eq (p.action limit) (p'.action limit) := by
  cases hp with
  | client r => exact (alike_handle r).bind fun response response' h => .done (congrArg some h)
  | user hu => exact (Service.alike_action limit hu).bind fun _ _ _ => .done rfl
  | caller hq => exact (Dialogue.Alike.request hq).bind fun _ _ _ => .done rfl

end Party

variable {ι : Type} [DecidableEq ι]

/-- What has come of some parties at a site after a series of moves. -/
def atWork (limit : TimeLimit) (parties : ι → Party) (s : Site) (moves : List (Move ι Occurrence)) :
    Scene calls (fun _ : ι => Option Response) Site :=
  (Scene.start (fun i => (parties i).action limit) s).play Site.world moves

/-- **All clients get the same responses** at two sites that differ in internal texts only, if the
parties and all that happens there differ in them only; and a client that has none yet at the one site
has none at the other. -/
theorem same_responses (limit : TimeLimit) {parties parties' : ι → Party}
    (hparties : ∀ i, (parties i).Alike (parties' i)) {s s' : Site} (hs : s.Alike s')
    {moves moves' : List (Move ι Occurrence)}
    (hmoves : List.Forall₂ (Move.Alike Occurrence.Alike) moves moves') (i : ι) :
    (atWork limit parties s moves).result? i = (atWork limit parties' s' moves').result? i := by
  have hstart : Scene.Alike Call.Alike Site.Alike (fun _ => Eq)
      (Scene.start (fun i => (parties i).action limit) s)
      (Scene.start (fun i => (parties' i).action limit) s') :=
    ⟨hs, fun i => (parties i).alike_action limit (hparties i)⟩
  exact (hstart.play Site.world_alike hmoves).result?_eq i

/-- A site with one task, which runs. -/
def attended : Site where
  backend :=
    { Backend.empty Broker.defaultRetention .epoch ⟨fun n => ⟨⟨n + 2⟩⟩, fun _ => ⟨"job"⟩⟩ with
      store := (Store.Memory.empty.after [.insert (.fresh ⟨⟨1⟩⟩ "report" .null .epoch),
        .setHandle ⟨⟨1⟩⟩ ⟨"job"⟩, .markRunning ⟨⟨1⟩⟩]) }
  excuse := Broker.Memory.outage

/-- A job, somebody who asks for its task, and somebody else. -/
inductive Role where
  | job
  | asking
  | submitting
  deriving DecidableEq

/-- The job fails, for a reason; one client asks for the task, and another one submits a task. -/
def reporting (detail : String) : Role → Party
  | .job => .user (.fail ⟨⟨1⟩⟩ "could not finish" detail)
  | .asking => .client { method := "GET", target := "/tasks/00000000-0000-0000-0000-000000000001" }
  | .submitting => .client
      { method := "POST", target := "/tasks", contentType := some "application/json",
        body := "\x7b\"task_type\": \"report\"\x7d" }

/-- One after the other has its turns. -/
def oneByOne : List Role :=
  List.replicate 2 .job ++ List.replicate 2 .asking ++ List.replicate 6 .submitting

/-- All the time the broker cannot be reached, for a reason. -/
def withExcuse (excuse : Broker.Fault) : List (Move Role Occurrence) :=
  .event (.excuse excuse) :: .event (.happening (.notice (.availability false))) ::
    oneByOne.map .next

theorem same_responses_of_blank :
    ((atWork ⟨none⟩ (reporting "disk full") attended
        (withExcuse (.rejected "no such queue"))).state.backend.store.find? ⟨⟨1⟩⟩).map
          Record.technicalDetail = some (some "disk full") ∧
    (atWork ⟨none⟩ (reporting "disk full") attended
        (withExcuse (.rejected "no such queue"))).result? .submitting =
      some (some (errorResponse 503 "dispatch_error" "task could not be queued; please try again")) ∧
    ∀ i, (atWork ⟨none⟩ (reporting "disk full") attended
        (withExcuse (.rejected "no such queue"))).result? i =
      (atWork ⟨none⟩ (reporting " ") attended (withExcuse (.unavailable ""))).result? i := by
  refine ⟨by decide +kernel, by decide +kernel, same_responses ⟨none⟩ (fun i => ?_) rfl ?_⟩
  · cases i with
    | job => exact .user (.fail _ _ _ _)
    | asking | submitting => exact .client _
  · refine .cons (.event (.excuse _ _)) (.cons (.event (.notice (.same _))) ?_)
    refine List.forall₂_same.2 fun m hm => ?_
    obtain ⟨i, -, rfl⟩ := List.mem_map.1 hm
    exact .next i

end Http

end TaskLedger
