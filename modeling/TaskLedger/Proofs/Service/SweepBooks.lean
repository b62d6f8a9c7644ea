import Mathlib.Algebra.Order.Group.Multiset
import Mathlib.Data.List.Induction
import Mathlib.Data.Multiset.UnionInter
import TaskLedger.Proofs.Dialogue.Turns
import TaskLedger.Proofs.Service.SweepOrder
import TaskLedger.Service.Workplace

/-!
**The books of a sweep.**

While the tasks of a sweep are examined side by side, it can be told from a few lists how far the
sweep has come: the tasks that were begun, which of them are still examined, whose turn it was at each
call, and where each finding is.  What the books say of the findings and of the free places is true
from the beginning, and each entry keeps it true.  When every finding has been taken, the backend and
the report are those of a sweep with nobody else around.

Main definitions:

* `TaskLedger.Service.Books` — the books, and what is true of them;
* `TaskLedger.Service.Books.scene`, `TaskLedger.Service.Books.round` — how far the examined tasks have
  come, and the sweep as it is shared;
* `TaskLedger.Service.Books.turn`, `TaskLedger.Service.Books.begin`,
  `TaskLedger.Service.Books.finish`, `TaskLedger.Service.Books.take`,
  `TaskLedger.Service.Books.hold`, `TaskLedger.Service.Books.giveBack` — the entries.

Main results:

* `TaskLedger.Service.Books.perform_reconcileAll` — **what has come of a sweep** when all findings
  were taken.
-/

set_option autoImplicit false

namespace TaskLedger.Service

open Dialogue

theorem reconciledAtOnce_concat (limit : TimeLimit) (b : Backend) (order : List TaskId)
    (id : TaskId) : reconciledAtOnce limit b (order ++ [id]) =
      (reconciledAtOnce limit b order).step Backend.world (.next id) := by
  simp only [reconciledAtOnce, sideBySide, List.map_append, List.map_cons, List.map_nil]
  exact Scene.play_snoc (w := Backend.world) _ _ _

/-- The books of a sweep over a backend, with so many places.

* `order` — the tasks in the order of the calls that were made for them;
* `begun` — the tasks that were begun: those that are still examined (`busy`), and those that have been
  (`examined`);
* `taken`, `held`, `ready` — the findings: those that were taken, those that are out of reach until the
  next break, and those that are ready to be taken;
* `free` — the places that are free. -/
structure Books (limit : TimeLimit) (b : Backend) (places : Nat) where
  order : List TaskId
  begun : List TaskId
  busy : Multiset TaskId
  examined : Multiset TaskId
  taken : List Reconciled
  held : Multiset Reconciled
  ready : List Reconciled
  free : Nat
  nodup : begun.Nodup
  split : busy + examined = .ofList begun
  turns : ∀ id ∈ order, id ∈ begun
  findings : (.ofList taken + held + .ofList ready : Multiset Reconciled).map some =
    examined.map (reconciledAtOnce limit b order).result?
  room : free + busy.card = places

namespace Books

variable {limit : TimeLimit} {b : Backend} {places : Nat} (k : Books limit b places)

/-- How far the examined tasks have come. -/
def scene : Scene calls (fun _ : TaskId => Reconciled) Backend := reconciledAtOnce limit b k.order

/-- The sweep as those who work for it see it. -/
def round : Round where
  free := k.free
  untaken := k.begun.length - k.taken.length
  found := k.ready

/-! ### What the books tell -/

theorem mem_begun {id : TaskId} (h : id ∈ k.busy) : id ∈ k.begun := by
  have hall : id ∈ k.busy + k.examined := Multiset.mem_add.2 (.inl h)
  rwa [k.split] at hall

theorem nodup_split : (k.busy + k.examined).Nodup := k.split ▸ Multiset.coe_nodup.2 k.nodup

theorem nodup_busy : k.busy.Nodup := (Multiset.nodup_add.1 k.nodup_split).1

theorem ne_of_mem_examined {id id' : TaskId} (h : id ∈ k.busy) (h' : id' ∈ k.examined) : id' ≠ id := by
  rintro rfl
  exact Multiset.disjoint_left.1 (Multiset.nodup_add.1 k.nodup_split).2.2 h h'

theorem result?_of_mem_examined {id : TaskId} (h : id ∈ k.examined) :
    ∃ r, k.scene.result? id = some r := by
  have hmem : k.scene.result? id ∈ k.examined.map k.scene.result? := Multiset.mem_map_of_mem _ h
  rw [scene, ← k.findings] at hmem
  obtain ⟨r, -, hr⟩ := Multiset.mem_map.1 hmem
  exact ⟨r, hr.symm⟩

/-- A task that was not begun has the whole of its examination before it. -/
theorem rest_of_not_mem {id : TaskId} (h : id ∉ k.begun) : k.scene.rest id = reconcile limit id := by
  have hpast : ∀ order : List TaskId, id ∉ order →
      (reconciledAtOnce limit b order).rest id = reconcile limit id := by
    intro order
    induction order using List.reverseRecOn with
    | nil => intro _; rfl
    | append_singleton order id' ih =>
        intro hmem
        rw [List.mem_append, List.mem_singleton, not_or] at hmem
        rw [reconciledAtOnce_concat, (Scene.step_next_of_ne (Ne.symm hmem.2)).1]
        exact ih hmem.1
  exact hpast k.order fun hmem => h (k.turns id hmem)

/-- Before the first task nothing has changed. -/
theorem state_of_begun_eq_nil (h : k.begun = []) : k.scene.state = b := by
  have horder : k.order = [] := List.eq_nil_iff_forall_not_mem.2 fun id hid => by
    have := k.turns id hid
    rw [h] at this
    cases this
  rw [scene, horder]
  rfl

/-! ### The entries -/

/-- Before the first task. -/
def empty (limit : TimeLimit) (b : Backend) (places : Nat) : Books limit b places where
  order := []
  begun := []
  busy := 0
  examined := 0
  taken := []
  held := 0
  ready := []
  free := places
  nodup := List.nodup_nil
  split := rfl
  turns := by simp
  findings := rfl
  room := rfl

/-- A call for a task that is examined. -/
def turn (id : TaskId) (hid : id ∈ k.busy) : Books limit b places :=
  { k with
    order := k.order ++ [id]
    turns := by
      intro id' hid'
      rcases List.mem_append.1 hid' with hmem | hmem
      · exact k.turns id' hmem
      · exact List.mem_singleton.1 hmem ▸ k.mem_begun hid
    findings := by
      rw [k.findings]
      refine Multiset.map_congr rfl fun id' hexamined => ?_
      simp only [reconciledAtOnce_concat, Scene.result?]
      rw [(Scene.step_next_of_ne (k.ne_of_mem_examined hid hexamined).symm).1] }

theorem scene_turn {id : TaskId} (hid : id ∈ k.busy) :
    (k.turn id hid).scene = k.scene.step Backend.world (.next id) :=
  reconciledAtOnce_concat limit b k.order id

/-- A task is begun, and a place is given to it. -/
def begin (id : TaskId) (hid : id ∉ k.begun) (hfree : 0 < k.free) : Books limit b places :=
  { k with
    begun := k.begun ++ [id]
    busy := id ::ₘ k.busy
    free := k.free - 1
    nodup := List.nodup_append.2 ⟨k.nodup, by simp, by simpa using fun _ h => ne_of_mem_of_not_mem h hid⟩
    split := by
      rw [Multiset.cons_add, k.split, Multiset.cons_coe]
      exact Multiset.coe_eq_coe.2 (List.perm_append_singleton _ _).symm
    turns := fun id' hid' => List.mem_append_left _ (k.turns id' hid')
    room := by
      have := k.room
      rw [Multiset.card_cons]
      omega }

/-- A task has been examined: there is a finding on it, and its place is free again. -/
def finish (id : TaskId) (r : Reconciled) (hid : id ∈ k.busy) (hr : k.scene.result? id = some r) :
    Books limit b places :=
  { k with
    busy := k.busy.erase id
    examined := id ::ₘ k.examined
    ready := k.ready ++ [r]
    free := k.free + 1
    split := by
      rw [Multiset.add_cons, ← Multiset.cons_add, Multiset.cons_erase hid, k.split]
    findings := by
      have hfound : (reconciledAtOnce limit b k.order).result? id = some r := hr
      rw [Multiset.map_cons, ← k.findings, hfound, ← Multiset.coe_add, Multiset.coe_singleton,
        ← Multiset.map_cons, ← Multiset.singleton_add]
      congr 1
      ac_rfl
    room := by
      have := k.room
      have := Multiset.card_erase_add_one hid
      omega }

/-- A finding is taken. -/
def take (r : Reconciled) (rest : List Reconciled) (h : k.ready = r :: rest) : Books limit b places :=
  { k with
    taken := k.taken ++ [r]
    ready := rest
    findings := by
      rw [← k.findings, h, ← Multiset.cons_coe, ← Multiset.singleton_add, ← Multiset.coe_add,
        Multiset.coe_singleton]
      congr 1
      ac_rfl }

/-- A finding is put out of reach. -/
def hold (r : Reconciled) (rest : List Reconciled) (h : k.ready = r :: rest) : Books limit b places :=
  { k with
    held := r ::ₘ k.held
    ready := rest
    findings := by
      rw [← k.findings, h, ← Multiset.cons_coe, ← Multiset.singleton_add r k.held,
        ← Multiset.singleton_add r ↑rest]
      congr 1
      ac_rfl }

/-- A finding that was out of reach is ready again. -/
def giveBack (r : Reconciled) (rest : Multiset Reconciled) (h : k.held = r ::ₘ rest) :
    Books limit b places :=
  { k with
    held := rest
    ready := k.ready ++ [r]
    findings := by
      rw [← k.findings, h, ← Multiset.coe_add, Multiset.coe_singleton, ← Multiset.singleton_add]
      congr 1
      ac_rfl }

/-! ### What has come of a sweep -/

/-- Each task that was begun is still examined, or there is a finding on it. -/
theorem length_begun : k.begun.length =
    k.busy.card + (k.taken.length + k.held.card + k.ready.length) := by
  have hfindings := congrArg Multiset.card k.findings
  have hsplit := congrArg Multiset.card k.split
  simp only [Multiset.card_map, Multiset.card_add, Multiset.coe_card] at hfindings hsplit
  omega

/-- When as many findings were taken as tasks were begun, nothing is left to be done. -/
theorem idle_of_length (h : k.taken.length = k.begun.length) :
    k.busy = 0 ∧ k.held = 0 ∧ k.ready = [] := by
  have hbegun := k.length_begun
  refine ⟨Multiset.card_eq_zero.1 ?_, Multiset.card_eq_zero.1 ?_, List.length_eq_zero_iff.1 ?_⟩
  all_goals omega

/-- **When all findings on the listed tasks were taken**, the report and the backend are as if the
tasks had been reconciled one after the other. -/
theorem perform_reconcileAll (hbegun : k.begun = b.openIds)
    (htaken : k.taken.length = k.begun.length) :
    b.perform (reconcileAll limit b.openIds {}) =
      (k.taken.foldl SweepReport.add {}, k.scene.state) := by
  obtain ⟨hbusy, hheld, hready⟩ := k.idle_of_length htaken
  have hexamined : k.examined = .ofList b.openIds := by
    rw [← hbegun, ← k.split, hbusy, Multiset.zero_add]
  have hended : ∀ id ∈ b.openIds, (k.scene.result? id).isSome := by
    intro id hid
    obtain ⟨r, hr⟩ := k.result?_of_mem_examined (show id ∈ k.examined from hexamined ▸ hid)
    exact Option.isSome_iff_exists.2 ⟨r, hr⟩
  have hapart : Scene.AskApart Backend.world b.openIds Call.Tends :=
    fun _ _ _ _ hne _ _ hq hq' => hq.apart hq' hne
  obtain ⟨hstate, hresult⟩ := Scene.play_of_apart b.nodup_openIds hapart
    (fun id _ => asksOnly_reconcile limit id) b (fun id hid => hbegun ▸ k.turns id hid) hended
  have hfound : (Multiset.ofList k.taken).map some =
      (Multiset.ofList (b.openIds.map (findingOn limit b))).map some := by
    have hfindings := k.findings
    rw [hheld, hready, hexamined, Multiset.add_zero, Multiset.coe_nil, Multiset.add_zero] at hfindings
    rw [hfindings, Multiset.map_coe, Multiset.map_coe, List.map_map]
    exact congrArg _ (List.map_congr_left hresult)
  have hperm : k.taken.Perm (b.openIds.map (findingOn limit b)) :=
    Multiset.coe_eq_coe.1 (Multiset.map_injective (Option.some_injective _) hfound)
  rw [Service.perform_reconcileAll b.nodup_openIds, ← SweepReport.foldl_add_perm hperm]
  exact congrArg _ hstate.symm

end Books

end TaskLedger.Service
