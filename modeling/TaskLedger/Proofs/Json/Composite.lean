import Mathlib.Data.List.Nodup
import TaskLedger.Json.Composite

/-!
**Composite values are read back from the objects that they are written as.**

The members of an object stand in the order of their keys, whatever the order in which they were
written.  If no two of them have one key, each part is found under its name.  An optional part is
written as null where there is none, and null is read as none: a part of its own that happens to be
null is lost.

Main definitions:

* `TaskLedger.Json.Reads` — a reader reads what is written of the values of a type;
* `TaskLedger.Json.Composite.ofMembers` — the parts of an object that was made of members.

Main results:

* `TaskLedger.Json.find?_foldl_insert` — a member is found in the object made of it and others;
* `TaskLedger.Json.Composite.required_ofMembers`, `TaskLedger.Json.Composite.optional_ofMembers` — what
  is read of a part;
* `TaskLedger.Json.Reads.required`, `TaskLedger.Json.Reads.optional` — a part is read back.
-/

set_option autoImplicit false

namespace TaskLedger.Json

/-! ### Members of an object -/

theorem find?_foldl_insert_of_notMem {key : String} {l : List (String × Json)}
    (h : key ∉ l.map Prod.fst) (done : List (String × Json)) :
    find? key (l.foldl (fun sorted m => insert m.1 m.2 sorted) done) = find? key done := by
  induction l generalizing done with
  | nil => rfl
  | cons m rest ih =>
      rw [List.map_cons, List.mem_cons, not_or] at h
      rw [List.foldl_cons, ih h.2, find?_insert, if_neg (Ne.symm h.1)]

/-- A member is found in the object made of it and others, if none of them has its key. -/
theorem find?_foldl_insert {key : String} {v : Json} {l : List (String × Json)}
    (hkeys : (l.map Prod.fst).Nodup) (hmem : (key, v) ∈ l) (done : List (String × Json)) :
    find? key (l.foldl (fun sorted m => insert m.1 m.2 sorted) done) = some v := by
  induction l generalizing done with
  | nil => cases hmem
  | cons m rest ih =>
      obtain ⟨hnew, hrest⟩ := List.nodup_cons.1 hkeys
      rw [List.foldl_cons]
      obtain rfl | hlater := List.mem_cons.1 hmem
      · rw [find?_foldl_insert_of_notMem hnew, find?_insert, if_pos rfl]
      · exact ih hrest hlater _

theorem ofMembers_concat (l : List (String × Json)) (m : String × Json) :
    ofMembers (l ++ [m]) =
      .object (insert m.1 m.2 (l.foldl (fun sorted m => insert m.1 m.2 sorted) [])) := by
  rw [ofMembers, List.foldl_concat]

/-! ### Parts -/

theorem filter_ne_null {v : Json} (h : v ≠ .null) : (some v).filter (· ≠ .null) = some v :=
  Option.filter_some_pos (decide_eq_true h)

namespace Composite

variable {α : Type} {l : List (String × Json)} {place : Nat} {name : String} {v : Json}

/-- The parts of an object that was made of members. -/
def ofMembers (l : List (String × Json)) : Composite :=
  .named (l.foldl (fun sorted m => insert m.1 m.2 sorted) [])

@[simp] theorem of?_ofMembers (count : Nat) (l : List (String × Json)) :
    of? count (Json.ofMembers l) = some (ofMembers l) := rfl

theorem part?_ofMembers (hkeys : (l.map Prod.fst).Nodup) (hpart : l[place]? = some (name, v)) :
    (ofMembers l).part? place name = some v :=
  find?_foldl_insert hkeys (List.mem_of_getElem? hpart) []

theorem required_ofMembers (hkeys : (l.map Prod.fst).Nodup) (hpart : l[place]? = some (name, v))
    (read : Json → Option α) : (ofMembers l).required place name read = read v := by
  rw [required, part?_ofMembers hkeys hpart]
  rfl

/-- Of an optional part nothing is left if it is null, and otherwise what the reader makes of it. -/
theorem optional_ofMembers {o : Option Json} (hkeys : (l.map Prod.fst).Nodup)
    (hpart : l[place]? = some (name, o.getD .null)) (read : Json → Option α) :
    (ofMembers l).optional place name read = (o.filter (· ≠ .null)).mapM read := by
  have hfound := part?_ofMembers hkeys hpart
  unfold optional
  rw [hfound]
  cases o with
  | none => rfl
  | some v =>
      by_cases hv : v = .null
      · subst hv
        rfl
      · rw [filter_ne_null hv]
        cases v with
        | null => exact absurd rfl hv
        | _ => rfl

end Composite

/-- A reader reads what is written of the values of a type, and nothing of them is written as null. -/
structure Reads {α : Type} (read : Json → Option α) (write : α → Json) : Prop where
  value : ∀ a, read (write a) = some a
  ne_null : ∀ a, write a ≠ .null

namespace Reads

variable {α : Type} {read : Json → Option α} {write : α → Json} {l : List (String × Json)}
  {place : Nat} {name : String} {v : Json}

theorem required (h : Reads read write) (hkeys : (l.map Prod.fst).Nodup) {a : α}
    (hpart : l[place]? = some (name, write a)) :
    (Composite.ofMembers l).required place name read = some a := by
  rw [Composite.required_ofMembers hkeys hpart, h.value]

theorem optional (h : Reads read write) (hkeys : (l.map Prod.fst).Nodup) {a : Option α}
    (hpart : l[place]? = some (name, v)) (hv : v = (a.map write).getD .null) :
    (Composite.ofMembers l).optional place name read = some a := by
  rw [Composite.optional_ofMembers hkeys (hv ▸ hpart)]
  cases a with
  | none => rfl
  | some a =>
      rw [Option.map_some, filter_ne_null (h.ne_null a)]
      change (read (write a)).map some = _
      rw [h.value, Option.map_some]

end Reads

/-! ### Simple parts -/

theorem reads_text : Reads textOf? .text := ⟨fun _ => rfl, nofun⟩

theorem reads_texts : Reads textsOf? fun texts => .list (texts.map .text) where
  value texts := by
    change (texts.map Json.text).mapM textOf? = some texts
    induction texts with
    | nil => rfl
    | cons s texts ih =>
        rw [List.map_cons, List.mapM_cons, ih]
        rfl
  ne_null := nofun

theorem ofText?_eq (o : Option String) : ofText? o = (o.map .text).getD .null := by
  cases o <;> rfl

end TaskLedger.Json
