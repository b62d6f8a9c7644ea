import TaskLedger.Number.Double

/-!
**JSON values.**

Payloads, results and job arguments are JSON values whose shape this library does not know.
Integers of 64 bits stay integers, every other number is a double.  The members of an object stand
in the order of their keys, each key once.

Main definitions:

* `TaskLedger.Json` — the values, with decidable equality;
* `TaskLedger.Json.insert`, `TaskLedger.Json.ofMembers` — building an object;
* `TaskLedger.Json.member?` — looking a key up.

Main results:

* `TaskLedger.Json.find?_insert` — a key looked up after an insertion.
-/

set_option autoImplicit false

namespace TaskLedger

/-- A JSON value. -/
inductive Json where
  | null
  | bool (b : Bool)
  | int (n : Int)
  | double (x : Double)
  | text (s : String)
  | list (items : List Json)
  | object (members : List (String × Json))
  deriving Repr, Inhabited

namespace Json

/-! ### Equality -/

mutual

/-- Whether two values are the same. -/
def same : Json → Json → Bool
  | .null, .null => true
  | .bool a, .bool b => a == b
  | .int a, .int b => a == b
  | .double a, .double b => decide (a = b)
  | .text a, .text b => a == b
  | .list a, .list b => sameItems a b
  | .object a, .object b => sameMembers a b
  | _, _ => false

/-- Whether two lists hold the same values. -/
def sameItems : List Json → List Json → Bool
  | [], [] => true
  | a :: as, b :: bs => same a b && sameItems as bs
  | _, _ => false

/-- Whether two lists hold the same keys and values. -/
def sameMembers : List (String × Json) → List (String × Json) → Bool
  | [], [] => true
  | (k, a) :: as, (l, b) :: bs => k == l && same a b && sameMembers as bs
  | _, _ => false

end

mutual

theorem eq_of_same : ∀ {a b : Json}, same a b = true → a = b
  | .null, b, h => by cases b <;> simp_all [same]
  | .bool x, b, h => by cases b <;> simp_all [same]
  | .int x, b, h => by cases b <;> simp_all [same]
  | .double x, b, h => by cases b <;> simp_all [same]
  | .text x, b, h => by cases b <;> simp_all [same]
  | .list xs, b, h => by
      cases b <;> simp only [same, Bool.false_eq_true] at h
      rw [eq_of_sameItems h]
  | .object xs, b, h => by
      cases b <;> simp only [same, Bool.false_eq_true] at h
      rw [eq_of_sameMembers h]

theorem eq_of_sameItems : ∀ {as bs : List Json}, sameItems as bs = true → as = bs
  | [], bs, h => by cases bs <;> simp_all [sameItems]
  | a :: as, bs, h => by
      cases bs with
      | nil => simp [sameItems] at h
      | cons b bs =>
          simp only [sameItems, Bool.and_eq_true] at h
          rw [eq_of_same h.1, eq_of_sameItems h.2]

theorem eq_of_sameMembers : ∀ {as bs : List (String × Json)}, sameMembers as bs = true → as = bs
  | [], bs, h => by cases bs <;> simp_all [sameMembers]
  | (k, a) :: as, bs, h => by
      cases bs with
      | nil => simp [sameMembers] at h
      | cons b bs =>
          obtain ⟨l, b⟩ := b
          simp only [sameMembers, Bool.and_eq_true, beq_iff_eq] at h
          rw [h.1.1, eq_of_same h.1.2, eq_of_sameMembers h.2]

end

mutual

theorem same_self : ∀ a : Json, same a a = true
  | .null => rfl
  | .bool _ => by simp [same]
  | .int _ => by simp [same]
  | .double _ => by simp [same]
  | .text _ => by simp [same]
  | .list xs => by simp [same, sameItems_self xs]
  | .object xs => by simp [same, sameMembers_self xs]

theorem sameItems_self : ∀ as : List Json, sameItems as as = true
  | [] => rfl
  | a :: as => by simp [sameItems, same_self a, sameItems_self as]

theorem sameMembers_self : ∀ as : List (String × Json), sameMembers as as = true
  | [] => rfl
  | (k, a) :: as => by simp [sameMembers, same_self a, sameMembers_self as]

end

instance : DecidableEq Json := fun a b =>
  decidable_of_iff (same a b = true) ⟨eq_of_same, fun h => h ▸ same_self a⟩

/-! ### Objects -/

/-- Puts a member among others that stand in the order of their keys, in place of a member of the
same key. -/
def insert (key : String) (value : Json) : List (String × Json) → List (String × Json)
  | [] => [(key, value)]
  | (k, v) :: rest =>
      if key = k then (key, value) :: rest
      else if key < k then (key, value) :: (k, v) :: rest
      else (k, v) :: insert key value rest

/-- The object with the given members; of several with one key, the last counts. -/
def ofMembers (members : List (String × Json)) : Json :=
  .object (members.foldl (fun sorted m => insert m.1 m.2 sorted) [])

/-- The value under a key among members. -/
def find? (key : String) : List (String × Json) → Option Json
  | [] => none
  | (k, v) :: rest => if k = key then some v else find? key rest

/-- The value under a key of an object; other values have no members. -/
def member? (key : String) : Json → Option Json
  | .object members => find? key members
  | _ => none

/-- A key looked up after an insertion. -/
theorem find?_insert (key k : String) (v : Json) (members : List (String × Json)) :
    find? key (insert k v members) = if k = key then some v else find? key members := by
  induction members with
  | nil => simp [insert, find?]
  | cons m rest ih =>
      obtain ⟨l, w⟩ := m
      by_cases hk : k = l
      · subst hk
        by_cases h : k = key <;> simp [insert, find?, h]
      · by_cases hlt : k < l
        · simp [insert, find?, hk, hlt]
        · by_cases h : k = key
          · subst h
            simp [insert, find?, hk, hlt, ih, Ne.symm hk]
          · simp [insert, find?, hk, hlt, ih, h]

/-- A text, or null where there is none. -/
def ofText? : Option String → Json
  | none => .null
  | some s => .text s

/-- A natural number. -/
def nat (n : Nat) : Json := .int n

end Json

end TaskLedger
