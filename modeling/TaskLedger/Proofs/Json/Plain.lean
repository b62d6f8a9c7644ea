import TaskLedger.Json.Embedded
import TaskLedger.Proofs.Fallible

/-!
**Values that are taken over as they are.**

A value is taken over as it is if it is plain: no object in it, at any depth, begins with the embedding
key.  Any other value is either refused or becomes another one.  That it never happens to become itself
is because no embedded text denotes the object that it is embedded by: an object that is read begins
with another key, even if that key is not the first any more once the members are in order.

Main definitions:

* `TaskLedger.Json.isPlain` — no object in a value begins with the embedding key.

Main results:

* `TaskLedger.Json.Reader.value_ne_envelope` — what is read is no object around an embedded text;
* `TaskLedger.Json.resolve?_eq_self_iff` — **a value is taken over as it is exactly if it is plain**.
-/

set_option autoImplicit false

namespace TaskLedger.Json

/-! ### What can be read -/

namespace Reader

/-- A number is an integer or a double. -/
theorem numberOf_ne_object {negative : Bool} {whole : List Char} {fraction : Option (List Char)}
    {exponent : Option Int} {ms : List (String × Json)} :
    numberOf negative whole fraction exponent ≠ some (.object ms) := by
  intro h
  unfold numberOf at h
  dsimp only at h
  split at h
  · cases h
  · split at h
    · cases h
    · split at h <;> cases h

theorem number_ne_object {cs rest : List Char} {ms : List (String × Json)} :
    number .keep cs ≠ some (.object ms, rest) := by
  intro h
  unfold number at h
  dsimp only at h
  obtain ⟨⟨whole, fraction, exponent, tail⟩, -, h⟩ := Option.bind_eq_some_iff.1 h
  obtain ⟨found, hfound, h⟩ := Option.bind_eq_some_iff.1 h
  cases h
  exact numberOf_ne_object hfound

theorem scalar_ne_object {cs rest : List Char} {ms : List (String × Json)} :
    scalar .keep cs ≠ some (.object ms, rest) := by
  intro h
  unfold scalar at h
  split at h
  · obtain ⟨⟨s, tail⟩, -, h⟩ := Option.bind_eq_some_iff.1 h
    cases h
  · obtain ⟨tail, -, h⟩ := Option.bind_eq_some_iff.1 h
    cases h
  · obtain ⟨tail, -, h⟩ := Option.bind_eq_some_iff.1 h
    cases h
  · obtain ⟨tail, -, h⟩ := Option.bind_eq_some_iff.1 h
    cases h
  · exact number_ne_object h

theorem orNotJson_eq_ok_iff {α : Type} {read : Option α} {a : α} :
    orNotJson read = .ok a ↔ read = some a := by
  cases read <;> simp [orNotJson]

/-- The value of an embedded text is read with less fuel. -/
theorem value_of_embedded {fuel : Nat} {cs rest : List Char} {found : Json}
    (h : embedded fuel cs = .ok (found, rest)) :
    ∃ less < fuel, ∃ depth cs rest, value .keep less depth cs = .ok (found, rest) := by
  cases fuel with
  | zero => cases h
  | succ fuel =>
      rw [embedded] at h
      obtain ⟨⟨inner, tail⟩, -, h⟩ := bind_eq_ok_iff.1 h
      dsimp only at h
      split at h
      · next found tail hfound =>
          split at h
          · obtain ⟨tail, -, h⟩ := bind_eq_ok_iff.1 h
            cases h
            exact ⟨fuel, by omega, _, _, _, hfound⟩
          · cases h
      · cases h

/-- One member is read and put among the others, and then the object goes on or ends. -/
theorem insert_of_members {fuel depth : Nat} {done found : List (String × Json)}
    {cs rest : List Char} (h : members .keep (fuel + 1) depth done cs = .ok (found, rest)) :
    ∃ name item tail, key .keep cs = .ok (name, tail) ∧
      (found = insert name item done ∨
        ∃ tail, members .keep fuel depth (insert name item done) tail = .ok (found, rest)) := by
  rw [members] at h
  obtain ⟨⟨name, tail⟩, hname, h⟩ := bind_eq_ok_iff.1 h
  obtain ⟨⟨item, more⟩, -, h⟩ := bind_eq_ok_iff.1 h
  refine ⟨name, item, tail, hname, ?_⟩
  dsimp only at h
  split at h
  · exact Or.inr ⟨_, h⟩
  · cases h
    exact Or.inl rfl
  · cases h

theorem isSome_find?_insert {k name : String} {item : Json} {done : List (String × Json)}
    (h : name = k ∨ (find? k done).isSome = true) :
    (find? k (insert name item done)).isSome = true := by
  rw [find?_insert]
  split
  · rfl
  · next hne => exact h.resolve_left hne

/-- Members that were read stay, though their values may be replaced. -/
theorem isSome_find?_of_members {fuel depth : Nat} {done found : List (String × Json)}
    {cs rest : List Char} {k : String} (h : members .keep fuel depth done cs = .ok (found, rest))
    (hk : (find? k done).isSome = true) : (find? k found).isSome = true := by
  induction fuel generalizing done cs with
  | zero => cases h
  | succ fuel ih =>
      obtain ⟨name, item, -, -, hends | ⟨tail, hmore⟩⟩ := insert_of_members h
      · rw [hends]
        exact isSome_find?_insert (Or.inr hk)
      · exact ih hmore (isSome_find?_insert (Or.inr hk))

/-- The key that the members of an object begin with is the key of one of them. -/
theorem isSome_find?_first {fuel depth : Nat} {done found : List (String × Json)}
    {cs tail rest : List Char} {first : String} (hfirst : key .keep cs = .ok (first, tail))
    (h : members .keep fuel depth done cs = .ok (found, rest)) :
    (find? first found).isSome = true := by
  cases fuel with
  | zero => cases h
  | succ fuel =>
      obtain ⟨name, item, tail', hname, hends⟩ := insert_of_members h
      obtain ⟨rfl, -⟩ := Prod.mk.inj (Except.ok.inj (hname.symm.trans hfirst))
      obtain rfl | ⟨tail, hmore⟩ := hends
      · exact isSome_find?_insert (Or.inl rfl)
      · exact isSome_find?_of_members hmore (isSome_find?_insert (Or.inl rfl))

/-- An object that is read is empty, or the value of an embedded text, or it is read member by member,
the first of them under another key than the embedding key. -/
theorem members_of_value {fuel depth : Nat} {cs rest : List Char} {ms : List (String × Json)}
    (h : value .keep fuel depth cs = .ok (.object ms, rest)) :
    ms = [] ∨
      (∃ less < fuel, ∃ depth cs rest, value .keep less depth cs = .ok (.object ms, rest)) ∨
      ∃ fuel depth cs first tail, first ≠ embeddingKey ∧ key .keep cs = .ok (first, tail) ∧
        members .keep fuel depth [] cs = .ok (ms, rest) := by
  cases fuel with
  | zero => cases h
  | succ fuel =>
      rw [value] at h
      split at h
      · split at h
        · cases h
        · split at h
          · cases h
          · obtain ⟨⟨found, tail⟩, -, h⟩ := bind_eq_ok_iff.1 h
            cases h
      · split at h
        · cases h
        · split at h
          · cases h
            exact Or.inl rfl
          · obtain ⟨⟨first, tail⟩, hfirst, h⟩ := bind_eq_ok_iff.1 h
            dsimp only at h
            split at h
            · obtain ⟨less, hless, hinner⟩ := value_of_embedded h
              exact Or.inr (Or.inl ⟨less, Nat.lt_succ_of_lt hless, hinner⟩)
            · next hother =>
                obtain ⟨⟨found, tail⟩, hfound, h⟩ := bind_eq_ok_iff.1 h
                cases h
                exact Or.inr (Or.inr ⟨_, _, _, first, _, fun hkey => hother ⟨rfl, hkey⟩, hfirst,
                  hfound⟩)
      · exact absurd (orNotJson_eq_ok_iff.1 h) scalar_ne_object

/-- **What is read is no object around an embedded text.**  Whatever stands under the embedding key, an
object with this member alone is not read from any text. -/
theorem value_ne_envelope {fuel depth : Nat} {cs rest : List Char} {v : Json} :
    value .keep fuel depth cs ≠ .ok (.object [(embeddingKey, v)], rest) := by
  -- By strong induction on the fuel, of which an embedded text is left less.
  induction fuel using Nat.strongRecOn generalizing depth cs rest with
  | ind fuel ih =>
      intro h
      obtain hempty | ⟨less, hless, depth', cs', rest', hinner⟩ |
        ⟨fuel', depth', cs', first, tail, hother, hfirst, hmembers⟩ := members_of_value h
      · cases hempty
      · exact ih less hless hinner
      · have hhere := isSome_find?_first hfirst hmembers
        rw [find?, if_neg (Ne.symm hother)] at hhere
        cases hhere

end Reader

theorem read?_ne_envelope {s : String} {v : Json} :
    read? s ≠ some (.object [(embeddingKey, v)]) := by
  intro h
  unfold read? at h
  dsimp only at h
  split at h
  · next found rest hread =>
      split at h
      · obtain rfl := Option.some.inj h
        exact Reader.value_ne_envelope hread
      · cases h
  · cases h

/-! ### Plain values -/

mutual

/-- No object in a value, at any depth, begins with the embedding key. -/
def isPlain : Json → Bool
  | .list items => itemsPlain items
  | .object members => members.head?.map Prod.fst ≠ some embeddingKey && membersPlain members
  | .null | .bool _ | .int _ | .double _ | .text _ => true

/-- All items are plain. -/
def itemsPlain : List Json → Bool
  | [] => true
  | j :: rest => isPlain j && itemsPlain rest

/-- The values of all members are plain. -/
def membersPlain : List (String × Json) → Bool
  | [] => true
  | (_, j) :: rest => isPlain j && membersPlain rest

end

mutual

/-- **A value is taken over as it is exactly if it is plain.** -/
theorem resolve?_eq_self_iff : ∀ {j : Json}, resolve? j = some j ↔ isPlain j = true
  | .null | .bool _ | .int _ | .double _ | .text _ => by simp [resolve?, isPlain]
  | .list items => by
      rw [isPlain, ← resolveItems?_eq_self_iff, resolve?]
      cases resolveItems? items <;> simp
  | .object members => by
      rw [isPlain, Bool.and_eq_true, ← resolveMembers?_eq_self_iff, decide_eq_true_eq]
      unfold resolve?
      split
      · next hembedded =>
          refine iff_of_false ?_ fun h => h.1 hembedded
          split
          · next key s =>
              obtain rfl : key = embeddingKey := Option.some.inj hembedded
              exact read?_ne_envelope
          · nofun
      · next hother => cases resolveMembers? members <;> simp [hother]

theorem resolveItems?_eq_self_iff :
    ∀ {items : List Json}, resolveItems? items = some items ↔ itemsPlain items = true
  | [] => by simp [resolveItems?, itemsPlain]
  | j :: rest => by
      rw [itemsPlain, Bool.and_eq_true, ← resolve?_eq_self_iff, ← resolveItems?_eq_self_iff,
        resolveItems?]
      cases resolve? j <;> cases resolveItems? rest <;> simp

theorem resolveMembers?_eq_self_iff : ∀ {members : List (String × Json)},
    resolveMembers? members = some members ↔ membersPlain members = true
  | [] => by simp [resolveMembers?, membersPlain]
  | (key, j) :: rest => by
      rw [membersPlain, Bool.and_eq_true, ← resolve?_eq_self_iff, ← resolveMembers?_eq_self_iff,
        resolveMembers?]
      cases resolve? j <;> cases resolveMembers? rest <;> simp

end

end TaskLedger.Json
