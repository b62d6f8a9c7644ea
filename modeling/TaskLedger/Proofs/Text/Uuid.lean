import Mathlib.Tactic.Ring
import TaskLedger.Task.Error

/-!
**What texts name an identifier.**

The reader of identifiers tells the forms apart by the length of the text and stops at the first
fault.  Here the forms are a grammar: 32 digits, or five groups of digits between hyphens, the groups
alone, between braces or after `urn:uuid:`.  The reader accepts the grammar and nothing else, and
what is written is in it.

Main definitions:

* `TaskLedger.Uuid.hexValue?` — the number that digits stand for;
* `TaskLedger.Uuid.Hyphenated`, `TaskLedger.Uuid.Spells` — the grammar;
* `TaskLedger.TaskId.Names` — a text names a task.

Main results:

* `TaskLedger.Uuid.parse_eq_ok_iff` — **the reader accepts the grammar and nothing else**;
* `TaskLedger.Uuid.parse_toText` — an identifier is read from the text that is written for it.
-/

set_option autoImplicit false

namespace TaskLedger

namespace Uuid

open Text

/-! ### The grammar -/

/-- The number that digits stand for after a number that stands before them. -/
def hexValue? (acc : Nat) (digits : List Char) : Option Nat :=
  digits.foldlM (fun n c => (hexDigit? c).map (n * 16 + ·)) acc

/-- Five groups of digits between hyphens. -/
inductive Hyphenated : List Char → Uuid → Prop
  | groups {groups : List (List Char)} {n : Nat} : groups.map List.length = groupLengths →
      hexValue? 0 groups.flatten = some n → Hyphenated (['-'].intercalate groups) ⟨.ofNat 128 n⟩

/-- The texts of an identifier. -/
inductive Spells : List Char → Uuid → Prop
  | bare {digits : List Char} {n : Nat} : digits.length = 32 → hexValue? 0 digits = some n →
      Spells digits ⟨.ofNat 128 n⟩
  | hyphenated {cs : List Char} {u : Uuid} : Hyphenated cs u → Spells cs u
  | braced {cs : List Char} {u : Uuid} : Hyphenated cs u → Spells ('{' :: (cs ++ ['}'])) u
  | urn {front cs : List Char} {u : Uuid} : front.map Char.toLower = "urn:uuid:".toList →
      Hyphenated cs u → Spells (front ++ cs) u

/-! ### Digits -/

@[simp] theorem hexValue?_nil (acc : Nat) : hexValue? acc [] = some acc := rfl

theorem hexValue?_cons (acc : Nat) (c : Char) (digits : List Char) :
    hexValue? acc (c :: digits) = (hexDigit? c).bind fun d => hexValue? (acc * 16 + d) digits := by
  simp only [hexValue?, List.foldlM_cons]
  cases hexDigit? c <;> rfl

theorem hexValue?_append (acc : Nat) (front rest : List Char) :
    hexValue? acc (front ++ rest) = (hexValue? acc front).bind fun n => hexValue? n rest := by
  simp only [hexValue?, List.foldlM_append]
  rfl

/-- So many digits are read as stand in front of the rest. -/
theorem readHex_eq_some_iff {count acc n : Nat} {cs rest : List Char} :
    readHex count acc cs = some (n, rest) ↔
      ∃ digits, digits.length = count ∧ hexValue? acc digits = some n ∧ cs = digits ++ rest := by
  induction count generalizing acc cs with
  | zero => simp [readHex, List.length_eq_zero_iff]
  | succ count ih =>
      constructor
      · intro h
        cases cs with
        | nil => cases h
        | cons c cs =>
            obtain ⟨d, hd, h⟩ := Option.bind_eq_some_iff.1 h
            obtain ⟨digits, hlength, hvalue, rfl⟩ := ih.1 h
            exact ⟨c :: digits, by simp [hlength], by simp [hexValue?_cons, hd, hvalue], rfl⟩
      · rintro ⟨_ | ⟨c, digits⟩, hlength, hvalue, rfl⟩
        · cases hlength
        · rw [hexValue?_cons] at hvalue
          obtain ⟨d, hd, hvalue⟩ := Option.bind_eq_some_iff.1 hvalue
          exact Option.bind_eq_some_iff.2 ⟨d, hd, ih.2 ⟨digits, by simpa using hlength, hvalue, rfl⟩⟩

/-- Further groups are read if each is as long as it should be and stands after a hyphen. -/
theorem readGroups_eq_some_iff {counts : List Nat} {acc n : Nat} {cs : List Char} :
    readGroups counts acc cs = some n ↔
      ∃ groups : List (List Char), groups.map List.length = counts ∧
        hexValue? acc groups.flatten = some n ∧ cs = groups.flatMap ('-' :: ·) := by
  induction counts generalizing acc cs with
  | nil => cases cs <;> simp [readGroups, eq_comm]
  | cons count counts ih =>
      constructor
      · intro h
        unfold readGroups at h
        split at h
        · next hcounts => cases hcounts
        · next hcounts => cases hcounts
        · next count' counts' acc' cs hcounts =>
            obtain ⟨rfl, rfl⟩ := List.cons.inj hcounts
            obtain ⟨⟨m, rest⟩, hread, hrest⟩ := Option.bind_eq_some_iff.1 h
            obtain ⟨digits, hlength, hm, rfl⟩ := readHex_eq_some_iff.1 hread
            obtain ⟨groups, hlengths, hn, rfl⟩ := ih.1 hrest
            exact ⟨digits :: groups, by simp [hlength, hlengths],
              by simp [hexValue?_append, hm, hn], by simp⟩
        · cases h
      · rintro ⟨_ | ⟨digits, groups⟩, hlengths, hn, rfl⟩
        · cases hlengths
        · obtain ⟨hlength, hlengths⟩ := List.cons.inj hlengths
          rw [List.flatten_cons, hexValue?_append] at hn
          obtain ⟨m, hm, hn⟩ := Option.bind_eq_some_iff.1 hn
          exact Option.bind_eq_some_iff.2 ⟨(m, groups.flatMap ('-' :: ·)),
            readHex_eq_some_iff.2 ⟨digits, hlength, hm, rfl⟩, ih.2 ⟨groups, hlengths, hn, rfl⟩⟩

/-- Groups between hyphens are the first and then the others, each after a hyphen. -/
theorem intercalate_cons (group : List Char) (groups : List (List Char)) :
    ['-'].intercalate (group :: groups) = group ++ groups.flatMap ('-' :: ·) := by
  induction groups generalizing group with
  | nil => simp
  | cons next groups ih => rw [List.intercalate_cons_cons, ih]; simp

theorem readHyphenated_eq_some_iff {cs : List Char} {u : Uuid} :
    readHyphenated cs = some u ↔ Hyphenated cs u := by
  constructor
  · intro h
    obtain ⟨⟨m, rest⟩, hread, hrest⟩ := Option.bind_eq_some_iff.1 h
    obtain ⟨n, hgroups, hu⟩ := Option.bind_eq_some_iff.1 hrest
    obtain ⟨digits, hlength, hm, rfl⟩ := readHex_eq_some_iff.1 hread
    obtain ⟨groups, hlengths, hn, rfl⟩ := readGroups_eq_some_iff.1 hgroups
    obtain rfl := Option.some.inj hu
    rw [← intercalate_cons]
    exact .groups (by rw [List.map_cons, hlength, hlengths]; rfl)
      (by simp [hexValue?_append, hm, hn])
  · rintro ⟨hlengths, hn⟩
    rename_i groups n
    cases groups with
    | nil => cases hlengths
    | cons digits groups =>
        obtain ⟨hlength, hlengths⟩ := List.cons.inj hlengths
        rw [List.flatten_cons, hexValue?_append] at hn
        obtain ⟨m, hm, hn⟩ := Option.bind_eq_some_iff.1 hn
        rw [intercalate_cons]
        exact Option.bind_eq_some_iff.2 ⟨(m, groups.flatMap ('-' :: ·)),
          readHex_eq_some_iff.2 ⟨digits, hlength, hm, rfl⟩,
          Option.bind_eq_some_iff.2 ⟨n, readGroups_eq_some_iff.2 ⟨groups, hlengths, hn, rfl⟩, rfl⟩⟩

theorem readSimple_eq_some_iff {cs : List Char} {u : Uuid} :
    readSimple cs = some u ↔
      ∃ n, cs.length = 32 ∧ hexValue? 0 cs = some n ∧ u = ⟨.ofNat 128 n⟩ := by
  constructor
  · intro h
    obtain ⟨⟨n, rest⟩, hread, hu⟩ := Option.bind_eq_some_iff.1 h
    obtain ⟨digits, hlength, hn, rfl⟩ := readHex_eq_some_iff.1 hread
    cases rest with
    | nil => exact ⟨n, by simpa using hlength, by simpa using hn, (Option.some.inj hu).symm⟩
    | cons c rest => cases hu
  · rintro ⟨n, hlength, hn, rfl⟩
    exact Option.bind_eq_some_iff.2
      ⟨(n, []), readHex_eq_some_iff.2 ⟨cs, hlength, hn, (List.append_nil cs).symm⟩, rfl⟩

/-! ### Lengths in bytes -/

theorem byteLength_eq_sum (cs : List Char) : byteLength cs = (cs.map Char.utf8Size).sum := by
  have key : ∀ n, cs.foldl (fun n c => n + c.utf8Size) n = n + (cs.map Char.utf8Size).sum := by
    induction cs with
    | nil => simp
    | cons c cs ih => intro n; simp [ih, Nat.add_assoc]
  simpa [byteLength] using key 0

/-- Characters of one byte each are as many as their bytes. -/
theorem byteLength_eq_length {cs : List Char} (h : ∀ c ∈ cs, c.toNat < 128) :
    byteLength cs = cs.length := by
  rw [byteLength_eq_sum]
  induction cs with
  | nil => rfl
  | cons c cs ih =>
      have hc : c.utf8Size = 1 := Char.utf8Size_eq_one_iff.2 (by
        have := h c List.mem_cons_self
        exact UInt32.le_iff_toNat_le.2 (Nat.le_of_lt_succ this))
      rw [List.map_cons, List.sum_cons, hc, ih fun c hc => h c (List.mem_cons_of_mem _ hc),
        List.length_cons, Nat.add_comm]

theorem lt_of_hexValue? {acc n : Nat} {digits : List Char} (h : hexValue? acc digits = some n) :
    ∀ c ∈ digits, c.toNat < 128 := by
  induction digits generalizing acc with
  | nil => simp
  | cons c digits ih =>
      rw [hexValue?_cons] at h
      obtain ⟨d, hd, h⟩ := Option.bind_eq_some_iff.1 h
      exact List.forall_mem_cons.2 ⟨lt_of_digitIn? hd, ih h⟩

/-- Five groups between hyphens take 36 characters, all of one byte. -/
theorem Hyphenated.ascii {cs : List Char} {u : Uuid} (h : Hyphenated cs u) :
    cs.length = 36 ∧ ∀ c ∈ cs, c.toNat < 128 := by
  obtain @⟨groups, n, hlengths, hn⟩ := h
  cases groups with
  | nil => cases hlengths
  | cons first groups =>
      have hascii := lt_of_hexValue? hn
      rw [intercalate_cons]
      have hlength : ∀ groups : List (List Char), (groups.flatMap ('-' :: ·)).length =
          (groups.map List.length).sum + groups.length := by
        intro groups
        induction groups with
        | nil => rfl
        | cons group groups ih => simp only [List.flatMap_cons, List.length_append, ih,
            List.length_cons, List.map_cons, List.sum_cons]; omega
      obtain ⟨hfirst, hrest⟩ := List.cons.inj hlengths
      have hfour : groups.length = 4 := by simpa using congrArg List.length hrest
      constructor
      · rw [List.length_append, hlength, hrest, hfirst, hfour]
        rfl
      · intro c hc
        rcases List.mem_append.1 hc with hc | hc
        · exact hascii c (by simp [hc])
        · obtain ⟨group, hgroup, hc⟩ := List.mem_flatMap.1 hc
          rcases List.mem_cons.1 hc with rfl | hc
          · decide
          · exact hascii c (List.mem_flatten.2 ⟨group, List.mem_cons_of_mem _ hgroup, hc⟩)

/-- A character whose lower case is of one byte is of one byte. -/
theorem lt_of_toLower {c : Char} (h : c.toLower.toNat < 128) : c.toNat < 128 := by
  unfold Char.toLower at h
  split at h
  · next hupper => exact Nat.lt_of_le_of_lt (UInt32.le_iff_toNat_le.1 hupper.2) (by decide)
  · exact h

/-- The letters before an identifier that is written as a resource name take nine bytes. -/
theorem urn_ascii {front : List Char} (h : front.map Char.toLower = "urn:uuid:".toList) :
    front.length = 9 ∧ ∀ c ∈ front, c.toNat < 128 := by
  constructor
  · simpa using congrArg List.length h
  · intro c hc
    have hmem : c.toLower ∈ "urn:uuid:".toList := h ▸ List.mem_map_of_mem hc
    have hsmall : ∀ d ∈ "urn:uuid:".toList, d.toNat < 128 := by simp
    exact lt_of_toLower (hsmall _ hmem)

/-! ### The reader -/

theorem unbraced?_eq_some_iff {cs body : List Char} :
    unbraced? cs = some body ↔ cs = '{' :: (body ++ ['}']) := by
  constructor
  · intro h
    unfold unbraced? at h
    split at h
    · split at h
      · next hlast =>
          obtain ⟨front, rfl⟩ := List.getLast?_eq_some_iff.1 hlast
          obtain rfl := Option.some.inj h
          simp
      · cases h
    · cases h
  · rintro rfl
    simp [unbraced?]

theorem afterUrn?_eq_some_iff {cs body : List Char} :
    afterUrn? cs = some body ↔
      ∃ front, front.map Char.toLower = "urn:uuid:".toList ∧ cs = front ++ body := by
  unfold afterUrn?
  constructor
  · intro h
    split at h
    · next hfront =>
        obtain rfl := Option.some.inj h
        exact ⟨cs.take 9, hfront, (List.take_append_drop 9 cs).symm⟩
    · cases h
  · rintro ⟨front, hfront, rfl⟩
    have hnine := (urn_ascii hfront).1
    rw [List.take_left' hnine, List.drop_left' hnine, if_pos hfront]

/-- Each form of an identifier has a length in bytes of its own. -/
theorem parseChars_of_spells {cs : List Char} {u : Uuid} (h : Spells cs u) :
    parseChars cs = .ok u := by
  cases h with
  | bare hlength hn =>
      have hbytes : byteLength cs = 32 := (byteLength_eq_length (lt_of_hexValue? hn)).trans hlength
      simp only [parseChars, hbytes, readSimple_eq_some_iff.2 ⟨_, hlength, hn, rfl⟩]
  | hyphenated h =>
      have hbytes : byteLength cs = 36 := (byteLength_eq_length h.ascii.2).trans h.ascii.1
      simp only [parseChars, hbytes, readHyphenated_eq_some_iff.2 h]
  | @braced cs u h =>
      have hbytes : byteLength ('{' :: (cs ++ ['}'])) = 38 := by
        rw [byteLength_eq_length]
        · simp [h.ascii.1]
        · simp only [List.mem_cons, List.mem_append, List.not_mem_nil, or_false]
          rintro c (rfl | hc | rfl)
          exacts [by decide, h.ascii.2 c hc, by decide]
      simp only [parseChars, hbytes, unbraced?_eq_some_iff.2 rfl, readHyphenated_eq_some_iff.2 h]
  | @urn front cs u hfront h =>
      have hbytes : byteLength (front ++ cs) = 45 := by
        rw [byteLength_eq_length]
        · rw [List.length_append, (urn_ascii hfront).1, h.ascii.1]
        · intro c hc
          exact (List.mem_append.1 hc).elim ((urn_ascii hfront).2 c) (h.ascii.2 c)
      simp only [parseChars, hbytes, afterUrn?_eq_some_iff.2 ⟨front, hfront, rfl⟩,
        readHyphenated_eq_some_iff.2 h]

theorem spells_of_parseChars {cs : List Char} {u : Uuid} (h : parseChars cs = .ok u) :
    Spells cs u := by
  unfold parseChars at h
  dsimp only at h
  -- In each form but the bare one, what is read is the five groups.
  split at h
  · split at h <;> cases h
    exact .hyphenated (readHyphenated_eq_some_iff.1 ‹_›)
  · next body _ hunbraced =>
      split at h <;> cases h
      rw [unbraced?_eq_some_iff.1 hunbraced]
      exact .braced (readHyphenated_eq_some_iff.1 ‹_›)
  · next body _ hafter =>
      split at h <;> cases h
      obtain ⟨front, hfront, rfl⟩ := afterUrn?_eq_some_iff.1 hafter
      exact .urn hfront (readHyphenated_eq_some_iff.1 ‹_›)
  · split at h <;> cases h
    obtain ⟨n, hlength, hn, rfl⟩ := readSimple_eq_some_iff.1 ‹_›
    exact .bare hlength hn
  · cases h

/-- **The reader accepts the grammar and nothing else.** -/
theorem parse_eq_ok_iff {s : String} {u : Uuid} : parse s = .ok u ↔ Spells s.toList u :=
  ⟨spells_of_parseChars, parseChars_of_spells⟩

/-! ### The written form -/

theorem length_hexText (count n : Nat) : (hexText count n).length = count := by
  induction count generalizing n with
  | zero => rfl
  | succ count ih => simp [hexText, ih]

/-- The digits that are written of a number stand for its remainder. -/
theorem hexValue?_hexText (count acc n : Nat) :
    hexValue? acc (hexText count n) = some (acc * 16 ^ count + n % 16 ^ count) := by
  induction count generalizing n with
  | zero => simp [hexText, Nat.mod_one]
  | succ count ih =>
      have hdigit : hexDigit? (Nat.digitChar (n % 16)) = some (n % 16) :=
        digitIn?_digitChar (by decide) (by omega)
      rw [hexText, hexValue?_append, ih, Option.bind_some, hexValue?_cons, hdigit]
      simp only [Option.bind_some, hexValue?_nil, Option.some.injEq]
      have hsplit : n % (16 * 16 ^ count) = n % 16 + 16 * (n / 16 % 16 ^ count) :=
        Nat.mod_mul
      rw [Nat.pow_succ, Nat.mul_comm (16 ^ count) 16, hsplit]
      ring

/-- What is written of an identifier is five groups that stand for its number. -/
theorem hyphenated_chars (u : Uuid) : Hyphenated u.chars u := by
  have hform : u.chars = ['-'].intercalate [hexText 8 (u.bits.toNat >>> 96),
      hexText 4 (u.bits.toNat >>> 80), hexText 4 (u.bits.toNat >>> 64),
      hexText 4 (u.bits.toNat >>> 48), hexText 12 u.bits.toNat] := by
    simp [chars]
  have hvalue : hexValue? 0 [hexText 8 (u.bits.toNat >>> 96), hexText 4 (u.bits.toNat >>> 80),
      hexText 4 (u.bits.toNat >>> 64), hexText 4 (u.bits.toNat >>> 48),
      hexText 12 u.bits.toNat].flatten = some u.bits.toNat := by
    have hlt : u.bits.toNat < 2 ^ 128 := u.bits.isLt
    simp only [List.flatten_cons, List.flatten_nil, List.append_nil, hexValue?_append,
      hexValue?_hexText, Option.bind_some, Nat.shiftRight_eq_div_pow, Option.some.injEq]
    omega
  have hu : u = ⟨.ofNat 128 u.bits.toNat⟩ := by simp
  rw [hform, hu]
  exact .groups (by simp [length_hexText, groupLengths]) (by simpa using hvalue)

/-- An identifier is read from the text that is written for it. -/
theorem parse_toText (u : Uuid) : parse u.toText = .ok u :=
  parse_eq_ok_iff.2 (by rw [toText, String.toList_ofList]; exact .hyphenated (hyphenated_chars u))

end Uuid

/-! ### The identifiers of tasks -/

/-- A text names a task. -/
def TaskId.Names (s : String) (id : TaskId) : Prop := Uuid.Spells s.toList id.uuid

theorem TaskId.parse_eq_ok_iff {s : String} {id : TaskId} :
    TaskId.parse s = .ok id ↔ TaskId.Names s id := by
  rw [TaskId.Names, ← Uuid.parse_eq_ok_iff, TaskId.parse]
  cases Uuid.parse s with
  | ok u => simp only [Except.ok.injEq]; exact ⟨fun h => h ▸ rfl, fun h => by rw [h]⟩
  | error fault => simp

theorem TaskId.parse_toText (id : TaskId) : TaskId.parse id.toText = .ok id := by
  rw [TaskId.parse, TaskId.toText, Uuid.parse_toText]

end TaskLedger
