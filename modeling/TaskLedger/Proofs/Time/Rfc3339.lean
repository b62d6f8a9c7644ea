import Mathlib.Algebra.GroupWithZero.Nat
import Mathlib.Data.List.TakeWhile
import TaskLedger.Proofs.Time.Calendar
import TaskLedger.Time.Rfc3339

/-!
**Instants are read back from their texts.**

What an instant is written as is told by a form: the year with four digits, or with a sign and four
digits at least if it lies outside of 0 to 9999; month, day, hour, minute and second with two digits
each, a leap second being the sixty-first of its minute; then no, three, six or nine decimal places, as
many as are needed; and the mark of UTC.  The reader accepts much more than this form, but whatever is
of this form it reads as the instant that the form tells.

Main definitions:

* `TaskLedger.Instant.Digits` — so many digits that stand for a number;
* `TaskLedger.Instant.YearForm`, `TaskLedger.Instant.FractionForm` — the forms of a year and of the
  decimal places;
* `TaskLedger.Instant.Face`, `TaskLedger.Instant.Face.Shows` — what a clock in UTC shows at an instant;
* `TaskLedger.Instant.Written` — the form of an instant.

Main results:

* `TaskLedger.Instant.written_chars` — an instant is written in its form;
* `TaskLedger.Instant.readChars?_of_written` — what has the form of an instant is read as the instant;
* `TaskLedger.Instant.read?_toText` — **every instant is read back from its text**.
-/

set_option autoImplicit false

namespace TaskLedger.Instant

open Text

/-! ### Digits -/

/-- So many decimal digits that stand for a number. -/
structure Digits (count n : Nat) (cs : List Char) : Prop where
  length : cs.length = count
  isDigit : ∀ c ∈ cs, c.isDigit = true
  value : naturalOf cs = n

/-- A number is written with as many digits as it has, and with so many at least. -/
theorem digits_padded (width n : Nat) :
    Digits (max width (Nat.toDigits 10 n).length) n (padded width n) where
  length := by
    rw [padded, List.length_append, List.length_replicate]
    omega
  isDigit := by
    intro c hc
    rcases List.mem_append.1 hc with hzero | hdigit
    · rw [(List.mem_replicate.1 hzero).2]
      rfl
    · exact Nat.isDigit_of_mem_toDigits (by decide) (by decide) hdigit
  value := by
    rw [naturalOf_eq_ofDigitChars, padded, Nat.ofDigitChars_append, Nat.ofDigitChars_replicate_zero,
      Nat.mul_zero, Nat.ofDigitChars_toDigits (by decide) (by decide)]

/-- A number that needs no more digits is written with exactly so many. -/
theorem digits_padded_of_lt {width n : Nat} (hwidth : 0 < width) (h : n < 10 ^ width) :
    Digits width n (padded width n) := by
  have hlength : (Nat.toDigits 10 n).length ≤ width :=
    (Nat.length_toDigits_le_iff (by decide) hwidth).2 h
  have hdigits := digits_padded width n
  rwa [Nat.max_eq_left hlength] at hdigits

namespace Digits

variable {count n most : Nat} {cs rest : List Char}

/-- Digits that make up a part of a text begin with one of them. -/
theorem exists_cons (h : Digits count n cs) (hcount : 0 < count) :
    ∃ c tail, cs = c :: tail ∧ c.isDigit = true := by
  cases cs with
  | nil => exact absurd h.length (Nat.ne_of_lt hcount)
  | cons c tail => exact ⟨c, tail, rfl, h.isDigit c List.mem_cons_self⟩

/-- What begins with a digit does not begin with a blank. -/
theorem trimStart_append (h : Digits count n cs) (hcount : 0 < count) :
    trimStart (cs ++ rest) = cs ++ rest := by
  obtain ⟨c, tail, rfl, hc⟩ := h.exists_cons hcount
  exact trimStart_cons_of_not (isBlank_of_isDigit hc)

/-- The digits that a text begins with are taken, if no more would be or the text goes on with
something else. -/
theorem number?_append (h : Digits count n cs) (hcount : 0 < count)
    (hstop : most = count ∨ count ≤ most ∧ ∀ c ∈ rest.head?, c.isDigit = false) :
    number? most (cs ++ rest) = some (n, rest) := by
  have htaken : ((cs ++ rest).take most).takeWhile Char.isDigit = cs := by
    rcases hstop with rfl | ⟨hle, hnext⟩
    · rw [List.take_left' h.length, List.takeWhile_eq_self_iff.2 h.isDigit]
    · rw [List.take_append, List.take_of_length_le (h.length ▸ hle),
        List.takeWhile_append_of_pos h.isDigit]
      cases rest with
      | nil => simp
      | cons c tail =>
          have hc : c.isDigit = false := hnext c rfl
          cases most - cs.length <;> simp [hc]
  obtain ⟨c, tail, hcs, -⟩ := h.exists_cons hcount
  have hne : cs ≠ [] := hcs ▸ List.cons_ne_nil c tail
  rw [number?, htaken, if_neg hne, h.value, List.drop_left]

/-- Two digits are read as a part of a date or a time, if they stand for a number within its bounds. -/
theorem part?_append {least most : Nat} (h : Digits 2 n cs) (hleast : least ≤ n) (hmost : n ≤ most) :
    part? least most (cs ++ rest) = some (n, rest) := by
  simp only [part?, h.trimStart_append (by decide), h.number?_append (by decide) (Or.inl rfl),
    Option.bind_eq_bind, Option.bind_some]
  exact if_pos ⟨hleast, hmost⟩

end Digits

/-! ### Years and decimal places -/

/-- A year between 0 and 9999 has four digits, and any other a sign and as many as it needs, four at
least. -/
inductive YearForm : Int → List Char → Prop
  | plain {year : Int} {cs : List Char} : 0 ≤ year → year ≤ 9999 → Digits 4 year.toNat cs →
      YearForm year cs
  | signed {year : Int} {count : Nat} {cs : List Char} : year < 0 ∨ 9999 < year →
      4 ≤ count → (count = 4 ∨ 10 ^ (count - 1) ≤ year.natAbs) → Digits count year.natAbs cs →
      YearForm year ((if year < 0 then '-' else '+') :: cs)

/-- No decimal places, or as few of three, six and nine as tell the nanoseconds. -/
inductive FractionForm : Nat → List Char → Prop
  | none : FractionForm 0 []
  | places {count n : Nat} {cs : List Char} : count = 3 ∨ count = 6 ∨ count = 9 → n ≠ 0 →
      (count = 3 ∨ n % 1000 ≠ 0) → Digits count n cs →
      FractionForm (n * 10 ^ (9 - count)) ('.' :: cs)

theorem yearForm_yearText (year : Int) : YearForm year (yearText year) := by
  unfold yearText
  by_cases hplain : 0 ≤ year ∧ year ≤ 9999
  · rw [if_pos hplain]
    exact .plain hplain.1 hplain.2 (digits_padded_of_lt (by decide) (by omega))
  · -- What needs more than four digits is written with as many as it needs.
    have hcount : max 4 (Nat.toDigits 10 year.natAbs).length = 4 ∨
        10 ^ (max 4 (Nat.toDigits 10 year.natAbs).length - 1) ≤ year.natAbs := by
      by_cases hfour : (Nat.toDigits 10 year.natAbs).length ≤ 4
      · exact Or.inl (Nat.max_eq_left hfour)
      · right
        rw [Nat.max_eq_right (by omega), ← Nat.not_lt,
          ← Nat.length_toDigits_le_iff (by decide) (by omega)]
        omega
    rw [if_neg hplain]
    exact .signed (by omega) (Nat.le_max_left ..) hcount (digits_padded 4 year.natAbs)

theorem fractionForm_fractionText {nanos : Nat} (h : nanos < 1000000000) :
    FractionForm nanos (fractionText nanos) := by
  unfold fractionText
  split
  · next hzero =>
      rw [hzero]
      exact .none
  · next hne =>
      split
      · next hmillis =>
          have hdigits : Digits 3 (nanos / 1000000) (padded 3 (nanos / 1000000)) :=
            digits_padded_of_lt (by decide) (by omega)
          have hform := FractionForm.places (Or.inl rfl) (by omega) (Or.inl rfl) hdigits
          rwa [show nanos / 1000000 * 10 ^ (9 - 3) = nanos by omega] at hform
      · split
        · next hmicros =>
            have hdigits : Digits 6 (nanos / 1000) (padded 6 (nanos / 1000)) :=
              digits_padded_of_lt (by decide) (by omega)
            have hform :=
              FractionForm.places (Or.inr (Or.inl rfl)) (by omega) (Or.inr (by omega)) hdigits
            rwa [show nanos / 1000 * 10 ^ (9 - 6) = nanos by omega] at hform
        · next hmicros =>
            have hdigits : Digits 9 nanos (padded 9 nanos) := digits_padded_of_lt (by decide) h
            have hform := FractionForm.places (Or.inr (Or.inr rfl)) hne (Or.inr hmicros) hdigits
            rwa [show nanos * 10 ^ (9 - 9) = nanos by omega] at hform

/-! ### Reading -/

/-- Nothing is trimmed from a mark, and it is taken. -/
theorem after?_cons {mark : Char} (hmark : isBlank mark = false) (rest : List Char) :
    after? mark (mark :: rest) = some rest := by
  rw [after?, trimStart_cons_of_not hmark]
  exact if_pos rfl

/-- A year is read from its form, if no digit follows it. -/
theorem YearForm.year?_append {year : Int} {cs rest : List Char} (h : YearForm year cs)
    (hrest : ∀ c ∈ rest.head?, c.isDigit = false) : year? (cs ++ rest) = some (year, rest) := by
  cases h with
  | plain hleast hmost hdigits =>
      have hnumber : number? 4 (cs ++ rest) = some (year.toNat, rest) :=
        hdigits.number?_append (by decide) (Or.inl rfl)
      obtain ⟨c, tail, rfl, hc⟩ := hdigits.exists_cons (by decide)
      rw [List.cons_append] at hnumber ⊢
      rw [year?, trimStart_cons_of_not (isBlank_of_isDigit hc)]
      -- A digit is neither of the two signs.
      split
      · next hsign =>
          obtain ⟨rfl, -⟩ := List.cons.inj hsign
          cases hc
      · next hsign =>
          obtain ⟨rfl, -⟩ := List.cons.inj hsign
          cases hc
      · rw [hnumber, Option.map_some]
        dsimp only
        rw [Int.toNat_of_nonneg hleast]
  | @signed count digits hout hfour _ hdigits =>
      have hnumber : number? (digits ++ rest).length (digits ++ rest) = some (year.natAbs, rest) :=
        hdigits.number?_append (by omega)
          (Or.inr ⟨by rw [List.length_append, hdigits.length]; omega, hrest⟩)
      by_cases hnegative : year < 0
      · rw [if_pos hnegative, List.cons_append, year?, trimStart_cons_of_not (by decide)]
        change (number? (digits ++ rest).length (digits ++ rest)).map _ = _
        rw [hnumber, Option.map_some]
        dsimp only
        rw [show -(year.natAbs : Int) = year by omega]
      · rw [if_neg hnegative, List.cons_append, year?, trimStart_cons_of_not (by decide)]
        change (number? (digits ++ rest).length (digits ++ rest)).map _ = _
        rw [hnumber, Option.map_some]
        dsimp only
        rw [show (year.natAbs : Int) = year by omega]

/-- Decimal places are read from their form, if neither a digit nor a point follows them. -/
theorem FractionForm.fraction?_append {nanos : Nat} {cs rest : List Char} (h : FractionForm nanos cs)
    (hrest : ∀ c ∈ rest.head?, c ≠ '.' ∧ c.isDigit = false) :
    fraction? (cs ++ rest) = some (nanos, rest) := by
  cases h with
  | none =>
      rw [List.nil_append]
      unfold fraction?
      split
      · next hpoint => exact absurd rfl (hrest '.' rfl).1
      · rfl
  | @places count n digits hcount _ _ hdigits =>
      have htaken : (digits ++ rest).takeWhile Char.isDigit = digits := by
        rw [List.takeWhile_append_of_pos hdigits.isDigit]
        cases rest with
        | nil => rw [List.takeWhile_nil, List.append_nil]
        | cons c tail => rw [List.takeWhile_cons_of_neg (by simp [(hrest c rfl).2]), List.append_nil]
      obtain ⟨c, tail, hcs, -⟩ := hdigits.exists_cons (by omega)
      have hne : digits ≠ [] := hcs ▸ List.cons_ne_nil c tail
      have hnine : digits.take 9 = digits :=
        List.take_of_length_le (by rw [hdigits.length]; omega)
      rw [List.cons_append]
      simp only [fraction?, htaken, if_neg hne, hnine, hdigits.value, List.drop_left,
        ← hdigits.length]
      rfl

/-! ### The form of an instant -/

/-- What a clock in UTC shows: a date and a time of day. -/
structure Face where
  date : Calendar.Date
  hour : Nat
  minute : Nat
  second : Nat
  nanos : Nat

/-- A clock shows an instant.  A leap second is shown as the sixty-first of its minute, and counted as
a prolongation of the one before it. -/
structure Face.Shows (f : Face) (t : Instant) : Prop where
  exists_date : f.date.exists = true
  hour_le : f.hour ≤ 23
  minute_le : f.minute ≤ 59
  second_le : f.second ≤ 60
  nanos_lt : f.nanos < 1000000000
  second_eq : t.second = Calendar.dayNumber f.date * 86400 +
    (f.hour * 3600 + f.minute * 60 + (f.second - f.second / 60 : Nat) : Nat)
  nanos_eq : t.nanos = f.nanos + f.second / 60 * 1000000000

/-- The form of an instant: date and time of day as a clock shows them, and the mark of UTC. -/
inductive Written (t : Instant) : List Char → Prop
  | intro {f : Face} {year month day hour minute second places : List Char} : f.Shows t →
      YearForm f.date.year year → Digits 2 f.date.month month → Digits 2 f.date.day day →
      Digits 2 f.hour hour → Digits 2 f.minute minute → Digits 2 f.second second →
      FractionForm f.nanos places →
      Written t (year ++ '-' :: month ++ '-' :: day ++ 'T' :: hour ++ ':' :: minute
        ++ ':' :: second ++ places ++ ['Z'])

/-- What a clock shows at an instant. -/
def face (t : Instant) : Face where
  date := Calendar.dateOf (t.second / 86400)
  hour := (t.second % 86400).toNat / 3600
  minute := (t.second % 86400).toNat / 60 % 60
  second := (t.second % 86400).toNat % 60 + t.nanos / 1000000000
  nanos := t.nanos % 1000000000

/-- Only the last second of a minute may be prolonged. -/
theorem shows_face (t : Instant) : t.face.Shows t := by
  obtain ⟨hexists, hday⟩ := Calendar.exists_dateOf_and_dayNumber (t.second / 86400)
  have hnanos := t.nanos_lt
  have hleap : t.nanos / 1000000000 = 0 ∨
      t.nanos / 1000000000 = 1 ∧ (t.second % 86400).toNat % 60 = 59 := by omega
  refine ⟨hexists, ?_, ?_, ?_, ?_, ?_, ?_⟩
  all_goals dsimp only [face]
  · omega
  · omega
  · omega
  · omega
  · rw [hday]
    rcases hleap with hzero | ⟨hone, hlast⟩
    · rw [hzero]
      omega
    · rw [hone, hlast]
      omega
  · rcases hleap with hzero | ⟨hone, hlast⟩
    · rw [hzero]
      omega
    · rw [hone, hlast]
      omega

/-- **An instant is written in its form.** -/
theorem written_chars (t : Instant) : Written t t.chars := by
  have hshows := t.shows_face
  obtain ⟨-, hmonth, -, hday⟩ := Calendar.Date.bounds_of_exists hshows.exists_date
  have hhour := hshows.hour_le
  have hminute := hshows.minute_le
  have hsecond := hshows.second_le
  exact .intro hshows (yearForm_yearText _) (digits_padded_of_lt (by decide) (by omega))
    (digits_padded_of_lt (by decide) (by omega)) (digits_padded_of_lt (by decide) (by omega))
    (digits_padded_of_lt (by decide) (by omega)) (digits_padded_of_lt (by decide) (by omega))
    (fractionForm_fractionText hshows.nanos_lt)

/-- The parts of an instant, put together again. -/
theorem ofParts?_eq_some (t : Instant) : ofParts? t.second t.nanos = some t :=
  dif_pos ⟨t.second_mem, t.nanos_lt⟩

/-- **What has the form of an instant is read as the instant.** -/
theorem readChars?_of_written {t : Instant} {cs : List Char} (h : Written t cs) :
    readChars? cs = some t := by
  cases h with
  | @intro f year month day hour minute second places hshows hyear hmonth hday hhour hminute hsecond
      hplaces =>
      obtain ⟨hfirst, htwelfth, hone, hlast⟩ := Calendar.Date.bounds_of_exists hshows.exists_date
      have hhour_le := hshows.hour_le
      have hminute_le := hshows.minute_le
      have hsecond_le := hshows.second_le
      have hsecond_eq := hshows.second_eq
      have hdash : ∀ rest, after? '-' ('-' :: rest) = some rest := after?_cons (by decide)
      have hcolon : ∀ rest, after? ':' (':' :: rest) = some rest := after?_cons (by decide)
      have hyears : ∀ rest, year? (year ++ '-' :: rest) = some (f.date.year, '-' :: rest) :=
        fun rest => hyear.year?_append (by simp)
      have hfraction : fraction? (places ++ ['Z']) = some (f.nanos, ['Z']) :=
        hplaces.fraction?_append (by simp)
      have hutc : offset? (trimStart ['Z']) = some (0, []) := rfl
      have hrange : yearInRange f.date.year = true := by
        have hin := t.year_mem hshows.exists_date (by omega)
        rw [yearInRange, Bool.and_eq_true, decide_eq_true_eq, decide_eq_true_eq]
        exact hin
      simp only [List.append_assoc, List.cons_append]
      -- Part by part, each up to the mark that follows it.
      refine Option.bind_eq_some_iff.2 ⟨_, hyears _, ?_⟩
      refine Option.bind_eq_some_iff.2 ⟨_, hdash _, ?_⟩
      refine Option.bind_eq_some_iff.2 ⟨_, hmonth.part?_append hfirst htwelfth, ?_⟩
      refine Option.bind_eq_some_iff.2 ⟨_, hdash _, ?_⟩
      refine Option.bind_eq_some_iff.2 ⟨_, hday.part?_append hone hlast, ?_⟩
      refine Option.bind_eq_some_iff.2 ⟨_, rfl, ?_⟩
      refine Option.bind_eq_some_iff.2 ⟨_, hhour.part?_append (Nat.zero_le _) hhour_le, ?_⟩
      refine Option.bind_eq_some_iff.2 ⟨_, hcolon _, ?_⟩
      refine Option.bind_eq_some_iff.2 ⟨_, hminute.part?_append (Nat.zero_le _) hminute_le, ?_⟩
      refine Option.bind_eq_some_iff.2 ⟨_, hcolon _, ?_⟩
      refine Option.bind_eq_some_iff.2 ⟨_, hsecond.part?_append (Nat.zero_le _) hsecond_le, ?_⟩
      refine Option.bind_eq_some_iff.2 ⟨_, hfraction, ?_⟩
      refine Option.bind_eq_some_iff.2 ⟨_, hutc, ?_⟩
      dsimp only
      have hdate : Calendar.Date.mk f.date.year f.date.month f.date.day = f.date := rfl
      rw [if_pos ⟨rfl, hshows.exists_date, hrange⟩, ← t.ofParts?_eq_some, hshows.nanos_eq, hdate]
      congr 1
      omega

/-- **Every instant is read back from its text.** -/
theorem read?_toText (t : Instant) : read? t.toText = some t := by
  rw [read?, toText, String.toList_ofList]
  exact readChars?_of_written t.written_chars

/-- A leap second in a year before year 0. -/
example : (Instant.mk (-62198755201) 1500000000 (by decide) (by decide)).toText =
    "-0002-12-31T23:59:60.500Z" := by decide

end TaskLedger.Instant
