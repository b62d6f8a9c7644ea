import TaskLedger.Proofs.Fallible
import TaskLedger.Settings.Basic

/-!
**Settings described by an environment.**

Settings may come as a whole and be checked, or they may be described by an environment and read from
it.  Both ways have rules of their own about what is good: the check looks at numbers, the readers
look at texts, and to the readers alone a limit of zero means that there is none.  Settings that are
written into an environment, number by number and text by text, are read back if the check has nothing
against them and if they retain jobs at all.  What is read back is what was written, but for a limit
of zero, since no text stands for it.

Main definitions:

* `TaskLedger.Text.Unpadded` — a text that is not empty and has no blanks around it;
* `TaskLedger.Settings.ReadFrom` — what is read from an environment, setting by setting;
* `TaskLedger.Settings.environment` — the environment into which settings are written;
* `TaskLedger.Settings.withoutZeroLimit` — settings with no limit in place of a limit of zero.

Main results:

* `TaskLedger.Settings.ofEnvironment_eq_ok_iff` — settings are read from an environment if each of
  them is, and if they pass the check;
* `TaskLedger.Settings.readFrom_environment_iff` — what is read from the environment into which
  settings are written;
* `TaskLedger.Settings.read_back_iff` — **settings that pass the check are read back**;
* `TaskLedger.Settings.zero_limit_not_read_back` — a limit of zero is not.
-/

set_option autoImplicit false

namespace TaskLedger

/-! ### Texts without blanks around them -/

namespace Text

/-- A text is not empty, and neither begins nor ends with a blank. -/
structure Unpadded (s : String) : Prop where
  ne_empty : s ≠ ""
  first : ∀ c ∈ s.toList.head?, isBlank c = false
  last : ∀ c ∈ s.toList.getLast?, isBlank c = false

theorem Unpadded.trim_eq {s : String} (h : Unpadded s) : trim s = s := by
  rw [trim, trimList_eq_self h.first h.last, String.ofList_toList]

/-- It is enough to look at the two ends. -/
theorem unpadded_of_ends {s : String} (a b : Char) (first : s.toList.head? = some a)
    (last : s.toList.getLast? = some b) (ha : isBlank a = false) (hb : isBlank b = false) :
    Unpadded s where
  ne_empty h := by
    subst h
    cases first
  first c hc := by
    obtain rfl := Option.some.inj (first.symm.trans hc)
    exact ha
  last c hc := by
    obtain rfl := Option.some.inj (last.symm.trans hc)
    exact hb

theorem isDigit_of_mem_repr {n : Nat} {c : Char} (h : c ∈ n.repr.toList) : c.isDigit = true := by
  rw [Nat.repr, String.toList_ofList] at h
  exact Nat.isDigit_of_mem_toDigits (by decide) (by decide) h

theorem toNat_mem_of_isDigit {c : Char} (h : c.isDigit = true) : 48 ≤ c.toNat ∧ c.toNat ≤ 57 :=
  Char.isDigit_iff_toNat.1 h

theorem toLower_of_isDigit {c : Char} (h : c.isDigit = true) : c.toLower = c := by
  have hrange := toNat_mem_of_isDigit h
  unfold Char.toLower
  split
  · next hupper =>
    have hlow : 65 ≤ c.toNat := UInt32.le_iff_toNat_le.1 hupper.1
    omega
  · rfl

/-- A numeral has no blanks around it. -/
theorem unpadded_repr (n : Nat) : Unpadded n.repr where
  ne_empty h := by simpa [Nat.repr] using congrArg String.toList h
  first _ hc := isBlank_of_isDigit (isDigit_of_mem_repr (List.mem_of_head? hc))
  last _ hc := isBlank_of_isDigit (isDigit_of_mem_repr (List.mem_of_getLast? hc))

/-- A numeral is not a word. -/
theorem not_sameLetters_repr (n : Nat) : sameLetters n.repr "none" = false := by
  rw [← Bool.not_eq_true, sameLetters_iff]
  intro h
  have hmem : 'n' ∈ n.repr.toList.map Char.toLower := by
    rw [h]
    decide
  obtain ⟨c, hc, hlower⟩ := List.mem_map.1 hmem
  have hdigit := isDigit_of_mem_repr hc
  rw [toLower_of_isDigit hdigit] at hlower
  subst hlower
  revert hdigit
  decide

end Text

/-! ### Reading setting by setting -/

namespace Settings

/-- The text of a setting in an environment, without the blanks around it. -/
def value? (environment : String → Option String) (v : Setting) : Option String :=
  (environment v.key).map Text.trim

/-- Settings are what is read from an environment, each for itself. -/
structure ReadFrom (environment : String → Option String) (c : Settings) : Prop where
  taskTimeout : (value? environment .taskTimeout).elim (.ok none) readTimeout = .ok c.taskTimeout
  sweepInterval :
    readPositiveOr 60 .sweepInterval (value? environment .sweepInterval) = .ok c.sweepInterval
  sweepConcurrency :
    readPositiveOr 1 .sweepConcurrency (value? environment .sweepConcurrency) =
      .ok c.sweepConcurrency
  retention : readPositiveOr 86400 .retention (value? environment .retention) = .ok c.retention
  databaseUrl : (value? environment .databaseUrl).filter (· ≠ "") = c.databaseUrl
  bindAddress :
    ((value? environment .bindAddress).filter (· ≠ "")).getD "0.0.0.0:8080" = c.bindAddress

theorem ofEnvironment_eq (environment : String → Option String) :
    ofEnvironment environment = (do
      let taskTimeout ← (value? environment .taskTimeout).elim (.ok none) readTimeout
      let sweepInterval ← readPositiveOr 60 .sweepInterval (value? environment .sweepInterval)
      let sweepConcurrency ←
        readPositiveOr 1 .sweepConcurrency (value? environment .sweepConcurrency)
      let retention ← readPositiveOr 86400 .retention (value? environment .retention)
      let c : Settings :=
        { taskTimeout, sweepInterval, sweepConcurrency, retention
          databaseUrl := (value? environment .databaseUrl).filter (· ≠ "")
          bindAddress :=
            ((value? environment .bindAddress).filter (· ≠ "")).getD "0.0.0.0:8080" }
      c.validate
      return c) := by
  dsimp only [ofEnvironment, value?]
  cases environment Setting.taskTimeout.key <;> rfl

/-- **Settings are read from an environment if each of them is, and if they pass the check.** -/
theorem ofEnvironment_eq_ok_iff {environment : String → Option String} {c : Settings} :
    ofEnvironment environment = .ok c ↔ ReadFrom environment c ∧ c.validate = .ok () := by
  rw [ofEnvironment_eq]
  simp only [bind_eq_ok_iff, pure, Except.pure, Except.ok.injEq]
  constructor
  · rintro ⟨taskTimeout, htimeout, sweepInterval, hinterval, sweepConcurrency, hconcurrency,
      retention, hretention, _, hvalid, rfl⟩
    exact ⟨⟨htimeout, hinterval, hconcurrency, hretention, rfl, rfl⟩, hvalid⟩
  · rintro ⟨h, hvalid⟩
    refine ⟨_, h.taskTimeout, _, h.sweepInterval, _, h.sweepConcurrency, _, h.retention, (), ?_⟩
    rw [h.databaseUrl, h.bindAddress]
    exact ⟨hvalid, rfl⟩

theorem validate_eq_ok_iff {c : Settings} :
    c.validate = .ok () ↔
      (SocketAddress.parse? c.bindAddress).isSome = true ∧ c.sweepInterval ≠ 0 ∧
        c.sweepConcurrency ≠ 0 := by
  have hpositive : ∀ {v : Setting} {n : UInt64}, checkPositive v n = .ok () ↔ n ≠ 0 := by
    intro v n
    unfold checkPositive
    split <;> simp_all
  have haddress : c.checkAddress = .ok () ↔
      (SocketAddress.parse? c.bindAddress).isSome = true := by
    unfold checkAddress
    split <;> simp_all
  simp only [validate, bind_eq_ok_iff, exists_const, hpositive, haddress]

/-- A number that may not be zero is what its text says, or the default if there is none. -/
theorem readPositiveOr_eq_ok_iff {d n : UInt64} {v : Setting} {text? : Option String} :
    readPositiveOr d v text? = .ok n ↔
      (n = d ∧ ∀ s ∈ text?, s = "") ∨ ∃ s ∈ text?, Text.readUnsigned s = .ok n ∧ n ≠ 0 := by
  cases text? with
  | none => simp [readPositiveOr, eq_comm]
  | some s =>
      by_cases hs : s = ""
      · have hnothing : Text.readUnsigned "" = .error .notADigit := rfl
        simp [readPositiveOr, hs, hnothing, eq_comm]
      · rw [readPositiveOr, if_neg hs]
        cases hread : Text.readUnsigned s with
        | error e => simp [readPositive, readNumber, Except.mapError, bind, Except.bind, hs, hread]
        | ok m =>
            have hzero : readPositive v s = if m = 0 then .error ⟨v, s, .zero⟩ else .ok m := by
              simp [readPositive, readNumber, hread, Except.mapError, bind, Except.bind, pure,
                Except.pure]
            simp only [hzero, Option.mem_some_iff, forall_eq', exists_eq_left', hread,
              Except.ok.injEq, hs, and_false, false_or]
            split <;> grind

/-! ### Reading what was written -/

/-- The text of a setting, or none where it is absent: numbers are decimal. -/
def written (c : Settings) : Setting → Option String
  | .taskTimeout => c.taskTimeout.map fun n => n.toNat.repr
  | .sweepInterval => some c.sweepInterval.toNat.repr
  | .sweepConcurrency => some c.sweepConcurrency.toNat.repr
  | .retention => some c.retention.toNat.repr
  | .databaseUrl => c.databaseUrl
  | .bindAddress => some c.bindAddress

/-- The environment into which settings are written: each under its name, and nothing else. -/
def environment (c : Settings) (name : String) : Option String :=
  ([.taskTimeout, .sweepInterval, .sweepConcurrency, .retention, .databaseUrl,
    .bindAddress].find? (·.key = name)).bind c.written

theorem environment_key (c : Settings) (v : Setting) : c.environment v.key = c.written v := by
  cases v <;> rfl

/-- The settings with no limit in place of a limit of zero. -/
def withoutZeroLimit (c : Settings) : Settings :=
  { c with taskTimeout := c.taskTimeout.filter (· ≠ 0) }

theorem readTimeout_repr (n : UInt64) :
    readTimeout n.toNat.repr = .ok ((some n).filter (· ≠ 0)) := by
  have hword : ¬ (n.toNat.repr = "" ∨ Text.sameLetters n.toNat.repr "none" = true) := by
    rw [Text.not_sameLetters_repr]
    exact fun h => h.elim (Text.unpadded_repr n.toNat).ne_empty Bool.false_ne_true
  rw [readTimeout, if_neg hword, readNumber, Text.readUnsigned_repr]
  by_cases hn : n = 0 <;>
    simp [Except.mapError, bind, Except.bind, pure, Except.pure, Option.filter, hn]

theorem readPositiveOr_repr_iff {d n m : UInt64} {v : Setting} :
    readPositiveOr d v (some n.toNat.repr) = .ok m ↔ n ≠ 0 ∧ n = m := by
  have hne := (Text.unpadded_repr n.toNat).ne_empty
  simp only [readPositiveOr_eq_ok_iff, Option.mem_some_iff, forall_eq', exists_eq_left',
    Text.readUnsigned_repr, Except.ok.injEq, hne, and_false, false_or]
  constructor
  · rintro ⟨rfl, hn⟩
    exact ⟨hn, rfl⟩
  · rintro ⟨hn, rfl⟩
    exact ⟨rfl, hn⟩

section Written

variable {c : Settings}

theorem value?_number {v : Setting} {n : Nat} (h : c.written v = some n.repr) :
    value? c.environment v = some n.repr := by
  rw [value?, environment_key, h, Option.map_some, (Text.unpadded_repr n).trim_eq]

theorem value?_text {v : Setting} (h : ∀ s, c.written v = some s → Text.Unpadded s) :
    (value? c.environment v).filter (· ≠ "") = c.written v := by
  rw [value?, environment_key]
  cases hs : c.written v with
  | none => rfl
  | some s => simp [(h s hs).trim_eq, (h s hs).ne_empty]

/-- What is read from the environment into which settings are written: the numbers that may not be
zero are not, and a limit of zero has become none. -/
theorem readFrom_environment_iff (address : Text.Unpadded c.bindAddress)
    (url : ∀ s, c.databaseUrl = some s → Text.Unpadded s) {c' : Settings} :
    ReadFrom c.environment c' ↔
      c.sweepInterval ≠ 0 ∧ c.sweepConcurrency ≠ 0 ∧ c.retention ≠ 0 ∧
        c' = c.withoutZeroLimit := by
  have hlimit : (value? c.environment .taskTimeout).elim (.ok none) readTimeout =
      .ok c.withoutZeroLimit.taskTimeout := by
    cases hn : c.taskTimeout with
    | none => simp [value?, environment_key, written, hn, withoutZeroLimit]
    | some n =>
        rw [value?_number (n := n.toNat) (by simp [written, hn])]
        simpa [withoutZeroLimit, hn] using readTimeout_repr n
  have hinterval := value?_number (c := c) (v := .sweepInterval) rfl
  have hconcurrency := value?_number (c := c) (v := .sweepConcurrency) rfl
  have hretention := value?_number (c := c) (v := .retention) rfl
  have hurl : (value? c.environment .databaseUrl).filter (· ≠ "") = c.databaseUrl :=
    value?_text url
  have haddress : ((value? c.environment .bindAddress).filter (· ≠ "")).getD "0.0.0.0:8080" =
      c.bindAddress := by
    rw [value?_text (v := .bindAddress) fun s hs => Option.some.inj hs ▸ address]
    rfl
  constructor
  · rintro ⟨h₁, h₂, h₃, h₄, h₅, h₆⟩
    rw [hlimit, Except.ok.injEq] at h₁
    rw [hinterval, readPositiveOr_repr_iff] at h₂
    rw [hconcurrency, readPositiveOr_repr_iff] at h₃
    rw [hretention, readPositiveOr_repr_iff] at h₄
    rw [hurl] at h₅
    rw [haddress] at h₆
    refine ⟨h₂.1, h₃.1, h₄.1, ?_⟩
    cases c'
    simp only [withoutZeroLimit] at h₁
    simp only [withoutZeroLimit, h₁, h₂.2, h₃.2, h₄.2, h₅, h₆]
  · rintro ⟨hi, hc, hr, rfl⟩
    exact ⟨hlimit, hinterval ▸ readPositiveOr_repr_iff.2 ⟨hi, rfl⟩,
      hconcurrency ▸ readPositiveOr_repr_iff.2 ⟨hc, rfl⟩,
      hretention ▸ readPositiveOr_repr_iff.2 ⟨hr, rfl⟩, hurl, haddress⟩

/-- **Settings that pass the check are read back**, if they retain jobs at all, and no others are
read from the environment into which they are written.  What is read back is what was written, with no
limit in place of a limit of zero. -/
theorem read_back_iff (address : Text.Unpadded c.bindAddress)
    (url : ∀ s, c.databaseUrl = some s → Text.Unpadded s) (c' : Settings) :
    ofEnvironment c.environment = .ok c' ↔
      c.validate = .ok () ∧ c.retention ≠ 0 ∧ c' = c.withoutZeroLimit := by
  have hsame : c.withoutZeroLimit.validate = c.validate := rfl
  rw [ofEnvironment_eq_ok_iff, readFrom_environment_iff address url]
  constructor
  · rintro ⟨⟨-, -, hr, rfl⟩, hvalid⟩
    exact ⟨hsame ▸ hvalid, hr, rfl⟩
  · rintro ⟨hvalid, hr, rfl⟩
    obtain ⟨-, hi, hc⟩ := validate_eq_ok_iff.1 hvalid
    exact ⟨⟨hi, hc, hr, rfl⟩, hsame.trans hvalid⟩

/-- Settings with a limit of zero, the longest retention, a database, and an address of their own. -/
def zeroLimited : Settings :=
  { taskTimeout := some 0
    retention := 18446744073709551615
    databaseUrl := some "postgres://localhost/tasks"
    bindAddress := "[::1]:9000" }

theorem unpadded_zeroLimited :
    Text.Unpadded zeroLimited.bindAddress ∧
      ∀ s, zeroLimited.databaseUrl = some s → Text.Unpadded s := by
  refine ⟨Text.unpadded_of_ends '[' '0' (by decide) (by decide) rfl rfl, ?_⟩
  rintro _ ⟨⟩
  exact Text.unpadded_of_ends 'p' 's' (by decide) (by decide) rfl rfl

theorem validate_zeroLimited : zeroLimited.validate = .ok () :=
  validate_eq_ok_iff.2 ⟨by decide, by decide, by decide⟩

theorem read_back_iff_zeroLimited :
    Text.Unpadded zeroLimited.bindAddress ∧
      (∀ s, zeroLimited.databaseUrl = some s → Text.Unpadded s) ∧
      ofEnvironment zeroLimited.environment = .ok { zeroLimited with taskTimeout := none } := by
  obtain ⟨haddress, hurl⟩ := unpadded_zeroLimited
  exact ⟨haddress, hurl,
    (read_back_iff haddress hurl _).2 ⟨validate_zeroLimited, by decide, rfl⟩⟩

/-- A limit of zero passes the check, and is not read back. -/
theorem zero_limit_not_read_back :
    Text.Unpadded zeroLimited.bindAddress ∧
      (∀ s, zeroLimited.databaseUrl = some s → Text.Unpadded s) ∧
      zeroLimited.validate = .ok () ∧
      ofEnvironment zeroLimited.environment ≠ .ok zeroLimited := by
  obtain ⟨haddress, hurl⟩ := unpadded_zeroLimited
  refine ⟨haddress, hurl, validate_zeroLimited, fun h => ?_⟩
  have hread := (readFrom_environment_iff haddress hurl).1 (ofEnvironment_eq_ok_iff.1 h).1
  have hlimit : (some 0 : Option UInt64) = none := congrArg taskTimeout hread.2.2.2
  cases hlimit

end Written

end Settings

end TaskLedger
