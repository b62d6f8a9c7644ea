import TaskLedger.Proofs.Service.SweepOrder
import TaskLedger.Proofs.Settings.Environment

/-!
**Sweeping with as many places as the settings ask for.**

There is a greatest number of tasks that can be examined at once, and a sweep that is set up to examine
more of them breaks down before it examines any.  The number comes from the environment, where it may
be any positive number of 64 bits.  It reaches the sweep as it was read, so whoever asks for more than
there can be has settings that are accepted, and sweeps that all break down.

Main definitions:

* `TaskLedger.Settings.Overfull` — an environment asks for more places than there can be.

Main results:

* `TaskLedger.Service.breaks_down_iff` — when a sweep breaks down, and what it has done before;
* `TaskLedger.Settings.overfull_iff` — the number in the environment is that in the settings;
* `TaskLedger.Settings.breaks_down_iff_overfull` — **accepted settings sweep unless they are
  overfull**;
* `TaskLedger.Settings.overfull_accepted` — overfull settings are accepted.
-/

set_option autoImplicit false

namespace TaskLedger

/-! ### When a sweep breaks down -/

namespace Service

open Dialogue

/-- A sweep breaks down if it is given records and set up to examine too many of them at once, and only
then.  It has not examined any of them. -/
theorem breaks_down_iff {maxConcurrent : UInt64} {h : List (Exchange sweepSteps)}
    {r : Except SweepFault SweepReport} (hends : (sweeping maxConcurrent).Ends h r) :
    (r = .error .tooManyAtOnce ↔
      permitCap < permits maxConcurrent ∧ ∃ records, ⟨.list, .ok records⟩ ∈ h) ∧
      (r = .error .tooManyAtOnce → begun h = []) := by
  obtain ⟨listed, h', rfl, hrest⟩ := ends_ask.1 hends
  cases listed with
  | error fault =>
      obtain ⟨rfl, rfl⟩ := ends_pure.1 hrest
      refine ⟨iff_of_false nofun ?_, nofun⟩
      rintro ⟨-, records, hlisted⟩
      cases List.mem_singleton.1 hlisted
  | ok records =>
      change Ends (if permitCap < permits maxConcurrent then _ else _) h' r at hrest
      by_cases hmany : permitCap < permits maxConcurrent
      · rw [if_pos hmany] at hrest
        obtain ⟨rfl, rfl⟩ := ends_pure.1 hrest
        exact ⟨iff_of_true rfl ⟨hmany, records, List.mem_cons_self⟩, fun _ => rfl⟩
      · rw [if_neg hmany] at hrest
        obtain ⟨count, h₁, h₂, rfl, -, hrest⟩ := ends_bind.1 hrest
        obtain ⟨report, h₃, h₄, rfl, -, hrest⟩ := ends_bind.1 hrest
        obtain ⟨rfl, rfl⟩ := ends_pure.1 hrest
        exact ⟨iff_of_false nofun fun h => hmany h.1, nofun⟩

end Service

/-! ### How many places the environment asks for -/

namespace Settings

open Service

/-- An environment asks for more places than there can be. -/
def Overfull (environment : String → Option String) : Prop :=
  ∃ value n, environment Setting.sweepConcurrency.key = some value ∧
    Text.readUnsigned (Text.trim value) = .ok n ∧ permitCap < n.toNat

variable {environment : String → Option String} {c : Settings}

/-- **The number in the environment is that in the settings.** -/
theorem overfull_iff (h : ReadFrom environment c) :
    Overfull environment ↔ permitCap < c.sweepConcurrency.toNat := by
  have hread := readPositiveOr_eq_ok_iff.1 h.sweepConcurrency
  constructor
  · rintro ⟨value, n, hvalue, hn, hcap⟩
    have htext : value? environment .sweepConcurrency = some (Text.trim value) := by
      rw [value?, hvalue, Option.map_some]
    rcases hread with ⟨-, hempty⟩ | ⟨s, hs, hm, -⟩
    · rw [hempty _ htext] at hn
      cases hn
    · obtain rfl : Text.trim value = s := Option.some.inj (htext.symm.trans hs)
      obtain rfl : n = c.sweepConcurrency := Except.ok.inj (hn.symm.trans hm)
      exact hcap
  · intro hcap
    rcases hread with ⟨hone, -⟩ | ⟨s, hs, hm, -⟩
    · rw [hone] at hcap
      exact absurd hcap (by decide)
    · obtain ⟨value, hvalue, rfl⟩ := Option.map_eq_some_iff.1 hs
      exact ⟨value, _, hvalue, hm, hcap⟩

/-- **Accepted settings sweep unless they are overfull.**  Settings that are read from an environment
have at least one task examined at once.  They have no more examined than can be, and none of their
sweeps breaks down, unless the environment asks for more; and then every sweep of theirs breaks down
that is given its records, whatever else happens, and has not examined any of them. -/
theorem breaks_down_iff_overfull (accepted : ofEnvironment environment = .ok c) :
    1 ≤ permits c.sweeper.maxConcurrent ∧
      (permits c.sweeper.maxConcurrent ≤ permitCap ↔ ¬ Overfull environment) ∧
      (∀ (h : List (Exchange sweepSteps)) (r : Except SweepFault SweepReport),
        (sweeping c.sweeper.maxConcurrent).Ends h r →
          (r = .error .tooManyAtOnce ↔
            Overfull environment ∧ ∃ records, ⟨.list, .ok records⟩ ∈ h) ∧
          (r = .error .tooManyAtOnce → begun h = [])) ∧
      ∀ (limit : TimeLimit) (b : Backend),
        (b.perform (sweep limit c.sweeper.maxConcurrent)).1 = .error .tooManyAtOnce ↔
          Overfull environment := by
  have hoverfull := overfull_iff (ofEnvironment_eq_ok_iff.1 accepted).1
  have hpermits : permitCap < permits c.sweeper.maxConcurrent ↔ Overfull environment := by
    have hone : 1 ≤ permitCap := by decide
    have hplaces : permits c.sweeper.maxConcurrent = max 1 c.sweepConcurrency.toNat := rfl
    rw [hoverfull, hplaces]
    omega
  refine ⟨one_le_permits _, Nat.not_lt.symm.trans (not_congr hpermits), fun h r hends => ?_,
    fun limit b => ?_⟩
  · rw [← hpermits]
    exact breaks_down_iff hends
  · rw [perform_sweep, ← hpermits]
    split
    · next hmany => exact iff_of_true rfl hmany
    · next hfew => exact iff_of_false nofun hfew

/-- An environment that says nothing but how many tasks are to be examined at once. -/
def asking (value : String) (name : String) : Option String :=
  if name = Setting.sweepConcurrency.key then some value else none

/-- The settings with that number. -/
theorem ofEnvironment_asking {value : String} {n : UInt64}
    (hread : readPositiveOr 1 .sweepConcurrency (some (Text.trim value)) = .ok n) (hn : n ≠ 0) :
    ofEnvironment (asking value) = .ok { sweepConcurrency := n } :=
  have haddress : (SocketAddress.parse? "0.0.0.0:8080").isSome = true := by decide
  have hinterval : (60 : UInt64) ≠ 0 := by decide
  ofEnvironment_eq_ok_iff.2
    ⟨⟨rfl, rfl, hread, rfl, rfl, rfl⟩, validate_eq_ok_iff.2 ⟨haddress, hinterval, hn⟩⟩

theorem breaks_down_iff_overfull_brimful :
    ofEnvironment (asking " 2305843009213693951\n") =
        .ok { sweepConcurrency := 2305843009213693951 } ∧
      permits ({ sweepConcurrency := 2305843009213693951 } : Settings).sweeper.maxConcurrent ≤
        permitCap ∧
      ¬ Overfull (asking " 2305843009213693951\n") := by
  have haccepted : ofEnvironment (asking " 2305843009213693951\n") =
      .ok { sweepConcurrency := 2305843009213693951 } :=
    ofEnvironment_asking rfl (by decide)
  have hfits : permits ({ sweepConcurrency := 2305843009213693951 } : Settings).sweeper.maxConcurrent ≤
      permitCap := by decide
  exact ⟨haccepted, hfits, (breaks_down_iff_overfull haccepted).2.1.1 hfits⟩

/-- One more than there can be is accepted, and a sweep breaks down that has nothing to examine. -/
theorem overfull_accepted :
    ofEnvironment (asking "2305843009213693952") =
        .ok { sweepConcurrency := 2305843009213693952 } ∧
      permitCap <
        permits ({ sweepConcurrency := 2305843009213693952 } : Settings).sweeper.maxConcurrent ∧
      (sweeping ({ sweepConcurrency := 2305843009213693952 } : Settings).sweeper.maxConcurrent).Ends
        [⟨.list, .ok []⟩] (.error .tooManyAtOnce) :=
  ⟨ofEnvironment_asking rfl (by decide), by decide,
    Dialogue.ends_ask.2 ⟨_, _, rfl, Dialogue.ends_pure.2 ⟨rfl, rfl⟩⟩⟩

end Settings

end TaskLedger
