/-!
**Blank characters.**

"Blank" and "trimmed" mean the Unicode property White_Space throughout: a no-break space is blank,
a zero-width space or a byte-order mark is not.

Main definitions:

* `TaskLedger.Text.isBlank` — the property, from a table of ranges;
* `TaskLedger.Text.trim`, `TaskLedger.Text.isBlankText` — a text without its outer blanks, and the
  texts of which nothing would remain.

Main results:

* `TaskLedger.Text.isBlank_of_isDigit` — no digit is blank;
* `TaskLedger.Text.trimList_eq_self` — a text with no blank at either end is left as it is.
-/

set_option autoImplicit false

namespace TaskLedger.Text

/-- The ranges of code points with the property White_Space. -/
def blankRanges : List (Nat × Nat) := [
  (0x9, 0xd), (0x20, 0x20), (0x85, 0x85), (0xa0, 0xa0), (0x1680, 0x1680), (0x2000, 0x200a),
  (0x2028, 0x2029), (0x202f, 0x202f), (0x205f, 0x205f), (0x3000, 0x3000)]

/-- Whether a character has the property White_Space. -/
def isBlank (c : Char) : Bool :=
  blankRanges.any fun r => r.1 ≤ c.toNat && c.toNat ≤ r.2

/-- No digit is blank. -/
theorem isBlank_of_isDigit {c : Char} (h : c.isDigit = true) : isBlank c = false := by
  have hrange : 48 ≤ c.toNat ∧ c.toNat ≤ 57 := Char.isDigit_iff_toNat.1 h
  simp [isBlank, blankRanges]
  omega

/-! ### Trimming -/

/-- A list of characters without the blanks it begins with. -/
def trimStart (cs : List Char) : List Char := cs.dropWhile isBlank

/-- A list of characters without the blanks at both its ends. -/
def trimList (cs : List Char) : List Char := (trimStart (trimStart cs).reverse).reverse

/-- A text without the blanks at both its ends. -/
def trim (s : String) : String := .ofList (trimList s.toList)

/-- A text that holds blanks only; the empty text is one. -/
def isBlankText (s : String) : Bool := s.toList.all isBlank

theorem trimStart_cons_of_not {c : Char} {cs : List Char} (h : isBlank c = false) :
    trimStart (c :: cs) = c :: cs := by
  simp [trimStart, h]

/-- A list that neither begins nor ends with a blank is left as it is. -/
theorem trimList_eq_self {cs : List Char} (first : ∀ c, cs.head? = some c → isBlank c = false)
    (last : ∀ c, cs.getLast? = some c → isBlank c = false) : trimList cs = cs := by
  have front : trimStart cs = cs := by
    cases cs with
    | nil => rfl
    | cons c rest => exact trimStart_cons_of_not (first c rfl)
  have back : trimStart cs.reverse = cs.reverse := by
    cases h : cs.reverse with
    | nil => rfl
    | cons c rest =>
        refine trimStart_cons_of_not (last c ?_)
        have : cs = rest.reverse ++ [c] := by
          have := congrArg List.reverse h
          simpa using this
        simp [this]
  simp [trimList, front, back]

end TaskLedger.Text
