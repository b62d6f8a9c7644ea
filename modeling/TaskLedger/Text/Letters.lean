/-!
**Letters compared without their case.**

Names of states and the words of a configuration are compared without regard to the case of the
letters A to Z; all other characters, accented letters among them, are compared as they are.
-/

set_option autoImplicit false

namespace TaskLedger.Text

/-- Whether two texts differ at most in the case of ASCII letters. -/
def sameLetters (s t : String) : Bool :=
  s.toList.map Char.toLower == t.toList.map Char.toLower

theorem sameLetters_iff {s t : String} :
    sameLetters s t = true ↔ s.toList.map Char.toLower = t.toList.map Char.toLower := by
  simp [sameLetters]

@[simp] theorem sameLetters_self (s : String) : sameLetters s s = true := by
  simp [sameLetters]

end TaskLedger.Text
