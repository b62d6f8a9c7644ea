import TaskLedger.Json.Reader

/-!
**Embedded texts.**

A value that is taken over as a whole may hold embedded texts: objects whose first key is the
embedding key.  Each stands for the value that its text denotes.  The reader of texts resolves what it
meets; an object that got its first key only by being sorted is resolved when its value is taken over.

Main definitions:

* `TaskLedger.Json.resolve?` — a value with its embedded texts resolved.
-/

set_option autoImplicit false

namespace TaskLedger.Json

mutual

/-- A value with its embedded texts resolved; none if one of them is no text of a value, or has
another member beside it. -/
def resolve? : Json → Option Json
  | .list items => do return .list (← resolveItems? items)
  | .object members =>
      if members.head?.map Prod.fst = some embeddingKey then
        match members with
        | [(_, .text s)] => read? s
        | _ => none
      else do return .object (← resolveMembers? members)
  | j => some j

/-- The items of a list, each with its embedded texts resolved. -/
def resolveItems? : List Json → Option (List Json)
  | [] => some []
  | j :: rest => do return (← resolve? j) :: (← resolveItems? rest)

/-- The members of an object, each with its embedded texts resolved. -/
def resolveMembers? : List (String × Json) → Option (List (String × Json))
  | [] => some []
  | (key, j) :: rest => do return (key, ← resolve? j) :: (← resolveMembers? rest)

end

end TaskLedger.Json
