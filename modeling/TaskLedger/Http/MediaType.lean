/-!
**Media types.**

A request states the form of its body by a media type: a type and a subtype, which may end in a
suffix after a plus sign, and parameters after semicolons.

Main definitions:

* `TaskLedger.Http.areParameters` — the grammar of parameters, as a walk over their characters;
* `TaskLedger.Http.isJsonType` — the media types of JSON.
-/

set_option autoImplicit false

namespace TaskLedger.Http

/-- Whether a character may stand in a name. -/
def isTokenChar (c : Char) : Bool :=
  c.isAlphanum || "!#$%&'*+-.^_\x60|~".toList.contains c

/-- Whether a character may stand between quotes. -/
def isQuotable (c : Char) : Bool := ' ' ≤ c && c < '\x7f'

/-! ### Parameters -/

/-- A place in a list of parameters, each of which is a name, an equals sign and a value that may be
quoted. -/
inductive Place where
  | beforeName
  | name
  | beforeValue
  | value
  | openingQuote
  | quoted
  | closingQuote
  deriving DecidableEq, Repr

/-- The place after one more character.  Between quotes the first character stands for itself even if
it is a quote. -/
def Place.next? : Place → Char → Option Place
  | .beforeName, c =>
      if c = ' ' then some .beforeName else if isTokenChar c then some .name else none
  | .name, c => if c = '=' then some .beforeValue else if isTokenChar c then some .name else none
  | .beforeValue, c =>
      if c = '"' then some .openingQuote else if isTokenChar c then some .value else none
  | .value, c => if c = ';' then some .beforeName else if isTokenChar c then some .value else none
  | .openingQuote, c => if isQuotable c then some .quoted else none
  | .quoted, c => if c = '"' then some .closingQuote else if isQuotable c then some .quoted else none
  | .closingQuote, c =>
      if c = ';' then some .beforeName else if c = ' ' then some .closingQuote else none

/-- Whether parameters may end at a place. -/
def Place.mayEnd : Place → Bool
  | .beforeName | .beforeValue | .value | .closingQuote => true
  | .name | .openingQuote | .quoted => false

/-- Whether a list of characters is a list of parameters. -/
def areParameters (cs : List Char) : Bool := (cs.foldlM Place.next? .beforeName).any Place.mayEnd

/-! ### Types -/

/-- A subtype taken apart at its last plus sign, unless that is its first character. -/
def takeSuffix (subtype : List Char) : List Char × Option (List Char) :=
  let suffix := (subtype.reverse.takeWhile (· ≠ '+')).reverse
  let stem := subtype.take (subtype.length - suffix.length - 1)
  if stem = [] then (subtype, none) else (stem, some suffix)

/-- Whether a media type of the given parts is one of JSON, whatever the case of its letters. -/
def isJson (type subtype : List Char) : Bool :=
  let lower (cs : List Char) : List Char := cs.map Char.toLower
  let (stem, suffix) := takeSuffix (lower subtype)
  lower type = "application".toList && (stem = "json".toList || suffix = some "json".toList)

/-- Whether a text is a media type of JSON. -/
def isJsonType (s : String) : Bool :=
  let (type, rest) := s.toList.span isTokenChar
  match rest with
  | '/' :: rest =>
      let (subtype, rest) := rest.span isTokenChar
      isJson type subtype &&
        match rest with
        | [] => true
        | c :: parameters => c = ';' && areParameters parameters
  | _ => false

end TaskLedger.Http
