import DiagnosticRelay.Json.Token

/-!
# JSON values

A value and the machine that builds it from tokens. The machine keeps the containers that are open
in a stack, so nesting has no limit. Members of an object keep their order and their repeats.
-/

namespace DiagnosticRelay

/-- A JSON value. Strings and names have a text unless they hold unpaired surrogates. -/
inductive Json where
  | null
  | bool (value : Bool)
  | number (numeral : Json.Numeral)
  | string (text? : Option String)
  | array (items : List Json)
  | object (members : List (Option String × Json))

namespace Json

/-- A container that is still open, with what it holds so far, the latest first. -/
inductive Frame where
  | array (items : List Json)
  /-- An object whose next member has a name but no value yet. -/
  | object (members : List (Option String × Json)) (name? : Option String)

/-- What may come next, and the containers around it. -/
inductive Reader where
  /-- A value. -/
  | value (stack : List Frame)
  /-- The first item of an array, or its end. -/
  | firstItem (stack : List Frame)
  /-- A comma or the end of an array. -/
  | afterItem (items : List Json) (stack : List Frame)
  /-- The first name of an object, or its end. -/
  | firstName (stack : List Frame)
  /-- A name. -/
  | name (members : List (Option String × Json)) (stack : List Frame)
  /-- The colon after a name. -/
  | colon (members : List (Option String × Json)) (name? : Option String) (stack : List Frame)
  /-- A comma or the end of an object. -/
  | afterMember (members : List (Option String × Json)) (stack : List Frame)
  /-- Nothing. -/
  | done (json : Json)

namespace Reader

/-- Put a complete value into the innermost container. -/
def give (json : Json) : List Frame → Reader
  | [] => done json
  | .array items :: stack => afterItem (json :: items) stack
  | .object members name? :: stack => afterMember ((name?, json) :: members) stack

/-- Begin a value with its first token. -/
def beginValue (stack : List Frame) : Token → Option Reader
  | .null => some (give .null stack)
  | .bool b => some (give (.bool b) stack)
  | .number numeral => some (give (.number numeral) stack)
  | .string text? => some (give (.string text?) stack)
  | .openArray => some (firstItem stack)
  | .openObject => some (firstName stack)
  | _ => none

/-- Take one token. -/
def step : Reader → Token → Option Reader
  | value stack, token => beginValue stack token
  | firstItem stack, .closeArray => some (give (.array []) stack)
  | firstItem stack, token => beginValue (.array [] :: stack) token
  | afterItem items stack, .comma => some (value (.array items :: stack))
  | afterItem items stack, .closeArray => some (give (.array items.reverse) stack)
  | firstName stack, .closeObject => some (give (.object []) stack)
  | firstName stack, .string name? => some (colon [] name? stack)
  | name members stack, .string name? => some (colon members name? stack)
  | colon members name? stack, .colon => some (value (.object members name? :: stack))
  | afterMember members stack, .comma => some (name members stack)
  | afterMember members stack, .closeObject => some (give (.object members.reverse) stack)
  | _, _ => none

/-- Take tokens in order. -/
def run (reader : Reader) : List Token → Option Reader
  | [] => some reader
  | token :: rest => (reader.step token).bind (·.run rest)

end Reader

/-- The value that the tokens spell, if they spell exactly one. -/
def ofTokens? (tokens : List Token) : Option Json :=
  match (Reader.value []).run tokens with
  | some (.done json) => some json
  | _ => none

/-- The value of a text. -/
def parse? (text : String) : Option Json :=
  (Token.scan text.toList).bind ofTokens?

end Json

end DiagnosticRelay
