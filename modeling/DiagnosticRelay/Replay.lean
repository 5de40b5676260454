import DiagnosticRelay.Diagnostic
import DiagnosticRelay.Json.Value
import DiagnosticRelay.Severity

/-!
# Replays

A replay is a JSON array of recorded diagnostics against one source. A record is an object with
the members `level`, `offset`, `message` and `explanation`, or an array that holds them in this
order. The level is a code, which is passed on unchecked, or the name of a severity.

The whole text has to be well formed before names are looked at; then the first unknown name
fails the replay.
-/

namespace DiagnosticRelay

namespace Replay

/-- The level of a record. -/
inductive Level where
  | code (code : Int)
  | name (name : String)
deriving DecidableEq, Repr

/-- A recorded diagnostic. -/
structure Record where
  level : Level
  /-- The offset in the source; a record without one points nowhere. -/
  offset? : Option Nat
  message : String
  explanation? : Option String
deriving DecidableEq, Repr

/-- Codes are 32-bit numbers with a sign. -/
def IsCode (n : Int) : Prop :=
  -2147483648 ≤ n ∧ n < 2147483648

instance (n : Int) : Decidable (IsCode n) :=
  inferInstanceAs (Decidable (_ ∧ _))

/-- Offsets are 64-bit numbers without a sign. -/
def IsOffset (n : Int) : Prop :=
  0 ≤ n ∧ n < 18446744073709551616

instance (n : Int) : Decidable (IsOffset n) :=
  inferInstanceAs (Decidable (_ ∧ _))

namespace Record

/-- A string that has a text. -/
def textOf? : Json → Option String
  | .string text? => text?
  | _ => none

/-- A level is a code in range or a name. -/
def levelOf? : Json → Option Level
  | .number numeral => numeral.toInt?.bind fun n => if IsCode n then some (.code n) else none
  | .string text? => text?.map .name
  | _ => none

/-- An offset in range, or null for no offset. -/
def offsetOf? : Json → Option (Option Nat)
  | .null => some none
  | .number numeral =>
    numeral.toInt?.bind fun n => if IsOffset n then some (some n.toNat) else none
  | _ => none

/-- An explanation, or null for none. -/
def explanationOf? : Json → Option (Option String)
  | .null => some none
  | json => (textOf? json).map some

/-- The record of four values. A value that is missing counts as null where null is allowed. -/
def ofFields? (level message : Json) (offset explanation : Option Json) : Option Record := do
  let level ← levelOf? level
  let offset? ← offsetOf? (offset.getD .null)
  let message ← textOf? message
  let explanation? ← explanationOf? (explanation.getD .null)
  return { level, offset?, message, explanation? }

/-- The value of the member of a name, if there is one. Two members of the name fail. -/
def member? (name : String) (members : List (Option String × Json)) : Option (Option Json) :=
  match members.filter (·.1 == some name) with
  | [] => some none
  | [(_, value)] => some (some value)
  | _ => none

/-- The record that a value denotes. Members of other names are left aside, but every name must
have a text. -/
def ofJson? : Json → Option Record
  | .object members => do
    guard (members.all (·.1.isSome))
    let level ← member? "level" members
    let offset ← member? "offset" members
    let message ← member? "message" members
    let explanation ← member? "explanation" members
    ofFields? (← level) (← message) offset explanation
  | .array [level, offset, message] => ofFields? level message (some offset) none
  | .array [level, offset, message, explanation] =>
    ofFields? level message (some offset) (some explanation)
  | _ => none

/-- The code of a level. -/
def code (record : Record) : Except UnknownSeverity Int :=
  match record.level with
  | .code code => .ok code
  | .name name => (Severity.ofName name).map Severity.code

/-- The recorded diagnostic. -/
def diagnostic (record : Record) (source : Source) : Except UnknownSeverity Diagnostic :=
  record.code.map fun code =>
    { code
      message := ⟨record.message, record.explanation?⟩
      location := match record.offset? with
        | some offset => .within source offset
        | none => .nowhere }

end Record

/-- Why a replay cannot be used. -/
inductive Failure where
  /-- There is no file, or it is not text. -/
  | unreadable
  /-- The text is not an array of records. -/
  | malformed
  /-- A record, counted from one, has an unknown name for its level. -/
  | badRecord (number : Nat) (unknown : UnknownSeverity)
deriving DecidableEq, Repr

/-- The wording of a failure. -/
def Failure.message : Failure → String
  | unreadable => "Failed to read diagnostics"
  | malformed => "Failed to parse diagnostics"
  | badRecord number unknown => s!"In diagnostic #{number}: {unknown.message}"

/-- The records of a text. -/
def records? (text : String) : Option (List Record) :=
  match Json.parse? text with
  | some (.array items) => items.mapM Record.ofJson?
  | _ => none

/-- The diagnostics of records, which count from `number`, up to the first unknown name. -/
def resolve (source : Source) (number : Nat) : List Record → Except Failure (List Diagnostic)
  | [] => .ok []
  | record :: rest =>
    match record.diagnostic source with
    | .error unknown => .error (.badRecord number unknown)
    | .ok diagnostic => (resolve source (number + 1) rest).map (diagnostic :: ·)

/-- The diagnostics of a text. -/
def parse (source : Source) (text : String) : Except Failure (List Diagnostic) :=
  match records? text with
  | none => .error .malformed
  | some records => resolve source 1 records

/-- The diagnostics of a file, which must exist and hold text. -/
def load (source : Source) (file? : Option ByteArray) : Except Failure (List Diagnostic) :=
  match file?.bind String.fromUTF8? with
  | none => .error .unreadable
  | some text => parse source text

end Replay

end DiagnosticRelay
