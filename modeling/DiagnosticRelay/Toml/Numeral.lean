import DiagnosticRelay.Text.Digits
import DiagnosticRelay.Toml.Basic

/-!
# Numerals of TOML

Integers in four bases and floats. Digits may be grouped by single underscores between them. An
integer must fit into 64 bits with a sign. A float may be too small or negative beyond all bounds,
but a positive one that rounds to infinity is refused.
-/

namespace DiagnosticRelay.Toml

/-- The digits after a first one, and what follows. An underscore counts only before a digit. -/
def moreDigits (base : Nat) : List Char → List Char × List Char
  | '_' :: c :: rest =>
    if Text.isDigit base c then
      let (digits, rest) := moreDigits base rest
      (c :: digits, rest)
    else ([], '_' :: c :: rest)
  | c :: rest =>
    if Text.isDigit base c then
      let (digits, rest) := moreDigits base rest
      (c :: digits, rest)
    else ([], c :: rest)
  | [] => ([], [])

/-- A run of at least one digit, its digits without underscores, and what follows. -/
def digits? (base : Nat) : List Char → Option (List Char × List Char)
  | c :: rest =>
    if Text.isDigit base c then
      let (digits, rest) := moreDigits base rest
      some (c :: digits, rest)
    else none
  | [] => none

/-- The digits of a decimal number: a zero, or a run that does not begin with one. -/
def whole? : List Char → Option (List Char × List Char)
  | '0' :: rest => some (['0'], rest)
  | cs => digits? 10 cs

/-- An optional sign, whether it is a minus, and what follows. -/
def sign : List Char → Bool × List Char
  | '+' :: rest => (false, rest)
  | '-' :: rest => (true, rest)
  | cs => (false, cs)

/-- The largest integer of 64 bits with a sign. -/
def maxInteger : Nat := 9223372036854775807

/-- A decimal integer. -/
def decimal? (cs : List Char) : Option (Toml × List Char) :=
  let (negative, cs) := sign cs
  match whole? cs with
  | none => none
  | some (digits, rest) =>
    let magnitude := Text.digitsValue 10 digits
    if negative then
      if magnitude ≤ maxInteger + 1 then some (.integer (-magnitude), rest) else none
    else if magnitude ≤ maxInteger then some (.integer magnitude, rest) else none

/-- An integer in another base, after the letter that names the base. -/
def inBase? (base : Nat) (cs : List Char) : Option (Toml × List Char) :=
  match digits? base cs with
  | none => none
  | some (digits, rest) =>
    let magnitude := Text.digitsValue base digits
    if magnitude ≤ maxInteger then some (.integer magnitude, rest) else none

/-- An integer. -/
def integer? : List Char → Option (Toml × List Char)
  | '0' :: 'x' :: rest => inBase? 16 rest
  | '0' :: 'o' :: rest => inBase? 8 rest
  | '0' :: 'b' :: rest => inBase? 2 rest
  | cs => decimal? cs

/-- The digits after a decimal point, none if there is no point. -/
def fraction? : List Char → Option (List Char × List Char)
  | '.' :: rest => digits? 10 rest
  | cs => some ([], cs)

/-- An exponent, if there is one. -/
def exponent? : List Char → Option (Option Int × List Char)
  | c :: rest =>
    if c == 'e' || c == 'E' then
      let (negative, rest) := sign rest
      (digits? 10 rest).map fun (digits, rest) =>
        let magnitude : Int := Text.digitsValue 10 digits
        (some (if negative then -magnitude else magnitude), rest)
    else some (none, c :: rest)
  | [] => some (none, [])

/-- The least whole number that rounds to infinity as a double: halfway between the largest double
and the power of two above it, where the tie goes up. -/
def roundsToInfinity : Nat := Nat.pow 2 1024 - Nat.pow 2 970

/-- Whether `mantissa · 10 ^ exponent` rounds to infinity. The number of digits decides far from
the limit, so powers stay small. -/
def overflows (mantissa : Nat) (exponent : Int) : Bool :=
  let size := (Nat.repr mantissa).length + exponent
  if mantissa = 0 || size < 300 then false
  else if 320 < size then true
  else if 0 ≤ exponent then roundsToInfinity ≤ mantissa * Nat.pow 10 exponent.toNat
  else roundsToInfinity * Nat.pow 10 (-exponent).toNat ≤ mantissa

/-- A float in figures: it has a fraction or an exponent. -/
def figures? (cs : List Char) : Option (Toml × List Char) :=
  let (negative, cs) := sign cs
  match whole? cs with
  | none => none
  | some (whole, cs) =>
    match fraction? cs with
    | none => none
    | some (fraction, cs) =>
      match exponent? cs with
      | none => none
      | some (exponent, cs) =>
        if fraction.isEmpty && exponent.isNone then none
        else if !negative && overflows (Text.digitsValue 10 (whole ++ fraction))
            (exponent.getD 0 - fraction.length) then none
        else some (.float, cs)

/-- A float: in figures, infinity, or not a number. -/
def float? (cs : List Char) : Option (Toml × List Char) :=
  match (sign cs).2 with
  | 'i' :: 'n' :: 'f' :: rest => some (.float, rest)
  | 'n' :: 'a' :: 'n' :: rest => some (.float, rest)
  | _ => figures? cs

end DiagnosticRelay.Toml
