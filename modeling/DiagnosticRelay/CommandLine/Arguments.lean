import DiagnosticRelay.Text.Digits

/-!
# Arguments of the command line

The commands and how their arguments are read. Options may stand anywhere after the name of the
command; after `--` everything is a plain argument. An option may be given once. A path may not be
empty, and the value of an option that is given as an argument of its own may not look like an
option.

Requests for help are left out. They are answered by a text that is made from the declaration of the
arguments; here `--help`, `-h` and the command `help` are options and a command that are not known.
-/

namespace DiagnosticRelay.CommandLine

/-- The switches of the `report` command. -/
inductive Flag where
  | explain
  | explainOnce
  | noSource
  | unresolved
deriving DecidableEq, Repr

namespace Flag

/-- The name of a switch, without its dashes. -/
def name : Flag → String
  | explain => "explain"
  | explainOnce => "explain-once"
  | noSource => "no-source"
  | unresolved => "unresolved"

/-- The switch of a name. -/
def ofName? (name : String) : Option Flag :=
  [explain, explainOnce, noSource, unresolved].find? (·.name = name)

end Flag

/-- What the `report` command is to do. -/
structure ReportOptions where
  /-- The path of the source that the diagnostics point into. -/
  source : String
  /-- The path of the replay. -/
  replay : String
  /-- The path of the settings, if they are not the default ones. -/
  settings? : Option String
  /-- Whether explanations are shown. -/
  explain : Bool
  /-- Whether each message text is explained at most once; this shows explanations, too. -/
  explainOnce : Bool
  /-- Whether the line of text is left out. -/
  noSource : Bool
  /-- Whether the source counts as one that cannot be resolved. -/
  unresolved : Bool
deriving DecidableEq, Repr

/-- What the program is to do. -/
inductive Command where
  /-- Print the version. -/
  | version
  /-- Report the diagnostics of a replay. -/
  | report (options : ReportOptions)
  /-- Print the placement of an offset in a source. -/
  | position (source : String) (offset : Nat)
deriving DecidableEq, Repr

/-- What is wrong with arguments. -/
inductive UsageError where
  | noCommand
  | unknownCommand (name : String)
  | unknownOption (option : String)
  /-- A switch that is given a value. -/
  | unexpectedValue (flag : Flag)
  /-- The option for the settings without a path. -/
  | missingPath
  /-- An option that is given more than once. -/
  | repeatedOption (name : String)
  /-- Too few or too many plain arguments. -/
  | wrongCount (expected given : Nat)
  | emptyArgument
  | invalidOffset (text : String)
deriving DecidableEq, Repr

/-- The wording of a mistake. -/
def UsageError.message : UsageError → String
  | noCommand => "a command is required: report or position"
  | unknownCommand name => s!"unknown command: {name}"
  | unknownOption option => s!"unknown option: {option}"
  | unexpectedValue flag => s!"option takes no value: --{flag.name}"
  | missingPath => "option needs a path: --config"
  | repeatedOption name => s!"option given more than once: --{name}"
  | wrongCount expected given => s!"expected {expected} arguments, not {given}"
  | emptyArgument => "an argument may not be empty"
  | invalidOffset text => s!"not an offset: {text}"

/-- What an argument, or two of them, amount to. -/
inductive Item where
  | plain (text : String)
  | flag (flag : Flag)
  | settings (path : String)
deriving DecidableEq, Repr

namespace Item

/-- Whether an argument looks like an option. A dash alone does not. -/
def looksLikeOption (argument : String) : Bool :=
  match argument.toList with
  | '-' :: _ :: _ => true
  | _ => false

/-- The option for the settings with its path. -/
def ofPath (path : String) : Except UsageError Item :=
  if path.isEmpty then .error .missingPath else .ok (settings path)

/-- An option with a long name and the value after its equals sign, if there is one. -/
def ofLong (name : String) (value? : Option String) : Except UsageError Item :=
  match Flag.ofName? name, value? with
  | some switch, none => .ok (flag switch)
  | some switch, some _ => .error (.unexpectedValue switch)
  | none, some value =>
    if name = "config" then ofPath value else .error (.unknownOption ("--" ++ name))
  | none, none => .error (.unknownOption ("--" ++ name))

/-- An argument that begins with two dashes, without them, cut at its first equals sign. -/
def cutValue (body : List Char) : String × Option String :=
  match body.dropWhile (· != '=') with
  | _ :: value => (.ofList (body.takeWhile (· != '=')), some (.ofList value))
  | [] => (.ofList body, none)

/-- The path in the argument of the short option for the settings, after its letter. An equals sign
in front of it is left out. -/
def shortValue : List Char → String
  | '=' :: value => .ofList value
  | value => .ofList value

/-- The items of arguments. Options that ask for help are left out, so they count as unknown. -/
def ofArguments : List String → Except UsageError (List Item)
  | [] => .ok []
  | argument :: rest =>
    if argument = "--" then .ok (rest.map plain)
    else if argument = "-c" ∨ argument = "--config" then
      match rest with
      | [] => .error .missingPath
      | path :: rest =>
        if looksLikeOption path then .error .missingPath
        else do
          let item ← ofPath path
          let items ← ofArguments rest
          return item :: items
    else do
      let item ← match argument.toList with
        | '-' :: '-' :: body =>
          let (name, value?) := cutValue body
          ofLong name value?
        | '-' :: 'c' :: body => ofPath (shortValue body)
        | '-' :: _ :: _ => .error (.unknownOption argument)
        | _ => .ok (plain argument)
      let items ← ofArguments rest
      return item :: items

end Item

/-- The plain arguments among items. -/
def plainArguments (items : List Item) : List String :=
  items.filterMap fun
    | .plain text => some text
    | _ => none

/-- Whether a switch is given. -/
def given (items : List Item) (flag : Flag) : Bool :=
  items.contains (.flag flag)

/-- The paths of settings among items. -/
def settingsPaths (items : List Item) : List String :=
  items.filterMap fun
    | .settings path => some path
    | _ => none

/-- The switch that is given more than once, if there is one. -/
def repeatedFlag? (items : List Item) : Option Flag :=
  [Flag.explain, .explainOnce, .noSource, .unresolved].find? fun flag =>
    1 < items.count (.flag flag)

/-- An offset in decimal digits. A plus sign may stand in front, and leading zeros do not count. -/
def offset? (text : String) : Option Nat :=
  let digits := match text.toList with
    | '+' :: digits => digits
    | digits => digits
  if digits.isEmpty || !digits.all (Text.isDigit 10) then none
  else
    let value := Text.digitsValue 10 digits
    if value < 18446744073709551616 then some value else none

/-- The `report` command of items. -/
def reportOf (items : List Item) : Except UsageError Command :=
  match repeatedFlag? items, settingsPaths items, plainArguments items with
  | some flag, _, _ => .error (.repeatedOption flag.name)
  | none, _ :: _ :: _, _ => .error (.repeatedOption "config")
  | none, paths, [source, replay] =>
    if source.isEmpty || replay.isEmpty then .error .emptyArgument
    else .ok (.report
      { source
        replay
        settings? := paths.head?
        explain := given items .explain
        explainOnce := given items .explainOnce
        noSource := given items .noSource
        unresolved := given items .unresolved })
  | none, _, arguments => .error (.wrongCount 2 arguments.length)

/-- The `position` command of items. It has no options. -/
def positionOf (items : List Item) : Except UsageError Command :=
  match items with
  | [.plain source, .plain offset] =>
    if source.isEmpty then .error .emptyArgument
    else match offset? offset with
      | some offset => .ok (.position source offset)
      | none => .error (.invalidOffset offset)
  | items =>
    match items.find? fun item => !(item matches .plain _) with
    | some (.flag flag) => .error (.unknownOption ("--" ++ flag.name))
    | some (.settings _) => .error (.unknownOption "--config")
    | _ => .error (.wrongCount 2 items.length)

/-- Whether an argument in front of the command asks for the version. -/
def asksForVersion (argument : String) : Bool :=
  argument = "--version" || argument.toList.take 2 = ['-', 'V']

/-- The command of arguments. Requests for help are left out, so they are mistakes. -/
def Command.parse : List String → Except UsageError Command
  | [] => .error .noCommand
  | name :: arguments =>
    if asksForVersion name then .ok .version
    else if name = "report" then (Item.ofArguments arguments).bind reportOf
    else if name = "position" then (Item.ofArguments arguments).bind positionOf
    else .error (.unknownCommand name)

end DiagnosticRelay.CommandLine
