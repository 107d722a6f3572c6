/-
# Options of the command line

A command line holds options, then the name of a command, then the options of the command.  An
option is a flag, or it takes the next argument or the text behind an equals sign as its value.
Arguments are read from the left, and the first thing that cannot be accepted wins; a value is
looked at after it has been read, when the next option comes.

* `ArgLevel.scan`: the options of one level, and the command behind them;
* `ShellCommand.read`: what a command line asks for.
-/
import ControlPlane.Host.Config
import ControlPlane.Number.Decimal
import ControlPlane.Text.Plain
import ControlPlane.Text.Quoted

namespace ControlPlane

/-! ## 1. Options -/

/-- **An option.** -/
structure ArgOption where
  name : String
  /-- The letter of its short form. -/
  letter : Option Char := none
  /-- What its value is called; `none` for a flag. -/
  value : Option String := none
  /-- It may be given more than once. -/
  many : Bool := false
  /-- An empty text is no value. -/
  nonEmpty : Bool := false
  /-- Why a value cannot be accepted, if it cannot. -/
  refuses : String → Option String := fun _ => none

/-- An option as it is shown. -/
def ArgOption.shown (o : ArgOption) : String :=
  "--" ++ o.name
    ++ (match o.value with
      | some v => " <" ++ v ++ ">"
      | none => "")

/-- **Why a command line is refused.** -/
inductive ArgRefusal where
  | nothingGiven
  | badValue (option value reason : String)
  | unexpected (arg : String)
  | unexpectedValue (value option : String)
  | unknownCommand (name : String)
  | missingCommand
  | missingOption (option : String)
  | missingValue (option : String)
  | repeated (option : String)
  deriving DecidableEq, Repr

/-- What is shown to those who ask for help. -/
def usage : String :=
  "Runs a hostlink host and spawns itself as its client\n\n"
    ++ "Usage: hostlink-shell [OPTIONS] <COMMAND>\n\n"
    ++ "Commands:\n"
    ++ "  host    Create channels and supervise spawned clients\n"
    ++ "  client  Join a channel and configure a profile\n"
    ++ "  help    Print this message or the help of the given subcommand(s)\n\n"
    ++ "Options:\n"
    ++ "  -d, --debug  Enable debug logging\n"
    ++ "  -h, --help   Print help"

/-- A value that was given, between quotes, in the style of what is wrong. -/
def shownGiven (given : String) : String := "'" ++ Text.styled .yellow given ++ "'"

/-- A name that the command line knows, between quotes, in the style of what can be written. -/
def shownName (name : String) : String := "'" ++ Text.styled .bold name ++ "'"

/-- What is written about something wrong, with styles. -/
def errorReport (wrong : String) : String :=
  Text.styled .boldRed "error:" ++ " " ++ wrong
    ++ "\n\nFor more information, try " ++ shownName "--help" ++ "."

/-- What is written about a refusal, with styles. -/
def ArgRefusal.report : ArgRefusal → String
  | .nothingGiven => usage
  | .badValue option value reason =>
    errorReport
      ("invalid value " ++ shownGiven value ++ " for " ++ shownName option ++ ": " ++ reason)
  | .unexpected arg =>
    errorReport ("unexpected argument " ++ shownGiven arg ++ " found")
  | .unexpectedValue value option =>
    errorReport
      ("unexpected value " ++ shownGiven value ++ " for " ++ shownName option
        ++ " found; no more were expected")
  | .unknownCommand name => errorReport ("unrecognized subcommand " ++ shownGiven name)
  | .missingCommand =>
    errorReport
      (shownName "hostlink-shell" ++ " requires a subcommand but one was not provided\n"
        ++ "  [subcommands: host, client, help]")
  | .missingOption option =>
    errorReport
      ("the following required arguments were not provided:\n  " ++ Text.styled .bold option)
  | .missingValue option =>
    errorReport
      ("a value is required for " ++ shownName option ++ " but none was supplied")
  | .repeated option =>
    errorReport
      ("the argument " ++ shownName option ++ " cannot be used multiple times")

/-- **The wording of a refusal.**  Styles are for a terminal: they are taken out, and whatever else
the arguments brought that a terminal would not show goes with them. -/
def ArgRefusal.message (r : ArgRefusal) : String := Text.plain r.report

/-- Why the reading of a command line stops. -/
inductive ArgStop where
  | helpWanted
  | refused (why : ArgRefusal)
  deriving DecidableEq, Repr

/-- What is read: option names with their values, in order. -/
abbrev ArgValues := List (String × String)

/-- **How far the reading has come.**  A value is looked at when the next option or the end is
reached, so that an argument which cannot be read at all comes before a value that cannot be
accepted. -/
structure ArgProgress where
  accepted : ArgValues := []
  /-- The option that was read last and takes a value, with that value once it has come. -/
  last : Option (ArgOption × Option String) := none

namespace ArgProgress

/-- Accepts the value of an option. -/
def accept (o : ArgOption) (value : String) (seen : ArgValues) : Except ArgStop ArgValues :=
  if !o.many && (seen.lookup o.name).isSome then .error (.refused (.repeated o.shown))
  else if o.nonEmpty && value.isEmpty then .error (.refused (.missingValue o.shown))
  else
    match o.refuses value with
    | some reason => .error (.refused (.badValue o.shown value reason))
    | none => .ok (seen ++ [(o.name, value)])

/-- What has been accepted once the value of the last option has been looked at. -/
def settle (p : ArgProgress) : Except ArgStop ArgValues :=
  match p.last with
  | none => .ok p.accepted
  | some (o, some value) => accept o value p.accepted
  | some (o, none) => .error (.refused (.missingValue o.shown))

/-- An option with all that belongs to it. -/
def put (p : ArgProgress) (o : ArgOption) (value : String) : Except ArgStop ArgProgress := do
  return { accepted := ← accept o value (← p.settle) }

/-- An option whose value is yet to come. -/
def await (p : ArgProgress) (o : ArgOption) : Except ArgStop ArgProgress := do
  return { accepted := ← p.settle, last := some (o, none) }

/-- The wish for help. -/
def help {α : Type} (p : ArgProgress) : Except ArgStop α := do
  let _ ← p.settle
  throw .helpWanted

end ArgProgress

/-- **One level of a command line**: its options, and the commands that can follow. -/
structure ArgLevel where
  options : List ArgOption
  commands : List String := []

namespace ArgLevel

/-- A level's options and the command behind them, with what is left for that. -/
abbrev Scanned := ArgValues × Option (String × List String)

/-- Whether a name is that of a command, among them the one that shows help. -/
def isCommand (l : ArgLevel) (name : String) : Bool :=
  l.commands.contains name || !l.commands.isEmpty && name = "help"

/-- Why an argument is refused that is neither an option nor a value. -/
def stray (l : ArgLevel) (arg : String) : ArgStop :=
  .refused (if l.commands.isEmpty then .unexpected arg else .unknownCommand arg)

/-- Why an argument is refused behind two dashes, where a command cannot stand. -/
def strayBehindDashes (l : ArgLevel) (arg : String) : ArgStop :=
  if l.isCommand arg then .refused (.unexpected arg) else l.stray arg

/-- Reads the letters behind a single dash. -/
def putLetters (l : ArgLevel) : List Char → ArgProgress → Except ArgStop ArgProgress
  | [], p => .ok p
  | c :: rest, p =>
    match l.options.find? (·.letter == some c) with
    | some o => do putLetters l rest (← p.put o "")
    | none =>
      if c = 'h' then p.help else .error (.refused (.unexpected (String.ofList ['-', c])))

/-- The names behind the command that shows help. -/
def helpFor (l : ArgLevel) : List String → ArgStop
  | [] => .helpWanted
  | [name] => if l.isCommand name then .helpWanted else .refused (.unknownCommand name)
  | name :: next :: _ => .refused (.unknownCommand (if l.isCommand name then next else name))

/-- An argument without dashes: the value that is awaited, or a command. -/
def plain (l : ArgLevel) (arg : String) (rest : List String) (p : ArgProgress) :
    Except ArgStop (ArgProgress ⊕ Scanned) :=
  match p.last with
  | some (o, none) => .ok (.inl { p with last := some (o, some arg) })
  | _ =>
    if l.commands.contains arg then do return .inr (← p.settle, some (arg, rest))
    else if l.isCommand arg then .error (l.helpFor rest)
    else .error (l.stray arg)

/-- The name of an option behind its dashes, and the value behind an equals sign. -/
def splitValue (cs : List Char) : String × Option String :=
  (String.ofList (cs.takeWhile (· != '=')),
    match cs.dropWhile (· != '=') with
    | [] => none
    | _ :: value => some (String.ofList value))

/-- Reads an option by its name. -/
def putLong (l : ArgLevel) (cs : List Char) (p : ArgProgress) : Except ArgStop ArgProgress :=
  let (name, attached) := splitValue cs
  match l.options.find? (·.name == name) with
  | some o =>
    match o.value, attached with
    | none, none => p.put o ""
    | some _, some v => p.put o v
    | none, some v => .error (.refused (.unexpectedValue v o.shown))
    | some _, none => p.await o
  | none =>
    match name, attached with
    | "help", none => p.help
    | "help", some v => .error (.refused (.unexpectedValue v "--help"))
    | _, _ => .error (.refused (.unexpected ("--" ++ name)))

/-- **Reads the options of a level**, up to its command. -/
def scan (l : ArgLevel) : List String → ArgProgress → Except ArgStop Scanned
  | [], p => do return (← p.settle, none)
  | arg :: rest, p =>
    match arg.toList with
    | ['-', '-'] =>
      match rest with
      | [] => do return (← p.settle, none)
      | next :: _ => .error (l.strayBehindDashes next)
    | '-' :: '-' :: name =>
      match l.putLong name p with
      | .error e => .error e
      | .ok p => scan l rest p
    | '-' :: c :: letters =>
      match l.putLetters (c :: letters) p with
      | .error e => .error e
      | .ok p => scan l rest p
    | _ =>
      match l.plain arg rest p with
      | .error e => .error e
      | .ok (.inl p) => scan l rest p
      | .ok (.inr done) => .ok done

end ArgLevel

/-! ## 2. Values -/

/-- Why a text is no number below `bound`. -/
def refusesNumber (bound : Nat) (s : String) : Option String :=
  match Decimal.read bound s.toList with
  | .ok _ => none
  | .error e => some e.message

/-- The number of a text that has been accepted. -/
def acceptedNumber (bound : Nat) (s : String) : Nat :=
  match Decimal.read bound s.toList with
  | .ok n => n
  | .error _ => 0

/-- The switch of a text: a key that is not empty, an equals sign, and a value. -/
def Switch.ofText? (s : String) : Option Switch :=
  match ArgLevel.splitValue s.toList with
  | ("", _) | (_, none) => none
  | (key, some value) => some (key, value)

/-- Why a text is no switch. -/
def refusesSwitch (s : String) : Option String :=
  match Switch.ofText? s with
  | some _ => none
  | none => some ("expected key=value, got " ++ Text.quoted s)

/-- Why a text names no thread mode. -/
def refusesMode (s : String) : Option String :=
  match ThreadMode.ofName? s with
  | some _ => none
  | none => some ("unknown thread mode: " ++ s)

/-! ## 3. Commands -/

/-- **How a host is to be run.** -/
structure HostOptions where
  mode : ThreadMode := .original
  /-- How long a client may take to connect, in seconds. -/
  connectTimeout : Nat := 30
  clients : Nat := 1
  folder : Option String := none
  switches : List Switch := []
  /-- To come to an end once every client is gone. -/
  exitWhenIdle : Bool := false
  deriving DecidableEq, Repr

/-- **What a command line asks for.** -/
inductive ShellCommand where
  | help
  | host (options : HostOptions)
  | client (token : String)
  deriving DecidableEq, Repr

namespace ShellCommand

/-- The option that is accepted everywhere. -/
def debugOption : ArgOption := { name := "debug", letter := some 'd' }

/-- The options of a host. -/
def hostLevel : ArgLevel where
  options := [
    debugOption,
    { name := "thread-mode", value := some "THREAD_MODE", refuses := refusesMode },
    { name := "connect-timeout", value := some "CONNECT_TIMEOUT",
      refuses := refusesNumber UInt64.size },
    { name := "clients", value := some "CLIENTS", refuses := refusesNumber UInt64.size },
    { name := "data-dir", value := some "DATA_DIR", nonEmpty := true },
    { name := "switch", value := some "SWITCHES", many := true, refuses := refusesSwitch },
    { name := "exit-when-idle" }]

/-- The options of a client. -/
def clientLevel : ArgLevel where
  options := [debugOption, { name := "channel", value := some "CHANNEL" }]

/-- The options before a command. -/
def topLevel : ArgLevel where
  options := [debugOption]
  commands := ["host", "client"]

/-- The host that some options ask for. -/
def hostOf (vs : ArgValues) : HostOptions where
  mode := ((vs.lookup "thread-mode").bind ThreadMode.ofName?).getD .original
  connectTimeout := ((vs.lookup "connect-timeout").map (acceptedNumber UInt64.size)).getD 30
  clients := ((vs.lookup "clients").map (acceptedNumber UInt64.size)).getD 1
  folder := vs.lookup "data-dir"
  switches := vs.filterMap fun v => if v.1 = "switch" then Switch.ofText? v.2 else none
  exitWhenIdle := (vs.lookup "exit-when-idle").isSome

/-- The command behind the options of the first level. -/
def readCommand (name : String) (args : List String) : Except ArgStop ShellCommand :=
  if name = "host" then do
    let (vs, _) ← hostLevel.scan args {}
    return .host (hostOf vs)
  else do
    let (vs, _) ← clientLevel.scan args {}
    match vs.lookup "channel" with
    | some token => return .client token
    | none => throw (.refused (.missingOption "--channel <CHANNEL>"))

/-- **What a command line asks for**, or why it is refused. -/
def read (args : List String) : Except ArgRefusal ShellCommand :=
  let command : Except ArgStop ShellCommand := do
    match ← topLevel.scan args {} with
    | (_, some (name, rest)) => readCommand name rest
    | ([], none) => throw (.refused .nothingGiven)
    | (_, none) => throw (.refused .missingCommand)
  match command with
  | .ok c => .ok c
  | .error .helpWanted => .ok .help
  | .error (.refused why) => .error why

end ShellCommand

namespace HostOptions

/-- The switch that hands a folder to clients. -/
def folderSwitch : String := "user-data-dir"

/-- **The configuration of a host** with these options.  The folder comes before the other
switches. -/
def config (o : HostOptions) : HostConfig where
  threadMode := o.mode
  connectTimeout := o.connectTimeout * 1000
  switches := (o.folder.map fun f => (folderSwitch, f)).toList ++ o.switches

end HostOptions

end ControlPlane
