import NetShell.Text.Numeral

/-! The command line.

Arguments are read from left to right and the first problem ends the reading. An option
that takes a value waits for it (`Reading.pending`); the value is checked and kept only
when the next option, or the end of the line, is reached. -/
namespace NetShell.CommandLine

/-- What a command line asks for. -/
structure Options where
  /-- the path of a configuration file -/
  config : Option String := none
  console : Option String := none
  websocket : Option String := none
  /-- no WebSocket listener is wanted -/
  noWebsocket : Bool := false
  maxConnections : Option Nat := none
  prompt : Option String := none
  logLevel : Option String := none
  deriving DecidableEq, Repr

/-- Why the options are not had. -/
inductive Stop
  /-- the help text was asked for -/
  | help
  /-- the version was asked for -/
  | version
  | unknownArgument
  /-- a value is missing, or empty where it must not be -/
  | invalidValue
  /-- a number was wanted -/
  | notANumber
  /-- an option was given twice -/
  | repeated
  /-- a value was given to an option that takes none -/
  | needlessValue
  deriving DecidableEq, Repr

def Stop.text : Stop → String
  | help => "help requested"
  | version => "version requested"
  | unknownArgument => "unexpected argument found"
  | invalidValue => "a value is required for an option but none was supplied"
  | notANumber => "invalid value for an option: not a number of connections"
  | repeated => "an option cannot be used multiple times"
  | needlessValue => "unexpected value for an option that takes none"

/-! ### Options -/

/-- An option that takes a value. -/
inductive Setting
  | config
  | console
  | websocket
  | maxConnections
  | prompt
  | logLevel
  deriving DecidableEq, Repr

/-- What an argument that begins with a dash can mean. -/
inductive Switch
  | setting (s : Setting)
  | noWebsocket
  | help
  | version
  deriving DecidableEq, Repr

/-- The switch with a name of several letters. -/
def Switch.long? : String → Option Switch
  | "config" => some (.setting .config)
  | "console" => some (.setting .console)
  | "websocket" => some (.setting .websocket)
  | "no-websocket" => some .noWebsocket
  | "max-connections" => some (.setting .maxConnections)
  | "prompt" => some (.setting .prompt)
  | "log-level" => some (.setting .logLevel)
  | "help" => some .help
  | "version" => some .version
  | _ => none

/-- The switch with a name of one letter. -/
def Switch.short? : Char → Option Switch
  | 'c' => some (.setting .config)
  | 'p' => some (.setting .console)
  | 'w' => some (.setting .websocket)
  | 'm' => some (.setting .maxConnections)
  | 'h' => some .help
  | 'V' => some .version
  | _ => none

/-! ### Reading -/

/-- How far the reading has come. -/
structure Reading where
  options : Options := {}
  /-- an option whose value is awaited, or has been read but not been taken over -/
  pending : Option (Setting × Option String) := none
  /-- `--` was read: no options follow -/
  ended : Bool := false

namespace Reading

/-- Whether an option has been given. -/
def has (r : Reading) : Setting → Bool
  | .config => r.options.config.isSome
  | .console => r.options.console.isSome
  | .websocket => r.options.websocket.isSome
  | .maxConnections => r.options.maxConnections.isSome
  | .prompt => r.options.prompt.isSome
  | .logLevel => r.options.logLevel.isSome

/-- Take an option's value over. The empty path is none, and a number of connections has
64 bits. -/
def take (r : Reading) (s : Setting) (value : String) : Except Stop Reading :=
  if r.has s then throw .repeated
  else match s with
    | .config =>
      if value = "" then throw .invalidValue
      else pure { r with options := { r.options with config := some value } }
    | .console => pure { r with options := { r.options with console := some value } }
    | .websocket => pure { r with options := { r.options with websocket := some value } }
    | .maxConnections =>
      match Text.unsigned? 0x10000000000000000 value with
      | none => throw .notANumber
      | some n => pure { r with options := { r.options with maxConnections := some n } }
    | .prompt => pure { r with options := { r.options with prompt := some value } }
    | .logLevel => pure { r with options := { r.options with logLevel := some value } }

/-- Take the pending option over. -/
def settle (r : Reading) : Except Stop Reading :=
  match r.pending with
  | none => pure r
  | some (_, none) => throw .invalidValue
  | some (s, some value) => { r with pending := none }.take s value

/-- A switch that takes no value. -/
def flag (r : Reading) : Switch → Except Stop Reading
  | .noWebsocket =>
    if r.options.noWebsocket then throw .repeated
    else pure { r with options := { r.options with noWebsocket := true } }
  | .help => throw .help
  | .version => throw .version
  | .setting s => pure { r with pending := some (s, none) }

/-- A switch with a long name, and the value attached to it by an equals sign. -/
def long (r : Reading) (name : String) (attached : Option String) : Except Stop Reading :=
  match Switch.long? name, attached with
  | none, _ => throw .unknownArgument
  | some (.setting s), some value => do
    let r ← r.settle
    r.take s value
  | some _, some _ => throw .needlessValue
  | some switch, none => do
    let r ← r.settle
    r.flag switch

/-- A cluster of switches of one letter each. One that takes a value takes the rest of
the cluster, without an equals sign before it. -/
def cluster (r : Reading) : List Char → Except Stop Reading
  | [] => pure r
  | c :: rest =>
    match Switch.short? c with
    | none => throw .unknownArgument
    | some (.setting s) => do
      let r ← r.settle
      match rest with
      | [] => r.flag (.setting s)
      | '=' :: value => r.take s (String.ofList value)
      | value => r.take s (String.ofList value)
    | some switch => do
      let r ← r.settle
      let r ← r.flag switch
      r.cluster rest

/-- An argument that is no option: the value that is waited for. -/
def plain (r : Reading) (value : String) : Except Stop Reading :=
  match r.pending with
  | some (s, none) => pure { r with pending := some (s, some value) }
  | _ => throw .unknownArgument

/-- One argument. -/
def feed (r : Reading) (argument : String) : Except Stop Reading :=
  if r.ended then throw .unknownArgument
  else match argument.toList with
    | ['-', '-'] => pure { r with ended := true }
    | '-' :: '-' :: body =>
      let name := body.takeWhile (· != '=')
      let attached := match body.drop name.length with
        | _ :: value => some (String.ofList value)
        | [] => none
      r.long (String.ofList name) attached
    | '-' :: c :: rest => r.cluster (c :: rest)
    | _ => r.plain argument

end Reading

/-- The options that arguments spell. -/
def parse (arguments : List String) : Except Stop Options := do
  let r ← arguments.foldlM Reading.feed {}
  let r ← r.settle
  pure r.options

/-! ### Texts -/

def helpText : String :=
  "Interactive shell server over telnet and WebSocket\n" ++
  "\n" ++
  "Usage: shell-gate [OPTIONS]\n" ++
  "\n" ++
  "Options:\n" ++
  "  -c, --config <CONFIG>\n" ++
  "          Path to TOML configuration file\n" ++
  "  -p, --console <CONSOLE>\n" ++
  "          Address for the line-oriented console (e.g., 127.0.0.1:17001)\n" ++
  "  -w, --websocket <WEBSOCKET>\n" ++
  "          Address for the WebSocket shell (e.g., 127.0.0.1:18080)\n" ++
  "      --no-websocket\n" ++
  "          Do not open the WebSocket listener\n" ++
  "  -m, --max-connections <MAX_CONNECTIONS>\n" ++
  "          Maximum number of simultaneous connections\n" ++
  "      --prompt <PROMPT>\n" ++
  "          Shell prompt for console connections\n" ++
  "      --log-level <LOG_LEVEL>\n" ++
  "          Log level (trace, debug, info, warn, error) [default: info]\n" ++
  "  -h, --help\n" ++
  "          Print help\n" ++
  "  -V, --version\n" ++
  "          Print version\n"

def versionText : String := "shell-gate 0.1.0\n"

end NetShell.CommandLine
