import NetShell.Fault
import NetShell.Settings.CommandLine
import NetShell.Settings.File
import NetShell.Text.Utf8

/-! What a server runs with.

Each setting comes from the command line, else from the configuration file, else it has
a default (`Settings.resolve`). -/
namespace NetShell
open CommandLine

structure Settings where
  console : String
  /-- there may be no WebSocket listener -/
  websocket : Option String
  maxConnections : Nat
  readBuffer : Nat
  prompt : String
  logLevel : String
  deriving DecidableEq, Repr

namespace Settings

/-- What is set where nothing else is. -/
def default : Settings where
  console := "127.0.0.1:17001"
  websocket := some "127.0.0.1:18080"
  maxConnections := 1024
  readBuffer := 4096
  prompt := "shell> "
  logLevel := "info"

/-- The level `info` on the command line gives way to the file, as if it had not been
given. -/
def givenLevel (given : Options) : Option String := given.logLevel.filter (· != "info")

/-- The command line before the file, the file before the defaults. The empty address
stands for no WebSocket listener, and a read has room for a byte at least. -/
def resolve (given : Options) (file : FileSettings) : Settings where
  console := (given.console <|> file.console).getD default.console
  websocket :=
    if given.noWebsocket then none
    else (given.websocket <|> file.websocket <|> default.websocket).filter (· != "")
  maxConnections := (given.maxConnections <|> file.maxConnections).getD default.maxConnections
  readBuffer := max 1 (file.readBuffer.getD default.readBuffer)
  prompt := (given.prompt <|> file.prompt).getD default.prompt
  logLevel := (givenLevel given <|> file.logLevel).getD default.logLevel

/-! ### Loading -/

/-- Why there are no settings. -/
inductive LoadError
  | commandLine (stop : Stop)
  /-- the configuration file cannot be read -/
  | unreadable (path : String) (fault : Fault)
  /-- the configuration file is malformed -/
  | malformed (path : String)
  deriving DecidableEq, Repr

/-- The fault of a file that is not UTF-8 text. -/
def notText : Fault := .described .invalidData "stream did not contain valid UTF-8"

/-- The fault of a path with a null character in it, which no file has. -/
def brokenPath : Fault := .described .invalidInput "file name contained an unexpected NUL byte"

/-- The message of a file that cannot be read. -/
def unreadableText (path : String) (fault : Fault) : String :=
  "Failed to read config file '" ++ path ++ "': " ++ fault.text

def LoadError.text : LoadError → String
  | commandLine stop => stop.text
  | unreadable path fault => unreadableText path fault
  | malformed path => "Failed to parse config file '" ++ path ++ "'"

/-- The settings for a command line and, if it names one, a file's bytes. -/
def load (arguments : List String) (contents : String → Except Fault Bytes) :
    Except LoadError Settings :=
  match CommandLine.parse arguments with
  | .error stop => .error (.commandLine stop)
  | .ok given =>
    match given.config with
    | none => .ok (resolve given {})
    | some path =>
      match if path.contains '\x00' then .error brokenPath else contents path with
      | .error fault => .error (.unreadable path fault)
      | .ok data =>
        match Text.strict? data with
        | none => .error (.unreadable path notText)
        | some text =>
          match FileSettings.parse? text with
          | none => .error (.malformed path)
          | some file => .ok (resolve given file)

end Settings
end NetShell
