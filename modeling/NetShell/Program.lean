import NetShell.Log.Line
import NetShell.Server.Listener
import NetShell.Text.Quoted

/-! The program from its command line to the moment when it takes connections.

`Program.plan` is what the command line comes to. A server then sets up its listeners;
what it reports meanwhile is `opening` before it tries and `opened` when it has done
so. -/
namespace NetShell.Program
open CommandLine

/-- What a command line comes to. -/
inductive Plan
  /-- print a text, and that is all -/
  | print (text : String)
  /-- the command line is wrong -/
  | complain (stop : Stop)
  /-- the configuration file cannot be used -/
  | fail (error : Settings.LoadError)
  | serve (settings : Settings)
  deriving DecidableEq, Repr

def plan (arguments : List String) (contents : String → Except Fault Bytes) : Plan :=
  match Settings.load arguments contents with
  | .ok settings => .serve settings
  | .error (.commandLine .help) => .print helpText
  | .error (.commandLine .version) => .print versionText
  | .error (.commandLine stop) => .complain stop
  | .error error => .fail error

/-- The exit status of a plan without a server, and of a server whose listeners could
not be set up or whose work is done. -/
def exitCode (bound : Bool) : Plan → Nat
  | .print _ => 0
  | .complain _ => 2
  | .fail _ => 1
  | .serve _ => if bound then 0 else 1

/-- The exit status when it cannot be made out what to log. -/
def tornFilterCode : Nat := 101

/-! ### Reports -/

/-- A value that may be missing, as it is shown. -/
def shown : Option String → String
  | none => "None"
  | some text => "Some(" ++ text ++ ")"

/-- What is reported before the listeners are set up. -/
def opening (s : Settings) : Notice :=
  .starting s.console (shown (s.websocket.map Text.quoted)) s.maxConnections

/-- What is reported of listeners that were set up. -/
def opened (s : Settings) (listeners : List Listener) : List Notice :=
  let address := fun mode => shown ((Listener.addressFor? mode listeners).map Address.text)
  Listener.announcements s.maxConnections listeners ++
    [.accepting (address .line) (address .webSocket)]

end NetShell.Program
