import NetShell.Connection.Handler
import NetShell.Telnet
import NetShell.Text.Blank

/-! The built-in shell.

It echoes what it is sent and knows a handful of commands. A terminal is prompted; a
WebSocket client is not, and is let in only on the shell's paths. -/
namespace NetShell
open WebSocket

/-- A shell's settings: it keeps no state between messages. -/
structure Shell where
  prompt : String
  mode : Mode

namespace Shell

/-- The paths a WebSocket client may ask for. -/
def paths : List String := ["/", "/shell"]

def notFound : Bytes :=
  Bytes.ofText "HTTP/1.1 404 Not Found\r\nServer: CogServer\r\nContent-Length: 0\r\n\r\n"

/-- What a browser is shown. -/
def page : String := "This is a websocket shell. Connect with a websocket client.\n"

def plainPage : Bytes :=
  Bytes.ofText ("HTTP/1.1 200 OK\r\nServer: CogServer\r\nContent-Type: text/plain\r\n" ++
    "Content-Length: " ++ Text.decimal page.length ++ "\r\n\r\n" ++ page)

def help : String :=
  "Available commands:\n" ++
  "  help      this text\n" ++
  "  stats     list open connections\n" ++
  "  quit      close this connection\n" ++
  "  shutdown  stop the server and close every connection\n" ++
  "Anything else is echoed back.\n"

/-- A terminal is prompted. -/
def prompting (s : Shell) : List Act :=
  match s.mode with
  | .line => [.send (Bytes.ofText s.prompt)]
  | .webSocket => []

/-- A terminal gets its first prompt; a WebSocket client must have asked for a shell. -/
def connected (s : Shell) : Option Request → Reaction Unit
  | none => { state := (), acts := s.prompting }
  | some request =>
    if !paths.contains request.path then
      { state := (), acts := [.send notFound], flow := .quiet ("no shell at " ++ request.path) }
    else if !request.upgrade then
      { state := (), acts := [.send plainPage], flow := .quiet "plain HTTP request" }
    else { state := () }

/-- Whether a client has interrupted what it was typing: the first command in a line is
the interrupt. -/
def interrupted (data : Bytes) : Bool :=
  (data.dropWhile (· != Telnet.iac)).tail.head? == some Telnet.interrupt

/-- A command, without the white space around it. -/
def command (s : Shell) (text : String) : Reaction Unit :=
  if text = "" then { state := (), acts := s.prompting }
  else if text = "help" then { state := (), acts := .reply (Bytes.ofText help) :: s.prompting }
  else if text = "stats" then { state := (), acts := .report :: s.prompting }
  else if text = "quit" ∨ text = "exit" then { state := (), flow := .quiet "quit" }
  else if text = "shutdown" then
    { state := (), acts := [.reply (Bytes.ofText "Shutting down\n"), .stop],
      flow := .abort "shutdown requested" true }
  else { state := (), acts := .reply (Bytes.ofText (text ++ "\n")) :: s.prompting }

/-- A message: ctrl-D ends the session, a telnet command is not for the shell, and an
interrupt starts a new line. -/
def message (s : Shell) (data : Bytes) : Reaction Unit :=
  if data.contains Telnet.eot then { state := (), flow := .quiet "end of transmission" }
  else if data.contains Telnet.iac then
    { state := (),
      acts := if interrupted data then .send (Bytes.ofText "\n") :: s.prompting else [] }
  else s.command (Text.trim (Text.lossy data))

def handler (s : Shell) : Handler Unit where
  connected _ request := s.connected request
  message _ data := s.message data

end Shell
end NetShell
