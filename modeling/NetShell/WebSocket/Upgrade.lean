import NetShell.Bytes
import NetShell.Text.Utf8
import NetShell.WebSocket.Violation
import NetShell.Digest.Sha1
import NetShell.Digest.Base64

/-! The HTTP exchange that turns a connection into a WebSocket.

The request arrives one line at a time, without line ends. The first line must be a
`GET`; of the header lines two are looked at, literally and with case counting; an empty
line ends the header. The answer carries the digest of the client's key. -/
namespace NetShell.WebSocket

/-- How far the exchange has come. -/
inductive Stage
  | needRequestLine
  | readingHeaders
  | headersDone
  deriving DecidableEq, Repr

def Stage.label : Stage → String
  | needRequestLine => "NeedRequestLine"
  | readingHeaders => "ReadingHeaders"
  | headersDone => "HeadersDone"

/-- What the client asked for. -/
structure Request where
  /-- the target of the request line -/
  path : String := ""
  /-- a header line asked for the upgrade -/
  upgrade : Bool := false
  /-- the client's key as it stands in its header line -/
  key : String := ""
  deriving DecidableEq, Repr

/-- What a line of the request leads to. -/
inductive Step
  | continue
  | headersDone
  | reject (cause : Violation)
  deriving DecidableEq, Repr

/-- The exchange so far. -/
structure Upgrade where
  stage : Stage := .needRequestLine
  request : Request := {}
  deriving DecidableEq, Repr

/-- A byte string without another at its front. -/
def after? (front data : Bytes) : Option Bytes :=
  if front.isPrefixOf data then some (data.drop front.length) else none

namespace Upgrade

def requestFront : Bytes := Bytes.ofText "GET "
def upgradeHeader : Bytes := Bytes.ofText "Upgrade: websocket"
def keyHeader : Bytes := Bytes.ofText "Sec-WebSocket-Key: "

/-- A header line's part of the request. -/
def note (request : Request) (line : Bytes) : Request :=
  if upgradeHeader.isPrefixOf line then { request with upgrade := true }
  else match after? keyHeader line with
    | some key => { request with key := Text.lossy key }
    | none => request

/-- One line of the request. -/
def feed (u : Upgrade) (line : Bytes) : Step × Upgrade :=
  match u.stage with
  | .needRequestLine =>
    match after? requestFront line with
    | none => (.reject .malformedRequestLine, u)
    | some target =>
      let path := Text.lossy (target.takeWhile (· != 0x20))
      (.continue, { stage := .readingHeaders, request := { u.request with path } })
  | .readingHeaders =>
    if line.isEmpty then (.headersDone, { u with stage := .headersDone })
    else (.continue, { u with request := note u.request line })
  | .headersDone => (.headersDone, u)

end Upgrade

/-! ### Answers -/

/-- What is appended to a key before it is digested. -/
def keySuffix : String := "258EAFA5-E914-47DA-95CA-C5AB0DC85B11"

/-- The proof that the server has read a key. -/
def acceptKey (key : String) : String :=
  String.ofList (Digest.base64 (Digest.sha1 (Bytes.ofText key ++ Bytes.ofText keySuffix)))

/-- The answer that completes the upgrade for a key. -/
def switchingProtocols (key : String) : String :=
  "HTTP/1.1 101 Switching Protocols\r\n" ++
  "Upgrade: websocket\r\n" ++
  "Connection: Upgrade\r\n" ++
  "Sec-WebSocket-Accept: " ++ acceptKey key ++ "\r\n" ++
  "\r\n"

/-- The answer to anything that is not a `GET`. -/
def notImplemented : Bytes :=
  Bytes.ofText "HTTP/1.1 501 Not Implemented\r\nServer: CogServer\r\n\r\n"

end NetShell.WebSocket
