import NetShell.Text.Numeral

/-! Why a peer of the WebSocket side is cut off. -/
namespace NetShell.WebSocket

inductive Violation
  | unmaskedFrame
  /-- the announced length is past the bound -/
  | oversizedFrame (length : Nat)
  /-- a frame type that is not served: binary, continuation or reserved -/
  | unsupportedOpcode (code : Nat)
  | malformedRequestLine
  /-- the request did not ask to be upgraded -/
  | missingUpgrade
  deriving DecidableEq, Repr

def Violation.text : Violation → String
  | unmaskedFrame => "websocket frame from client is not masked"
  | oversizedFrame length =>
    "websocket frame length " ++ Text.decimal length ++ " exceeds sanity bound"
  | unsupportedOpcode code => "unsupported websocket opcode " ++ Text.hexadecimal code
  | malformedRequestLine => "malformed HTTP request line"
  | missingUpgrade => "request did not ask for a websocket upgrade"

end NetShell.WebSocket
