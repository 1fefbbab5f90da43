import NetShell.Bytes
import NetShell.Fault

/-! Where a server listens: an IPv4 address and a port.

A host is written as one number to four, with dots between them: all but the last are
bytes, and the last fills what is left of the address. Names of hosts are not looked
up. -/
namespace NetShell

/-- An IPv4 address, as its four bytes, and a port. -/
structure Address where
  host : List UInt8
  port : Nat
  deriving DecidableEq, Repr

namespace Address

/-- The text of an address. -/
def text (a : Address) : String :=
  String.intercalate "." (a.host.map fun b => Text.decimal b.toNat) ++ ":" ++ Text.decimal a.port

/-! ### Reading -/

/-- A text without a colon is no address. -/
def malformed : Fault := .described .invalidInput "invalid socket address"

/-- The fault of a port that is not a number of 16 bits. -/
def badPort : Fault := .described .invalidInput "invalid port value"

/-- The fault of a host that is not written in numbers. -/
def unknownHost : Fault :=
  .described .other "failed to lookup address information: Name or service not known"

/-- A number of a host: hexadecimal behind `0x`, octal behind another zero, or decimal. -/
def number? : List Char → Option Nat
  | '0' :: 'x' :: digits | '0' :: 'X' :: digits => Text.numberOf? 16 digits
  | '0' :: digits => if digits.isEmpty then some 0 else Text.numberOf? 8 digits
  | digits => Text.numberOf? 10 digits

/-- The bytes of a host that is written as one number to four. -/
def host? (text : String) : Option (List UInt8) := do
  let parts ← (text.splitOn ".").mapM fun part => number? part.toList
  let last ← parts.getLast?
  let left := 5 - parts.length
  if parts.length ≤ 4 ∧ parts.dropLast.all (· < 256) ∧ last < Bytes.capacity left then
    some (parts.dropLast.map UInt8.ofNat ++ Bytes.ofNat left last)
  else none

/-- The address that a text spells: a host, a colon and a port. The last colon counts,
and the port is looked at first. -/
def parse (text : String) : Except Fault Address :=
  let backward := text.toList.reverse
  let port := (backward.takeWhile (· != ':')).reverse
  match backward.drop port.length with
  | [] => .error malformed
  | _ :: host =>
    match Text.unsigned? 0x10000 (String.ofList port) with
    | none => .error badPort
    | some port =>
      match host? (String.ofList host.reverse) with
      | none => .error unknownHost
      | some host => .ok { host, port }

/-- An address with port zero gets a port from the system. -/
def bound (a : Address) (chosen : Nat) : Address :=
  if a.port = 0 then { a with port := chosen } else a

/-- The address of any interface. -/
def anyHost : List UInt8 := [0, 0, 0, 0]

/-- Whether a host is this one whatever networks it is connected to. -/
def isLocal (a : Address) : Bool := a.host == anyHost || a.host.head? == some 127

/-- Whether two listeners cannot have both addresses. -/
def clashes (a b : Address) : Bool :=
  a.port != 0 && a.port == b.port && (a.host == b.host || a.host == anyHost || b.host == anyHost)

end Address
end NetShell
