import NetShell.Text.Numeral

/-! Faults of reading, writing and tearing down a connection.

A fault has a kind, a description of its own, or the number a system call failed
with. The kind decides how it is taken: an interrupted call is tried again, a fault
of the *teardown* class means that the connection has gone away, and anything else
is worth a log line. -/
namespace NetShell

/-- What went wrong, as far as it matters how it is taken. -/
inductive Fault.Kind
  | notFound
  | permissionDenied
  | connectionRefused
  | connectionReset
  | hostUnreachable
  | networkUnreachable
  | connectionAborted
  | notConnected
  | addressInUse
  | addressNotAvailable
  | networkDown
  | brokenPipe
  | alreadyExists
  | wouldBlock
  | invalidInput
  | invalidData
  | timedOut
  | writeZero
  | interrupted
  | unsupported
  | unexpectedEnd
  | outOfMemory
  | other
  deriving DecidableEq, Repr

/-- A failed operation. -/
inductive Fault
  /-- only the kind is known -/
  | plain (kind : Fault.Kind)
  /-- a kind with a description of its own -/
  | described (kind : Fault.Kind) (text : String)
  /-- the number a system call failed with -/
  | system (number : Int)
  deriving DecidableEq, Repr

namespace Fault

/-! ### Texts -/

/-- The text of a fault of which only the kind is known. -/
def Kind.text : Kind → String
  | notFound => "entity not found"
  | permissionDenied => "permission denied"
  | connectionRefused => "connection refused"
  | connectionReset => "connection reset"
  | hostUnreachable => "host unreachable"
  | networkUnreachable => "network unreachable"
  | connectionAborted => "connection aborted"
  | notConnected => "not connected"
  | addressInUse => "address in use"
  | addressNotAvailable => "address not available"
  | networkDown => "network down"
  | brokenPipe => "broken pipe"
  | alreadyExists => "entity already exists"
  | wouldBlock => "operation would block"
  | invalidInput => "invalid input parameter"
  | invalidData => "invalid data"
  | timedOut => "timed out"
  | writeZero => "write zero"
  | interrupted => "operation interrupted"
  | unsupported => "unsupported"
  | unexpectedEnd => "unexpected end of file"
  | outOfMemory => "out of memory"
  | other => "other error"

/-- The system's description of an error number. -/
def describe (number : Int) : String :=
  match number with
  | 0 => "Success"
  | 1 => "Operation not permitted"
  | 2 => "No such file or directory"
  | 3 => "No such process"
  | 4 => "Interrupted system call"
  | 5 => "Input/output error"
  | 6 => "No such device or address"
  | 7 => "Argument list too long"
  | 8 => "Exec format error"
  | 9 => "Bad file descriptor"
  | 10 => "No child processes"
  | 11 => "Resource temporarily unavailable"
  | 12 => "Cannot allocate memory"
  | 13 => "Permission denied"
  | 14 => "Bad address"
  | 15 => "Block device required"
  | 16 => "Device or resource busy"
  | 17 => "File exists"
  | 18 => "Invalid cross-device link"
  | 19 => "No such device"
  | 20 => "Not a directory"
  | 21 => "Is a directory"
  | 22 => "Invalid argument"
  | 23 => "Too many open files in system"
  | 24 => "Too many open files"
  | 25 => "Inappropriate ioctl for device"
  | 26 => "Text file busy"
  | 27 => "File too large"
  | 28 => "No space left on device"
  | 29 => "Illegal seek"
  | 30 => "Read-only file system"
  | 31 => "Too many links"
  | 32 => "Broken pipe"
  | 33 => "Numerical argument out of domain"
  | 34 => "Numerical result out of range"
  | 88 => "Socket operation on non-socket"
  | 89 => "Destination address required"
  | 90 => "Message too long"
  | 91 => "Protocol wrong type for socket"
  | 92 => "Protocol not available"
  | 93 => "Protocol not supported"
  | 94 => "Socket type not supported"
  | 95 => "Operation not supported"
  | 96 => "Protocol family not supported"
  | 97 => "Address family not supported by protocol"
  | 98 => "Address already in use"
  | 99 => "Cannot assign requested address"
  | 100 => "Network is down"
  | 101 => "Network is unreachable"
  | 102 => "Network dropped connection on reset"
  | 103 => "Software caused connection abort"
  | 104 => "Connection reset by peer"
  | 105 => "No buffer space available"
  | 106 => "Transport endpoint is already connected"
  | 107 => "Transport endpoint is not connected"
  | 108 => "Cannot send after transport endpoint shutdown"
  | 109 => "Too many references: cannot splice"
  | 110 => "Connection timed out"
  | 111 => "Connection refused"
  | 112 => "Host is down"
  | 113 => "No route to host"
  | n => "Unknown error " ++ signed n
where
  signed : Int → String
    | .ofNat n => Text.decimal n
    | .negSucc n => "-" ++ Text.decimal (n + 1)

/-- The text of a fault. -/
def text : Fault → String
  | plain kind => kind.text
  | described _ text => text
  | system number => describe number ++ " (os error " ++ describe.signed number ++ ")"

/-! ### How a fault is taken -/

/-- The kind of an error number, where it matters how it is taken. -/
def kindOf? (number : Int) : Option Kind :=
  match number with
  | 4 => some .interrupted
  | 32 => some .brokenPipe
  | 98 => some .addressInUse
  | 99 => some .addressNotAvailable
  | 103 => some .connectionAborted
  | 104 => some .connectionReset
  | 107 => some .notConnected
  | _ => none

def kind? : Fault → Option Kind
  | plain kind => some kind
  | described kind _ => some kind
  | system number => kindOf? number

/-- The fault of a descriptor that has been closed. -/
def closed : Fault := system 9

/-- The fault of writing to a stream whose other end reads no more. -/
def broken : Fault := system 32

/-- An interrupted call, to be tried again. -/
def isInterrupted (f : Fault) : Bool := f.kind? == some .interrupted

/-- Whether a fault is expected while a connection is torn down: the peer or this side
has ended it, or its descriptor is closed. -/
def isTeardown (f : Fault) : Bool :=
  match f.kind? with
  | some .unexpectedEnd | some .connectionReset | some .connectionAborted | some .notConnected
  | some .brokenPipe => true
  | _ => f == closed

end Fault
end NetShell
