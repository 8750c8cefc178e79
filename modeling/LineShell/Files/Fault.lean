/-!
# Fault — why an operation on a stream, a file or the network fails

A fault is one of the numbered faults of the operating system, or one that a stream or the encoding of a name
brings about.  `message` gives the text in which it is reported.
-/
namespace LineShell

inductive SystemFault where
  | notFound
  | alreadyExists
  | notDirectory
  | isDirectory
  | invalidArgument
  | busy
  | brokenPipe
  | nameTooLong
  | notEmpty
  | tooManyLinks
  | networkUnreachable
  | connectionRefused
  deriving DecidableEq, Repr

namespace SystemFault

def number : SystemFault → Nat
  | notFound => 2
  | busy => 16
  | alreadyExists => 17
  | notDirectory => 20
  | isDirectory => 21
  | invalidArgument => 22
  | brokenPipe => 32
  | nameTooLong => 36
  | notEmpty => 39
  | tooManyLinks => 40
  | networkUnreachable => 101
  | connectionRefused => 111

def text : SystemFault → String
  | notFound => "No such file or directory"
  | busy => "Device or resource busy"
  | alreadyExists => "File exists"
  | notDirectory => "Not a directory"
  | isDirectory => "Is a directory"
  | invalidArgument => "Invalid argument"
  | brokenPipe => "Broken pipe"
  | nameTooLong => "File name too long"
  | notEmpty => "Directory not empty"
  | tooManyLinks => "Too many levels of symbolic links"
  | networkUnreachable => "Network is unreachable"
  | connectionRefused => "Connection refused"

end SystemFault

inductive Fault where
  | system (fault : SystemFault)
  /-- A name holds a character that ends names. -/
  | nulInName
  /-- The operation was cut short and may be tried again. -/
  | interrupted
  /-- A stream takes no more bytes. -/
  | writeZero
  /-- The time allowed has passed. -/
  | timedOut
  /-- A fault that a stream words itself. -/
  | worded (text : String)
  deriving DecidableEq, Repr

namespace Fault

def message : Fault → String
  | system f => f.text ++ " (os error " ++ toString f.number ++ ")"
  | nulInName => "file name contained an unexpected NUL byte"
  | interrupted => "operation interrupted"
  | writeZero => "failed to write whole buffer"
  | timedOut => "connection timed out"
  | worded text => text

def isNotFound (f : Fault) : Bool := f == system .notFound

end Fault
end LineShell
