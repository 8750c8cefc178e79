import LineShell.Command.Program
/-!
# Network — what can be reached

A network knows the addresses of some hosts and who listens; from an isolated one nothing can be reached.  Hosts
written as four numbers are their own addresses.
-/
namespace LineShell

structure Network where
  /-- Whether every connection fails for want of a way out. -/
  isolated : Bool := false
  /-- The addresses of hosts by name. -/
  hosts : List (String × String) := []
  listeners : List Endpoint := []
  deriving DecidableEq, Repr, Inhabited

namespace Network

/-- A number of at most 255 in decimal digits, without zeros in front. -/
def isOctet (digits : List Char) : Bool :=
  !digits.isEmpty && digits.length ≤ 3 && digits.all Char.isDigit &&
    (digits.length == 1 || digits.head? != some '0') &&
    digits.foldl (fun n c => n * 10 + (c.toNat - 0x30)) 0 < 256

def isAddress (host : String) : Bool :=
  let parts := host.toList.foldr (fun c (current, rest) =>
    if c = '.' then ([], current :: rest) else (c :: current, rest)) (([], []) : List Char × List (List Char))
  let parts := parts.1 :: parts.2
  parts.length == 4 && parts.all isOctet

def resolve (n : Network) (host : String) : Except Fault (List String) :=
  if host.toList.contains (Char.ofNat 0) then .error .nulInName
  else if isAddress host then .ok [host]
  else
    match (n.hosts.filter (fun h => h.1 == host)).map Prod.snd with
    | [] => .error (.worded "failed to lookup address information: Name or service not known")
    | addresses => .ok addresses

/-- Opens a connection; the reply is the time that took. -/
def connect (n : Network) (target : Endpoint) : Except Fault Nat :=
  if n.isolated then .error (.system .networkUnreachable)
  else if n.listeners.contains target then .ok 0
  else .error (.system .connectionRefused)

end Network
end LineShell
