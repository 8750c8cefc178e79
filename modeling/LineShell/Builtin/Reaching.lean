import LineShell.Builtin.Basic
/-!
# Reaching — `ping`

A host is reached by opening connections to it, four times; the times that took are reported one by one and
summed up.  A connection that cannot be opened in the time allowed counts as lost, any other fault ends the run.
-/
namespace LineShell

/-- A span of time in nanoseconds, shown in the largest unit it fills, with the decimals it needs. -/
def spanText (nanoseconds : Nat) : String :=
  let decimals (value digits : Nat) : String :=
    let text := (toString (Nat.pow 10 digits + value)).toList.tail
    let kept := (text.reverse.dropWhile (· == '0')).reverse
    if kept.isEmpty then "" else "." ++ String.ofList kept
  let shown (unit digits : Nat) (name : String) : String :=
    toString (nanoseconds / unit) ++ decimals (nanoseconds % unit) digits ++ name
  if 1000000000 ≤ nanoseconds then shown 1000000000 9 "s"
  else if 1000000 ≤ nanoseconds then shown 1000000 6 "ms"
  else if 1000 ≤ nanoseconds then shown 1000 3 "µs"
  else toString nanoseconds ++ "ns"

namespace Ping

def repetitions : Nat := 4

def defaultPort : Nat := 80

/-- A number of at most 65535 in decimal digits, perhaps behind a plus sign. -/
def readPort (text : List Char) : Option Nat :=
  let digits := match text with
    | '+' :: rest => rest
    | text => text
  if digits.isEmpty || !digits.all Char.isDigit then none
  else
    let n := digits.foldl (fun n c => n * 10 + (c.toNat - 0x30)) 0
    if n < 65536 then some n else none

/-- The host and the port of a target; what follows the last colon is part of the host when it is no port. -/
def hostAndPort (target : String) : String × Nat :=
  let reversed := target.toList.reverse
  if reversed.contains ':' then
    match readPort (reversed.takeWhile (· != ':')).reverse with
    | some port => (String.ofList (reversed.dropWhile (· != ':')).tail.reverse, port)
    | none => (target, defaultPort)
  else (target, defaultPort)

def unreachable (reason : String) : Failure :=
  .other (reason ++ ", possible reasons are Internet connectivity problem or host unreachability")

def renderEndpoint (e : Endpoint) : String := e.address ++ ":" ++ toString e.port

def attempts (target : Endpoint) : (count : Nat) → Action (List Nat)
  | 0 => pure []
  | count + 1 => do
    Action.check
    let reply ← (Action.request (.connect target) : Action (Except Fault Nat))
    match reply with
    | .ok time => do
      Action.print ("Reply from " ++ renderEndpoint target ++ ": time = " ++ spanText time ++ "\n")
      let times ← attempts target count
      pure (time :: times)
    | .error .timedOut => do
      Action.print "Request timed out.\n"
      attempts target count
    | .error f => Action.fail (unreachable f.message)

def summarize (target : Endpoint) (times : List Nat) : Action Unit := do
  let received := times.length
  let lost := repetitions - received
  Action.print ("Ping statistics for " ++ renderEndpoint target ++ ":\n    Packets: Sent = " ++ toString repetitions ++
    ", Received = " ++ toString received ++ ", Lost = " ++ toString lost ++ " (" ++
    toString (lost * 100 / repetitions) ++ "% loss)\n")
  match times with
  | [] => pure ()
  | first :: rest =>
    let least := rest.foldl min first
    let most := rest.foldl max first
    Action.print ("Approximate round trip times:\n    Minimum = " ++ spanText least ++ ", Maximum = " ++
      spanText most ++ ", Average = " ++ spanText (times.foldl (· + ·) 0 / received) ++ "\n")

def reach (host : String) (port : Nat) : Action Unit := do
  Action.print ("Pinging " ++ host)
  let reply ← (Action.request (.resolve host) : Action (Except Fault (List String)))
  match reply with
  | .ok (address :: _) => do
    let target : Endpoint := ⟨address, port⟩
    Action.print (" [" ++ renderEndpoint target ++ "]\n")
    let times ← attempts target repetitions
    summarize target times
  | .ok [] => do
    Action.print "\n"
    Action.fail (unreachable ("no address for " ++ host))
  | .error f => do
    Action.print "\n"
    Action.fail (unreachable ("cannot resolve " ++ host ++ ": " ++ f.message))

def run : (targets : List String) → Action Unit
  | [target] => let (host, port) := hostAndPort target; reach host port
  | _ => Action.fail (.other "One argument is needed")

def usage : Usage where
  positionals := [("target", .greedy)]
  help := "Usage: ping [target...]\n\nMeasure TCP connect round trips to a host.\n\nOptions:\n" ++
    "  --help, help      display usage information\n"

def builtin : Builtin where
  name := "ping"
  usage := usage
  run _ operands := run (operands.wordsOf "target")

end Ping
end LineShell
