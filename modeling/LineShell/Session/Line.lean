import LineShell.CommandLine.Reading
import LineShell.Session.Schedule
import LineShell.Text.Quoted
/-!
# Line — running a line and reporting on it

A line is read and its clauses are run.  What is then shown depends on the statuses alone: a line that cannot be
read has its one message and runs nothing; a lone exit keyword ends the session with an empty line, after the
farewell if it is the keyword that says it; otherwise every unknown command and every error has its entry.  A report
is a row of pieces, each written by itself, so showing it can fail half way without touching the session.
-/
namespace LineShell

inductive LineOutcome where
  | goOn
  | exit
  deriving DecidableEq, Repr

/-- What is shown after a line, in the pieces in which it is written. -/
structure LineReport where
  pieces : List String := []
  /-- Whether the writer is flushed at the end. -/
  flushes : Bool := false
  outcome : LineOutcome := .goOn
  deriving DecidableEq, Repr

namespace LineError

def pieces : LineError → List String
  | emptyClause segment => ["Error when parsing command "] ++ Quoted.parts segment.toList ++ [": empty command"]

def message (e : LineError) : String := String.join e.pieces

theorem message_emptyClause (segment : String) : (emptyClause segment).message =
    "Error when parsing command " ++ "\"" ++ String.ofList (segment.toList.flatMap Quoted.escape) ++ "\"" ++
      ": empty command" := by
  have hjoin : (emptyClause segment).message =
      "Error when parsing command " ++ Quoted.render segment.toList ++ ": empty command" := by
    simp [message, pieces, Quoted.render, String.append_assoc]
  rw [hjoin, Quoted.render_eq]
  simp only [String.append_assoc]

end LineError

namespace LineReport

def entry (s : Status) : List String :=
  match s.code, s.error with
  | .unknownCommand, _ => ["No command with name: ", s.command, "\n"]
  | .interrupted, _ => []
  | _, some e => [e, "\n"]
  | _, none => []

def ofError (e : LineError) : LineReport where
  pieces := e.pieces ++ ["\n"]

/-- The report on statuses, of which a lone exit keyword ends the session. -/
def ofStatuses (farewell : String) (statuses : List Status) : LineReport :=
  if exitRequested statuses then
    let words := if (statuses.head?.map Status.command) = some farewell then [farewell, "\n"] else []
    { pieces := words ++ ["\n"], outcome := .exit }
  else { pieces := statuses.flatMap entry, flushes := true }

def text (r : LineReport) : String := String.join r.pieces

theorem text_ofError (e : LineError) : (ofError e).text = e.message ++ "\n" := by
  simp [text, ofError, LineError.message]

def writePieces : List String → Writer → Except Fault Unit × Writer
  | [], w => (.ok (), w)
  | piece :: pieces, w =>
    match w.writeAll (Bytes.ofString piece) with
    | (.ok (), w) => writePieces pieces w
    | (.error f, w) => (.error f, w)

/-- Shows a report; what comes after the line is known only if all of it could be written. -/
def deliver (r : LineReport) (w : Writer) : Except Fault LineOutcome × Writer :=
  match writePieces r.pieces w with
  | (.error f, w) => (.error f, w)
  | (.ok (), w) =>
    match if r.flushes then w.flush else .ok () with
    | .ok () => (.ok r.outcome, w)
    | .error f => (.error f, w)

end LineReport

namespace Session

/-- **Runs a line**: the report on it, and the session after it. -/
def runLine (s : Session) (farewell line : String) : LineReport × Session :=
  if isBlankText line.toList then ({}, s)
  else
    match readLine line with
    | .error e => (.ofError e, s)
    | .ok clauses =>
      let (statuses, s) := s.interpret clauses
      (.ofStatuses farewell statuses, s)

end Session
end LineShell
