import LanguageSession.CommandLine.Usage
import LanguageSession.Journal
import LanguageSession.Log.Files
import LanguageSession.Terminal.Escape

/-!
What comes of a command line: how it ends, what was shown and done on the way, and
what is left in the log files.
-/

namespace LanguageSession

namespace CommandLine

inductive Ending where
  | completed
  /-- Help was asked for. -/
  | helped
  /-- It was shown what failed. -/
  | failed
  | misused (error : UsageError)
  | unreadableFile (path reason : Text)
  /-- An error that nothing holds back. -/
  | raised (fault : Fault)
  deriving DecidableEq, Repr

namespace Ending

def exitCode : Ending → Nat
  | .completed => 0
  | .helped => 0
  | .failed => 1
  | .misused _ => 2
  | .unreadableFile _ _ => 1
  | .raised _ => 1

/-- What is said about an ending that was not announced before. -/
def complaint? : Ending → Option Text
  | .misused error => some (Terminal.bare error.message)
  | .unreadableFile path reason =>
    some (Terminal.bare ("Could not open file " ++ Json.quoted path ++ ": " ++ reason))
  | _ => none

def complaintLine (complaint : Text) : Text := "Error: " ++ complaint

/-- A complaint that cannot be written is an error in the place of the ending. -/
def announced (ending : Ending) : Ending :=
  match ending.complaint?.bind fun complaint =>
      Utf8.findSurrogates (complaintLine complaint) with
  | some run => .raised (.unwritable run)
  | none => ending

end Ending

structure Report where
  ending : Ending
  entries : List Entry := []
  files : Log.Files := {}

namespace Report

/-- The log records of a run, in order. -/
def records (report : Report) : List Log.Record :=
  report.entries.filterMap fun entry =>
    match entry with
    | .logged record => some record
    | _ => none

def logTo (report : Report) (files : Log.Files) (stamp : Log.Stamp) : Report :=
  { report with
    files := report.records.foldl (fun files record => files.write stamp record) files }

end Report

end CommandLine

end LanguageSession
