import Custody.Process.State
import Custody.Text.Lines
import Custody.Text.SourcePlace

/-!
# Standard error, line by line

What a process printed, log entries and the words it may have ended with, as someone reads it
who does not care when it was printed and from where: a sign stands in place of the time that a
log line begins with, and places in source files are not mentioned. A line is all that is looked
at, so a message of several lines may have one that looks like the beginning of an entry, and is
treated as one.
-/

namespace Custody

namespace Process

/-- What a line for programs has in front of the time. -/
def timeMember : List Char := "\x7b\"timestamp\":".toList

/-- A line with a sign in place of what lies between its beginning and a closing character; a
line without that character is left alone. -/
def hideUpTo (close : Char) (sign opening line rest : List Char) : List Char :=
  match rest.dropWhile (· != close) with
  | [] => line
  | behind => opening ++ sign ++ behind

/-- A line with a sign in place of the time that it begins with, if it looks like a log line. -/
def hideTime (sign line : List Char) : List Char :=
  match ['['].isPrefixOf? line, timeMember.isPrefixOf? line with
  | some rest, _ => hideUpTo ']' sign ['['] line rest
  | none, some rest => hideUpTo ',' sign timeMember line rest
  | none, none => line

/-- The texts that were printed, in order: the log entries, and what the process said if it
ended at once. -/
def printedTexts (p : Process) (ending : Option Abort) : List String :=
  p.printed.reverse.map (fun printed => printed.entry.render printed.format) ++
    ending.toList.map Abort.lastWords

/-- The lines that were printed, in order, with a sign in place of the times and without places
in source files, whose names have the given extension. -/
def printedLines (p : Process) (ending : Option Abort) (sign extension : String) : List String :=
  ((p.printedTexts ending).flatMap Text.lines).map fun line =>
    String.ofList (hideTime sign.toList (Text.withoutPlaces extension line).toList)

end Process

end Custody
