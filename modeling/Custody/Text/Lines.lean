/-!
# Lines

A line ends where a line feed stands, and a carriage return in front of the line feed belongs to
the end of the line. A carriage return anywhere else is a character like any other.
-/

namespace Custody.Text

/-- A line without the carriage return that it may end in. -/
def withoutReturn (line : List Char) : List Char :=
  if line.getLast? = some '\r' then line.dropLast else line

/-- The lines of a text that a line feed follows. -/
def lines (text : String) : List String :=
  (text.splitOn "\n").map fun line => String.ofList (withoutReturn line.toList)

end Custody.Text
