/-!
# Places in source files

A place in a source file is written as the name of the file, a line and a column with colons
between them. The name has an extension that tells source files from others, and no blanks. A
text mentions a place where ` at ` stands before it, and `withoutPlaces` leaves the mentions out.
-/

namespace Custody.Text.SourcePlace

/-- What follows a number that a text begins with. -/
def afterNumber? (text : List Char) : Option (List Char) :=
  if text.head?.any Char.isDigit then some (text.dropWhile Char.isDigit) else none

/-- What follows a colon and a number that a text begins with. -/
def afterColonNumber? : List Char → Option (List Char)
  | ':' :: rest => afterNumber? rest
  | _ => none

/-- What follows a place that a text begins with. -/
def afterPlace? (extension : List Char) : List Char → Option (List Char)
  | [] => none
  | c :: rest =>
    if c.isWhitespace then none
    else
      match ((extension.isPrefixOf? rest).bind afterColonNumber?).bind afterColonNumber? with
      | some behind => some behind
      | none => afterPlace? extension rest

/-- How long the mention of a place is that a text begins with; zero if it begins with none. -/
def mentionLength (extension text : List Char) : Nat :=
  match (" at ".toList.isPrefixOf? text).bind (afterPlace? extension) with
  | some behind => text.length - behind.length
  | none => 0

/-- A text without its first characters and without the mentions of places behind them. -/
def cut (extension : List Char) : Nat → List Char → List Char
  | _, [] => []
  | skip + 1, _ :: rest => cut extension skip rest
  | 0, c :: rest =>
    match mentionLength extension (c :: rest) with
    | 0 => c :: cut extension 0 rest
    | more + 1 => cut extension more rest

end SourcePlace

/-- A text without the mentions of places in source files with a given extension. -/
def withoutPlaces (extension text : String) : String :=
  String.ofList (SourcePlace.cut extension.toList 0 text.toList)

end Custody.Text
