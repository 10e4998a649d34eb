import Custody.Log.Entry
import Custody.Text.Hex

/-!
# Log entries as JSON

One object on one line: the members `timestamp` and `level`, then `target` and `thread` when
they are known, then `message`, then `fields` when there are any, as an object of their own in
the order in which they were added. Inside a string the quotation mark and the backslash are
escaped, line feed, carriage return and tab have their short escapes, and every other control
character (U+0000 to U+001F and U+007F to U+009F) is written as `\u` and four digits. So no
control character ever stands in a line, whatever an entry holds.
-/

namespace Custody.Log

/-- Whether a character is a control character, of either control block. -/
def isControl (c : Char) : Bool :=
  c.toNat < 0x20 || (0x7F ≤ c.toNat && c.toNat < 0xA0)

/-- One character as it stands inside a JSON string. -/
def jsonChar (c : Char) : List Char :=
  if c = '"' then ['\\', '"']
  else if c = '\\' then ['\\', '\\']
  else if c = '\n' then ['\\', 'n']
  else if c = '\r' then ['\\', 'r']
  else if c = '\t' then ['\\', 't']
  else if isControl c then '\\' :: 'u' :: Text.Hex.fourDigits c.toNat
  else [c]

/-- The characters of a text as they stand between the quotation marks of a JSON string. -/
def jsonChars (cs : List Char) : List Char := cs.flatMap jsonChar

/-- A text as a JSON string, quotation marks included. -/
def jsonString (text : String) : String :=
  "\"" ++ String.ofList (jsonChars text.toList) ++ "\""

/-- A field value as a JSON value. -/
def FieldValue.json : FieldValue → String
  | text value => jsonString value
  | other => other.plain

namespace Entry

/-- A member with a string value behind a comma, if the value is there. -/
def jsonMember (name : String) : Option String → String
  | none => ""
  | some value => "," ++ jsonString name ++ ":" ++ jsonString value

/-- The member that holds the fields behind a comma, if there are any. -/
def jsonFields : List (String × FieldValue) → String
  | [] => ""
  | fields =>
    ",\"fields\":\x7b" ++ ",".intercalate (fields.map fun f => jsonString f.1 ++ ":" ++ f.2.json)
      ++ "\x7d"

/-- The line for programs. -/
def json (e : Entry) : String :=
  "\x7b\"timestamp\":" ++ toString e.timestamp.toNat ++ ",\"level\":" ++
    jsonString e.level.name ++ jsonMember "target" e.target ++ jsonMember "thread" e.thread ++
    jsonMember "message" (some e.message) ++ jsonFields e.fields ++ "\x7d"

/-- The line in a chosen format. -/
def render (e : Entry) : Format → String
  | .plain => e.plain
  | .json => e.json

end Entry

/-- A character that needs no escape stands for itself. -/
theorem jsonChar_self {c : Char} (quote : c ≠ '"') (backslash : c ≠ '\\')
    (control : isControl c = false) : jsonChar c = [c] := by
  have feed : c ≠ '\n' := by rintro rfl; exact absurd control (by decide)
  have ret : c ≠ '\r' := by rintro rfl; exact absurd control (by decide)
  have tab : c ≠ '\t' := by rintro rfl; exact absurd control (by decide)
  simp [jsonChar, quote, backslash, feed, ret, tab, control]

end Custody.Log
