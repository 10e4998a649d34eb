/-!
# JSON texts

What JSON texts there are and what they denote, by the grammar of RFC 8259, section by section:
blanks, numbers, strings, and values. A part of a text is a list of characters, and a relation
says which value it denotes, so that nothing is said about how it is read.

A number denotes a rational number. A string denotes a text of Unicode characters: an escape of
four digits is a UTF-16 code unit, and two that are a surrogate pair are one character, while a
surrogate without the other denotes nothing. An object denotes its members in the order in which
they stand, and all of them if a name repeats.

A reader conforms if it accepts every JSON text, and finds what the text denotes
(`Json.Conforms`). What it makes of other texts is its own affair.
-/

namespace Custody

/-- A JSON value. -/
inductive Json
  | null
  | bool (value : Bool)
  | number (value : Rat)
  | string (value : String)
  | array (items : List Json)
  /-- The members in order; names may repeat. -/
  | object (members : List (String × Json))

namespace Json

/-! ## Blanks -/

/-- Whether a character may stand between tokens. -/
def isBlank (c : Char) : Bool := c = ' ' || c = '\t' || c = '\n' || c = '\r'

/-- Characters that stand between tokens and mean nothing. -/
def Blank (cs : List Char) : Prop := ∀ c ∈ cs, isBlank c = true

theorem blank_nil : Blank [] := nofun

/-! ## Numbers -/

/-- At least one decimal digit. -/
def Digits (cs : List Char) : Prop := cs ≠ [] ∧ ∀ c ∈ cs, c.isDigit = true

/-- Digits without a zero that leads others. -/
def Whole (cs : List Char) : Prop := Digits cs ∧ (cs.head? = some '0' → cs = ['0'])

/-- A fraction, or none, and its digits. -/
inductive Fraction : List Char → List Char → Prop
  | none : Fraction [] []
  | places {places : List Char} (digits : Digits places) : Fraction ('.' :: places) places

/-- The sign of an exponent, or none. -/
inductive Sign : List Char → Int → Prop
  | none : Sign [] 1
  | plus : Sign ['+'] 1
  | minus : Sign ['-'] (-1)

/-- The number that decimal digits stand for. -/
def decimal (digits : List Char) : Nat := Nat.ofDigitChars 10 digits 0

/-- Whether a letter announces an exponent. -/
def isMark (c : Char) : Bool := c = 'e' || c = 'E'

/-- An exponent, or none. -/
inductive Exponent : List Char → Int → Prop
  | none : Exponent [] 0
  | power {mark : Char} {sign digits : List Char} {factor : Int} (marked : isMark mark = true)
      (signed : Sign sign factor) (counted : Digits digits) :
      Exponent (mark :: (sign ++ digits)) (factor * decimal digits)

/-- The number that digits stand for, of which some are decimal places, times a power of ten. -/
def scaled (digits : List Char) (places : Nat) (power : Int) : Rat :=
  (decimal digits : Rat) * 10 ^ power.toNat / 10 ^ (places + (-power).toNat)

/-- A number without a sign. -/
inductive Magnitude : List Char → Rat → Prop
  | intro {whole fraction places exponent : List Char} {power : Int} (isWhole : Whole whole)
      (isFraction : Fraction fraction places) (isExponent : Exponent exponent power) :
      Magnitude (whole ++ (fraction ++ exponent)) (scaled (whole ++ places) places.length power)

/-- A number. -/
inductive Number : List Char → Rat → Prop
  | plain {cs : List Char} {q : Rat} (magnitude : Magnitude cs q) : Number cs q
  | negative {cs : List Char} {q : Rat} (magnitude : Magnitude cs q) : Number ('-' :: cs) (-q)

/-! ## Strings -/

/-- Whether a character may stand for itself in a string. -/
def isUnescaped (c : Char) : Bool := 0x20 ≤ c.toNat && c ≠ '"' && c ≠ '\\'

/-- The character that a letter behind a backslash stands for. -/
def escaped? : Char → Option Char
  | '"' => some '"'
  | '\\' => some '\\'
  | '/' => some '/'
  | 'b' => some '\x08'
  | 'f' => some '\x0c'
  | 'n' => some '\n'
  | 'r' => some '\r'
  | 't' => some '\t'
  | _ => none

/-- The number that a hexadecimal digit of either case stands for. -/
def hexDigit? (c : Char) : Option Nat :=
  if c.isDigit then some (c.toNat - '0'.toNat)
  else if 'a' ≤ c ∧ c ≤ 'f' then some (c.toNat - 'a'.toNat + 10)
  else if 'A' ≤ c ∧ c ≤ 'F' then some (c.toNat - 'A'.toNat + 10)
  else none

/-- The code unit that four hexadecimal digits stand for. -/
def codeUnit? (a b c d : Char) : Option Nat := do
  return (((← hexDigit? a) * 16 + (← hexDigit? b)) * 16 + (← hexDigit? c)) * 16 + (← hexDigit? d)

/-- Whether a code unit is the first one of a surrogate pair. -/
def isHigh (n : Nat) : Bool := 0xD800 ≤ n && n < 0xDC00

/-- Whether a code unit is the second one of a surrogate pair. -/
def isLow (n : Nat) : Bool := 0xDC00 ≤ n && n < 0xE000

/-- The character that a surrogate pair stands for. -/
def paired (high low : Nat) : Char :=
  Char.ofNat (0x10000 + (high - 0xD800) * 0x400 + (low - 0xDC00))

/-- One character of a string, and the character that it stands for. -/
inductive Letter : List Char → Char → Prop
  | plain {c : Char} (unescaped : isUnescaped c = true) : Letter [c] c
  | escape {letter c : Char} (escaped : escaped? letter = some c) : Letter ['\\', letter] c
  | unit {a b c d : Char} {n : Nat} (unit : codeUnit? a b c d = some n)
      (single : ¬ isHigh n ∧ ¬ isLow n) : Letter ['\\', 'u', a, b, c, d] (Char.ofNat n)
  | pair {a b c d a' b' c' d' : Char} {high low : Nat} (first : codeUnit? a b c d = some high)
      (second : codeUnit? a' b' c' d' = some low) (isHigh : isHigh high = true)
      (isLow : isLow low = true) :
      Letter ['\\', 'u', a, b, c, d, '\\', 'u', a', b', c', d'] (paired high low)

/-- The characters of a string, and the characters that they stand for. -/
inductive Letters : List Char → List Char → Prop
  | nil : Letters [] []
  | cons {cs ds : List Char} {c : Char} {text : List Char} (first : Letter cs c)
      (others : Letters ds text) : Letters (cs ++ ds) (c :: text)

/-- A string. -/
inductive Literal : List Char → String → Prop
  | intro {cs text : List Char} (letters : Letters cs text) :
      Literal ('"' :: (cs ++ ['"'])) (String.ofList text)

/-! ## Values -/

/-- An element of an array, between blanks. -/
structure Element where
  before : List Char
  text : List Char
  after : List Char
  value : Json
  blanks : Blank before ∧ Blank after

/-- How an element is written. -/
def Element.spelled (e : Element) : List Char := e.before ++ (e.text ++ e.after)

/-- A member of an object, between blanks. -/
structure Member where
  before : List Char
  name : List Char
  between : List Char
  element : Element
  key : String
  blanks : Blank before ∧ Blank between
  named : Literal name key

/-- How a member is written. The element behind the colon comes with its own blanks. -/
def Member.spelled (m : Member) : List Char :=
  m.before ++ (m.name ++ (m.between ++ ':' :: m.element.spelled))

/-- The member that is meant. -/
def Member.pair (m : Member) : String × Json := (m.key, m.element.value)

/-- The values that are words. -/
def words : List (List Char × Json) :=
  [(['n', 'u', 'l', 'l'], null), (['t', 'r', 'u', 'e'], bool true),
    (['f', 'a', 'l', 's', 'e'], bool false)]

/-- A text between brackets, of parts with commas between them. -/
def bracketed (opening closing : Char) (parts : List (List Char)) : List Char :=
  opening :: ([','].intercalate parts ++ [closing])

/-- A text without blanks around it denotes a value. -/
inductive Value : List Char → Json → Prop
  | word {cs : List Char} {v : Json} (known : (cs, v) ∈ words) : Value cs v
  | number {cs : List Char} {q : Rat} (number : Number cs q) : Value cs (.number q)
  | string {cs : List Char} {text : String} (literal : Literal cs text) : Value cs (.string text)
  | emptyArray {blanks : List Char} (blank : Blank blanks) :
      Value (bracketed '[' ']' [blanks]) (.array [])
  | array {elements : List Element} (some : elements ≠ [])
      (values : ∀ e ∈ elements, Value e.text e.value) :
      Value (bracketed '[' ']' (elements.map Element.spelled)) (.array (elements.map (·.value)))
  | emptyObject {blanks : List Char} (blank : Blank blanks) :
      Value (bracketed '{' '}' [blanks]) (.object [])
  | object {members : List Member} (some : members ≠ [])
      (values : ∀ m ∈ members, Value m.element.text m.element.value) :
      Value (bracketed '{' '}' (members.map Member.spelled)) (.object (members.map Member.pair))

/-- A text denotes a value. -/
def Denotes (text : String) (v : Json) : Prop :=
  ∃ e : Element, text.toList = e.spelled ∧ Value e.text e.value ∧ e.value = v

theorem Value.denotes {text : String} {v : Json} (value : Value text.toList v) :
    Denotes text v :=
  ⟨⟨[], text.toList, [], v, blank_nil, blank_nil⟩, by simp [Element.spelled], value, rfl⟩

/-- A reader accepts every JSON text, and finds what it denotes. -/
def Conforms (read : String → Option Json) : Prop :=
  ∀ text v, Denotes text v → read text = some v

end Json

end Custody
