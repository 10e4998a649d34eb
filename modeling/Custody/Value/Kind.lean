import Custody.Storage.Layout

/-!
# Kinds of values

The types that managed values can have, with the name under which a type is reported, its
layout, and the fields that a handle can be narrowed to. Besides the types of the session
language there are some that make statements about all types possible: `bytes` has any layout
at all, a `bundle` holds any number of handles, and there is a `record` of every name.
-/

namespace Custody

/-- A field of a record. -/
inductive Field
  | head
  | left
  | right
  | n
  | m
  | tail
  | label
  deriving DecidableEq, Inhabited

/-- The name of a field. -/
def Field.name : Field → String
  | head => "head"
  | left => "left"
  | right => "right"
  | n => "n"
  | m => "m"
  | tail => "tail"
  | label => "label"

/-- All fields. -/
def Field.all : List Field := [.head, .left, .right, .n, .m, .tail, .label]

/-- The field of a name. -/
def Field.parse? (text : String) : Option Field := Field.all.find? fun f => f.name == text

/-- The type of a value. -/
inductive Kind
  /-- A 32-bit number. -/
  | num
  | text
  /-- A label whose destruction is announced. -/
  | tracked
  /-- A value of no bytes. -/
  | unit
  /-- A record of two labels and two numbers between two values of no bytes. -/
  | pair
  /-- A number in a thousand bytes. -/
  | big
  /-- A number aligned to sixteen bytes. -/
  | wide
  /-- A label with an owned and an observed neighbour. -/
  | node
  /-- A label with any number of handles. -/
  | bundle
  /-- A number whose destruction is announced. -/
  | tag
  /-- A label of no bytes whose destruction is announced. -/
  | mark
  /-- Bytes without meaning, of any layout. -/
  | bytes (layout : Layout)
  /-- A type of its own for every name, without content. -/
  | record (typeName : String)
  deriving DecidableEq, Inhabited

namespace Kind

/-- The name under which a type is reported. -/
def name : Kind → String
  | num => "driver::values::Num"
  | text => "driver::values::Text"
  | tracked => "driver::values::Tracked"
  | unit => "driver::values::Unit"
  | pair => "driver::values::Pair"
  | big => "driver::values::Big"
  | wide => "driver::values::Wide"
  | node => "driver::values::Node"
  | bundle => "driver::values::Bundle"
  | tag => "driver::values::Tag"
  | mark => "driver::values::Mark"
  | bytes l => "[u8; " ++ toString l.size ++ "] aligned " ++ toString l.align
  | record typeName => typeName

/-- The keywords of the types that a session can name. -/
def keywords : List (String × Kind) :=
  [("num", num), ("text", text), ("tracked", tracked), ("unit", unit), ("pair", pair),
    ("big", big), ("wide", wide), ("node", node)]

/-- The type that a keyword names. -/
def parse? (word : String) : Option Kind :=
  (keywords.find? fun entry => entry.1 == word).map (·.2)

/-- The layout of a value. -/
def layout : Kind → Layout
  | num => .small 4 2
  | text => .small 24 3
  | tracked => .small 24 3
  | unit => .small 0 0
  | pair => .small 56 3
  | big => .small 1024 0
  | wide => .small 16 4
  | node => .small 72 3
  | bundle => .small 48 3
  | tag => .small 4 2
  | mark => .small 0 0
  | bytes l => l
  | record _ => .small 4 2

/-- The type of a field and its offset, if a type has the field. -/
def field? : Kind → Field → Option (Kind × Nat)
  | pair, .head => some (unit, 0)
  | pair, .left => some (tracked, 0)
  | pair, .right => some (tracked, 24)
  | pair, .n => some (num, 48)
  | pair, .m => some (num, 52)
  | pair, .tail => some (unit, 56)
  | tracked, .label => some (text, 0)
  | _, _ => none

/-- The type and the offset of the part that a path of fields leads to. -/
def fieldAt? (k : Kind) : List Field → Option (Kind × Nat)
  | [] => some (k, 0)
  | f :: path => do
    let (part, offset) ← k.field? f
    let (inner, more) ← part.fieldAt? path
    return (inner, offset + more)

/-- A field ends no later than the record it belongs to. -/
theorem field?_fits {k part : Kind} {f : Field} {offset : Nat}
    (h : k.field? f = some (part, offset)) : offset + part.layout.size ≤ k.layout.size := by
  unfold field? at h
  split at h <;> cases h <;> decide

end Kind

end Custody
