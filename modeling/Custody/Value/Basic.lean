import Custody.Handle.Basic
import Custody.Text.Quoted

/-!
# Managed values

A managed value is plain data, a label whose destruction is announced, or a record that holds
handles. Values are made from a `Datum`, the little that the session language can write;
whatever does not fit the type counts as zero or as the empty text.

A part of a value is reached by a path of fields; `Value.part?` reads it.
-/

namespace Custody

/-- What a value can be made from. -/
inductive Datum
  | number (value : Nat)
  | text (value : String)
  /-- The members of a record. -/
  | members (left right : String) (n m : Nat)
  | nothing
  deriving DecidableEq, Inhabited

namespace Datum

/-- The number that a datum is, or zero. -/
def toNumber : Datum → Nat
  | number value => value
  | _ => 0

/-- The text that a datum is, or the empty text. -/
def toText : Datum → String
  | text value => value
  | _ => ""

end Datum

/-- A managed value. -/
inductive Value
  | num (value : Nat)
  | text (value : String)
  | tracked (label : String)
  | unit
  | pair (left right : String) (n m : Nat)
  | big (value : Nat)
  | wide (value : Nat)
  | node (label : String) (next back : Handle)
  | bundle (label : String) (held : List Handle)
  | tag (value : Nat)
  | mark (label : String)
  | bytes (layout : Layout)
  | record (typeName : String)
  deriving DecidableEq, Inhabited

/-- The message of the panic that a destructor with a label ends in, if it does: labels that
start with an exclamation mark do, and numbers from a thousand on. -/
def Label.panicMessage? : Label → Option String
  | .text value => if value.front = '!' then some ("drop of " ++ value) else none
  | .number value => if 1000 ≤ value then some ("drop of tag " ++ toString value) else none

namespace Value

/-- The type of a value. -/
def kind : Value → Kind
  | num _ => .num
  | text _ => .text
  | tracked _ => .tracked
  | unit => .unit
  | pair .. => .pair
  | big _ => .big
  | wide _ => .wide
  | node .. => .node
  | bundle .. => .bundle
  | tag _ => .tag
  | mark _ => .mark
  | bytes l => .bytes l
  | record typeName => .record typeName

/-- The empty neighbour of a node. -/
def noNext : Handle := .empty (.block .strong) .node

/-- The empty observed neighbour of a node. -/
def noBack : Handle := .empty .weak .node

/-- The value of a type made from a datum. -/
def make (k : Kind) (d : Datum) : Value :=
  match k with
  | .num => num (d.toNumber % 4294967296)
  | .text => text d.toText
  | .tracked => tracked d.toText
  | .unit => unit
  | .pair =>
    match d with
    | .members left right n m => pair left right (n % 4294967296) (m % 4294967296)
    | _ => pair "" "" 0 0
  | .big => big (d.toNumber % 256)
  | .wide => wide d.toNumber
  | .node => node d.toText noNext noBack
  | .bundle => bundle d.toText []
  | .tag => tag (d.toNumber % 4294967296)
  | .mark => mark d.toText
  | .bytes l => bytes l
  | .record typeName => record typeName

/-- The value that stands for nothing in a type. -/
def ofNothing (k : Kind) : Value := make k .nothing

@[simp] theorem kind_make (k : Kind) (d : Datum) : (make k d).kind = k := by
  cases k
  case pair => cases d <;> rfl
  all_goals rfl

/-- The value after it was set to a datum. Text is appended to, of a record only the first
number is replaced, and of a label the label. -/
def setTo (d : Datum) : Value → Value
  | num _ => num (d.toNumber % 4294967296)
  | text value => text (value ++ d.toText)
  | tracked _ => tracked d.toText
  | pair left right _ m => pair left right (d.toNumber % 4294967296) m
  | big _ => big (d.toNumber % 256)
  | wide _ => wide d.toNumber
  | node _ next back => node d.toText next back
  | bundle _ held => bundle d.toText held
  | other => other

/-- A value keeps its type when it is set. -/
@[simp] theorem kind_setTo (d : Datum) (v : Value) : (v.setTo d).kind = v.kind := by
  cases v <;> rfl

/-- The value of a field. -/
def field? : Value → Field → Option Value
  | pair .., .head => some unit
  | pair left .., .left => some (tracked left)
  | pair _ right .., .right => some (tracked right)
  | pair _ _ n _, .n => some (num n)
  | pair _ _ _ m, .m => some (num m)
  | pair .., .tail => some unit
  | tracked label, .label => some (text label)
  | _, _ => none

/-- The value after one of its fields was replaced by a value of the field's type. -/
def setField : Value → Field → Value → Value
  | pair _ right n m, .left, tracked left => pair left right n m
  | pair left _ n m, .right, tracked right => pair left right n m
  | pair left right _ m, .n, num n => pair left right n m
  | pair left right n _, .m, num m => pair left right n m
  | tracked _, .label, text label => tracked label
  | other, _, _ => other

/-- The part of a value that a path leads to. -/
def part? (v : Value) : List Field → Option Value
  | [] => some v
  | f :: path => (v.field? f).bind (part? · path)

/-- The value after the part that a path leads to was changed. -/
def changePart (change : Value → Value) (v : Value) : List Field → Value
  | [] => change v
  | f :: path =>
    match v.field? f with
    | some part => v.setField f (changePart change part path)
    | none => v

/-- The field of a value has the type of the field. -/
theorem field?_kind {v part : Value} {f : Field} (h : v.field? f = some part) :
    ∃ offset, v.kind.field? f = some (part.kind, offset) := by
  unfold field? at h
  split at h <;> cases h <;> exact ⟨_, rfl⟩

/-- How a value is shown when it is inspected. -/
def shown : Value → String
  | num value => "Num(" ++ toString value ++ ")"
  | text value => "Text(" ++ Text.quoted value ++ ")"
  | tracked label => "Tracked \x7b label: Text(" ++ Text.quoted label ++ ") \x7d"
  | unit => "Unit"
  | pair .. => "Pair"
  | big value => "Big(" ++ toString value ++ ")"
  | wide value => "Wide(" ++ toString value ++ ")"
  | node label .. => "Node(" ++ label ++ ")"
  | bundle label _ => "Bundle(" ++ label ++ ")"
  | tag value => "Tag(" ++ toString value ++ ")"
  | mark label => "Mark(" ++ label ++ ")"
  | bytes _ => "Bytes"
  | record typeName => typeName

/-- The label of a node or a bundle. -/
def nodeLabel? : Value → Option String
  | node label .. => some label
  | bundle label _ => some label
  | _ => none

end Value

end Custody
