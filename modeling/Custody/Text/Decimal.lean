/-!
# Unsigned decimal numbers

Writing a number in decimal is `toString`; reading one back is `Decimal.read?`. A written
number is a non-empty run of the digits `0` to `9`, which one leading `+` may precede; leading
zeros do not matter. `Decimal.readBelow?` also refuses what does not fit a given bound.
-/

namespace Custody.Text.Decimal

/-- The value of a decimal digit. -/
def digit? (c : Char) : Option Nat :=
  if '0' ≤ c ∧ c ≤ '9' then some (c.toNat - '0'.toNat) else none

/-- The value of a run of digits that follows digits worth `seen`, if all of it is digits. -/
def readDigits (seen : Nat) : List Char → Option Nat
  | [] => some seen
  | c :: rest =>
    match digit? c with
    | some d => readDigits (10 * seen + d) rest
    | none => none

/-- The characters after one leading plus sign, if there is one. -/
def dropPlus : List Char → List Char
  | '+' :: rest => rest
  | cs => cs

/-- The number that the characters write, if they write one. -/
def read? (cs : List Char) : Option Nat :=
  match dropPlus cs with
  | [] => none
  | digits => readDigits 0 digits

/-- The number that the characters write, if they write one below `bound`. -/
def readBelow? (bound : Nat) (cs : List Char) : Option Nat :=
  (read? cs).filter (· < bound)

/-- Decimal text padded on the left with zeros to three places. -/
def threePlaces (n : Nat) : String :=
  let text := toString n
  if n < 10 then "00" ++ text else if n < 100 then "0" ++ text else text

theorem readBelow?_lt {bound n : Nat} {cs : List Char} (h : readBelow? bound cs = some n) :
    n < bound := by
  simpa using (Option.filter_eq_some_iff.1 h).2

end Custody.Text.Decimal
