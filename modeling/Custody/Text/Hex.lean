/-!
# Hexadecimal text

Lower-case hexadecimal digits, without leading zeros or padded to four places. Addresses and
escaped characters are written with them.
-/

namespace Custody.Text.Hex

/-- The shortest lower-case hexadecimal digits of a number. -/
def digits (n : Nat) : List Char := Nat.toDigits 16 n

/-- Four lower-case hexadecimal digits, the last four of the number. -/
def fourDigits (n : Nat) : List Char :=
  [Nat.digitChar (n / 4096 % 16), Nat.digitChar (n / 256 % 16),
    Nat.digitChar (n / 16 % 16), Nat.digitChar (n % 16)]

end Custody.Text.Hex
