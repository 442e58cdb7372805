/-!
# Digits

The values of digits, and of sequences of digits in a base of at most sixteen.  The digits above
nine are the letters from A to F in either case.
-/

namespace Backtracking

namespace Digits

def isOctal (character : Char) : Bool := '0' ≤ character && character ≤ '7'

def isHex (character : Char) : Bool :=
  character.isDigit || ('a' ≤ character && character ≤ 'f') ||
    ('A' ≤ character && character ≤ 'F')

/-- The value of a hexadecimal digit. -/
def value (digit : Char) : Nat :=
  if digit.isDigit then digit.toNat - '0'.toNat else digit.toLower.toNat - 'a'.toNat + 10

def value? (base : Nat) (digit : Char) : Option Nat :=
  if isHex digit && value digit < base then some (value digit) else none

/-- The number that digits spell in a base. -/
def number (base : Nat) (digits : List Char) : Nat :=
  digits.foldl (fun number digit => base * number + value digit) 0

end Digits

end Backtracking
