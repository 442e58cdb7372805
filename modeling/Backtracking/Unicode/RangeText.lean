import Backtracking.Chars.Range
import Backtracking.Text.Digits

/-!
# Ranges written as text

Large sets of characters are written as the hexadecimal code points of their ranges, `41-5A 5F`
for the capital letters of ASCII and the underscore.  Blanks and line ends separate the ranges.
-/

namespace Backtracking

namespace CharRange

/-- The range that ends with a code point.  It begins with the code point before a hyphen, if there
was one. -/
def ofCodes? (first? last? : Option Nat) : Option CharRange :=
  last?.map fun last => ⟨Char.ofNat (first?.getD last), Char.ofNat last⟩

/-- The ranges of a text that goes on with some characters, after the code point before a hyphen
and the digits of another code point. -/
def readText (first? last? : Option Nat) : List Char → List CharRange
  | [] => (ofCodes? first? last?).toList
  | '-' :: rest => readText last? none rest
  | character :: rest =>
      if Digits.isHex character then
        readText first? (some (16 * last?.getD 0 + Digits.value character)) rest
      else
        (ofCodes? first? last?).toList ++ readText none none rest

def ofText (text : String) : List CharRange := readText none none text.toList

end CharRange

end Backtracking
