import Backtracking.Unicode.CharacterClasses

/-!
# Named classes of characters

The sets behind the shorthands such as `\w` and the classes such as `[:alpha:]`.  With the flag
for Unicode most of them are taken from the properties of Unicode, otherwise from ASCII.
-/

namespace Backtracking

namespace NamedClass

private def digit : List CharRange := [⟨'0', '9'⟩]
private def upper : List CharRange := [⟨'A', 'Z'⟩]
private def lower : List CharRange := [⟨'a', 'z'⟩]
private def space : List CharRange := [⟨'\t', '\r'⟩, .single ' ']
private def word : List CharRange := digit ++ upper ++ [.single '_'] ++ lower

def horizontalSpace : List CharRange :=
  [.single '\t', .single ' ', .single '\xA0', .single '\u1680', .single '\u180E',
    ⟨'\u2000', '\u200A'⟩, .single '\u202F', .single '\u205F', .single '\u3000']

def verticalSpace : List CharRange :=
  [⟨'\n', '\r'⟩, .single '\x85', ⟨'\u2028', '\u2029'⟩]

/-- Whether a letter after a backslash is a shorthand for a set. -/
def isShorthand (letter : Char) : Bool :=
  ['d', 'D', 's', 'S', 'w', 'W', 'h', 'H', 'v', 'V'].contains letter

/-- The ranges of a shorthand.  A capital letter stands for the characters outside them. -/
def shorthand (letter : Char) (unicode : Bool) : List CharRange :=
  match letter.toLower with
  | 'd' => if unicode then Unicode.digits else digit
  | 's' => if unicode then Unicode.spaces else space
  | 'w' => if unicode then Unicode.wordChars else word
  | 'h' => horizontalSpace
  | _ => verticalSpace

/-- Whether a shorthand is one for the characters outside its ranges. -/
def isNegatedShorthand (letter : Char) : Bool := letter.isUpper

open GeneralCategory in
/-- The sets of the class names that depend on Unicode. -/
def unicodePosix? (name : String) : Option (List CharRange) :=
  match name with
  | "alnum" => some (union (letters ++ numbers))
  | "alpha" => some (union letters)
  | "blank" => some (union [.spaceSeparator] ++ [.single '\t'])
  | "cntrl" => some (union [.control])
  | "digit" => some Unicode.digits
  | "graph" => some (union (letters ++ marks ++ numbers ++ punctuation ++ symbols))
  | "lower" => some (union [.lowercaseLetter])
  | "print" =>
      some (union (.spaceSeparator :: letters ++ marks ++ numbers ++ punctuation ++ symbols))
  | "punct" => some (union punctuation)
  | "space" => some Unicode.spaces
  | "upper" => some (union [.uppercaseLetter])
  | "word" => some Unicode.wordChars
  | _ => none

/-- The sets of the class names in ASCII. -/
def asciiPosix? (name : String) : Option (List CharRange) :=
  match name with
  | "alnum" => some (digit ++ upper ++ lower)
  | "alpha" => some (upper ++ lower)
  | "ascii" => some CharRange.ascii
  | "blank" => some [.single '\t', .single ' ']
  | "cntrl" => some [⟨'\x00', '\x1F'⟩, .single '\x7F']
  | "digit" => some digit
  | "graph" => some [⟨'!', '~'⟩]
  | "lower" => some lower
  | "print" => some [⟨' ', '~'⟩]
  | "punct" => some [⟨'!', '/'⟩, ⟨':', '@'⟩, ⟨'[', '\x60'⟩, ⟨'{', '~'⟩]
  | "space" => some space
  | "upper" => some upper
  | "word" => some word
  | "xdigit" => some (digit ++ [⟨'A', 'F'⟩, ⟨'a', 'f'⟩])
  | _ => none

/-- The set of a class name between `[:` and `:]`. -/
def posix? (name : String) (unicode : Bool) : Option (List CharRange) :=
  (if unicode then unicodePosix? name else none).or (asciiPosix? name)

end NamedClass

end Backtracking
