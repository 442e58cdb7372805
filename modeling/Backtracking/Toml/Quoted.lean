import Backtracking.Text.Digits

/-!
# Quoted texts of TOML

A text in double quotes may hold escapes, and a text in single quotes stands for itself.  Three
quotes in a row begin a text of several lines.  Each function reads what comes after the opening
quotes and returns the text that is meant, with what comes after the closing quotes.
-/

namespace Backtracking

namespace Toml

/-- A text that was read and the characters after it. -/
abbrev Quoted := Option (List Char × List Char)

namespace Quoted

/-- The text with more characters in front. -/
def cons (characters : List Char) (quoted : Quoted) : Quoted :=
  quoted.map fun (text, rest) => (characters ++ text, rest)

/-- Whether a character may stand in a text or in a comment as it is. -/
def isPlain (character : Char) : Bool :=
  character == '\t' || (' ' ≤ character && character != '\x7F')

/-- A blank or a tab. -/
def isBlank (character : Char) : Bool := character == ' ' || character == '\t'

def atLineEnd : List Char → Bool
  | '\n' :: _ => true
  | '\r' :: '\n' :: _ => true
  | _ => false

/-- The character that a letter stands for after a backslash. -/
def escaped? : Char → Option Char
  | 'b' => some '\x08'
  | 't' => some '\t'
  | 'n' => some '\n'
  | 'f' => some '\x0C'
  | 'r' => some '\r'
  | '"' => some '"'
  | '\\' => some '\\'
  | _ => none

/-- The character with a hexadecimal code point. -/
def ofCodePoint? (digits : List Char) : Option Char := do
  let code := Digits.number 16 digits
  guard (digits.all Digits.isHex && code.isValidChar)
  return Char.ofNat code

/-- A text in double quotes. -/
def basic : List Char → Quoted
  | [] => none
  | '"' :: rest => some ([], rest)
  | '\\' :: 'u' :: a :: b :: c :: d :: rest => do
      (basic rest).cons [← ofCodePoint? [a, b, c, d]]
  | '\\' :: 'U' :: a :: b :: c :: d :: e :: f :: g :: h :: rest => do
      (basic rest).cons [← ofCodePoint? [a, b, c, d, e, f, g, h]]
  | '\\' :: letter :: rest => do (basic rest).cons [← escaped? letter]
  | character :: rest => if isPlain character then (basic rest).cons [character] else none

/-- A text in single quotes. -/
def literal : List Char → Quoted
  | [] => none
  | '\'' :: rest => some ([], rest)
  | character :: rest => if isPlain character then (literal rest).cons [character] else none

/-- A text of several lines in double quotes.  A backslash at the end of a line takes away all
blanks and line ends up to the next other character; while `skipping`, it does so. -/
def basicLines (skipping : Bool) : List Char → Quoted
  | [] => none
  | '"' :: '"' :: '"' :: '"' :: '"' :: rest => some (['"', '"'], rest)
  | '"' :: '"' :: '"' :: '"' :: rest => some (['"'], rest)
  | '"' :: '"' :: '"' :: rest => some ([], rest)
  | '\r' :: '\n' :: rest => (basicLines skipping rest).cons (if skipping then [] else ['\n'])
  | '\n' :: rest => (basicLines skipping rest).cons (if skipping then [] else ['\n'])
  | '\\' :: 'u' :: a :: b :: c :: d :: rest => do
      (basicLines false rest).cons [← ofCodePoint? [a, b, c, d]]
  | '\\' :: 'U' :: a :: b :: c :: d :: e :: f :: g :: h :: rest => do
      (basicLines false rest).cons [← ofCodePoint? [a, b, c, d, e, f, g, h]]
  | '\\' :: letter :: rest =>
      if atLineEnd ((letter :: rest).dropWhile isBlank) then
        basicLines true rest
      else do
        (basicLines false rest).cons [← escaped? letter]
  | character :: rest =>
      if skipping && isBlank character then basicLines true rest
      else if isPlain character then (basicLines false rest).cons [character]
      else none

/-- A text of several lines in single quotes. -/
def literalLines : List Char → Quoted
  | [] => none
  | '\'' :: '\'' :: '\'' :: '\'' :: '\'' :: rest => some (['\'', '\''], rest)
  | '\'' :: '\'' :: '\'' :: '\'' :: rest => some (['\''], rest)
  | '\'' :: '\'' :: '\'' :: rest => some ([], rest)
  | '\r' :: '\n' :: rest => (literalLines rest).cons ['\n']
  | '\n' :: rest => (literalLines rest).cons ['\n']
  | character :: rest => if isPlain character then (literalLines rest).cons [character] else none

/-- A text without a line end at its beginning. -/
def dropLineEnd : List Char → List Char
  | '\r' :: '\n' :: rest => rest
  | '\n' :: rest => rest
  | text => text

end Quoted

end Toml

end Backtracking
