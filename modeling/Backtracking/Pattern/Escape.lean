import Backtracking.Pattern.Cursor
import Backtracking.Pattern.NamedClass
import Backtracking.Unicode.PropertyName

/-!
# Escapes

The escapes that have the same meaning within and outside brackets: those for one character, the
shorthands for sets and the properties.  Every reading starts after the backslash, or after the
letter that follows it; `start` is the position of the backslash.
-/

namespace Backtracking

namespace Escape

open Reading

/-- The digits and the closing brace of a code point that is written between braces. -/
def readBracedCode (base : Nat) (isDigit : Char → Bool) (start : Nat) : Reading Char := do
  let digits ← takeWhile isDigit
  if digits.isEmpty then
    throw (.invalidHexEscape start)
  expect '}' (.invalidHexEscape start)
  let code := Digits.number base digits
  if code.isValidChar then return Char.ofNat code else throw (.invalidHexEscape start)

/-- The character whose code point is spelt by the digits that were read and at most two more. -/
def readShortCode (base : Nat) (isDigit : Char → Bool) (read : List Char) : Reading Char := do
  let digits := ((← get).rest.take 2).takeWhile isDigit
  skip digits.length
  return Char.ofNat (Digits.number base (read ++ digits))

/-- The control character of the character after `\c`. -/
def readControl (start : Nat) : Reading Char := do
  match ← next? with
  | some character =>
      if ' ' ≤ character && character ≤ '~' then
        return Char.ofNat (character.toUpper.toNat ^^^ 0x40)
      else
        throw (.invalidControlEscape start)
  | none => throw (.invalidControlEscape start)

/-- The character that a backslash and `letter` stand for. -/
def readChar (letter : Char) (start : Nat) : Reading Char := do
  match letter with
  | 'a' => return '\x07'
  | 'e' => return '\x1B'
  | 'f' => return '\x0C'
  | 'n' => return '\n'
  | 'r' => return '\r'
  | 't' => return '\t'
  | '0' => readShortCode 8 Digits.isOctal []
  | 'o' =>
      if ← accept '{' then readBracedCode 8 Digits.isOctal start
      else throw (.unknownEscape start 'o')
  | 'x' =>
      if ← accept '{' then readBracedCode 16 Digits.isHex start
      else readShortCode 16 Digits.isHex []
  | 'c' => readControl start
  | _ =>
      if letter.isAlphanum then throw (.unknownEscape start letter) else return letter

/-- The name of a property after `\p` or `\P`, and whether a `^` negates it: one character, or
what stands between braces. -/
def readPropertyName (start : Nat) : Reading (List Char × Bool) := do
  if ← accept '{' then
    let negated ← accept '^'
    let name ← takeWhile (· != '}')
    expect '}' (.unknownProperty start (String.ofList name))
    return (name, negated)
  else
    return ((← next?).toList, false)

structure ClassRef where
  ranges : List CharRange
  negated : Bool

/-- The ranges of the characters that are meant. -/
def ClassRef.members (reference : ClassRef) : List CharRange :=
  if reference.negated then CharRange.complement reference.ranges else reference.ranges

def readProperty (letter : Char) (start : Nat) : Reading ClassRef := do
  let (name, negated) ← readPropertyName start
  match PropertyName.ranges? name with
  | some ranges => return ⟨ranges, (letter = 'P') != negated⟩
  | none => throw (.unknownProperty start (String.ofList name))

/-- The set of a shorthand under the flags in force. -/
def readShorthand (letter : Char) : Reading ClassRef := do
  let unicode := (← get).flags.unicode
  return ⟨NamedClass.shorthand letter unicode, NamedClass.isNegatedShorthand letter⟩

end Escape

end Backtracking
