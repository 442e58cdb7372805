import Backtracking.Chars.Set
import Backtracking.Pattern.Escape

/-!
# Bracketed classes

A class lists characters, ranges of characters and sets between brackets.  A closing bracket in
the first place is an ordinary character, and so is a hyphen that has no character on either side
of it to form a range with.
-/

namespace Backtracking

namespace Bracket

open Reading

/-- An item of a class: a character, which may begin a range, or a set. -/
inductive Item where
  | char (character : Char)
  | set (ranges : List CharRange)

/-- The item after a backslash; `start` is the position of the backslash. -/
def readEscape (start : Nat) : Reading Item := do
  match ← next? with
  | none => throw (.trailingBackslash start)
  | some letter =>
      if NamedClass.isShorthand letter then
        return .set (← Escape.readShorthand letter).members
      else if letter = 'p' || letter = 'P' then
        return .set (← Escape.readProperty letter start).members
      else if letter = 'b' then
        return .char '\x08'
      else if letter = 'E' then
        return .set []
      else if letter = 'Q' then
        let (text, length) := Scan.quoted (← get).rest
        skip length
        return .set (text.map CharRange.single)
      else if letter = '8' || letter = '9' then
        return .char letter
      else if '1' ≤ letter && letter ≤ '7' then
        return .char (← Escape.readShortCode 8 Digits.isOctal [letter])
      else
        return .char (← Escape.readChar letter start)

/-- The set of a class name after an opening bracket at position `start`. -/
def readPosix? (start : Nat) : Reading (Option Item) := do
  let cursor ← get
  match Scan.posixName? cursor.rest with
  | none => return none
  | some (name, negated, length) =>
      skip length
      match NamedClass.posix? name cursor.flags.unicode with
      | some ranges => return some (.set (if negated then CharRange.complement ranges else ranges))
      | none => throw (.unknownPosixClass start name)

/-- The item that begins with `character`, which has been read at position `start`. -/
def readItem (character : Char) (start : Nat) : Reading Item := do
  match character with
  | '[' => return (← readPosix? start).getD (.char '[')
  | '\\' => readEscape start
  | _ => return .char character

/-- The upper end of a range, if what follows the hyphen is a character. -/
def readUpperEnd? : Reading (Option Char) := do
  let start := (← get).position
  match ← next? with
  | none => return none
  | some '\\' =>
      match ← readEscape start with
      | .char character => return some character
      | .set _ => return none
  | some '[' =>
      if (Scan.posixName? (← get).rest).isSome then return none else return some '['
  | some character => return some character

/-- Whether a hyphen and something else than the end of the class stand at the front of a text. -/
def continuesRange : List Char → Bool
  | '-' :: following :: _ => following != ']'
  | _ => false

/-- The range that begins with a character read at position `start`.  A hyphen before a set is
left to be read as an item of its own. -/
def readRange (first : Char) (start : Nat) : Reading CharRange := do
  let cursor ← get
  if continuesRange cursor.rest then
    skip 1
    match ← readUpperEnd? with
    | some last =>
        if last < first then throw (.invalidRange start first last) else return ⟨first, last⟩
    | none =>
        set cursor
        return .single first
  else
    return .single first

/-- The ranges of the items up to the closing bracket.  The class was opened at `start`, and
`fuel` exceeds the number of items that the text can hold. -/
def readItems (start : Nat) : (fuel : Nat) → (isFirst : Bool) → (ranges : List CharRange) →
    Reading (List CharRange)
  | 0, _, ranges => return ranges
  | fuel + 1, isFirst, ranges => do
      let itemStart := (← get).position
      match ← next? with
      | none => throw (.unterminatedClass start)
      | some character =>
          if character = ']' && !isFirst then
            return ranges
          else
            match ← readItem character itemStart with
            | .set members => readItems start fuel false (members ++ ranges)
            | .char first => do
                let range ← readRange first itemStart
                readItems start fuel false (range :: ranges)

/-- The class whose opening bracket was read at `start`. -/
def read (start : Nat) : Reading CharSet := do
  let cursor ← get
  if (Scan.posixName? cursor.rest).isSome then
    throw (.posixClassOutsideSet start)
  let negated ← accept '^'
  let ranges ← readItems start (cursor.rest.length + 1) true []
  return CharSet.ofRanges ranges negated cursor.flags.ignoreCase

end Bracket

end Backtracking
