import Backtracking.Error
import Backtracking.Flags
import Backtracking.Text.Digits

/-!
# Reading the text of a pattern

A reader goes through the text of a pattern from left to right.  It knows what is left of the
text, how much it has read, the flags in force, and the names of the groups that were opened so
far.  The scanning functions look at the text ahead without a reader: they say what stands there
and how long it is.
-/

namespace Backtracking

/-- The place of a reader within a pattern. -/
structure Cursor where
  rest : List Char
  position : Nat := 0
  flags : Flags
  groupNames : Array (Option String) := #[]

namespace Cursor

def groupCount (cursor : Cursor) : Nat := cursor.groupNames.size

/-- The place `count` characters further on. -/
def advance (cursor : Cursor) (count : Nat) : Cursor :=
  { cursor with rest := cursor.rest.drop count, position := cursor.position + count }

end Cursor

/-- A step of reading: it moves a cursor and gives a result, or refuses the pattern. -/
abbrev Reading := StateT Cursor (Except CompileError)

namespace Reading

/-- The next character, which stays unread. -/
def peek? : Reading (Option Char) := return (← get).rest.head?

def skip (count : Nat) : Reading Unit := modify (·.advance count)

def next? : Reading (Option Char) := do
  let character? ← peek?
  skip character?.toList.length
  return character?

/-- Reads the next character if it is the one given, and tells whether it was. -/
def accept (expected : Char) : Reading Bool := do
  if (← peek?) = some expected then
    skip 1
    return true
  else
    return false

/-- Reads the character given, which has to come next. -/
def expect (expected : Char) (otherwise : CompileError) : Reading Unit := do
  if !(← accept expected) then
    throw otherwise

def takeWhile (test : Char → Bool) : Reading (List Char) := do
  let taken := (← get).rest.takeWhile test
  skip taken.length
  return taken

end Reading

/-! ## Looking at the text ahead -/

namespace Scan

/-- The greatest number that is told apart from greater ones. -/
def greatestNumber : Nat := UInt64.size - 1

/-- The number that decimal digits spell, or the greatest number. -/
def number (digits : List Char) : Nat :=
  min greatestNumber (Digits.number 10 digits)

def isNameChar (character : Char) : Bool := character.isAlphanum || character = '_'

/-- Whether a character is ignored between the items of an extended pattern. -/
def isBlank (character : Char) : Bool :=
  [' ', '\t', '\n', '\r', '\x0B', '\x0C'].contains character

/-- The length of the blanks and comments at the front of a text.  A comment goes from `#` to the
end of the line. -/
def triviaLength (inComment : Bool) : List Char → Nat
  | [] => 0
  | character :: rest =>
      if inComment then triviaLength (character != '\n') rest + 1
      else if isBlank character then triviaLength false rest + 1
      else if character = '#' then triviaLength true rest + 1
      else 0

/-- The numbers between the braces of a quantifier, and the length of it. -/
structure Bounds where
  least : Nat
  most : Option Nat
  length : Nat

/-- A quantifier in braces at the front of a text: `{n}`, `{n,}` or `{n,m}`.  Braces that hold
anything else are ordinary characters. -/
def bounds? : List Char → Option Bounds
  | '{' :: rest =>
      let low := rest.takeWhile Char.isDigit
      if low.isEmpty then none
      else
        match rest.drop low.length with
        | '}' :: _ => some ⟨number low, some (number low), low.length + 2⟩
        | ',' :: rest =>
            let high := rest.takeWhile Char.isDigit
            match rest.drop high.length with
            | '}' :: _ =>
                some ⟨number low, if high.isEmpty then none else some (number high),
                  low.length + high.length + 3⟩
            | _ => none
        | _ => none
  | _ => none

/-- The text up to `\E` or to the end, and the length of it together with the `\E`. -/
def quoted : List Char → List Char × Nat
  | [] => ([], 0)
  | '\\' :: 'E' :: _ => ([], 2)
  | character :: rest =>
      let (text, length) := quoted rest
      (character :: text, length + 1)

/-- A class name such as `:alpha:]` or `:^alpha:]` at the front of a text: the name, whether it is
negated, and its length. -/
def posixName? : List Char → Option (String × Bool × Nat)
  | ':' :: rest =>
      let negated := rest.head? = some '^'
      let rest := if negated then rest.drop 1 else rest
      let name := rest.takeWhile Char.isAlpha
      match rest.drop name.length with
      | ':' :: ']' :: _ =>
          some (String.ofList name, negated, name.length + (if negated then 4 else 3))
      | _ => none
  | _ => none

end Scan

end Backtracking
