import Backtracking.Pattern.Basic
import Backtracking.Subject
import Backtracking.Unicode.CharacterClasses

/-!
# Conditions

What can be asked about a position of a subject: which characters stand there, whether a text
follows, and whether an assertion holds.
-/

namespace Backtracking

def sameChar (ignoresCase : Bool) (left right : Char) : Bool :=
  if ignoresCase then equalIgnoringCase left right else left == right

namespace Subject

def acceptsAt (subject : Subject) (matcher : CharMatcher) (position : Nat) : Bool :=
  (subject.char? position).any matcher.accepts

def textAt (subject : Subject) (ignoresCase : Bool) : List Char → (position : Nat) → Bool
  | [], _ => true
  | expected :: rest, position =>
      (subject.char? position).any (sameChar ignoresCase · expected) &&
        textAt subject ignoresCase rest (position + 1)

/-- The number of characters from a position on, at most `room` and added to `count`, that a
matcher accepts. -/
def countAccepted (subject : Subject) (matcher : CharMatcher) (position : Nat) :
    (room count : Nat) → Nat
  | 0, count => count
  | room + 1, count =>
      if subject.acceptsAt matcher (position + count) then
        countAccepted subject matcher position room (count + 1)
      else
        count

def wordCharAt (subject : Subject) (unicode : Bool) (position : Nat) : Bool :=
  (subject.char? position).any fun character =>
    if unicode then Unicode.isWordChar character else character.isAlphanum || character == '_'

def atWordBoundary (subject : Subject) (unicode : Bool) (position : Nat) : Bool :=
  (position > 0 && subject.wordCharAt unicode (position - 1)) !=
    subject.wordCharAt unicode position

def newlineAt (subject : Subject) (position : Nat) : Bool :=
  subject.char? position == some '\n'

end Subject

/-- What assertions are about: the subject, where the search began, and where the match before this
one ended. -/
structure Scene where
  subject : Subject
  searchStart : Nat
  previousEnd : Nat

namespace Scene

def holds (scene : Scene) (assertion : Assertion) (position : Nat) : Bool :=
  let subject := scene.subject
  match assertion with
  | .startOfInput => position == 0
  | .startOfLine => position == 0 || (position < subject.size && subject.newlineAt (position - 1))
  | .endOfInput => position == subject.size
  | .endOfInputOrNewline =>
      position == subject.size || (position + 1 == subject.size && subject.newlineAt position)
  | .endOfLine => position == subject.size || subject.newlineAt position
  | .searchOrigin => position == scene.searchStart
  | .previousMatchEnd => position == scene.previousEnd
  | .wordBoundary unicode => subject.atWordBoundary unicode position
  | .notWordBoundary unicode => !subject.atWordBoundary unicode position

end Scene

end Backtracking
