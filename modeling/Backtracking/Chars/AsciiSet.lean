import Backtracking.Chars.Range

/-!
# Sets of ASCII characters

A set of ASCII characters is a table of 128 truth values, one for each character.
-/

namespace Backtracking

/-- A set of characters below 80 in hexadecimal. -/
structure AsciiSet where
  members : Vector Bool 128
deriving DecidableEq

namespace AsciiSet

/-- The ASCII characters that satisfy a test. -/
def ofTest (test : Char → Bool) : AsciiSet :=
  ⟨Vector.ofFn fun code => test (Char.ofNat code)⟩

def empty : AsciiSet := ofTest fun _ => false

/-- Whether a character is a member; no other character than an ASCII one is. -/
def contains (set : AsciiSet) (character : Char) : Bool :=
  if ascii : character.toNat < 128 then set.members[character.toNat] else false

def union (left right : AsciiSet) : AsciiSet :=
  ⟨Vector.zipWith (· || ·) left.members right.members⟩

/-- The members in ascending order. -/
def toList (set : AsciiSet) : List Char :=
  ((List.range 128).map Char.ofNat).filter set.contains

/-- The members as ascending ranges with gaps between them. -/
def ranges (set : AsciiSet) : List CharRange :=
  CharRange.merge (set.toList.map CharRange.single)

end AsciiSet

end Backtracking
