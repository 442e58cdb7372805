/-!
# Subjects

The text that a pattern is matched against, as a sequence of characters that are reached by their
positions.
-/

namespace Backtracking

/-- A sequence of characters. -/
structure Subject where
  chars : Array Char
deriving DecidableEq

namespace Subject

def ofString (text : String) : Subject := ⟨text.toList.toArray⟩

/-- The characters whose code points are some bytes. -/
def ofLatin1 (bytes : List UInt8) : Subject :=
  ⟨(bytes.map fun byte => Char.ofNat byte.toNat).toArray⟩

def size (subject : Subject) : Nat := subject.chars.size

def isEmpty (subject : Subject) : Bool := subject.chars.isEmpty

/-- The character at a position before the end. -/
def char? (subject : Subject) (position : Nat) : Option Char := subject.chars[position]?

/-- The characters from one position to before another. -/
def slice (subject : Subject) (start stop : Nat) : List Char :=
  (subject.chars.extract start stop).toList

def substring (subject : Subject) (start stop : Nat) : String :=
  String.ofList (subject.slice start stop)

def toString (subject : Subject) : String := String.ofList subject.chars.toList

end Subject

end Backtracking
