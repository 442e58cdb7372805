import Backtracking.Chars.Set
import Backtracking.Unicode.Additions
import Backtracking.Unicode.BinaryProperty

/-!
# Classes of characters for reading and printing

The sets that decide how text is read and shown: digits, white space and the characters of words,
letters and numbers, and the characters that a listing shows by their code points.
-/

namespace Backtracking

namespace Unicode

def digits : List CharRange := GeneralCategory.union [.decimalNumber]

def spaces : List CharRange := (BinaryProperty.listed .whiteSpace).ranges

/-- The characters of words: letters and what is used like them, marks, digits, connecting
punctuation and the characters that join or separate their neighbours. -/
def wordChars : List CharRange :=
  CharRange.merge
    (BinaryProperty.alphabetic.ranges ++ (BinaryProperty.listed .joinControl).ranges ++
      GeneralCategory.union (.decimalNumber :: .connectorPunctuation :: GeneralCategory.marks))

private def spaceSet : CharSet := CharSet.ofRanges spaces false false

private def wordSet : CharSet := CharSet.ofRanges wordChars false false

private def alphanumericSet : CharSet :=
  CharSet.ofRanges
    (BinaryProperty.alphabetic.ranges ++ GeneralCategory.union GeneralCategory.numbers ++
      Additions.alphanumeric) false false

private def extendingSet : CharSet :=
  CharSet.ofRanges (BinaryProperty.graphemeExtend.ranges ++ Additions.extending) false false

private def unprintableSet : CharSet :=
  CharSet.ofRanges
    (CharRange.difference GeneralCategory.others Additions.assigned ++
      GeneralCategory.union GeneralCategory.separators ++
      (BinaryProperty.listed .defaultIgnorableCodePoint).ranges) false false

def isSpace (character : Char) : Bool := spaceSet.contains character

def isWordChar (character : Char) : Bool := wordSet.contains character

/-- Whether a character is a letter, is used like one or is a number. -/
def isAlphanumeric (character : Char) : Bool := alphanumericSet.contains character

/-- Whether a character extends the one before it, as combining marks do. -/
def isExtending (character : Char) : Bool := extendingSet.contains character

/-- Whether a character has a visible form of its own.  Of the separators only the blank has, and
the characters that a display may ignore have none. -/
def isPrintable (character : Char) : Bool :=
  character == ' ' || !unprintableSet.contains character

end Unicode

end Backtracking
