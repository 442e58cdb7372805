/-!
# Ranges of characters

A list of closed ranges describes a set of characters: those that some range covers.  The ranges
may come in any order and may overlap.  Two operations bring such a list into a normal form:
`merge` sorts it and joins the ranges that overlap or touch, and `complement` describes the
characters that no range covers.
-/

namespace Backtracking

/-- A closed range of characters, from `first` to `last`. -/
structure CharRange where
  first : Char
  last : Char
deriving DecidableEq

namespace CharRange

def maxChar : Char := Char.ofNat 0x10FFFF

def single (character : Char) : CharRange := ⟨character, character⟩

def all : List CharRange := [⟨'\x00', maxChar⟩]

/-- The characters below 80 in hexadecimal. -/
def ascii : List CharRange := [⟨'\x00', '\x7F'⟩]

def contains (range : CharRange) (character : Char) : Bool :=
  range.first ≤ character && character ≤ range.last

/-- Whether some range of a list contains a character. -/
def covers (ranges : List CharRange) (character : Char) : Bool :=
  ranges.any (·.contains character)

/-- Ranges are ordered by their first characters, and by their last ones when those agree. -/
def precedes (left right : CharRange) : Bool :=
  left.first < right.first || (left.first == right.first && left.last ≤ right.last)

def sort (ranges : List CharRange) : List CharRange :=
  ranges.mergeSort precedes

/-- The character after a character.  The code points from D800 to DFFF are not characters. -/
def next? (character : Char) : Option Char :=
  if character = '\uD7FF' then some '\uE000'
  else if character = maxChar then none
  else some (Char.ofNat (character.toNat + 1))

def previous? (character : Char) : Option Char :=
  if character = '\uE000' then some '\uD7FF'
  else if character = '\x00' then none
  else some (Char.ofNat (character.toNat - 1))

/-- The greater of two characters. -/
def later (left right : Char) : Char := if left < right then right else left

/-- Joins the ranges of an ascending list that overlap `current` or begin right after it. -/
def mergeInto (current : CharRange) : List CharRange → List CharRange
  | [] => [current]
  | range :: rest =>
      if range.first.toNat ≤ current.last.toNat + 1 then
        mergeInto ⟨current.first, later current.last range.last⟩ rest
      else
        current :: mergeInto range rest

/-- The set of a list of ranges as ascending ranges with gaps between them. -/
def merge (ranges : List CharRange) : List CharRange :=
  match sort ranges with
  | [] => []
  | range :: rest => mergeInto range rest

/-- The characters from `start?` on that no range of an ascending list covers. -/
def gapsFrom (start? : Option Char) : List CharRange → List CharRange
  | [] => (start?.map (⟨·, maxChar⟩)).toList
  | range :: rest =>
      match start? with
      | none => []
      | some start =>
          let gap :=
            if start < range.first then (previous? range.first).map (⟨start, ·⟩) else none
          let resume := if start ≤ range.last then next? range.last else some start
          gap.toList ++ gapsFrom resume rest

def complement (ranges : List CharRange) : List CharRange :=
  gapsFrom (some '\x00') (sort ranges)

def difference (ranges others : List CharRange) : List CharRange :=
  complement (complement ranges ++ others)

end CharRange

end Backtracking
